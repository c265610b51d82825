/-!
# Hexadecimal bytes

Bytes written as two lower-case hexadecimal digits each.
-/

namespace ChatChain.Digest

/-- The character of a digit below sixteen. -/
def hexChar (d : Nat) : Char :=
  if d < 10 then Char.ofNat (48 + d) else Char.ofNat (87 + d)

/-- The two digits of a byte. -/
def byteChars (b : UInt8) : List Char :=
  [hexChar (b.toNat / 16), hexChar (b.toNat % 16)]

/-- The digits of a sequence of bytes. -/
def hex (bytes : ByteArray) : String :=
  String.ofList (bytes.toList.flatMap byteChars)

/-- The value of a hexadecimal digit. -/
def hexValue? (c : Char) : Option Nat :=
  if '0' ≤ c ∧ c ≤ '9' then some (c.toNat - 48)
  else if 'a' ≤ c ∧ c ≤ 'f' then some (c.toNat - 87)
  else if 'A' ≤ c ∧ c ≤ 'F' then some (c.toNat - 55)
  else none

end ChatChain.Digest
