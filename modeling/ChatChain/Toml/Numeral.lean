import ChatChain.Toml.Item
import ChatChain.Toml.Quoted

/-!
# Numbers

Digits may be grouped by single underscores, each between two digits.  A decimal integer has no
leading zeros; hexadecimal, octal and binary ones carry a mark and no sign.  Integers are those of
64 bits.  A float has a fraction, an exponent or both, and a positive one must not be too large.
-/

namespace ChatChain.Toml

/-- The largest integer. -/
def greatestInteger : Int := (Nat.pow 2 63 : Nat) - 1

/-- The least integer. -/
def leastInteger : Int := -(Nat.pow 2 63 : Nat)

namespace Reader

/-- Grouped digits of a class, without the underscores. -/
def digitGroups (isDigit : Char → Bool) : Reader (List Char) := do
  let first ← span1 isDigit
  let more ← many (char '_' *> span1 isDigit)
  return first ++ more.flatten

/-- The digits of a decimal integer: a zero, or digits that do not begin with one. -/
def wholeDigits : Reader (List Char) := do
  if (← peek?) == some '0' then return [← char '0'] else digitGroups Char.isDigit

/-- A sign, which may be missing. -/
def sign : Reader (List Char) := do
  return (← optional (satisfying fun c => c == '+' || c == '-')).toList

/-- A decimal integer. -/
def decimalInteger : Reader Int := do
  let cs := (← sign) ++ (← wholeDigits)
  ofOption (Number.signed? cs)

/-- The number that digits write to a base. -/
def positional? (base : Nat) (cs : List Char) : Option Nat :=
  cs.foldlM (fun n c => (Digest.hexValue? c).map fun d => base * n + d) 0

/-- Whether a character is a digit to a base up to sixteen. -/
def isDigitTo (base : Nat) (c : Char) : Bool :=
  (Digest.hexValue? c).any (· < base)

/-- An integer with a mark to a base. -/
def markedInteger (mark : Char) (base : Nat) : Reader Int := do
  chars ['0', mark]
  let digits ← digitGroups (isDigitTo base)
  return (← ofOption (positional? base digits) : Nat)

/-- An integer. -/
def integer : Reader Int := do
  let i ← markedInteger 'x' 16 <|> markedInteger 'o' 8 <|> markedInteger 'b' 2 <|> decimalInteger
  if leastInteger ≤ i ∧ i ≤ greatestInteger then return i else failure

/-- An exponent with its letter. -/
def exponent : Reader (List Char) := do
  let _ ← satisfying fun c => c == 'e' || c == 'E'
  return ['e'] ++ (← sign) ++ (← digitGroups Char.isDigit)

/-- A fraction with its point. -/
def fraction : Reader (List Char) := do
  let _ ← char '.'
  return ['.'] ++ (← digitGroups Char.isDigit)

/-- A float written with digits. -/
def digitFloat : Reader Number.Binary64 := do
  let whole := (← sign) ++ (← wholeDigits)
  let rest ← exponent <|> (do return (← fraction) ++ ((← optional exponent).getD []))
  let x ← ofOption (Number.Binary64.read? (whole ++ rest))
  if x = .infinite false then failure else return x

/-- A float written with a word. -/
def wordFloat : Reader Number.Binary64 := do
  let first ← sign
  (do chars ['i', 'n', 'f']; return .infinite (first == ['-'])) <|>
    (do chars ['n', 'a', 'n']; return .nan)

/-- A float. -/
def float : Reader Number.Binary64 :=
  digitFloat <|> wordFloat

end Reader

end ChatChain.Toml
