import ChatChain.Number.Decimal
import ChatChain.Number.Rounding

/-!
# Double-precision numbers

The numbers of the IEEE 754 format binary64, as exact values: a finite one is a significand times
a power of two.  Every finite number has one representation, so equality of representations is
equality of numbers, the two zeros kept apart.

* `ofRatio` rounds a quotient of natural numbers to the nearest number, ties to the even
  significand.
* `ofInt` is the rounding of an integer.
* `read?` reads a decimal literal.
-/

namespace ChatChain.Number

/-- A binary64 number.  In a finite one the significand has 53 bits, or fewer when the exponent is
the least one. -/
inductive Binary64 where
  | nan
  | infinite (negative : Bool)
  | finite (negative : Bool) (significand : Nat) (exponent : Int)
  deriving DecidableEq, Repr

namespace Binary64

/-- The exponent of the numbers nearest to zero. -/
def leastExponent : Int := -1074

/-- The exponent of the largest numbers. -/
def greatestExponent : Int := 971

/-- One more than the largest significand. -/
def significandLimit : Nat := Nat.pow 2 53

/-- Whether the number is neither infinite nor a NaN. -/
def isFinite : Binary64 → Bool
  | .finite .. => true
  | _ => false

/-- The quotient `num / den` divided by `2 ^ exponent`, again as a quotient. -/
def scaled (num den : Nat) (exponent : Int) : Nat × Nat :=
  (num * Nat.pow 2 (-exponent).toNat, den * Nat.pow 2 exponent.toNat)

/-- The exponent that a quotient of positive numbers has in the format, before rounding. -/
def exponentOf (num den : Nat) : Int :=
  let estimate : Int := (num.log2 : Int) - (den.log2 : Int)
  let reduced := scaled num den estimate
  let magnitude := if reduced.2 ≤ reduced.1 then estimate else estimate - 1
  max (magnitude - 52) leastExponent

/-- The number nearest to the quotient `num / den`, with the given sign. -/
def ofRatio (negative : Bool) (num den : Nat) : Binary64 :=
  if num = 0 then .finite negative 0 leastExponent
  else
    let exponent := exponentOf num den
    let reduced := scaled num den exponent
    let rounded := roundDiv reduced.1 reduced.2
    let (significand, exponent) :=
      if rounded = significandLimit then (rounded / 2, exponent + 1) else (rounded, exponent)
    if greatestExponent < exponent then .infinite negative
    else .finite negative significand exponent

/-- The number nearest to an integer.  The integer zero is the positive zero. -/
def ofInt (i : Int) : Binary64 :=
  ofRatio (i < 0) i.natAbs 1

/-- The number nearest to `coefficient * 10 ^ exponent`.  Beyond 400 places in front of the point
every such number is infinite, and as far behind it every one is zero. -/
def ofDecimal (negative : Bool) (coefficient : Nat) (exponent : Int) : Binary64 :=
  let places : Int := (digits coefficient).length + exponent
  if coefficient = 0 ∨ places < -400 then .finite negative 0 leastExponent
  else if 400 < places then .infinite negative
  else ofRatio negative (coefficient * Nat.pow 10 exponent.toNat) (Nat.pow 10 (-exponent).toNat)

/-! ## Reading a literal -/

/-- Splits the digits off the front. -/
def spanDigits (cs : List Char) : List Char × List Char :=
  (cs.takeWhile Char.isDigit, cs.dropWhile Char.isDigit)

/-- Reads the digits of a literal: digits, at most one point, and at least one digit in all.  The
answer is the coefficient, the number of digits behind the point, and the rest. -/
def readCoefficient? (cs : List Char) : Option (Nat × Nat × List Char) :=
  let (whole, rest) := spanDigits cs
  let (fraction, rest) :=
    match rest with
    | '.' :: rest => spanDigits rest
    | rest => ([], rest)
  if whole.isEmpty && fraction.isEmpty then none
  else some (ofDigits (whole ++ fraction), fraction.length, rest)

/-- Reads the exponent of a literal up to the end; no exponent is the exponent zero. -/
def readExponent? : List Char → Option Int
  | [] => some 0
  | c :: cs => if c = 'e' ∨ c = 'E' then signed? cs else none

/-- Reads a literal without a sign. -/
def readMagnitude? (negative : Bool) (cs : List Char) : Option Binary64 :=
  let lower := cs.map Char.toLower
  if lower = "nan".toList then some .nan
  else if lower = "inf".toList ∨ lower = "infinity".toList then some (.infinite negative)
  else
    match readCoefficient? cs with
    | none => none
    | some (coefficient, places, rest) =>
      (readExponent? rest).map fun exponent => ofDecimal negative coefficient (exponent - places)

/-- Reads a literal: a sign, then digits with an optional point and exponent, or the name of a
value that is not finite in any case. -/
def read? : List Char → Option Binary64
  | '+' :: cs => readMagnitude? false cs
  | '-' :: cs => readMagnitude? true cs
  | cs => readMagnitude? false cs

end Binary64

end ChatChain.Number
