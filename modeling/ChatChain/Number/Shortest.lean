import ChatChain.Number.Binary64

/-!
# The shortest decimal of a double

A finite double is written with the fewest digits that read back as it, and of those with the
ones nearest to it.  `hit?` looks on the grid of decimals with a given number of digits; the first
grid with a hit gives the digits.  The text is positional, without an exponent and without a point
behind a whole number.
-/

namespace ChatChain.Number

namespace Binary64

/-- A positive real `value / unit` between the ends of the interval that rounds to it.  All four
are natural numbers over the one denominator `unit`. -/
structure Neighbourhood where
  low : Nat
  value : Nat
  high : Nat
  unit : Nat
  /-- Whether the ends belong to the interval. -/
  closed : Bool

/-- The interval of reals that round to `significand * 2 ^ exponent`.  Below the least significand
of a binade the next number is only half as far. -/
def neighbourhood (significand : Nat) (exponent : Int) : Neighbourhood :=
  let factor := Nat.pow 2 (exponent - 2).toNat
  let narrow := significand * 2 = significandLimit ∧ leastExponent < exponent
  { low := (4 * significand - if narrow then 1 else 2) * factor
    value := 4 * significand * factor
    high := (4 * significand + 2) * factor
    unit := Nat.pow 2 (2 - exponent).toNat
    closed := significand % 2 = 0 }

namespace Neighbourhood

/-- How many digits stand in front of the point; zeros behind it count negative. -/
def places (n : Neighbourhood) : Int :=
  let estimate : Int := (digits n.value).length - (digits n.unit).length
  if n.unit * Nat.pow 10 estimate.toNat ≤ n.value * Nat.pow 10 (-estimate).toNat then estimate + 1
  else estimate

/-- The coefficient of the decimal nearest to the value among those with `count` digits that lie
in the interval.  Of two equally near ones it is the larger. -/
def hit? (n : Neighbourhood) (count : Nat) : Option Nat :=
  let exponent := n.places - count
  let step := n.unit * Nat.pow 10 exponent.toNat
  let shift := Nat.pow 10 (-exponent).toNat
  let below := n.value * shift / step
  let inside (k : Nat) : Bool :=
    if n.closed then n.low * shift ≤ k * step && k * step ≤ n.high * shift
    else n.low * shift < k * step && k * step < n.high * shift
  let above := below + 1
  match inside below, inside above with
  | true, true =>
    if n.value * shift - below * step < above * step - n.value * shift then some below
    else some above
  | true, false => some below
  | false, true => some above
  | false, false => none

/-- The first hit with `count` digits or more, with its exponent.  Seventeen digits always
suffice. -/
def shortestFrom (n : Neighbourhood) (count : Nat) : Nat → Nat × Int
  | 0 => (0, 0)
  | fuel + 1 =>
    match n.hit? count with
    | some coefficient => (coefficient, n.places - count)
    | none => shortestFrom n (count + 1) fuel

/-- The shortest decimal of the interval, as a coefficient and an exponent. -/
def shortest (n : Neighbourhood) : Nat × Int :=
  n.shortestFrom 1 17

end Neighbourhood

/-- Takes the zeros off the end of a list of digits and counts them. -/
def dropTrailingZeros (cs : List Char) : List Char × Nat :=
  let kept := (cs.reverse.dropWhile (· == '0')).reverse
  (kept, cs.length - kept.length)

/-- Writes `coefficient * 10 ^ exponent` without an exponent. -/
def positional (coefficient : Nat) (exponent : Int) : List Char :=
  let (cs, dropped) := dropTrailingZeros (digits coefficient)
  let exponent := exponent + dropped
  if 0 ≤ exponent then cs ++ List.replicate exponent.toNat '0'
  else
    let behind := (-exponent).toNat
    if behind < cs.length then
      cs.take (cs.length - behind) ++ '.' :: cs.drop (cs.length - behind)
    else
      '0' :: '.' :: (List.replicate (behind - cs.length) '0' ++ cs)

/-- The characters of a double. -/
def writeChars : Binary64 → List Char
  | .nan => "NaN".toList
  | .infinite negative => (if negative then ['-'] else []) ++ "inf".toList
  | .finite negative significand exponent =>
    let magnitude :=
      if significand = 0 then ['0']
      else
        let (coefficient, places) := (neighbourhood significand exponent).shortest
        positional coefficient places
    (if negative then ['-'] else []) ++ magnitude

/-- Writes a double. -/
def write (x : Binary64) : String :=
  String.ofList x.writeChars

end Binary64

end ChatChain.Number
