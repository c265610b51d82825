/-!
# Tables over code points

Character properties are lists of closed ranges of code points, and case mappings are lists of
runs.  This module holds the look-ups that every such table shares.
-/

namespace ChatChain.Text

/-- Whether the code point of `c` lies in one of the closed `ranges`. -/
def inRanges (ranges : List (Nat × Nat)) (c : Char) : Bool :=
  ranges.any fun range => range.1 ≤ c.toNat && c.toNat ≤ range.2

/-- A run of characters that a case mapping shifts by one distance: every `step`-th code point
from `first` to `last`, where `first` goes to `image`. -/
structure CaseRun where
  first : Nat
  last : Nat
  step : Nat
  image : Nat

/-- The image of the code point `n` under the run, if the run holds it. -/
def CaseRun.shift? (run : CaseRun) (n : Nat) : Option Nat :=
  if run.first ≤ n ∧ n ≤ run.last ∧ (n - run.first) % run.step = 0 then
    some (run.image + (n - run.first))
  else
    none

/-- Looks `c` up in a case mapping.  A character in neither table stays as it is. -/
def mapCase (runs : List CaseRun) (expansions : List (Nat × List Nat)) (c : Char) : List Char :=
  match expansions.lookup c.toNat with
  | some image => image.map Char.ofNat
  | none =>
    match runs.findSome? (·.shift? c.toNat) with
    | some image => [Char.ofNat image]
    | none => [c]

end ChatChain.Text
