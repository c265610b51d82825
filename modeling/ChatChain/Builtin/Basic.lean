import ChatChain.Registry

/-!
# What the built-in commands share

The argument that most of them work on, and access to bound arguments inside a task.
-/

namespace ChatChain.Builtin

open Number

/-- The required text that a command works on. -/
def textArgument : Argument :=
  { key := "text", kind := .text, required := true, description := "text to work on" }

/-- The failure of a task whose argument is open. -/
def unbound (key : String) : Failure :=
  .internal s!"argument '{key}' is not bound"

/-- The text bound to a key. -/
def boundText (b : Binding) (key : String) : Routine String :=
  match b.text? key with
  | some text => .done text
  | none => .fail (unbound key)

/-- The whole number bound to a key. -/
def boundWhole (b : Binding) (key : String) : Routine Int :=
  match b.whole? key with
  | some number => .done number
  | none => .fail (unbound key)

/-- Goes on only with a number in the given range, and tells the user otherwise. -/
def requireRange (key : String) (low high : Nat) (number : Int) : Routine Nat :=
  if (low : Int) ≤ number ∧ number ≤ high then .done number.toNat
  else .fail (.forUsers s!"`{key}` must be between {writeNat low} and {writeNat high}.")

theorem requireRange_natCast (key : String) {low high n : Nat} (hlow : low ≤ n) (hhigh : n ≤ high) :
    requireRange key low high n = .done n := by
  unfold requireRange
  rw [if_pos (by omega), Int.toNat_natCast]

end ChatChain.Builtin
