import ChatChain.Builtin.Basic

/-!
# Commands on numbers

`add` adds a long amount to a whole number.  A sum that is no whole number is refused, never
wrapped around.
-/

namespace ChatChain.Builtin

/-- The sum, if every number on the way to it is in range. -/
def addWithin? (value amount : Int) : Option Int32 :=
  (Value.int64? (value + amount)).bind fun sum => Value.int32? sum.toInt

/-- `add`: adds an amount, which is one unless it is given. -/
def addCommand : Command where
  definition :=
    { name := "add"
      description := "Adds an amount to a whole number."
      arguments := [
        { key := "value", kind := .integer, required := true },
        { key := "amount", kind := .long, default? := some (.long 1) }]
      defaultKey? := some "value"
      input := .integer
      output := .integer }
  task _ b _ := do
    let value ← boundWhole b "value"
    match addWithin? value ((b.whole? "amount").getD 1) with
    | some sum => return { data := .value (.integer sum) }
    | none => .fail (.forUsers "The result does not fit in a whole number.")

end ChatChain.Builtin
