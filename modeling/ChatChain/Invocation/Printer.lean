import ChatChain.Invocation.Words

/-!
# Printing invocations

The canonical text of invocations, and which invocations have one.

* `Invocation.print` joins the parts of an invocation with single spaces, and `printAll` does the
  same for several invocations.
* `Invocation.WellFormed` says that every part can stand where it is printed.
-/

namespace ChatChain

namespace Invocation

/-- The word that begins an invocation. -/
def headWord (g : Grammar) (i : Invocation) : String :=
  String.singleton g.commandMark ++ i.name ++
    (i.entity?.map fun id => String.singleton entitySeparator ++ id).getD ""

/-- A text as a part, unless there is none. -/
def textPart (text : String) : List String :=
  if text = "" then [] else [text]

/-- The parts of a named argument. -/
def argumentParts (g : Grammar) (argument : String × String) : List String :=
  (String.singleton g.argumentMark ++ argument.1) :: textPart argument.2

/-- The parts of an invocation. -/
def parts (g : Grammar) (i : Invocation) : List String :=
  i.headWord g :: textPart i.positional ++ i.named.entries.flatMap (argumentParts g)

/-- The text of an invocation. -/
def print (g : Grammar) (i : Invocation) : String :=
  " ".intercalate (i.parts g)

/-- The text of several invocations. -/
def printAll (g : Grammar) (is : List Invocation) : String :=
  " ".intercalate (is.map (print g))

/-- Whether a text reads as itself inside an invocation: no blanks at its ends, and no word of it
begins an invocation or a named argument. -/
def IsPlain (g : Grammar) (text : String) : Prop :=
  Text.trimChars text.toList = text.toList ∧
    ∀ s ∈ Text.stretches text.toList, g.commandWord? s = none ∧ g.argumentWord? s = none

instance (g : Grammar) (text : String) : Decidable (IsPlain g text) :=
  inferInstanceAs (Decidable (_ ∧ _))

/-- Whether a text can be a scope. -/
def IsScope (id : String) : Prop :=
  id ≠ "" ∧ ∀ c ∈ id.toList, Text.isBlank c = false

instance (id : String) : Decidable (IsScope id) :=
  inferInstanceAs (Decidable (_ ∧ _))

/-- What an invocation must satisfy so that its text stands for it. -/
structure WellFormed (g : Grammar) (i : Invocation) : Prop where
  name : isCommandName i.name = true
  entity : ∀ id, i.entity? = some id → IsScope id
  positional : IsPlain g i.positional
  keys : ∀ e ∈ i.named.entries, isArgumentKey e.1 = true
  values : ∀ e ∈ i.named.entries, IsPlain g e.2

end Invocation

end ChatChain
