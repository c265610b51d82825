import ChatChain.Builtin.Basic
import ChatChain.Text.Casing

/-!
# Commands on text

`echo`, `upper`, `reverse`, `case`, `repeat` and `length`.
-/

namespace ChatChain.Builtin

/-- A task that turns the bound text into another one. -/
def textTask (f : String → String) : Task := fun _ b _ => do
  return .text (f (← boundText b "text"))

/-- `echo`: replies with its text.  Links in it are not embedded. -/
def echoCommand : Command where
  definition :=
    { name := "echo"
      description := "Replies with the given text."
      arguments := [textArgument]
      defaultKey? := some "text"
      input := .nothing
      output := .text }
  task _ b _ := do
    return { TaskOutput.text (← boundText b "text") with suppressEmbeds := true }

/-- `upper`: its text in upper case. -/
def upperCommand : Command where
  definition :=
    { name := "upper"
      description := "Upper-cases text."
      arguments := [textArgument]
      defaultKey? := some "text"
      input := .text
      output := .text }
  task := textTask Text.upperText

/-- The text backwards, character by character. -/
def reverseText (text : String) : String :=
  String.ofList text.toList.reverse

/-- `reverse`: its text backwards. -/
def reverseCommand : Command where
  definition :=
    { name := "reverse"
      description := "Reverses text character by character."
      arguments := [textArgument]
      defaultKey? := some "text"
      input := .text
      output := .text }
  task := textTask reverseText

/-- The modes of `case`. -/
def caseModes : List String := ["upper", "lower", "title"]

/-- The text in the case that a mode names; any other mode means upper case. -/
def changeCase (mode text : String) : String :=
  if mode = "lower" then Text.lowerText text
  else if mode = "title" then Text.titleText text
  else Text.upperText text

/-- `case`: its text in another case. -/
def caseCommand : Command where
  definition :=
    { name := "case"
      description := "Changes the case of text."
      arguments := [
        textArgument,
        { key := "mode"
          kind := .choice
          default? := some (.choice 0 "upper")
          choices := caseModes
          description := "upper, lower or title" }]
      defaultKey? := some "text"
      input := .text
      output := .text }
  task _ b _ := do
    return .text (changeCase ((b.choice? "mode").getD "upper") (← boundText b "text"))

/-- Copies of a text with a separator between them. -/
def repeatText (times : Nat) (separator text : String) : String :=
  separator.intercalate (List.replicate times text)

/-- The most copies that `repeat` makes. -/
def maxCopies : Nat := 100

/-- `repeat`: copies of its text. -/
def repeatCommand : Command where
  definition :=
    { name := "repeat"
      description := "Repeats text."
      arguments := [
        textArgument,
        { key := "times"
          kind := .integer
          default? := some (.integer 2)
          description := "number of copies, 1 to 100" },
        { key := "separator", kind := .text, default? := some (.text " ") }]
      defaultKey? := some "text"
      input := .text
      output := .text }
  task _ b _ := do
    let text ← boundText b "text"
    let times ← requireRange "times" 1 maxCopies ((b.whole? "times").getD 2)
    return .text (repeatText times ((b.text? "separator").getD " ") text)

/-- `length`: the number of characters of its text. -/
def lengthCommand : Command where
  definition :=
    { name := "length"
      description := "Counts the characters of text."
      arguments := [textArgument]
      defaultKey? := some "text"
      input := .text
      output := .integer }
  task _ b _ := do
    let text ← boundText b "text"
    match Value.int32? text.length with
    | some count => return { data := .value (.integer count) }
    | none => .fail (.forUsers "That text is too long to count.")

end ChatChain.Builtin
