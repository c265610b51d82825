import ChatChain.Dict
import ChatChain.Grammar
import ChatChain.Text.Cut

/-!
# Invocations

An invocation is one command as the user typed it, before anything is resolved.  A word begins an
invocation when it is the command mark followed by a name, and everything up to the next such
word belongs to it.  Reading never fails: a mark that no name follows is plain text.

* `commandHead?` recognises the word that begins an invocation.
* `argumentKey?` recognises the word that begins a named argument.
* `Invocation.parse` finds the invocations of a text in order.
-/

namespace ChatChain

/-- One command as typed. -/
structure Invocation where
  name : String
  /-- The scope written after the name; never empty. -/
  entity? : Option String := none
  /-- The text in front of the first named argument. -/
  positional : String := ""
  /-- The text of every named argument. -/
  named : Dict String := {}
  deriving DecidableEq, Repr, Inhabited

/-- The name and scope of an invocation. -/
structure CommandHead where
  name : String
  entity? : Option String
  deriving DecidableEq, Repr

namespace CommandHead

/-- Reads the part of a word behind the command mark.  The name ends at the first separator; an
empty scope counts as none. -/
def ofChars? (cs : List Char) : Option CommandHead :=
  let name := cs.takeWhile (· != entitySeparator)
  let scope := (cs.dropWhile (· != entitySeparator)).drop 1
  if isCommandNameChars name then
    some {
      name := String.ofList name
      entity? := if scope.isEmpty then none else some (String.ofList scope) }
  else
    none

end CommandHead

namespace Grammar

/-- The invocation that begins at the front of `cs`, with the length of its word. -/
def commandHead? (g : Grammar) : List Char → Option (CommandHead × Nat)
  | [] => none
  | c :: cs =>
    if c = g.commandMark then
      (CommandHead.ofChars? (Text.word cs)).map fun head => (head, (Text.word cs).length + 1)
    else
      none

/-- The named argument that begins at the front of `cs`, with the length of its word. -/
def argumentKey? (g : Grammar) (cs : List Char) : Option (String × Nat) :=
  match Text.word cs with
  | [] => none
  | c :: key =>
    if c = g.argumentMark ∧ isArgumentKeyChars key then some (String.ofList key, key.length + 1)
    else none

end Grammar

namespace Invocation

/-- The invocation with the given head and the text behind it.  Of two named arguments with one
key the later one counts. -/
def ofRegion (g : Grammar) (head : CommandHead) (region : List Char) : Invocation :=
  let parts := Text.cutAtMarks g.argumentKey? true region
  { name := head.name
    entity? := head.entity?
    positional := String.ofList (Text.trimChars parts.1)
    named := Dict.ofList (parts.2.map fun part => (part.1, String.ofList (Text.trimChars part.2))) }

/-- The invocations of a text given as characters. -/
def parseChars (g : Grammar) (cs : List Char) : List Invocation :=
  (Text.cutAtMarks g.commandHead? true cs).2.map fun part => ofRegion g part.1 part.2

/-- The invocations of a text, in order. -/
def parse (g : Grammar) (text : String) : List Invocation :=
  parseChars g text.toList

end Invocation

end ChatChain
