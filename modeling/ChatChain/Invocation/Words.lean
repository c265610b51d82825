import ChatChain.Invocation
import ChatChain.Text.Stretch

/-!
# Invocations word by word

The grammar of commands, read off the words of a text: a word begins an invocation when it is the
command mark, a name and perhaps a scope, and inside an invocation a word begins a named argument
when it is the argument mark and a key.  `Invocation.ofWords` reads a text by these rules alone.
-/

namespace ChatChain

namespace Grammar

/-- The head of the invocation that a word begins. -/
def commandWord? (g : Grammar) : List Char → Option CommandHead
  | [] => none
  | c :: cs => if c = g.commandMark then CommandHead.ofChars? cs else none

/-- The key of the named argument that a word begins. -/
def argumentWord? (g : Grammar) : List Char → Option String
  | [] => none
  | c :: key =>
    if c = g.argumentMark ∧ isArgumentKeyChars key then some (String.ofList key) else none

end Grammar

namespace Invocation

/-- The invocation with the given head and the words behind it. -/
def ofHead (g : Grammar) (head : CommandHead) (region : List Char) : Invocation :=
  let parts := Text.cutAtWords g.argumentWord? (Text.stretches region)
  { name := head.name
    entity? := head.entity?
    positional := String.ofList (Text.trimChars parts.1)
    named := Dict.ofList (parts.2.map fun part => (part.1, String.ofList (Text.trimChars part.2))) }

/-- The invocations of a text, word by word. -/
def ofWords (g : Grammar) (text : String) : List Invocation :=
  (Text.cutAtWords g.commandWord? (Text.stretches text.toList)).2.map fun part =>
    ofHead g part.1 part.2

end Invocation

end ChatChain
