import ChatChain.Text.Alphanumeric

/-!
# The grammar of commands

Two characters configure the grammar: one marks a command, the other a named argument.  This
module also says which names a command and an argument may have.
-/

namespace ChatChain

/-- The marker characters of the command grammar. -/
structure Grammar where
  /-- Stands before the name of a command. -/
  commandMark : Char := '%'
  /-- Stands before the key of a named argument. -/
  argumentMark : Char := '-'
  deriving DecidableEq, Repr, Inhabited

/-- Separates the name of a command from the entity that scopes it. -/
def entitySeparator : Char := ':'

/-- Whether `cs` is a letter followed by characters that are alphanumeric or satisfy `extra`. -/
def isIdentifier (extra : Char → Bool) : List Char → Bool
  | [] => false
  | c :: cs => Text.isAlphabetic c && cs.all fun d => Text.isAlphanumeric d || extra d

/-- Whether `cs` is a letter followed by letters, digits and underscores. -/
def isCommandNameChars (cs : List Char) : Bool :=
  isIdentifier (· == '_') cs

/-- Whether `cs` is a letter followed by letters, digits, underscores and hyphens. -/
def isArgumentKeyChars (cs : List Char) : Bool :=
  isIdentifier (fun c => c == '_' || c == '-') cs

/-- Whether `name` can name a command. -/
def isCommandName (name : String) : Bool :=
  isCommandNameChars name.toList

/-- Whether `key` can be written as a named argument. -/
def isArgumentKey (key : String) : Bool :=
  isArgumentKeyChars key.toList

end ChatChain
