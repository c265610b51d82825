import ChatChain.Grammar
import ChatChain.Number.Decimal
import ChatChain.Value

/-!
# Command errors

What can be wrong with commands before any of them runs: with a registry, with a name, with an
argument, or with the way commands follow each other.  `DefinitionFault` lists the ways in which
a definition contradicts itself.
-/

namespace ChatChain

/-- What is wrong with a command definition. -/
inductive DefinitionFault where
  | invalidName
  | inputWithoutKind
  | duplicateArgument (key : String)
  | argumentOfNoValue (key : String) (kind : Kind)
  | noChoices (key : String)
  | defaultOfOtherKind (key : String) (actual declared : Kind)
  | undeclaredDefaultKey (key : String)
  /-- A fault given by its wording alone. -/
  | other (reason : String)
  deriving DecidableEq, Repr

namespace DefinitionFault

/-- The wording of a fault. -/
def message : DefinitionFault → String
  | invalidName => "name must start with a letter"
  | inputWithoutKind => "require_input needs a non-empty input type"
  | duplicateArgument key => s!"duplicate argument '{key}'"
  | argumentOfNoValue key kind => s!"argument '{key}' has non-value type {kind.word}"
  | noChoices key => s!"enum argument '{key}' declares no choices"
  | defaultOfOtherKind key actual declared =>
    s!"argument '{key}' default is {actual.word} but declared {declared.word}"
  | undeclaredDefaultKey key => s!"default key '{key}' is not a declared argument"
  | other reason => reason

end DefinitionFault

/-- What is wrong with commands before any of them runs. -/
inductive CommandError where
  | duplicateCommand (name : String)
  | invalidDefinition (command : String) (fault : DefinitionFault)
  | commandNotFound (name : String) (commandMark : Char)
  | wrongEnvironment (command : String)
  | missingArgument (command key : String)
  | invalidArgument (command key value : String) (expected : Kind)
  | incompatibleChain (source : String) (output : Kind) (target : String) (input : Kind)
  | missingInput (command previous : String)
  | inputRequired (command : String)
  | chainTooLong (length limit : Nat)
  deriving DecidableEq, Repr

namespace CommandError

open Number

/-- The wording of an error for operators. -/
def message : CommandError → String
  | duplicateCommand name => s!"command '{name}' is registered more than once"
  | invalidDefinition command fault =>
    s!"command '{command}' has an invalid definition: {fault.message}"
  | commandNotFound name commandMark => s!"command '{commandMark}{name}' not found"
  | wrongEnvironment command => s!"command '{command}' can only be used inside a guild"
  | missingArgument command key => s!"command '{command}' is missing required argument '{key}'"
  | invalidArgument command key value expected =>
    s!"command '{command}' argument '{key}' expected {expected.word}, got '{value}'"
  | incompatibleChain source output target input =>
    s!"cannot chain '{source}' ({output.word}) into '{target}' ({input.word})"
  | missingInput command previous =>
    s!"command '{command}' expects input but '{previous}' produces none"
  | inputRequired command => s!"command '{command}' requires input and cannot start a chain"
  | chainTooLong length limit =>
    s!"chain has {writeNat length} commands (max {writeNat limit})"

/-- The command to which an error is attributed. -/
def command? : CommandError → Option String
  | duplicateCommand name | commandNotFound name _ => some name
  | invalidDefinition command _ | wrongEnvironment command | missingArgument command _
  | invalidArgument command .. | missingInput command _ | inputRequired command => some command
  | incompatibleChain _ _ target _ => some target
  | chainTooLong .. => none

/-- Whether the error lies in the set of registered commands and not in a message. -/
def isRegistryError : CommandError → Bool
  | duplicateCommand _ | invalidDefinition .. => true
  | _ => false

end CommandError

end ChatChain
