import ChatChain.CommandError
import ChatChain.Failure
import ChatChain.Number.Binary64

/-!
# Chain errors

Every way in which a chain can fail once its text held a command, and the one reply that the user
gets for each.  Internal failures are never quoted in a reply.
-/

namespace ChatChain

open Number

/-- The ways in which a chain fails. -/
inductive ChainError where
  | command (error : CommandError)
  | task (command : String) (failure : Failure)
  | stepTimeout (command : String) (limitMs : Nat)
  | cancelled
  | outputMismatch (command : String) (actual declared : Kind)
  | messageTooLong (length limit : Nat)
  | tooManyFiles (count limit : Nat)
  | fileTooLarge (name : String) (size limit : Nat)
  | platform (failure : Failure)
  | store (failure : Failure)
  | storage (failure : Failure)
  deriving DecidableEq, Repr

namespace ChainError

/-- The stable code of an error in reports. -/
def reasonCode : ChainError → String
  | command e =>
    match e with
    | .duplicateCommand _ | .invalidDefinition .. => "invalid_registry"
    | .commandNotFound .. => "command_not_found"
    | .wrongEnvironment _ => "wrong_environment"
    | .missingArgument .. => "missing_argument"
    | .invalidArgument .. => "invalid_argument"
    | .incompatibleChain .. => "incompatible_chain"
    | .missingInput .. => "missing_input"
    | .inputRequired _ => "input_required"
    | .chainTooLong .. => "chain_too_long"
  | task .. => "task_failed"
  | stepTimeout .. => "step_timeout"
  | cancelled => "cancelled"
  | outputMismatch .. => "output_type_mismatch"
  | messageTooLong .. => "message_too_long"
  | tooManyFiles .. => "too_many_files"
  | fileTooLarge .. => "file_too_large"
  | platform _ => "platform_error"
  | store _ => "store_error"
  | storage _ => "storage_error"

/-- Whether what the user typed caused the error, and not a fault. -/
def isUserError : ChainError → Bool
  | command e => !e.isRegistryError
  | messageTooLong .. | tooManyFiles .. | fileTooLarge .. => true
  | _ => false

/-- The wording of an error for operators. -/
def message : ChainError → String
  | command e => e.message
  | task name failure => s!"command '{name}' failed: {failure.trail}"
  | stepTimeout name limitMs => s!"command '{name}' timed out after {writeNat limitMs}ms"
  | cancelled => "chain execution cancelled"
  | outputMismatch name actual declared =>
    s!"command '{name}' produced {actual.word} but declares {declared.word}"
  | messageTooLong length limit =>
    s!"response text has {writeNat length} characters (max {writeNat limit})"
  | tooManyFiles count limit => s!"response has {writeNat count} files (max {writeNat limit})"
  | fileTooLarge name size limit =>
    s!"file '{name}' is {writeNat size} bytes (max {writeNat limit})"
  | platform failure => s!"messaging platform error: {failure.trail}"
  | store failure => s!"command store error: {failure.trail}"
  | storage failure => s!"chain storage error: {failure.trail}"

/-! ## Replies -/

/-- The reply for faults that are not the user's business. -/
def genericReply : String := "Something went wrong. Please try again later."

/-- A size in units of `unit` bytes with one decimal place.  The size is first rounded to a double;
the quotient by a power of two is exact, and a tie between two tenths goes to the even one. -/
def tenths (size unit : Nat) : String :=
  let rounded :=
    match Binary64.ofRatio false size 1 with
    | .finite _ significand exponent => roundDiv (significand * Nat.pow 2 exponent.toNat * 10)
        (Nat.pow 2 (-exponent).toNat * unit)
    | _ => 0
  s!"{writeNat (rounded / 10)}.{writeNat (rounded % 10)}"

/-- Writes a number of bytes in the largest unit that it fills. -/
def writeSize (bytes : Nat) : String :=
  if 1024 * 1024 ≤ bytes then tenths bytes (1024 * 1024) ++ " MB"
  else if 1024 ≤ bytes then tenths bytes 1024 ++ " KB"
  else writeNat bytes ++ " B"

/-- The reply for a command error. -/
def commandReply (mark : Char) : CommandError → String
  | .commandNotFound name commandMark =>
    s!"Command `{commandMark}{name}` not found. Use `{commandMark}help` to list commands."
  | .wrongEnvironment name => s!"`{mark}{name}` can only be used in a server."
  | .missingArgument name key => s!"Missing argument `{key}` for `{mark}{name}`."
  | .invalidArgument name key value expected =>
    s!"Invalid value `{value}` for argument `{key}` of `{mark}{name}`: " ++
      s!"expected {expected.word}."
  | .incompatibleChain source output target input =>
    s!"Cannot chain `{mark}{source}` into `{mark}{target}`: " ++
      s!"`{mark}{source}` outputs {output.word} but `{mark}{target}` expects {input.word}."
  | .missingInput name previous =>
    s!"`{mark}{name}` needs input, but `{mark}{previous}` produces nothing."
  | .inputRequired name =>
    s!"`{mark}{name}` needs input. Attach a file or chain it after another command."
  | .chainTooLong length limit =>
    s!"Too many chained commands ({writeNat length}, max {writeNat limit})."
  | .duplicateCommand _ | .invalidDefinition .. => genericReply

/-- The reply for a failure while a command ran. -/
def runReply (mark : Char) (name : String) : String :=
  s!"Something went wrong while running `{mark}{name}`."

/-- The reply that the user gets for an error. -/
def reply (mark : Char) : ChainError → String
  | command e => commandReply mark e
  | task name failure => failure.userMessage?.getD (runReply mark name)
  | stepTimeout name _ => s!"`{mark}{name}` took too long and was stopped."
  | cancelled => "The command was cancelled."
  | outputMismatch name .. => runReply mark name
  | messageTooLong length limit =>
    s!"The response is too long to send ({writeNat length} characters, max {writeNat limit})."
  | tooManyFiles count limit =>
    s!"The response has too many files to send ({writeNat count}, max {writeNat limit})."
  | fileTooLarge name size limit =>
    s!"`{name}` is too large to send ({writeSize size}, max {writeSize limit})."
  | platform _ | store _ | storage _ => genericReply

end ChainError

end ChatChain
