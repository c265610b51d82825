import ChatChain.ChainError
import ChatChain.TempStore.Ledger

/-!
# Reports

The report on one message: how far its chain came, what it did, and what became of its files.
-/

namespace ChatChain

/-- The states of a chain. -/
inductive ChainState where
  | parsed
  | resolved
  | validated
  | executing
  | completed
  | failed
  deriving DecidableEq, Repr

namespace ChainState

/-- Whether a chain stays in the state. -/
def isTerminal : ChainState → Bool
  | completed | failed => true
  | _ => false

/-- The word for a state in reports. -/
def word : ChainState → String
  | parsed => "parsed"
  | resolved => "resolved"
  | validated => "validated"
  | executing => "executing"
  | completed => "completed"
  | failed => "failed"

end ChainState

/-- Why a message was left alone. -/
inductive IgnoreReason where
  | noCommands
  | banned
  deriving DecidableEq, Repr

/-- The word for a reason in reports. -/
def IgnoreReason.word : IgnoreReason → String
  | noCommands => "no_commands"
  | banned => "banned"

/-- How the reply reached the platform. -/
inductive ReplyKind where
  | none
  | message
  | deferred
  deriving DecidableEq, Repr

/-- The word for a kind of reply in reports. -/
def ReplyKind.word : ReplyKind → String
  | none => "none"
  | message => "message"
  | deferred => "deferred"

/-- Why a chain failed. -/
structure ChainFailure where
  reasonCode : String
  /-- The text that the user was shown. -/
  message : String
  deriving DecidableEq, Repr

/-- The report on one message. -/
structure Report where
  /-- The states that the chain went through, the first one first; it begins as parsed. -/
  history : List ChainState := []
  commands : List String := []
  stepsRun : Nat := 0
  reply : ReplyKind := .none
  ignored? : Option IgnoreReason := none
  failure? : Option ChainFailure := none
  cleanup : Cleanup := {}
  deriving DecidableEq, Repr

namespace Report

/-- The state that the chain is in. -/
def state (r : Report) : ChainState :=
  r.history.getLast?.getD .parsed

/-- Goes to another state. -/
def enter (r : Report) (s : ChainState) : Report :=
  { r with history := r.history ++ [s] }

/-- Whether the chain completed. -/
def isCompleted (r : Report) : Bool :=
  r.state == .completed

end Report

end ChatChain
