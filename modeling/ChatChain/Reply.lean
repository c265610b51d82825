import ChatChain.ChainError
import ChatChain.Execution

/-!
# Replies

The texts of a chain's steps are folded into one text, and the files of the last step are
attached.  A reply that exceeds a limit of the platform is refused, never shortened.

* `Reply.merge` folds the texts.
* `Reply.assemble` makes the reply.
-/

namespace ChatChain

/-- What a platform accepts. -/
structure Limits where
  /-- Counted in characters. -/
  maxText : Nat := 2000
  /-- Counted in bytes. -/
  maxFileSize : Nat := 8 * 1024 * 1024
  maxFiles : Nat := 10
  deriving DecidableEq, Repr

/-- A file of a reply. -/
structure OutboundFile where
  name : String
  path : Path
  size : Nat
  deriving DecidableEq, Repr

/-- A reply as it is handed to the platform. -/
structure Payload where
  content : String
  files : List OutboundFile := []
  suppressEmbeds : Bool := false
  /-- The message that a new message refers to. -/
  replyTo? : Option String := none
  /-- Counts only where the reply completes an acknowledgement. -/
  ephemeral : Bool := false
  deriving DecidableEq, Repr

namespace Reply

/-- The text of a reply that would hold nothing. -/
def emptyText : String := "Done."

/-- Joins appended text on a new line; nothing is added to or by an empty text. -/
def appendText (merged text : String) : String :=
  if merged ≠ "" ∧ text ≠ "" then merged ++ "\n" ++ text else merged ++ text

/-- Adds the text of one step.  A replacing step takes the place of all text before it, also when
it has none. -/
def mergeStep (merged : String) (step : StepSummary) : String :=
  match step.mode, step.text? with
  | .replace, text? => text?.getD ""
  | .append, none => merged
  | .append, some text => appendText merged text

/-- The text of all steps. -/
def merge (steps : List StepSummary) : String :=
  steps.foldl mergeStep ""

/-- Checks one file of a reply. -/
def outboundFile (limits : Limits) (fs : FileSystem) (handle : FileHandle) :
    Except ChainError OutboundFile :=
  match fs.size handle.path with
  | .error e => .error (.storage ((Failure.internal e.message).within "failed to stat"))
  | .ok size =>
    if limits.maxFileSize < size then .error (.fileTooLarge handle.name size limits.maxFileSize)
    else .ok { name := handle.name, path := handle.path, size }

/-- The files of a reply: not too many, and none too large. -/
def outboundFiles (limits : Limits) (fs : FileSystem) (handles : List FileHandle) :
    Except ChainError (List OutboundFile) :=
  if limits.maxFiles < handles.length then
    .error (.tooManyFiles handles.length limits.maxFiles)
  else
    handles.mapM (outboundFile limits fs)

/-- The text of a reply: the merged text, or a word where the reply would hold nothing. -/
def outboundText (limits : Limits) (steps : List StepSummary) (hasFiles : Bool) :
    Except ChainError String :=
  let merged := merge steps
  if limits.maxText < merged.length then .error (.messageTooLong merged.length limits.maxText)
  else if Text.isBlankText merged && !hasFiles then .ok emptyText
  else .ok merged

/-- The reply of a finished chain.  Only the files of the last step are attached. -/
def assemble (limits : Limits) (fs : FileSystem) (steps : List StepSummary) (data : Flow)
    (replyTo? : Option String) (ephemeral : Bool) : Except ChainError Payload := do
  let files ← outboundFiles limits fs data.handles
  let content ← outboundText limits steps (!files.isEmpty)
  return {
    content
    files
    suppressEmbeds := steps.any StepSummary.suppressEmbeds
    replyTo?
    ephemeral }

end Reply

end ChatChain
