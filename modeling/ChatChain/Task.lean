import ChatChain.Binding
import ChatChain.Routine

/-!
# Tasks

A task is the body of a command.  It is given the bound arguments and the output of the previous
command, and its routine yields the data for the next command together with the text that the
reply shows for it.
-/

namespace ChatChain

/-- The data between two commands of a chain. -/
inductive Flow where
  | nothing
  | value (value : Value)
  | files (handles : List FileHandle)
  deriving DecidableEq, Repr

namespace Flow

/-- The flow of a text. -/
def text (content : String) : Flow :=
  value (.text content)

/-- The kind of the data. -/
def kind : Flow → Kind
  | nothing => .nothing
  | value v => v.kind
  | files _ => .files

/-- The value that flows. -/
def value? : Flow → Option Value
  | value v => some v
  | _ => none

/-- The files that flow; other data has none. -/
def handles : Flow → List FileHandle
  | files handles => handles
  | _ => []

end Flow

/-- How the text of a step combines with the text before it. -/
inductive TextMode where
  | replace
  | append
  deriving DecidableEq, Repr, Inhabited

/-- What a task yields. -/
structure TaskOutput where
  data : Flow
  /-- The text for the reply, where it is not the value itself. -/
  message? : Option String := none
  mode : TextMode := .replace
  suppressEmbeds : Bool := false
  deriving DecidableEq, Repr

namespace TaskOutput

/-- The output of a text. -/
def text (content : String) : TaskOutput :=
  { data := .text content }

/-- The text that the output adds to the reply: its message, else its value. -/
def replyText? (o : TaskOutput) : Option String :=
  o.message?.or (o.data.value?.map Value.render)

end TaskOutput

/-- What a task knows besides its arguments. -/
structure TaskContext where
  definition : Definition
  guild? : Option String := none
  author : String
  /-- The definitions of all registered commands, in ascending order of their names. -/
  catalog : List Definition := []
  /-- How many tasks of the chain came before; a task may do something else every time. -/
  turn : Nat := 0

/-- The body of a command. -/
abbrev Task : Type :=
  TaskContext → Binding → Flow → Routine TaskOutput

/-- A command: its definition and its body. -/
structure Command where
  definition : Definition
  task : Task

/-- The name of a command. -/
def Command.name (c : Command) : String :=
  c.definition.name

end ChatChain
