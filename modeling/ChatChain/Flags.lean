import ChatChain.Number.Decimal
import ChatChain.Text.Blank

/-!
# Flags

The flags are what a command line sets.  A parameter takes a value, and its value must read; a
switch takes none.

* `Parameter` lists the parameters, and `Flags.set` gives one of them its value.
* `UsageError` lists what a command line can get wrong.
-/

namespace ChatChain

/-- How much is logged. -/
inductive LogLevel where
  | off
  | error
  | warn
  | info
  | debug
  | trace
  deriving DecidableEq, Repr

namespace LogLevel

/-- All levels, in the order of their numbers. -/
def all : List LogLevel :=
  [off, error, warn, info, debug, trace]

/-- The name of a level. -/
def word : LogLevel → String
  | off => "off"
  | error => "error"
  | warn => "warn"
  | info => "info"
  | debug => "debug"
  | trace => "trace"

/-- Reads a level: its number, or its name in any case, with blanks around it.  No text at all
stands for errors. -/
def read? (text : String) : Option LogLevel :=
  let cs := Text.trimChars text.toList
  let word := String.ofList (cs.map Char.toLower)
  match Number.unsigned? cs with
  | some n => all[n]?
  | none => if word = "" then some error else all.find? fun level => level.word == word

end LogLevel

/-- What a command line can get wrong, and the two requests that end it. -/
inductive UsageError where
  | unknownArgument
  /-- A value is missing, or a path is empty. -/
  | missingValue
  /-- A switch has a value. -/
  | needlessValue
  /-- Something is given twice that may be given once. -/
  | repeated
  /-- A value does not read. -/
  | malformedValue
  /-- Something is given without what it needs. -/
  | missingArgument
  | helpRequested
  | versionRequested
  deriving DecidableEq, Repr

/-- What takes a value. -/
inductive Parameter where
  | config
  | message
  | attach
  | outputDir
  | guild
  | author
  | tempRoot
  | chainLimit
  | stepTimeout
  | logLevel
  deriving DecidableEq, Repr

/-- What takes no value. -/
inductive Switch where
  | report
  | help
  | version
  deriving DecidableEq, Repr

/-- What a command line sets. -/
structure Flags where
  config? : Option String := none
  /-- The one message to handle; without it every line of the input is one. -/
  message? : Option String := none
  attach : List String := []
  outputDir? : Option String := none
  guild? : Option String := none
  author? : Option String := none
  tempRoot? : Option String := none
  chainLimit? : Option Nat := none
  /-- In milliseconds; zero stands for no timeout. -/
  stepTimeout? : Option Nat := none
  report : Bool := false
  logLevel? : Option LogLevel := none
  deriving DecidableEq, Repr

namespace Flags

/-- The author of messages where none is given. -/
def defaultAuthor : String := "console-user"

/-- The author of messages. -/
def author (f : Flags) : String :=
  f.author?.getD defaultAuthor

/-- One more than the largest number that a parameter takes. -/
def numberLimit : Nat := Nat.pow 2 64

/-- Reads a number of 64 bits. -/
def readNumber (value : String) : Except UsageError Nat :=
  match Number.unsigned? value.toList with
  | some n => if n < numberLimit then .ok n else .error .malformedValue
  | none => .error .malformedValue

/-- Reads a number of 64 bits other than zero. -/
def readPositive (value : String) : Except UsageError Nat := do
  let n ← readNumber value
  if n = 0 then throw .malformedValue else return n

/-- Reads a path, which is not empty. -/
def readPath (value : String) : Except UsageError String :=
  if value = "" then .error .missingValue else .ok value

/-- Reads a level of logging. -/
def readLogLevel (value : String) : Except UsageError LogLevel :=
  match LogLevel.read? value with
  | some level => .ok level
  | none => .error .malformedValue

/-- Reads the value of something that may be given once. -/
def once {α : Type} (present? : Option α) (read : String → Except UsageError α) (value : String) :
    Except UsageError (Option α) :=
  if present?.isSome then .error .repeated else (read value).map some

/-- Gives a parameter its value.  Only attachments may be given more than once. -/
def set (f : Flags) (value : String) : Parameter → Except UsageError Flags
  | .config => return { f with config? := ← once f.config? readPath value }
  | .message => return { f with message? := ← once f.message? .ok value }
  | .attach => return { f with attach := f.attach ++ [← readPath value] }
  | .outputDir => return { f with outputDir? := ← once f.outputDir? readPath value }
  | .guild => return { f with guild? := ← once f.guild? .ok value }
  | .author => return { f with author? := ← once f.author? .ok value }
  | .tempRoot => return { f with tempRoot? := ← once f.tempRoot? readPath value }
  | .chainLimit => return { f with chainLimit? := ← once f.chainLimit? readPositive value }
  | .stepTimeout => return { f with stepTimeout? := ← once f.stepTimeout? readNumber value }
  | .logLevel => return { f with logLevel? := ← once f.logLevel? readLogLevel value }

/-- Turns a switch on. -/
def turnOn (f : Flags) : Switch → Except UsageError Flags
  | .report => if f.report then .error .repeated else .ok { f with report := true }
  | .help => .error .helpRequested
  | .version => .error .versionRequested

end Flags

end ChatChain
