import ChatChain.Flags

/-!
# Command lines

A command line is a list of words.  A long option is two hyphens and a name, a short one is one
hyphen and a letter; the value of a parameter stands behind an equals sign, directly behind the
letter, or in the next word, which then must not look like an option.  There are no arguments other
than options.

* `Word.of` says what a word looks like.
* `CommandLine.parse` reads a command line.  A value in a word of its own is read only when the
  next option begins or the line ends, which decides what of two errors counts.
-/

namespace ChatChain

/-- The parameters by their long names. -/
def Parameter.ofName? : String → Option Parameter
  | "config" => some .config
  | "message" => some .message
  | "attach" => some .attach
  | "output-dir" => some .outputDir
  | "guild" => some .guild
  | "author" => some .author
  | "temp-root" => some .tempRoot
  | "max-chain-length" => some .chainLimit
  | "step-timeout-ms" => some .stepTimeout
  | "log-level" => some .logLevel
  | _ => none

/-- The switches by their long names. -/
def Switch.ofName? : String → Option Switch
  | "report" => some .report
  | "help" => some .help
  | "version" => some .version
  | _ => none

/-- The parameters by their letters. -/
def Parameter.ofLetter? : Char → Option Parameter
  | 'm' => some .message
  | _ => none

/-- The switches by their letters. -/
def Switch.ofLetter? : Char → Option Switch
  | 'h' => some .help
  | 'V' => some .version
  | _ => none

/-- The environment variables that stand in for parameters that are not given, in the order in
which they are looked at. -/
def Parameter.variables : List (Parameter × String) :=
  [(.config, "PIPEBOT_CONFIG"), (.outputDir, "PIPEBOT_OUTPUT_DIR"),
    (.logLevel, "PIPEBOT_LOG_LEVEL")]

namespace CommandLine

/-- What a word of a command line looks like. -/
inductive Word where
  /-- Two hyphens; only arguments follow. -/
  | separator
  | long (name : String) (value? : Option String)
  /-- Letters behind one hyphen. -/
  | short (letter : Char) (rest : List Char)
  | plain (text : String)
  deriving DecidableEq, Repr

/-- Splits a long option at its first equals sign. -/
def Word.ofLong (cs : List Char) : Word :=
  let name := String.ofList (cs.takeWhile (· != '='))
  match cs.dropWhile (· != '=') with
  | [] => .long name none
  | _ :: value => .long name (some (String.ofList value))

/-- What a word looks like. -/
def Word.of (text : String) : Word :=
  match text.toList with
  | ['-', '-'] => .separator
  | '-' :: '-' :: cs => .ofLong cs
  | '-' :: letter :: rest => .short letter rest
  | _ => .plain text

/-- What has been read of a command line. -/
structure State where
  flags : Flags := {}
  /-- The last parameter, as long as its value has not been read, and the word with the value. -/
  pending? : Option (Parameter × Option String) := none
  deriving DecidableEq, Repr

namespace State

/-- Reads the value that is still to be read. -/
def settle (s : State) : Except UsageError Flags :=
  match s.pending? with
  | none => .ok s.flags
  | some (_, none) => .error .missingValue
  | some (p, some value) => s.flags.set value p

/-- Takes in a parameter with the value that is attached to it, if there is one. -/
def parameter (s : State) (p : Parameter) (value? : Option String) : Except UsageError State := do
  let flags ← s.settle
  match value? with
  | some value => return { flags := ← flags.set value p }
  | none => return { flags, pending? := some (p, none) }

/-- Takes in a switch. -/
def switch (s : State) (w : Switch) : Except UsageError State := do
  return { flags := ← (← s.settle).turnOn w }

/-- The value attached to a letter. -/
def attached? : List Char → Option String
  | [] => none
  | '=' :: value => some (String.ofList value)
  | value => some (String.ofList value)

/-- Takes in letters behind one hyphen.  What follows the letter of a parameter is its value. -/
def letters (s : State) : List Char → Except UsageError State
  | [] => .ok s
  | c :: rest =>
    match Switch.ofLetter? c, Parameter.ofLetter? c with
    | some w, _ => (s.switch w).bind (letters · rest)
    | none, some p => s.parameter p (attached? rest)
    | none, none => .error .unknownArgument

/-- Takes in a long option. -/
def longOption (s : State) (name : String) (value? : Option String) : Except UsageError State :=
  match Parameter.ofName? name, Switch.ofName? name with
  | some p, _ => s.parameter p value?
  | none, some w => if value?.isSome then .error .needlessValue else s.switch w
  | none, none => .error .unknownArgument

end State

/-- Reads the words of a command line. -/
def readWords (s : State) : List String → Except UsageError Flags
  | [] => s.settle
  | text :: rest =>
    match Word.of text with
    | .separator => if rest.isEmpty then s.settle else .error .unknownArgument
    | .long name value? => (s.longOption name value?).bind (readWords · rest)
    | .short letter letters => (s.letters (letter :: letters)).bind (readWords · rest)
    | .plain text =>
      match s.pending? with
      | some (p, none) => readWords { s with pending? := some (p, some text) } rest
      | _ => .error .unknownArgument

/-- Takes the value of a variable for its parameter, unless that is given already. -/
def readVariable (environment : String → Option String) (f : Flags) (named : Parameter × String) :
    Except UsageError Flags :=
  match environment named.2 with
  | none => .ok f
  | some value =>
    match f.set value named.1 with
    | .error .repeated => .ok f
    | result => result

/-- Reads a command line.  Attachments need a message to be attached to. -/
def parse (words : List String) (environment : String → Option String) :
    Except UsageError Flags := do
  let f ← readWords {} words
  let f ← Parameter.variables.foldlM (readVariable environment) f
  if !f.attach.isEmpty && f.message?.isNone then throw .missingArgument
  return f

end CommandLine

end ChatChain
