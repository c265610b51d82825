import ChatChain.CommandError

/-!
# Command definitions

A definition says what a command is called, which arguments it has, what it takes and what it
produces.  `Definition.check` refuses definitions that contradict themselves.
-/

namespace ChatChain

/-- A declared argument of a command. -/
structure Argument where
  key : String
  kind : Kind
  required : Bool := false
  default? : Option Value := none
  /-- The names of a choice, in the order of their indices. -/
  choices : List String := []
  description : String := ""
  deriving DecidableEq, Repr

/-- The description of a command. -/
structure Definition where
  name : String
  description : String := ""
  /-- The arguments in the order of declaration. -/
  arguments : List Argument := []
  /-- The argument that takes the positional text, and the predecessor's output in a chain. -/
  defaultKey? : Option String := none
  input : Kind
  output : Kind
  requireInput : Bool := false
  guildOnly : Bool := false
  deferReply : Bool := false
  ephemeralReply : Bool := false
  deriving DecidableEq, Repr

namespace Argument

/-- What is wrong with an argument, given the keys declared before it. -/
def fault? (earlier : List String) (a : Argument) : Option DefinitionFault :=
  if a.key ∈ earlier then some (.duplicateArgument a.key)
  else if !a.kind.isValue then some (.argumentOfNoValue a.key a.kind)
  else if a.kind = .choice ∧ a.choices = [] then some (.noChoices a.key)
  else
    match a.default? with
    | some value =>
      if value.kind = a.kind then none
      else some (.defaultOfOtherKind a.key value.kind a.kind)
    | none => none

/-- The first fault in a list of arguments, given the keys declared before it. -/
def firstFault? (earlier : List String) : List Argument → Option DefinitionFault
  | [] => none
  | a :: rest => (a.fault? earlier).or (firstFault? (a.key :: earlier) rest)

end Argument

namespace Definition

/-- The argument declared under `key`. -/
def argument? (d : Definition) (key : String) : Option Argument :=
  d.arguments.find? (·.key == key)

/-- The argument that takes the positional text. -/
def defaultArgument? (d : Definition) : Option Argument :=
  d.defaultKey?.bind d.argument?

/-- Whether `key` is the default key. -/
def isDefaultKey (d : Definition) (key : String) : Bool :=
  d.defaultKey? == some key

/-- What is wrong with a definition: its name, then its input, then its arguments in order, then
its default key. -/
def fault? (d : Definition) : Option DefinitionFault :=
  if !isCommandName d.name then some .invalidName
  else if d.requireInput ∧ d.input = .nothing then some .inputWithoutKind
  else
    (Argument.firstFault? [] d.arguments).or <|
      match d.defaultKey? with
      | some key => if (d.argument? key).isNone then some (.undeclaredDefaultKey key) else none
      | none => none

/-- Refuses a definition that contradicts itself. -/
def check (d : Definition) : Except CommandError Unit :=
  match d.fault? with
  | some fault => .error (.invalidDefinition d.name fault)
  | none => .ok ()

/-- Refuses a command for guilds outside of one. -/
def checkEnvironment (d : Definition) (inGuild : Bool) : Except CommandError Unit :=
  if d.guildOnly && !inGuild then .error (.wrongEnvironment d.name) else .ok ()

end Definition

end ChatChain
