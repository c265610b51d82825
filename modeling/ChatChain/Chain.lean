import ChatChain.Definition

/-!
# Chains of commands

A chain may run when it is not too long, its first command finds the input it requires, and every
command takes what its predecessor produces.  All of that is decided before anything runs.
-/

namespace ChatChain.Chain

/-- Whether `target` takes what `source` produces.  Kinds must be equal. -/
def compatible (source target : Definition) : Bool :=
  source.output == target.input

/-- What is wrong with two commands in a row. -/
def pairError? (source target : Definition) : Option CommandError :=
  if compatible source target then none
  else if source.output = .nothing then some (.missingInput target.name source.name)
  else some (.incompatibleChain source.name source.output target.name target.input)

/-- What is wrong with the leftmost pair that does not fit. -/
def linkError? : List Definition → Option CommandError
  | source :: target :: rest => (pairError? source target).or (linkError? (target :: rest))
  | _ => none

/-- What is wrong with the first command, given the kind of the data that the chain starts with. -/
def startError? (seed : Option Kind) : List Definition → Option CommandError
  | first :: _ =>
    if first.requireInput ∧ seed ≠ some first.input then some (.inputRequired first.name) else none
  | [] => none

/-- What is wrong with a chain: its length, then its start, then its leftmost pair. -/
def error? (chain : List Definition) (seed : Option Kind) (limit : Nat) : Option CommandError :=
  if limit < chain.length then some (.chainTooLong chain.length limit)
  else (startError? seed chain).or (linkError? chain)

/-- Refuses a chain that cannot run. -/
def check (chain : List Definition) (seed : Option Kind) (limit : Nat) : Except CommandError Unit :=
  match error? chain seed limit with
  | some e => .error e
  | none => .ok ()

/-- Whether the command at `index` takes its default key from its predecessor. -/
def isPiped (d : Definition) (index : Nat) : Bool :=
  0 < index && d.input.isValue

end ChatChain.Chain
