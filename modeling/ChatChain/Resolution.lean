import ChatChain.Chain
import ChatChain.ChainError
import ChatChain.CommandStore
import ChatChain.Message
import ChatChain.Registry

/-!
# Resolution

Every invocation of a message becomes a registered command, or the commands of a stored template.
A name without a scope means the registered command if there is one; any other name is looked up
among the templates.  A template is expanded once: what it holds must be registered commands.

* `resolveAll` resolves the invocations of a message.
* `expand` puts the invocation's text into a template.
* `bindAll` binds the resolved steps.
-/

namespace ChatChain

/-- An invocation with the command that it means. -/
structure ResolvedStep where
  invocation : Invocation
  command : Command
  /-- The template that the step comes from. -/
  template? : Option String := none

/-- A step that is ready to run. -/
structure ChainStep where
  command : Command
  entity? : Option String := none
  binding : Binding

/-- The definition of a step. -/
def ChainStep.definition (s : ChainStep) : Definition :=
  s.command.definition

/-- What resolving needs to know. -/
structure Resolver where
  grammar : Grammar
  registry : Registry
  store : StoreAccess
  /-- How many commands a template may hold. -/
  templateLimit : Nat
  /-- The store as it is when the invocation at a position of the message is looked up. -/
  storeAt : Nat → StoreAccess := fun _ => store

namespace Resolver

/-- The place in a template where the positional text of the invocation goes. -/
def placeholder : String := "\x7binput\x7d"

/-- Replaces every occurrence of `pattern` in `cs`, from the left. -/
def substituteChars (pattern image : List Char) (cs : List Char) : List Char :=
  match cs with
  | [] => []
  | c :: rest =>
    if pattern ≠ [] ∧ pattern.isPrefixOf (c :: rest) then
      image ++ substituteChars pattern image (rest.drop (pattern.length - 1))
    else
      c :: substituteChars pattern image rest
  termination_by cs.length
  decreasing_by all_goals simp +arith

/-- The text of a template with the positional text of the invocation in it. -/
def fillIn (body input : String) : String :=
  String.ofList (substituteChars placeholder.toList input.toList body.toList)

/-- The error for a name that means nothing. -/
def notFound (r : Resolver) (name : String) : ChainError :=
  .command (.commandNotFound name r.grammar.commandMark)

/-- The registered command that an invocation means by itself. -/
def registered? (r : Resolver) (i : Invocation) : Option Command :=
  if i.entity?.isNone then r.registry.find? i.name else none

/-- Refuses a command that may not be used where the message was written. -/
def checkPlace (c : Command) (m : Message) : Except ChainError Unit :=
  (c.definition.checkEnvironment m.inGuild).mapError .command

/-- Adds the caller's named arguments that the command declares and the template leaves open. -/
def inherit (caller : Invocation) (c : Command) (i : Invocation) : Invocation :=
  { i with
    named := caller.named.entries.foldl
      (fun named entry =>
        if (c.definition.argument? entry.1).isSome then named.insertIfNew entry.1 entry.2
        else named)
      i.named }

/-- Resolves one command of a template. -/
def expandStep (r : Resolver) (t : Template) (caller : Invocation) (m : Message)
    (i : Invocation) : Except ChainError ResolvedStep :=
  match r.registered? i with
  | none => .error (r.notFound i.name)
  | some command => do
    checkPlace command m
    return { invocation := inherit caller command i, command, template? := some t.name }

/-- The steps of a template. -/
def expand (r : Resolver) (t : Template) (caller : Invocation) (m : Message) :
    Except ChainError (List ResolvedStep) :=
  let found := Invocation.parse r.grammar (fillIn t.body caller.positional)
  if found = [] then
    .error (.store (.internal s!"template '{t.name}' contains no commands"))
  else if r.templateLimit < found.length then
    .error (.command (.chainTooLong found.length r.templateLimit))
  else
    found.mapM (r.expandStep t caller m)

/-- The steps of one invocation. -/
def resolve (r : Resolver) (m : Message) (i : Invocation) :
    Except ChainError (List ResolvedStep) :=
  match r.registered? i with
  | some command => do
    checkPlace command m
    return [{ invocation := i, command }]
  | none =>
    match r.store.findTemplate i.name (i.entity?.or m.guild?) with
    | .error failure => .error (.store failure)
    | .ok none => .error (r.notFound i.name)
    | .ok (some t) => r.expand t i m

/-- The resolver with the store as it is for the invocation at a position. -/
def turn (r : Resolver) (index : Nat) : Resolver :=
  { r with store := r.storeAt index, storeAt := fun _ => r.storeAt index }

/-- The steps of all invocations, in order. -/
def resolveAll (r : Resolver) (m : Message) (invocations : List Invocation) :
    Except ChainError (List ResolvedStep) := do
  return (← invocations.zipIdx.mapM fun i => (r.turn i.2).resolve m i.1).flatten

end Resolver

namespace ResolvedStep

/-- The definition of a step. -/
def definition (s : ResolvedStep) : Definition :=
  s.command.definition

/-- Binds one step. -/
def bind (s : ResolvedStep) (piped : Bool) : Except CommandError ChainStep := do
  let binding ← Binding.ofInvocation s.invocation s.definition piped
  return { command := s.command, entity? := s.invocation.entity?, binding }

/-- Binds the steps from position `index` on. -/
def bindFrom (index : Nat) : List ResolvedStep → Except CommandError (List ChainStep)
  | [] => .ok []
  | step :: rest => do
    let first ← step.bind (Chain.isPiped step.definition index)
    return first :: (← bindFrom (index + 1) rest)

/-- Binds the steps of a chain.  The default key of a step that takes a value from its predecessor
may stay open. -/
def bindAll (steps : List ResolvedStep) : Except CommandError (List ChainStep) :=
  bindFrom 0 steps

end ResolvedStep

end ChatChain
