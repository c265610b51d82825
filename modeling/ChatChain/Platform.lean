import ChatChain.Message
import ChatChain.Reply

/-!
# Platforms

A platform delivers messages and takes replies.  What it does on its own side is a state of a type
`σ` of its choice, the desk; the temporary files of the bot it can read but not change.  Each call
may take time, fail, or never return.

* `Call` lists the calls that a bot makes.
* `World` is everything that changes while a bot handles messages.  It keeps a record of all calls
  and of all tasks that were started.
* `Step` is the type of what a bot does in a world, and `call` and `callAside` make a call.
-/

namespace ChatChain

/-- The calls that a bot makes on its platform. -/
inductive Call where
  | startTyping (channel : String)
  | stopTyping (channel : String)
  | createMessage (channel : String) (payload : Payload)
  /-- Acknowledges a message so that a reply can complete it later. -/
  | deferReply (message : String) (ephemeral : Bool)
  | reply (message : String) (payload : Payload)
  | download (message : String)
  deriving DecidableEq, Repr

/-- What a platform does on a call. -/
structure Reaction (σ : Type) where
  desk : σ
  /-- How long the call takes; none when it never returns. -/
  delay? : Option Nat := some 0
  result : Except Failure Unit := .ok ()

/-- A messaging platform. -/
structure Platform (σ : Type) where
  limits : Limits
  /-- What happens on a call other than a download, given the temporary files. -/
  react : Call → FileSystem → σ → Reaction σ
  /-- How the attachments of a message are put into the chain's store. -/
  download : Message → σ → σ × Routine (List FileHandle)
  /-- Makes the root of the temporary storage, before a chain gets its directory there. -/
  ensureRoot : String → σ → Except Failure Unit × σ

/-- A call that was made. -/
structure CallRecord where
  call : Call
  /-- The temporary files at that moment. -/
  files : FileSystem
  /-- When it was made. -/
  madeAt : Nat
  /-- When it returns; unknown for a download. -/
  returnsAt? : Option Nat
  /-- Whether the platform reported success; unknown for a download. -/
  succeeded : Bool

/-- What a record of the handling holds. -/
inductive Event where
  | call (record : CallRecord)
  | run (task : TaskRun)

/-- Everything that changes while messages are handled. -/
structure World (σ : Type) where
  files : FileSystem := {}
  desk : σ
  /-- Milliseconds of virtual time. -/
  clock : Nat := 0
  /-- The calls made and the tasks started so far, in order. -/
  events : List Event := []
  /-- The paths that stores handed out so far, in order. -/
  handedOut : List Path := []
  /-- The writes that chains dropped so far, chain after chain. -/
  dropped : List DroppedWrite := []

/-- The calls made so far, in order. -/
def World.calls {σ : Type} (w : World σ) : List CallRecord :=
  w.events.filterMap fun
    | .call record => some record
    | .run _ => none

/-- What the world is for a chain with the given store. -/
def World.scene {σ : Type} (w : World σ) (store : TempStore) : Routine.Scene :=
  { files := w.files, store, clock := w.clock, handedOut := w.handedOut }

/-- The world in which a chain leaves a scene behind. -/
def World.afterScene {σ : Type} (w : World σ) (scene : Routine.Scene) : World σ :=
  { w with files := scene.files, clock := scene.clock, handedOut := scene.handedOut }

/-- The world after the cleanup of a chain's store. -/
def World.afterCleanUp {σ : Type} (w : World σ) (store : TempStore) : World σ :=
  { w with files := (store.cleanUp w.files).2, dropped := w.dropped ++ store.dropped }

/-- The world with more events on record. -/
def World.note {σ : Type} (w : World σ) (events : List Event) : World σ :=
  { w with events := w.events ++ events }

/-- What is done in a world.  There is no outcome when something never returns, nor when it breaks
down and takes everything with it. -/
abbrev Step (σ α : Type) : Type :=
  StateT (World σ) Option α

namespace Platform

variable {σ : Type}

/-- Makes a call without waiting for it.  The answer is its result and the time at which it
returns. -/
def callAside (p : Platform σ) (call : Call) : Step σ (Except Failure Unit × Nat) := fun w =>
  let reaction := p.react call w.files w.desk
  match reaction.delay? with
  | none => none
  | some delay =>
    let record : CallRecord :=
      { call
        files := w.files
        madeAt := w.clock
        returnsAt? := some (w.clock + delay)
        succeeded := reaction.result.isOk }
    some ((reaction.result, w.clock + delay), { w with desk := reaction.desk }.note [.call record])

/-- Lets time pass until `t`, if that is still to come. -/
def waitUntil (t : Nat) : Step σ Unit :=
  modify fun w => { w with clock := max w.clock t }

/-- Makes a call and waits for it. -/
def call (p : Platform σ) (call : Call) : Step σ (Except Failure Unit) := do
  let (result, t) ← p.callAside call
  waitUntil t
  return result

end Platform

end ChatChain
