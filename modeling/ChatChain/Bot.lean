import ChatChain.Platform
import ChatChain.Report

/-!
# The bot

A bot takes a message through all stages: reading, resolving, checking, running, replying and
cleaning up.  Handling a message never fails; every error becomes a reply and is noted in the
report.

* `Bot.prepare` does all that happens before anything can have an effect.
* `Bot.runChain` runs a prepared chain and replies.
* `Bot.handle` handles a message, and releases the chain's files whatever happened.
-/

namespace ChatChain

/-- All that is fixed while messages are handled. -/
structure Bot (σ : Type) where
  grammar : Grammar
  registry : Registry
  store : StoreAccess
  platform : Platform σ
  chainLimit : Nat := 10
  templateLimit : Nat := 10
  /-- The time in milliseconds that a step may take, if there is a limit. -/
  stepTimeout? : Option Nat := some 120000
  /-- When everything is cancelled, if ever. -/
  cancelAt? : Option Nat := none
  /-- The store as it is when the invocation at a position of the message is looked up; others may
  change it in the meantime. -/
  storeAt : Nat → StoreAccess := fun _ => store
  /-- Which request of the download is not answered any more, if one is. -/
  downloadStall? : Option Routine.Stall := none
  /-- Which request of the task at a position of a chain is not answered any more, if one is. -/
  stalls : Nat → Option Routine.Stall := fun _ => none

namespace Bot

variable {σ : Type}

/-- The resolver of the bot. -/
def resolver (b : Bot σ) : Resolver :=
  { grammar := b.grammar
    registry := b.registry
    store := b.store
    templateLimit := b.templateLimit
    storeAt := b.storeAt }

/-- The executor for the chain of a message. -/
def executor (b : Bot σ) (m : Message) : Executor :=
  { catalog := b.registry.catalog
    chainLimit := b.chainLimit
    stepTimeout? := b.stepTimeout?
    author := m.author
    guild? := m.guild?
    cancelAt? := b.cancelAt?
    stalls := b.stalls }

/-- Whether the attachments of the message are what the chain starts with. -/
def startsWithAttachments (chain : List ChainStep) (m : Message) : Bool :=
  !m.attachments.isEmpty && (chain.head?.map fun step => step.definition.input) == some .files

/-! ## Before anything runs -/

/-- Resolves, binds and checks the chain of a message.  The report says how far that came. -/
def prepare (b : Bot σ) (m : Message) (invocations : List Invocation) (r : Report) :
    Report × Except ChainError (List ChainStep) :=
  match b.resolver.resolveAll m invocations with
  | .error e => (r, .error e)
  | .ok steps =>
    let names := steps.map fun step : ResolvedStep => step.command.name
    let r := { r with commands := names }.enter .resolved
    match ResolvedStep.bindAll steps with
    | .error e => (r, .error (.command e))
    | .ok chain =>
      let seed? := if startsWithAttachments chain m then some Kind.files else none
      match (b.executor m).check chain seed? with
      | .error e => (r, .error e)
      | .ok () => (r.enter .validated, .ok chain)

/-! ## Replying -/

/-- Hands a payload to the platform: as the completion of an acknowledgement that succeeded, else
as a new message. -/
def dispatch (b : Bot σ) (m : Message) (payload : Payload) (deferred : Bool) :
    Step σ (Except Failure ReplyKind) := do
  if deferred then
    return (← b.platform.call (.reply m.id payload)).map fun _ => .deferred
  else
    return (← b.platform.call (.createMessage m.channel payload)).map fun _ => .message

/-- The message that a reply refers to, unless it completes an acknowledgement. -/
def replyTarget? (m : Message) (deferred : Bool) : Option String :=
  if deferred then none else some m.id

/-- Notes an error and sends the reply for it. -/
def fail (b : Bot σ) (m : Message) (r : Report) (e : ChainError) (deferred : Bool) :
    Step σ Report := do
  let text := e.reply b.grammar.commandMark
  let r := { r.enter .failed with
    failure? := some { reasonCode := e.reasonCode, message := text } }
  match ← b.dispatch m { content := text, replyTo? := replyTarget? m deferred } deferred with
  | .ok reply => return { r with reply }
  | .error _ => return r

/-- Sends the reply of a finished chain, or the reply for an error where there is none. -/
def deliver (b : Bot σ) (m : Message) (r : Report) (payload : Except ChainError Payload)
    (deferred : Bool) : Step σ Report := do
  match payload with
  | .error e => b.fail m r e deferred
  | .ok payload =>
    match ← b.dispatch m payload deferred with
    | .ok reply => return { r with reply }.enter .completed
    | .error failure => b.fail m r (.platform failure) deferred

/-! ## Running -/

/-- Runs a routine of the chain in the world. -/
def runRoutine {α : Type} (bounds : Routine.Bounds) (routine : Routine α) (store : TempStore) :
    Step σ (Routine.Ending α × TempStore) := fun w =>
  let (ending, scene) := routine.run bounds (w.scene store)
  some ((ending, scene.store), w.afterScene scene)

/-- The name under which a download that takes too long is reported. -/
def downloadName : String := "attachment download"

/-- What a download yielded, if it ended at all.  Nothing catches one that breaks down. -/
def seedOf (b : Bot σ) : Routine.Ending (List FileHandle) → Option (Except ChainError Flow)
  | .returned handles => some (.ok (.files handles))
  | .failed failure => some (.error (.platform failure))
  | .timedOut => some (.error (.stepTimeout downloadName (b.stepTimeout?.getD 0)))
  | .cancelled => some (.error .cancelled)
  | .panicked | .stuck => none

/-- Fetches the attachments of a message under the same bounds as a step. -/
def downloadSeed (b : Bot σ) (m : Message) (store : TempStore) :
    Step σ (Except ChainError Flow × TempStore) := do
  let w ← get
  if (b.executor m).isCancelled w.clock then
    return (.error .cancelled, store)
  let (desk, routine) := b.platform.download m w.desk
  let record : CallRecord :=
    { call := .download m.id
      files := w.files
      madeAt := w.clock
      returnsAt? := none
      succeeded := true }
  set ({ w with desk }.note [.call record])
  let (ending, store) ← runRoutine ((b.executor m).boundsAt w.clock)
    (routine.stalling b.downloadStall?) store
  match b.seedOf ending with
  | some seed => return (seed, store)
  | none => failure

/-- Fetches what a chain starts with. -/
def fetchSeed (b : Bot σ) (m : Message) (chain : List ChainStep) (store : TempStore) :
    Step σ (Except ChainError Flow × TempStore) :=
  if startsWithAttachments chain m then b.downloadSeed m store
  else pure (.ok .nothing, store)

/-- Fetches the seed of a chain and runs it.  The answer is the chain's outcome and the summaries
of its finished steps. -/
def work (b : Bot σ) (m : Message) (chain : List ChainStep) (store : TempStore) :
    Step σ (Except ChainError Flow × List StepSummary × TempStore) := do
  let (seed, store) ← b.fetchSeed m chain store
  match seed with
  | .error e => return (.error e, [], store)
  | .ok seed =>
    let w ← get
    let result := (b.executor m).execute chain seed (w.scene store)
    set ((w.afterScene result.scene).note (result.runs.map Event.run))
    match result.ending with
    | .completed data => return (.ok data, result.steps, result.scene.store)
    | .failed e => return (.error e, result.steps, result.scene.store)
    | .stuck => failure

/-- Acknowledges a message whose reply may take long, and does the work at the same time.  The
answer tells whether the acknowledgement succeeded. -/
def workDeferred (b : Bot σ) (m : Message) (chain : List ChainStep) (store : TempStore)
    (ephemeral : Bool) :
    Step σ (Bool × Except ChainError Flow × List StepSummary × TempStore) := do
  let (result, t) ← b.platform.callAside (.deferReply m.id ephemeral)
  let outcome ← b.work m chain store
  Platform.waitUntil t
  return (result.isOk, outcome)

/-- Does the work while the channel shows that the bot is typing. -/
def workTyping (b : Bot σ) (m : Message) (chain : List ChainStep) (store : TempStore) :
    Step σ (Except ChainError Flow × List StepSummary × TempStore) := do
  let _ ← b.platform.call (.startTyping m.channel)
  let outcome ← b.work m chain store
  let _ ← b.platform.call (.stopTyping m.channel)
  return outcome

/-- Does the work, and shows the user that something happens: with an acknowledgement if a command
of the chain asks for it.  The answer tells whether there was one that succeeded. -/
def workVisibly (b : Bot σ) (m : Message) (chain : List ChainStep) (store : TempStore)
    (ephemeral : Bool) :
    Step σ (Bool × Except ChainError Flow × List StepSummary × TempStore) :=
  if chain.any fun step => step.definition.deferReply then
    b.workDeferred m chain store ephemeral
  else do
    return (false, ← b.workTyping m chain store)

/-- Runs a prepared chain and sends its reply. -/
def runChain (b : Bot σ) (m : Message) (chain : List ChainStep) (store : TempStore) (r : Report) :
    Step σ (Report × TempStore) := do
  let ephemeral := chain.any fun step => step.definition.ephemeralReply
  let (deferred, outcome, steps, store) ← b.workVisibly m chain store ephemeral
  let w ← get
  let payload := do
    let data ← outcome
    Reply.assemble b.platform.limits w.files steps data (replyTarget? m deferred)
      (ephemeral && deferred)
  let r ← b.deliver m { r.enter .executing with stepsRun := steps.length } payload deferred
  return (r, store)

/-! ## Handling a message -/

/-- Opens the store of a chain in the root of the temporary storage. -/
def openStore (b : Bot σ) (chainId : String) : Step σ (Except Failure TempStore) := fun w =>
  match b.platform.ensureRoot chainId w.desk with
  | (.error failure, desk) => some (.error failure, { w with desk })
  | (.ok (), desk) =>
    let (store, files) := TempStore.openIn [] w.files chainId
    some (store.mapError fun e => .internal e.message, { w with desk, files })

/-- Releases the files of a chain and notes the counts. -/
def cleanUp (store : TempStore) (r : Report) : Step σ Report := fun w =>
  some ({ r with cleanup := (store.cleanUp w.files).1 }, w.afterCleanUp store)

/-- Handles a message whose author is not banned. -/
def handleInvocations (b : Bot σ) (chainId : String) (m : Message)
    (invocations : List Invocation) (r : Report) : Step σ Report := do
  let (r, prepared) := b.prepare m invocations r
  match prepared with
  | .error e => b.fail m r e false
  | .ok chain =>
    match ← b.openStore chainId with
    | .error failure => b.fail m r (.storage failure) false
    | .ok store =>
      let (r, store) ← b.runChain m chain store r
      cleanUp store r

/-- Handles a message.  One without a command is left alone, and so is one from a banned author or
guild. -/
def handle (b : Bot σ) (chainId : String) (m : Message) : Step σ Report := do
  let invocations := Invocation.parse b.grammar m.content
  let r : Report := { history := [.parsed], commands := invocations.map Invocation.name }
  if invocations = [] then
    return { r with ignored? := some .noCommands }
  match b.store.isBanned m.author m.guild? with
  | .error failure => b.fail m r (.store failure) false
  | .ok true => return { r with ignored? := some .banned }
  | .ok false => b.handleInvocations chainId m invocations r

end Bot

end ChatChain
