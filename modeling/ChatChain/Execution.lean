import ChatChain.Resolution

/-!
# Execution

A chain runs step by step, each output becoming the input of the next step, until a step fails.
Nothing runs unless the whole chain fits together first.

* `Execution` records what happened: which tasks were started with which input, what each
  finished step adds to the reply, and how the chain ended.
* `Executor.start` prepares one step, `Executor.runTask` runs it, and `Executor.execute` runs a
  chain.
-/

namespace ChatChain

/-- What a finished step adds to the reply. -/
structure StepSummary where
  command : String
  text? : Option String := none
  mode : TextMode := .replace
  suppressEmbeds : Bool := false
  elapsedMs : Nat := 0
  deriving DecidableEq, Repr

/-- A task that was started. -/
structure TaskRun where
  definition : Definition
  binding : Binding
  input : Flow
  deriving DecidableEq, Repr

/-- How a chain ended. -/
inductive ChainEnding where
  /-- All steps finished; the data is the output of the last one. -/
  | completed (data : Flow)
  | failed (error : ChainError)
  /-- A step waits for ever. -/
  | stuck
  deriving DecidableEq, Repr

/-- What happened while a chain ran. -/
structure Execution where
  /-- The tasks that were started, in order. -/
  runs : List TaskRun := []
  /-- The steps that finished, in order. -/
  steps : List StepSummary := []
  scene : Routine.Scene
  ending : ChainEnding

namespace Execution

/-- How many steps finished. -/
def completed (e : Execution) : Nat :=
  e.steps.length

/-- Puts a finished step in front. -/
def after (e : Execution) (run : TaskRun) (summary : StepSummary) : Execution :=
  { e with runs := run :: e.runs, steps := summary :: e.steps }

end Execution

/-- What is the same for all steps of a chain. -/
structure Executor where
  catalog : List Definition
  chainLimit : Nat
  stepTimeout? : Option Nat
  author : String
  guild? : Option String
  /-- When everything is cancelled, if ever. -/
  cancelAt? : Option Nat := none
  /-- Which request of the task at a position of the chain is not answered any more, if one is. -/
  stalls : Nat → Option Routine.Stall := fun _ => none

namespace Executor

/-- Whether everything is cancelled at time `t`. -/
def isCancelled (x : Executor) (t : Nat) : Bool :=
  x.cancelAt?.any (· ≤ t)

/-- The kind of the data that a chain starts with; no data counts as none. -/
def seedKind? (seed : Flow) : Option Kind :=
  if seed.kind = .nothing then none else some seed.kind

/-- Refuses a chain that does not fit together. -/
def check (x : Executor) (chain : List ChainStep) (seed? : Option Kind) : Except ChainError Unit :=
  (Chain.check (chain.map ChainStep.definition) seed? x.chainLimit).mapError .command

/-- The binding of a step with the output of its predecessor put in. -/
def pipedBinding (step : ChainStep) (index : Nat) (data : Flow) : Except CommandError Binding :=
  match data.value? with
  | some value =>
    if Chain.isPiped step.definition index then step.binding.pipe step.definition value
    else .ok step.binding
  | none => .ok step.binding

/-- Refuses a binding that leaves a required default key open. -/
def requireDefault (d : Definition) (b : Binding) : Except CommandError Unit :=
  match d.defaultArgument? with
  | some a =>
    if a.required && (b.get? a.key).isNone then .error (.missingArgument d.name a.key) else .ok ()
  | none => .ok ()

/-- Refuses data of another kind where the command requires its input. -/
def requireInput (d : Definition) (data : Flow) : Except CommandError Unit :=
  if d.requireInput && data.kind != d.input then .error (.inputRequired d.name) else .ok ()

/-- The binding with which a step may start on the given data. -/
def ready (step : ChainStep) (index : Nat) (data : Flow) : Except CommandError Binding := do
  let binding ← pipedBinding step index data
  requireDefault step.definition binding
  requireInput step.definition data
  return binding

/-- The binding with which a step starts at the given time, unless everything is cancelled. -/
def start (x : Executor) (step : ChainStep) (index : Nat) (data : Flow) (clock : Nat) :
    Except ChainError Binding :=
  if x.isCancelled clock then .error .cancelled
  else (ready step index data).mapError .command

/-- The failure of a task that broke down. -/
def breakdown : Failure :=
  .internal "task panicked"

/-- Checks what a task yielded, if it ended at all. -/
def outputOf (x : Executor) (d : Definition) :
    Routine.Ending TaskOutput → Option (Except ChainError TaskOutput)
  | .returned output =>
    if output.data.kind = d.output then some (.ok output)
    else some (.error (.outputMismatch d.name output.data.kind d.output))
  | .failed failure => some (.error (.task d.name failure))
  | .panicked => some (.error (.task d.name breakdown))
  | .timedOut => some (.error (.stepTimeout d.name (x.stepTimeout?.getD 0)))
  | .cancelled => some (.error .cancelled)
  | .stuck => none

/-- The bounds of what begins at the given time. -/
def boundsAt (x : Executor) (clock : Nat) : Routine.Bounds :=
  { deadline? := x.stepTimeout?.map (clock + ·), cancelAt? := x.cancelAt? }

/-- What the task of a step at a position of the chain knows besides its arguments. -/
def contextOf (x : Executor) (step : ChainStep) (index : Nat) : TaskContext :=
  { definition := step.definition
    guild? := x.guild?
    author := x.author
    catalog := x.catalog
    turn := index }

/-- Runs the task of a step at a position of the chain. -/
def runTask (x : Executor) (index : Nat) (step : ChainStep) (binding : Binding) (input : Flow)
    (scene : Routine.Scene) : Routine.Ending TaskOutput × Routine.Scene :=
  ((step.command.task (x.contextOf step index) binding input).stalling (x.stalls index)).run
    (x.boundsAt scene.clock) scene

/-- What a step that yielded `output` adds to the reply. -/
def summarize (d : Definition) (output : TaskOutput) (elapsedMs : Nat) : StepSummary :=
  { command := d.name
    text? := output.replyText?
    mode := output.mode
    suppressEmbeds := output.suppressEmbeds
    elapsedMs }

/-- Runs the steps from position `index` on, the first of them on `data`. -/
def runFrom (x : Executor) (index : Nat) (data : Flow) :
    List ChainStep → Routine.Scene → Execution
  | [], scene => { scene, ending := .completed data }
  | step :: rest, scene =>
    match x.start step index data scene.clock with
    | .error e => { scene, ending := .failed e }
    | .ok binding =>
      let run : TaskRun := { definition := step.definition, binding, input := data }
      let (ending, finish) := x.runTask index step binding data scene
      match x.outputOf step.definition ending with
      | none => { runs := [run], scene := finish, ending := .stuck }
      | some (.error e) => { runs := [run], scene := finish, ending := .failed e }
      | some (.ok output) =>
        let summary := summarize step.definition output (finish.clock - scene.clock)
        (runFrom x (index + 1) output.data rest finish).after run summary

/-- Runs a chain, once it has been found to fit together. -/
def execute (x : Executor) (chain : List ChainStep) (seed : Flow) (scene : Routine.Scene) :
    Execution :=
  match x.check chain (seedKind? seed) with
  | .error e => { scene, ending := .failed e }
  | .ok () => x.runFrom 0 seed chain scene

end Executor

end ChatChain
