import ChatChain.Builtin.Number
import ChatChain.Proofs.Execution

/-!
# Tasks run one after the other

A chain that passed its check starts its tasks in the order of the steps.  Every task after the
first is started on what the one before it returned, and only once that one returned data of the
declared kind.  The count of finished steps and their summaries keep up with the tasks on every way
in which the chain may end.

There are three groups.

* One task.  `Start` is a task that was started with all that its run depends on, `Start.output?`
  what it passes on, and `Start.Hands` relates it to the next one.
* The run.  `FlowsFrom` says what the starts of a run have to do with its record, `FlowsFrom.cons`
  puts a task in front that passes something on, and `runFrom_flows` is the induction over the
  steps.
* The result.  `execute_runs_in_order` says it of whole chains.
-/

namespace ChatChain

/-! ## One task -/

/-- A task that was started: its step with the position of that, and what the step was run on. -/
structure Start where
  index : Nat
  step : ChainStep
  binding : Binding
  input : Flow
  before : Routine.Scene

namespace Start

variable (x : Executor)

/-- What is on record of a start. -/
def run (s : Start) : TaskRun :=
  { definition := s.step.definition, binding := s.binding, input := s.input }

/-- How the task ended. -/
def ending (s : Start) : Routine.Ending TaskOutput :=
  (x.runTask s.index s.step s.binding s.input s.before).1

/-- The scene that the task left behind. -/
def after (s : Start) : Routine.Scene :=
  (x.runTask s.index s.step s.binding s.input s.before).2

/-- The output of a task that returned data of the declared kind. -/
def output? (s : Start) : Option TaskOutput :=
  match s.ending x with
  | .returned output => if output.data.kind = s.step.definition.output then some output else none
  | _ => none

/-- What a task that returned data of the declared kind adds to the reply: its own text, with its
own mode and its own wish about embeds. -/
def summary? (s : Start) : Option StepSummary :=
  (s.output? x).map fun output =>
    { command := s.step.definition.name
      text? := output.replyText?
      mode := output.mode
      suppressEmbeds := output.suppressEmbeds
      elapsedMs := (s.after x).clock - s.before.clock }

/-- Whether the task was started at a position of a chain, with the binding that its step gets
there. -/
structure IsReady (index : Nat) (s : Start) : Prop where
  position : s.index = index
  bound : x.start s.step index s.input s.before.clock = .ok s.binding

/-- Whether a task was started right after another one, on what that one passed on. -/
def Hands (s t : Start) : Prop :=
  ∃ output, s.output? x = some output ∧ t.input = output.data ∧ t.before = s.after x

end Start

namespace Executor

variable {x : Executor}

/-- A step is finished when its task returned data of the declared kind. -/
theorem outputOf_eq_ok_iff {s : Start} {output : TaskOutput} :
    x.outputOf s.step.definition (s.ending x) = some (.ok output) ↔ s.output? x = some output := by
  unfold Start.output?
  cases s.ending x with
  | returned result =>
    simp only [outputOf]
    split <;> simp
  | failed failure => simp [outputOf]
  | panicked => simp [outputOf]
  | timedOut => simp [outputOf]
  | cancelled => simp [outputOf]
  | stuck => simp [outputOf]

/-! ## The run -/

/-- The data that is at hand after some tasks. -/
def dataAfter (x : Executor) (seed : Flow) (starts : List Start) : Flow :=
  starts.foldl (fun data s => ((s.output? x).map TaskOutput.data).getD data) seed

/-- The scene that some tasks leave behind. -/
def sceneAfter (x : Executor) (scene : Routine.Scene) (starts : List Start) : Routine.Scene :=
  starts.foldl (fun _ s => s.after x) scene

theorem dataAfter_cons {s : Start} {output : TaskOutput} (h : s.output? x = some output)
    (seed : Flow) (starts : List Start) :
    x.dataAfter seed (s :: starts) = x.dataAfter output.data starts := by
  simp [dataAfter, h]

/-- The data at hand is what the last task returned. -/
theorem dataAfter_concat {s : Start} {output : TaskOutput} (h : s.output? x = some output)
    (seed : Flow) (starts : List Start) : x.dataAfter seed (starts ++ [s]) = output.data := by
  simp [dataAfter, h]

/-- How a chain may end after some tasks, where it begins at a position on a seed in a scene. -/
inductive EndsAfter (x : Executor) (index : Nat) (chain : List ChainStep) (seed : Flow)
    (scene : Routine.Scene) (starts : List Start) : ChainEnding → Prop
  /-- Every step passed something on. -/
  | completed (hall : starts.map Start.step = chain)
      (hreturned : ∀ s ∈ starts, (s.output? x).isSome = true) :
      EndsAfter x index chain seed scene starts (.completed (x.dataAfter seed starts))
  /-- The next step may not start. -/
  | refused {step : ChainStep} {error : ChainError}
      (hnext : chain[starts.length]? = some step)
      (hreturned : ∀ s ∈ starts, (s.output? x).isSome = true)
      (hstart : x.start step (index + starts.length) (x.dataAfter seed starts)
        (x.sceneAfter scene starts).clock = .error error) :
      EndsAfter x index chain seed scene starts (.failed error)
  /-- The last task that was started failed. -/
  | broken {earlier : List Start} {last : Start} {error : ChainError}
      (hstarts : starts = earlier ++ [last])
      (hreturned : ∀ s ∈ earlier, (s.output? x).isSome = true)
      (hlast : x.outputOf last.step.definition (last.ending x) = some (.error error)) :
      EndsAfter x index chain seed scene starts (.failed error)
  /-- The last task that was started waits for ever. -/
  | stuck {earlier : List Start} {last : Start} (hstarts : starts = earlier ++ [last])
      (hreturned : ∀ s ∈ earlier, (s.output? x).isSome = true)
      (hlast : x.outputOf last.step.definition (last.ending x) = none) :
      EndsAfter x index chain seed scene starts .stuck

/-- What the starts of a run have to do with its record, where the chain begins at a position on a
seed in a scene. -/
structure FlowsFrom (x : Executor) (index : Nat) (chain : List ChainStep) (seed : Flow)
    (scene : Routine.Scene) (starts : List Start) (e : Execution) : Prop where
  runs : e.runs = starts.map Start.run
  /-- The steps are started in the order of the chain, each of them once. -/
  order : starts.map Start.step <+: chain
  first : ∀ s ∈ starts.head?, s.input = seed ∧ s.before = scene
  /-- Every task but the first is started on what the one before it returned. -/
  handed : starts.IsChain (Start.Hands x)
  /-- A task is started with the binding that its step gets on its input. -/
  ready : ∀ (k : Nat) (s : Start), starts[k]? = some s → s.IsReady x (index + k)
  steps : e.steps = starts.filterMap (Start.summary? x)
  leaves : e.scene = x.sceneAfter scene starts
  ending : EndsAfter x index chain seed scene starts e.ending

/-- A chain that ends before its first task. -/
theorem FlowsFrom.of_no_start {index : Nat} {chain : List ChainStep} {seed : Flow}
    {scene : Routine.Scene} {ending : ChainEnding}
    (h : EndsAfter x index chain seed scene [] ending) :
    FlowsFrom x index chain seed scene [] { scene, ending } :=
  ⟨rfl, List.nil_prefix, by simp, .nil, by simp, rfl, rfl, h⟩

/-- A chain that ends with its first task. -/
theorem FlowsFrom.of_single_start {index : Nat} {rest : List ChainStep} {s : Start}
    {ending : ChainEnding} (hstart : s.IsReady x index) (hnone : s.output? x = none)
    (h : EndsAfter x index (s.step :: rest) s.input s.before [s] ending) :
    FlowsFrom x index (s.step :: rest) s.input s.before [s]
      { runs := [s.run], scene := s.after x, ending } where
  runs := rfl
  order := by simp
  first := by simp
  handed := .singleton s
  ready k t ht := by
    obtain ⟨rfl, rfl⟩ : k = 0 ∧ s = t := by
      rcases k with _ | k
      · simpa using ht
      · simp at ht
    exact hstart
  steps := by simp [Start.summary?, hnone]
  leaves := rfl
  ending := h

/-- A task that passes something on may be put in front of a chain that is run on that. -/
theorem EndsAfter.cons {index : Nat} {rest : List ChainStep} {s : Start} {output : TaskOutput}
    {starts : List Start} {ending : ChainEnding} (houtput : s.output? x = some output)
    (h : EndsAfter x (index + 1) rest output.data (s.after x) starts ending) :
    EndsAfter x index (s.step :: rest) s.input s.before (s :: starts) ending := by
  have hcons : ∀ {others : List Start}, (∀ t ∈ others, (t.output? x).isSome = true) →
      ∀ t ∈ s :: others, (t.output? x).isSome = true := by
    intro others hothers t ht
    rcases List.mem_cons.1 ht with rfl | ht
    · simp [houtput]
    · exact hothers t ht
  cases h with
  | completed hall hreturned =>
    rw [← dataAfter_cons houtput s.input]
    exact .completed (by simp [hall]) (hcons hreturned)
  | refused hnext hreturned hstart =>
    refine .refused (by simpa using hnext) (hcons hreturned) ?_
    rw [dataAfter_cons houtput, List.length_cons, ← Nat.add_assoc, Nat.add_right_comm]
    exact hstart
  | @broken earlier last error hstarts hreturned hlast =>
    have hlonger : s :: starts = (s :: earlier) ++ [last] := by rw [hstarts, List.cons_append]
    exact .broken hlonger (hcons hreturned) hlast
  | @stuck earlier last hstarts hreturned hlast =>
    have hlonger : s :: starts = (s :: earlier) ++ [last] := by rw [hstarts, List.cons_append]
    exact .stuck hlonger (hcons hreturned) hlast

theorem FlowsFrom.cons {index : Nat} {rest : List ChainStep} {s : Start} {output : TaskOutput}
    {starts : List Start} {e : Execution} (hstart : s.IsReady x index)
    (houtput : s.output? x = some output)
    (h : FlowsFrom x (index + 1) rest output.data (s.after x) starts e) :
    FlowsFrom x index (s.step :: rest) s.input s.before (s :: starts)
      (e.after s.run
        (summarize s.step.definition output ((s.after x).clock - s.before.clock))) where
  runs := by simp [Execution.after, h.runs]
  order := by simpa using h.order
  first := by simp
  handed := List.isChain_cons.2 ⟨fun t ht => ⟨output, houtput, h.first t ht⟩, h.handed⟩
  ready k t ht := by
    cases k with
    | zero =>
      obtain rfl : s = t := by simpa using ht
      exact hstart
    | succ k => exact Nat.add_right_comm index 1 k ▸ h.ready k t (by simpa using ht)
  steps := by simp [Execution.after, h.steps, Start.summary?, houtput, summarize]
  leaves := h.leaves
  ending := h.ending.cons houtput

/-- A run from any position of a chain is one of tasks that hand their outputs on. -/
theorem runFrom_flows (x : Executor) (index : Nat) (data : Flow) (chain : List ChainStep)
    (scene : Routine.Scene) :
    ∃ starts, FlowsFrom x index chain data scene starts (x.runFrom index data chain scene) := by
  induction chain generalizing index data scene with
  | nil => exact ⟨[], .of_no_start (.completed rfl (by simp))⟩
  | cons step rest ih =>
    rw [runFrom]
    split
    · next e hstart => exact ⟨[], .of_no_start (.refused rfl (by simp) hstart)⟩
    · next binding hstart =>
      let s : Start := { index, step, binding, input := data, before := scene }
      have hready : s.IsReady x index := ⟨rfl, hstart⟩
      have hunpassed : ∀ {result}, x.outputOf s.step.definition (s.ending x) = result →
          (∀ output, result ≠ some (.ok output)) → s.output? x = none := by
        intro result hresult hnot
        cases houtput : s.output? x with
        | none => rfl
        | some output =>
          exact absurd (hresult.symm.trans (outputOf_eq_ok_iff.2 houtput)) (hnot output)
      simp only
      split
      · next hstuck =>
        exact ⟨[s], .of_single_start hready (hunpassed hstuck (by simp))
          (.stuck (List.nil_append [s]).symm (by simp) hstuck)⟩
      · next e hfailed =>
        exact ⟨[s], .of_single_start hready (hunpassed hfailed (by simp))
          (.broken (List.nil_append [s]).symm (by simp) hfailed)⟩
      · next output hreturned =>
        obtain ⟨starts, hstarts⟩ := ih (index + 1) output.data (s.after x)
        exact ⟨s :: starts, hstarts.cons hready (outputOf_eq_ok_iff.1 hreturned)⟩

/-! ## The result -/

/-- Where every task passes something on, each of them has a summary. -/
theorem map_summary?_eq {starts : List Start}
    (hreturned : ∀ s ∈ starts, (s.output? x).isSome = true) :
    starts.map (Start.summary? x) = (starts.filterMap (Start.summary? x)).map some := by
  induction starts with
  | nil => rfl
  | cons s starts ih =>
    obtain ⟨output, houtput⟩ := Option.isSome_iff_exists.1 (hreturned s List.mem_cons_self)
    have hrest := ih fun t ht => hreturned t (List.mem_cons_of_mem _ ht)
    simp [Start.summary?, houtput, hrest]

namespace FlowsFrom

variable {index : Nat} {chain : List ChainStep} {seed : Flow} {scene : Routine.Scene}
  {starts : List Start} {e : Execution}

/-- The finished steps are those whose tasks returned data of the declared kind. -/
theorem completed_eq (h : FlowsFrom x index chain seed scene starts e) :
    e.completed = starts.countP fun s => (s.output? x).isSome := by
  unfold Execution.completed
  rw [h.steps, List.length_filterMap_eq_countP]
  simp only [Start.summary?, Option.isSome_map]

/-- As long as every task passes something on, all of them count as finished. -/
theorem completed_of_returned (h : FlowsFrom x index chain seed scene starts e)
    (hreturned : ∀ s ∈ starts, (s.output? x).isSome = true) : e.completed = starts.length := by
  rw [h.completed_eq, List.countP_eq_length]
  exact hreturned

/-- What a chain that completes has run, and what it returns. -/
theorem of_completed (h : FlowsFrom x index chain seed scene starts e) {data : Flow}
    (hending : e.ending = .completed data) :
    starts.map Start.step = chain ∧ e.completed = chain.length ∧
      starts.map (Start.summary? x) = e.steps.map some ∧ (chain = [] → data = seed) ∧
      ∀ last ∈ starts.getLast?, (last.output? x).map TaskOutput.data = some data := by
  have hends := h.ending
  rw [hending] at hends
  cases hends with
  | completed hall hreturned =>
    refine ⟨hall, ?_, ?_, fun hnil => ?_, fun last hlast => ?_⟩
    · rw [h.completed_of_returned hreturned, ← hall, List.length_map]
    · rw [h.steps, map_summary?_eq hreturned]
    · obtain rfl : starts = [] := by simpa [hnil] using hall
      rfl
    · obtain ⟨earlier, rfl⟩ := List.getLast?_eq_some_iff.1 hlast
      obtain ⟨output, houtput⟩ := Option.isSome_iff_exists.1 (hreturned last (by simp))
      rw [dataAfter_concat houtput, houtput]
      rfl

/-- Where a chain that fails has stopped: before a step, or with the task that it started last. -/
theorem of_failed (h : FlowsFrom x index chain seed scene starts e) {error : ChainError}
    (hending : e.ending = .failed error) :
    ∃ step, chain[e.completed]? = some step ∧
      (starts.length = e.completed ∧ x.start step (index + e.completed) (x.dataAfter seed starts)
          (x.sceneAfter scene starts).clock = .error error ∨
        ∃ earlier last, starts = earlier ++ [last] ∧ earlier.length = e.completed ∧
          last.step = step ∧ x.outputOf step.definition (last.ending x) = some (.error error)) := by
  have hends := h.ending
  rw [hending] at hends
  cases hends with
  | @refused step error hnext hreturned hstart =>
    have hcount := h.completed_of_returned hreturned
    exact ⟨step, hcount ▸ hnext, Or.inl ⟨hcount.symm, hcount ▸ hstart⟩⟩
  | @broken earlier last error hstarts hreturned hlast =>
    subst hstarts
    have hnone : (last.output? x).isSome = false := by
      cases houtput : last.output? x with
      | none => rfl
      | some output =>
        exact absurd (hlast.symm.trans (outputOf_eq_ok_iff.2 houtput)) (by simp)
    have hcount : e.completed = earlier.length := by
      rw [h.completed_eq, List.countP_append, List.countP_eq_length.2 hreturned]
      simp [hnone]
    refine ⟨last.step, ?_, Or.inr ⟨earlier, last, rfl, hcount.symm, rfl, hlast⟩⟩
    obtain ⟨rest, rfl⟩ := h.order
    simp [hcount]

end FlowsFrom

/-- A chain that fits together is run from its first step on. -/
theorem execute_flows {chain : List ChainStep} {seed : Flow}
    (hcheck : x.check chain (seedKind? seed) = .ok ()) (scene : Routine.Scene) :
    ∃ starts, FlowsFrom x 0 chain seed scene starts (x.execute chain seed scene) := by
  rw [execute_of_check hcheck]
  exact runFrom_flows x 0 seed chain scene

/-- A chain that is refused starts nothing.  Any other starts its tasks in order, each on what the
one before it returned, and its record keeps up with them: it counts the tasks that returned data of
the declared kind; a chain that completes has run all its steps, and one that fails has stopped at
the step that its count says. -/
theorem execute_runs_in_order (x : Executor) (chain : List ChainStep) (seed : Flow)
    (scene : Routine.Scene) :
    let e := x.execute chain seed scene
    (∀ error, x.check chain (seedKind? seed) = .error error →
      e.runs = [] ∧ e.completed = 0 ∧ e.ending = .failed error ∧ e.scene = scene) ∧
    (x.check chain (seedKind? seed) = .ok () →
      ∃ starts, FlowsFrom x 0 chain seed scene starts e ∧
        (e.completed = starts.countP fun s => (s.output? x).isSome) ∧
        (∀ data, e.ending = .completed data →
          starts.map Start.step = chain ∧ e.completed = chain.length ∧
            starts.map (Start.summary? x) = e.steps.map some ∧ (chain = [] → data = seed) ∧
            ∀ last ∈ starts.getLast?, (last.output? x).map TaskOutput.data = some data) ∧
        ∀ error, e.ending = .failed error → ∃ step, chain[e.completed]? = some step ∧
          (starts.length = e.completed ∧ x.start step e.completed (x.dataAfter seed starts)
              (x.sceneAfter scene starts).clock = .error error ∨
            ∃ earlier last, starts = earlier ++ [last] ∧ earlier.length = e.completed ∧
              last.step = step ∧
              x.outputOf step.definition (last.ending x) = some (.error error))) := by
  intro e
  constructor
  · intro error herror
    have hexecute : e = { scene, ending := .failed error } := by
      simp only [e, execute, herror]
    rw [hexecute]
    exact ⟨rfl, rfl, rfl, rfl⟩
  · intro hcheck
    obtain ⟨starts, hstarts⟩ := execute_flows hcheck scene
    refine ⟨starts, hstarts, hstarts.completed_eq, fun data => hstarts.of_completed, ?_⟩
    intro error herror
    simpa only [Nat.zero_add] using hstarts.of_failed herror

end Executor

namespace Adding

def executor : Executor :=
  { catalog := [], chainLimit := 10, stepTimeout? := none, author := "someone", guild? := none }

/-- One step of `add`, with the value that the user typed, if any. -/
def step (typed? : Option Int32) (amount : Int64) : ChainStep where
  command := Builtin.addCommand
  binding :=
    { values := Dict.ofList
        ((typed?.map fun value => ("value", .integer value)).toList ++ [("amount", .long amount)])
      explicit := Dict.ofList (typed?.map fun _ => ("value", ())).toList }

/-- The steps of `%add 5 %add -amount 2147483647 %add`.  The second sum is too large. -/
def chain : List ChainStep :=
  [step (some 5) 1, step none 2147483647, step none 1]

def scene : Routine.Scene :=
  { files := {}, store := { ledger := { directory := [] } }, clock := 0 }

/-- The chain stops with its second task, after one finished step. -/
theorem runs_in_order :
    ∃ starts, Executor.FlowsFrom executor 0 chain .nothing scene starts
        (executor.execute chain .nothing scene) ∧
      starts.map Start.step = chain.take 2 ∧
      (executor.execute chain .nothing scene).completed = 1 := by
  have hcheck : executor.check chain (Executor.seedKind? .nothing) = .ok () := by rfl
  obtain ⟨starts, hstarts, -⟩ :=
    (Executor.execute_runs_in_order executor chain .nothing scene).2 hcheck
  have hruns : (executor.execute chain .nothing scene).runs.length = 2 := by decide +kernel
  have hcompleted : (executor.execute chain .nothing scene).completed = 1 := by decide +kernel
  rw [hstarts.runs, List.length_map] at hruns
  refine ⟨starts, hstarts, ?_, hcompleted⟩
  rw [List.prefix_iff_eq_take.1 hstarts.order, List.length_map, hruns]

end Adding

end ChatChain
