import ChatChain.Builtin.Text
import ChatChain.Proofs.DataFlow
import ChatChain.Proofs.Rejection

/-!
# Refusals in the middle of a chain

A command error is meant to come before any task runs.  Binding and the check of a chain see to
that, except for one thing that nobody can know before the tasks run: whether what a task returns
is a value for the default key of the next command.

There are five groups.

* Tasks.  `ResolvedStep.doing` gives a step another task, `bindAndExecute` is what becomes of
  written steps, and `ErrorsFirst` says that no command error comes late whatever the tasks are.
* One step.  `ChainStep.Refuses` says which values a step does not start on, and
  `ready_eq_error_iff` that it starts on all other data that fits.
* A chain that stops.  `LateRefusal` is how a chain ends with a command error after a task, and
  `commandError_cases` says that there is no other way.
* Tasks that make it stop.  `exists_lateRefusal` finds some where a step refuses a value.
* The result.  `late_command_errors_are_refusals` says which chains `ErrorsFirst` holds of.
-/

namespace ChatChain

/-! ## Tasks -/

/-- The step with another task. -/
def ResolvedStep.doing (s : ResolvedStep) (task : Task) : ResolvedStep :=
  { s with command := { s.command with task } }

/-- The step with another task. -/
def ChainStep.doing (s : ChainStep) (task : Task) : ChainStep :=
  { s with command := { s.command with task } }

/-- The task that returns the same data always. -/
def Task.always (data : Flow) : Task :=
  fun _ _ _ => .done { data }

/-- A task in front of others. -/
def Task.before (task : Task) (tasks : Nat → Task) (k : Nat) : Task :=
  Nat.casesOn k task tasks

@[simp] theorem Task.before_zero (task : Task) (tasks : Nat → Task) :
    task.before tasks 0 = task := rfl

@[simp] theorem Task.before_succ (task : Task) (tasks : Nat → Task) (k : Nat) :
    task.before tasks (k + 1) = tasks k := rfl

/-- Some data of a kind. -/
def Flow.sample : Kind → Flow
  | .nothing => .nothing
  | .text => .value (.text "")
  | .integer => .value (.integer 0)
  | .long => .value (.long 0)
  | .double => .value (.double (.ofInt 0))
  | .boolean => .value (.boolean false)
  | .choice => .value (.choice 0 "")
  | .files => .files []

@[simp] theorem Flow.kind_sample (k : Kind) : (Flow.sample k).kind = k := by
  cases k <;> rfl

@[simp] theorem ResolvedStep.definition_doing (s : ResolvedStep) (task : Task) :
    (s.doing task).definition = s.definition := rfl

@[simp] theorem ChainStep.definition_doing (c : ChainStep) (task : Task) :
    (c.doing task).definition = c.definition := rfl

theorem ResolvedStep.bind_doing (s : ResolvedStep) (task : Task) (piped : Bool) :
    (s.doing task).bind piped = (s.bind piped).map fun c => c.doing task := by
  unfold bind
  rw [definition_doing]
  simp only [doing]
  cases Binding.ofInvocation s.invocation s.definition piped <;> rfl

/-- Binding does not look at tasks. -/
theorem ResolvedStep.bindFrom_doing (tasks : Nat → Task) (index : Nat) (steps : List ResolvedStep) :
    bindFrom index (steps.mapIdx fun k s => s.doing (tasks k)) =
      (bindFrom index steps).map (List.mapIdx fun k c => c.doing (tasks k)) := by
  induction steps generalizing index tasks with
  | nil => rfl
  | cons s rest ih =>
    rw [List.mapIdx_cons, bindFrom, bindFrom, ih fun k => tasks (k + 1), bind_doing,
      definition_doing]
    cases s.bind (Chain.isPiped s.definition index) with
    | error e => rfl
    | ok c =>
      cases bindFrom (index + 1) rest with
      | error e => rfl
      | ok chain =>
        refine congrArg Except.ok ?_
        rw [List.mapIdx_cons]

theorem ResolvedStep.bindAll_doing_eq_ok_iff {tasks : Nat → Task} {steps : List ResolvedStep}
    {chain : List ChainStep} :
    bindAll (steps.mapIdx fun k s => s.doing (tasks k)) = .ok chain ↔
      ∃ bound, bindAll steps = .ok bound ∧ chain = bound.mapIdx fun k c => c.doing (tasks k) := by
  rw [bindAll, bindAll, bindFrom_doing]
  cases bindFrom 0 steps <;> simp [Except.map, eq_comm]

@[simp] theorem ChainStep.map_definition_doing (tasks : Nat → Task) (chain : List ChainStep) :
    (chain.mapIdx fun k c => c.doing (tasks k)).map ChainStep.definition =
      chain.map ChainStep.definition := by
  induction chain generalizing tasks with
  | nil => rfl
  | cons c rest ih => simp [List.mapIdx_cons, ih fun k => tasks (k + 1)]

namespace Executor

variable {x : Executor} {s : ChainStep} {index : Nat} {data : Flow}

/-- Binds written steps and executes them.  A fault of the binding ends it like any other. -/
def bindAndExecute (x : Executor) (steps : List ResolvedStep) (seed : Flow)
    (scene : Routine.Scene) : Execution :=
  match ResolvedStep.bindAll steps with
  | .error e => { scene, ending := .failed (.command e) }
  | .ok chain => x.execute chain seed scene

/-- Whether a command error comes before every task, whatever the tasks of the steps are. -/
def ErrorsFirst (x : Executor) (steps : List ResolvedStep) (seed : Flow) : Prop :=
  ∀ (tasks : Nat → Task) (scene : Routine.Scene) (error : CommandError),
    let e := x.bindAndExecute (steps.mapIdx fun k s => s.doing (tasks k)) seed scene
    e.ending = .failed (.command error) → e.runs = []

end Executor

/-! ## One step -/

/-- Whether a value cannot be put into the default key, which the user left open. -/
structure ChainStep.Refuses (s : ChainStep) (a : Argument) (v : Value) : Prop where
  key : s.definition.defaultArgument? = some a
  untyped : s.binding.isExplicit a.key = false
  unread : Value.coerce? v.render a.kind a.choices = none

/-- Whether a step starts on every value of the kind that it takes. -/
def ChainStep.TakesAll (s : ChainStep) : Prop :=
  ∀ a v, v.kind = s.definition.input → ¬s.Refuses a v

theorem ChainStep.pipe_eq_error_iff {s : ChainStep} {v : Value} {e : CommandError} :
    s.binding.pipe s.definition v = .error e ↔
      ∃ a, s.Refuses a v ∧ e = .invalidArgument s.definition.name a.key v.render a.kind := by
  unfold Binding.pipe
  constructor
  · intro h
    split at h
    · cases h
    · next a hkey =>
      split at h
      · cases h
      · next htyped =>
        split at h
        · cases h
        · next hunread =>
          exact ⟨a, ⟨hkey, by simpa using htyped, hunread⟩, (Except.error.inj h).symm⟩
  · rintro ⟨a, hrefuses, rfl⟩
    simp [hrefuses.key, hrefuses.untyped, hrefuses.unread]

namespace Executor

variable {x : Executor} {s : ChainStep} {index : Nat} {data : Flow}

theorem pipedBinding_eq_error_iff {e : CommandError} :
    pipedBinding s index data = .error e ↔
      ∃ a v, Chain.isPiped s.definition index = true ∧ data = .value v ∧ s.Refuses a v ∧
        e = .invalidArgument s.definition.name a.key v.render a.kind := by
  cases data with
  | value v =>
    unfold pipedBinding
    by_cases hpiped : Chain.isPiped s.definition index = true
    · simp [Flow.value?, hpiped, ChainStep.pipe_eq_error_iff]
    · simp [Flow.value?, hpiped]
  | nothing => simp [pipedBinding, Flow.value?]
  | files handles => simp [pipedBinding, Flow.value?]

theorem requireDefault_ne_invalidArgument {d : Definition} {b : Binding} {name key value : String}
    {kind : Kind} : requireDefault d b ≠ .error (.invalidArgument name key value kind) := by
  unfold requireDefault
  split
  · split <;> simp
  · simp

theorem requireInput_ne_invalidArgument {d : Definition} {name key value : String} {kind : Kind} :
    requireInput d data ≠ .error (.invalidArgument name key value kind) := by
  unfold requireInput
  split <;> simp

/-- A step starts on all data that fits, except on a value that its default key refuses. -/
theorem ready_eq_error_iff (hs : s.Bound (Chain.isPiped s.definition index))
    (hdata : Fits s.definition index data) {e : CommandError} :
    ready s index data = .error e ↔
      ∃ a v, Chain.isPiped s.definition index = true ∧ data = .value v ∧ s.Refuses a v ∧
        e = .invalidArgument s.definition.name a.key v.render a.kind := by
  rw [← pipedBinding_eq_error_iff]
  constructor
  · intro h
    cases hpiped : pipedBinding s index data with
    | error e' =>
      rw [ready, hpiped] at h
      exact h
    | ok b =>
      -- The other complaints are ruled out by the binding and by the kind of the data.
      rcases ready_cases hs hdata with ⟨b', hb', -⟩ | ⟨e', he', a, v, -, -, -, -, rfl⟩
      · cases hb'.symm.trans h
      · rw [ready, hpiped, Fallible.ok_bind, Fallible.bind_eq_error_iff] at he'
        rcases he' with he' | ⟨-, -, he'⟩
        · exact absurd he' requireDefault_ne_invalidArgument
        · rcases Fallible.bind_eq_error_iff.1 he' with he' | ⟨-, -, he'⟩
          · exact absurd he' requireInput_ne_invalidArgument
          · exact absurd he' Fallible.pure_ne_error
  · intro h
    rw [ready, h]
    rfl

theorem start_eq_command_iff {clock : Nat} {e : CommandError} :
    x.start s index data clock = .error (.command e) ↔
      x.isCancelled clock = false ∧ ready s index data = .error e := by
  unfold start
  cases x.isCancelled clock with
  | true => simp
  | false => cases ready s index data <;> simp

/-- The first step of a chain starts on all data that fits. -/
theorem exists_ready_first (hs : s.Bound (Chain.isPiped s.definition 0))
    (hdata : Fits s.definition 0 data) : ∃ b, ready s 0 data = .ok b := by
  cases hready : ready s 0 data with
  | ok b => exact ⟨b, rfl⟩
  | error e =>
    obtain ⟨-, -, hpiped, -⟩ := (ready_eq_error_iff hs hdata).1 hready
    exact absurd hpiped (by simp [Chain.isPiped])

/-! ## A chain that stops -/

variable {chain : List ChainStep} {steps : List ResolvedStep} {seed : Flow} {scene : Routine.Scene}
  {e : Execution} {error : CommandError}

/-- How a chain ends with a command error after a task: all tasks that were started have returned,
and the next step refuses what the last of them returned. -/
inductive LateRefusal (x : Executor) (chain : List ChainStep) (seed : Flow) (scene : Routine.Scene)
    (e : Execution) : CommandError → Prop
  | intro {earlier : List Start} {last : Start} {output : TaskOutput} {s : ChainStep}
      {a : Argument} {v : Value}
      (hflows : FlowsFrom x 0 chain seed scene (earlier ++ [last]) e)
      (hfinished : e.completed = earlier.length + 1)
      (houtput : last.output? x = some output) (hvalue : output.data = .value v)
      (hnext : chain[earlier.length + 1]? = some s)
      (hpiped : Chain.isPiped s.definition (earlier.length + 1) = true)
      (hkind : v.kind = s.definition.input) (hrefuses : s.Refuses a v) :
      LateRefusal x chain seed scene e
        (.invalidArgument s.definition.name a.key v.render a.kind)

/-- If all tasks that were started count as finished, the last of them returned. -/
theorem FlowsFrom.exists_last_output {earlier : List Start} {last : Start}
    (h : FlowsFrom x index chain seed scene (earlier ++ [last]) e)
    (hall : e.completed = (earlier ++ [last]).length) : ∃ output, last.output? x = some output := by
  rw [h.completed_eq, List.countP_eq_length] at hall
  exact Option.isSome_iff_exists.1 (hall last (by simp))

/-- What is at hand after some tasks fits the next step. -/
theorem FlowsFrom.fits_next {starts : List Start} (h : FlowsFrom x 0 chain seed scene starts e)
    (hlinks : (chain.map ChainStep.definition).IsChain Definition.Feeds)
    (hfirst : ∀ first ∈ chain.head?, Fits first.definition 0 seed)
    (hall : e.completed = starts.length) (hnext : chain[starts.length]? = some s) :
    Fits s.definition starts.length (x.dataAfter seed starts) := by
  cases starts using List.reverseRecOn with
  | nil => exact hfirst s (by simpa [List.head?_eq_getElem?] using hnext)
  | append_singleton earlier last =>
    obtain ⟨output, houtput⟩ := h.exists_last_output hall
    rw [dataAfter_concat houtput]
    have hlast : chain[earlier.length]? = some last.step := by
      obtain ⟨rest, hrest⟩ := h.order
      rw [← hrest]
      simp
    rw [List.length_append, List.length_singleton] at hnext
    intro _
    calc output.data.kind = last.step.definition.output :=
          kind_of_outputOf (outputOf_eq_ok_iff.2 houtput)
      _ = s.definition.input :=
          Chain.isChain_feeds_iff.1 hlinks earlier.length _ _ (by simp [hlast]) (by simp [hnext])

/-- A command error of a chain that fits together comes after a task. -/
theorem FlowsFrom.lateRefusal {starts : List Start}
    (h : FlowsFrom x 0 chain seed scene starts e) (hbound : BoundFrom 0 chain)
    (hlinks : (chain.map ChainStep.definition).IsChain Definition.Feeds)
    (hfirst : ∀ first ∈ chain.head?, Fits first.definition 0 seed)
    (hending : e.ending = .failed (.command error)) : LateRefusal x chain seed scene e error := by
  obtain ⟨s, hnext, ⟨hall, hstart⟩ | ⟨earlier, last, -, -, -, houtput⟩⟩ := h.of_failed hending
  · rw [Nat.zero_add, ← hall] at hstart
    rw [← hall] at hnext
    have hs : s.Bound (Chain.isPiped s.definition starts.length) := by
      simpa using hbound starts.length s hnext
    have hfits := h.fits_next hlinks hfirst hall.symm hnext
    obtain ⟨a, v, hpiped, hdata, hrefuses, rfl⟩ :=
      (ready_eq_error_iff hs hfits).1 (start_eq_command_iff.1 hstart).2
    cases starts using List.reverseRecOn with
    | nil => exact absurd hpiped (by simp [Chain.isPiped])
    | append_singleton earlier last =>
      obtain ⟨output, houtput⟩ := h.exists_last_output hall.symm
      rw [dataAfter_concat houtput] at hdata
      have hkind : v.kind = s.definition.input := by
        have hdefined := hfits (Or.inl (by simp))
        rwa [dataAfter_concat houtput, hdata] at hdefined
      rw [List.length_append, List.length_singleton] at hnext hall hpiped
      exact .intro h hall.symm houtput hdata hnext hpiped hkind hrefuses
  · exact absurd houtput (outputOf_ne_command x _ _ _)

/-- The ways in which written steps end with a command error: the binding or the check complains
before anything runs, or a step refuses what the one before it returned. -/
theorem commandError_cases (hcheck : ∀ s ∈ steps, s.definition.check = .ok ())
    (hending : (x.bindAndExecute steps seed scene).ending = .failed (.command error)) :
    (ResolvedStep.bindAll steps = .error error ∨ ∃ chain, ResolvedStep.bindAll steps = .ok chain ∧
        x.check chain (seedKind? seed) = .error (.command error)) ∧
        (x.bindAndExecute steps seed scene).runs = [] ∨
      ∃ chain, ResolvedStep.bindAll steps = .ok chain ∧
        x.check chain (seedKind? seed) = .ok () ∧
        LateRefusal x chain seed scene (x.bindAndExecute steps seed scene) error := by
  unfold bindAndExecute at hending ⊢
  cases hbind : ResolvedStep.bindAll steps with
  | error e =>
    obtain rfl : e = error := by simpa [hbind] using hending
    exact Or.inl ⟨Or.inl rfl, rfl⟩
  | ok chain =>
    simp only [hbind] at hending ⊢
    cases hfit : x.check chain (seedKind? seed) with
    | error e =>
      simp only [execute, hfit] at hending ⊢
      obtain rfl : e = .command error := by simpa using hending
      exact Or.inl ⟨Or.inr ⟨chain, rfl, hfit⟩, trivial⟩
    | ok =>
      obtain ⟨-, hstart, hlinks⟩ := Chain.check_eq_ok_iff.1 (check_eq_ok.1 hfit)
      obtain ⟨starts, hflows⟩ := execute_flows hfit scene
      have hfirst : ∀ first ∈ chain.head?, Fits first.definition 0 seed := fun first hfirst =>
        fits_of_seedKind? (hstart first.definition (by simpa using ⟨first, hfirst, rfl⟩))
      exact Or.inr ⟨chain, rfl, hfit,
        hflows.lateRefusal (ResolvedStep.bindFrom_bound hcheck hbind) hlinks hfirst hending⟩

/-! ## Tasks that make it stop -/

/-- A step whose task always returns the same data passes that on. -/
theorem runFrom_always {b : Binding} {c : ChainStep} (hnow : x.isCancelled scene.clock = false)
    (hready : ready c index data = .ok b) {d : Flow} (hkind : d.kind = c.definition.output)
    (rest : List ChainStep) :
    ∃ run summary, x.runFrom index data (c.doing (.always d) :: rest) scene =
      (x.runFrom (index + 1) d rest scene).after run summary :=
  ⟨_, _, runFrom_of_done (c := c.doing (.always d)) hnow hready (fun _ => rfl) hkind rest⟩

/-- Where a later step refuses some data of the kind that it takes, there are tasks with which the
chain stops at a step, by induction on the steps: the first step returns what the second one
refuses, if there is such data, and anything else otherwise. -/
theorem exists_lateRefusal {first : ChainStep} {rest : List ChainStep}
    (hnow : x.isCancelled scene.clock = false)
    (hlinks : ((first :: rest).map ChainStep.definition).IsChain Definition.Feeds)
    (hfirst : ∃ b, ready first index data = .ok b) {k : Nat} (hs : rest[k]? = some s) {d : Flow}
    (hkind : d.kind = s.definition.input) (hrefused : ready s (index + 1 + k) d = .error error) :
    ∃ (tasks : Nat → Task) (error : CommandError),
      let e := x.runFrom index data ((first :: rest).mapIdx fun k c => c.doing (tasks k)) scene
      e.ending = .failed (.command error) ∧ e.runs ≠ [] := by
  induction rest generalizing first index data k with
  | nil => simp at hs
  | cons second rest ih =>
    obtain ⟨b, hb⟩ := hfirst
    obtain ⟨hfeeds, htail⟩ := links_cons hlinks
    have hlink : first.definition.output = second.definition.input := hfeeds second rfl
    by_cases hbad : ∃ d e, d.kind = second.definition.input ∧ ready second (index + 1) d = .error e
    · obtain ⟨d, e, hd, he⟩ := hbad
      refine ⟨fun _ => .always d, e, ?_⟩
      rw [List.mapIdx_cons]
      obtain ⟨run, summary, hrun⟩ := runFrom_always hnow hb (hd.trans hlink.symm)
        ((second :: rest).mapIdx fun _ c => c.doing (.always d))
      have hstart : x.start (second.doing (.always d)) (index + 1) d scene.clock =
          .error (.command e) := start_eq_command_iff.2 ⟨hnow, he⟩
      rw [hrun, List.mapIdx_cons, runFrom, hstart]
      exact ⟨rfl, List.cons_ne_nil _ _⟩
    · have hgood : ∀ d, d.kind = second.definition.input →
          ∃ b, ready second (index + 1) d = .ok b := by
        intro d hd
        cases hready : ready second (index + 1) d with
        | ok b => exact ⟨b, rfl⟩
        | error e => exact absurd ⟨d, e, hd, hready⟩ hbad
      cases k with
      | zero =>
        obtain rfl : second = s := by simpa using hs
        obtain ⟨b, hb⟩ := hgood d hkind
        cases hb.symm.trans hrefused
      | succ k =>
        have hlater : ready s (index + 1 + 1 + k) d = .error error := by
          rwa [Nat.add_right_comm (index + 1) 1 k]
        obtain ⟨tasks, e, hending, -⟩ := ih htail
          (hgood (.sample second.definition.input) (by simp)) (by simpa using hs) hlater
        refine ⟨Task.before (.always (.sample first.definition.output)) tasks, e, ?_⟩
        rw [List.mapIdx_cons]
        obtain ⟨run, summary, hrun⟩ := runFrom_always hnow hb
          (d := .sample first.definition.output) (by simp)
          ((second :: rest).mapIdx fun k c => c.doing (tasks k))
        simp only [Task.before_zero, Task.before_succ]
        rw [hrun, hlink]
        exact ⟨hending, List.cons_ne_nil _ _⟩

/-! ## The result -/

/-- Whether every step behind another one starts on all values of the kind that it takes. -/
def TakesAllBehind (chain : List ChainStep) : Prop :=
  ∀ (k : Nat) s, chain[k]? = some s → Chain.isPiped s.definition k = true → s.TakesAll

theorem isCancelled_of_isCancelled_zero (h : x.isCancelled 0 = true) (t : Nat) :
    x.isCancelled t = true := by
  unfold isCancelled at h ⊢
  obtain ⟨t₀, ht₀, hle⟩ := (Option.any_eq_true _ _).1 h
  rw [ht₀]
  simp only [Option.any_some, decide_eq_true_eq] at hle ⊢
  omega

/-- Where steps take everything, none refuses anything, and where everything is cancelled from the
start, none gets to. -/
theorem LateRefusal.not_takesAllBehind (h : LateRefusal x chain seed scene e error) :
    x.isCancelled 0 = false ∧ ¬TakesAllBehind chain := by
  cases h with
  | @intro earlier last output s a v hflows _ _ _ hnext hpiped hkind hrefuses =>
    constructor
    · have hstart := (hflows.ready earlier.length last (by simp)).bound
      cases hzero : x.isCancelled 0 with
      | false => rfl
      | true => simp [start, isCancelled_of_isCancelled_zero hzero] at hstart
    · intro htakes
      exact htakes _ s hnext hpiped a v hkind hrefuses

theorem takesAllBehind_doing_iff (tasks : Nat → Task) :
    TakesAllBehind (chain.mapIdx fun k c => c.doing (tasks k)) ↔ TakesAllBehind chain := by
  have hrefuses : ∀ (c : ChainStep) (task : Task) (a : Argument) (v : Value),
      (c.doing task).Refuses a v ↔ c.Refuses a v := fun c task a v =>
    ⟨fun h => ⟨h.key, h.untyped, h.unread⟩, fun h => ⟨h.key, h.untyped, h.unread⟩⟩
  simp [TakesAllBehind, ChainStep.TakesAll, hrefuses, Option.map_eq_some_iff]

theorem check_doing (tasks : Nat → Task) (seed? : Option Kind) :
    x.check (chain.mapIdx fun k c => c.doing (tasks k)) seed? = x.check chain seed? := by
  rw [check, check, ChainStep.map_definition_doing]

/-- If a step behind another one refuses a value, there are tasks with which a command error comes
late. -/
theorem not_errorsFirst_of_refuses (hcheck : ∀ s ∈ steps, s.definition.check = .ok ())
    (hnow : x.isCancelled 0 = false) (hbind : ResolvedStep.bindAll steps = .ok chain)
    (hfit : x.check chain (seedKind? seed) = .ok ()) {k : Nat} (hs : chain[k]? = some s)
    (hpiped : Chain.isPiped s.definition k = true) {a : Argument} {v : Value}
    (hkind : v.kind = s.definition.input) (hrefuses : s.Refuses a v) :
    ¬x.ErrorsFirst steps seed := by
  intro hfirst
  obtain ⟨-, hstart, hlinks⟩ := Chain.check_eq_ok_iff.1 (check_eq_ok.1 hfit)
  have hbound : BoundFrom 0 chain := ResolvedStep.bindFrom_bound hcheck hbind
  cases chain with
  | nil => simp at hs
  | cons first rest =>
    have hready : ∃ b, ready first 0 seed = .ok b :=
      exists_ready_first (hbound 0 first rfl) (fits_of_seedKind? (hstart first.definition rfl))
    cases k with
    | zero => exact absurd hpiped (by simp [Chain.isPiped])
    | succ k =>
      have hindex : k + 1 = 0 + 1 + k := by omega
      have hfits : Fits s.definition (k + 1) (.value v) := fun _ => hkind
      have hrefused : ready s (k + 1) (.value v) =
          .error (.invalidArgument s.definition.name a.key v.render a.kind) :=
        (ready_eq_error_iff (by simpa using hbound (k + 1) s hs) hfits).2
          ⟨a, v, hpiped, rfl, hrefuses, rfl⟩
      have hclock : x.isCancelled emptyScene.clock = false := hnow
      obtain ⟨tasks, error, hending, hruns⟩ := exists_lateRefusal hclock hlinks hready
        (by simpa using hs) (d := .value v) hkind (hindex ▸ hrefused)
      have hsame : x.bindAndExecute (steps.mapIdx fun k s => s.doing (tasks k)) seed emptyScene =
          x.runFrom 0 seed ((first :: rest).mapIdx fun k c => c.doing (tasks k)) emptyScene := by
        have hbind' := (@ResolvedStep.bindAll_doing_eq_ok_iff tasks steps _).2 ⟨_, hbind, rfl⟩
        simp only [bindAndExecute, hbind', execute, check_doing, hfit]
      rw [← hsame] at hending hruns
      exact hruns (hfirst tasks emptyScene error hending)

theorem errorsFirst_iff (hcheck : ∀ s ∈ steps, s.definition.check = .ok ()) :
    x.ErrorsFirst steps seed ↔ x.isCancelled 0 = true ∨ ∀ chain,
      ResolvedStep.bindAll steps = .ok chain → x.check chain (seedKind? seed) = .ok () →
        TakesAllBehind chain := by
  constructor
  · intro hfirst
    refine or_iff_not_imp_left.2 ?_
    intro hcancelled chain hbind hfit k s hs hpiped a v hkind hrefuses
    exact not_errorsFirst_of_refuses hcheck (eq_false_of_ne_true hcancelled) hbind hfit hs hpiped
      hkind hrefuses hfirst
  · intro h tasks scene error e hending
    have hcheck' : ∀ s ∈ steps.mapIdx fun k s => s.doing (tasks k),
        s.definition.check = .ok () := by
      intro s hs
      obtain ⟨k, hk, rfl⟩ := List.mem_mapIdx.1 hs
      simpa using hcheck _ (List.getElem_mem hk)
    rcases commandError_cases hcheck' hending with ⟨-, hruns⟩ | ⟨chain', hbind', hfit', hlate⟩
    · exact hruns
    · obtain ⟨hnow, hnot⟩ := hlate.not_takesAllBehind
      obtain ⟨chain, hbind, rfl⟩ := ResolvedStep.bindAll_doing_eq_ok_iff.1 hbind'
      rw [check_doing] at hfit'
      rcases h with hcancelled | htakes
      · exact absurd (hcancelled.symm.trans hnow) (by decide)
      · exact absurd ((takesAllBehind_doing_iff tasks).2 (htakes chain hbind hfit')) hnot

/-- A command error comes before every task, whatever the tasks are, exactly when every step behind
another one starts on all values of the kind that it takes.  Where one comes after a task, the next
step has refused what that task returned. -/
theorem late_command_errors_are_refusals (x : Executor)
    (hcheck : ∀ s ∈ steps, s.definition.check = .ok ()) (seed : Flow) :
    (x.ErrorsFirst steps seed ↔ x.isCancelled 0 = true ∨ ∀ chain,
      ResolvedStep.bindAll steps = .ok chain → x.check chain (seedKind? seed) = .ok () →
        TakesAllBehind chain) ∧
    ∀ scene error, (x.bindAndExecute steps seed scene).ending = .failed (.command error) →
      (ResolvedStep.bindAll steps = .error error ∨ ∃ chain, ResolvedStep.bindAll steps = .ok chain ∧
          x.check chain (seedKind? seed) = .error (.command error)) ∧
          (x.bindAndExecute steps seed scene).runs = [] ∨
        ∃ chain, ResolvedStep.bindAll steps = .ok chain ∧
          x.check chain (seedKind? seed) = .ok () ∧
          LateRefusal x chain seed scene (x.bindAndExecute steps seed scene) error :=
  ⟨errorsFirst_iff hcheck, fun _ _ hending => commandError_cases hcheck hending⟩

end Executor

namespace Numeral

open Executor

/-- A command that takes a text and reads it as a number. -/
def numberCommand : Command where
  definition :=
    { name := "number"
      arguments := [{ key := "n", kind := .integer, required := true }]
      defaultKey? := some "n"
      input := .text
      output := .integer }
  task := fun _ binding _ => .done { data := ((binding.get? "n").map .value).getD .nothing }

/-- The steps of `%echo abc` with another command behind it. -/
def steps (second : Command) : List ResolvedStep :=
  [{ invocation := { name := "echo", positional := "abc" }, command := Builtin.echoCommand },
    { invocation := { name := second.name }, command := second }]

/-- `number` refuses what `echo` has returned. -/
theorem number_refuses_after_echo :
    (∀ s ∈ steps numberCommand, s.definition.check = .ok ()) ∧
      (Adding.executor.bindAndExecute (steps numberCommand) .nothing emptyScene).ending =
        .failed (.command (.invalidArgument "number" "n" "abc" .integer)) ∧
      (Adding.executor.bindAndExecute (steps numberCommand) .nothing emptyScene).runs.map
        (·.definition.name) = ["echo"] :=
  ⟨by decide, by decide +kernel, by decide +kernel⟩

/-- `upper` takes every text, whatever the task in front of it is. -/
theorem upper_takes_every_text :
    (∀ s ∈ steps Builtin.upperCommand, s.definition.check = .ok ()) ∧
      Adding.executor.ErrorsFirst (steps Builtin.upperCommand) .nothing := by
  have hcheck : ∀ s ∈ steps Builtin.upperCommand, s.definition.check = .ok () := by decide
  refine ⟨hcheck, (late_command_errors_are_refusals Adding.executor hcheck .nothing).1.2
    (Or.inr fun chain hbind _ k s hs hpiped a v hkind hrefuses => ?_)⟩
  obtain ⟨first, second, rfl, hdefinition⟩ : ∃ first second, chain = [first, second] ∧
      second.definition = Builtin.upperCommand.definition := by
    obtain rfl := Except.ok.inj hbind
    exact ⟨_, _, rfl, rfl⟩
  match k with
  | 0 => exact absurd hpiped (by simp [Chain.isPiped])
  | 1 =>
    obtain rfl : second = s := by simpa using hs
    have hkey := hrefuses.key
    rw [hdefinition] at hkey
    obtain rfl := Option.some.inj hkey
    have hread : Value.coerce? v.render Builtin.textArgument.kind Builtin.textArgument.choices =
        some (.text v.render) := rfl
    cases hread.symm.trans hrefuses.unread
  | k + 2 => simp at hs

end Numeral

end ChatChain
