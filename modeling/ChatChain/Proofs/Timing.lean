import ChatChain.Proofs.Execution
import Mathlib.Algebra.GroupWithZero.Nat
import Mathlib.Data.List.Forall2
import Mathlib.Data.Nat.Find

/-!
# Time limits of a chain

Every step of a chain has the whole timeout for itself, and a cancellation takes effect at once.
This module says so for chains of tasks that sleep and then return, by comparing a run with the run
of the same chain without any limit.

There are five groups.

* Sleeping.  `ChainStep.Sleeps` says that a task does nothing but sleep and return, and
  `Executor.unlimited` is the executor without timeout and cancellation.
* Limits.  `Executor.interrupts` says whether a limit falls into the time of a step, and `Apart`
  that no cancellation comes at the very end of a step or of its timeout.
* One step.  `runFrom_sleeping` says what becomes of a step with and without limits.
* The run.  `StopsAt` is a run that was interrupted in a step, `Within` compares a run with the one
  without limits, and `runFrom_within` is the induction over the steps.
* The result.  `limits_are_per_step` also speaks of the chains that are cancelled from the start.
-/

namespace ChatChain

/-! ## Sleeping -/

/-- Whether the task of a step sleeps for some milliseconds and then returns data of the declared
kind, whatever it is run on. -/
def ChainStep.Sleeps (s : ChainStep) (ms : Nat) : Prop :=
  ∀ context binding input, ∃ output : TaskOutput,
    s.command.task context binding input = .sleep ms (.done output) ∧
      output.data.kind = s.definition.output

namespace Executor

variable {x : Executor} {s : ChainStep} {index ms clock : Nat} {data : Flow}
  {scene : Routine.Scene} {binding : Binding} {rest chain : List ChainStep} {times : List Nat}

/-- The executor without any limit on time. -/
def unlimited (x : Executor) : Executor :=
  { x with stepTimeout? := none, cancelAt? := none }

/-! ## Limits -/

/-- Whether a step that takes `ms` milliseconds takes longer than the timeout. -/
def isOverdue (x : Executor) (ms : Nat) : Bool :=
  x.stepTimeout?.any (· < ms)

/-- Whether everything is cancelled before the time `t`. -/
def cancelsBefore (x : Executor) (t : Nat) : Bool :=
  x.cancelAt?.any (· < t)

/-- Whether a step that begins at `clock` and takes `ms` milliseconds is interrupted. -/
def interrupts (x : Executor) (clock ms : Nat) : Bool :=
  x.isOverdue ms || x.cancelsBefore (clock + ms)

/-- How much of `ms` milliseconds the timeout allows. -/
def allowed (x : Executor) (ms : Nat) : Nat :=
  x.stepTimeout?.elim ms (min ms)

/-- The error of a step that is interrupted: the cancellation, if it comes within the time that the
timeout allows, and else the timeout. -/
def stopError (x : Executor) (name : String) (clock ms : Nat) : ChainError :=
  if x.cancelsBefore (clock + x.allowed ms) then .cancelled
  else .stepTimeout name (x.stepTimeout?.getD 0)

/-- The time at which a step that is interrupted ends. -/
def stopTime (x : Executor) (clock ms : Nat) : Nat :=
  if x.cancelsBefore (clock + x.allowed ms) then max clock (x.cancelAt?.getD 0)
  else clock + x.stepTimeout?.getD 0

/-- What stops a sleep. -/
theorem interruption?_boundsAt (hnow : x.isCancelled clock = false) :
    (x.boundsAt clock).interruption? (α := TaskOutput) (some (clock + ms)) =
      if x.interrupts clock ms then
        some (x.stopTime clock ms,
          if x.cancelsBefore (clock + x.allowed ms) then .cancelled else .timedOut)
      else none := by
  unfold Routine.Bounds.interruption? interrupts stopTime cancelsBefore isOverdue allowed boundsAt
  unfold isCancelled at hnow
  cases htimeout : x.stepTimeout? with
  | none =>
    cases hcancel : x.cancelAt? with
    | none => simp
    | some c =>
      have hlater : clock < c := by simpa [hcancel] using hnow
      by_cases hsoon : c < clock + ms
      · simp [Option.filter, Routine.isBefore, hsoon, Nat.max_eq_right (Nat.le_of_lt hlater)]
      · simp [Option.filter, Routine.isBefore, hsoon]
  | some limit =>
    have hlimit : clock + limit < clock + ms ↔ limit < ms := by omega
    cases hcancel : x.cancelAt? with
    | none =>
      by_cases hlong : limit < ms
      · simp [Option.filter, Routine.isBefore, hlimit, hlong]
      · simp [Option.filter, Routine.isBefore, hlimit, hlong]
    | some c =>
      have hlater : clock < c := by simpa [hcancel] using hnow
      have hmax : max clock c = c := Nat.max_eq_right (Nat.le_of_lt hlater)
      by_cases hlong : limit < ms
      · have hallowed : min ms limit = limit := Nat.min_eq_right (Nat.le_of_lt hlong)
        by_cases hsoon : c < clock + ms
        · by_cases hfirst : c < clock + limit <;>
            simp [Option.filter, Routine.isBefore, hlimit, hlong, hsoon, hfirst, hallowed, hmax]
        · have hfirst : ¬c < clock + limit := by omega
          simp [Option.filter, Routine.isBefore, hlimit, hlong, hsoon, hfirst, hallowed]
      · have hallowed : min ms limit = ms := Nat.min_eq_left (Nat.le_of_not_lt hlong)
        by_cases hsoon : c < clock + ms <;>
          simp [Option.filter, Routine.isBefore, hlimit, hlong, hsoon, hallowed, hmax]

/-! ## One step -/

theorem isCancelled_unlimited (x : Executor) (t : Nat) : x.unlimited.isCancelled t = false := rfl

theorem start_eq_ready (hnow : x.isCancelled clock = false) :
    x.start s index data clock = (ready s index data).mapError .command := by
  unfold start
  rw [hnow]
  rfl

/-- The scene after some milliseconds. -/
def later (scene : Routine.Scene) (ms : Nat) : Routine.Scene :=
  { scene with clock := scene.clock + ms }

/-- A step that may not start ends the chain, with and without limits. -/
theorem runFrom_of_unready {e : CommandError} (hnow : x.isCancelled scene.clock = false)
    (hready : ready s index data = .error e) :
    x.runFrom index data (s :: rest) scene = { scene, ending := .failed (.command e) } := by
  rw [runFrom, start_eq_ready hnow, hready]
  rfl

/-- A task that sleeps asks for nothing, and so nothing stalls. -/
theorem runTask_sleep {output : TaskOutput}
    (htask : s.command.task (x.contextOf s index) binding data = .sleep ms (.done output)) :
    x.runTask index s binding data scene =
      (Routine.sleep ms (.done output)).run (x.boundsAt scene.clock) scene := by
  unfold runTask
  rw [htask, Routine.stalling_sleep, Routine.stalling_done]

/-- A step that sleeps passes the same data on with and without limits, unless it is interrupted. -/
theorem runFrom_sleeping (hs : s.Sleeps ms) (hnow : x.isCancelled scene.clock = false)
    (hready : ready s index data = .ok binding) :
    ∃ output summary, let run : TaskRun := { definition := s.definition, binding, input := data }
      (∀ rest, x.unlimited.runFrom index data (s :: rest) scene =
        (x.unlimited.runFrom (index + 1) output rest (later scene ms)).after run summary) ∧
      ∀ rest, x.runFrom index data (s :: rest) scene =
        if x.interrupts scene.clock ms then
          { runs := [run]
            scene := { scene with clock := x.stopTime scene.clock ms }
            ending := .failed (x.stopError s.definition.name scene.clock ms) }
        else (x.runFrom (index + 1) output rest (later scene ms)).after run summary := by
  obtain ⟨output, htask, hkind⟩ := hs (x.contextOf s index) binding data
  have hreturned : ∀ y : Executor, y.outputOf s.definition (.returned output) =
      some (.ok output) := fun y => by simp [outputOf, hkind]
  refine ⟨output.data, summarize s.definition output (scene.clock + ms - scene.clock),
    fun rest => ?_, fun rest => ?_⟩
  · have hrun : x.unlimited.runTask index s binding data scene =
        (.returned output, later scene ms) :=
      runTask_sleep (x := x.unlimited) htask
    rw [runFrom, start_eq_ready (isCancelled_unlimited x _), hready]
    simp only [Fallible.mapError_ok, hrun, hreturned]
    rfl
  · have hrun : x.runTask index s binding data scene =
        if x.interrupts scene.clock ms then
          (if x.cancelsBefore (scene.clock + x.allowed ms) then .cancelled else .timedOut,
            { scene with clock := x.stopTime scene.clock ms })
        else (.returned output, later scene ms) := by
      rw [runTask_sleep htask, Routine.run, interruption?_boundsAt hnow]
      cases x.interrupts scene.clock ms <;> rfl
    rw [runFrom, start_eq_ready hnow, hready]
    simp only [Fallible.mapError_ok, hrun]
    cases x.interrupts scene.clock ms with
    | false =>
      simp only [Bool.false_eq_true, if_false, hreturned]
      rfl
    | true =>
      unfold stopError
      cases x.cancelsBefore (scene.clock + x.allowed ms) <;> rfl

/-! ## The run -/

/-- The time at which a step begins, if the ones before it take their times. -/
def beginning (clock : Nat) (times : List Nat) (k : Nat) : Nat :=
  clock + (times.take k).sum

/-- Whether the step at position `k` is interrupted. -/
def interruptsAt (x : Executor) (clock : Nat) (times : List Nat) (k : Nat) : Bool :=
  times[k]?.any (x.interrupts (beginning clock times k))

/-- Whether the cancellation, if there is one, comes neither at the very end of a step nor at the
very end of its timeout. -/
def Apart (x : Executor) (clock : Nat) (times : List Nat) : Prop :=
  ∀ c, x.cancelAt? = some c → ∀ (k ms : Nat), times[k]? = some ms →
    c ≠ beginning clock times k + ms ∧
      ∀ limit, x.stepTimeout? = some limit → c ≠ beginning clock times k + limit

@[simp] theorem beginning_zero : beginning clock times 0 = clock := rfl

@[simp] theorem beginning_succ (k : Nat) :
    beginning clock (ms :: times) (k + 1) = beginning (clock + ms) times k := by
  simp [beginning, Nat.add_assoc]

@[simp] theorem interruptsAt_zero :
    x.interruptsAt clock (ms :: times) 0 = x.interrupts clock ms := rfl

@[simp] theorem interruptsAt_succ (k : Nat) :
    x.interruptsAt clock (ms :: times) (k + 1) = x.interruptsAt (clock + ms) times k := by
  simp [interruptsAt]

theorem Apart.tail (h : x.Apart clock (ms :: times)) : x.Apart (clock + ms) times := by
  intro c hc k m hm
  simpa using h c hc (k + 1) m (by simpa using hm)

/-- Behind a step that was not interrupted, nothing is cancelled yet. -/
theorem Apart.isCancelled_eq_false (h : x.Apart clock (ms :: times))
    (hpass : x.interrupts clock ms = false) : x.isCancelled (clock + ms) = false := by
  unfold interrupts cancelsBefore at hpass
  unfold isCancelled
  cases hc : x.cancelAt? with
  | none => rfl
  | some c =>
    obtain ⟨hne, -⟩ := h c hc 0 ms rfl
    have hlate : ¬c < clock + ms := by
      intro hsoon
      simp [hc, hsoon] at hpass
    rw [beginning_zero] at hne
    simp only [Option.any_some, decide_eq_false_iff_not]
    omega

/-- Whether a run was interrupted in the step at position `k`, where the chain would have run to
`p` without limits. -/
structure StopsAt (x : Executor) (clock : Nat) (chain : List ChainStep) (times : List Nat)
    (p : Execution) (k : Nat) (e : Execution) : Prop where
  completed : e.completed = k
  steps : e.steps = p.steps.take k
  /-- The tasks behind it are not started, and nothing is when everything is cancelled before. -/
  runs : e.runs = if x.isCancelled clock then [] else p.runs.take (k + 1)
  ending : ∃ s ms, chain[k]? = some s ∧ times[k]? = some ms ∧
    e.ending = .failed (x.stopError s.definition.name (beginning clock times k) ms) ∧
    e.scene.clock = x.stopTime (beginning clock times k) ms

theorem StopsAt.after {p e : Execution} {k : Nat} {run : TaskRun} {summary : StepSummary}
    (hnow : x.isCancelled clock = false) (hlater : x.isCancelled (clock + ms) = false)
    (h : x.StopsAt (clock + ms) rest times p k e) :
    x.StopsAt clock (s :: rest) (ms :: times) (p.after run summary) (k + 1)
      (e.after run summary) where
  completed := by simpa [Execution.completed, Execution.after] using h.completed
  steps := by simp [Execution.after, h.steps]
  runs := by simpa [Execution.after, hnow, hlater] using h.runs
  ending := by
    obtain ⟨t, m, ht, hm, hending, htime⟩ := h.ending
    exact ⟨t, m, by simpa using ht, by simpa using hm, by simpa [Execution.after] using hending,
      by simpa [Execution.after] using htime⟩

/-- What limits make of a run that would be `p` without them. -/
structure Within (x : Executor) (clock : Nat) (chain : List ChainStep) (times : List Nat)
    (p e : Execution) : Prop where
  passed : (∀ k < p.completed, x.interruptsAt clock times k = false) → e = p
  stopped : ∀ k < p.completed, x.interruptsAt clock times k = true →
    (∀ j < k, x.interruptsAt clock times j = false) → x.StopsAt clock chain times p k e

/-- A run that ends before its first step is finished anyhow. -/
theorem Within.refl (e : Execution) (h : e.completed = 0) : x.Within clock chain times e e :=
  ⟨fun _ => rfl, fun k hk => absurd hk (by omega)⟩

theorem Within.after {p e : Execution} {run : TaskRun} {summary : StepSummary}
    (hnow : x.isCancelled clock = false) (hpass : x.interrupts clock ms = false)
    (hlater : x.isCancelled (clock + ms) = false) (h : x.Within (clock + ms) rest times p e) :
    x.Within clock (s :: rest) (ms :: times) (p.after run summary) (e.after run summary) where
  passed hall := by
    have hsame : e = p := h.passed fun k hk => by
      simpa using hall (k + 1) (by simpa [Execution.completed, Execution.after] using hk)
    rw [hsame]
  stopped k hk hstop hfirst := by
    cases k with
    | zero => cases hpass.symm.trans hstop
    | succ k =>
      refine (h.stopped k ?_ (by simpa using hstop) fun j hj => ?_).after hnow hlater
      · simpa [Execution.completed, Execution.after] using hk
      · simpa using hfirst (j + 1) (by omega)

/-- A run that is interrupted in its first step. -/
theorem Within.of_interrupts {p : Execution} {run : TaskRun} {summary : StepSummary}
    (hnow : x.isCancelled scene.clock = false) (hstop : x.interrupts scene.clock ms = true) :
    x.Within scene.clock (s :: rest) (ms :: times) (p.after run summary)
      { runs := [run]
        scene := { scene with clock := x.stopTime scene.clock ms }
        ending := .failed (x.stopError s.definition.name scene.clock ms) } where
  passed hall := by
    cases hstop.symm.trans (hall 0 (by simp [Execution.completed, Execution.after]))
  stopped k _ _ hfirst := by
    cases k with
    | zero => exact ⟨rfl, rfl, by simp [hnow, Execution.after], s, ms, rfl, rfl, rfl, rfl⟩
    | succ k => cases hstop.symm.trans (hfirst 0 (by omega))

/-- A chain of sleeping steps keeps within its limits, by induction on the steps: a step is passed
and the rest begins when it ends, or it is interrupted. -/
theorem runFrom_within (hsleeps : List.Forall₂ ChainStep.Sleeps chain times)
    (hapart : x.Apart scene.clock times) (hnow : x.isCancelled scene.clock = false) :
    x.Within scene.clock chain times (x.unlimited.runFrom index data chain scene)
      (x.runFrom index data chain scene) := by
  induction hsleeps generalizing index data scene with
  | nil => exact .refl _ rfl
  | @cons s ms rest times hs _ ih =>
    cases hready : ready s index data with
    | error e =>
      rw [runFrom_of_unready hnow hready, runFrom_of_unready (isCancelled_unlimited x _) hready]
      exact .refl _ rfl
    | ok binding =>
      obtain ⟨output, summary, hunlimited, hlimited⟩ := runFrom_sleeping hs hnow hready
      rw [hunlimited, hlimited]
      cases hinterrupts : x.interrupts scene.clock ms with
      | true => exact .of_interrupts hnow hinterrupts
      | false =>
        have hlater := hapart.isCancelled_eq_false hinterrupts
        have hrest : x.Within (later scene ms).clock rest times
            (x.unlimited.runFrom (index + 1) output rest (later scene ms))
            (x.runFrom (index + 1) output rest (later scene ms)) := ih hapart.tail hlater
        exact hrest.after hnow hinterrupts hlater

/-- How a chain of sleeping steps ends that has no limits, if its first step is at `index`: it
completes, or the step behind those that did may not start with what it is given. -/
def EndsUnlimited (index : Nat) (chain : List ChainStep) (p : Execution) : Prop :=
  (p.completed = chain.length ∧ ∃ result, p.ending = .completed result) ∨
    ∃ s data error, chain[p.completed]? = some s ∧
      ready s (index + p.completed) data = .error error ∧ p.ending = .failed (.command error)

/-- By induction on the steps; the only fault that is left is that of a step that may not start. -/
theorem unlimited_ending (hsleeps : List.Forall₂ ChainStep.Sleeps chain times) :
    EndsUnlimited index chain (x.unlimited.runFrom index data chain scene) := by
  induction hsleeps generalizing index data scene with
  | nil => exact Or.inl ⟨rfl, data, rfl⟩
  | @cons s ms rest times hs _ ih =>
    cases hready : ready s index data with
    | error error =>
      rw [runFrom_of_unready (isCancelled_unlimited x _) hready]
      exact Or.inr ⟨s, data, error, rfl, hready, rfl⟩
    | ok binding =>
      obtain ⟨output, summary, hstep, -⟩ :=
        runFrom_sleeping (x := x.unlimited) hs (isCancelled_unlimited x _) hready
      have hunlimited : x.unlimited.runFrom index data (s :: rest) scene = _ := hstep rest
      rw [hunlimited]
      have hrest : EndsUnlimited (index + 1) rest
        (x.unlimited.runFrom (index + 1) output rest (later scene ms)) := ih
      obtain ⟨hcount, hending⟩ | ⟨t, given, error, ht, hrefuses, hending⟩ := hrest
      · exact Or.inl ⟨congrArg (· + 1) hcount, hending⟩
      · refine Or.inr ⟨t, given, error, ht, ?_, hending⟩
        rw [← hrefuses, Nat.add_assoc, Nat.add_comm 1]
        rfl

/-! ## The result -/

theorem cancelsBefore_mono {t u : Nat} (htu : t ≤ u) (h : x.cancelsBefore u = false) :
    x.cancelsBefore t = false := by
  unfold cancelsBefore at h ⊢
  cases hc : x.cancelAt? with
  | none => rfl
  | some c =>
    have hlate : ¬c < u := by simpa [hc] using h
    simpa using htu.trans (Nat.le_of_not_lt hlate)

theorem interrupts_eq_false_iff :
    x.interrupts clock ms = false ↔
      x.isOverdue ms = false ∧ x.cancelsBefore (clock + ms) = false :=
  Bool.or_eq_false_iff

/-- No step is interrupted if each of them has time enough and nothing is cancelled before the end
of the last one. -/
theorem interruptsAt_eq_false_iff (hne : times ≠ []) :
    (∀ k < times.length, x.interruptsAt clock times k = false) ↔
      (∀ ms ∈ times, x.isOverdue ms = false) ∧
        x.cancelsBefore (clock + times.sum) = false := by
  induction times generalizing clock with
  | nil => exact absurd rfl hne
  | cons ms times ih =>
    rw [List.length_cons, Nat.forall_lt_succ_left, interruptsAt_zero, interrupts_eq_false_iff]
    simp only [interruptsAt_succ, List.forall_mem_cons, List.sum_cons, ← Nat.add_assoc]
    by_cases hlast : times = []
    · subst hlast
      simp
    · rw [ih hlast]
      constructor
      · rintro ⟨⟨hfirst, -⟩, hall, hend⟩
        exact ⟨⟨hfirst, hall⟩, hend⟩
      · rintro ⟨⟨hfirst, hall⟩, hend⟩
        exact ⟨⟨hfirst, cancelsBefore_mono (Nat.le_add_right _ _) hend⟩, hall, hend⟩

/-- If everything is cancelled when the first step begins, nothing is started. -/
theorem runFrom_of_isCancelled (hnow : x.isCancelled scene.clock = true) (hne : chain ≠ []) :
    x.runFrom index data chain scene = { scene, ending := .failed .cancelled } := by
  obtain ⟨s, rest, rfl⟩ := List.exists_cons_of_ne_nil hne
  have hstart : x.start s index data scene.clock = .error .cancelled := by
    unfold start
    rw [hnow]
    rfl
  rw [runFrom, hstart]

/-- A cancellation that is there from the start comes before the first step and its timeout. -/
theorem Apart.cancelsBefore_of_isCancelled (h : x.Apart clock (ms :: times))
    (hnow : x.isCancelled clock = true) :
    x.cancelsBefore (clock + x.allowed ms) = true ∧ x.interrupts clock ms = true ∧
      x.stopTime clock ms = clock := by
  obtain ⟨c, hc, hle⟩ : ∃ c, x.cancelAt? = some c ∧ c ≤ clock := by
    simpa [isCancelled, Option.any_eq_true] using hnow
  obtain ⟨hend, hlimit⟩ := h c hc 0 ms rfl
  rw [beginning_zero] at hend
  have hfirst : x.cancelsBefore (clock + x.allowed ms) = true := by
    have hallowed : c < clock + x.allowed ms := by
      unfold allowed
      cases htimeout : x.stepTimeout? with
      | none => exact lt_of_le_of_ne (hle.trans (Nat.le_add_right _ _)) hend
      | some limit =>
        have hdeadline : c ≠ clock + limit := hlimit limit htimeout
        have hmin : c < clock + min ms limit := by omega
        exact hmin
    simpa [cancelsBefore, hc] using hallowed
  have hsoon : x.cancelsBefore (clock + ms) = true := by
    have hlt : c < clock + ms := by omega
    simpa [cancelsBefore, hc] using hlt
  exact ⟨hfirst, by simp [interrupts, hsoon], by simp [stopTime, hfirst, hc, hle]⟩

/-- The first interrupted step, if there is one among the first `n`. -/
theorem exists_first_interrupted {n : Nat}
    (h : ¬∀ k < n, x.interruptsAt clock times k = false) :
    ∃ k < n, x.interruptsAt clock times k = true ∧
      ∀ j < k, x.interruptsAt clock times j = false := by
  have hex : ∃ k, k < n ∧ x.interruptsAt clock times k = true := by simpa using h
  obtain ⟨hlt, hstop⟩ := Nat.find_spec hex
  refine ⟨Nat.find hex, hlt, hstop, fun j hj => ?_⟩
  have hnot := Nat.find_min hex hj
  simpa using fun hj' => hnot ⟨hj.trans hlt, hj'⟩

/-- A run completes within its limits if it completes without them and no step is interrupted. -/
theorem Within.completes_iff {p e : Execution} (h : x.Within clock chain times p e)
    (hlength : chain.length = times.length) (hp : EndsUnlimited index chain p) :
    (∃ result, e.ending = .completed result) ↔
      p.completed = chain.length ∧ ∀ k < times.length, x.interruptsAt clock times k = false := by
  constructor
  · rintro ⟨result, hresult⟩
    have hall : ∀ k < p.completed, x.interruptsAt clock times k = false := by
      by_contra hnot
      obtain ⟨k, hk, hstop, hfirst⟩ := exists_first_interrupted hnot
      obtain ⟨s, ms, -, -, hending, -⟩ := (h.stopped k hk hstop hfirst).ending
      cases hresult.symm.trans hending
    have hsame := h.passed hall
    subst hsame
    obtain ⟨hcount, -⟩ | ⟨-, -, error, -, -, herror⟩ := hp
    · exact ⟨hcount, by rwa [← hlength, ← hcount]⟩
    · cases hresult.symm.trans herror
  · rintro ⟨hcount, hall⟩
    have hsame := h.passed (by rwa [hcount, hlength])
    subst hsame
    obtain ⟨-, hresult⟩ | ⟨s, -, -, hs, -⟩ := hp
    · exact hresult
    · rw [hcount, List.getElem?_length] at hs
      cases hs

/-- A run that is cancelled from the start counts as interrupted in its first step. -/
theorem Apart.stopsAt_of_isCancelled {p : Execution} (h : x.Apart scene.clock (ms :: times))
    (hnow : x.isCancelled scene.clock = true) :
    x.StopsAt scene.clock (s :: rest) (ms :: times) p 0
      { scene, ending := .failed .cancelled } := by
  obtain ⟨hfirst, -, htime⟩ := h.cancelsBefore_of_isCancelled hnow
  refine ⟨rfl, rfl, by simp [hnow], s, ms, rfl, rfl, ?_, htime.symm⟩
  simp [stopError, hfirst]

/-- **Every step has the whole timeout for itself, and a cancellation takes effect at once.**

Take a chain that fits together, whose steps sleep for `times` and return.  Without limits it ends
as `p`: it completes, unless a step may not start with what it is given.  With limits it completes
if and only if `p` does, no step takes longer than the timeout, and nothing is cancelled before the
end of the last step.  Otherwise the first step that is interrupted ends it, and the steps behind
are not started.  If everything is cancelled from the start, no task is run. -/
theorem limits_are_per_step (x : Executor) (seed : Flow) (scene : Routine.Scene)
    {chain : List ChainStep} {times : List Nat}
    (hfit : x.check chain (seedKind? seed) = .ok ()) (hne : chain ≠ [])
    (hsleeps : List.Forall₂ ChainStep.Sleeps chain times)
    (hapart : x.Apart scene.clock times) :
    let e := x.execute chain seed scene
    let p := x.unlimited.execute chain seed scene
    EndsUnlimited 0 chain p ∧
    ((∃ result, e.ending = .completed result) ↔
      p.completed = chain.length ∧ (∀ ms ∈ times, x.isOverdue ms = false) ∧
        x.cancelsBefore (scene.clock + times.sum) = false) ∧
    (∀ k < p.completed, x.interruptsAt scene.clock times k = true →
      (∀ j < k, x.interruptsAt scene.clock times j = false) →
        x.StopsAt scene.clock chain times p k e) ∧
    (x.isCancelled scene.clock = true →
      e.runs = [] ∧ e.completed = 0 ∧ e.ending = .failed .cancelled) ∧
    (x.isCancelled scene.clock = false →
      (∀ k < p.completed, x.interruptsAt scene.clock times k = false) → e = p) := by
  intro e p
  have hlimited : e = x.runFrom 0 seed chain scene := execute_of_check hfit scene
  have hunlimited : p = x.unlimited.runFrom 0 seed chain scene :=
    execute_of_check (x := x.unlimited) hfit scene
  have hp : EndsUnlimited 0 chain p := hunlimited ▸ unlimited_ending hsleeps
  have hlength : chain.length = times.length := hsleeps.length_eq
  have htimes : times ≠ [] := fun h => hne (List.eq_nil_of_length_eq_zero (by simp [hlength, h]))
  rw [← interruptsAt_eq_false_iff htimes]
  refine ⟨hp, ?_⟩
  cases hnow : x.isCancelled scene.clock with
  | false =>
    have hwithin : x.Within scene.clock chain times p e := by
      rw [hlimited, hunlimited]
      exact runFrom_within hsleeps hapart hnow
    exact ⟨hwithin.completes_iff hlength hp, hwithin.stopped, fun h => absurd h (by simp),
      fun _ => hwithin.passed⟩
  | true =>
    have he : e = { scene, ending := .failed .cancelled } :=
      hlimited.trans (runFrom_of_isCancelled hnow hne)
    cases hsleeps with
    | nil => exact absurd rfl hne
    | @cons s ms rest times =>
      have hfirst : x.interrupts scene.clock ms = true :=
        (hapart.cancelsBefore_of_isCancelled hnow).2.1
      rw [he]
      refine ⟨⟨?_, ?_⟩, ?_, ?_, ?_⟩
      · rintro ⟨result, hresult⟩
        cases hresult
      · rintro ⟨-, hall⟩
        cases hfirst.symm.trans (hall 0 (Nat.zero_lt_succ _))
      · intro k _ _ hpast
        cases k with
        | zero => exact hapart.stopsAt_of_isCancelled hnow
        | succ k => cases hfirst.symm.trans (hpast 0 (Nat.zero_lt_succ _))
      · exact fun _ => ⟨rfl, rfl, rfl⟩
      · intro hlate
        cases hlate

end Executor

namespace Sleeping

open Executor (emptyScene)

/-- A step that sleeps and returns the same data whatever it is given. -/
def step (definition : Definition) (ms : Nat) (data : Flow) : ChainStep where
  command := { definition, task := fun _ _ _ => .sleep ms (.done { data }) }
  binding := {}

theorem step_sleeps {definition : Definition} {ms : Nat} {data : Flow}
    (h : data.kind = definition.output) : (step definition ms data).Sleeps ms :=
  fun _ _ _ => ⟨{ data }, rfl, h⟩

def sayDefinition : Definition := { name := "say", input := .nothing, output := .text }

def againDefinition : Definition := { name := "again", input := .text, output := .text }

/-- A command whose default key takes only some of the texts that are piped into it. -/
def numberDefinition : Definition :=
  { name := "number"
    arguments := [{ key := "n", kind := .integer, required := true }]
    defaultKey? := some "n"
    input := .text
    output := .integer }

/-- The steps of `%say %again %again`, each of which takes three milliseconds. -/
def chain : List ChainStep :=
  [step sayDefinition 3 (.text "abc"), step againDefinition 3 (.text "abc"),
    step againDefinition 3 (.text "abc")]

/-- Five milliseconds for every step, and everything is cancelled after seven. -/
def executor : Executor :=
  { catalog := [], chainLimit := 10, stepTimeout? := some 5, author := "someone", guild? := none
    cancelAt? := some 7 }

/-- A timeout of five milliseconds lets six of them pass, and the cancellation stops the last
step. -/
theorem cancelled_in_last_step :
    executor.StopsAt 0 chain [3, 3, 3] (executor.unlimited.execute chain .nothing emptyScene) 2
        (executor.execute chain .nothing emptyScene) ∧
      executor.stopError "again" 6 3 = .cancelled := by
  have hsleeps : List.Forall₂ ChainStep.Sleeps chain [3, 3, 3] :=
    .cons (step_sleeps rfl) (.cons (step_sleeps rfl) (.cons (step_sleeps rfl) .nil))
  have hapart : executor.Apart emptyScene.clock [3, 3, 3] := by
    intro c hc k ms hk
    obtain rfl : 7 = c := Option.some.inj hc
    match k, hk with
    | 0, rfl => exact ⟨by decide, by rintro limit ⟨⟩; decide⟩
    | 1, rfl => exact ⟨by decide, by rintro limit ⟨⟩; decide⟩
    | 2, rfl => exact ⟨by decide, by rintro limit ⟨⟩; decide⟩
  obtain ⟨-, -, hstops, -⟩ :=
    Executor.limits_are_per_step executor .nothing emptyScene rfl (by decide) hsleeps hapart
  exact ⟨hstops 2 (by decide +kernel) rfl (by decide), rfl⟩

/-- A chain that fits together and that nothing limits may stop all the same: `number` refuses the
text of `say`. -/
theorem refused_without_limits :
    let x := executor.unlimited
    let chain := [step sayDefinition 5 (.text "abc"), step numberDefinition 5 (.value (.integer 0))]
    let e := x.execute chain .nothing emptyScene
    x.check chain (Executor.seedKind? .nothing) = .ok () ∧
      List.Forall₂ ChainStep.Sleeps chain [5, 5] ∧
      (∀ ms ∈ [5, 5], x.isOverdue ms = false) ∧ x.cancelsBefore (5 + 5) = false ∧
      e.ending = .failed (.command (.invalidArgument "number" "n" "abc" .integer)) ∧
      e.completed = 1 ∧ ¬∃ result, e.ending = .completed result := by
  intro x chain e
  have hending : e.ending = .failed (.command (.invalidArgument "number" "n" "abc" .integer)) := by
    decide +kernel
  refine ⟨rfl, .cons (step_sleeps rfl) (.cons (step_sleeps rfl) .nil), by decide, rfl, hending,
    by decide +kernel, ?_⟩
  rintro ⟨result, hresult⟩
  cases hending.symm.trans hresult

end Sleeping

end ChatChain
