import ChatChain.Proofs.Execution

/-!
# Runs that differ in the texts of their errors

Two commands may fail at the same moments with different words.  Everything around them then stays
the same: what a routine does to the files, which tasks are started with which input, what the steps
add to the reply, and how the chain ends, up to the words of its error.

There are three groups.

* Errors.  Failures are `Alike` when users are shown the same of both, and chain errors are when
  reports and replies do not tell them apart.
* Routines.  `Routine.Alike` relates routines that ask for the same files and wait at the same
  moments, and `Routine.Alike.run` says that their runs keep in step.
* Executions.  `Command.Alike` and `ChainStep.Alike` lift the relation to steps, and
  `Executor.execute_alike` says that chains of such steps are executed alike.
-/

namespace ChatChain

open Fallible

/-! ## Errors -/

/-- Whether users are shown the same of two failures: the message of the root cause if it was
written for them, and nothing else.  Contexts do not count. -/
def Failure.Alike (f f' : Failure) : Prop :=
  f.userMessage? = f'.userMessage?

/-- Any two failures, where users are shown nothing of them. -/
def Failure.Any (_ _ : Failure) : Prop :=
  True

/-- Whether two errors look the same from outside: to who reads the report and to who gets the
reply. -/
structure ChainError.Alike (e e' : ChainError) : Prop where
  reasonCode : e.reasonCode = e'.reasonCode
  reply : ∀ mark, e.reply mark = e'.reply mark

namespace ChainError.Alike

theorem refl (e : ChainError) : e.Alike e :=
  ⟨rfl, fun _ => rfl⟩

theorem task (name : String) {f f' : Failure} (h : f.Alike f') :
    (ChainError.task name f).Alike (.task name f') where
  reasonCode := rfl
  reply mark := congrArg (fun shown : Option String => shown.getD (runReply mark name)) h

theorem platform (f f' : Failure) : (ChainError.platform f).Alike (.platform f') :=
  ⟨rfl, fun _ => rfl⟩

theorem store (f f' : Failure) : (ChainError.store f).Alike (.store f') :=
  ⟨rfl, fun _ => rfl⟩

theorem storage (f f' : Failure) : (ChainError.storage f).Alike (.storage f') :=
  ⟨rfl, fun _ => rfl⟩

end ChainError.Alike

/-! ## Routines -/

namespace Routine

variable {α : Type} {R : Failure → Failure → Prop}

/-- Whether two routines keep in step until they end, where failures may be replaced by related
ones.  A source that cannot be read may be unreadable for another reason. -/
inductive Alike (R : Failure → Failure → Prop) : Routine α → Routine α → Prop
  | done (result : α) : Alike R (done result) (done result)
  | fail {f f' : Failure} (h : R f f') : Alike R (fail f) (fail f')
  | panic : Alike R panic panic
  | hang : Alike R hang hang
  | sleep (ms : Nat) {next next' : Routine α} (h : Alike R next next') :
      Alike R (sleep ms next) (sleep ms next')
  | files (request : FileRequest) {next next' : request.Answer → Routine α}
      (h : ∀ answer, Alike R (next answer) (next' answer)) :
      Alike R (files request next) (files request next')
  | unreadable (name : String) (e e' : FileError)
      {next next' : Except FileError FileHandle → Routine α}
      (h : Alike R (next (.error e)) (next' (.error e'))) :
      Alike R (files (.copyIn name (.error e)) next) (files (.copyIn name (.error e')) next')
  | leave (request : FileRequest) (delay : Nat) {next next' : Routine α} (h : Alike R next next') :
      Alike R (leave request delay next) (leave request delay next')
  | leaveUnreadable (name : String) (e e' : FileError) (delay : Nat) {next next' : Routine α}
      (h : Alike R next next') :
      Alike R (leave (.copyIn name (.error e)) delay next)
        (leave (.copyIn name (.error e')) delay next')

/-- Whether two runs ended the same way, where failures may be replaced by related ones. -/
inductive Ending.Alike (R : Failure → Failure → Prop) : Ending α → Ending α → Prop
  | same (ending : Ending α) : Alike R ending ending
  | failed {f f' : Failure} (h : R f f') : Alike R (.failed f) (.failed f')

/-- Routines that keep in step leave the same scene behind and end the same way. -/
theorem Alike.run {x x' : Routine α} (h : Alike R x x') (b : Bounds) (scene : Scene) :
    Ending.Alike R (x.run b scene).1 (x'.run b scene).1 ∧
      (x.run b scene).2 = (x'.run b scene).2 := by
  induction h generalizing scene with
  | done result => exact ⟨.same _, rfl⟩
  | fail h => exact ⟨.failed h, rfl⟩
  | panic => exact ⟨.same _, rfl⟩
  | hang => exact ⟨.same _, rfl⟩
  | sleep ms h ih =>
    unfold Routine.run
    cases b.interruption? (some (scene.clock + ms)) with
    | none => exact ih _
    | some stop => exact ⟨.same _, rfl⟩
  | files request h ih => exact ih _ _
  | unreadable name e e' h ih => exact ih _
  | leave request delay h ih => exact ih _
  | leaveUnreadable name e e' delay h ih => exact ih _

/-- Routines that keep in step do so when the same request of both stalls. -/
theorem Alike.stallAfter {x x' : Routine α} (h : Alike R x x') (delay answered : Nat) :
    Alike R (x.stallAfter delay answered) (x'.stallAfter delay answered) := by
  induction h generalizing answered with
  | done result => exact .done result
  | fail h => exact .fail h
  | panic => exact .panic
  | hang => exact .hang
  | sleep ms h ih => exact .sleep ms (ih answered)
  | files request h ih =>
    unfold Routine.stallAfter
    split
    · cases answered with
      | zero => exact .leave request delay .hang
      | succ answered => exact .files request fun answer => ih answer answered
    · exact .files request fun answer => ih answer answered
  | unreadable name e e' h ih =>
    cases answered with
    | zero => exact .leaveUnreadable name e e' delay .hang
    | succ answered => exact .unreadable name e e' (ih answered)
  | leave request left h ih => exact .leave request left (ih answered)
  | leaveUnreadable name e e' left h ih => exact .leaveUnreadable name e e' left (ih answered)

theorem Alike.stalling {x x' : Routine α} (h : Alike R x x') (stall? : Option Stall) :
    Alike R (x.stalling stall?) (x'.stalling stall?) := by
  cases stall? with
  | none => exact h
  | some stall => exact h.stallAfter stall.delay stall.answered

end Routine

/-! ## Executions -/

/-- Whether two commands have the same definition and tasks that keep in step, except for the words
of their failures that users are not shown. -/
structure Command.Alike (c c' : Command) : Prop where
  definition : c.definition = c'.definition
  task : ∀ context binding input,
    Routine.Alike Failure.Alike (c.task context binding input) (c'.task context binding input)

/-- Whether two steps are bound alike to commands that are alike. -/
structure ChainStep.Alike (s s' : ChainStep) : Prop where
  command : s.command.Alike s'.command
  entity? : s.entity? = s'.entity?
  binding : s.binding = s'.binding

/-- Whether two chains ended alike. -/
inductive ChainEnding.Alike : ChainEnding → ChainEnding → Prop
  | same (ending : ChainEnding) : Alike ending ending
  | failed {e e' : ChainError} (h : e.Alike e') : Alike (.failed e) (.failed e')

/-- Whether the same happened while two chains ran, up to the words of an error. -/
structure Execution.Alike (e e' : Execution) : Prop where
  runs : e.runs = e'.runs
  steps : e.steps = e'.steps
  scene : e.scene = e'.scene
  ending : e.ending.Alike e'.ending

theorem Execution.Alike.after {e e' : Execution} (h : e.Alike e') (run : TaskRun)
    (summary : StepSummary) : (e.after run summary).Alike (e'.after run summary) where
  runs := congrArg (run :: ·) h.runs
  steps := congrArg (summary :: ·) h.steps
  scene := h.scene
  ending := h.ending

theorem ChainStep.Alike.definition {s s' : ChainStep} (h : s.Alike s') :
    s.definition = s'.definition :=
  h.command.definition

/-- Chains of steps that are alike have the same definitions. -/
theorem map_definition_of_alike {chain chain' : List ChainStep}
    (h : List.Forall₂ ChainStep.Alike chain chain') :
    chain.map ChainStep.definition = chain'.map ChainStep.definition := by
  induction h with
  | nil => rfl
  | cons hstep _ ih => rw [List.map_cons, List.map_cons, hstep.definition, ih]

namespace Executor

variable {x : Executor} {s s' : ChainStep} {chain chain' : List ChainStep}

theorem start_alike (h : s.Alike s') (index : Nat) (data : Flow) (clock : Nat) :
    x.start s index data clock = x.start s' index data clock := by
  unfold start ready pipedBinding
  rw [h.definition, h.binding]

/-- Endings that are alike are judged alike. -/
theorem outputOf_alike (d : Definition) {ending ending' : Routine.Ending TaskOutput}
    (h : ending.Alike Failure.Alike ending') :
    Option.Rel (Agree ChainError.Alike Eq) (x.outputOf d ending) (x.outputOf d ending') := by
  cases h with
  | failed h => exact .some (.error (.task d.name h))
  | same =>
    cases x.outputOf d ending with
    | none => exact .none
    | some result => exact .some (.refl ChainError.Alike.refl result)

/-- Steps that are alike run their tasks alike. -/
theorem runTask_alike (h : s.Alike s') (index : Nat) (binding : Binding) (input : Flow)
    (scene : Routine.Scene) :
    (x.runTask index s binding input scene).1.Alike Failure.Alike
        (x.runTask index s' binding input scene).1 ∧
      (x.runTask index s binding input scene).2 = (x.runTask index s' binding input scene).2 := by
  unfold runTask contextOf
  rw [h.definition]
  exact ((h.command.task _ binding input).stalling _).run _ scene

/-- From any position on, chains of steps that are alike are run alike. -/
theorem runFrom_alike (h : List.Forall₂ ChainStep.Alike chain chain') (index : Nat) (data : Flow)
    (scene : Routine.Scene) :
    (x.runFrom index data chain scene).Alike (x.runFrom index data chain' scene) := by
  induction h generalizing index data scene with
  | nil => exact ⟨rfl, rfl, rfl, .same _⟩
  | @cons s s' rest rest' hstep _ ih =>
    unfold runFrom
    rw [start_alike hstep]
    cases x.start s' index data scene.clock with
    | error e => exact ⟨rfl, rfl, rfl, .same _⟩
    | ok binding =>
      obtain ⟨hending, hscene⟩ := runTask_alike (x := x) hstep index binding data scene
      have houtput := outputOf_alike (x := x) s'.definition hending
      simp only [hstep.definition, hscene]
      revert houtput
      generalize x.outputOf s'.definition (x.runTask index s binding data scene).1 = result
      generalize x.outputOf s'.definition (x.runTask index s' binding data scene).1 = result'
      intro houtput
      cases houtput with
      | none => exact ⟨rfl, rfl, rfl, .same _⟩
      | some hresult =>
        cases hresult with
        | error h => exact ⟨rfl, rfl, rfl, .failed h⟩
        | ok h =>
          subst h
          exact (ih _ _ _).after _ _

/-- Chains of steps that are alike are executed alike. -/
theorem execute_alike (h : List.Forall₂ ChainStep.Alike chain chain') (seed : Flow)
    (scene : Routine.Scene) : (x.execute chain seed scene).Alike (x.execute chain' seed scene) := by
  unfold execute check
  rw [map_definition_of_alike h]
  split
  · exact ⟨rfl, rfl, rfl, .same _⟩
  · exact runFrom_alike h 0 seed scene

end Executor

end ChatChain
