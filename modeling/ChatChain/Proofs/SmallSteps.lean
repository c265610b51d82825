import ChatChain.Proofs.SideBySide

/-!
# Writing in smaller steps

A routine asks for a written file in one request.  The store answers it in two: it hands out a path,
and then it writes there.  This module takes the two apart, so that others can have their turns
between them.

* `Routine.split` is the routine whose writes are made in two steps, and `run_split` says that this
  makes no difference to the routine by itself.
* `Keeps.of_split` says that terms that are kept in small steps are kept in large ones.
-/

namespace ChatChain.Routine

variable {α β : Type}

/-- Writes to the path of a handle and goes on with the handle. -/
def fillThen (handle : FileHandle) (content : ByteArray)
    (next : Except FileError FileHandle → Routine α) : Routine α :=
  files (.fill handle content) fun filled => next (filled.map fun _ => handle)

/-- Makes a request in the steps that it consists of. -/
def inSteps : (request : FileRequest) → (request.Answer → Routine α) → Routine α
  | .write name content, next =>
    files (.allocate name) fun handle => fillThen handle content next
  | .copyIn name (.ok content), next =>
    files (.allocate name) fun handle => fillThen handle content next
  | .copyIn name (.error e), next => files (.allocate name) fun _ => next (.error e)
  | request, next => files request next

/-- A routine that hands out a path and writes there in two steps. -/
def split : Routine α → Routine α
  | files request next => inSteps request fun answer => split (next answer)
  | sleep ms next => sleep ms (split next)
  | leave request delay next => leave request delay (split next)
  | r => r

theorem inSteps_bind (request : FileRequest) (next : request.Answer → Routine α)
    (f : α → Routine β) :
    (inSteps request next).bind f = inSteps request fun answer => (next answer).bind f := by
  cases request with
  | copyIn name content => cases content <;> rfl
  | _ => rfl

/-- What follows is split as well. -/
theorem split_bind (r : Routine α) (f : α → Routine β) :
    (r.bind f).split = r.split.bind fun a => (f a).split := by
  induction r with
  | sleep ms next ih => exact congrArg (sleep ms) ih
  | files request next ih =>
    simp only [bind, split, inSteps_bind]
    exact congrArg (inSteps request) (funext ih)
  | leave request delay next ih => exact congrArg (leave request delay) ih
  | _ => rfl

theorem split_each (f : α → Routine β) (as : List α) :
    (each f as).split = each (fun a => (f a).split) as := by
  induction as with
  | nil => rfl
  | cons a as ih => simp only [each, split_bind, ih, split]

/-- Reading is one step. -/
theorem split_read (handle : FileHandle) : (Routine.read handle).split = Routine.read handle := by
  refine congrArg (files (.read handle)) (funext fun answer => ?_)
  cases answer <;> rfl

namespace Scene

variable (s : Scene) (name : String) (content : ByteArray)

/-- Writing is handing out a path and writing there. -/
theorem asked_copyIn_ok :
    s.asked (.copyIn name (.ok content)) =
        (s.asked (.allocate name)).asked (.fill (s.answer (.allocate name)) content) ∧
      s.answer (.copyIn name (.ok content)) =
        ((s.asked (.allocate name)).answer (.fill (s.answer (.allocate name)) content)).map
          fun _ => s.answer (.allocate name) := by
  simp only [asked, answer, FileRequest.perform, FileRequest.handsOut?, TempStore.copyIn,
    Except.bind]
  cases FileSystem.write (s.store.allocate s.files name).2.2
    (s.store.allocate s.files name).1.path content <;> simp [FileRequest.settle, Except.map]

variable {s content}

/-- Writing to the path of a handle changes the files only. -/
theorem asked_fill_ok (handle : FileHandle) {fs : FileSystem}
    (h : s.files.write handle.path content = .ok fs) :
    s.answer (.fill handle content) = .ok () ∧
      s.asked (.fill handle content) = { s with files := fs } := by
  simp [answer, asked, FileRequest.perform, FileRequest.handsOut?, FileRequest.settle, h]

theorem asked_fill_error (handle : FileHandle) {e : FileError}
    (h : s.files.write handle.path content = .error e) :
    s.answer (.fill handle content) = .error e ∧ s.asked (.fill handle content) = s := by
  simp [answer, asked, FileRequest.perform, FileRequest.handsOut?, FileRequest.settle, h]

variable (s content)

theorem asked_write : s.asked (.write name content) = s.asked (.copyIn name (.ok content)) :=
  rfl

theorem answer_write : s.answer (.write name content) = s.answer (.copyIn name (.ok content)) :=
  rfl

end Scene

variable {W : Type} [AddCommMonoid W] {T : Terms W} {returns : W → Scene → α → Prop}
  {fails : Scene → Failure → Prop} {request : FileRequest} {next : request.Answer → Routine α}
  {r : Routine α} {w : W} {s : Scene}

/-- The steps of a request come to what the request does. -/
theorem run_inSteps (b : Bounds) (next : request.Answer → Routine α) (s : Scene) :
    run b (inSteps request next) s = run b (files request next) s := by
  rw [run_files]
  cases request with
  | write name content =>
    obtain ⟨hscene, hanswer⟩ := s.asked_copyIn_ok name content
    rw [s.asked_write, s.answer_write, hscene, hanswer]
    rfl
  | copyIn name content =>
    cases content with
    | ok content =>
      obtain ⟨hscene, hanswer⟩ := s.asked_copyIn_ok name content
      rw [hscene, hanswer]
      rfl
    | error e => rfl
  | _ => rfl

/-- By itself, a routine does the same in small steps. -/
theorem run_split (b : Bounds) (r : Routine α) (s : Scene) : run b r.split s = run b r s := by
  induction r generalizing s with
  | sleep ms next ih =>
    simp only [split, run]
    split
    · rfl
    · exact ih _
  | files request next ih =>
    rw [split, run_inSteps, run_files, run_files, ih]
  | leave request delay next ih => exact ih _
  | _ => rfl

/-- Where each step of a request keeps the terms, the request does. -/
theorem Keeps.of_inSteps (h : Keeps T returns fails (inSteps request next) w s) :
    Keeps T returns fails (files request next) w s := by
  have htwo : ∀ {name content} {next : Except FileError FileHandle → Routine α},
      Keeps T returns fails (files (.allocate name) fun handle => fillThen handle content next) w
        s → Keeps T returns fails (files (.copyIn name (.ok content)) next) w s := by
    intro name content next h t others hgrows hholds
    obtain ⟨v, hholds₁, hgrows₁, hfill⟩ := h t others hgrows hholds
    obtain ⟨w', hholds₂, hgrows₂, hnext⟩ := hfill _ others (T.refl _) hholds₁
    obtain ⟨hscene, hanswer⟩ := t.asked_copyIn_ok name content
    rw [hscene, hanswer]
    exact ⟨w', hholds₂, T.trans hgrows₁ hgrows₂, hnext⟩
  cases request with
  | write name content => exact htwo h
  | copyIn name content =>
    cases content with
    | ok content => exact htwo h
    | error e => exact h
  | _ => exact h

/-- Terms that are kept in small steps are kept in large ones. -/
theorem Keeps.of_split (h : Keeps T returns fails r.split w s) : Keeps T returns fails r w s := by
  induction r generalizing w s with
  | files request next ih =>
    intro t others hgrows hholds
    obtain ⟨w', hholds', hgrows', hnext⟩ := Keeps.of_inSteps h t others hgrows hholds
    exact ⟨w', hholds', hgrows', ih _ hnext⟩
  | _ => exact h

end ChatChain.Routine
