import ChatChain.Proofs.Fallible
import ChatChain.Routine
import Mathlib.Algebra.Group.Basic

/-!
# Routines side by side

Routines that run side by side get in each other's way only through the files that they share.  This
module says what each of them must do by itself so that all of them together do what they should, in
whatever order their steps are taken.

What a routine has still to do and what it has made so far is its share.  The shares of routines
side by side add up, and the terms under which they work are about the sum.

There are three groups.

* One routine.  `Terms` says what a routine finds and what it may do, and `Keeps` that it works
  under these terms whatever the others do between its steps.  `Keeps.bind` puts routines in a row.
* Several routines.  `AllKeep` says that all of them keep the terms, and `keeps_interleave` that
  then they can be run in the order of any schedule.
* Running.  `Keeps.run` is what a run comes to.
-/

namespace ChatChain.Routine

variable {α β : Type}

namespace Scene

theorem asked_read (s : Scene) (handle : FileHandle) : s.asked (.read handle) = s := by
  simp [asked, FileRequest.perform, FileRequest.handsOut?]

theorem answer_read (s : Scene) (handle : FileHandle) :
    s.answer (.read handle) = s.files.read handle.path :=
  rfl

end Scene

theorem run_files (b : Bounds) (request : FileRequest) (next : request.Answer → Routine α)
    (s : Scene) :
    run b (files request next) s = run b (next (s.answer request)) (s.asked request) :=
  rfl

/-! ## One routine -/

/-- The terms under which routines work side by side. -/
structure Terms (W : Type) where
  /-- What a routine finds when all shares together are so much, its own included. -/
  holds : W → Scene → Prop
  /-- What may happen between two of its steps. -/
  grows : Scene → Scene → Prop
  refl : ∀ s, grows s s
  trans : ∀ {s t u}, grows s t → grows t u → grows s u

variable {W : Type} [AddCommMonoid W] {T : Terms W} {fails : Scene → Failure → Prop}

/-- Whether a routine with a share keeps the terms from a scene on.  Every step of it changes its
own share only, and in the end the share and the result are as they should be, or the failure is. -/
def Keeps (T : Terms W) (returns : W → Scene → α → Prop) (fails : Scene → Failure → Prop) :
    Routine α → W → Scene → Prop
  | done a, w, s => ∀ t, T.grows s t → returns w t a
  | fail e, _, s => ∀ t, T.grows s t → fails t e
  | files request next, w, s => ∀ t others, T.grows s t → T.holds (w + others) t →
    ∃ w', T.holds (w' + others) (t.asked request) ∧ T.grows t (t.asked request) ∧
      Keeps T returns fails (next (t.answer request)) w' (t.asked request)
  | panic, _, _ | hang, _, _ | sleep .., _, _ | leave .., _, _ => False

/-- Whether nothing is left of a share, and the result is as it should be. -/
def Finished (returns : Scene → α → Prop) (w : W) (s : Scene) (a : α) : Prop :=
  w = 0 ∧ returns s a

namespace Keeps

variable {returns returns' : W → Scene → α → Prop} {r : Routine α} {w : W} {s t : Scene}

theorem of_grows (h : Keeps T returns fails r w s) (hgrows : T.grows s t) :
    Keeps T returns fails r w t := by
  cases r with
  | done a => exact fun u hu => h u (T.trans hgrows hu)
  | fail e => exact fun u hu => h u (T.trans hgrows hu)
  | files request next => exact fun u others hu => h u others (T.trans hgrows hu)
  | _ => exact h.elim

theorem imp (h : Keeps T returns fails r w s)
    (himp : ∀ v t a, (∀ u, T.grows t u → returns v u a) → returns' v t a) :
    Keeps T returns' fails r w s := by
  induction r generalizing w s with
  | done a => exact fun t ht => himp w t a fun u hu => h u (T.trans ht hu)
  | fail e => exact h
  | files request next ih =>
    intro t others hgrows hholds
    obtain ⟨w', hholds', hgrows', hnext⟩ := h t others hgrows hholds
    exact ⟨w', hholds', hgrows', ih _ hnext⟩
  | _ => exact h.elim

/-- A routine and what follows it keep the terms together.  What follows goes on with what the
routine has made of its share. -/
theorem bind {returns' : W → Scene → β → Prop} {f : α → Routine β} {l : W}
    (h : Keeps T returns fails r w s)
    (hnext : ∀ t a v, T.grows s t → (∀ u, T.grows t u → returns v u a) →
      Keeps T returns' fails (f a) (v + l) t) : Keeps T returns' fails (r.bind f) (w + l) s := by
  induction r generalizing w s with
  | done a => exact hnext s a w (T.refl s) h
  | fail e => exact h
  | files request next ih =>
    intro t others hgrows hholds
    rw [add_assoc] at hholds
    obtain ⟨v, hholds', hgrows', hrest⟩ := h t (l + others) hgrows hholds
    refine ⟨v + l, by rwa [add_assoc], hgrows', ih _ hrest fun u a v' hu => ?_⟩
    exact hnext u a v' (T.trans hgrows (T.trans hgrows' hu))
  | _ => exact h.elim

/-- What follows a routine that uses its share up has a share of its own only. -/
theorem bind_finished {finds : Scene → α → Prop} {returns' : W → Scene → β → Prop}
    {f : α → Routine β} {l : W} (h : Keeps T (Finished finds) fails r w s)
    (hnext : ∀ t a, T.grows s t → (∀ u, T.grows t u → finds u a) →
      Keeps T returns' fails (f a) l t) : Keeps T returns' fails (r.bind f) (w + l) s := by
  refine h.bind fun t a v hgrows hfinds => ?_
  obtain rfl : v = 0 := (hfinds t (T.refl t)).1
  rw [zero_add]
  exact hnext t a hgrows fun u hu => (hfinds u hu).2

end Keeps

/-! ## Several routines -/

/-- Whether routines keep the terms, each with a result and a share of its own. -/
inductive AllKeep (T : Terms W) (fails : Scene → Failure → Prop) (s : Scene) :
    List (W → Scene → α → Prop) → List (Routine α) → W → Prop
  | nil : AllKeep T fails s [] [] 0
  | cons {returns : W → Scene → α → Prop} {r : Routine α} {w : W}
      {expected : List (W → Scene → α → Prop)} {routines : List (Routine α)} {v : W}
      (h : Keeps T returns fails r w s) (hrest : AllKeep T fails s expected routines v) :
      AllKeep T fails s (returns :: expected) (r :: routines) (w + v)

/-- Whether results are as they should be, each with a share of its own. -/
inductive Expected : List (W → Scene → α → Prop) → W → Scene → List α → Prop
  | nil {t : Scene} : Expected [] 0 t []
  | cons {returns : W → Scene → α → Prop} {w : W} {t : Scene} {a : α}
      {expected : List (W → Scene → α → Prop)} {v : W} {results : List α} (h : returns w t a)
      (hrest : Expected expected v t results) :
      Expected (returns :: expected) (w + v) t (a :: results)

variable {expected : List (W → Scene → α → Prop)} {routines : List (Routine α)} {w : W}
  {s t : Scene}

namespace AllKeep

theorem of_grows (h : AllKeep T fails s expected routines w) (hgrows : T.grows s t) :
    AllKeep T fails t expected routines w := by
  induction h with
  | nil => exact .nil
  | cons hfirst _ ih => exact .cons (hfirst.of_grows hgrows) ih

/-- One of the routines can take a step while the others wait. -/
theorem exists_at (h : AllKeep T fails s expected routines w) {index : Nat} {r : Routine α}
    (hr : routines[index]? = some r) :
    ∃ returns v rest, w = v + rest ∧ Keeps T returns fails r v s ∧
      ∀ t r' v', T.grows s t → Keeps T returns fails r' v' t →
        AllKeep T fails t expected (routines.set index r') (v' + rest) := by
  induction h generalizing index with
  | nil => exact absurd hr (by simp)
  | @cons returns first v expected routines rest hfirst hrest ih =>
    cases index with
    | zero =>
      obtain rfl : first = r := by simpa using hr
      exact ⟨returns, v, rest, rfl, hfirst, fun t r' v' hgrows h => .cons h (hrest.of_grows hgrows)⟩
    | succ index =>
      obtain ⟨returns', v', rest', rfl, hkeeps, hset⟩ := ih (by simpa using hr)
      refine ⟨returns', v', v + rest', add_left_comm .., hkeeps, fun t r' v'' hgrows h => ?_⟩
      rw [add_left_comm]
      exact .cons (hfirst.of_grows hgrows) (hset t r' v'' hgrows h)

/-- Routines in a row keep the terms. -/
theorem keeps_each (h : AllKeep T fails s expected routines w) :
    Keeps T (Expected expected) fails (each id routines) w s := by
  induction h with
  | nil => exact fun _ _ => .nil
  | @cons returns r w expected routines rest hfirst hrest ih =>
    refine hfirst.bind fun t a v hgrows ha => ?_
    rw [add_comm]
    refine (ih.of_grows hgrows).bind fun u as v' hgrows' has x hx => ?_
    rw [add_comm]
    exact .cons (ha x (T.trans hgrows' hx)) (has x hx)

/-- Routines side by side keep the terms, in the order of any schedule. -/
theorem keeps_interleave (h : AllKeep T fails s expected routines w) (schedule : List Nat) :
    Keeps T (Expected expected) fails (interleave schedule routines) w s := by
  induction schedule generalizing routines w s with
  | nil => exact h.keeps_each
  | cons index schedule ih =>
    unfold interleave
    cases hr : routines[index]? with
    | none => exact ih h
    | some r =>
      obtain ⟨returns, v, rest, rfl, hkeeps, hset⟩ := h.exists_at hr
      cases r with
      | done a => exact ih h
      | fail e => exact hkeeps
      | files request next =>
        intro t others hgrows hholds
        rw [add_assoc] at hholds
        obtain ⟨v', hholds', hgrows', hnext⟩ := hkeeps t (rest + others) hgrows hholds
        refine ⟨v' + rest, by rwa [add_assoc], hgrows', ?_⟩
        exact ih (hset _ _ _ (T.trans hgrows hgrows') hnext)
      | _ => exact hkeeps.elim

end AllKeep

/-- Routines of one kind for the members of a list, with the same share each. -/
theorem AllKeep.of_forall {as : List α} {f : α → Routine β} {returns : α → W → Scene → β → Prop}
    (h : ∀ a ∈ as, Keeps T (returns a) fails (f a) w s) :
    AllKeep T fails s (as.map returns) (as.map f) (as.length • w) := by
  induction as with
  | nil =>
    rw [List.length_nil, zero_nsmul]
    exact .nil
  | cons a as ih =>
    obtain ⟨ha, has⟩ := List.forall_mem_cons.1 h
    rw [List.length_cons, succ_nsmul']
    exact .cons ha (ih has)

/-- When nothing is left of the shares, each result is as expected for its member of the list. -/
theorem Expected.forall₂ {as : List α} {finds : α → Scene → β → Prop} {results : List β}
    (h : Expected (as.map fun a => Finished (finds a)) w t results) :
    w = 0 ∧ List.Forall₂ (fun a b => finds a t b) as results := by
  induction as generalizing w results with
  | nil =>
    cases h with
    | nil => exact ⟨rfl, .nil⟩
  | cons a as ih =>
    cases h with
    | cons hfirst hrest =>
      obtain ⟨rfl, hb⟩ := hfirst
      obtain ⟨rfl, hall⟩ := ih hrest
      exact ⟨zero_add 0, .cons hb hall⟩

/-- When the same is expected of all results, it holds of each. -/
theorem Expected.forall_mem {as : List α} {finds : Scene → β → Prop} {results : List β}
    (h : Expected (as.map fun _ => Finished finds) w t results) :
    w = 0 ∧ results.length = as.length ∧ ∀ b ∈ results, finds t b := by
  obtain ⟨hw, hall⟩ := h.forall₂
  refine ⟨hw, hall.length_eq.symm, fun b hb => ?_⟩
  obtain ⟨-, -, hfinds⟩ := Fallible.exists_of_forall₂ hall b hb
  exact hfinds

/-- Where nothing stalls, the routines are only run in the order of the schedule. -/
theorem sideBySide_of_answered (schedule : List Nat) (f : α → Routine β) (as : List α) :
    sideBySide schedule (fun _ => none) f as = interleave schedule (as.map f) := by
  have hmap : (as.zipIdx.map fun a => f a.1) = (as.zipIdx.map Prod.fst).map f := by
    rw [List.map_map]
    rfl
  rw [List.zipIdx_map_fst] at hmap
  exact congrArg (interleave schedule) hmap

/-- Doing the same for every member of a list is running one routine for each. -/
theorem each_eq_each_id (f : α → Routine β) (as : List α) : each f as = each id (as.map f) := by
  induction as with
  | nil => rfl
  | cons a as ih => simp only [each, List.map_cons, ih, id]

/-! ## Running -/

/-- How a run under terms can end: with a result that is as it should be, or with such a failure. -/
inductive Ends (T : Terms W) (returns : W → Scene → α → Prop) (fails : Scene → Failure → Prop)
    (s : Scene) : Ending α × Scene → Prop
  | returned {a : α} {w : W} {t : Scene} (hgrows : T.grows s t) (hholds : T.holds w t)
      (hreturns : returns w t a) : Ends T returns fails s (.returned a, t)
  | failed {e : Failure} {w : W} {t : Scene} (hgrows : T.grows s t) (hholds : T.holds w t)
      (hfails : fails t e) : Ends T returns fails s (.failed e, t)

/-- A routine that keeps the terms ends, whatever bounds it has. -/
theorem Keeps.run {returns : W → Scene → α → Prop} {r : Routine α}
    (h : Keeps T returns fails r w s) (hholds : T.holds w s) (b : Bounds) :
    Ends T returns fails s (r.run b s) := by
  induction r generalizing w s with
  | done a => exact .returned (T.refl s) hholds (h s (T.refl s))
  | fail e => exact .failed (T.refl s) hholds (h s (T.refl s))
  | files request next ih =>
    obtain ⟨w', hholds', hgrows, hnext⟩ := h s 0 (T.refl s) (by rwa [add_zero])
    rw [add_zero] at hholds'
    rw [run_files]
    have hends := ih _ hnext hholds'
    generalize run b (next (s.answer request)) (s.asked request) = result at hends ⊢
    cases hends with
    | returned hgrows' hholds hreturns => exact .returned (T.trans hgrows hgrows') hholds hreturns
    | failed hgrows' hholds hfails => exact .failed (T.trans hgrows hgrows') hholds hfails
  | _ => exact h.elim

end ChatChain.Routine
