import Mathlib.Data.List.Basic
import Mathlib.Data.List.Forall2

/-!
# Computations that may fail

How a result of a fallible computation comes about: of two computations in a row, of one for every
member of a list, and of a fold over a list.  `FirstFault` is the fault that decides about a list,
and `Agree` relates two computations that have the same result or both fail.
-/

namespace ChatChain.Fallible

variable {ε α β : Type}

@[simp] theorem ok_bind (a : α) (f : α → Except ε β) : (Except.ok a >>= f) = f a := rfl

@[simp] theorem error_bind (e : ε) (f : α → Except ε β) : (Except.error e >>= f) = .error e := rfl

@[simp] theorem mapError_ok {ε' : Type} (f : ε → ε') (a : α) :
    (Except.ok a : Except ε α).mapError f = .ok a := rfl

@[simp] theorem mapError_error {ε' : Type} (f : ε → ε') (e : ε) :
    (Except.error e : Except ε α).mapError f = .error (f e) := rfl

/-- Two computations in a row succeed when both do. -/
theorem bind_eq_ok_iff {x : Except ε α} {f : α → Except ε β} {b : β} :
    (x >>= f) = .ok b ↔ ∃ a, x = .ok a ∧ f a = .ok b := by
  cases x with
  | error e => simp
  | ok a => simp

theorem pure_eq_ok_iff {a b : α} : (pure a : Except ε α) = .ok b ↔ a = b := by
  simp [pure, Except.pure]

/-- What holds of the result of a computation, if it has one, can be decided by running it. -/
instance decidableForallOk {P : α → Prop} [∀ a, Decidable (P a)] :
    (x : Except ε α) → Decidable (∀ a, x = .ok a → P a)
  | .ok a => decidable_of_iff (P a) ⟨fun ha _ h => Except.ok.inj h ▸ ha, fun h => h a rfl⟩
  | .error _ => isTrue nofun

/-- A computation that succeeds has a result. -/
theorem eq_ok_of_isOk {x : Except ε α} (default : α) (h : x.isOk = true) :
    x = .ok (x.toOption.getD default) := by
  cases x with
  | error e => exact absurd h (by simp [Except.isOk, Except.toBool])
  | ok a => rfl

theorem throw_ne_ok {e : ε} {a : α} : (throw e : Except ε α) ≠ .ok a := by
  simp [throw, throwThe, MonadExceptOf.throw]

/-- Two computations in a row fail when the first does, or the second on the first's result. -/
theorem bind_eq_error_iff {x : Except ε α} {f : α → Except ε β} {e : ε} :
    (x >>= f) = .error e ↔ x = .error e ∨ ∃ a, x = .ok a ∧ f a = .error e := by
  cases x with
  | error e' => simp
  | ok a => simp

/-- What is made of a result is made of one that there is. -/
theorem map_eq_ok_iff {x : Except ε α} {f : α → β} {b : β} :
    x.map f = .ok b ↔ ∃ a, x = .ok a ∧ f a = b := by
  cases x <;> simp [Except.map]

theorem pure_ne_error {a : α} {e : ε} : (pure a : Except ε α) ≠ .error e := by
  simp [pure, Except.pure]

/-- A computation for every member of a list succeeds when each one does, with their results in
order. -/
theorem mapM_eq_ok_iff {f : α → Except ε β} {xs : List α} {ys : List β} :
    xs.mapM f = .ok ys ↔ List.Forall₂ (fun x y => f x = .ok y) xs ys := by
  induction xs generalizing ys with
  | nil =>
    rw [List.forall₂_nil_left_iff]
    exact pure_eq_ok_iff.trans eq_comm
  | cons x xs ih =>
    simp only [List.mapM_cons, bind_eq_ok_iff, pure_eq_ok_iff, ih, List.forall₂_cons_left_iff]
    constructor
    · rintro ⟨y, hx, rest, hrest, rfl⟩
      exact ⟨y, rest, hx, hrest, rfl⟩
    · rintro ⟨y, rest, hx, hrest, rfl⟩
      exact ⟨y, hx, rest, hrest, rfl⟩

/-- Computations that are the same for every member of a list make the same of it. -/
theorem mapM_congr_of_mem {f f' : α → Except ε β} {xs : List α} (h : ∀ x ∈ xs, f x = f' x) :
    xs.mapM f = xs.mapM f' := by
  induction xs with
  | nil => rfl
  | cons x xs ih =>
    obtain ⟨hx, hxs⟩ := List.forall_mem_cons.1 h
    rw [List.mapM_cons, List.mapM_cons, hx, ih hxs]

/-- Every member of the second of two related lists comes from one of the first. -/
theorem exists_of_forall₂ {R : α → β → Prop} {xs : List α} {ys : List β}
    (h : List.Forall₂ R xs ys) : ∀ y ∈ ys, ∃ x ∈ xs, R x y := by
  induction h with
  | nil => simp
  | cons hxy _ ih =>
    refine List.forall_mem_cons.2 ⟨⟨_, List.mem_cons_self, hxy⟩, fun y hy => ?_⟩
    obtain ⟨x, hx, hR⟩ := ih y hy
    exact ⟨x, List.mem_cons_of_mem _ hx, hR⟩

/-- What is made of every result of a list may be made right after each computation. -/
theorem map_mapM {γ : Type} (f : α → Except ε β) (k : β → γ) (xs : List α) :
    (xs.mapM f).map (List.map k) = xs.mapM fun x => (f x).map k := by
  induction xs with
  | nil => rfl
  | cons x xs ih =>
    rw [List.mapM_cons, List.mapM_cons, ← ih]
    cases f x with
    | error e => rfl
    | ok y => cases xs.mapM f <;> rfl

/-- Whether a list has faulty members, and the first of them has the fault. -/
def FirstFault (Fault : α → ε → Prop) (xs : List α) (e : ε) : Prop :=
  ∃ before x after, xs = before ++ x :: after ∧ (∀ y ∈ before, ∀ e', ¬Fault y e') ∧ Fault x e

section FirstFault

variable {Fault : α → ε → Prop} {x : α} {xs : List α} {e : ε}

theorem not_firstFault_nil : ¬FirstFault Fault [] e := by
  rintro ⟨before, x, after, hnil, -⟩
  simp at hnil

theorem firstFault_cons :
    FirstFault Fault (x :: xs) e ↔ Fault x e ∨ (∀ e', ¬Fault x e') ∧ FirstFault Fault xs e := by
  constructor
  · rintro ⟨before, y, after, hsplit, hbefore, hy⟩
    cases before with
    | nil =>
      obtain ⟨rfl, -⟩ := List.cons.inj hsplit
      exact Or.inl hy
    | cons z before =>
      obtain ⟨rfl, hrest⟩ := List.cons.inj hsplit
      obtain ⟨hx, hbefore⟩ := List.forall_mem_cons.1 hbefore
      exact Or.inr ⟨hx, before, y, after, hrest, hbefore, hy⟩
  · rintro (hx | ⟨hx, before, y, after, rfl, hbefore, hy⟩)
    · exact ⟨[], x, xs, rfl, by simp, hx⟩
    · exact ⟨x :: before, y, after, rfl, List.forall_mem_cons.2 ⟨hx, hbefore⟩, hy⟩

/-- Where a member is faulty, there is a first one. -/
theorem exists_firstFault (hx : x ∈ xs) (he : Fault x e) : ∃ e', FirstFault Fault xs e' := by
  induction xs with
  | nil => simp at hx
  | cons y xs ih =>
    simp only [firstFault_cons]
    by_cases hy : ∃ e', Fault y e'
    · obtain ⟨e', he'⟩ := hy
      exact ⟨e', Or.inl he'⟩
    · have hrest : x ∈ xs := by
        rcases List.mem_cons.1 hx with rfl | hrest
        · exact absurd ⟨e, he⟩ hy
        · exact hrest
      obtain ⟨e', he'⟩ := ih hrest
      exact ⟨e', Or.inr ⟨not_exists.1 hy, he'⟩⟩

/-- The first fault of a list is that of its members. -/
theorem firstFault_congr_of_mem {Fault' : α → ε → Prop}
    (h : ∀ x ∈ xs, ∀ e, Fault x e ↔ Fault' x e) :
    FirstFault Fault xs e ↔ FirstFault Fault' xs e := by
  induction xs with
  | nil => exact iff_of_false not_firstFault_nil not_firstFault_nil
  | cons x xs ih =>
    obtain ⟨hx, hxs⟩ := List.forall_mem_cons.1 h
    simp only [firstFault_cons, hx, ih hxs]

/-- Equal faults come first at the same place. -/
theorem firstFault_congr {Fault' : α → ε → Prop} (h : ∀ x e, Fault x e ↔ Fault' x e) :
    FirstFault Fault xs e ↔ FirstFault Fault' xs e :=
  firstFault_congr_of_mem fun x _ => h x

/-- A list has a first fault exactly when some member is faulty. -/
theorem exists_firstFault_iff :
    (∃ e, FirstFault Fault xs e) ↔ ∃ x ∈ xs, ∃ e, Fault x e := by
  constructor
  · rintro ⟨e, before, x, after, rfl, -, hx⟩
    exact ⟨x, by simp, e, hx⟩
  · rintro ⟨x, hx, e, he⟩
    exact exists_firstFault hx he

/-- A computation for every member of a list fails with the first one that fails. -/
theorem mapM_eq_error_iff {f : α → Except ε β} :
    xs.mapM f = .error e ↔ FirstFault (fun x e => f x = .error e) xs e := by
  induction xs with
  | nil => exact iff_of_false pure_ne_error not_firstFault_nil
  | cons x xs ih =>
    rw [List.mapM_cons, firstFault_cons, bind_eq_error_iff, ← ih]
    simp only [bind_eq_error_iff, pure_ne_error, and_false, exists_false, or_false]
    cases f x with
    | error e' => simp
    | ok y => simp

end FirstFault

/-- A fold whose rounds fail for what is wrong with a member, and not for what came before, fails
with the first fault. -/
theorem foldlM_eq_error_iff {f : β → α → Except ε β} {Fault : α → ε → Prop}
    (hround : ∀ b x e, f b x = .error e ↔ Fault x e) {xs : List α} {b : β} {e : ε} :
    xs.foldlM f b = .error e ↔ FirstFault Fault xs e := by
  induction xs generalizing b with
  | nil => exact iff_of_false pure_ne_error not_firstFault_nil
  | cons x xs ih =>
    rw [List.foldlM_cons, bind_eq_error_iff, firstFault_cons, hround]
    refine or_congr_right ?_
    cases hx : f b x with
    | error e' => simpa using fun h => absurd ((hround b x e').1 hx) (h e')
    | ok c =>
      have hsound : ∀ e', ¬Fault x e' := fun e' he' =>
        absurd (hx.symm.trans ((hround b x e').2 he')) (by simp)
      simp [hsound, ih]

/-- Folds with the same rounds for every member are equal. -/
theorem foldlM_congr_of_mem {f f' : β → α → Except ε β} {xs : List α}
    (h : ∀ x ∈ xs, ∀ b, f b x = f' b x) (b : β) : xs.foldlM f b = xs.foldlM f' b := by
  induction xs generalizing b with
  | nil => rfl
  | cons x xs ih =>
    obtain ⟨hx, hxs⟩ := List.forall_mem_cons.1 h
    simp only [List.foldlM_cons, hx, ih hxs]

/-- What every round of a fold preserves holds at its end. -/
theorem foldlM_preserves {P : β → Prop} {f : β → α → Except ε β}
    (hstep : ∀ b a c, P b → f b a = .ok c → P c) {xs : List α} {b c : β} (hb : P b)
    (h : xs.foldlM f b = .ok c) : P c := by
  induction xs generalizing b with
  | nil =>
    obtain rfl : b = c := Except.ok.inj h
    exact hb
  | cons x xs ih =>
    rw [List.foldlM_cons, bind_eq_ok_iff] at h
    obtain ⟨d, hd, hrest⟩ := h
    exact ih (hstep b x d hb hd) hrest

/-! ## Two computations -/

/-- Whether two computations agree: both succeed with related results, or both fail with related
errors. -/
inductive Agree {ε' β' : Type} (R : ε → ε' → Prop) (S : β → β' → Prop) :
    Except ε β → Except ε' β' → Prop
  | ok {b : β} {b' : β'} (h : S b b') : Agree R S (.ok b) (.ok b')
  | error {e : ε} {e' : ε'} (h : R e e') : Agree R S (.error e) (.error e')

namespace Agree

variable {ε' α' β' : Type} {R : ε → ε' → Prop}

theorem refl {R : ε → ε → Prop} (hR : ∀ e, R e e) (x : Except ε α) : Agree R Eq x x := by
  cases x with
  | error e => exact .error (hR e)
  | ok a => exact .ok rfl

/-- Computations that agree may go on with computations that agree on related results. -/
theorem bind {S : α → α' → Prop} {T : β → β' → Prop} {x : Except ε α} {x' : Except ε' α'}
    {f : α → Except ε β} {f' : α' → Except ε' β'} (hx : Agree R S x x')
    (hf : ∀ a a', S a a' → Agree R T (f a) (f' a')) : Agree R T (x >>= f) (x' >>= f') := by
  cases hx with
  | error h => exact .error h
  | ok h => exact hf _ _ h

theorem mapM {S : β → β' → Prop} {f : α → Except ε β} {f' : α → Except ε' β'} {xs : List α}
    (hf : ∀ x ∈ xs, Agree R S (f x) (f' x)) :
    Agree R (List.Forall₂ S) (xs.mapM f) (xs.mapM f') := by
  induction xs with
  | nil => exact .ok .nil
  | cons x xs ih =>
    rw [List.mapM_cons, List.mapM_cons]
    have hrest := ih fun y hy => hf y (List.mem_cons_of_mem _ hy)
    exact (hf x List.mem_cons_self).bind fun _ _ hfirst =>
      hrest.bind fun _ _ hothers => .ok (.cons hfirst hothers)

end Agree

end ChatChain.Fallible
