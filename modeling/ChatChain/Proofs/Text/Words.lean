import ChatChain.Proofs.Text.Pieces

/-!
# The words of a text

The words of a text are its stretches without the gaps.  Gaps may grow together or vanish when texts
are put next to each other, but words do so only where no blank keeps them apart.

* `words_of_gap` and `words_of_word` say what the words of a single stretch are, and
  `stretches_of_word` that a text without blanks is one.
* `words_append` says when the words of two texts stay what they are.
* `MarksWords.forall_isBlank_iff` says when the first word of a text is a mark.
-/

namespace ChatChain.Text

/-- The words of a text, in order. -/
def words (cs : List Char) : List (List Char) :=
  (stretches cs).filter fun s => !isGap s

@[simp] theorem words_nil : words [] = [] := rfl

theorem words_of_gap {b : List Char} (hb : ∀ c ∈ b, isBlank c = true) : words b = [] := by
  refine List.filter_eq_nil_iff.2 fun s hs => ?_
  have hgap : isGap s = true := List.all_eq_true.2 fun c hc => hb c (mem_of_mem_stretches hs hc)
  simp [hgap]

/-- A blank in front of a text belongs to no word. -/
theorem words_cons_of_isBlank {c : Char} (hc : isBlank c = true) (cs : List Char) :
    words (c :: cs) = words cs := by
  cases cs with
  | nil => exact words_of_gap (by simpa using hc)
  | cons d cs =>
    obtain ⟨s, rest, hs⟩ := exists_stretches_cons d cs
    cases hd : isBlank d with
    | true =>
      -- The first stretch is a gap, and the blank makes it longer.
      have hall : ∀ e ∈ s, isBlank e = true := fun e he =>
        (isBlank_eq_of_mem_stretches (hs ▸ List.mem_cons_self) (List.mem_cons_of_mem d he)
          List.mem_cons_self).trans hd
      have hlonger : stretches (c :: d :: cs) = (c :: d :: s) :: rest := by
        rw [stretches_cons, hs, extend, if_pos (hc.trans hd.symm)]
      unfold words
      rw [hlonger, hs]
      simp [isGap, hc, hd, List.all_eq_true.2 hall]
    | false =>
      have hne : ∀ e ∈ (d :: cs).head?, isBlank c ≠ isBlank e := by simp [hc, hd]
      unfold words
      rw [stretches_cons, extend_stretches_of_ne hne]
      simp [isGap, hc]

theorem words_gap_append {b : List Char} (hb : ∀ c ∈ b, isBlank c = true) (r : List Char) :
    words (b ++ r) = words r := by
  induction b with
  | nil => rfl
  | cons c b ih =>
    obtain ⟨hc, hb⟩ := List.forall_mem_cons.1 hb
    rw [List.cons_append, words_cons_of_isBlank hc, ih hb]

/-- A text without blanks is one stretch. -/
theorem stretches_of_word {w : List Char} (hne : w ≠ []) (hw : ∀ c ∈ w, isBlank c = false) :
    stretches w = [w] := by
  obtain ⟨s, rest, rfl, hstretches, hs, -, hseam⟩ := stretches_split hne
  obtain rfl : rest = [] := by
    cases rest with
    | nil => rfl
    | cons d rest =>
      have hlast : s.getLast hs ∈ s.getLast? := List.getLast?_eq_some_getLast hs
      refine absurd ?_ (hseam _ hlast d rfl)
      rw [hw _ (List.mem_append_left _ (List.getLast_mem hs)), hw d (by simp)]
  simpa using hstretches

/-- A text without blanks is one word. -/
theorem words_of_word {w : List Char} (hne : w ≠ []) (hw : ∀ c ∈ w, isBlank c = false) :
    words w = [w] := by
  have hgap : isGap w = false := by
    obtain ⟨c, w, rfl⟩ := List.exists_cons_of_ne_nil hne
    simp [isGap, hw c (by simp)]
  unfold words
  rw [stretches_of_word hne hw]
  simp [hgap]

/-- A stretch is a gap without words or a single word. -/
theorem words_of_stretch {s : List Char} (hne : s ≠ [])
    (hsame : ∀ c ∈ s, ∀ d ∈ s, isBlank c = isBlank d) :
    isGap s = true ∧ words s = [] ∨ words s = [s] := by
  obtain ⟨c, hc⟩ := List.exists_mem_of_ne_nil s hne
  cases hblank : isBlank c with
  | true =>
    have hs : ∀ d ∈ s, isBlank d = true := fun d hd => (hsame d hd c hc).trans hblank
    exact Or.inl ⟨List.all_eq_true.2 hs, words_of_gap hs⟩
  | false => exact Or.inr (words_of_word hne fun d hd => (hsame d hd c hc).trans hblank)

/-- The words of a text that is put together at a seam are those of its parts. -/
theorem words_append_of_seam {a b : List Char} (h : SeamBetween a b) :
    words (a ++ b) = words a ++ words b := by
  unfold words
  rw [stretches_append h, List.filter_append]

/-- The words of two texts stay what they are when a blank keeps them apart. -/
theorem words_append {a b : List Char}
    (h : ∀ c ∈ a.getLast?, isBlank c = false → ∀ d ∈ b.head?, isBlank d = true) :
    words (a ++ b) = words a ++ words b := by
  induction a using stretchInduction with
  | nil => rfl
  | append s rest hne hsame hseam hstretches ih =>
    have hfirst : words (s ++ rest) = words s ++ words rest := words_append_of_seam hseam
    cases rest with
    | nil =>
      rw [List.append_nil] at h ⊢
      obtain ⟨c, hc⟩ : ∃ c, c ∈ s.getLast? := Option.isSome_iff_exists.1 (by simpa using hne)
      have hcs : c ∈ s := List.mem_of_getLast? hc
      cases hblank : isBlank c with
      | true =>
        have hs : ∀ d ∈ s, isBlank d = true := fun d hd => (hsame d hd c hcs).trans hblank
        rw [words_gap_append hs, words_of_gap hs, List.nil_append]
      | false =>
        refine words_append_of_seam fun c' hc' d hd => ?_
        obtain rfl : c = c' := Option.some.inj (hc.symm.trans hc')
        rw [hblank, h c hc hblank d hd]
        decide
    | cons e rest =>
      have hseam' : SeamBetween s (e :: rest ++ b) := by
        intro c hc d hd
        exact hseam c hc d (by simpa using hd)
      have htail := ih fun c hc => h c (by simpa using hc)
      rw [hfirst, List.append_assoc, words_append_of_seam hseam', htail, List.append_assoc]

/-- Only blanks stand in front of the first mark of a text exactly when its first word is one. -/
theorem MarksWords.forall_isBlank_iff {α : Type} {mark? : List Char → Option (α × Nat)}
    {word? : List Char → Option α} (h : MarksWords mark? word?) {cs : List Char} :
    (∀ c ∈ (cutAtMarks mark? true cs).1, isBlank c = true) ↔
      ∀ w ∈ (words cs).head?, (word? w).isSome = true := by
  rw [h.cutAtMarks_eq_cutAtWords]
  unfold words
  induction stretches cs with
  | nil => simp [cutAtWords]
  | cons s ss ih =>
    rw [cutAtWords]
    cases hword : word? s with
    | some label =>
      have hgap : isGap s = false := by
        cases hgap : isGap s with
        | false => rfl
        | true => exact absurd ((h.gap s hgap).symm.trans hword) (by simp)
      simp [hgap, hword]
    | none =>
      cases hgap : isGap s with
      | false =>
        refine iff_of_false (fun hblank => ?_) (by simp [hgap, hword])
        have hall : isGap s = true :=
          List.all_eq_true.2 fun c hc => hblank c (List.mem_append_left _ hc)
        exact absurd (hgap.symm.trans hall) (by simp)
      | true =>
        have hblank : ∀ c ∈ s, isBlank c = true := fun c hc => List.all_eq_true.1 hgap c hc
        simp only [List.filter_cons, hgap, Bool.not_true, Bool.false_eq_true, if_false, ← ih]
        exact ⟨fun hall c hc => hall c (List.mem_append_right _ hc), fun hrest c hc =>
          (List.mem_append.1 hc).elim (hblank c) (hrest c)⟩

end ChatChain.Text
