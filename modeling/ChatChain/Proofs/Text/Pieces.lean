import ChatChain.Proofs.Text.Stretches
import Mathlib.Data.List.DropRight
import Mathlib.Data.List.TakeWhile

/-!
# Pieces of a text

A text is cut at marks, and the pieces are trimmed.  This module proves that neither takes a word
apart: every word of a piece is a word of the text.

There are two groups.

* Pieces between marks.  `MarksWords.stretches_of_piece` says that the stretches of a piece are
  stretches of the text and no marks, and `MarksWords.exists_word_of_mem` says which words the marks
  are.
* Trimming.  `mem_stretches_of_trimChars` says that the stretches of a trimmed text are stretches of
  the text.
-/

namespace ChatChain.Text

/-! ## Pieces between marks -/

variable {α : Type} {mark? : List Char → Option (α × Nat)} {word? : List Char → Option α}

/-- What stands in front of the first mark is the beginning of the text. -/
theorem cutAtMarks_fst_isPrefix (mark? : List Char → Option (α × Nat)) (fresh : Bool)
    (cs : List Char) : (cutAtMarks mark? fresh cs).1 <+: cs := by
  induction cs generalizing fresh with
  | nil => exact List.prefix_rfl
  | cons c cs ih =>
    rw [cutAtMarks]
    split
    · exact List.nil_prefix
    · exact (List.prefix_cons_inj c).2 (ih (isBlank c))

/-- A stretch ends at a seam also when less stands behind it. -/
theorem SeamBetween.of_isPrefix {a b b' : List Char} (h : SeamBetween a b) (hb : b' <+: b) :
    SeamBetween a b' := by
  intro c hc d hd
  obtain ⟨rest, rfl⟩ := hb
  cases b' with
  | nil => simp at hd
  | cons e b' => exact h c hc d (by simpa using hd)

/-- Every stretch of a piece between marks is a stretch of the text, and no mark. -/
theorem MarksWords.stretches_of_piece (h : MarksWords mark? word?) (cs : List Char) :
    (∀ s ∈ stretches (cutAtMarks mark? true cs).1, s ∈ stretches cs ∧ word? s = none) ∧
      ∀ part ∈ (cutAtMarks mark? true cs).2, ∀ s ∈ stretches part.2,
        s ∈ stretches cs ∧ word? s = none := by
  induction cs using stretchInduction with
  | nil => simp
  | append s rest hne hsame hseam hstretches ih =>
    obtain ⟨hfirst, hparts⟩ := ih
    have hkeep : ∀ {t}, t ∈ stretches rest ∧ word? t = none →
        t ∈ stretches (s ++ rest) ∧ word? t = none := by
      rintro t ⟨ht, hnone⟩
      rw [hstretches]
      exact ⟨List.mem_cons_of_mem s ht, hnone⟩
    have hcut : cutAtMarks mark? true (s ++ rest) = _ := h.cutAtMarks_stretch hne hsame
      fun c hc hblank d hd => by simpa [hblank] using (hseam c hc d hd).symm
    rw [hcut]
    cases hword : word? s with
    | some label =>
      refine ⟨by simp, ?_⟩
      simp only [List.mem_cons, forall_eq_or_imp]
      exact ⟨fun t ht => hkeep (hfirst t ht), fun part hpart t ht => hkeep (hparts part hpart t ht)⟩
    | none =>
      refine ⟨fun t ht => ?_, fun part hpart t ht => hkeep (hparts part hpart t ht)⟩
      have hself : stretches s = [s] := by
        rw [stretches_append hseam] at hstretches
        exact List.append_cancel_right hstretches
      rw [stretches_append (hseam.of_isPrefix (cutAtMarks_fst_isPrefix mark? true rest)), hself,
        List.singleton_append, List.mem_cons] at ht
      rcases ht with rfl | ht
      · exact ⟨by simp [hstretches], hword⟩
      · exact hkeep (hfirst t ht)

/-- The label of a mark comes from a word of the text. -/
theorem MarksWords.exists_word_of_mem (h : MarksWords mark? word?) {cs : List Char}
    {part : α × List Char} (hpart : part ∈ (cutAtMarks mark? true cs).2) :
    ∃ s ∈ stretches cs, word? s = some part.1 := by
  have hlabels := map_fst_cutAtWords word? (stretches cs)
  rw [← h.cutAtMarks_eq_cutAtWords] at hlabels
  have hmem : part.1 ∈ (stretches cs).filterMap word? := hlabels ▸ List.mem_map_of_mem hpart
  exact List.mem_filterMap.1 hmem

/-! ## Trimming -/

/-- A text ends in a seam where its last blanks begin. -/
theorem seamBetween_trimEndChars (cs : List Char) :
    SeamBetween (trimEndChars cs) (cs.rtakeWhile isBlank) := by
  intro c hc d hd
  have hc' : isBlank c = false := by
    have hne : cs.rdropWhile isBlank ≠ [] := List.ne_nil_of_mem (List.mem_of_getLast? hc)
    have hlast := List.rdropWhile_last_not isBlank cs hne
    rw [show c = (cs.rdropWhile isBlank).getLast hne from
      Option.some.inj ((Option.mem_def.1 hc).symm.trans (List.getLast?_eq_some_getLast hne))]
    simpa using hlast
  have hd' : isBlank d = true := List.mem_rtakeWhile_imp (List.mem_of_mem_head? hd)
  rw [hc', hd']
  decide

/-- A text begins in a seam where its first blanks end. -/
theorem seamBetween_dropWhile_isBlank (cs : List Char) :
    SeamBetween (cs.takeWhile isBlank) (cs.dropWhile isBlank) := by
  intro c hc d hd
  have hc' : isBlank c = true := List.mem_takeWhile_imp (List.mem_of_getLast? hc)
  have hnot := List.head?_dropWhile_not isBlank cs
  rw [Option.mem_def.1 hd] at hnot
  have hd' : isBlank d = false := by simpa using hnot
  rw [hc', hd']
  decide

/-- Trimming takes no stretch apart. -/
theorem mem_stretches_of_trimChars {s cs : List Char} (h : s ∈ stretches (trimChars cs)) :
    s ∈ stretches cs := by
  have hend : trimChars cs ++ (cs.dropWhile isBlank).rtakeWhile isBlank = cs.dropWhile isBlank :=
    List.rdropWhile_append_rtakeWhile ..
  rw [← List.takeWhile_append_dropWhile (p := isBlank) (l := cs),
    stretches_append (seamBetween_dropWhile_isBlank cs), ← hend,
    stretches_append (a := trimChars cs) (seamBetween_trimEndChars _)]
  exact List.mem_append_right _ (List.mem_append_left _ h)

end ChatChain.Text
