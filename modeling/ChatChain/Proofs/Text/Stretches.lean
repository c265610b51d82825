import ChatChain.Text.Cut
import ChatChain.Text.Stretch

/-!
# Cutting at marks and cutting at words

`cutAtMarks` walks through a text character by character and asks at the front of every word
whether a mark begins there.  `cutAtWords` is given the words and gaps of the text.  This module
proves that both find the same marks, when both tests are about whole words.

There are three groups.

* Where a text may be cut.  `stretches_append` says that the stretches of two texts are those of
  their concatenation, unless a word or a gap goes across the seam.  `stretches_split` takes the
  first stretch off a text, and `stretchInduction` is the induction that goes with it.
* Walking over a stretch.  `cutAtMarks_word` and `cutAtMarks_gap` say what `cutAtMarks` does with
  the characters of one stretch.
* The result.  `MarksWords` is the relation between the two tests, and
  `MarksWords.cutAtMarks_eq_cutAtWords` is the equality.  `MarksWords.cutAtMarks_append` says that
  a text without marks adds no mark to what stands behind it.
-/

namespace ChatChain.Text

/-! ## Where a text may be cut -/

/-- Whether a stretch ends between two texts: one of them is empty, or the characters on both
sides of the seam are of different sorts. -/
def SeamBetween (a b : List Char) : Prop :=
  ∀ c ∈ a.getLast?, ∀ d ∈ b.head?, isBlank c ≠ isBlank d

theorem seamBetween_nil (a : List Char) : SeamBetween a [] := by
  intro c _ d hd
  simp at hd

theorem extend_ne_nil (c : Char) (ss : List (List Char)) : extend c ss ≠ [] := by
  unfold extend
  split
  · split <;> simp
  · simp

theorem stretches_ne_nil {cs : List Char} (h : cs ≠ []) : stretches cs ≠ [] := by
  cases cs with
  | nil => exact absurd rfl h
  | cons c cs =>
    rw [stretches_cons]
    exact extend_ne_nil c _

/-- The first stretch of a text begins with its first character. -/
theorem exists_stretches_cons (c : Char) (cs : List Char) :
    ∃ s rest, stretches (c :: cs) = (c :: s) :: rest := by
  rw [stretches_cons]
  unfold extend
  split
  · next d t rest _ =>
    split
    · exact ⟨d :: t, rest, rfl⟩
    · exact ⟨[], (d :: t) :: rest, rfl⟩
  · exact ⟨[], _, rfl⟩

/-- The characters of a stretch are those of the text. -/
theorem mem_of_mem_stretches {s cs : List Char} (h : s ∈ stretches cs) {c : Char} (hc : c ∈ s) :
    c ∈ cs := by
  rw [← flatten_stretches cs]
  exact List.mem_flatten_of_mem h hc

/-- Putting a character in front changes the first stretch only. -/
theorem extend_append (c : Char) {ss : List (List Char)} (hss : ss ≠ [])
    (hne : ∀ s ∈ ss, s ≠ []) (ts : List (List Char)) :
    extend c (ss ++ ts) = extend c ss ++ ts := by
  cases ss with
  | nil => exact absurd rfl hss
  | cons s ss =>
    cases s with
    | nil => exact absurd rfl (hne [] List.mem_cons_self)
    | cons d s =>
      simp only [List.cons_append, extend]
      split <;> rfl

/-- A character of another sort begins a stretch of its own. -/
theorem extend_stretches_of_ne {c : Char} {b : List Char}
    (h : ∀ d ∈ b.head?, isBlank c ≠ isBlank d) : extend c (stretches b) = [c] :: stretches b := by
  cases b with
  | nil => rfl
  | cons d b =>
    obtain ⟨s, rest, hs⟩ := exists_stretches_cons d b
    rw [hs]
    exact if_neg (h d rfl)

/-- The stretches of a text that is put together at a seam are those of its parts. -/
theorem stretches_append {a b : List Char} (h : SeamBetween a b) :
    stretches (a ++ b) = stretches a ++ stretches b := by
  induction a with
  | nil => simp
  | cons c a ih =>
    rw [List.cons_append, stretches_cons, stretches_cons]
    cases a with
    | nil =>
      rw [List.nil_append, extend_stretches_of_ne (h c rfl)]
      rfl
    | cons d a =>
      have hseam : SeamBetween (d :: a) b := fun e he => h e (by simpa using he)
      rw [ih hseam]
      exact extend_append c (stretches_ne_nil (by simp))
        (fun s hs => ne_nil_of_mem_stretches hs) _

/-- A text that is not empty begins with a stretch, and the other stretches are those of the text
behind it. -/
theorem stretches_split {cs : List Char} (h : cs ≠ []) :
    ∃ s rest, cs = s ++ rest ∧ stretches cs = s :: stretches rest ∧ s ≠ [] ∧
      (∀ c ∈ s, ∀ d ∈ s, isBlank c = isBlank d) ∧ SeamBetween s rest := by
  induction cs with
  | nil => exact absurd rfl h
  | cons c cs ih =>
    by_cases hcs : cs = []
    · exact ⟨[c], [], by simp [hcs], by simp [hcs, extend], by simp, by simp, seamBetween_nil _⟩
    · obtain ⟨s, rest, hcut, hstretches, hne, hsame, hseam⟩ := ih hcs
      obtain ⟨d, s, rfl⟩ := List.exists_cons_of_ne_nil hne
      by_cases hcd : isBlank c = isBlank d
      · have hcs' : ∀ e ∈ d :: s, isBlank c = isBlank e := fun e he =>
          hcd.trans (hsame d List.mem_cons_self e he)
        refine ⟨c :: d :: s, rest, by rw [hcut]; rfl, ?_, by simp, ?_, ?_⟩
        · rw [stretches_cons, hstretches]
          exact if_pos hcd
        · intro x hx y hy
          have hfirst : ∀ e ∈ c :: d :: s, isBlank c = isBlank e := fun e he => by
            rcases List.mem_cons.1 he with rfl | htail
            · rfl
            · exact hcs' e htail
          exact (hfirst x hx).symm.trans (hfirst y hy)
        · exact fun e he => hseam e (by simpa using he)
      · refine ⟨[c], cs, rfl, ?_, by simp, by simp, ?_⟩
        · rw [stretches_cons, hstretches]
          exact if_neg hcd
        · intro x hx y hy
          obtain rfl : c = x := by simpa using hx
          obtain rfl : d = y := by simpa [hcut] using hy
          exact hcd

/-- To prove something of every text, prove it of the empty one, and show that it stays true when a
stretch is put in front. -/
theorem stretchInduction {motive : List Char → Prop} (nil : motive [])
    (append : ∀ s rest, s ≠ [] → (∀ c ∈ s, ∀ d ∈ s, isBlank c = isBlank d) → SeamBetween s rest →
      stretches (s ++ rest) = s :: stretches rest → motive rest → motive (s ++ rest))
    (cs : List Char) : motive cs := by
  -- The induction is on the length: a step takes the whole first stretch off the text.
  induction hlen : cs.length using Nat.strongRecOn generalizing cs with
  | ind n ih =>
    by_cases hnil : cs = []
    · exact hnil ▸ nil
    · obtain ⟨s, rest, rfl, hstretches, hne, hsame, hseam⟩ := stretches_split hnil
      have hshort : rest.length < n := by
        have := List.length_pos_iff.2 hne
        rw [List.length_append] at hlen
        omega
      exact append s rest hne hsame hseam hstretches (ih rest.length hshort rest rfl)

/-! ## Walking over a stretch -/

variable {α : Type}

/-- The marks are the words that the test recognises, in their order. -/
theorem map_fst_cutAtWords (word? : List Char → Option α) (ss : List (List Char)) :
    (cutAtWords word? ss).2.map Prod.fst = ss.filterMap word? := by
  induction ss with
  | nil => rfl
  | cons s ss ih =>
    rw [cutAtWords, List.filterMap_cons]
    cases word? s <;> simp [ih]

/-- No mark begins inside a word. -/
theorem cutAtMarks_word (mark? : List Char → Option (α × Nat)) {w : List Char}
    (hw : ∀ c ∈ w, isBlank c = false) (r : List Char) :
    cutAtMarks mark? false (w ++ r) =
      (w ++ (cutAtMarks mark? false r).1, (cutAtMarks mark? false r).2) := by
  induction w with
  | nil => rfl
  | cons c w ih =>
    have hc : isBlank c = false := hw c List.mem_cons_self
    have htail := ih fun d hd => hw d (List.mem_cons_of_mem _ hd)
    simp only [List.cons_append, cutAtMarks, hc, Bool.false_eq_true, if_false, htail]

/-- How a test for marks at the front of a text goes with a test for words: it asks about the word
at the front and covers it, and gaps are no marks. -/
structure MarksWords (mark? : List Char → Option (α × Nat)) (word? : List Char → Option α) :
    Prop where
  front : ∀ cs, mark? cs = (word? (word cs)).map fun label => (label, (word cs).length)
  gap : ∀ s, isGap s = true → word? s = none

section MarksWords

variable {mark? : List Char → Option (α × Nat)} {word? : List Char → Option α}

theorem word_cons_of_isBlank {c : Char} (h : isBlank c = true) (cs : List Char) :
    word (c :: cs) = [] := by
  simp [word, h]

/-- The word at the front of a text that begins with one. -/
theorem word_append {w r : List Char} (hw : ∀ c ∈ w, isBlank c = false)
    (hr : ∀ d ∈ r.head?, isBlank d = true) : word (w ++ r) = w := by
  induction w with
  | nil =>
    cases r with
    | nil => rfl
    | cons d r => exact word_cons_of_isBlank (hr d rfl) r
  | cons c w ih =>
    have hc : isBlank c = false := hw c List.mem_cons_self
    have htail := ih fun d hd => hw d (List.mem_cons_of_mem _ hd)
    unfold word at htail ⊢
    simp [hc, htail]

/-- Blanks behind a text do not change that it begins with a blank, if it is not empty. -/
theorem isBlank_head?_append {a b : List Char} (ha : ∀ d ∈ a.head?, isBlank d = true)
    (hb : ∀ d ∈ b, isBlank d = true) : ∀ d ∈ (a ++ b).head?, isBlank d = true := by
  intro d hd
  cases a with
  | nil => exact hb d (List.mem_of_mem_head? hd)
  | cons c a => exact ha d (by simpa using hd)

theorem isBlank_of_mem_word {c : Char} {cs : List Char} (h : c ∈ word cs) : isBlank c = false := by
  simpa using List.all_eq_true.1 List.all_takeWhile c h

theorem length_word_le (cs : List Char) : (word cs).length ≤ cs.length :=
  (List.takeWhile_prefix _).length_le

/-- A text is the word at its front and a rest that begins with a blank, if it is not empty. -/
theorem exists_eq_word_append (cs : List Char) :
    ∃ r, cs = word cs ++ r ∧ ∀ d ∈ r.head?, isBlank d = true := by
  refine ⟨cs.dropWhile fun c => !isBlank c, List.takeWhile_append_dropWhile.symm, fun d hd => ?_⟩
  have hnot := List.head?_dropWhile_not (fun c => !isBlank c) cs
  rw [Option.mem_def] at hd
  rw [hd] at hnot
  simpa using hnot

namespace MarksWords

/-- No mark begins with a blank. -/
theorem mark_of_isBlank (h : MarksWords mark? word?) {c : Char} (hc : isBlank c = true)
    (cs : List Char) : mark? (c :: cs) = none := by
  rw [h.front, word_cons_of_isBlank hc, h.gap [] rfl]
  rfl

/-- Inside a word and before a gap nothing changes when a word may begin. -/
theorem cutAtMarks_fresh (h : MarksWords mark? word?) (fresh : Bool) {r : List Char}
    (hr : ∀ d ∈ r.head?, isBlank d = true) :
    cutAtMarks mark? fresh r = cutAtMarks mark? true r := by
  cases r with
  | nil => rfl
  | cons d r =>
    have hd : mark? (d :: r) = none := h.mark_of_isBlank (hr d rfl) r
    cases fresh <;> simp [cutAtMarks, hd]

/-- No mark begins inside a gap, and behind a gap a word may begin. -/
theorem cutAtMarks_gap (h : MarksWords mark? word?) (fresh : Bool) {b : List Char} (hne : b ≠ [])
    (hb : ∀ c ∈ b, isBlank c = true) (r : List Char) :
    cutAtMarks mark? fresh (b ++ r) =
      (b ++ (cutAtMarks mark? true r).1, (cutAtMarks mark? true r).2) := by
  induction b generalizing fresh with
  | nil => exact absurd rfl hne
  | cons c b ih =>
    have hc : isBlank c = true := hb c List.mem_cons_self
    have hmark : mark? (c :: (b ++ r)) = none := h.mark_of_isBlank hc _
    have hrest : cutAtMarks mark? true (b ++ r) =
        (b ++ (cutAtMarks mark? true r).1, (cutAtMarks mark? true r).2) := by
      by_cases hnil : b = []
      · simp [hnil]
      · exact ih true hnil fun d hd => hb d (List.mem_cons_of_mem _ hd)
    cases fresh <;> simp [cutAtMarks, hmark, hc, hrest]

/-- A word is a mark or is passed over, and before a gap or the end a word may begin as well. -/
theorem cutAtMarks_first (h : MarksWords mark? word?) {w r : List Char} (hne : w ≠ [])
    (hw : ∀ c ∈ w, isBlank c = false) (hr : ∀ d ∈ r.head?, isBlank d = true) :
    cutAtMarks mark? true (w ++ r) =
      match word? w with
      | some label => ([], (label, (cutAtMarks mark? true r).1) :: (cutAtMarks mark? true r).2)
      | none => (w ++ (cutAtMarks mark? true r).1, (cutAtMarks mark? true r).2) := by
  obtain ⟨c, w, rfl⟩ := List.exists_cons_of_ne_nil hne
  have hc : isBlank c = false := hw c List.mem_cons_self
  have hinside := cutAtMarks_word mark? (fun d hd => hw d (List.mem_cons_of_mem c hd)) r
  rw [h.cutAtMarks_fresh false hr] at hinside
  have hfront := h.front (c :: (w ++ r))
  rw [← List.cons_append, word_append hw hr] at hfront
  rw [List.cons_append] at hfront ⊢
  simp only [cutAtMarks, if_true, hc, hinside, hfront]
  cases word? (c :: w) <;> simp

/-- A stretch is a mark or is passed over, when it does not go on behind the seam. -/
theorem cutAtMarks_stretch (h : MarksWords mark? word?) {s r : List Char} (hne : s ≠ [])
    (hsame : ∀ c ∈ s, ∀ d ∈ s, isBlank c = isBlank d)
    (hr : ∀ c ∈ s.getLast?, isBlank c = false → ∀ d ∈ r.head?, isBlank d = true) :
    cutAtMarks mark? true (s ++ r) =
      match word? s with
      | some label => ([], (label, (cutAtMarks mark? true r).1) :: (cutAtMarks mark? true r).2)
      | none => (s ++ (cutAtMarks mark? true r).1, (cutAtMarks mark? true r).2) := by
  obtain ⟨c, hc⟩ : ∃ c, c ∈ s.getLast? := Option.isSome_iff_exists.1 (by simpa using hne)
  have hcs : c ∈ s := List.mem_of_getLast? hc
  cases hblank : isBlank c with
  | true =>
    have hs : ∀ d ∈ s, isBlank d = true := fun d hd => (hsame d hd c hcs).trans hblank
    rw [h.cutAtMarks_gap true hne hs, h.gap s (List.all_eq_true.2 hs)]
  | false =>
    have hs : ∀ d ∈ s, isBlank d = false := fun d hd => (hsame d hd c hcs).trans hblank
    exact h.cutAtMarks_first hne hs (hr c hc hblank)

/-- Walking through a text finds the same marks as cutting it into words and gaps first. -/
theorem cutAtMarks_eq_cutAtWords (h : MarksWords mark? word?) (cs : List Char) :
    cutAtMarks mark? true cs = cutAtWords word? (stretches cs) := by
  induction cs using stretchInduction with
  | nil => rfl
  | append s rest hne hsame hseam hstretches ih =>
    rw [hstretches, cutAtWords, ← ih]
    refine h.cutAtMarks_stretch hne hsame fun c hc hblank d hd => ?_
    have hsort := hseam c hc d hd
    rw [hblank] at hsort
    simpa using hsort.symm

/-- A text without a mark belongs to what stands in front of the first mark behind it. -/
theorem cutAtMarks_append (h : MarksWords mark? word?) {t r : List Char}
    (ht : ∀ s ∈ stretches t, word? s = none) (hr : ∀ d ∈ r.head?, isBlank d = true) :
    cutAtMarks mark? true (t ++ r) =
      (t ++ (cutAtMarks mark? true r).1, (cutAtMarks mark? true r).2) := by
  induction t using stretchInduction with
  | nil => rfl
  | append s rest hne hsame hseam hstretches ih =>
    rw [hstretches] at ht
    have htail := ih fun u hu => ht u (List.mem_cons_of_mem _ hu)
    have hseam' : ∀ c ∈ s.getLast?, isBlank c = false →
        ∀ d ∈ (rest ++ r).head?, isBlank d = true := fun c hc hblank d hd => by
      cases rest with
      | nil => exact hr d hd
      | cons e rest =>
        have hsort := hseam c hc d (by simpa using hd)
        rw [hblank] at hsort
        simpa using hsort.symm
    rw [List.append_assoc, h.cutAtMarks_stretch hne hsame hseam', ht s List.mem_cons_self, htail,
      List.append_assoc]

/-- A text without a mark is cut nowhere. -/
theorem cutAtMarks_eq_self (h : MarksWords mark? word?) {t : List Char}
    (ht : ∀ s ∈ stretches t, word? s = none) : cutAtMarks mark? true t = (t, []) := by
  have hcut := h.cutAtMarks_append ht (r := []) (by simp)
  simpa using hcut

/-- A text is cut nowhere exactly when no word of it is a mark. -/
theorem cutAtMarks_snd_eq_nil_iff (h : MarksWords mark? word?) {t : List Char} :
    (cutAtMarks mark? true t).2 = [] ↔ ∀ s ∈ stretches t, word? s = none := by
  constructor
  · intro hcut
    have hwords := map_fst_cutAtWords word? (stretches t)
    rw [← h.cutAtMarks_eq_cutAtWords, hcut, List.map_nil] at hwords
    exact List.filterMap_eq_nil_iff.1 hwords.symm
  · intro ht
    rw [h.cutAtMarks_eq_self ht]

end MarksWords

end MarksWords

end ChatChain.Text
