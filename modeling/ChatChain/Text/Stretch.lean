import ChatChain.Text.Blank

/-!
# Words and gaps

A text is an alternation of words and gaps: maximal stretches without blanks, and maximal stretches
of blanks.  `stretches` cuts a text into them, and `cutAtWords` splits the stretches at the words
that are marks.

* `flatten_stretches` says that cutting loses nothing.
* `ne_nil_of_mem_stretches` and `isBlank_eq_of_mem_stretches` say that a stretch is not empty and
  holds characters of one sort.
-/

namespace ChatChain.Text

/-- Puts a character in front of the stretches of the text behind it. -/
def extend (c : Char) : List (List Char) → List (List Char)
  | (d :: s) :: rest =>
    if isBlank c = isBlank d then (c :: d :: s) :: rest else [c] :: (d :: s) :: rest
  | rest => [c] :: rest

/-- The words and gaps of a text, in order. -/
def stretches (cs : List Char) : List (List Char) :=
  cs.foldr extend []

/-- Whether a stretch is a gap. -/
def isGap (s : List Char) : Bool :=
  s.all isBlank

/-- Splits stretches at the words that `mark?` recognises.  The answer is the text before the first
mark, and for every mark what follows it up to the next one. -/
def cutAtWords {α : Type} (mark? : List Char → Option α) :
    List (List Char) → List Char × List (α × List Char)
  | [] => ([], [])
  | s :: rest =>
    let cut := cutAtWords mark? rest
    match mark? s with
    | some label => ([], (label, cut.1) :: cut.2)
    | none => (s ++ cut.1, cut.2)

@[simp] theorem stretches_nil : stretches [] = [] := rfl

@[simp] theorem stretches_cons (c : Char) (cs : List Char) :
    stretches (c :: cs) = extend c (stretches cs) := rfl

theorem flatten_extend (c : Char) (ss : List (List Char)) :
    (extend c ss).flatten = c :: ss.flatten := by
  unfold extend
  split
  · split <;> simp
  · simp

/-- The stretches of a text make up the text. -/
@[simp] theorem flatten_stretches (cs : List Char) : (stretches cs).flatten = cs := by
  induction cs with
  | nil => rfl
  | cons c cs ih => rw [stretches_cons, flatten_extend, ih]

theorem ne_nil_of_mem_stretches {s cs : List Char} (h : s ∈ stretches cs) : s ≠ [] := by
  induction cs generalizing s with
  | nil => simp at h
  | cons c cs ih =>
    rw [stretches_cons] at h
    unfold extend at h
    split at h
    · next d t rest hs =>
      rw [hs] at ih
      split at h
      · rcases List.mem_cons.1 h with rfl | h
        · simp
        · exact ih (List.mem_cons_of_mem _ h)
      · rcases List.mem_cons.1 h with rfl | h
        · simp
        · exact ih h
    · rcases List.mem_cons.1 h with rfl | h
      · simp
      · exact ih h

/-- All characters of a stretch are blanks, or none is. -/
theorem isBlank_eq_of_mem_stretches {s cs : List Char} (h : s ∈ stretches cs) {c d : Char}
    (hc : c ∈ s) (hd : d ∈ s) : isBlank c = isBlank d := by
  induction cs generalizing s c d with
  | nil => simp at h
  | cons a cs ih =>
    rw [stretches_cons] at h
    unfold extend at h
    split at h
    · next b t rest hs =>
      rw [hs] at ih
      split at h
      · next hab =>
        rcases List.mem_cons.1 h with rfl | h
        · have first : ∀ {e}, e ∈ a :: b :: t → isBlank e = isBlank b := fun he => by
            rcases List.mem_cons.1 he with rfl | he
            · exact hab
            · exact ih List.mem_cons_self he List.mem_cons_self
          rw [first hc, first hd]
        · exact ih (List.mem_cons_of_mem _ h) hc hd
      · rcases List.mem_cons.1 h with rfl | h
        · rw [List.mem_singleton.1 hc, List.mem_singleton.1 hd]
        · exact ih h hc hd
    · rcases List.mem_cons.1 h with rfl | h
      · rw [List.mem_singleton.1 hc, List.mem_singleton.1 hd]
      · exact ih h hc hd

end ChatChain.Text
