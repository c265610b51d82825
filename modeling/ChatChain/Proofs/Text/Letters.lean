import ChatChain.Grammar
import ChatChain.Text.Blank

/-!
# Letters and blanks

The classes of characters are tables of code points.  This module proves the facts about them that
the grammar rests on: no letter or digit is a blank, no digit is a letter, and the separator of a
scope is neither.  With them a name or a key is one word that does not begin with a digit, and a
name ends where the separator stands.
-/

namespace ChatChain

namespace Text

/-- The code points of the blanks. -/
def blankPoints : List Nat :=
  [9, 10, 11, 12, 13, 0x20, 0x85, 0xA0, 0x1680, 0x2000, 0x2001, 0x2002, 0x2003, 0x2004, 0x2005,
    0x2006, 0x2007, 0x2008, 0x2009, 0x200A, 0x2028, 0x2029, 0x202F, 0x205F, 0x3000]

theorem toNat_mem_blankPoints {c : Char} (h : isBlank c = true) : c.toNat ∈ blankPoints := by
  simp only [isBlank, Bool.or_eq_true, Bool.and_eq_true, decide_eq_true_eq, beq_iff_eq] at h
  simp only [blankPoints, List.mem_cons, List.not_mem_nil, or_false]
  omega

/-- No blank is a letter or a digit. -/
theorem isAlphanumeric_of_isBlank {c : Char} (h : isBlank c = true) : isAlphanumeric c = false := by
  have all : ∀ n ∈ blankPoints, isAlphanumeric (Char.ofNat n) = false := by decide +kernel
  have hc := all c.toNat (toNat_mem_blankPoints h)
  rwa [Char.ofNat_toNat] at hc

theorem isBlank_of_isAlphanumeric {c : Char} (h : isAlphanumeric c = true) : isBlank c = false := by
  cases hb : isBlank c with
  | false => rfl
  | true =>
    rw [isAlphanumeric_of_isBlank hb] at h
    exact absurd h (by decide)

theorem isAlphanumeric_of_isAlphabetic {c : Char} (h : isAlphabetic c = true) :
    isAlphanumeric c = true := by
  simp [isAlphanumeric, h]

/-- A digit is no letter. -/
theorem isAlphabetic_of_isDigit {c : Char} (h : c.isDigit = true) : isAlphabetic c = false := by
  have all : ∀ n ∈ List.range' 48 10, isAlphabetic (Char.ofNat n) = false := by decide +kernel
  simp only [Char.isDigit, Bool.and_eq_true, decide_eq_true_eq] at h
  have hlow : 48 ≤ c.toNat := h.1
  have hhigh : c.toNat ≤ 57 := h.2
  have hc := all c.toNat (List.mem_range'_1.2 ⟨hlow, by omega⟩)
  rwa [Char.ofNat_toNat] at hc

end Text

open Text

/-! ## Identifiers -/

/-- What the characters of an identifier are. -/
theorem mem_of_isIdentifier {extra : Char → Bool} {cs : List Char}
    (h : isIdentifier extra cs = true) {c : Char} (hc : c ∈ cs) :
    isAlphanumeric c = true ∨ extra c = true := by
  cases cs with
  | nil => simp [isIdentifier] at h
  | cons d cs =>
    simp only [isIdentifier, Bool.and_eq_true, List.all_eq_true, Bool.or_eq_true] at h
    rcases List.mem_cons.1 hc with rfl | hc
    · exact Or.inl (isAlphanumeric_of_isAlphabetic h.1)
    · exact h.2 c hc

/-- A name does not begin with a digit. -/
theorem isIdentifier_of_isDigit (extra : Char → Bool) {cs : List Char}
    (h : ∀ c ∈ cs, c.isDigit = true) : isIdentifier extra cs = false := by
  cases cs with
  | nil => rfl
  | cons c cs => simp [isIdentifier, Text.isAlphabetic_of_isDigit (h c List.mem_cons_self)]

/-- An identifier does not begin with a blank. -/
theorem isIdentifier_of_isBlank (extra : Char → Bool) {c : Char} (h : isBlank c = true)
    (cs : List Char) : isIdentifier extra (c :: cs) = false := by
  have hletter : isAlphabetic c = false := by
    cases ha : isAlphabetic c with
    | false => rfl
    | true =>
      have hc := isBlank_of_isAlphanumeric (isAlphanumeric_of_isAlphabetic ha)
      rw [h] at hc
      exact absurd hc (by decide)
  simp [isIdentifier, hletter]

/-- A name of a command is one word. -/
theorem isBlank_of_mem_commandName {cs : List Char} (h : isCommandNameChars cs = true) {c : Char}
    (hc : c ∈ cs) : isBlank c = false := by
  rcases mem_of_isIdentifier h hc with hc | hc
  · exact isBlank_of_isAlphanumeric hc
  · rw [beq_iff_eq] at hc
    subst hc
    decide

/-- A key of an argument is one word. -/
theorem isBlank_of_mem_argumentKey {cs : List Char} (h : isArgumentKeyChars cs = true) {c : Char}
    (hc : c ∈ cs) : isBlank c = false := by
  rcases mem_of_isIdentifier h hc with hc | hc
  · exact isBlank_of_isAlphanumeric hc
  · rw [Bool.or_eq_true, beq_iff_eq, beq_iff_eq] at hc
    rcases hc with rfl | rfl <;> decide

/-- The separator of a scope does not stand in a name. -/
theorem ne_entitySeparator_of_mem_commandName {cs : List Char} (h : isCommandNameChars cs = true)
    {c : Char} (hc : c ∈ cs) : c ≠ entitySeparator := by
  rintro rfl
  rcases mem_of_isIdentifier h hc with hc | hc
  · have hnot : isAlphanumeric entitySeparator = false := by decide +kernel
    rw [hnot] at hc
    exact absurd hc (by decide)
  · exact absurd hc (by decide)

end ChatChain
