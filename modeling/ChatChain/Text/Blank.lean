/-!
# White space

The characters that separate words (the Unicode property White_Space), and trimming.  Text is
trimmed as a list of characters; `trim` is the same on strings.

* `isBlank` is the class of separators.
* `trimChars` cuts blanks off both ends and nothing else.
-/

namespace ChatChain.Text

/-- Whether `c` has the Unicode property White_Space. -/
def isBlank (c : Char) : Bool :=
  let n := c.toNat
  (9 ≤ n && n ≤ 13) || n == 0x20 || n == 0x85 || n == 0xA0 || n == 0x1680 ||
    (0x2000 ≤ n && n ≤ 0x200A) || n == 0x2028 || n == 0x2029 || n == 0x202F || n == 0x205F ||
    n == 0x3000

/-- Cuts the blanks off the end. -/
def trimEndChars (cs : List Char) : List Char :=
  (cs.reverse.dropWhile isBlank).reverse

/-- Cuts the blanks off both ends. -/
def trimChars (cs : List Char) : List Char :=
  trimEndChars (cs.dropWhile isBlank)

/-- Cuts the blanks off both ends of a string. -/
def trim (s : String) : String :=
  String.ofList (trimChars s.toList)

/-- Whether a string holds nothing but blanks. -/
def isBlankText (s : String) : Bool :=
  s.toList.all isBlank

@[simp] theorem trimChars_nil : trimChars [] = [] := rfl

theorem dropWhile_eq_nil_of_blanks {b : List Char} (hb : ∀ c ∈ b, isBlank c = true) :
    b.dropWhile isBlank = [] := by
  rw [← List.append_nil b, List.dropWhile_append_of_pos hb]
  rfl

theorem trimEndChars_append (t : List Char) {b : List Char} (hb : ∀ c ∈ b, isBlank c = true) :
    trimEndChars (t ++ b) = trimEndChars t := by
  have hreverse : ∀ c ∈ b.reverse, isBlank c = true := fun c hc => hb c (List.mem_reverse.1 hc)
  unfold trimEndChars
  rw [List.reverse_append, List.dropWhile_append_of_pos hreverse]

/-- Blanks around a text make no difference once it is trimmed. -/
theorem trimChars_append {b c : List Char} (hb : ∀ d ∈ b, isBlank d = true) (t : List Char)
    (hc : ∀ d ∈ c, isBlank d = true) : trimChars (b ++ t ++ c) = trimChars t := by
  unfold trimChars
  rw [List.append_assoc, List.dropWhile_append_of_pos hb, List.dropWhile_append]
  split
  · next hblank =>
    rw [List.isEmpty_iff.1 hblank, dropWhile_eq_nil_of_blanks hc]
  · exact trimEndChars_append _ hc

end ChatChain.Text
