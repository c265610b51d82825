import ChatChain.Text.Blank
import ChatChain.Value
import Mathlib.Data.List.DropRight

/-!
# Values as text

What `Value.render` writes of a text, a whole number or a flag, `Value.coerce?` reads back.  The
other two kinds have values for which that fails, and are left out.  Of a choice that was read,
`getElem?_of_coerce?` says that it is one of the declared names.
-/

namespace ChatChain

open Number

namespace Text

/-- A text without blanks is trimmed. -/
theorem trimChars_eq_self {cs : List Char} (h : ∀ c ∈ cs, isBlank c = false) :
    trimChars cs = cs := by
  have hdrop : ∀ {t : List Char}, (∀ c ∈ t, isBlank c = false) → t.dropWhile isBlank = t := by
    intro t ht
    cases t with
    | nil => rfl
    | cons c t => simp [ht c List.mem_cons_self]
  unfold trimChars trimEndChars
  rw [hdrop h, hdrop (fun c hc => h c (List.mem_reverse.1 hc)), List.reverse_reverse]

theorem trimChars_trimChars (cs : List Char) : trimChars (trimChars cs) = trimChars cs := by
  have hprefix : trimChars cs <+: cs.dropWhile isBlank := List.rdropWhile_prefix _ _
  have hdrop : (trimChars cs).dropWhile isBlank = trimChars cs := by
    cases htrim : trimChars cs with
    | nil => rfl
    | cons c t =>
      obtain ⟨rest, hrest⟩ := hprefix
      have hnot := List.head?_dropWhile_not isBlank cs
      rw [← hrest, htrim] at hnot
      have hc : isBlank c = false := by simpa using hnot
      simp [hc]
  show trimEndChars ((trimChars cs).dropWhile isBlank) = trimChars cs
  rw [hdrop]
  exact List.rdropWhile_idempotent _ _

/-- Trimming twice is trimming once. -/
theorem trim_ofList_trimChars (cs : List Char) :
    trim (String.ofList (trimChars cs)) = String.ofList (trimChars cs) := by
  rw [trim, String.toList_ofList, trimChars_trimChars]

theorem isBlank_of_isDigit {c : Char} (h : c.isDigit = true) : isBlank c = false := by
  simp only [Char.isDigit, Bool.and_eq_true, decide_eq_true_eq] at h
  have hlow : 48 ≤ c.toNat := h.1
  have hhigh : c.toNat ≤ 57 := h.2
  simp only [isBlank, Bool.or_eq_false_iff, Bool.and_eq_false_iff, decide_eq_false_iff_not,
    beq_eq_false_iff_ne]
  omega

end Text

namespace Kind

/-- Whether every value of the kind is read back from its text. -/
def isFaithful : Kind → Bool
  | text | integer | long | boolean => true
  | _ => false

end Kind

namespace Value

open Text

theorem isBlank_of_mem_intChars {i : Int} {c : Char} (h : c ∈ intChars i) : isBlank c = false := by
  cases i with
  | ofNat n => exact isBlank_of_isDigit (isDigit_of_mem_digits h)
  | negSucc n =>
    rcases List.mem_cons.1 h with rfl | h
    · decide
    · exact isBlank_of_isDigit (isDigit_of_mem_digits h)

theorem trimChars_writeInt (i : Int) : trimChars (writeInt i).toList = intChars i := by
  rw [writeInt, String.toList_ofList, trimChars_eq_self fun c hc => isBlank_of_mem_intChars hc]

@[simp] theorem int32?_toInt (n : Int32) : int32? n.toInt = some n := by
  unfold int32?
  rw [if_pos ⟨n.minValue_le_toInt, n.toInt_le⟩, Int32.ofInt_toInt]

@[simp] theorem int64?_toInt (n : Int64) : int64? n.toInt = some n := by
  unfold int64?
  rw [if_pos ⟨n.minValue_le_toInt, n.toInt_le⟩, Int64.ofInt_toInt]

theorem int32?_eq_some_iff {i : Int} {n : Int32} : int32? i = some n ↔ n.toInt = i := by
  constructor
  · intro h
    unfold int32? at h
    split at h
    · next hrange =>
      obtain rfl := Option.some.inj h
      exact Int32.toInt_ofInt_of_le hrange.1 (Int.lt_of_le_of_lt hrange.2 (by decide))
    · cases h
  · intro h
    rw [← h]
    exact int32?_toInt n

theorem int64?_eq_some_iff {i : Int} {n : Int64} : int64? i = some n ↔ n.toInt = i := by
  constructor
  · intro h
    unfold int64? at h
    split at h
    · next hrange =>
      obtain rfl := Option.some.inj h
      exact Int64.toInt_ofInt_of_le hrange.1 (Int.lt_of_le_of_lt hrange.2 (by decide))
    · cases h
  · intro h
    rw [← h]
    exact int64?_toInt n

/-- Values of the faithful kinds are read back from their text. -/
theorem coerce?_render {v : Value} (h : v.kind.isFaithful = true) (choices : List String) :
    coerce? v.render v.kind choices = some v := by
  cases v with
  | text content => rfl
  | integer n => simp [coerce?, render, kind, trimChars_writeInt]
  | long n => simp [coerce?, render, kind, trimChars_writeInt]
  | double n => exact absurd h (by simp [kind, Kind.isFaithful])
  | boolean flag => cases flag <;> rfl
  | choice index name => exact absurd h (by simp [kind, Kind.isFaithful])

/-- A value of a faithful kind that was read from trimmed text has a trimmed text. -/
theorem trim_render_of_coerce? {text : String} {kind : Kind} {choices : List String} {v : Value}
    (htext : trim text = text) (hkind : kind.isFaithful = true)
    (h : coerce? text kind choices = some v) : trim v.render = v.render := by
  have hv := kind_of_coerce? h
  subst hv
  cases v with
  | text content =>
    obtain rfl : text = content := by simpa [coerce?, Value.kind] using h
    exact htext
  | integer n => exact congrArg String.ofList (trimChars_writeInt n.toInt)
  | long n => exact congrArg String.ofList (trimChars_writeInt n.toInt)
  | double n => exact absurd hkind (by simp [Value.kind, Kind.isFaithful])
  | boolean flag => cases flag <;> decide
  | choice index name => exact absurd hkind (by simp [Value.kind, Kind.isFaithful])

/-- A choice that was read has the name that is declared at its index. -/
theorem getElem?_of_coerce? {text : String} {kind : Kind} {choices : List String} {index : Nat}
    {name : String} (h : coerce? text kind choices = some (.choice index name)) :
    choices[index]? = some name := by
  have hkind : kind = .choice := (kind_of_coerce? h).symm
  subst hkind
  have hpick : ∀ {n : Nat}, choices[n]?.map (Value.choice n) = some (.choice index name) →
      choices[index]? = some name := by
    intro n hn
    obtain ⟨found, hfound, heq⟩ := Option.map_eq_some_iff.1 hn
    obtain ⟨rfl, rfl⟩ := Value.choice.inj heq
    exact hfound
  simp only [coerce?, choice?] at h
  split at h
  · exact hpick h
  · obtain ⟨n, -, hn⟩ := Option.bind_eq_some_iff.1 h
    exact hpick hn

end Value

end ChatChain
