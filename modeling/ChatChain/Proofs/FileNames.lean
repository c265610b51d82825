import ChatChain.FileSystem.Location
import ChatChain.Proofs.Values
import ChatChain.TempStore
import Mathlib.Data.List.TakeWhile

/-!
# Safe names and numbered names

`FileName.sanitize` makes names that lead to a place of their own in a directory.  The store puts a
number in front of them, and two numbers never lead to the same place.

There are four groups.

* Safe names.  `IsSafe` lists what a safe name satisfies.  `isSafe_sanitize` says that every
  sanitized name does, and `sanitize_of_isSafe` that no other name is kept as it is.
  `IsSafe.numbered` is the one lemma about numbers in front of names.
* Renaming.  A task that makes files out of files puts a number in front of the name that a file
  has.  `restored_eq_numbered` says that the name then holds all these numbers, however often that
  happens.
* Numbered names.  `eq_of_entryName_eq` reads the number off a name in a store.
* Sizes of names.  For safe names these are numbers of characters, and `HasRoom` says which numbers
  leave room for a name.
-/

namespace ChatChain

open Number

/-! ## Safe names -/

namespace FileName

/-- Whether a name holds safe characters and does not begin with a point. -/
structure IsSafe (name : String) : Prop where
  ne_nil : name.toList ≠ []
  chars : ∀ c ∈ name.toList, isSafeChar c = true
  head : ∀ c ∈ name.toList.head?, c ≠ '.'

theorem isSafeChar_safeChar (c : Char) : isSafeChar (safeChar c) = true := by
  unfold safeChar
  split
  · assumption
  · decide

theorem isSafeChar_of_isDigit {c : Char} (h : c.isDigit = true) : isSafeChar c = true := by
  simp [isSafeChar, Char.isAlphanum, h]

theorem isSafeChar_of_mem_safeChars {raw : List Char} {c : Char} (h : c ∈ safeChars raw) :
    isSafeChar c = true := by
  unfold safeChars at h
  obtain ⟨d, -, rfl⟩ := List.mem_map.1 ((List.dropWhile_suffix _).subset h)
  exact isSafeChar_safeChar d

/-- Every name is made a safe one. -/
theorem isSafe_sanitize (raw : String) : IsSafe (sanitize raw) := by
  unfold sanitize
  cases hchars : safeChars raw.toList with
  | nil =>
    have hchars : fallback.toList.all isSafeChar = true := by decide
    have hhead : fallback.toList.head? ≠ some '.' := by decide
    exact ⟨by decide, List.all_eq_true.1 hchars, fun c hc hpoint => hhead (hpoint ▸ hc)⟩
  | cons c cs =>
    refine ⟨by simp, fun d hd => ?_, fun d hd => ?_⟩
    · rw [String.toList_ofList, ← hchars] at hd
      exact isSafeChar_of_mem_safeChars hd
    · have hnot := List.head?_dropWhile_not (· == '.') ((Text.trimChars raw.toList).map safeChar)
      rw [show List.dropWhile _ _ = _ from hchars] at hnot
      obtain rfl : c = d := by simpa using hd
      simpa using hnot

theorem toNat_of_isSafeChar {c : Char} (h : isSafeChar c = true) :
    33 ≤ c.toNat ∧ c.toNat < 128 := by
  simp only [isSafeChar, Bool.or_eq_true, beq_iff_eq] at h
  rcases h with ((h | rfl) | rfl) | rfl
  · have hbounds : (65 ≤ c.toNat ∧ c.toNat ≤ 90 ∨ 97 ≤ c.toNat ∧ c.toNat ≤ 122) ∨
        48 ≤ c.toNat ∧ c.toNat ≤ 57 := by
      rcases (Bool.or_eq_true c.isAlpha c.isDigit).mp h with hletter | hdigit
      · rcases (Bool.or_eq_true c.isUpper c.isLower).mp hletter with hupper | hlower
        · exact Or.inl (Or.inl (of_decide_eq_true hupper))
        · obtain ⟨hlow, hhigh⟩ := (Bool.and_eq_true _ _).mp hlower
          exact Or.inl (Or.inr ⟨of_decide_eq_true hlow, of_decide_eq_true hhigh⟩)
      · obtain ⟨hlow, hhigh⟩ := (Bool.and_eq_true _ _).mp hdigit
        exact Or.inr ⟨of_decide_eq_true hlow, of_decide_eq_true hhigh⟩
    omega
  · decide
  · decide
  · decide

theorem isBlank_of_isSafeChar {c : Char} (h : isSafeChar c = true) : Text.isBlank c = false := by
  obtain ⟨hlow, hhigh⟩ := toNat_of_isSafeChar h
  simp only [Text.isBlank, Bool.or_eq_false_iff, Bool.and_eq_false_iff, decide_eq_false_iff_not,
    beq_eq_false_iff_ne]
  omega

/-- A safe name is kept as it is. -/
theorem sanitize_of_isSafe {name : String} (h : IsSafe name) : sanitize name = name := by
  have htrim : Text.trimChars name.toList = name.toList :=
    Text.trimChars_eq_self fun c hc => isBlank_of_isSafeChar (h.chars c hc)
  have hmap : name.toList.map safeChar = name.toList := by
    rw [List.map_congr_left (g := id) fun c hc => by simp [safeChar, h.chars c hc], List.map_id]
  unfold sanitize safeChars
  rw [htrim, hmap]
  obtain ⟨c, cs, hcs⟩ := List.exists_cons_of_ne_nil h.ne_nil
  have hpoint : c ≠ '.' := h.head c (by simp [hcs])
  rw [hcs, List.dropWhile_cons_of_neg (by simpa using hpoint)]
  show String.ofList (c :: cs) = name
  rw [← hcs, String.ofList_toList]

namespace IsSafe

variable {name : String}

/-- A safe name leads to a place of its own. -/
theorem advance (h : IsSafe name) :
    Path.isIdle name = false ∧ (name == "..") = false ∧ name ≠ "" := by
  have hhead : ∀ other : String, other.toList.head? = some '.' → name ≠ other := by
    rintro other hother rfl
    exact h.head '.' hother rfl
  have hempty : name ≠ "" := by
    rintro rfl
    exact h.ne_nil rfl
  have hpoint : name ≠ "." := hhead "." rfl
  have hpoints : name ≠ ".." := hhead ".." rfl
  exact ⟨by simp [Path.isIdle, hempty, hpoint], by simpa using hpoints, hempty⟩

/-- A safe name holds no illegal character. -/
theorem contains_nul (h : IsSafe name) : name.toList.contains '\x00' = false := by
  cases hcontains : name.toList.contains '\x00' with
  | false => rfl
  | true =>
    have hsafe := h.chars '\x00' (by simpa using hcontains)
    exact absurd hsafe (by decide)

theorem normal_pair {other : String} (h : IsSafe name) (hother : IsSafe other) :
    Path.normal [name, other] = [name, other] := by
  simp [Path.normal, h.advance.1, hother.advance.1]

/-- Digits and a hyphen in front of a safe name leave it safe. -/
theorem numbered {numeral : List Char} {other : String} (h : IsSafe name)
    (hother : other.toList = numeral ++ '-' :: name.toList)
    (hdigits : ∀ c ∈ numeral, c.isDigit = true) : IsSafe other := by
  refine ⟨by simp [hother], fun c hc => ?_, fun c hc => ?_⟩
  · rw [hother, List.mem_append, List.mem_cons] at hc
    rcases hc with hc | rfl | hc
    · exact isSafeChar_of_isDigit (hdigits c hc)
    · decide
    · exact h.chars c hc
  · intro hpoint
    cases numeral with
    | nil =>
      obtain rfl : '-' = c := by simpa [hother] using hc
      exact absurd hpoint (by decide)
    | cons d ds =>
      obtain rfl : d = c := by simpa [hother] using hc
      have hdigit := hdigits d List.mem_cons_self
      rw [hpoint] at hdigit
      exact absurd hdigit (by decide)

end IsSafe

/-! ## Renaming -/

/-- Whether a text is a decimal number, with or without zeros in front. -/
def IsNumeral (text : String) : Prop :=
  (natural? text.toList).isSome = true

instance (text : String) : Decidable (IsNumeral text) :=
  inferInstanceAs (Decidable (_ = true))

/-- The name with numerals in front of it, the last one first. -/
def numbered (name : String) (numerals : List String) : String :=
  numerals.foldl (fun name numeral => numeral ++ "-" ++ name) name

/-- The name of a file that was stored again for each of the numerals, under the name that it had
with the numeral in front. -/
def restored (name : String) (numerals : List String) : String :=
  numerals.foldl (fun name numeral => sanitize (numeral ++ "-" ++ name)) name

theorem IsNumeral.isDigit {text : String} (h : IsNumeral text) {c : Char}
    (hc : c ∈ text.toList) : c.isDigit = true := by
  unfold IsNumeral natural? at h
  split at h
  · next hdigits =>
    rw [Bool.and_eq_true] at hdigits
    exact List.all_eq_true.1 hdigits.2 c hc
  · exact absurd h (by decide)

theorem IsNumeral.isSafe {numeral name : String} (h : IsNumeral numeral) (hname : IsSafe name) :
    IsSafe (numeral ++ "-" ++ name) := by
  have hchars : (numeral ++ "-" ++ name).toList = numeral.toList ++ '-' :: name.toList := by simp
  exact hname.numbered hchars fun _ hc => h.isDigit hc

section

variable {name : String} {numerals : List String}

theorem isSafe_numbered (hname : IsSafe name) (h : ∀ numeral ∈ numerals, IsNumeral numeral) :
    IsSafe (numbered name numerals) := by
  induction numerals generalizing name with
  | nil => exact hname
  | cons numeral numerals ih =>
    have hnext := (h numeral List.mem_cons_self).isSafe hname
    exact ih hnext fun other hother => h other (List.mem_cons_of_mem numeral hother)

/-- Storing a file again changes nothing of its name but the numeral in front. -/
theorem restored_eq_numbered (hname : IsSafe name) (h : ∀ numeral ∈ numerals, IsNumeral numeral) :
    restored name numerals = numbered name numerals := by
  induction numerals generalizing name with
  | nil => rfl
  | cons numeral numerals ih =>
    have hnext := (h numeral List.mem_cons_self).isSafe hname
    show restored (sanitize (numeral ++ "-" ++ name)) numerals = _
    rw [sanitize_of_isSafe hnext]
    exact ih hnext fun other hother => h other (List.mem_cons_of_mem numeral hother)

end

/-- Sanitizing is a projection onto the safe names, and they are closed under numerals in front. -/
theorem sanitize_projection (raw : String) :
    IsSafe (sanitize raw) ∧ sanitize (sanitize raw) = sanitize raw ∧
      (sanitize raw = raw ↔ IsSafe raw) ∧
      ∀ numerals : List String, (∀ numeral ∈ numerals, IsNumeral numeral) →
        sanitize (numbered (sanitize raw) numerals) = numbered (sanitize raw) numerals ∧
          restored (sanitize raw) numerals = numbered (sanitize raw) numerals := by
  have hsafe := isSafe_sanitize raw
  refine ⟨hsafe, sanitize_of_isSafe hsafe, ⟨fun h => ?_, sanitize_of_isSafe⟩,
    fun numerals hnumerals => ⟨?_, restored_eq_numbered hsafe hnumerals⟩⟩
  · rw [← h]
    exact hsafe
  · apply sanitize_of_isSafe
    exact isSafe_numbered hsafe hnumerals

/-- A name that begins with blanks and points, and a numeral with zeros in front. -/
theorem restored_hidden_name :
    sanitize " ..my notes?.txt" = "my_notes_.txt" ∧
      restored (sanitize " ..my notes?.txt") ["2", "0017"] = "0017-2-my_notes_.txt" := by
  have hname : sanitize " ..my notes?.txt" = "my_notes_.txt" := by decide +kernel
  have hnumerals : ∀ numeral ∈ ["2", "0017"], IsNumeral numeral := by decide
  obtain ⟨-, -, -, hrestored⟩ := sanitize_projection " ..my notes?.txt"
  refine ⟨hname, (hrestored _ hnumerals).2.trans ?_⟩
  rw [hname]
  decide

end FileName

/-! ## Numbered names -/

namespace TempStore

open FileName

theorem isDigit_of_mem_sequenceChars {n : Nat} {c : Char} (h : c ∈ sequenceChars n) :
    c.isDigit = true := by
  rcases List.mem_append.1 h with h | h
  · obtain rfl := (List.mem_replicate.1 h).2
    decide
  · exact isDigit_of_mem_digits h

/-- Zeros in front do not change a number. -/
theorem ofDigits_sequenceChars (n : Nat) : ofDigits (sequenceChars n) = n := by
  have hzeros : ∀ k (cs : List Char), ofDigits (List.replicate k '0' ++ cs) = ofDigits cs := by
    intro k cs
    induction k with
    | zero => rfl
    | succ k ih =>
      rw [List.replicate_succ, List.cons_append, ← ih]
      rfl
  exact (hzeros _ _).trans (ofDigits_digits n)

@[simp] theorem toList_entryName (n : Nat) (name : String) :
    (entryName n name).toList = sequenceChars n ++ '-' :: name.toList := by
  simp [entryName]

/-- A number in front of a safe name leaves it safe. -/
theorem isSafe_entryName (n : Nat) {name : String} (h : IsSafe name) :
    IsSafe (entryName n name) :=
  h.numbered (toList_entryName n name) fun _ hc => isDigit_of_mem_sequenceChars hc

/-- The number of a numbered name. -/
theorem takeWhile_entryName (n : Nat) (name : String) :
    (entryName n name).toList.takeWhile (· != '-') = sequenceChars n := by
  have hdigits : ∀ c ∈ sequenceChars n, (c != '-') = true := by
    intro c hc
    have hdigit := isDigit_of_mem_sequenceChars hc
    simp only [bne_iff_ne, ne_eq]
    rintro rfl
    exact absurd hdigit (by decide)
  rw [toList_entryName, List.takeWhile_append_of_pos hdigits]
  simp

/-- Two numbered names are different when their numbers are. -/
theorem eq_of_entryName_eq {n k : Nat} {name other : String}
    (h : entryName n name = entryName k other) : n = k := by
  have hchars : sequenceChars n = sequenceChars k := by
    rw [← takeWhile_entryName n name, h, takeWhile_entryName]
  rw [← ofDigits_sequenceChars n, hchars, ofDigits_sequenceChars]

end TempStore

/-! ## Sizes of names -/

namespace FileName

theorem utf8Size_of_isSafeChar {c : Char} (h : isSafeChar c = true) : c.utf8Size = 1 := by
  obtain ⟨-, hhigh⟩ := toNat_of_isSafeChar h
  rw [Char.utf8Size_eq_one_iff, UInt32.le_iff_toNat_le]
  exact Nat.le_of_lt_succ hhigh

/-- The size of a safe name is the number of its characters. -/
theorem IsSafe.nameSize_eq {name : String} (h : IsSafe name) :
    Path.nameSize name = name.toList.length := by
  have hsizes : name.toList.map Char.utf8Size = List.replicate name.toList.length 1 := by
    rw [List.eq_replicate_iff]
    refine ⟨by simp, fun n hn => ?_⟩
    obtain ⟨c, hc, rfl⟩ := List.mem_map.1 hn
    exact utf8Size_of_isSafeChar (h.chars c hc)
  rw [Path.nameSize, hsizes, ← List.sum_eq_foldl]
  simp

/-- A name of so many letters. -/
def letters (n : Nat) : String :=
  String.ofList (List.replicate n 'n')

theorem isSafe_letters {n : Nat} (h : n ≠ 0) : IsSafe (letters n) := by
  have hchars : (letters n).toList = List.replicate n 'n' := String.toList_ofList
  have hmem : ∀ c ∈ (letters n).toList, c = 'n' :=
    fun c hc => List.eq_of_mem_replicate (hchars ▸ hc)
  refine ⟨by simp [hchars, h], fun c hc => ?_, fun c hc => ?_⟩
  · rw [hmem c hc]
    decide
  · rw [hmem c (List.mem_of_mem_head? hc)]
    decide

theorem nameSize_letters {n : Nat} (h : n ≠ 0) : Path.nameSize (letters n) = n := by
  rw [(isSafe_letters h).nameSize_eq, letters, String.toList_ofList, List.length_replicate]

end FileName

namespace TempStore

open FileName

theorem nameSize_entryName (n : Nat) {name : String} (h : IsSafe name) :
    Path.nameSize (entryName n name) = (sequenceChars n).length + 1 + Path.nameSize name := by
  rw [(isSafe_entryName n h).nameSize_eq, h.nameSize_eq, toList_entryName]
  simp [Nat.add_assoc, Nat.add_comm 1]

/-- Whether the number of a file leaves room for a name of the given size. -/
def HasRoom (size n : Nat) : Prop :=
  (sequenceChars n).length + 1 + size ≤ Path.maxNameSize

instance (size n : Nat) : Decidable (HasRoom size n) :=
  inferInstanceAs (Decidable (_ ≤ _))

theorem fits_entryName_iff (n : Nat) {name : String} (h : IsSafe name) :
    Path.fits (entryName n name) = true ↔ HasRoom (Path.nameSize name) n := by
  rw [Path.fits, decide_eq_true_iff, nameSize_entryName n h]
  rfl

theorem length_sequenceChars (n : Nat) :
    (sequenceChars n).length = max 4 (digits n).length := by
  simp only [sequenceChars, List.length_append, List.length_replicate]
  omega

/-- Higher numbers leave less room. -/
theorem HasRoom.mono {size size' n n' : Nat} (h : HasRoom size n) (hsize : size' ≤ size)
    (hn : n' ≤ n) : HasRoom size' n' := by
  have hlength := length_digits_mono hn
  unfold HasRoom at h ⊢
  rw [length_sequenceChars] at h ⊢
  omega

end TempStore

end ChatChain
