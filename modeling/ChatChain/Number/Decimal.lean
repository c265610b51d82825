/-!
# Decimal numerals

Whole numbers written in base ten, as lists of characters.

* `digits` writes a natural number without leading zeros, `ofDigits` adds up a list of digits, and
  `ofDigits_digits` says that the second undoes the first.
* `natural?`, `unsigned?` and `signed?` read a whole text: they refuse an empty text, a lone sign
  and any other character.  `signed?_intChars` and `natural?_digits` say that what is written is
  read back.
-/

namespace ChatChain.Number

/-- The character of a digit below ten. -/
def digitChar (d : Nat) : Char :=
  Char.ofNat (48 + d)

/-- The value of a digit character. -/
def digitValue (c : Char) : Nat :=
  c.toNat - 48

/-- The decimal digits of `n`, the most significant first. -/
def digits (n : Nat) : List Char :=
  if n < 10 then [digitChar n] else digits (n / 10) ++ [digitChar (n % 10)]

/-- The number that a list of digits writes. -/
def ofDigits (cs : List Char) : Nat :=
  cs.foldl (fun n c => 10 * n + digitValue c) 0

/-- Reads an unsigned numeral without a sign. -/
def natural? (cs : List Char) : Option Nat :=
  if !cs.isEmpty && cs.all Char.isDigit then some (ofDigits cs) else none

/-- Reads an unsigned numeral, which may have a plus sign. -/
def unsigned? : List Char → Option Nat
  | '+' :: cs => natural? cs
  | cs => natural? cs

/-- Reads a numeral, which may have one sign. -/
def signed? : List Char → Option Int
  | '+' :: cs => (natural? cs).map Int.ofNat
  | '-' :: cs => (natural? cs).map fun n => -Int.ofNat n
  | cs => (natural? cs).map Int.ofNat

/-- Writes a natural number. -/
def writeNat (n : Nat) : String :=
  String.ofList (digits n)

/-- The characters of an integer, with a minus sign when it is negative. -/
def intChars : Int → List Char
  | .ofNat n => digits n
  | .negSucc n => '-' :: digits (n + 1)

/-- Writes an integer. -/
def writeInt (i : Int) : String :=
  String.ofList (intChars i)

/-! ## What is written is read back -/

theorem digitChar_cases {d : Nat} (h : d < 10) :
    (digitChar d).isDigit = true ∧ digitValue (digitChar d) = d := by
  have all : ∀ e ∈ List.range 10,
      (digitChar e).isDigit = true ∧ digitValue (digitChar e) = e := by decide
  exact all d (List.mem_range.2 h)

theorem digits_ne_nil (n : Nat) : digits n ≠ [] := by
  rw [digits]
  split <;> simp

theorem writeInt_ne_empty (i : Int) : writeInt i ≠ "" := by
  intro h
  have hnone : intChars i = [] := by simpa [writeInt] using congrArg String.toList h
  cases i with
  | ofNat n => exact digits_ne_nil n hnone
  | negSucc n => exact absurd hnone (List.cons_ne_nil _ _)

theorem writeNat_ne_empty (n : Nat) : writeNat n ≠ "" :=
  writeInt_ne_empty (Int.ofNat n)

/-- A smaller number has no more digits. -/
theorem length_digits_mono {n k : Nat} (h : n ≤ k) : (digits n).length ≤ (digits k).length := by
  induction k using Nat.strongRecOn generalizing n with
  | ind k ih =>
    by_cases hk : k < 10
    · have hn : n < 10 := by omega
      rw [digits.eq_def n, digits.eq_def k, if_pos hn, if_pos hk]
      simp
    · rw [digits.eq_def k, if_neg hk]
      by_cases hn : n < 10
      · rw [digits.eq_def n, if_pos hn]
        simp
      · rw [digits.eq_def n, if_neg hn]
        have hlength := ih (k / 10) (by omega) (Nat.div_le_div_right h)
        simpa using hlength

theorem isDigit_of_mem_digits {n : Nat} {c : Char} (h : c ∈ digits n) : c.isDigit = true := by
  induction n using digits.induct with
  | case1 n hn =>
    rw [digits, if_pos hn] at h
    rw [List.mem_singleton.1 h]
    exact (digitChar_cases hn).1
  | case2 n hn ih =>
    rw [digits, if_neg hn] at h
    rcases List.mem_append.1 h with h | h
    · exact ih h
    · rw [List.mem_singleton.1 h]
      exact (digitChar_cases (Nat.mod_lt n (by decide))).1

theorem ofDigits_append_singleton (cs : List Char) (c : Char) :
    ofDigits (cs ++ [c]) = 10 * ofDigits cs + digitValue c := by
  simp [ofDigits]

theorem ofDigits_digits (n : Nat) : ofDigits (digits n) = n := by
  induction n using digits.induct with
  | case1 n hn =>
    rw [digits, if_pos hn]
    simp [ofDigits, (digitChar_cases hn).2]
  | case2 n hn ih =>
    rw [digits, if_neg hn, ofDigits_append_singleton, ih,
      (digitChar_cases (Nat.mod_lt n (by decide))).2]
    omega

@[simp] theorem natural?_digits (n : Nat) : natural? (digits n) = some n := by
  have hall : (digits n).all Char.isDigit = true :=
    List.all_eq_true.2 fun c hc => isDigit_of_mem_digits hc
  simp [natural?, digits_ne_nil, hall, ofDigits_digits]

/-- A numeral without a sign reads as the natural number. -/
theorem signed?_digits (n : Nat) : signed? (digits n) = some (Int.ofNat n) := by
  have hhead : ∀ c cs, digits n = c :: cs → c.isDigit = true := fun c cs h =>
    isDigit_of_mem_digits (h ▸ List.mem_cons_self ..)
  unfold signed?
  split
  · next cs h => exact absurd (hhead _ _ h) (by decide)
  · next cs h => exact absurd (hhead _ _ h) (by decide)
  · simp

@[simp] theorem signed?_intChars (i : Int) : signed? (intChars i) = some i := by
  cases i with
  | ofNat n => exact signed?_digits n
  | negSucc n =>
    simp only [intChars, signed?, natural?_digits, Option.map_some]
    rfl

end ChatChain.Number
