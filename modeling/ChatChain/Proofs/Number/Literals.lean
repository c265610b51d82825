import ChatChain.Proofs.Number.Nearest
import Mathlib.Data.List.TakeWhile

/-!
# Doubles as text

Whatever `read?` reads as a double, it reads again from what `writeChars` writes of it.

* The shortest decimal.  `places_spec` bounds the value from below, so that a grid with seventeen
  digits is finer than the interval of a double, and `exists_hit` finds a decimal in it.
* Positional text.  `Spells` is the shape of the text of a decimal, and `positional_spells` says
  that it keeps the value.
* Reading.  A text of that shape is read as the quotient that it spells, `ofDecimal_eq`, and the
  quotient is rounded to the double, since it lies in its interval.
-/

namespace ChatChain.Number

/-! ## Characters -/

theorem isDigit_iff {c : Char} : c.isDigit = true ↔ 48 ≤ c.toNat ∧ c.toNat ≤ 57 := by
  simp only [Char.isDigit, Bool.and_eq_true, decide_eq_true_eq]
  rfl

/-- Lower case is another character only for a capital, which is then a letter either way. -/
theorem toLower_cases (c : Char) : c.toLower = c ∨
    (65 ≤ c.toNat ∧ c.toNat ≤ 90 ∧ c.toLower.toNat = c.toNat + 32) := by
  unfold Char.toLower
  split
  · next hupper =>
    have hlow : 65 ≤ c.toNat := hupper.1
    have hhigh : c.toNat ≤ 90 := hupper.2
    refine Or.inr ⟨hlow, hhigh, ?_⟩
    show (c.val + 32).toNat = c.toNat + 32
    rw [UInt32.toNat_add]
    exact Nat.mod_eq_of_lt (Nat.lt_of_le_of_lt (Nat.add_le_add_right hhigh 32) (by decide))
  · exact Or.inl rfl

theorem toLower_of_isDigit {c : Char} (h : c.isDigit = true) : c.toLower = c := by
  rw [isDigit_iff] at h
  exact (toLower_cases c).resolve_right fun hupper => by omega

/-! ## Digits -/

theorem ofDigits_append (a b : List Char) :
    ofDigits (a ++ b) = ofDigits a * 10 ^ b.length + ofDigits b := by
  induction b using List.reverseRecOn with
  | nil => simp [ofDigits]
  | append_singleton b c ih =>
    rw [← List.append_assoc, ofDigits_append_singleton, ofDigits_append_singleton, ih,
      List.length_append, List.length_singleton, pow_succ]
    ring

@[simp] theorem ofDigits_replicate_zero (n : Nat) : ofDigits (List.replicate n '0') = 0 := by
  induction n with
  | zero => rfl
  | succ n ih =>
    rw [List.replicate_succ', ofDigits_append_singleton, ih]
    rfl

/-- A number with digits has as many as its size asks for. -/
theorem digits_length {n : Nat} (hn : 0 < n) :
    10 ^ (digits n).length ≤ 10 * n ∧ n < 10 ^ (digits n).length := by
  induction n using digits.induct with
  | case1 n hsmall =>
    rw [digits, if_pos hsmall]
    simp only [List.length_singleton, pow_one]
    omega
  | case2 n hlarge ih =>
    obtain ⟨hlow, hhigh⟩ := ih (by omega)
    rw [digits, if_neg hlarge, List.length_append, List.length_singleton, pow_succ]
    omega

/-- The same over the rationals. -/
theorem digits_length_zpow {n : Nat} (hn : 0 < n) :
    (10 : Rat) ^ ((digits n).length - 1 : Int) ≤ n ∧
      (n : Rat) < 10 ^ ((digits n).length : Int) := by
  obtain ⟨hlow, hhigh⟩ := digits_length hn
  constructor
  · rw [zpow_sub_one₀ (by norm_num), zpow_natCast, ← div_eq_mul_inv, div_le_iff₀ (by norm_num),
      mul_comm]
    exact_mod_cast hlow
  · rw [zpow_natCast]
    exact_mod_cast hhigh

namespace Binary64

/-! ## The shortest decimal -/

namespace Neighbourhood

variable {n : Neighbourhood} {count k : Nat}

theorem places_spec (hvalue : 0 < n.value) (hunit : 0 < n.unit) :
    (10 : Rat) ^ (n.places - 1) * n.unit ≤ n.value := by
  have hpos : (0 : Rat) < n.unit := by exact_mod_cast hunit
  have hvaluelow := (digits_length_zpow hvalue).1
  have hunithigh := (digits_length_zpow hunit).2.le
  unfold places
  simp only
  split
  · next hle =>
    rw [add_sub_cancel_right, ← pow_toNat_div 10 (by norm_num), div_mul_eq_mul_div,
      div_le_iff₀ (by positivity), mul_comm]
    exact_mod_cast hle
  · calc (10 : Rat) ^ (((digits n.value).length : Int) - (digits n.unit).length - 1) * n.unit
        ≤ 10 ^ (((digits n.value).length : Int) - (digits n.unit).length - 1) *
            10 ^ ((digits n.unit).length : Int) := by gcongr
      _ = 10 ^ ((digits n.value).length - 1 : Int) := by
        rw [← zpow_add₀ (by norm_num)]
        congr 1
        ring
      _ ≤ n.value := hvaluelow

/-- A decimal of a grid, as the quotient of whole numbers with which `hit?` reckons. -/
theorem decimal_mul_unit (k : Nat) (exponent : Int) : (k * 10 ^ exponent * n.unit : Rat) =
    (k * (n.unit * 10 ^ exponent.toNat) : Rat) / 10 ^ (-exponent).toNat := by
  rw [← pow_toNat_div 10 (by norm_num)]
  field_simp

/-- The tests of `hit?` say whether a decimal lies in the interval. -/
theorem contains_decimal_iff (exponent : Int) :
    n.Contains (k * 10 ^ exponent) ↔
      (if n.closed then
        n.low * Nat.pow 10 (-exponent).toNat ≤ k * (n.unit * Nat.pow 10 exponent.toNat) ∧
          k * (n.unit * Nat.pow 10 exponent.toNat) ≤ n.high * Nat.pow 10 (-exponent).toNat
      else
        n.low * Nat.pow 10 (-exponent).toNat < k * (n.unit * Nat.pow 10 exponent.toNat) ∧
          k * (n.unit * Nat.pow 10 exponent.toNat) < n.high * Nat.pow 10 (-exponent).toNat) := by
  have hpos : (0 : Rat) < 10 ^ (-exponent).toNat := by positivity
  unfold Contains
  rw [decimal_mul_unit, le_div_iff₀ hpos, div_le_iff₀ hpos, lt_div_iff₀ hpos, div_lt_iff₀ hpos]
  norm_cast

/-- Whether a decimal of the grid lies in the interval, as `hit?` decides it. -/
def inside (n : Neighbourhood) (exponent : Int) (k : Nat) : Bool :=
  let step := n.unit * Nat.pow 10 exponent.toNat
  let shift := Nat.pow 10 (-exponent).toNat
  if n.closed then n.low * shift ≤ k * step && k * step ≤ n.high * shift
  else n.low * shift < k * step && k * step < n.high * shift

theorem inside_iff {exponent : Int} :
    n.inside exponent k = true ↔ n.Contains (k * 10 ^ exponent) := by
  rw [contains_decimal_iff]
  unfold inside
  cases n.closed <;> simp

/-- A hit lies in the interval. -/
theorem hit?_contains (h : n.hit? count = some k) : n.Contains (k * 10 ^ (n.places - count)) := by
  rw [← inside_iff]
  unfold hit? at h
  simp only at h
  split at h
  · next hbelow habove =>
    split at h
    · obtain rfl := Option.some.inj h
      exact hbelow
    · obtain rfl := Option.some.inj h
      exact habove
  · next hbelow _ =>
    obtain rfl := Option.some.inj h
    exact hbelow
  · next _ habove =>
    obtain rfl := Option.some.inj h
    exact habove
  · cases h

/-- There is no hit only if neither neighbour of the value lies in the interval. -/
theorem not_contains_of_hit? (h : n.hit? count = none) :
    let exponent := n.places - count
    let below := n.value * Nat.pow 10 (-exponent).toNat / (n.unit * Nat.pow 10 exponent.toNat)
    ¬n.Contains (below * 10 ^ exponent) ∧ ¬n.Contains ((below + 1 : Nat) * 10 ^ exponent) := by
  intro exponent below
  rw [← inside_iff, ← inside_iff, Bool.not_eq_true, Bool.not_eq_true]
  unfold hit? at h
  simp only at h
  split at h
  · split at h <;> cases h
  · cases h
  · cases h
  · next hbelow habove => exact ⟨hbelow, habove⟩

theorem contains_of_lt {q : Rat} (hlow : n.low < q * n.unit) (hhigh : q * n.unit < n.high) :
    n.Contains q := by
  unfold Contains
  split
  · exact ⟨hlow.le, hhigh.le⟩
  · exact ⟨hlow, hhigh⟩

/-- On a grid that is finer than the interval there is a hit. -/
theorem exists_hit (hunit : 0 < n.unit) (hlow : n.low < n.value) (hhigh : n.value < n.high)
    (hgrid : (10 : Rat) ^ (n.places - count) * n.unit < n.high - n.low) :
    ∃ k, n.hit? count = some k := by
  rw [← Option.isSome_iff_exists, ← Option.ne_none_iff_isSome]
  intro hnone
  obtain ⟨hbelow, habove⟩ := not_contains_of_hit? hnone
  set exponent := n.places - count
  set below := n.value * Nat.pow 10 (-exponent).toNat / (n.unit * Nat.pow 10 exponent.toNat)
    with hquotient
  have hstep : 0 < n.unit * Nat.pow 10 exponent.toNat :=
    Nat.mul_pos hunit (Nat.pow_pos (by decide))
  -- The value lies between the two neighbours.
  have hshift : (0 : Rat) < 10 ^ (-exponent).toNat := by positivity
  have hle : (below * 10 ^ exponent * n.unit : Rat) ≤ n.value := by
    rw [decimal_mul_unit, div_le_iff₀ hshift]
    exact_mod_cast Nat.div_mul_le_self _ _
  have hlt : (n.value : Rat) < (below + 1 : Nat) * 10 ^ exponent * n.unit := by
    rw [decimal_mul_unit, lt_div_iff₀ hshift]
    exact_mod_cast Nat.lt_mul_of_div_lt (Nat.lt_succ_self below) hstep
  have hlow' : (n.low : Rat) < n.value := by exact_mod_cast hlow
  have hhigh' : (n.value : Rat) < n.high := by exact_mod_cast hhigh
  -- If neither is in the interval, they are further apart than its ends.
  have hunder : (below * 10 ^ exponent * n.unit : Rat) ≤ n.low := by
    by_contra hnot
    exact hbelow (contains_of_lt (lt_of_not_ge hnot) (by linarith))
  have hover : (n.high : Rat) ≤ (below + 1 : Nat) * 10 ^ exponent * n.unit := by
    by_contra hnot
    exact habove (contains_of_lt (by linarith) (lt_of_not_ge hnot))
  push_cast at hover
  linarith

/-- The search takes the first hit. -/
theorem shortestFrom_contains {fuel : Nat}
    (h : ∃ c, count ≤ c ∧ c < count + fuel ∧ ∃ k, n.hit? c = some k) :
    n.Contains ((n.shortestFrom count fuel).1 * 10 ^ (n.shortestFrom count fuel).2) := by
  induction fuel generalizing count with
  | zero => obtain ⟨c, hle, hlt, -⟩ := h; omega
  | succ fuel ih =>
    cases hhit : n.hit? count with
    | some k => simpa only [shortestFrom, hhit] using hit?_contains hhit
    | none =>
      simp only [shortestFrom, hhit]
      obtain ⟨c, hle, hlt, k, hk⟩ := h
      have hne : c ≠ count := by
        rintro rfl
        cases hhit.symm.trans hk
      exact ih ⟨c, by omega, by omega, k, hk⟩

end Neighbourhood

/-- An interval is wider than one part in ten to the sixteenth of its value. -/
theorem significand_lt_width {significand : Nat} {exponent : Int}
    (hbits : significand < significandLimit) :
    (significand : Rat) < (1 / 2 + reach significand exponent) * 10 ^ 16 := by
  have hlt : (significand : Rat) < 2 ^ 53 := by exact_mod_cast hbits
  unfold reach
  split
  · next hnarrow =>
    have hleast : (significand : Rat) * 2 = 2 ^ 53 := by exact_mod_cast hnarrow.1
    linarith
  · linarith

/-- A grid with seventeen digits is finer than the interval of a double. -/
theorem grid_lt_width {significand : Nat} {exponent : Int}
    (hc : Canonical significand exponent) (hs : 0 < significand) :
    let n := neighbourhood significand exponent
    (10 : Rat) ^ (n.places - (17 : Nat)) * n.unit < n.high - n.low := by
  intro n
  have hunit : (0 : Rat) < n.unit := by exact_mod_cast unit_pos
  have hvalue : 0 < n.value := Nat.zero_lt_of_lt (value_mem_interior hs).1
  have hplaces := Neighbourhood.places_spec hvalue unit_pos
  have hsplit : (10 : Rat) ^ (n.places - (17 : Nat)) = 10 ^ (n.places - 1) / 10 ^ 16 := by
    rw [show n.places - (17 : Nat) = n.places - 1 - 16 by push_cast; ring,
      zpow_sub₀ (by norm_num)]
    rfl
  rw [value_eq] at hplaces
  rw [high_eq, low_eq hs]
  calc (10 : Rat) ^ (n.places - (17 : Nat)) * n.unit
      = 10 ^ (n.places - 1) * n.unit / 10 ^ 16 := by rw [hsplit]; ring
    _ ≤ significand * 2 ^ exponent * n.unit / 10 ^ 16 := by gcongr
    _ = significand / 10 ^ 16 * (2 ^ exponent * n.unit) := by ring
    _ < (1 / 2 + reach significand exponent) * (2 ^ exponent * n.unit) := by
      gcongr
      rw [div_lt_iff₀ (by positivity)]
      exact significand_lt_width hc.bits
    _ = _ := by ring

/-- Seventeen digits suffice, so that the shortest decimal of a double rounds to it. -/
theorem shortest_contains {significand : Nat} {exponent : Int}
    (hc : Canonical significand exponent) (hs : 0 < significand) :
    let n := neighbourhood significand exponent
    n.Contains (n.shortest.1 * 10 ^ n.shortest.2) := by
  intro n
  have hinterior : n.low < n.value ∧ n.value < n.high := value_mem_interior hs
  obtain ⟨k, hk⟩ :=
    Neighbourhood.exists_hit unit_pos hinterior.1 hinterior.2 (grid_lt_width hc hs)
  exact Neighbourhood.shortestFrom_contains ⟨17, by decide, by decide, k, hk⟩

/-! ## Positional text -/

/-- The zeros that are taken off are the zeros at the end. -/
theorem dropTrailingZeros_append (cs : List Char) :
    (dropTrailingZeros cs).1 ++ List.replicate (dropTrailingZeros cs).2 '0' = cs := by
  have hsplit := List.takeWhile_append_dropWhile (p := (· == '0')) (l := cs.reverse)
  have hzeros : cs.reverse.takeWhile (· == '0') =
      List.replicate (cs.reverse.takeWhile (· == '0')).length '0' :=
    List.eq_replicate_iff.2 ⟨rfl, fun c hc => by simpa using List.mem_takeWhile_imp hc⟩
  have hlength : (dropTrailingZeros cs).2 = (cs.reverse.takeWhile (· == '0')).length := by
    have := congrArg List.length hsplit
    simp only [List.length_append, List.length_reverse] at this
    simp only [dropTrailingZeros, List.length_reverse]
    omega
  rw [hlength, ← List.reverse_inj, List.reverse_append, List.reverse_replicate, ← hzeros]
  simp [dropTrailingZeros]

/-- The digits that are kept write the number but for the zeros that are taken off. -/
theorem exists_kept {k : Nat} (hk : 0 < k) :
    ∃ kept dropped, dropTrailingZeros (digits k) = (kept, dropped) ∧ kept ≠ [] ∧
      (∀ c ∈ kept, c.isDigit = true) ∧ ofDigits kept * 10 ^ dropped = k := by
  obtain ⟨kept, dropped, hdrop, hsplit⟩ : ∃ kept dropped,
      dropTrailingZeros (digits k) = (kept, dropped) ∧
        kept ++ List.replicate dropped '0' = digits k :=
    ⟨_, _, rfl, dropTrailingZeros_append _⟩
  have hvalue : ofDigits kept * 10 ^ dropped = k := by
    have h := ofDigits_digits k
    rw [← hsplit, ofDigits_append] at h
    simpa using h
  refine ⟨kept, dropped, hdrop, ?_, fun c hc => ?_, hvalue⟩
  · rintro rfl
    simp [ofDigits] at hvalue
    omega
  · exact isDigit_of_mem_digits (hsplit ▸ List.mem_append_left _ hc)

/-- The shape of a positional text: digits in front of the point and behind it, or no point. -/
structure Spells (cs whole fraction : List Char) : Prop where
  text : cs = whole ∧ fraction = [] ∨ cs = whole ++ '.' :: fraction
  ne_nil : whole ≠ []
  isDigit : ∀ c ∈ whole ++ fraction, c.isDigit = true

/-- The positional text of a decimal has its digits, and as many of them behind the point as its
exponent says. -/
theorem positional_spells {k : Nat} (hk : 0 < k) (exponent : Int) :
    ∃ whole fraction, Spells (positional k exponent) whole fraction ∧
      (ofDigits (whole ++ fraction) * 10 ^ (-fraction.length : Int) : Rat) = k * 10 ^ exponent := by
  obtain ⟨kept, dropped, hdrop, hkept, hdigits, hvalue⟩ := exists_kept hk
  have hzeros : ∀ (n : Nat), ∀ c ∈ List.replicate n '0', c.isDigit = true := fun n c hc => by
    rw [List.eq_of_mem_replicate hc]
    decide
  have hshift : (k * 10 ^ exponent : Rat) = ofDigits kept * 10 ^ (exponent + dropped) := by
    rw [← hvalue, zpow_add₀ (by norm_num), zpow_natCast]
    push_cast
    ring
  unfold positional
  rw [hdrop, hshift]
  simp only
  generalize exponent + dropped = places
  split
  · next hpos =>
    obtain ⟨n, rfl⟩ := Int.eq_ofNat_of_zero_le hpos
    refine ⟨kept ++ List.replicate n '0', [], ⟨Or.inl ⟨rfl, rfl⟩, by simp [hkept], ?_⟩, ?_⟩
    · rw [List.append_nil]
      exact List.forall_mem_append.2 ⟨hdigits, hzeros n⟩
    · simp [ofDigits_append]
  · next hneg =>
    obtain ⟨behind, rfl⟩ : ∃ behind : Nat, places = -behind := ⟨(-places).toNat, by omega⟩
    rw [neg_neg, Int.toNat_natCast]
    split
    · next hfew =>
      refine ⟨kept.take (kept.length - behind), kept.drop (kept.length - behind),
        ⟨Or.inr rfl, ?_, ?_⟩, ?_⟩
      · rw [Ne, List.take_eq_nil_iff]
        simp only [hkept, or_false]
        omega
      · rwa [List.take_append_drop]
      · rw [List.take_append_drop, List.length_drop, Nat.sub_sub_self hfew.le]
    · next hmany =>
      refine ⟨['0'], List.replicate (behind - kept.length) '0' ++ kept,
        ⟨Or.inr rfl, by simp, ?_⟩, ?_⟩
      · exact List.forall_mem_append.2 ⟨hzeros 1, List.forall_mem_append.2 ⟨hzeros _, hdigits⟩⟩
      · have hvalue : ofDigits (['0'] ++ (List.replicate (behind - kept.length) '0' ++ kept)) =
            ofDigits kept := by
          rw [ofDigits_append, ofDigits_append, ofDigits_replicate_zero]
          simp [ofDigits, digitValue]
        rw [hvalue, List.length_append, List.length_replicate, Nat.sub_add_cancel (by omega)]

/-! ## Reading -/

theorem spanDigits_append {a b : List Char} (ha : ∀ c ∈ a, c.isDigit = true)
    (hb : ∀ c ∈ b.head?, c.isDigit = false) : spanDigits (a ++ b) = (a, b) := by
  unfold spanDigits
  rw [List.takeWhile_append_of_pos ha, List.dropWhile_append_of_pos ha]
  cases b with
  | nil => simp
  | cons c b => simp [hb c rfl]

namespace Spells

variable {cs whole fraction : List Char}

theorem readCoefficient?_eq (h : Spells cs whole fraction) :
    readCoefficient? cs = some (ofDigits (whole ++ fraction), fraction.length, []) := by
  obtain ⟨hwhole, hfraction⟩ := List.forall_mem_append.1 h.isDigit
  have hfilled : whole.isEmpty = false := by simpa using h.ne_nil
  obtain ⟨rfl, rfl⟩ | rfl := h.text
  · have hspan := spanDigits_append (b := []) hwhole (by simp)
    rw [List.append_nil] at hspan
    simp [readCoefficient?, hspan, hfilled]
  · have hspan := spanDigits_append (b := '.' :: fraction) hwhole (by rintro c ⟨⟩; rfl)
    have hrest := spanDigits_append (b := []) hfraction (by simp)
    rw [List.append_nil] at hrest
    simp [readCoefficient?, hspan, hrest, hfilled]

theorem exists_head (h : Spells cs whole fraction) :
    ∃ c rest, cs = c :: rest ∧ c.isDigit = true := by
  obtain ⟨c, rest, hcons⟩ := List.exists_cons_of_ne_nil h.ne_nil
  have hc : c.isDigit = true := h.isDigit c (by simp [hcons])
  obtain ⟨rfl, -⟩ | rfl := h.text
  · exact ⟨c, rest, hcons, hc⟩
  · exact ⟨c, rest ++ '.' :: fraction, by rw [hcons]; rfl, hc⟩

theorem mem_cases (h : Spells cs whole fraction) {c : Char} (hc : c ∈ cs) :
    c.isDigit = true ∨ c = '.' := by
  obtain ⟨hwhole, hfraction⟩ := List.forall_mem_append.1 h.isDigit
  obtain ⟨rfl, -⟩ | rfl := h.text
  · exact Or.inl (hwhole c hc)
  · rcases List.mem_append.1 hc with hc | hc
    · exact Or.inl (hwhole c hc)
    · exact (List.mem_cons.1 hc).elim Or.inr fun hc => Or.inl (hfraction c hc)

theorem readMagnitude?_eq (h : Spells cs whole fraction) (negative : Bool) :
    readMagnitude? negative cs =
      some (ofDecimal negative (ofDigits (whole ++ fraction)) (-fraction.length)) := by
  obtain ⟨c, rest, hcs, hc⟩ := h.exists_head
  -- No name of a value begins with a digit.
  have hletter : ∀ d : Char, d.isDigit = false → c.toLower ≠ d := by
    rintro d hd rfl
    rw [toLower_of_isDigit hc] at hd
    cases hc.symm.trans hd
  have hnan : cs.map Char.toLower ≠ "nan".toList := by
    simp [hcs, hletter 'n' rfl]
  have hinf : ¬(cs.map Char.toLower = "inf".toList ∨ cs.map Char.toLower = "infinity".toList) := by
    simp [hcs, hletter 'i' rfl]
  unfold readMagnitude?
  simp only [if_neg hnan, if_neg hinf, h.readCoefficient?_eq, readExponent?, Option.map_some,
    zero_sub]

end Spells

/-- Within the range of the format a decimal is rounded as the quotient that it is. -/
theorem ofDecimal_eq {coefficient : Nat} {exponent : Int} (negative : Bool) (h : 0 < coefficient)
    (hlow : (10 : Rat) ^ (-401 : Int) ≤ coefficient * 10 ^ exponent)
    (hhigh : (coefficient * 10 ^ exponent : Rat) < 10 ^ (400 : Int)) :
    ofDecimal negative coefficient exponent =
      ofRatio negative (coefficient * Nat.pow 10 exponent.toNat)
        (Nat.pow 10 (-exponent).toNat) := by
  obtain ⟨hleast, hmost⟩ := digits_length_zpow h
  have hten : (0 : Rat) < 10 ^ exponent := by positivity
  have hsmall : ¬((digits coefficient).length + exponent < -400 : Prop) := by
    intro hless
    have hupper : (coefficient * 10 ^ exponent : Rat) <
        10 ^ (((digits coefficient).length : Int) + exponent) := by
      rw [zpow_add₀ (by norm_num)]
      gcongr
    have hpow : (10 : Rat) ^ (((digits coefficient).length : Int) + exponent) ≤ 10 ^ (-401 : Int) :=
      zpow_le_zpow_right₀ (by norm_num) (by omega)
    linarith
  have hlarge : ¬(400 < (digits coefficient).length + exponent : Prop) := by
    intro hmore
    have hlower : (10 : Rat) ^ (((digits coefficient).length - 1 : Int) + exponent) ≤
        coefficient * 10 ^ exponent := by
      rw [zpow_add₀ (by norm_num)]
      gcongr
    have hpow : (10 : Rat) ^ (400 : Int) ≤
        10 ^ (((digits coefficient).length - 1 : Int) + exponent) :=
      zpow_le_zpow_right₀ (by norm_num) (by omega)
    linarith
  simp only [ofDecimal]
  rw [if_neg (by simp only [not_or]; exact ⟨h.ne', hsmall⟩), if_neg hlarge]

/-- The magnitudes of the format, with what rounds to them. -/
theorem contains_bounds {significand : Nat} {exponent : Int} {q : Rat}
    (hc : Canonical significand exponent) (hs : 0 < significand)
    (h : (neighbourhood significand exponent).Contains q) :
    (10 : Rat) ^ (-401 : Int) ≤ q ∧ q < 10 ^ (400 : Int) := by
  have hpow : (0 : Rat) < 2 ^ exponent := by positivity
  have hnear := abs_le.1 (distance_of_contains hs h).2.near
  have hsig : (1 : Rat) ≤ significand := by exact_mod_cast hs
  have hbits : (significand : Rat) + 1 ≤ 2 ^ 53 := by exact_mod_cast hc.bits
  have hlow : (1 / 2 : Rat) ≤ q / 2 ^ exponent := by linarith
  have hhigh : q / 2 ^ exponent ≤ 2 ^ 53 := by linarith
  rw [le_div_iff₀ hpow] at hlow
  rw [div_le_iff₀ hpow] at hhigh
  have hleast : (2 : Rat) ^ (-1074 : Int) ≤ 2 ^ exponent :=
    zpow_le_zpow_right₀ (by norm_num) hc.least
  have hgreatest : (2 : Rat) ^ exponent ≤ 2 ^ (971 : Int) :=
    zpow_le_zpow_right₀ (by norm_num) hc.greatest
  have hunder : (2 * 2 ^ 1074 : Rat) ≤ 10 ^ 401 := by
    exact_mod_cast (by decide +kernel : 2 * 2 ^ 1074 ≤ 10 ^ 401)
  have hover : (2 ^ 53 * 2 ^ 971 : Rat) < 10 ^ 400 := by
    exact_mod_cast (by decide +kernel : 2 ^ 53 * 2 ^ 971 < 10 ^ 400)
  constructor
  · calc (10 : Rat) ^ (-401 : Int) = (10 ^ 401)⁻¹ := rfl
      _ ≤ (2 * 2 ^ 1074)⁻¹ := inv_anti₀ (by positivity) hunder
      _ = 1 / 2 * 2 ^ (-1074 : Int) := by rw [mul_inv, one_div]; rfl
      _ ≤ 1 / 2 * 2 ^ exponent := by gcongr
      _ ≤ q := hlow
  · calc q ≤ 2 ^ 53 * 2 ^ exponent := hhigh
      _ ≤ 2 ^ 53 * 2 ^ (971 : Int) := by gcongr
      _ < 10 ^ (400 : Int) := hover

theorem coefficient_pos {significand k : Nat} {exponent e : Int}
    (hc : Canonical significand exponent) (hs : 0 < significand)
    (h : (neighbourhood significand exponent).Contains (k * 10 ^ e)) : 0 < k := by
  have hlow := (contains_bounds hc hs h).1
  rcases Nat.eq_zero_or_pos k with rfl | hpos
  · rw [Nat.cast_zero, zero_mul] at hlow
    exact absurd hlow (not_le.2 (by positivity))
  · exact hpos

/-- A text that spells a number in the interval of a double is read as the double. -/
theorem Spells.readMagnitude?_of_contains {cs whole fraction : List Char} {significand : Nat}
    {exponent : Int} (h : Spells cs whole fraction) (negative : Bool)
    (hc : Canonical significand exponent) (hs : 0 < significand)
    (hcontains : (neighbourhood significand exponent).Contains
      (ofDigits (whole ++ fraction) * 10 ^ (-fraction.length : Int))) :
    readMagnitude? negative cs = some (.finite negative significand exponent) := by
  obtain ⟨hlow, hhigh⟩ := contains_bounds hc hs hcontains
  rw [h.readMagnitude?_eq,
    ofDecimal_eq negative (coefficient_pos hc hs hcontains) hlow hhigh]
  refine congrArg some (ofRatio_of_contains negative hc hs (Nat.pow_pos (by decide)) ?_)
  rw [← pow_toNat_div 10 (by norm_num), ← mul_div_assoc] at hcontains
  exact_mod_cast hcontains

/-- The characters of a finite double behind its sign. -/
theorem magnitude_spells {significand : Nat} {exponent : Int}
    (hc : Canonical significand exponent) (negative : Bool) :
    ∃ cs whole fraction, Spells cs whole fraction ∧
      writeChars (.finite negative significand exponent) =
        (if negative then ['-'] else []) ++ cs ∧
      readMagnitude? negative cs = some (.finite negative significand exponent) := by
  rcases Nat.eq_zero_or_pos significand with rfl | hs
  · obtain rfl : exponent = leastExponent :=
      hc.normal.resolve_right (Nat.not_le.2 (Nat.pow_pos (by decide)))
    exact ⟨['0'], ['0'], [],
      ⟨Or.inl ⟨rfl, rfl⟩, by decide, List.forall_mem_singleton.2 rfl⟩, rfl, rfl⟩
  · have hcontains := shortest_contains hc hs
    obtain ⟨whole, fraction, hspells, hvalue⟩ := positional_spells
      (coefficient_pos hc hs hcontains) (neighbourhood significand exponent).shortest.2
    refine ⟨_, whole, fraction, hspells, ?_,
      hspells.readMagnitude?_of_contains negative hc hs (hvalue ▸ hcontains)⟩
    simp only [writeChars, if_neg hs.ne']

/-- A finite double is read back from its text. -/
theorem read?_writeChars {significand : Nat} {exponent : Int}
    (hc : Canonical significand exponent) (negative : Bool) :
    read? (writeChars (.finite negative significand exponent)) =
      some (.finite negative significand exponent) := by
  obtain ⟨cs, whole, fraction, hspells, htext, hread⟩ := magnitude_spells hc negative
  obtain ⟨c, rest, rfl, hdigit⟩ := hspells.exists_head
  rw [htext]
  cases negative with
  | true => exact hread
  | false =>
    have hplus : c ≠ '+' := by rintro rfl; cases hdigit
    have hminus : c ≠ '-' := by rintro rfl; cases hdigit
    simpa [read?, hplus, hminus] using hread

/-- The characters of a double that is finite. -/
theorem mem_writeChars {significand : Nat} {exponent : Int} (hc : Canonical significand exponent)
    (negative : Bool) {c : Char} (h : c ∈ writeChars (.finite negative significand exponent)) :
    c.isDigit = true ∨ c = '.' ∨ c = '-' := by
  obtain ⟨cs, whole, fraction, hspells, htext, -⟩ := magnitude_spells hc negative
  rw [htext] at h
  rcases List.mem_append.1 h with hsign | hmem
  · cases negative
    · simp at hsign
    · exact Or.inr (Or.inr (by simpa using hsign))
  · exact (hspells.mem_cases hmem).imp_right Or.inl

/-- What is read is a number of the format. -/
theorem canonical_of_read? {cs : List Char} {negative : Bool} {significand : Nat} {exponent : Int}
    (h : read? cs = some (.finite negative significand exponent)) :
    Canonical significand exponent := by
  have hdecimal : ∀ (sign : Bool) (k : Nat) (e : Int),
      ofDecimal sign k e = .finite negative significand exponent →
        Canonical significand exponent := by
    intro sign k e hk
    simp only [ofDecimal] at hk
    split at hk
    · cases hk
      exact canonical_zero
    · split at hk
      · cases hk
      · exact ofRatio_canonical (Nat.pow_pos (by decide)) hk
  have hmagnitude : ∀ (sign : Bool) (text : List Char),
      readMagnitude? sign text = some (.finite negative significand exponent) →
        Canonical significand exponent := by
    intro sign text htext
    simp only [readMagnitude?] at htext
    split at htext
    · cases htext
    · split at htext
      · cases htext
      · split at htext
        · cases htext
        · obtain ⟨e, -, he⟩ := Option.map_eq_some_iff.1 htext
          exact hdecimal _ _ _ he
  unfold read? at h
  split at h <;> exact hmagnitude _ _ h

/-- **What is read as a double is read again from its text.** -/
theorem read?_write {cs : List Char} {x : Binary64} (h : read? cs = some x) :
    read? x.writeChars = some x := by
  cases x with
  | nan => decide
  | infinite negative => cases negative <;> decide
  | finite negative significand exponent => exact read?_writeChars (canonical_of_read? h) negative

end Binary64

end ChatChain.Number
