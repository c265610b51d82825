import ChatChain.Number.Shortest
import Mathlib.Algebra.Order.Field.Power
import Mathlib.Data.Rat.Cast.Order
import Mathlib.Tactic.FieldSimp
import Mathlib.Tactic.Linarith
import Mathlib.Tactic.Positivity
import Mathlib.Tactic.Ring

/-!
# Rounding to a double

What `ofRatio` makes of a quotient.  The model reckons with whole numbers; here the same is said of
the rational number that they stand for, in four steps.

* Whole numbers.  `roundDiv` yields the nearest whole number, and `IsNearest.unique` says that there
  is only one.
* Exponents.  `exponentOf` yields the exponent of the binade of a quotient, and `InBinade.unique`
  says that there is only one.
* Doubles.  `ofRatio_eq` puts the two together.  With it, `ofRatio_canonical` says that what is
  rounded is a number of the format.
* Intervals.  `neighbourhood` is the interval of the numbers that round to a double, as
  `ofRatio_of_contains` says.  The ends are in it if the significand is even; where the exponent
  changes, the lower half is half as wide.
-/

namespace ChatChain.Number

/-! ## Rounding to a whole number -/

/-- Whether `n` is the whole number nearest to `q`, the even one of two equally near ones. -/
structure IsNearest (n : Nat) (q : Rat) : Prop where
  near : |q - n| ≤ 1 / 2
  even : |q - n| = 1 / 2 → n % 2 = 0

theorem IsNearest.unique {m n : Nat} {q : Rat} (hm : IsNearest m q) (hn : IsNearest n q) :
    m = n := by
  by_contra hne
  wlog hlt : m < n generalizing m n
  · exact this hn hm (Ne.symm hne) (by omega)
  have hsucc : (m : Rat) + 1 ≤ n := by exact_mod_cast hlt
  have hm' := abs_le.1 hm.near
  have hn' := abs_le.1 hn.near
  have hmq : q - m = 1 / 2 := by linarith
  have hnq : q - n = -(1 / 2) := by linarith
  have hnext : n = m + 1 := by
    have : (n : Rat) = (m + 1 : Nat) := by push_cast; linarith
    exact_mod_cast this
  have heven := hm.even (by rw [hmq]; norm_num)
  have heven' := hn.even (by rw [hnq]; norm_num)
  omega

/-- Of two neighbours that are equally near, `roundDiv` takes the even one. -/
theorem roundDiv_even {num den : Nat} (hden : 0 < den)
    (htie : 2 * num = 2 * (roundDiv num den * den) + den ∨
      2 * (roundDiv num den * den) = 2 * num + den) : roundDiv num den % 2 = 0 := by
  have hsplit : den * (num / den) + num % den = num := Nat.div_add_mod num den
  have hlt : num % den < den := Nat.mod_lt num hden
  have hmul : num / den * den = den * (num / den) := Nat.mul_comm ..
  have hsucc : (num / den + 1) * den = den * (num / den) + den := by
    rw [Nat.add_mul, Nat.one_mul, hmul]
  revert htie
  unfold roundDiv
  simp only
  split
  · rw [hmul]; omega
  · split
    · rw [hsucc]; omega
    · split <;> omega

theorem roundDiv_isNearest (num : Nat) {den : Nat} (hden : 0 < den) :
    IsNearest (roundDiv num den) (num / den) := by
  have hpos : (0 : Rat) < den := by exact_mod_cast hden
  have hdiff : (num / den : Rat) - roundDiv num den =
      (num - roundDiv num den * den : Rat) / den := by
    field_simp
  obtain ⟨hlow, hhigh⟩ := @roundDiv_near num den hden
  have hlow' : (2 * num : Rat) ≤ 2 * (roundDiv num den * den) + den := by exact_mod_cast hlow
  have hhigh' : (2 * (roundDiv num den * den) : Rat) ≤ 2 * num + den := by exact_mod_cast hhigh
  refine ⟨?_, fun htie => roundDiv_even hden ?_⟩
  · rw [hdiff, abs_div, abs_of_pos hpos, div_le_iff₀ hpos, abs_le]
    constructor <;> linarith
  · rw [hdiff, abs_div, abs_of_pos hpos, div_eq_iff hpos.ne'] at htie
    rcases abs_eq (by positivity) |>.1 htie with h | h
    · left
      have : (2 * num : Rat) = 2 * (roundDiv num den * den) + den := by linarith
      exact_mod_cast this
    · right
      have : (2 * (roundDiv num den * den) : Rat) = 2 * num + den := by linarith
      exact_mod_cast this

theorem roundDiv_eq {num den n : Nat} (hden : 0 < den) (h : IsNearest n (num / den)) :
    roundDiv num den = n :=
  (roundDiv_isNearest num hden).unique h

namespace Binary64

/-! ## The exponent of a quotient -/

/-- The exponents with which the format writes a number: the significand has all of its bits, or
the exponent is the least one. -/
structure InBinade (q : Rat) (e : Int) : Prop where
  least : leastExponent ≤ e
  upper : q < 2 ^ 53 * 2 ^ e
  lower : e = leastExponent ∨ 2 ^ 52 * 2 ^ e ≤ q

theorem InBinade.unique {q : Rat} {e f : Int} (he : InBinade q e) (hf : InBinade q f) : e = f := by
  by_contra hne
  wlog hlt : e < f generalizing e f
  · exact this hf he (Ne.symm hne) (by omega)
  have hlower : (2 : Rat) ^ 52 * 2 ^ f ≤ q :=
    hf.lower.resolve_left (by have := he.least; omega)
  have hpow : (2 : Rat) ^ (e + 1) ≤ 2 ^ f := zpow_le_zpow_right₀ (by norm_num) (by omega)
  rw [zpow_add_one₀ (by norm_num)] at hpow
  have hupper := he.upper
  linarith

/-- A power with an integer as the exponent is a quotient of two powers, one of which is trivial. -/
theorem pow_toNat_div (b : Rat) (hb : b ≠ 0) (e : Int) :
    b ^ e.toNat / b ^ (-e).toNat = b ^ e := by
  have hsplit : (e.toNat : Int) - (-e).toNat = e := by omega
  rw [← zpow_natCast, ← zpow_natCast, ← zpow_sub₀ hb, hsplit]

theorem scaled_snd_pos {num den : Nat} (hden : 0 < den) (e : Int) : 0 < (scaled num den e).2 :=
  Nat.mul_pos hden (Nat.pow_pos (by decide))

theorem scaled_ratio (num den : Nat) (e : Int) :
    ((scaled num den e).1 / (scaled num den e).2 : Rat) = num / den / 2 ^ e := by
  show ((num * 2 ^ (-e).toNat : Nat) / (den * 2 ^ e.toNat : Nat) : Rat) = _
  rw [← pow_toNat_div 2 (by norm_num)]
  push_cast
  field_simp

/-- The two logarithms bound a quotient to a factor of two on either side. -/
theorem ratio_bounds {num den : Nat} (hnum : 0 < num) (hden : 0 < den) :
    (2 : Rat) ^ ((num.log2 : Int) - den.log2 - 1) < num / den ∧
      (num / den : Rat) < 2 ^ ((num.log2 : Int) - den.log2 + 1) := by
  have hpos : (0 : Rat) < den := by exact_mod_cast hden
  have hnumlow : (2 : Rat) ^ (num.log2 : Int) ≤ num := by
    exact_mod_cast Nat.log2_self_le (by omega)
  have hnumhigh : (num : Rat) < 2 ^ (num.log2 + 1 : Int) := by
    exact_mod_cast Nat.lt_log2_self
  have hdenlow : (2 : Rat) ^ (den.log2 : Int) ≤ den := by
    exact_mod_cast Nat.log2_self_le (by omega)
  have hdenhigh : (den : Rat) < 2 ^ (den.log2 + 1 : Int) := by
    exact_mod_cast Nat.lt_log2_self
  constructor
  · rw [lt_div_iff₀ hpos]
    calc (2 : Rat) ^ ((num.log2 : Int) - den.log2 - 1) * den
        < 2 ^ ((num.log2 : Int) - den.log2 - 1) * 2 ^ (den.log2 + 1 : Int) := by gcongr
      _ = 2 ^ (num.log2 : Int) := by rw [← zpow_add₀ (by norm_num)]; congr 1; ring
      _ ≤ num := hnumlow
  · rw [div_lt_iff₀ hpos]
    calc (num : Rat) < 2 ^ (num.log2 + 1 : Int) := hnumhigh
      _ = 2 ^ ((num.log2 : Int) - den.log2 + 1) * 2 ^ (den.log2 : Int) := by
        rw [← zpow_add₀ (by norm_num)]; congr 1; ring
      _ ≤ 2 ^ ((num.log2 : Int) - den.log2 + 1) * den := by gcongr

theorem exponentOf_spec {num den : Nat} (hnum : 0 < num) (hden : 0 < den) :
    ∃ m : Int, exponentOf num den = max (m - 52) leastExponent ∧
      (2 : Rat) ^ m ≤ num / den ∧ (num / den : Rat) < 2 ^ (m + 1) := by
  obtain ⟨hlow, hhigh⟩ := ratio_bounds hnum hden
  unfold exponentOf
  simp only
  generalize (num.log2 : Int) - den.log2 = estimate at hlow hhigh ⊢
  have hratio := scaled_ratio num den estimate
  have hpos : (0 : Rat) < (scaled num den estimate).2 := by
    exact_mod_cast scaled_snd_pos hden estimate
  split
  · next hle =>
    refine ⟨estimate, rfl, ?_, hhigh⟩
    have hone : (1 : Rat) ≤ num / den / 2 ^ estimate := by
      rw [← hratio, one_le_div hpos]
      exact_mod_cast hle
    exact (one_le_div (by positivity)).1 hone
  · next hgt =>
    refine ⟨estimate - 1, rfl, hlow.le, ?_⟩
    have hone : (num / den / 2 ^ estimate : Rat) < 1 := by
      rw [← hratio, div_lt_one hpos]
      exact_mod_cast Nat.lt_of_not_le hgt
    rw [sub_add_cancel]
    exact (div_lt_one (by positivity)).1 hone

theorem exponentOf_inBinade {num den : Nat} (hnum : 0 < num) (hden : 0 < den) :
    InBinade (num / den) (exponentOf num den) := by
  obtain ⟨m, hm, hlow, hhigh⟩ := exponentOf_spec hnum hden
  rw [hm]
  refine ⟨le_max_right _ _, hhigh.trans_le ?_, ?_⟩
  · rw [show (2 : Rat) ^ 53 = 2 ^ (53 : Int) from rfl, ← zpow_add₀ (by norm_num)]
    exact zpow_le_zpow_right₀ (by norm_num) (by omega)
  · rcases le_total (m - 52) leastExponent with h | h
    · exact Or.inl (max_eq_right h)
    · right
      rw [max_eq_left h, show (2 : Rat) ^ 52 = 2 ^ (52 : Int) from rfl,
        ← zpow_add₀ (by norm_num), add_sub_cancel]
      exact hlow

/-! ## The nearest double -/

/-- The double with a significand that may have overflown to the next exponent. -/
def carried (negative : Bool) (n : Nat) (e : Int) : Binary64 :=
  if n = significandLimit then
    if greatestExponent < e + 1 then .infinite negative else .finite negative (n / 2) (e + 1)
  else if greatestExponent < e then .infinite negative else .finite negative n e

theorem ofRatio_eq {num den n : Nat} {e : Int} (negative : Bool) (hnum : 0 < num) (hden : 0 < den)
    (he : InBinade (num / den) e) (hn : IsNearest n (num / den / 2 ^ e)) :
    ofRatio negative num den = carried negative n e := by
  have hexponent : exponentOf num den = e := (exponentOf_inBinade hnum hden).unique he
  have hround : roundDiv (scaled num den e).1 (scaled num den e).2 = n :=
    roundDiv_eq (scaled_snd_pos hden e) (by rwa [scaled_ratio])
  simp only [ofRatio, if_neg hnum.ne', hexponent, hround, carried]
  split <;> rfl

/-- The significands and exponents of the format.  Only with the least exponent may a significand
have fewer bits. -/
structure Canonical (significand : Nat) (exponent : Int) : Prop where
  bits : significand < significandLimit
  least : leastExponent ≤ exponent
  greatest : exponent ≤ greatestExponent
  normal : exponent = leastExponent ∨ significandLimit ≤ 2 * significand

theorem canonical_zero : Canonical 0 leastExponent :=
  ⟨by decide, le_rfl, by decide, Or.inl rfl⟩

/-- A number in a binade has 53 bits after rounding, up to a carry. -/
theorem InBinade.significand {q : Rat} {e : Int} {n : Nat} (he : InBinade q e)
    (hn : IsNearest n (q / 2 ^ e)) :
    n ≤ significandLimit ∧ (e = leastExponent ∨ significandLimit ≤ 2 * n) := by
  have hnear := abs_le.1 hn.near
  have hupper : q / 2 ^ e < 2 ^ 53 := by
    rw [div_lt_iff₀ (by positivity)]
    exact he.upper
  constructor
  · have hlt : (n : Rat) < (2 ^ 53 + 1 : Nat) := by push_cast; linarith
    exact Nat.le_of_lt_succ (by exact_mod_cast hlt)
  · refine he.lower.imp_right fun hlow => ?_
    have hlower : 2 ^ 52 ≤ q / 2 ^ e := by
      rw [le_div_iff₀ (by positivity)]
      exact hlow
    have hlt : ((2 ^ 52 : Nat) : Rat) < n + 1 := by push_cast; linarith
    have hle : 2 ^ 52 ≤ n := Nat.le_of_lt_succ (by exact_mod_cast hlt)
    show 2 ^ 53 ≤ 2 * n
    omega

theorem carried_canonical {negative sign : Bool} {n significand : Nat} {e exponent : Int}
    (hleast : leastExponent ≤ e) (hn : n ≤ significandLimit)
    (hnormal : e = leastExponent ∨ significandLimit ≤ 2 * n)
    (h : carried negative n e = .finite sign significand exponent) :
    Canonical significand exponent := by
  unfold carried at h
  split at h
  · next hlimit =>
    split at h
    · cases h
    · next hgreatest =>
      cases h
      subst hlimit
      exact ⟨by decide, by omega, by omega, Or.inr (by decide)⟩
  · next hlimit =>
    split at h
    · cases h
    · next hgreatest =>
      cases h
      exact ⟨by omega, hleast, by omega, hnormal⟩

theorem ofRatio_canonical {negative sign : Bool} {num den significand : Nat} {exponent : Int}
    (hden : 0 < den) (h : ofRatio negative num den = .finite sign significand exponent) :
    Canonical significand exponent := by
  rcases Nat.eq_zero_or_pos num with rfl | hnum
  · cases h
    exact canonical_zero
  · have he := exponentOf_inBinade hnum hden
    have hpos : 0 < (scaled num den (exponentOf num den)).2 := scaled_snd_pos hden _
    have hn := roundDiv_isNearest (scaled num den (exponentOf num den)).1 hpos
    rw [scaled_ratio] at hn
    obtain ⟨hbits, hnormal⟩ := he.significand hn
    rw [ofRatio_eq negative hnum hden he hn] at h
    exact carried_canonical he.least hbits hnormal h

/-! ## The reals that round to a double -/

namespace Neighbourhood

/-- Whether a number lies in the interval. -/
def Contains (n : Neighbourhood) (q : Rat) : Prop :=
  if n.closed then (n.low : Rat) ≤ q * n.unit ∧ q * n.unit ≤ n.high
  else n.low < q * n.unit ∧ q * n.unit < n.high

end Neighbourhood

/-- How far below a significand the numbers that round to it reach. -/
def reach (significand : Nat) (exponent : Int) : Rat :=
  if significand * 2 = significandLimit ∧ leastExponent < exponent then 1 / 4 else 1 / 2

theorem reach_pos (significand : Nat) (exponent : Int) : 0 < reach significand exponent := by
  unfold reach
  split <;> norm_num

theorem reach_le (significand : Nat) (exponent : Int) : reach significand exponent ≤ 1 / 2 := by
  unfold reach
  split <;> norm_num

section

variable {significand : Nat} {exponent : Int} {q : Rat}

theorem unit_pos : 0 < (neighbourhood significand exponent).unit :=
  Nat.pow_pos (by decide)

theorem factor_eq : ((Nat.pow 2 (exponent - 2).toNat : Nat) : Rat) =
    2 ^ exponent / 4 * (neighbourhood significand exponent).unit := by
  have hpos : ((neighbourhood significand exponent).unit : Rat) ≠ 0 := by
    exact_mod_cast unit_pos.ne'
  have hunit : ((neighbourhood significand exponent).unit : Rat) =
      2 ^ (-(exponent - 2)).toNat := by
    rw [neg_sub]
    exact Nat.cast_pow 2 _
  rw [← div_eq_iff hpos, show (4 : Rat) = 2 ^ (2 : Int) by norm_num,
    ← zpow_sub₀ (by norm_num), ← pow_toNat_div 2 (by norm_num), hunit]
  congr 1
  exact Nat.cast_pow 2 _

theorem value_eq : ((neighbourhood significand exponent).value : Rat) =
    significand * 2 ^ exponent * (neighbourhood significand exponent).unit := by
  show ((4 * significand * Nat.pow 2 (exponent - 2).toNat : Nat) : Rat) = _
  rw [Nat.cast_mul, factor_eq]
  push_cast
  ring

theorem high_eq : ((neighbourhood significand exponent).high : Rat) =
    (significand + 1 / 2) * 2 ^ exponent * (neighbourhood significand exponent).unit := by
  show (((4 * significand + 2) * Nat.pow 2 (exponent - 2).toNat : Nat) : Rat) = _
  rw [Nat.cast_mul, factor_eq]
  push_cast
  ring

theorem low_eq (hs : 0 < significand) : ((neighbourhood significand exponent).low : Rat) =
    (significand - reach significand exponent) * 2 ^ exponent *
      (neighbourhood significand exponent).unit := by
  have hwidth : ((4 * significand -
      if significand * 2 = significandLimit ∧ leastExponent < exponent then 1 else 2 : Nat) : Rat) =
        4 * (significand - reach significand exponent) := by
    unfold reach
    split
    · rw [Nat.cast_sub (by omega)]
      push_cast
      ring
    · rw [Nat.cast_sub (by omega)]
      push_cast
      ring
  show (((4 * significand -
      if significand * 2 = significandLimit ∧ leastExponent < exponent then 1 else 2) *
        Nat.pow 2 (exponent - 2).toNat : Nat) : Rat) = _
  rw [Nat.cast_mul, factor_eq, hwidth]
  ring

/-- A double lies in the interior of its interval. -/
theorem value_mem_interior (hs : 0 < significand) :
    (neighbourhood significand exponent).low < (neighbourhood significand exponent).value ∧
      (neighbourhood significand exponent).value < (neighbourhood significand exponent).high := by
  have hpow : (0 : Rat) < 2 ^ exponent := by positivity
  have hunit : (0 : Rat) < (neighbourhood significand exponent).unit := by
    exact_mod_cast unit_pos
  have hreach := reach_pos significand exponent
  constructor
  · have hlow : ((neighbourhood significand exponent).low : Rat) <
        (neighbourhood significand exponent).value := by
      rw [low_eq hs, value_eq]
      gcongr
      linarith
    exact_mod_cast hlow
  · have hhigh : ((neighbourhood significand exponent).value : Rat) <
        (neighbourhood significand exponent).high := by
      rw [high_eq, value_eq]
      gcongr
      linarith
    exact_mod_cast hhigh

theorem closed_eq : (neighbourhood significand exponent).closed = decide (significand % 2 = 0) :=
  rfl

/-- The interval of a double, in units of its last bit. -/
theorem contains_neighbourhood_iff (hs : 0 < significand) :
    (neighbourhood significand exponent).Contains q ↔
      if significand % 2 = 0 then
        significand - reach significand exponent ≤ q / 2 ^ exponent ∧
          q / 2 ^ exponent ≤ significand + 1 / 2
      else significand - reach significand exponent < q / 2 ^ exponent ∧
        q / 2 ^ exponent < significand + 1 / 2 := by
  have hunit : (0 : Rat) < (neighbourhood significand exponent).unit := by
    exact_mod_cast unit_pos
  have hpow : (0 : Rat) < 2 ^ exponent := by positivity
  unfold Neighbourhood.Contains
  rw [low_eq hs, high_eq, closed_eq]
  simp only [decide_eq_true_eq, mul_le_mul_iff_left₀ hunit, mul_lt_mul_iff_left₀ hunit,
    le_div_iff₀ hpow, div_le_iff₀ hpow, lt_div_iff₀ hpow, div_lt_iff₀ hpow]

/-- What the interval says of the distance to the double: at most half a unit to either side, less
than that if the significand is odd, and less below where the units are smaller. -/
theorem distance_of_contains (hs : 0 < significand)
    (h : (neighbourhood significand exponent).Contains q) :
    -reach significand exponent ≤ q / 2 ^ exponent - significand ∧
      IsNearest significand (q / 2 ^ exponent) := by
  have hreach := reach_le significand exponent
  rw [contains_neighbourhood_iff hs] at h
  split at h
  · next heven =>
    refine ⟨by linarith, ⟨abs_le.2 ⟨by linarith, by linarith⟩, fun _ => heven⟩⟩
  · have hless : |q / 2 ^ exponent - significand| < 1 / 2 :=
      abs_lt.2 ⟨by linarith, by linarith⟩
    exact ⟨by linarith, ⟨hless.le, fun htie => absurd htie hless.ne⟩⟩

/-- The case of a quotient that is written with the exponent of the double. -/
theorem ofRatio_same_binade {num den : Nat} {negative : Bool} (hc : Canonical significand exponent)
    (hnum : 0 < num) (hden : 0 < den)
    (hnear : IsNearest significand (num / den / 2 ^ exponent))
    (hlower : exponent = leastExponent ∨ 2 ^ 52 ≤ (num / den / 2 ^ exponent : Rat)) :
    ofRatio negative num den = .finite negative significand exponent := by
  have hpow : (0 : Rat) < 2 ^ exponent := by positivity
  have hbits : (significand : Rat) + 1 ≤ 2 ^ 53 := by exact_mod_cast hc.bits
  have hbinade : InBinade (num / den) exponent := by
    refine ⟨hc.least, ?_, hlower.imp_right fun h => (le_div_iff₀ hpow).1 h⟩
    rw [← div_lt_iff₀ hpow]
    have hclose := (abs_le.1 hnear.near).2
    linarith
  rw [ofRatio_eq negative hnum hden hbinade hnear, carried, if_neg hc.bits.ne,
    if_neg (not_lt.2 hc.greatest)]

/-- The case of a quotient just below the least number with the exponent of the double.  It is
rounded up with the smaller units that hold there, and the carry restores the double. -/
theorem ofRatio_binade_below {num den : Nat} {negative : Bool}
    (hgreatest : exponent ≤ greatestExponent) (hleast : leastExponent < exponent)
    (hnum : 0 < num) (hden : 0 < den)
    (hlow : 2 ^ 52 - 1 / 4 ≤ (num / den / 2 ^ exponent : Rat))
    (hhigh : (num / den / 2 ^ exponent : Rat) < 2 ^ 52) :
    ofRatio negative num den = .finite negative (2 ^ 52) exponent := by
  have hpow : (0 : Rat) < 2 ^ exponent := by positivity
  have hhalf : (2 : Rat) ^ (exponent - 1) = 2 ^ exponent / 2 := zpow_sub_one₀ (by norm_num) _
  have hdouble : (num / den / 2 ^ (exponent - 1) : Rat) = 2 * (num / den / 2 ^ exponent) := by
    rw [hhalf]
    field_simp
  have hbinade : InBinade (num / den) (exponent - 1) := by
    rw [div_lt_iff₀ hpow] at hhigh
    rw [le_div_iff₀ hpow] at hlow
    refine ⟨by omega, ?_, Or.inr ?_⟩ <;> rw [hhalf] <;> linarith
  have hnear : IsNearest significandLimit (num / den / 2 ^ (exponent - 1)) := by
    rw [hdouble]
    have hlimit : ((significandLimit : Nat) : Rat) = 2 ^ 53 := by norm_cast
    refine ⟨abs_le.2 ⟨?_, ?_⟩, fun _ => rfl⟩ <;> rw [hlimit] <;> linarith
  rw [ofRatio_eq negative hnum hden hbinade hnear, carried, if_pos rfl, sub_add_cancel,
    if_neg (not_lt.2 hgreatest)]
  rfl

/-- Every quotient in the interval of a double is rounded to the double. -/
theorem ofRatio_of_contains {num den : Nat} (negative : Bool) (hc : Canonical significand exponent)
    (hs : 0 < significand) (hden : 0 < den)
    (h : (neighbourhood significand exponent).Contains (num / den)) :
    ofRatio negative num den = .finite negative significand exponent := by
  obtain ⟨hreach, hnear⟩ := distance_of_contains hs h
  have hsig : (1 : Rat) ≤ significand := by exact_mod_cast hs
  have hnum : 0 < num := by
    by_contra hzero
    obtain rfl : num = 0 := by omega
    have := reach_le significand exponent
    simp only [Nat.cast_zero, zero_div] at hreach
    linarith
  by_cases hlower : exponent = leastExponent ∨ 2 ^ 52 ≤ (num / den / 2 ^ exponent : Rat)
  · exact ofRatio_same_binade hc hnum hden hnear hlower
  · rw [not_or, not_le] at hlower
    obtain ⟨hexponent, hhigh⟩ := hlower
    have hleast : leastExponent < exponent := lt_of_le_of_ne hc.least (Ne.symm hexponent)
    have hnormal : 2 ^ 53 ≤ 2 * significand := hc.normal.resolve_left hexponent
    have hmost : significand < 2 ^ 52 + 1 := by
      have hclose := (abs_le.1 hnear.near).1
      have : (significand : Rat) < 2 ^ 52 + 1 := by linarith
      exact_mod_cast this
    obtain rfl : significand = 2 ^ 52 := by omega
    have hquarter : reach (2 ^ 52) exponent = 1 / 4 := if_pos ⟨rfl, hleast⟩
    rw [hquarter] at hreach
    push_cast at hreach
    exact ofRatio_binade_below hc.greatest hleast hnum hden (by linarith) hhigh

end

end Binary64

end ChatChain.Number
