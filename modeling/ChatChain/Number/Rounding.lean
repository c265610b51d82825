/-!
# Rounding a quotient

`roundDiv num den` is the whole number nearest to `num / den`, and of two equally near ones the
even one.  Every rounding of this library goes through it.
-/

namespace ChatChain.Number

/-- The whole number nearest to `num / den`; a tie goes to the even neighbour. -/
def roundDiv (num den : Nat) : Nat :=
  let low := num / den
  let excess := 2 * (num % den)
  if excess < den then low
  else if den < excess then low + 1
  else if low % 2 = 0 then low
  else low + 1

/-- The answer is at most half a unit away from the quotient. -/
theorem roundDiv_near {num den : Nat} (h : 0 < den) :
    2 * num ≤ 2 * (roundDiv num den * den) + den ∧
      2 * (roundDiv num den * den) ≤ 2 * num + den := by
  have hsplit : den * (num / den) + num % den = num := Nat.div_add_mod num den
  have hlt : num % den < den := Nat.mod_lt num h
  have hmul : (num / den) * den = den * (num / den) := Nat.mul_comm ..
  have hsucc : (num / den + 1) * den = den * (num / den) + den := by
    rw [Nat.add_mul, Nat.one_mul, hmul]
  unfold roundDiv
  simp only
  split
  · rw [hmul]; omega
  · split
    · rw [hsucc]; omega
    · split
      · rw [hmul]; omega
      · rw [hsucc]; omega

end ChatChain.Number
