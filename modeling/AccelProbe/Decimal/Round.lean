/-!
# Rounding a quotient

One rounding rule serves the whole library: a quotient of natural numbers goes to the nearest natural number, and a quotient
that lies exactly between two of them goes to the even one. Both the reading of decimals and their printing are built on it.
-/

namespace AccelProbe

/-- The natural number nearest to `num / den`; of two that are equally near, the even one. -/
def roundDiv (num den : Nat) : Nat :=
  let low := num / den
  let rest := num % den
  if 2 * rest < den then low
  else if den < 2 * rest then low + 1
  else if low % 2 = 0 then low else low + 1

/-- The rounded quotient is the floor or one more. -/
theorem roundDiv_eq_or (num den : Nat) : roundDiv num den = num / den ∨ roundDiv num den = num / den + 1 := by
  unfold roundDiv
  simp only
  split
  · exact Or.inl rfl
  · split
    · exact Or.inr rfl
    · split
      · exact Or.inl rfl
      · exact Or.inr rfl

/-- Rounding goes up exactly when the remainder is more than half of the divisor, or half of it above an odd floor. -/
theorem roundDiv_eq_succ_iff (num den : Nat) :
    roundDiv num den = num / den + 1 ↔ den < 2 * (num % den) ∨ (den = 2 * (num % den) ∧ (num / den) % 2 = 1) := by
  unfold roundDiv
  simp only
  split
  · omega
  · split
    · omega
    · split <;> omega

end AccelProbe
