import AccelProbe.Decimal.Double
import Mathlib.Data.Rat.Cast.Order
import Mathlib.Tactic.Linarith
import Mathlib.Tactic.Positivity

/-!
# The nearest integer

An integer is nearest to a number when it is no further than a half from it; of two that are a half from it, the even one counts. The
quotient that is rounded is nearest to the quotient, the sign of a number is that of its nearest integer, and a greater number has no
smaller one. So rounding keeps the order of numbers, of whatever size and sign.
-/

namespace AccelProbe

/-- Whether an integer is nearest to a number; of two that are equally near, the even one. -/
structure IsNearest (x : ℚ) (n : ℤ) : Prop where
  /-- It is no further than a half. -/
  near : |(n : ℚ) - x| ≤ 1 / 2
  /-- Where it is as far as that, it is even. -/
  even : |(n : ℚ) - x| = 1 / 2 → Even n

namespace IsNearest

variable {x y : ℚ} {n k : ℤ}

/-- The sign of a number does not matter. -/
theorem neg (h : IsNearest x n) : IsNearest (-x) (-n) := by
  have hdistance : |((-n : ℤ) : ℚ) - -x| = |(n : ℚ) - x| := by
    rw [Int.cast_neg, ← neg_sub', abs_neg]
  refine ⟨hdistance ▸ h.near, fun heq => ?_⟩
  exact (h.even (hdistance ▸ heq)).neg

/-- A greater number has no smaller nearest integer. -/
theorem mono (hx : IsNearest x n) (hy : IsNearest y k) (h : x ≤ y) : n ≤ k := by
  obtain ⟨-, hn⟩ := abs_le.mp hx.near
  obtain ⟨hk, -⟩ := abs_le.mp hy.near
  by_contra hlt
  have hle : ((k + 1 : ℤ) : ℚ) ≤ n := Int.cast_le.mpr (Int.add_one_le_of_lt (not_le.mp hlt))
  rw [Int.cast_add, Int.cast_one] at hle
  -- the two integers follow each other, and both numbers lie halfway between them
  have hnx : (n : ℚ) - x = 1 / 2 := by linarith
  have hky : (k : ℚ) - y = -(1 / 2) := by linarith
  have hnk : n = k + 1 := by
    have hcast : (n : ℚ) = ((k + 1 : ℤ) : ℚ) := by
      rw [Int.cast_add, Int.cast_one]
      linarith
    exact Int.cast_inj.mp hcast
  have hneven : Even n := hx.even (by rw [hnx, abs_of_pos one_half_pos])
  have hkeven : Even k := hy.even (by rw [hky, abs_neg, abs_of_pos one_half_pos])
  rw [hnk, Int.even_add_one] at hneven
  exact hneven hkeven

end IsNearest

/-- A quotient is its floor and the part of one that remains. -/
theorem div_eq_floor_add (num : ℕ) {den : ℕ} (h : 0 < den) :
    (num : ℚ) / den = ((num / den : ℕ) : ℚ) + ((num % den : ℕ) : ℚ) / den := by
  have hden : (den : ℚ) ≠ 0 := Nat.cast_ne_zero.mpr (Nat.ne_of_gt h)
  have hnum : (den : ℚ) * ((num / den : ℕ) : ℚ) + ((num % den : ℕ) : ℚ) = num := by exact_mod_cast Nat.div_add_mod num den
  rw [div_eq_iff hden, add_mul, div_mul_cancel₀ _ hden, mul_comm, hnum]

/-- The rounded quotient is nearest to the quotient. -/
theorem isNearest_roundDiv (num : ℕ) {den : ℕ} (h : 0 < den) : IsNearest ((num : ℚ) / den) (roundDiv num den) := by
  have hden : (0 : ℚ) < den := Nat.cast_pos.mpr h
  have hpart : 0 ≤ ((num % den : ℕ) : ℚ) / den := by positivity
  have hhalf : ((num % den : ℕ) : ℚ) / den = 1 / 2 → den = 2 * (num % den) := by
    intro heq
    rw [div_eq_div_iff hden.ne' two_ne_zero, one_mul, mul_comm] at heq
    exact_mod_cast heq.symm
  rcases roundDiv_eq_or num den with hround | hround
  · have hdown : ¬ (den < 2 * (num % den) ∨ (den = 2 * (num % den) ∧ (num / den) % 2 = 1)) :=
      fun hup => absurd ((roundDiv_eq_succ_iff num den).mpr hup) (by omega)
    have hle : ((num % den : ℕ) : ℚ) / den ≤ 1 / 2 := by
      rw [div_le_div_iff₀ hden two_pos, one_mul, mul_comm]
      exact_mod_cast not_lt.mp fun hlt => hdown (Or.inl hlt)
    have hdistance : |((roundDiv num den : ℤ) : ℚ) - (num : ℚ) / den| = ((num % den : ℕ) : ℚ) / den := by
      rw [hround, div_eq_floor_add num h, Int.cast_natCast, sub_add_cancel_left, abs_neg, abs_of_nonneg hpart]
    refine ⟨hdistance ▸ hle, fun heq => ?_⟩
    have htie := hhalf (hdistance ▸ heq)
    rw [hround, Int.even_coe_nat, Nat.even_iff]
    omega
  · have hup := (roundDiv_eq_succ_iff num den).mp hround
    have hle : 1 / 2 ≤ ((num % den : ℕ) : ℚ) / den := by
      rw [div_le_div_iff₀ two_pos hden, one_mul, mul_comm]
      have hnat : den ≤ 2 * (num % den) := by omega
      exact_mod_cast hnat
    have hlt : ((num % den : ℕ) : ℚ) / den < 1 := (div_lt_one hden).mpr (Nat.cast_lt.mpr (Nat.mod_lt num h))
    have hdistance : |((roundDiv num den : ℤ) : ℚ) - (num : ℚ) / den| = 1 - ((num % den : ℕ) : ℚ) / den := by
      rw [hround, div_eq_floor_add num h, Int.cast_natCast, Nat.cast_add_one, add_sub_add_left_eq_sub, abs_of_pos (sub_pos.mpr hlt)]
    refine ⟨hdistance ▸ by linarith, fun heq => ?_⟩
    have htie := hhalf (by linarith)
    rw [hround, Int.even_coe_nat, Nat.even_iff]
    omega

end AccelProbe
