import AccelProbe.Proofs.Decimal.Fixed
import AccelProbe.Proofs.Decimal.Nearest
import Mathlib.Tactic.Ring

/-!
# Fixed places round to the nearest

A finite double has an exact value, and so has a decimal as it is written. The text of a double with fixed places is a decimal of which
the units are nearest to the exact value: it is off by half a unit of the last place at most, and where it is off by as much, its last
digit is even. So the texts of two doubles never stand in another order than the doubles.
-/

namespace AccelProbe

/-- A magnitude with a sign. -/
def signed (negative : Bool) (q : ℚ) : ℚ := if negative then -q else q

/-- The exact value of a finite double. -/
def Double.rational? : Double → Option ℚ
  | .finite negative mantissa exponent => some (signed negative (mantissa * 2 ^ exponent))
  | _ => none

/-- The exact value of a decimal as it is written. -/
def Numeral.Parts.value (p : Parts) : ℚ :=
  signed p.negative (Digits.toNat 10 (p.whole ++ p.fraction) * 10 ^ (p.exponent - p.fraction.length))

/-- A decimal with a number of places is written as this text: its sign, its digits with the point, and exactly as many digits behind the
point. It is off from the value by half a unit of the last place at most, and where it is off by as much, its last digit is even. -/
structure Fixed.Rounds (places : ℕ) (u : ℚ) (word : List Char) (p : Numeral.Parts) : Prop where
  /-- The text is the decimal. -/
  written : word = sign p.negative ++ p.whole ++ '.' :: p.fraction
  /-- The decimal is read from the text. -/
  read : Numeral.parts? word = some p
  /-- It has digits before the point. -/
  whole : p.whole ≠ []
  /-- It has as many digits behind the point as places. -/
  length : p.fraction.length = places
  /-- It is near the value. -/
  near : |p.value - u| ≤ 1 / (2 * 10 ^ places)
  /-- Where it is as far from the value as it may be, its last digit is even. -/
  even : |p.value - u| = 1 / (2 * 10 ^ places) → ∀ digit ∈ p.fraction.getLast?, Even (Digits.value digit)

namespace Fixed

variable {places : ℕ}

/-- A power of two is the quotient of its numerator and its denominator. -/
theorem powerOfTwo_div (e : ℤ) : ((Double.powerOfTwo e).1 : ℚ) / (Double.powerOfTwo e).2 = 2 ^ e := by
  change ((2 ^ e.toNat : ℕ) : ℚ) / ((2 ^ (-e).toNat : ℕ) : ℚ) = 2 ^ e
  obtain ⟨k, rfl | rfl⟩ := e.eq_nat_or_neg
  · rw [Int.toNat_natCast, Int.toNat_neg_natCast, pow_zero, Nat.cast_one, div_one, Nat.cast_pow, zpow_natCast]
    rfl
  · rw [neg_neg, Int.toNat_natCast, Int.toNat_neg_natCast, pow_zero, Nat.cast_one, one_div, Nat.cast_pow, zpow_neg, zpow_natCast]
    rfl

/-- The units of a double with their sign. -/
def signedUnits (places : ℕ) (negative : Bool) (mantissa : ℕ) (exponent : ℤ) : ℤ :=
  if negative then -(units places mantissa exponent : ℤ) else units places mantissa exponent

/-- As many units of the last place make one. -/
theorem cast_scale (places : ℕ) : (scale places : ℚ) = 10 ^ places := by
  change ((10 ^ places : ℕ) : ℚ) = 10 ^ places
  rw [Nat.cast_pow]
  rfl

/-- The units of a magnitude are nearest to it. -/
theorem isNearest_units (places mantissa : ℕ) (exponent : ℤ) :
    IsNearest (mantissa * 2 ^ exponent * 10 ^ places) (units places mantissa exponent) := by
  have hdown : 0 < (Double.powerOfTwo exponent).2 := Nat.pow_pos (by decide)
  have hnearest := isNearest_roundDiv (mantissa * (Double.powerOfTwo exponent).1 * scale places) hdown
  have hvalue : ((mantissa * (Double.powerOfTwo exponent).1 * scale places : ℕ) : ℚ) / (Double.powerOfTwo exponent).2 =
      mantissa * 2 ^ exponent * 10 ^ places := by
    rw [← powerOfTwo_div, ← cast_scale]
    push_cast
    ring
  exact hvalue ▸ hnearest

/-- The units of a double are nearest to its exact value. -/
theorem isNearest_signedUnits (places : ℕ) (negative : Bool) (mantissa : ℕ) (exponent : ℤ) :
    IsNearest (signed negative (mantissa * 2 ^ exponent) * 10 ^ places) (signedUnits places negative mantissa exponent) := by
  have h := isNearest_units places mantissa exponent
  cases negative with
  | false => exact h
  | true =>
    have hneg := h.neg
    rwa [← neg_mul] at hneg

/-- The value of a number of units behind a sign. -/
theorem value_parts (h : 0 < places) (negative : Bool) (mantissa : ℕ) (exponent : ℤ) :
    (parts negative places (units places mantissa exponent)).value = signedUnits places negative mantissa exponent / 10 ^ places := by
  have hpower : (10 : ℚ) ^ ((0 : ℤ) - (places : ℤ)) = 1 / 10 ^ places := by
    rw [zero_sub, zpow_neg, zpow_natCast, one_div]
  rw [Numeral.Parts.value, parts, toNat_digits h, length_fraction h, hpower, mul_one_div]
  cases negative with
  | false => rfl
  | true =>
    change -((units places mantissa exponent : ℚ) / 10 ^ places) = ((-(units places mantissa exponent : ℤ) : ℤ) : ℚ) / 10 ^ places
    rw [Int.cast_neg, Int.cast_natCast, neg_div]

/-- How far a number of units is off is how far it is from the value in units. -/
theorem abs_div_sub (n : ℤ) (u : ℚ) : |(n : ℚ) / 10 ^ places - u| = |(n : ℚ) - u * 10 ^ places| / 10 ^ places := by
  have hscale : (0 : ℚ) < 10 ^ places := by positivity
  have hdivided : (n : ℚ) / 10 ^ places - u = ((n : ℚ) - u * 10 ^ places) / 10 ^ places := by
    rw [sub_div, mul_div_cancel_right₀ _ hscale.ne']
  rw [hdivided, abs_div, abs_of_pos hscale]

/-- The last digit of an even number of units is even. -/
theorem even_of_mem_getLast? (h : 0 < places) {n : ℕ} (hn : Even n) :
    ∀ digit ∈ (fraction places n).getLast?, Even (Digits.value digit) := by
  intro digit hd
  obtain ⟨front, hfront⟩ := List.getLast?_eq_some_iff.mp hd
  have hlast : Digits.toNat 10 (Digits.ofNat (n / scale places) ++ front) * 10 + (0 * 10 + Digits.value digit) = n := by
    have hall := toNat_digits h n
    rw [hfront, ← List.append_assoc, Digits.toNat_append] at hall
    exact hall
  rw [Nat.even_iff] at hn ⊢
  omega

/-- The text of a double is a decimal that is nearest to its exact value. -/
theorem rounds_text (h : 0 < places) {x : Double} {u : ℚ} (hx : x.rational? = some u) :
    ∃ p, Rounds places u (text places x).toList p := by
  cases x with
  | nan => cases hx
  | infinite negative => cases hx
  | finite negative mantissa exponent =>
    cases hx
    have hnearest := isNearest_signedUnits places negative mantissa exponent
    have hscale : (0 : ℚ) < 10 ^ places := by positivity
    have hhalf : (1 : ℚ) / (2 * 10 ^ places) = 1 / 2 / 10 ^ places := (div_div _ _ _).symm
    refine ⟨parts negative places (units places mantissa exponent), ?_, ?_, Nat.toDigits_ne_nil, length_fraction h _, ?_, ?_⟩
    · rw [text, String.toList_ofList, pointed_eq, ← List.append_assoc]
      rfl
    · rw [text, String.toList_ofList, parts?_pointed]
    · rw [value_parts h, abs_div_sub, hhalf]
      exact div_le_div_of_nonneg_right hnearest.near hscale.le
    · intro heq
      rw [value_parts h, abs_div_sub, hhalf, div_left_inj' hscale.ne'] at heq
      have heven : Even (units places mantissa exponent) := by
        have hsigned := hnearest.even heq
        cases negative with
        | false => exact (Int.even_coe_nat _).mp hsigned
        | true => exact (Int.even_coe_nat _).mp (even_neg.mp hsigned)
      exact even_of_mem_getLast? h heven

/-- The text of a double is read as a number of units that is nearest to its exact value. -/
theorem exists_isNearest (h : 0 < places) {x : Double} {u : ℚ} (hx : x.rational? = some u) :
    ∃ p n, Numeral.parts? (text places x).toList = some p ∧ p.value = (n : ℤ) / 10 ^ places ∧ IsNearest (u * 10 ^ places) n := by
  cases x with
  | nan => cases hx
  | infinite negative => cases hx
  | finite negative mantissa exponent =>
    cases hx
    refine ⟨_, _, ?_, value_parts h negative mantissa exponent, isNearest_signedUnits places negative mantissa exponent⟩
    rw [text, String.toList_ofList, parts?_pointed]

/-- The texts of two doubles stand in the order of the doubles. -/
theorem value_le_value (h : 0 < places) {x y : Double} {u v : ℚ} (hx : x.rational? = some u) (hy : y.rational? = some v) (huv : u ≤ v)
    {p q : Numeral.Parts} (hp : Numeral.parts? (text places x).toList = some p)
    (hq : Numeral.parts? (text places y).toList = some q) : p.value ≤ q.value := by
  obtain ⟨p', n, hp', hn, hnearest⟩ := exists_isNearest h hx
  obtain ⟨q', k, hq', hk, hnearest'⟩ := exists_isNearest h hy
  cases hp.symm.trans hp'
  cases hq.symm.trans hq'
  have hscale : (0 : ℚ) < 10 ^ places := by positivity
  have hle : n ≤ k := hnearest.mono hnearest' (mul_le_mul_of_nonneg_right huv hscale.le)
  rw [hn, hk]
  exact div_le_div_of_nonneg_right (Int.cast_le.mpr hle) hscale.le

end Fixed

end AccelProbe
