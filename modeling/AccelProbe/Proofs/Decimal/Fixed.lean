import AccelProbe.Decimal.Fixed
import AccelProbe.Decimal.Numeral
import AccelProbe.Proofs.Decimal.Integers

/-!
# Fixed places as numerals

A decimal with fixed places is a numeral: it is read as its sign, the digits before its point, and exactly as many digits behind it as it
has places. All its digits together stand for its units. It is one word, for every double.
-/

namespace AccelProbe

namespace Fixed

/-- The digits behind the point. -/
def fraction (places units : Nat) : List Char :=
  List.replicate (places - (Digits.ofNat (units % scale places)).length) '0' ++ Digits.ofNat (units % scale places)

/-- A number of units is its digits before the point, the point, and its digits behind it. -/
theorem pointed_eq (places units : Nat) :
    pointed places units = Digits.ofNat (units / scale places) ++ '.' :: fraction places units := rfl

/-! ## The characters -/

/-- What holds of the ten digits holds of every digit behind the point. -/
theorem forall_mem_fraction {p : Char → Prop} (h : ∀ d < 10, p (Nat.digitChar d)) (places units : Nat) :
    ∀ c ∈ fraction places units, p c := by
  intro c hc
  rcases List.mem_append.mp hc with hc | hc
  · exact List.eq_of_mem_replicate hc ▸ h 0 (by decide)
  · exact Digits.forall_mem_ofNat h _ c hc

/-- What holds of the ten digits and of the point holds of every character of a number of units. -/
theorem forall_mem_pointed {p : Char → Prop} (h : ∀ d < 10, p (Nat.digitChar d)) (hpoint : p '.') (places units : Nat) :
    ∀ c ∈ pointed places units, p c := by
  intro c hc
  rw [pointed_eq] at hc
  rcases List.mem_append.mp hc with hc | hc
  · exact Digits.forall_mem_ofNat h _ c hc
  · rcases List.mem_cons.mp hc with rfl | hc
    · exact hpoint
    · exact forall_mem_fraction h places units c hc

/-- A double with fixed places is one word. -/
theorem blank_not_mem_text (places : Nat) (x : Double) : ' ' ∉ (text places x).toList := by
  have hnan : ' ' ∉ "nan".toList := by decide
  have hinfinite : ∀ negative, ' ' ∉ sign negative ++ ['i', 'n', 'f'] := by decide
  have hsign : ∀ negative, ' ' ∉ sign negative := by decide
  cases x with
  | nan => exact hnan
  | infinite negative =>
    rw [text, String.toList_ofList]
    exact hinfinite negative
  | finite negative mantissa exponent =>
    rw [text, String.toList_ofList, List.mem_append, not_or]
    exact ⟨hsign negative, fun hc => forall_mem_pointed (p := (· ≠ ' ')) (by decide) (by decide) _ _ _ hc rfl⟩

/-! ## The numeral -/

variable {places : Nat}

/-- There are exactly as many digits behind the point as places. -/
theorem length_fraction (h : 0 < places) (units : Nat) : (fraction places units).length = places := by
  have hscale : units % scale places < scale places := Nat.mod_lt _ (Nat.pow_pos (by decide))
  have hlength : (Digits.ofNat (units % scale places)).length ≤ places :=
    (Digits.hasAtMost_iff h _).mp ((Digits.hasAtMost_iff_lt places _).mpr hscale)
  rw [fraction, List.length_append, List.length_replicate]
  omega

/-- All digits together stand for the units. -/
theorem toNat_digits (h : 0 < places) (units : Nat) :
    Digits.toNat 10 (Digits.ofNat (units / scale places) ++ fraction places units) = units := by
  have hfraction : Digits.toNat 10 (fraction places units) = units % scale places := by
    rw [fraction, Digits.toNat_append, Digits.toNat_zeros, Digits.toNat_ofNat, Nat.zero_mul, Nat.zero_add]
  rw [Digits.toNat_append, length_fraction h, hfraction, Digits.toNat_ofNat]
  exact Nat.div_add_mod' units (scale places)

/-- The parts of a number of units behind a sign. -/
def parts (negative : Bool) (places units : Nat) : Numeral.Parts where
  negative := negative
  whole := Digits.ofNat (units / scale places)
  fraction := fraction places units
  exponent := 0

/-- Digits before something else are taken as they are. -/
theorem takeDigits_append {digits rest : List Char} (h : ∀ c ∈ digits, c.isDigit = true)
    (hrest : rest.takeWhile Char.isDigit = []) (hdrop : rest.dropWhile Char.isDigit = rest) :
    Numeral.takeDigits (digits ++ rest) = (digits, rest) := by
  rw [Numeral.takeDigits, List.takeWhile_append_of_pos h, List.dropWhile_append_of_pos h, hrest, hdrop, List.append_nil]

/-- A number of units behind a sign is read as its parts. -/
theorem parts?_pointed (negative : Bool) (units : Nat) :
    Numeral.parts? (sign negative ++ pointed places units) = some (parts negative places units) := by
  have hsign : Numeral.takeSign (sign negative ++ pointed places units) = (negative, pointed places units) := by
    cases negative with
    | false => exact Numeral.takeSign_ofNat _ _
    | true => rfl
  have hwhole : Numeral.takeDigits (pointed places units) =
      (Digits.ofNat (units / scale places), '.' :: fraction places units) :=
    takeDigits_append (fun _ => Digits.isDigit_of_mem_ofNat) rfl rfl
  have hfraction : Numeral.takeDigits (fraction places units) = (fraction places units, []) := by
    have hdigits : ∀ c ∈ fraction places units, c.isDigit = true := forall_mem_fraction (by decide) places units
    have htaken : Numeral.takeDigits (fraction places units ++ []) = _ := takeDigits_append hdigits rfl rfl
    rwa [List.append_nil] at htaken
  have hnone : (Digits.ofNat (units / scale places)).isEmpty = false := List.isEmpty_eq_false_iff.mpr Nat.toDigits_ne_nil
  rw [Numeral.parts?, hsign]
  simp only [hwhole, hfraction, hnone]
  rfl

end Fixed

end AccelProbe
