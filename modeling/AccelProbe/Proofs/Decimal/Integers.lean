import AccelProbe.Decimal.Numeral
import AccelProbe.Proofs.Decimal.Digits

/-!
# Integers as numerals

The text of an integer is a numeral: it is read back as the integer, unless it has more digits than can be read. So no two integers
that can be read have the same text.
-/

namespace AccelProbe

namespace Numeral

/-- The characters of an integer are neither blanks nor underscores, and they are ASCII. -/
theorem ofInt_plain (n : Int) : ∀ c ∈ Digits.ofInt n, Text.isBlank c = false ∧ toAscii c = c ∧ c ≠ '_' :=
  Digits.forall_mem_ofInt (by decide) (by decide) n

/-- A text without blanks has none at its ends. -/
theorem trimBlank_of_forall {cs : List Char} (h : ∀ c ∈ cs, Text.isBlank c = false) : Text.trimBlank cs = cs := by
  have hdrop : ∀ ds : List Char, (∀ c ∈ ds, Text.isBlank c = false) → ds.dropWhile Text.isBlank = ds := by
    intro ds hds
    cases ds with
    | nil => rfl
    | cons d ds => exact List.dropWhile_cons_of_neg (by simp [hds d List.mem_cons_self])
  have hreverse : ∀ c ∈ cs.reverse, Text.isBlank c = false := fun c hc => h c (List.mem_reverse.mp hc)
  rw [Text.trimBlank, hdrop cs h, hdrop cs.reverse hreverse, List.reverse_reverse]

/-- The text of an integer is trimmed as it is. -/
theorem trimmed_intText (n : Int) : trimmed (intText n) = Digits.ofInt n := by
  have hplain := ofInt_plain n
  rw [trimmed, intText, String.toList_ofList, trimBlank_of_forall fun c hc => (hplain c hc).1]
  exact (List.map_congr_left fun c hc => (hplain c hc).2.1).trans (List.map_id _)

/-- Characters of which none is an underscore lose none. -/
theorem dropUnderscores_of_forall {cs : List Char} (h : ∀ c ∈ cs, c ≠ '_') {previous : Char} (hp : previous ≠ '_') :
    dropUnderscores previous cs = some cs := by
  induction cs generalizing previous with
  | nil => rw [dropUnderscores, if_neg hp]
  | cons c cs ih =>
    obtain ⟨hc, hcs⟩ := List.forall_mem_cons.mp h
    rw [dropUnderscores, if_neg hc, decide_eq_false hp, Bool.false_and, if_neg Bool.false_ne_true, ih hcs hc]
    rfl

/-- The digits of a number have no sign. -/
theorem takeSign_ofNat (n : Nat) (rest : List Char) : takeSign (Digits.ofNat n ++ rest) = (false, Digits.ofNat n ++ rest) := by
  cases hds : Digits.ofNat n with
  | nil => exact absurd hds Nat.toDigits_ne_nil
  | cons d ds =>
    have hd : d.isDigit = true := Digits.isDigit_of_mem_ofNat (hds ▸ List.mem_cons_self)
    rw [List.cons_append]
    unfold takeSign
    split
    next heq => exact absurd ((List.cons.inj heq).1 ▸ hd) (by decide)
    next heq => exact absurd ((List.cons.inj heq).1 ▸ hd) (by decide)
    next => rfl

/-- The digits of a number that is not too long are read as the number, behind the sign that was read before them. -/
theorem integer?_of_takeSign {s : String} {negative : Bool} {n : Nat} (hs : takeSign (trimmed s) = (negative, Digits.ofNat n))
    (hn : (Digits.ofNat n).length ≤ Digits.limit) : integer? s = some (if negative then -(n : Int) else n) := by
  have hplain : dropUnderscores ' ' (Digits.ofNat n) = some (Digits.ofNat n) :=
    dropUnderscores_of_forall (Digits.forall_mem_ofNat (by decide) n) (by decide)
  have hempty : (Digits.ofNat n).isEmpty = false := List.isEmpty_eq_false_iff.mpr Nat.toDigits_ne_nil
  have hall : (Digits.ofNat n).all Char.isDigit = true := List.all_eq_true.mpr fun _ => Digits.isDigit_of_mem_ofNat
  have hlimit : decide (Digits.limit < (Digits.ofNat n).length) = false := decide_eq_false (Nat.not_lt.mpr hn)
  rw [integer?, hs]
  simp only [hplain, hempty, hall, hlimit, Digits.toNat_ofNat]
  rfl

/-- An integer that is not too long is read as it is written. -/
theorem integer?_intText {n : Int} (h : Digits.fits n = true) : integer? (intText n) = some n := by
  have hlength := (Digits.fits_iff n).mp h
  cases n with
  | ofNat n =>
    have hs : takeSign (trimmed (intText (.ofNat n))) = (false, Digits.ofNat n) := by
      have hsign := takeSign_ofNat n []
      rw [List.append_nil] at hsign
      rw [trimmed_intText]
      exact hsign
    exact integer?_of_takeSign hs hlength
  | negSucc n =>
    have hs : takeSign (trimmed (intText (.negSucc n))) = (true, Digits.ofNat (n + 1)) := by
      rw [trimmed_intText]
      rfl
    exact integer?_of_takeSign hs hlength

end Numeral

end AccelProbe
