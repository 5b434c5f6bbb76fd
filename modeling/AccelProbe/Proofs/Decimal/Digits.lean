import AccelProbe.Decimal.Digits

/-!
# Digits as they are written

The digits of a number stand for it, also behind zeros, and digits behind others count as in any positional system. What holds of the
ten digits holds of every digit of a number.
-/

namespace AccelProbe

namespace Digits

/-! ## The characters -/

/-- A digit of a number is one of ten. -/
theorem exists_of_mem_ofNat {n : Nat} {c : Char} (h : c ∈ ofNat n) : ∃ d < 10, c = Nat.digitChar d := by
  induction n using Nat.strongRecOn with
  | ind n ih =>
    rw [ofNat] at h
    by_cases hn : n < 10
    · rw [Nat.toDigits_of_lt_base hn, List.mem_singleton] at h
      exact ⟨n, hn, h⟩
    · rw [Nat.toDigits_of_base_le (by decide) (by omega), List.mem_append, List.mem_singleton] at h
      rcases h with h | h
      · exact ih (n / 10) (by omega) h
      · exact ⟨n % 10, Nat.mod_lt n (by decide), h⟩

/-- What holds of the ten digits holds of every digit of a number. -/
theorem forall_mem_ofNat {p : Char → Prop} (h : ∀ d < 10, p (Nat.digitChar d)) (n : Nat) : ∀ c ∈ ofNat n, p c := by
  intro c hc
  obtain ⟨d, hd, rfl⟩ := exists_of_mem_ofNat hc
  exact h d hd

/-- The digits of a number are digits. -/
theorem isDigit_of_mem_ofNat {n : Nat} {c : Char} (h : c ∈ ofNat n) : c.isDigit = true :=
  Nat.isDigit_of_mem_toDigits (by decide) (by decide) h

/-- What holds of the ten digits and of the minus sign holds of every character of an integer. -/
theorem forall_mem_ofInt {p : Char → Prop} (h : ∀ d < 10, p (Nat.digitChar d)) (hminus : p '-') (n : Int) : ∀ c ∈ ofInt n, p c := by
  cases n with
  | ofNat n => exact forall_mem_ofNat h n
  | negSucc n => exact List.forall_mem_cons.mpr ⟨hminus, forall_mem_ofNat h (n + 1)⟩

/-- An integer has characters. -/
theorem ofInt_ne_nil (n : Int) : ofInt n ≠ [] := by
  cases n with
  | ofNat n => exact Nat.toDigits_ne_nil
  | negSucc n => exact List.cons_ne_nil _ _

/-! ## The numbers -/

/-- The value of a digit is read as it is written. -/
theorem value_digitChar {d : Nat} (h : d < 10) : value (Nat.digitChar d) = d := by
  revert d
  decide

/-- The digits of a number stand for it. -/
theorem toNat_ofNat (n : Nat) : toNat 10 (ofNat n) = n := by
  induction n using Nat.strongRecOn with
  | ind n ih =>
    rw [ofNat]
    by_cases hn : n < 10
    · rw [Nat.toDigits_of_lt_base hn]
      exact (Nat.zero_add _).trans (value_digitChar hn)
    · have hle : 10 ≤ n := by omega
      have hmod : n % 10 < 10 := Nat.mod_lt n (by decide)
      have hrest : toNat 10 (Nat.toDigits 10 (n / 10)) = n / 10 := ih (n / 10) (by omega)
      rw [Nat.toDigits_of_base_le (by decide) hle, toNat, List.foldl_append]
      change toNat 10 (Nat.toDigits 10 (n / 10)) * 10 + value (Nat.digitChar (n % 10)) = n
      rw [hrest, value_digitChar hmod]
      omega

/-- Two numbers with the same digits are the same. -/
theorem ofNat_inj {n m : Nat} (h : ofNat n = ofNat m) : n = m := by
  rw [← toNat_ofNat n, h, toNat_ofNat]

/-- Two integers that are written alike are the same. -/
theorem ofInt_inj {n m : Int} (h : ofInt n = ofInt m) : n = m := by
  have hminus (k : Nat) : '-' ∉ ofNat k := fun hm => forall_mem_ofNat (p := (· ≠ '-')) (by decide) k _ hm rfl
  cases n with
  | ofNat n =>
    cases m with
    | ofNat m => exact congrArg Int.ofNat (ofNat_inj h)
    | negSucc m =>
      change ofNat n = '-' :: ofNat (m + 1) at h
      exact absurd (h ▸ List.mem_cons_self) (hminus n)
  | negSucc n =>
    cases m with
    | ofNat m =>
      change '-' :: ofNat (n + 1) = ofNat m at h
      exact absurd (h ▸ List.mem_cons_self) (hminus m)
    | negSucc m => exact congrArg Int.negSucc (Nat.succ.inj (ofNat_inj (List.cons.inj h).2))

/-- Digits that stand before others count for as many powers of the base as there are others. -/
theorem toNat_append (base : Nat) (cs ds : List Char) :
    toNat base (cs ++ ds) = toNat base cs * Nat.pow base ds.length + toNat base ds := by
  have hfrom : ∀ start, ds.foldl (fun n c => n * base + value c) start = start * Nat.pow base ds.length + toNat base ds := by
    induction ds with
    | nil => exact fun start => (Nat.mul_one start).symm
    | cons d ds ih =>
      intro start
      have hzero : toNat base (d :: ds) = (0 * base + value d) * Nat.pow base ds.length + toNat base ds := ih _
      have hpow : Nat.pow base (d :: ds).length = Nat.pow base ds.length * base := rfl
      rw [List.foldl_cons, ih, hzero, hpow, Nat.zero_mul, Nat.zero_add, Nat.add_mul, Nat.mul_assoc, Nat.mul_comm base, Nat.add_assoc]
  rw [toNat, List.foldl_append]
  exact hfrom _

/-- Zeros stand for nothing. -/
theorem toNat_zeros (k : Nat) : toNat 10 (List.replicate k '0') = 0 := by
  induction k with
  | zero => rfl
  | succ k ih =>
    rw [List.replicate_succ', toNat_append, ih]
    rfl

end Digits

/-- Two integers with the same text are the same. -/
theorem intText_inj {n m : Int} (h : intText n = intText m) : n = m := Digits.ofInt_inj (String.ofList_inj.mp h)

end AccelProbe
