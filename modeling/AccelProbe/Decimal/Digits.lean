/-!
# Decimal digits

Natural numbers and integers as decimal text, without leading zeros, and back. Numbers have any size, but decimal text of an
integer is read and written only up to a limit of digits.
-/

namespace AccelProbe

namespace Digits

/-- The decimal digits of a natural number, the most significant first. -/
def ofNat (n : Nat) : List Char := Nat.toDigits 10 n

/-- The decimal text of an integer: a minus sign stands before a negative one. -/
def ofInt : Int → List Char
  | .ofNat n => ofNat n
  | .negSucc n => '-' :: ofNat (n + 1)

/-- The value of a digit of any base up to sixteen. -/
def value (c : Char) : Nat :=
  if '0' ≤ c ∧ c ≤ '9' then c.toNat - 48
  else if 'a' ≤ c ∧ c ≤ 'f' then c.toNat - 87
  else if 'A' ≤ c ∧ c ≤ 'F' then c.toNat - 55
  else 0

/-- The number that a list of digits stands for in a base, the most significant digit first. -/
def toNat (base : Nat) (cs : List Char) : Nat := cs.foldl (fun n c => n * base + value c) 0

/-- The greatest number of decimal digits with which an integer is read or written. -/
def limit : Nat := 4300

/-- Whether a natural number has at most `k` decimal digits. -/
def hasAtMost : Nat → Nat → Bool
  | 0, n => n == 0
  | k + 1, n => n == 0 || hasAtMost k (n / 10)

/-- Whether an integer has no more decimal digits than the limit. The sign does not count. -/
def fits (n : Int) : Bool := hasAtMost limit n.natAbs

/-- The lowest `width` hexadecimal digits of a number, in lower case. -/
def hex (width n : Nat) : List Char :=
  (List.range width).map fun i => Nat.digitChar (n >>> (4 * (width - 1 - i)) % 16)

/-- The numbers of at most `k` digits are those below ten to the `k`. -/
theorem hasAtMost_iff_lt (k n : Nat) : hasAtMost k n = true ↔ n < Nat.pow 10 k := by
  induction k generalizing n with
  | zero => simp [hasAtMost]
  | succ k ih =>
    have h : Nat.pow 10 (k + 1) = Nat.pow 10 k * 10 := rfl
    have hp : 0 < Nat.pow 10 k := Nat.pow_pos (by decide)
    simp only [hasAtMost, Bool.or_eq_true, beq_iff_eq, ih, h]
    omega

/-- The digits that are counted are those that are written. -/
theorem hasAtMost_iff {k : Nat} (hk : 0 < k) (n : Nat) : hasAtMost k n = true ↔ (ofNat n).length ≤ k :=
  (hasAtMost_iff_lt k n).trans (Nat.length_toDigits_le_iff (by decide) hk).symm

/-- An integer fits when it is written with no more digits than the limit. -/
theorem fits_iff (n : Int) : fits n = true ↔ (ofNat n.natAbs).length ≤ limit := hasAtMost_iff (by decide) n.natAbs

end Digits

/-- The decimal text of an integer. -/
def intText (n : Int) : String := String.ofList (Digits.ofInt n)

/-- The decimal text of a natural number. -/
def natText (n : Nat) : String := String.ofList (Digits.ofNat n)

/-- The wording for an integer with more digits than the limit. The number of its digits is told where they were read. -/
def Digits.limitMessage (found : Option Nat) : String :=
  "Exceeds the limit (" ++ natText limit ++ " digits) for integer string conversion" ++
    (match found with
      | some digits => ": value has " ++ natText digits ++ " digits"
      | none => "") ++ "; use sys.set_int_max_str_digits() to increase the limit"

end AccelProbe
