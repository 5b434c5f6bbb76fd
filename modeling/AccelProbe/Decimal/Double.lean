import AccelProbe.Decimal.Round

/-!
# Double precision numbers

A double is held as what it stands for: not a number, an infinity, or a sign with `mantissa * 2 ^ exponent`. Nothing here
computes with machine floats, so every rounding is exact arithmetic on natural numbers. `ofRatio` and `ofDecimal` give the double
nearest to a ratio and to a decimal, always in the canonical form: the mantissa is below `2 ^ 53`, and it is below `2 ^ 52` only
with the least exponent.
-/

namespace AccelProbe

/-- A double precision number. -/
inductive Double where
  /-- Not a number. -/
  | nan
  /-- One of the two infinities. -/
  | infinite (negative : Bool)
  /-- The number `mantissa * 2 ^ exponent` with its sign; zero has a sign too. -/
  | finite (negative : Bool) (mantissa : Nat) (exponent : Int)
deriving DecidableEq, Repr, Inhabited

namespace Double

/-- The exponent of the numbers nearest to zero. -/
def leastExponent : Int := -1074

/-- The greatest exponent a finite number has. -/
def greatestExponent : Int := 971

/-- Mantissas stay below this bound, `2 ^ 53`. -/
def mantissaBound : Nat := 9007199254740992

/-- Positive zero. -/
def zero : Double := .finite false 0 leastExponent

/-- Whether the number is zero, of either sign. -/
def isZero : Double → Bool
  | finite _ 0 _ => true
  | _ => false

/-- `2 ^ e` as a numerator and a denominator. -/
def powerOfTwo (e : Int) : Nat × Nat := (Nat.pow 2 e.toNat, Nat.pow 2 (-e).toNat)

/-- `10 ^ e` as a numerator and a denominator. -/
def powerOfTen (e : Int) : Nat × Nat := (Nat.pow 10 e.toNat, Nat.pow 10 (-e).toNat)

/-- The greatest `t` with `2 ^ t ≤ num / den`, for positive `num` and `den`. -/
def floorLog2 (num den : Nat) : Int :=
  let guess : Int := (num.log2 : Int) - (den.log2 : Int)
  let (up, down) := powerOfTwo guess
  if den * up ≤ num * down then guess else guess - 1

/-- A rounded mantissa with its exponent: a mantissa that reached the bound is halved, and an exponent above the greatest one
gives an infinity. -/
def normal (negative : Bool) (mantissa : Nat) (exponent : Int) : Double :=
  let (m, e) := if mantissa = mantissaBound then (mantissaBound / 2, exponent + 1) else (mantissa, exponent)
  if greatestExponent < e then .infinite negative else .finite negative m e

/-- The double nearest to `num / den` (for a positive `den`), ties going to the even mantissa. -/
def ofRatio (negative : Bool) (num den : Nat) : Double :=
  if num = 0 then .finite negative 0 leastExponent
  else
    let exponent := max (floorLog2 num den - 52) leastExponent
    let (up, down) := powerOfTwo exponent
    normal negative (roundDiv (num * down) (den * up)) exponent

/-- The number of decimal digits of a natural number; zero has one. -/
def decimalLength (n : Nat) : Nat := (Nat.toDigits 10 n).length

/-- The double nearest to `digits * 10 ^ exponent`. Decimals far outside the range of doubles are not multiplied out. -/
def ofDecimal (negative : Bool) (digits : Nat) (exponent : Int) : Double :=
  let magnitude := exponent + decimalLength digits
  if digits = 0 ∨ magnitude < -330 then .finite negative 0 leastExponent
  else if 330 < magnitude then .infinite negative
  else
    let (up, down) := powerOfTen exponent
    ofRatio negative (digits * up) down

/-- The double nearest to an integer; nothing if the integer is beyond the finite doubles. -/
def ofInt? (n : Int) : Option Double :=
  match ofRatio (decide (n < 0)) n.natAbs 1 with
  | .infinite _ => none
  | x => some x

/-- Equality of numbers: a NaN equals nothing and the two zeros are equal. -/
def sameNumber (x y : Double) : Bool :=
  match x, y with
  | .infinite a, .infinite b => a == b
  | .finite a m e, .finite b n f =>
    let (up, down) := powerOfTwo e
    let (up', down') := powerOfTwo f
    m * up * down' == n * up' * down && (a == b || m == 0)
  | _, _ => false

/-- Whether a double is exactly the given integer. -/
def isInt (x : Double) (n : Int) : Bool :=
  match x with
  | .finite negative mantissa exponent =>
    let (up, down) := powerOfTwo exponent
    mantissa * up == n.natAbs * down && (mantissa == 0 || negative == decide (n < 0))
  | _ => false

end Double

end AccelProbe
