import AccelProbe.Decimal.Digits
import AccelProbe.Decimal.Double

/-!
# The shortest decimal that reads back

A double is written with the fewest digits that read back as the same double. Every real number between two bounds, half-way to
the neighbouring doubles, reads back as it; the bounds belong to it exactly when its mantissa is even. The decimals that are
multiples of `10 ^ g` form a grid, and coarser grids have fewer digits, so the search goes from coarse to fine and stops at the
first grid of which a point lies between the bounds. If any point of a grid does, one of the two points next to the value does.

Quarters of the last place of the mantissa are the unit of all comparisons, which are exact.
-/

namespace AccelProbe

namespace Shortest

/-- A decimal `digits * 10 ^ exponent`. -/
structure Decimal where
  /-- All its digits, read as a natural number. -/
  digits : Nat
  /-- The power of ten that the last digit stands for. -/
  exponent : Int
deriving DecidableEq, Repr

/-- How one step of the grid `10 ^ g` and one quarter of the last place `2 ^ e` measure in a common unit. -/
def weights (g e : Int) : Nat × Nat :=
  let (tenUp, tenDown) := Double.powerOfTen g
  let (twoUp, twoDown) := Double.powerOfTwo (e - 2)
  (tenUp * twoDown, twoUp * tenDown)

/-- The lower bound of a double in quarters of its last place. Below a power of two doubles are twice as dense. -/
def lowQuarters (mantissa : Nat) (exponent : Int) : Nat :=
  if mantissa = Double.mantissaBound / 2 ∧ Double.leastExponent < exponent then 4 * mantissa - 1 else 4 * mantissa - 2

/-- The upper bound of a double in quarters of its last place. -/
def highQuarters (mantissa : Nat) : Nat := 4 * mantissa + 2

/-- Whether the grid point `k * 10 ^ g` reads back as the double `mantissa * 2 ^ exponent`. -/
def readsBack (mantissa : Nat) (exponent g : Int) (k : Nat) : Bool :=
  let (step, quarter) := weights g exponent
  let point := k * step
  let low := lowQuarters mantissa exponent * quarter
  let high := highQuarters mantissa * quarter
  if mantissa % 2 = 0 then decide (low ≤ point ∧ point ≤ high) else decide (low < point ∧ point < high)

/-- The point of the grid `10 ^ g` that reads back as the double, if there is one: of two, the nearer, and the even one where they
are equally near. -/
def onGrid? (mantissa : Nat) (exponent g : Int) : Option Nat :=
  let (step, quarter) := weights g exponent
  let value := 4 * mantissa * quarter
  let below := value / step
  let above := below + 1
  match readsBack mantissa exponent g below, readsBack mantissa exponent g above with
  | true, true => some (roundDiv value step)
  | true, false => some below
  | false, true => some above
  | false, false => none

/-- The first hit on the grids `10 ^ g`, `10 ^ (g - 1)`, … -/
def search (mantissa : Nat) (exponent : Int) : Nat → Int → Option Decimal
  | 0, _ => none
  | fuel + 1, g =>
    match onGrid? mantissa exponent g with
    | some digits => some ⟨digits, g⟩
    | none => search mantissa exponent fuel (g - 1)

/-- A grid coarser than the magnitude of `mantissa * 2 ^ exponent`: three tenths of the binary digits, and a little more. -/
def coarsest (mantissa : Nat) (exponent : Int) : Int :=
  Int.fdiv (((mantissa.log2 : Int) + exponent + 1) * 30103) 100000 + 1

/-- The shortest decimal that reads back as the positive double `mantissa * 2 ^ exponent`. Seventeen digits always suffice, and
the search begins at most three grids above the first digit. -/
def decimal (mantissa : Nat) (exponent : Int) : Decimal :=
  (search mantissa exponent 24 (coarsest mantissa exponent)).getD ⟨0, 0⟩

/-- How a decimal is laid out. -/
structure Layout where
  /-- Numbers whose point stands this many places after the first digit, or more, have an exponent. -/
  pointsBelow : Int
  /-- Numbers whose point stands this many places after the first digit, or fewer, have an exponent. -/
  pointsAbove : Int
  /-- The least number of digits of an exponent. -/
  exponentWidth : Nat
deriving DecidableEq, Repr

/-- Numbers are written without an exponent from `0.0001` up to, but not including, `1e+16`; exponents have a sign and at least
two digits. -/
def layout : Layout := ⟨17, -4, 2⟩

/-- A run of zeros. -/
def zeros (n : Nat) : List Char := List.replicate n '0'

/-- The digits `ds` with the point after the first `point` of them; a negative `point` stands before zeros. A number that is whole
gets one zero after its point. -/
def positional (ds : List Char) (point : Int) : List Char :=
  if point ≤ 0 then '0' :: '.' :: (zeros (-point).toNat ++ ds)
  else
    let before := point.toNat
    if ds.length ≤ before then ds ++ zeros (before - ds.length) ++ ['.', '0']
    else ds.take before ++ '.' :: ds.drop before

/-- The exponent `e` with its mark, its sign and at least `width` digits. -/
def exponentMark (width : Nat) (e : Int) : List Char :=
  let ds := Digits.ofNat e.natAbs
  'e' :: (if e < 0 then '-' else '+') :: (zeros (width - ds.length) ++ ds)

/-- The digits `ds` in scientific form: one digit before the point, and no point where no digit follows. -/
def scientific (l : Layout) (ds : List Char) (point : Int) : List Char :=
  let mantissa := match ds with
    | [] => []
    | [d] => [d]
    | d :: rest => d :: '.' :: rest
  mantissa ++ exponentMark l.exponentWidth (point - 1)

/-- A decimal in a layout. -/
def Decimal.text (l : Layout) (d : Decimal) : List Char :=
  let ds := Digits.ofNat d.digits
  let point : Int := d.exponent + ds.length
  if l.pointsAbove < point ∧ point < l.pointsBelow then positional ds point else scientific l ds point

/-- The shortest text of a double. -/
def text : Double → String
  | .nan => "nan"
  | .infinite false => "inf"
  | .infinite true => "-inf"
  | .finite negative mantissa exponent =>
    let body := if mantissa = 0 then ['0', '.', '0'] else (decimal mantissa exponent).text layout
    String.ofList (if negative then '-' :: body else body)

end Shortest

end AccelProbe
