import AccelProbe.Decimal.Digits
import AccelProbe.Decimal.Double

/-!
# Decimals with fixed places

The exact value of a double, rounded to a fixed number of places after the point. A value exactly between two such decimals goes
to the one with the even last digit, and the sign is kept also where all digits are zero.
-/

namespace AccelProbe

namespace Fixed

/-- How many units of the last place make one: `10 ^ places`. -/
def scale (places : Nat) : Nat := Nat.pow 10 places

/-- The units of the last place in the magnitude of `mantissa * 2 ^ exponent`. -/
def units (places mantissa : Nat) (exponent : Int) : Nat :=
  let (up, down) := Double.powerOfTwo exponent
  roundDiv (mantissa * up * scale places) down

/-- A number of units written with its point: the whole part, the point, and exactly `places` digits. -/
def pointed (places units : Nat) : List Char :=
  let fraction := Digits.ofNat (units % scale places)
  Digits.ofNat (units / scale places) ++ '.' :: (List.replicate (places - fraction.length) '0' ++ fraction)

/-- The minus sign of a negative number. -/
def sign (negative : Bool) : List Char := if negative then ['-'] else []

/-- The text of a double with a fixed number of places (at least one). -/
def text (places : Nat) : Double → String
  | .nan => "nan"
  | .infinite negative => String.ofList (sign negative ++ ['i', 'n', 'f'])
  | .finite negative mantissa exponent => String.ofList (sign negative ++ pointed places (units places mantissa exponent))

end Fixed

end AccelProbe
