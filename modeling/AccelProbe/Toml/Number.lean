import AccelProbe.Decimal.Numeral
import AccelProbe.Toml.Basic
import AccelProbe.Value.Basic

/-!
# Numbers of a document

An integer is decimal, with an optional sign and no leading zero, or hexadecimal, octal or binary. A decimal with a fraction or an
exponent is a float, and so are the words for infinity and for not a number. An underscore may stand between two digits.
-/

namespace AccelProbe

namespace Toml

/-- The digits that follow, without the underscores between them. -/
def moreDigits (digit : Char → Bool) : List Char → List Char × List Char
  | [] => ([], [])
  | c :: rest =>
    if digit c then
      let (ds, left) := moreDigits digit rest
      (c :: ds, left)
    else if c = '_' && rest.head?.any digit then moreDigits digit rest
    else ([], c :: rest)

/-- At least one digit, without the underscores between them. -/
def digits? (digit : Char → Bool) (cs : List Char) : Option (List Char × List Char) :=
  if cs.head?.any digit then some (moreDigits digit cs) else none

/-- An integer of another base behind its mark. -/
def based? : List Char → Option (Int × List Char)
  | '0' :: mark :: rest =>
    let base (n : Nat) (digit : Char → Bool) : Option (Int × List Char) :=
      (digits? digit rest).map fun (ds, left) => (Int.ofNat (Digits.toNat n ds), left)
    if mark = 'x' then base 16 isHexDigit
    else if mark = 'o' then base 8 fun c => decide ('0' ≤ c ∧ c ≤ '7')
    else if mark = 'b' then base 2 fun c => c == '0' || c == '1'
    else none
  | _ => none

/-- The whole part of a decimal: a zero, or digits that do not begin with one. -/
def whole? : List Char → Option (List Char × List Char)
  | '0' :: rest => some (['0'], rest)
  | cs => digits? Char.isDigit cs

/-- The fraction behind a decimal's point, if there is one. -/
def fraction? : List Char → Option (List Char × List Char)
  | '.' :: rest => digits? Char.isDigit rest
  | _ => none

/-- The exponent of a decimal, if there is one. -/
def exponent? : List Char → Option (Int × List Char)
  | mark :: rest =>
    if mark = 'e' ∨ mark = 'E' then
      let (negative, unsigned) := Numeral.takeSign rest
      (digits? Char.isDigit unsigned).map fun (ds, left) =>
        let n : Int := Digits.toNat 10 ds
        (if negative then -n else n, left)
    else none
  | [] => none

/-- A decimal, if one begins here: an integer when it has neither fraction nor exponent. -/
def decimal? (cs : List Char) : Option (Reading Value) :=
  let (negative, unsigned) := Numeral.takeSign cs
  match whole? unsigned with
  | none => none
  | some (whole, rest) =>
    match fraction? rest with
    | some (fraction, rest) =>
      match exponent? rest with
      | some (e, rest) => some (.ok (.float (Numeral.Parts.toDouble ⟨negative, whole, fraction, e⟩), rest))
      | none => some (.ok (.float (Numeral.Parts.toDouble ⟨negative, whole, fraction, 0⟩), rest))
    | none =>
      match exponent? rest with
      | some (e, rest) => some (.ok (.float (Numeral.Parts.toDouble ⟨negative, whole, [], e⟩), rest))
      | none =>
        if Digits.limit < whole.length then some (.error (.integerTooLong whole.length))
        else
          let n : Int := Digits.toNat 10 whole
          some (.ok (.int (if negative then -n else n), rest))

/-- One of the words for infinity and for not a number, if one begins here. -/
def numberWord? (cs : List Char) : Option (Value × List Char) :=
  let (negative, unsigned) := Numeral.takeSign cs
  match unsigned with
  | 'i' :: 'n' :: 'f' :: rest => some (.float (.infinite negative), rest)
  | 'n' :: 'a' :: 'n' :: rest => some (.float .nan, rest)
  | _ => none

/-- A number, if one begins here. -/
def number? (cs : List Char) : Option (Reading Value) :=
  match based? cs with
  | some (n, rest) => some (.ok (.int n, rest))
  | none =>
    match decimal? cs with
    | some reading => some reading
    | none => (numberWord? cs).map .ok

/-- The steps that a number takes: one less where it is a word, which is only compared. -/
def numberSteps (cs : List Char) : Nat :=
  if (based? cs).isNone && (decimal? cs).isNone && (numberWord? cs).isSome then 2 else 3

end Toml

end AccelProbe
