import AccelProbe.Decimal.Digits
import AccelProbe.Decimal.Double
import AccelProbe.Text.Blank
import AccelProbe.Text.DecimalDigit
import AccelProbe.Text.LetterCase

/-!
# Reading numbers from text

A numeral is a sign, digits with at most one point among them, and an exponent, of which only the digits are required; or one of
the words for infinity and for not a number, in any letter case. Digits of every script count, an underscore may stand between
two digits, and blanks may stand around the whole. The double is the one nearest to the decimal. An integer is written in the
same way, with neither point nor exponent, and has no more digits than the limit.
-/

namespace AccelProbe

namespace Numeral

/-- The parts of a decimal as written: the digits before and after the point, and the exponent. -/
structure Parts where
  /-- Whether a minus sign stands in front. -/
  negative : Bool
  /-- The digits before the point. -/
  whole : List Char
  /-- The digits after the point. -/
  fraction : List Char
  /-- The exponent of ten. -/
  exponent : Int
deriving DecidableEq, Repr

/-- The double nearest to a decimal. -/
def Parts.toDouble (p : Parts) : Double :=
  Double.ofDecimal p.negative (Digits.toNat 10 (p.whole ++ p.fraction)) (p.exponent - p.fraction.length)

/-- A sign, if there is one, and the rest. -/
def takeSign : List Char → Bool × List Char
  | '-' :: rest => (true, rest)
  | '+' :: rest => (false, rest)
  | cs => (false, cs)

/-- The leading digits and the rest. -/
def takeDigits (cs : List Char) : List Char × List Char := (cs.takeWhile Char.isDigit, cs.dropWhile Char.isDigit)

/-- The exponent that makes up the rest of a numeral; no rest is the exponent zero. -/
def exponent? : List Char → Option Int
  | [] => some 0
  | mark :: rest =>
    if mark = 'e' ∨ mark = 'E' then
      let (negative, digits) := takeSign rest
      if digits.isEmpty || !digits.all Char.isDigit then none
      else
        let n : Int := Digits.toNat 10 digits
        some (if negative then -n else n)
    else none

/-- The parts of a plain numeral. -/
def parts? (cs : List Char) : Option Parts :=
  let (negative, unsigned) := takeSign cs
  let (whole, afterWhole) := takeDigits unsigned
  let (fraction, rest) := match afterWhole with
    | '.' :: r => takeDigits r
    | r => ([], r)
  if whole.isEmpty && fraction.isEmpty then none
  else (exponent? rest).map fun e => ⟨negative, whole, fraction, e⟩

/-- A text without its underscores, if each of them stands between two digits. `previous` is the character before the text. -/
def dropUnderscores (previous : Char) : List Char → Option (List Char)
  | [] => if previous = '_' then none else some []
  | c :: rest =>
    if c = '_' then
      if previous.isDigit then dropUnderscores c rest else none
    else if previous = '_' && !c.isDigit then none
    else (dropUnderscores c rest).map (c :: ·)

/-- A decimal digit of any script as the ASCII digit of the same value. -/
def toAscii (c : Char) : Char :=
  match Text.decimalDigit? c with
  | some n => Nat.digitChar n
  | none => c

/-- One of the words for infinity and for not a number, in lower case. -/
def word? (negative : Bool) (cs : List Char) : Option Double :=
  if cs = ['i', 'n', 'f'] ∨ cs = ['i', 'n', 'f', 'i', 'n', 'i', 't', 'y'] then some (.infinite negative)
  else if cs = ['n', 'a', 'n'] then some .nan
  else none

/-- A text without the blanks around it, and with ASCII digits in place of all others. -/
def trimmed (s : String) : List Char := (Text.trimBlank s.toList).map toAscii

/-- The integer that a text stands for: digits behind a sign, or without one. -/
def integer? (s : String) : Option Int :=
  let (negative, unsigned) := takeSign (trimmed s)
  match dropUnderscores ' ' unsigned with
  | some digits =>
    if digits.isEmpty || !digits.all Char.isDigit || decide (Digits.limit < digits.length) then none
    else
      let n : Int := Digits.toNat 10 digits
      some (if negative then -n else n)
  | none => none

/-- The double that a text stands for. -/
def read? (s : String) : Option Double :=
  let cs := trimmed s
  let (negative, unsigned) := takeSign cs
  match word? negative (unsigned.map Char.toLower) with
  | some x => some x
  | none => ((dropUnderscores ' ' cs).bind parts?).map Parts.toDouble

end Numeral

end AccelProbe
