import AccelProbe.Text.Ranges

/-!
# Halves of characters

A character beyond the first plane may be given by a pair of numbers, each of which is only a half of it. A text from outside may
hold such a half alone. It is no character, so a text holds it by the character of the last private plane that stands at the same
place in its plane. `codeOf` gives the number that is meant.

The price is that those characters of the private plane, U+10D800 to U+10DFFF, always stand for halves: a text that holds one of them
in its own right is quoted as if it held the half alone, `\ud800` and not `\U0010d800`.
-/

namespace AccelProbe

namespace Text

/-- The numbers of halves. -/
def halfRanges : List (Nat × Nat) := [(0xD800, 0xDFFF)]

/-- Whether a number is that of a half. -/
def isHalf (code : Nat) : Bool := inRanges halfRanges code

/-- The first number of the last private plane. -/
def privatePlane : Nat := 0x100000

/-- The character that holds a half. -/
def ofHalf (code : Nat) : Char := Char.ofNat (privatePlane + code)

/-- The half that a character holds. -/
def half? (c : Char) : Option Nat :=
  if privatePlane ≤ c.toNat && isHalf (c.toNat - privatePlane) then some (c.toNat - privatePlane) else none

/-- The number that a character of a text stands for. -/
def codeOf (c : Char) : Nat := (half? c).getD c.toNat

end Text

end AccelProbe
