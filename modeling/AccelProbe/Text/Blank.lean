import AccelProbe.Text.Ranges

/-!
# Blank characters

White space of every script, as it may stand around a number that is given as text. The separators among the control characters
do not belong to it.
-/

namespace AccelProbe

namespace Text

/-- The ranges of blank characters. -/
def blankRanges : List (Nat × Nat) := [
  (0x9, 0xD), (0x20, 0x20), (0x85, 0x85), (0xA0, 0xA0), (0x1680, 0x1680), (0x2000, 0x200A), (0x2028, 0x2029),
  (0x202F, 0x202F), (0x205F, 0x205F), (0x3000, 0x3000)]

/-- Whether a character is blank. -/
def isBlank (c : Char) : Bool := inRanges blankRanges c.toNat

/-- A text without the blank characters at its two ends. -/
def trimBlank (cs : List Char) : List Char := ((cs.dropWhile isBlank).reverse.dropWhile isBlank).reverse

end Text

end AccelProbe
