import AccelProbe.Decimal.Digits
import AccelProbe.Text.Half
import AccelProbe.Text.Printable

/-!
# Quoted text

A text between quotes, on one line. Single quotes enclose it, and double quotes where the text holds a single quote and no double
one. The enclosing quote and the backslash are escaped by a backslash, line breaks and tabs have escapes of their own, and every
other character that is not printable is escaped by its code point in two, four or eight hexadecimal digits. The code point of a
character that holds a half is that of the half.
-/

namespace AccelProbe

namespace Text

/-- The single quote. -/
def singleQuote : Char := '\x27'

/-- The double quote. -/
def doubleQuote : Char := '\x22'

/-- The quote that encloses a text. -/
def enclosingQuote (cs : List Char) : Char :=
  if cs.contains singleQuote && !cs.contains doubleQuote then doubleQuote else singleQuote

/-- The escape of a character by its code point. -/
def escapeCode (code : Nat) : List Char :=
  if code < 0x100 then '\\' :: 'x' :: Digits.hex 2 code
  else if code < 0x10000 then '\\' :: 'u' :: Digits.hex 4 code
  else '\\' :: 'U' :: Digits.hex 8 code

/-- A character as it stands inside the given quotes. -/
def quoteChar (mark c : Char) : List Char :=
  if c = mark ∨ c = '\\' then ['\\', c]
  else if c = '\n' then ['\\', 'n']
  else if c = '\r' then ['\\', 'r']
  else if c = '\t' then ['\\', 't']
  else if isPrintable c then [c]
  else escapeCode (codeOf c)

/-- A text between its quotes. -/
def quote (s : String) : String :=
  let mark := enclosingQuote s.toList
  String.ofList (mark :: (s.toList.flatMap (quoteChar mark) ++ [mark]))

end Text

end AccelProbe
