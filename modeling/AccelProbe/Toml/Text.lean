import AccelProbe.Toml.Basic

/-!
# Texts of a document

A text stands between double quotes, where a backslash begins an escape, or between single quotes, where every character stands
for itself. Three quotes at each end enclose a text over several lines; up to two more quotes at the end belong to the text, and
the line end behind the opening quotes does not. In a text over several lines a backslash at the end of a line takes away all
blanks and line ends up to the next other character.
-/

namespace AccelProbe

namespace Toml

/-- What the reader of a text with escapes expects next. -/
inductive TextMode where
  /-- Any character. -/
  | plain
  /-- The character behind a backslash. -/
  | escaped
  /-- The digits of a code point: how many are left, and the value so far. -/
  | code (left value : Nat)
  /-- Blanks, and then the line end that a backslash takes away. -/
  | lineEnd
  /-- Blanks and line ends that a backslash takes away, or any other character. -/
  | trimming
deriving DecidableEq, Repr

/-- The character that a backslash with a letter or a mark stands for. -/
def escape? (c : Char) : Option Char :=
  [('b', '\x08'), ('t', '\t'), ('n', '\n'), ('f', '\x0c'), ('r', '\r'), ('\x22', '\x22'), ('\\', '\\')].lookup c

/-- The character of a code point; a surrogate is none. -/
def character? (code : Nat) : Option Char :=
  if code < 0xD800 ∨ (0xE000 ≤ code ∧ code ≤ 0x10FFFF) then some (Char.ofNat code) else none

/-- A character in front of the text that is read next. -/
def inFront (c : Char) (text : Reading (List Char)) : Reading (List Char) := text.map fun (cs, rest) => (c :: cs, rest)

/-- The quotes, two at most, that still belong to a text behind its three closing ones. -/
def closingQuotes (mark : Char) : List Char → List Char × List Char
  | a :: b :: rest => if a = mark then (if b = mark then ([a, b], rest) else ([a], b :: rest)) else ([], a :: b :: rest)
  | [a] => if a = mark then ([a], []) else ([], [a])
  | [] => ([], [])

/-- The rest of a text with escapes, up to its closing quotes; `long` tells whether these are three. -/
def escapedText (long : Bool) : TextMode → List Char → Reading (List Char)
  | _, [] => .error .malformed
  | .escaped, c :: rest =>
    if c = 'u' then escapedText long (.code 4 0) rest
    else if c = 'U' then escapedText long (.code 8 0) rest
    else if long && isBlank c then escapedText long .lineEnd rest
    else if long && c == '\n' then escapedText long .trimming rest
    else
      match escape? c with
      | some d => inFront d (escapedText long .plain rest)
      | none => .error .malformed
  | .code left value, c :: rest =>
    if !isHexDigit c then .error .malformed
    else
      let value := value * 16 + Digits.value c
      if left ≤ 1 then
        match character? value with
        | some d => inFront d (escapedText long .plain rest)
        | none => .error .malformed
      else escapedText long (.code (left - 1) value) rest
  | .lineEnd, c :: rest =>
    if isBlank c then escapedText long .lineEnd rest
    else if c = '\n' then escapedText long .trimming rest
    else .error .malformed
  | mode, c :: rest =>
    if mode = .trimming && isFiller c then escapedText long .trimming rest
    else if c = '\x22' then
      if !long then .ok ([], rest)
      else
        match rest with
        | '\x22' :: '\x22' :: behind => .ok (closingQuotes '\x22' behind)
        | _ => inFront c (escapedText long .plain rest)
    else if c = '\\' then escapedText long .escaped rest
    else if isForbidden c && !(long && c == '\n') then .error .malformed
    else inFront c (escapedText long .plain rest)

/-- The rest of a text without escapes, up to its closing quotes; `long` tells whether these are three. -/
def literalText (long : Bool) : List Char → Reading (List Char)
  | [] => .error .malformed
  | c :: rest =>
    if c = '\x27' then
      if !long then .ok ([], rest)
      else
        match rest with
        | '\x27' :: '\x27' :: behind => .ok (closingQuotes '\x27' behind)
        | _ => inFront c (literalText long rest)
    else if isForbidden c && !(long && c == '\n') then .error .malformed
    else inFront c (literalText long rest)

/-- The characters behind the line end that they may begin with. -/
def skipFirstLineEnd : List Char → List Char
  | '\n' :: rest => rest
  | cs => cs

/-- The steps that the escapes of a text take, up to the quotes that close it; a code point takes the most. -/
def escapeSteps (long : Bool) : List Char → Nat
  | [] => 0
  | '\\' :: c :: rest => max ((if c = 'u' ∨ c = 'U' then 3 else 1) + (if long then 1 else 0)) (escapeSteps long rest)
  | c :: rest => if c = '\x22' ∧ (!long || rest.take 2 == ['\x22', '\x22']) then 0 else escapeSteps long rest

/-- The steps that a text takes that begins here. -/
def textSteps : List Char → Nat
  | '\x22' :: '\x22' :: '\x22' :: rest => 4 + escapeSteps true rest
  | '\x22' :: rest => 4 + escapeSteps false rest
  | _ => 4

/-- A text on one line as a string. -/
def asString (text : Reading (List Char)) : Reading String := text.map fun (cs, rest) => (String.ofList cs, rest)

/-- A text in any of its four forms, if one begins here. -/
def text? : List Char → Option (Reading String)
  | '\x22' :: '\x22' :: '\x22' :: rest => some (asString (escapedText true .plain (skipFirstLineEnd rest)))
  | '\x27' :: '\x27' :: '\x27' :: rest => some (asString (literalText true (skipFirstLineEnd rest)))
  | '\x22' :: rest => some (asString (escapedText false .plain rest))
  | '\x27' :: rest => some (asString (literalText false rest))
  | _ => none

end Toml

end AccelProbe
