import AccelProbe.Decimal.Digits

/-!
# Reading configuration documents: the basics

A configuration document is TOML 1.0. A reader takes the characters that are left and gives what it read with the characters
that are left then. A document that breaks a rule of the format is refused as a whole; it does not matter which rule. A decimal
integer with more digits than the limit is refused for that reason, though it breaks no rule; so are values that lie too deep in
each other. How deep they may lie is counted in steps, of which a reader has a store: a step is a call that is open at the deepest
place. An array and a table take steps for as long as what lies in them is read, and a reader of something that holds no value takes
some for a moment.
-/

namespace AccelProbe

namespace Toml

/-- Why a document was refused. -/
inductive Fault where
  /-- The document breaks a rule of the format. -/
  | malformed
  /-- A decimal integer has more digits than the limit. -/
  | integerTooLong (digits : Nat)
  /-- Values lie too deep in each other. -/
  | tooDeep
deriving DecidableEq, Repr

/-- The wording of a fault. -/
def Fault.message : Fault → String
  | malformed => "malformed document"
  | integerTooLong digits => Digits.limitMessage (some digits)
  | tooDeep => "maximum recursion depth exceeded"

/-- What a reader gives: what it read, and the characters that are left. -/
abbrev Reading (α : Type) := Except Fault (α × List Char)

/-- A dotted key: the names from the outermost table to the innermost. -/
abbrev Path := List String

/-- Whether a character is a blank within a line. -/
def isBlank (c : Char) : Bool := c == ' ' || c == '\t'

/-- Whether a character is a blank or ends a line. -/
def isFiller (c : Char) : Bool := isBlank c || c == '\n'

/-- Whether a character may not stand in a comment or a text on one line: a control character other than the tab. -/
def isForbidden (c : Char) : Bool := (decide (c.toNat < 32) || c.toNat == 127) && c != '\t'

/-- Whether a character may stand in a name without quotes. -/
def isBare (c : Char) : Bool := c.isAlphanum || c == '-' || c == '_'

/-- Whether a character is a hexadecimal digit. -/
def isHexDigit (c : Char) : Bool := c.isDigit || decide ('a' ≤ c ∧ c ≤ 'f') || decide ('A' ≤ c ∧ c ≤ 'F')

/-- The characters behind the blanks. -/
def skipBlanks (cs : List Char) : List Char := cs.dropWhile isBlank

/-- The line end behind a comment, or the same characters where no comment begins. -/
def skipComment (cs : List Char) : Except Fault (List Char) :=
  match cs with
  | '#' :: rest =>
    if (rest.takeWhile (· != '\n')).any isForbidden then .error .malformed else .ok (rest.dropWhile (· != '\n'))
  | cs => .ok cs

/-- The characters behind blanks, line ends and comments. `inComment` tells whether the first of them belong to a comment. -/
def skipFiller (inComment : Bool) : List Char → Except Fault (List Char)
  | [] => .ok []
  | c :: rest =>
    if inComment then
      if c = '\n' then skipFiller false rest
      else if isForbidden c then .error .malformed
      else skipFiller true rest
    else if isFiller c then skipFiller false rest
    else if c = '#' then skipFiller true rest
    else .ok (c :: rest)

/-- The characters behind a given one that has to come first. -/
def expect (mark : Char) : List Char → Except Fault (List Char)
  | [] => .error .malformed
  | c :: rest => if c = mark then .ok rest else .error .malformed

/-- The steps that a reader has for a value of a document. The runtime has a limit for all calls that are open, so the calls that led
to the reader count as well; this is the number that is left where a configuration is loaded. -/
def depthStore : Nat := 988

/-- What a reader takes from its steps to read what lies in an array. -/
def arraySteps : Nat := 2

/-- What a reader takes from its steps to read what lies in an inline table. -/
def tableSteps : Nat := 3

/-- The steps that are left when some are taken. -/
def descend (steps store : Nat) : Except Fault Nat := if steps ≤ store then .ok (store - steps) else .error .tooDeep

/-- Whether there are steps for a reader that gives them back when it is done. -/
def afford (steps store : Nat) : Except Fault Unit := if steps ≤ store then .ok () else .error .tooDeep

/-- The steps that blanks, line ends and comments in an array take: some more where a comment comes first. -/
def fillerSteps (cs : List Char) : Nat := if (cs.dropWhile isFiller).head? = some '#' then 4 else 2

/-- The characters behind the blanks, line ends and comments in an array. -/
def passFiller (store : Nat) (cs : List Char) : Except Fault (List Char) := do
  afford (fillerSteps cs) store
  skipFiller false cs

/-- A line end of two characters is read as one of one character. -/
def joinLineEnds : List Char → List Char
  | [] => []
  | '\r' :: '\n' :: rest => '\n' :: joinLineEnds rest
  | c :: rest => c :: joinLineEnds rest

end Toml

end AccelProbe
