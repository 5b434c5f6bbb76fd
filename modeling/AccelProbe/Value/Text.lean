import AccelProbe.Decimal.Shortest
import AccelProbe.Text.Quoted
import AccelProbe.Value.Basic

/-!
# The text of a value

A value has two texts. Its source text shows what kind of value it is, with quotes around texts and brackets around collections;
messages use it for a value that was refused. Its display text is the same, except that a text stands for itself; lines of a
report use it. Inside a collection every item is shown by its source text.
-/

namespace AccelProbe

namespace Value

/-- The text of a truth value. -/
def boolText (b : Bool) : String := if b then "True" else "False"

/-- Items between brackets, with a comma and a blank between two of them. -/
def bracketed (left right : String) (items : List String) : String :=
  left ++ String.intercalate ", " items ++ right

/-- The items of a tuple between parentheses; a single item is followed by a comma. -/
def parenthesised : List String → String
  | [item] => "(" ++ item ++ ",)"
  | items => bracketed "(" ")" items

/-- An opening brace. -/
def openBrace : String := "\x7b"

/-- A closing brace. -/
def closeBrace : String := "\x7d"

mutual

/-- The source text of a value. -/
def source : Value → String
  | null => "None"
  | bool b => boolText b
  | int n => intText n
  | float x => Shortest.text x
  | str s => Text.quote s
  | list items => bracketed "[" "]" (sourceEach items)
  | tuple items => parenthesised (sourceEach items)
  | dictionary entries => bracketed openBrace closeBrace (sourceEntries entries)
  | date d => Calendar.dateSource d
  | time t => Calendar.timeSource t
  | datetime d t offset => Calendar.dateTimeSource d t offset
  | tensor _ _ text => text
  | device name => "PhysicalDevice(name=" ++ source name ++ ")"
  | spec type index => "DeviceSpec(type=" ++ source type ++ ", index=" ++ source index ++ ")"

/-- The source texts of the items of a collection. -/
def sourceEach : List Value → List String
  | [] => []
  | v :: rest => source v :: sourceEach rest

/-- The entries of a dictionary, each a key, a colon and a value. -/
def sourceEntries : List (String × Value) → List String
  | [] => []
  | (key, v) :: rest => (Text.quote key ++ ": " ++ source v) :: sourceEntries rest

end

/-- The display text of a value. -/
def display : Value → String
  | str s => s
  | v => v.source

/-- Sizes joined by the sign of multiplication. -/
def dimensions (sizes : List Value) : String := String.intercalate "x" (sizes.map display)

@[simp] theorem display_str (s : String) : (str s).display = s := rfl

end Value

end AccelProbe
