import AccelProbe.CommandLine.Switch
import AccelProbe.Text.Wrap

/-!
# The help text

The help text is laid out for the width of the terminal. The usage line is broken between switches when it is too long, and then
goes on below the place where the switches began. What is said of a switch stands in a column of its own, beside the switch
where the switch is short enough and below it where it is not.
-/

namespace AccelProbe

namespace Help

/-- The name of the program. -/
def program : String := "main.py"

/-- What the program does. -/
def purpose : String := "Check that a GPU-enabled tensor library is installed and working."

/-- The width of a terminal that is not told otherwise. -/
def standardColumns : Nat := 80

/-- A text of blanks. -/
def blanks (n : Nat) : String := String.ofList (List.replicate n ' ')

/-- A spelling with the placeholder of its argument. -/
def withPlaceholder (s : Switch) (spelling : List Char) : String :=
  String.ofList spelling ++ match s.placeholder? with
    | some p => " " ++ p
    | none => ""

/-- A switch in the usage line: its first spelling, in brackets because it may be left out. -/
def usagePart (s : Switch) : String := "[" ++ withPlaceholder s (s.spellings.headD []) ++ "]"

/-- The parts of the usage line in lines of the given width. `used` is what the current line holds already, and `indent` is
where a further line begins. -/
def usageLines (width indent : Nat) : List String → Nat → List String → List (List String)
  | line, _, [] => if line.isEmpty then [] else [line]
  | line, used, part :: rest =>
    if width < used + 1 + part.length && !line.isEmpty then
      line :: usageLines width indent [part] (indent - 1 + part.length + 1) rest
    else usageLines width indent (line ++ [part]) (used + part.length + 1) rest

/-- What the usage line begins with. -/
def usageMark : String := "usage: "

/-- The usage line, broken where it is too long for the terminal. -/
def usage (columns : Nat) : String :=
  let width := columns - 2
  let parts := Switch.all.map usagePart
  let whole := usageMark ++ program ++ " " ++ String.intercalate " " parts
  if whole.length ≤ width then whole ++ "\n"
  else if 4 * (usageMark.length + program.length) ≤ 3 * width then
    let indent := usageMark.length + program.length + 1
    let lines := (usageLines width indent [] (usageMark.length - 1) (program :: parts)).map (String.intercalate " ")
    usageMark ++ String.intercalate ("\n" ++ blanks indent) lines ++ "\n"
  else
    let indent := usageMark.length
    let lines := (usageLines width indent [] (indent - 1) parts).map (String.intercalate " ")
    usageMark ++ String.intercalate ("\n" ++ blanks indent) (program :: lines) ++ "\n"

/-- A switch in the list of switches: all its spellings. -/
def heading (s : Switch) : String := String.intercalate ", " (s.spellings.map (withPlaceholder s))

/-- Where the column begins that says what the switches do. -/
def summaryColumn (columns : Nat) : Nat :=
  let longest := ((Switch.all.map fun s => (heading s).length).foldl max 0) + 2
  min (longest + 2) (min 24 (max (columns - 2 - 20) 4))

/-- A switch with what it does. -/
def entry (columns : Nat) (s : Switch) : String :=
  let column := summaryColumn columns
  let lines := Text.wrap (max (columns - 2 - column) 11) s.summary
  let summary := String.intercalate ("\n" ++ blanks column) lines ++ "\n"
  let room := column - 4
  if (heading s).length ≤ room then
    "  " ++ heading s ++ blanks (room - (heading s).length) ++ "  " ++ summary
  else "  " ++ heading s ++ "\n" ++ blanks column ++ summary

/-- The help text for a terminal of the given width. -/
def text (columns : Nat) : String :=
  usage columns ++ "\n" ++
    String.intercalate "\n" (Text.wrap (max (columns - 2) 11) purpose) ++ "\n\noptions:\n" ++
    String.join (Switch.all.map (entry columns))

end Help

end AccelProbe
