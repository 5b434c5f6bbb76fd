import AccelProbe.CommandLine.Switch
import AccelProbe.Text.DecimalDigit
import AccelProbe.Text.Quoted

/-!
# The words of a command line

Each word of a command line is looked at on its own before the line is read: it is a switch, perhaps with an argument attached
to it, or it is an operand. A long switch may be cut short as long as one switch only begins that way; an argument is attached
to it behind an equals sign. Short switches that take no argument may be joined behind one hyphen, and what follows a short
switch in the same word is attached to it. The word of two hyphens makes operands of all words after it.
-/

namespace AccelProbe

/-- What is wrong with a command line. -/
inductive UsageFault where
  /-- Several long switches begin like this word. -/
  | ambiguous (word : List Char) (spellings : List (List Char))
  /-- A switch that takes an argument is followed by none. -/
  | expectedArgument (s : Switch)
  /-- An argument is attached to a switch that takes none. -/
  | ignoredArgument (s : Switch) (argument : List Char)
  /-- The argument is none of those that the switch allows. -/
  | invalidChoice (s : Switch) (argument : List Char)
  /-- These words belong to no switch. -/
  | unrecognized (words : List (List Char))
deriving DecidableEq, Repr

/-- The wording of a fault. -/
def UsageFault.message : UsageFault → String
  | ambiguous word spellings =>
    "ambiguous option: " ++ String.ofList word ++ " could match " ++ String.intercalate ", " (spellings.map String.ofList)
  | expectedArgument s => "argument " ++ s.label ++ ": expected one argument"
  | ignoredArgument s argument =>
    "argument " ++ s.label ++ ": ignored explicit argument " ++ Text.quote (String.ofList argument)
  | invalidChoice s argument =>
    "argument " ++ s.label ++ ": invalid choice: " ++ Text.quote (String.ofList argument) ++ " (choose from " ++
      String.intercalate ", " ((s.choices?.getD []).map Text.quote) ++ ")"
  | unrecognized words => "unrecognized arguments: " ++ String.intercalate " " (words.map String.ofList)

/-- What a word is. -/
inductive Word where
  /-- The first word of two hyphens. -/
  | separator
  /-- A word that is no switch. -/
  | operand
  /-- A switch in one of its spellings, with the argument attached to it. -/
  | switch (s : Switch) (spelling : List Char) (attached : Option (List Char))
  /-- A word that looks like a switch but is none. -/
  | unknown
deriving DecidableEq, Repr

namespace Word

/-- A word up to its first equals sign, and what stands behind the sign if there is one. -/
def splitEquals (cs : List Char) : List Char × Option (List Char) :=
  match cs.dropWhile (· != '=') with
  | [] => (cs, none)
  | _ :: rest => (cs.takeWhile (· != '='), some rest)

/-- Whether a word is a negative number: digits, or a point with digits behind it, after a hyphen. A line break may end it. -/
def isNegativeNumber : List Char → Bool
  | '-' :: cs =>
    let cs := if cs.getLast? = some '\n' then cs.dropLast else cs
    match cs.dropWhile Text.isDecimalDigit with
    | [] => !cs.isEmpty
    | '.' :: fraction => !fraction.isEmpty && fraction.all Text.isDecimalDigit
    | _ => false
  | _ => false

/-- The switches that a word may stand for when it is no exact spelling: long switches that begin like it up to its equals sign,
and the short switch that it begins with. -/
def candidates : List Char → List (Switch × List Char × Option (List Char))
  | '-' :: '-' :: cs =>
    let (head, attached) := splitEquals ('-' :: '-' :: cs)
    (Switch.table.filter fun entry => head.isPrefixOf entry.1).map fun entry => (entry.2, entry.1, attached)
  | '-' :: c :: rest =>
    (Switch.table.filter fun entry => entry.1 == ['-', c] || ('-' :: c :: rest).isPrefixOf entry.1).map fun entry =>
      (entry.2, entry.1, if entry.1 = ['-', c] then some rest else none)
  | _ => []

/-- What a word is that begins like a switch and is no exact spelling. -/
def ofInexact (cs : List Char) : Except UsageFault Word :=
  match candidates cs with
  | [(s, spelling, attached)] => .ok (.switch s spelling attached)
  | [] => .ok (if isNegativeNumber cs || cs.contains ' ' then .operand else .unknown)
  | several => .error (.ambiguous cs (several.map fun c => c.2.1))

/-- What a word is, apart from the word of two hyphens. -/
def ofText (cs : List Char) : Except UsageFault Word :=
  if cs.head? ≠ some '-' ∨ cs = ['-'] then .ok .operand
  else
    match Switch.ofSpelling? cs with
    | some s => .ok (.switch s cs none)
    | none =>
      match splitEquals cs with
      | (head, some argument) =>
        match Switch.ofSpelling? head with
        | some s => .ok (.switch s head (some argument))
        | none => ofInexact cs
      | (_, none) => ofInexact cs

/-- Every word of a command line with what it is. -/
def classify : List (List Char) → Except UsageFault (List (List Char × Word))
  | [] => .ok []
  | cs :: rest =>
    if cs = ['-', '-'] then .ok ((cs, .separator) :: rest.map (·, .operand))
    else do
      let word ← ofText cs
      let words ← classify rest
      return (cs, word) :: words

end Word

end AccelProbe
