import AccelProbe.CommandLine.Help
import AccelProbe.CommandLine.Word
import AccelProbe.Value.Basic

/-!
# Reading a command line

The words of a command line are read from left to right. A switch takes effect as soon as it is read, so a later one overrides an
earlier one, and the switch for the help text ends the reading. Words that belong to no switch are refused at the end.
-/

namespace AccelProbe

/-- What a command line asks for. -/
structure Arguments where
  /-- The configuration document, if one is named. -/
  config : Value := .null
  /-- The tensor library, if one is chosen. -/
  backend : Value := .null
  /-- Whether the environment report is asked for. -/
  environment : Value := .bool false
  /-- Whether the compute check is asked for. -/
  compute : Value := .bool false
deriving Inhabited

namespace Arguments

/-- Why no arguments came of a command line. -/
inductive Stop where
  /-- The help text was asked for. -/
  | helpAsked
  /-- The command line is wrong. -/
  | wrong (fault : UsageFault)
deriving DecidableEq, Repr

/-- The arguments by name. -/
def fields (a : Arguments) : List (String × Value) :=
  [("config", a.config), ("backend", a.backend), ("environment", a.environment), ("compute", a.compute)]

/-- Switches joined in one word: `s` with `attached` behind it. The result is the switches that take no argument, in order, and
the last switch with what is attached to it. `isShort` tells whether `s` was spelled short: others cannot be joined. -/
def joined (s : Switch) (isShort : Bool) : List Char →
    Except UsageFault (List Switch × Switch × Option (List Char))
  | [] => if s.takesArgument then .ok ([], s, some []) else .error (.ignoredArgument s [])
  | c :: rest =>
    if s.takesArgument then .ok ([], s, some (c :: rest))
    else if !isShort then .error (.ignoredArgument s (c :: rest))
    else
      match Switch.ofSpelling? ['-', c] with
      | none => .error (.ignoredArgument s (c :: rest))
      | some next =>
        if rest.isEmpty then .ok ([s], next, none)
        else (joined next true rest).map fun (flags, last, attached) => (s :: flags, last, attached)

/-- The switches of one word: those without argument, and the last one with what is attached to it. -/
def switchesOf (s : Switch) (spelling : List Char) :
    Option (List Char) → Except UsageFault (List Switch × Switch × Option (List Char))
  | none => .ok ([], s, none)
  | some attached => joined s (spelling.length == 2) attached

/-- The effect of a switch without argument. -/
def flag (a : Arguments) : Switch → Except Stop Arguments
  | .help => .error .helpAsked
  | .environment => .ok { a with environment := .bool true }
  | .compute => .ok { a with compute := .bool true }
  | _ => .ok a

/-- The effect of several switches without argument, one after the other. -/
def flags (a : Arguments) (switches : List Switch) : Except Stop Arguments := switches.foldlM flag a

/-- The value that an argument gives: its text. The argument of two hyphens is taken away and leaves an empty list. -/
def argumentValue (cs : List Char) : Value := if cs = ['-', '-'] then .list [] else .str (String.ofList cs)

/-- Whether a switch allows an argument. -/
def allows (s : Switch) (cs : List Char) : Bool :=
  cs == ['-', '-'] ||
    match s.choices? with
    | some choices => choices.contains (String.ofList cs)
    | none => true

/-- The effect of a switch with its argument. -/
def argument (a : Arguments) (s : Switch) (cs : List Char) : Except Stop Arguments :=
  if allows s cs then
    match s with
    | .config => .ok { a with config := argumentValue cs }
    | .backend => .ok { a with backend := argumentValue cs }
    | _ => .ok a
  else .error (.wrong (.invalidChoice s cs))

/-- Reads the words that are left. `extras` are the words so far that belong to no switch. -/
def read (a : Arguments) (extras : List (List Char)) : List (List Char × Word) → Except Stop Arguments
  | [] => if extras.isEmpty then .ok a else .error (.wrong (.unrecognized extras))
  | (cs, .separator) :: rest => read a (extras ++ [cs]) rest
  | (cs, .operand) :: rest => read a (extras ++ [cs]) rest
  | (cs, .unknown) :: rest => read a (extras ++ [cs]) rest
  | (_, .switch s spelling attached) :: rest =>
    match switchesOf s spelling attached with
    | .error fault => .error (.wrong fault)
    | .ok (before, last, attached) =>
      if last.takesArgument then
        match attached, rest with
        | some text, rest => do
          let a ← flags a before
          let a ← argument a last text
          read a extras rest
        | none, (text, .operand) :: rest => do
          let a ← flags a before
          let a ← argument a last text
          read a extras rest
        | none, _ => .error (.wrong (.expectedArgument last))
      else do
        let a ← flags a (before ++ [last])
        read a extras rest

/-- Reads a command line. -/
def ofWords (words : List (List Char)) : Except Stop Arguments :=
  match Word.classify words with
  | .error fault => .error (.wrong fault)
  | .ok classified => read {} [] classified

/-- Reads a command line. -/
def ofTexts (texts : List String) : Except Stop Arguments := ofWords (texts.map String.toList)

/-- How a program ends that stops before its work is done. -/
structure Exit where
  /-- The exit code. -/
  code : Nat
  /-- What was written to standard output. -/
  output : String
  /-- What was written to standard error. -/
  errors : String
deriving DecidableEq, Repr

/-- How the program ends when the command line gives no arguments: with the help text, or with the usage line and what is wrong.
-/
def Stop.exit (columns : Nat) : Stop → Exit
  | helpAsked => ⟨0, Help.text columns, ""⟩
  | wrong fault =>
    ⟨2, "", Help.usage columns ++ Help.program ++ ": error: " ++ fault.message ++ "\n"⟩

end Arguments

end AccelProbe
