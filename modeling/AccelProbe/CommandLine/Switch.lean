import AccelProbe.Library

/-!
# The switches of the command line

Five switches, each with a long spelling and most with a short one. Two of them take an argument.
-/

namespace AccelProbe

/-- A switch of the command line. -/
inductive Switch where
  /-- Asks for the help text. -/
  | help
  /-- Names a configuration document. -/
  | config
  /-- Chooses a tensor library. -/
  | backend
  /-- Asks for the environment report. -/
  | environment
  /-- Asks for the compute check. -/
  | compute
deriving DecidableEq, Repr

namespace Switch

/-- All switches, in the order in which the help text lists them. -/
def all : List Switch := [.help, .config, .backend, .environment, .compute]

/-- The spellings of a switch. -/
def spellings : Switch → List (List Char)
  | help => [['-', 'h'], ['-', '-', 'h', 'e', 'l', 'p']]
  | config => [['-', 'c'], ['-', '-', 'c', 'o', 'n', 'f', 'i', 'g']]
  | backend => [['-', 'b'], ['-', '-', 'b', 'a', 'c', 'k', 'e', 'n', 'd']]
  | environment => [['-', 'e'], ['-', '-', 'e', 'n', 'v', 'i', 'r', 'o', 'n', 'm', 'e', 'n', 't']]
  | compute => [['-', '-', 'c', 'o', 'm', 'p', 'u', 't', 'e']]

/-- Every spelling with its switch. -/
def table : List (List Char × Switch) := all.flatMap fun s => s.spellings.map (·, s)

/-- The switch of an exact spelling. -/
def ofSpelling? (cs : List Char) : Option Switch := table.lookup cs

/-- Whether a switch takes an argument. -/
def takesArgument : Switch → Bool
  | config => true
  | backend => true
  | _ => false

/-- The arguments that a switch allows, where it does not allow all. -/
def choices? : Switch → Option (List String)
  | backend => some Library.keys
  | _ => none

/-- What stands for the argument of a switch in the help text. -/
def placeholder? : Switch → Option String
  | config => some "CONFIG"
  | backend => some ("\x7b" ++ String.intercalate "," Library.keys ++ "\x7d")
  | _ => none

/-- What the help text says of a switch. -/
def summary : Switch → String
  | help => "show this help message and exit"
  | config => "Path to a TOML configuration file with a [diagnostic] table"
  | backend => "Tensor library to check (default: torch)"
  | environment => "Also print environment variables, build capabilities and device names"
  | compute => "Also multiply a matrix on the GPU and copy the product back to check kernels run"

/-- The name of a switch in messages: its spellings with a slash between them. -/
def label (s : Switch) : String := String.intercalate "/" (s.spellings.map String.ofList)

end Switch

end AccelProbe
