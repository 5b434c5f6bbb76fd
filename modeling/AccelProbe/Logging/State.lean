import AccelProbe.Logging.Tree
import AccelProbe.Text.LetterCase
import AccelProbe.Text.Quoted
import AccelProbe.Value.Basic

/-!
# Logging

A record goes through a named logger. It is shown when its level reaches the level of that logger. Only the logger that a record
goes through looks at its level: no logger above it does. The handler of the root shows every record that gets there; as long as
there is no handler, warnings and graver records are shown bare.
-/

namespace AccelProbe

/-- A record for the log. -/
structure LogRecord where
  /-- The name of the logger that it goes through. -/
  logger : String
  /-- Its level. -/
  level : Int
  /-- What it says. -/
  message : String
deriving DecidableEq, Repr

/-- The state of all loggers. -/
structure Logging where
  /-- The level of the root. -/
  rootLevel : Int := Level.warning
  /-- The number of the root's handlers. -/
  handlers : Nat := 0
  /-- The other loggers. -/
  loggers : LoggerTree := {}
deriving DecidableEq, Repr, Inhabited

namespace Logging

/-- The name of a logger as records show it. The empty name means the root, too. -/
def loggerName (name : String) : String := if name.isEmpty then LoggerTree.rootName else name

/-- The level that a logger other than the root has of its own; zero where it has none. -/
def ownLevel (l : Logging) (name : String) : Int := l.loggers.level name

/-- A record goes through its logger: the loggers afterwards, and whether the record passes. -/
def judge (l : Logging) (r : LogRecord) : Logging × Bool :=
  if loggerName r.logger = LoggerTree.rootName then (l, decide (0 < r.level ∧ l.rootLevel ≤ r.level))
  else
    let (loggers, passed) := l.loggers.judge l.rootLevel r.logger r.level
    ({ l with loggers }, passed)

/-- The line of a record as a handler shows it. -/
def handlerLine (r : LogRecord) : String :=
  loggerName r.logger ++ " - " ++ Level.label r.level ++ " - " ++ r.message ++ "\n"

/-- What is shown of a record that passed its logger. -/
def shown (l : Logging) (r : LogRecord) : String :=
  if l.handlers = 0 then (if Level.warning ≤ r.level then r.message ++ "\n" else "")
  else String.join (List.replicate l.handlers (handlerLine r))

/-- Logs a record: the loggers afterwards, and what is shown. -/
def log (l : Logging) (r : LogRecord) : Logging × String :=
  let (l, passed) := l.judge r
  (l, if passed then l.shown r else "")

/-- Logs several records, one after the other. -/
def logAll (l : Logging) : List LogRecord → Logging × String
  | [] => (l, "")
  | r :: rest =>
    let (l, text) := l.log r
    let (l, others) := l.logAll rest
    (l, text ++ others)

/-- Loggers with another level for one of them. -/
def setLevel (l : Logging) (name : String) (level : Int) : Logging := { l with loggers := l.loggers.setLevel name level }

/-- Setting the level of a logger changes the level of no other one. -/
theorem ownLevel_setLevel (l : Logging) (name other : String) (level : Int) :
    (l.setLevel name level).ownLevel other = if other = name then level else l.ownLevel other :=
  l.loggers.level_setLevel name other level

/-- Why the loggers could not be set up. -/
inductive Fault where
  /-- A value of this kind names no level. -/
  | notAName (kind : String)
  /-- Nothing has this name. -/
  | unknownName (name : String)
  /-- The name stands for a text that is no level. -/
  | notALevel (text : String)
  /-- The name stands for something that is neither a number nor a text. -/
  | neitherNumberNorText
deriving DecidableEq, Repr

/-- The wording of a fault. -/
def Fault.message : Fault → String
  | notAName kind => "'" ++ kind ++ "' object has no attribute 'upper'"
  | unknownName name => "module 'logging' has no attribute '" ++ name ++ "'"
  | notALevel text => "Unknown level: " ++ Text.quote text
  | neitherNumberNorText => "Level not an integer or a valid string"

/-- What a name in upper case stands for where a level is expected. -/
inductive Meaning where
  /-- A level. -/
  | level (n : Int)
  /-- A text. -/
  | text (s : String)
  /-- Something else. -/
  | other
deriving DecidableEq, Repr

/-- The texts among the names in upper case: the standard form of a record. -/
def standardForm : String × String := ("BASIC_FORMAT", "%(levelname)s:%(name)s:%(message)s")

/-- The name in upper case of a table that is neither number nor text. -/
def tableName : String := "_STYLES"

/-- What a name in upper case stands for. -/
def meaning? (name : String) : Option Meaning :=
  match Level.named? name with
  | some n => some (.level n)
  | none =>
    if name = standardForm.1 then some (.text standardForm.2)
    else if name = tableName then some .other
    else none

/-- Gives the root its handler and then its level, where it has no handler yet. -/
def attach (l : Logging) (m : Meaning) : Logging × Option Fault :=
  if l.handlers ≠ 0 then (l, none)
  else
    let l := { l with handlers := 1 }
    match m with
    | .level n => ({ l with rootLevel := n, loggers := l.loggers.forget }, none)
    | .text s => (l, some (.notALevel s))
    | .other => (l, some .neitherNumberNorText)

/-- Sets up the root for records from the level of a name on, in any letter case. The name is looked up before anything changes.
-/
def setUp (l : Logging) (level : Value) : Logging × Option Fault :=
  match level with
  | .str s =>
    match meaning? (Text.upper s) with
    | some m => l.attach m
    | none => (l, some (.unknownName (Text.upper s)))
  | v => (l, some (.notAName v.kind))

/-- The level of a set-up that is told none. -/
def standardLevel : Value := .str "INFO"

/-- The loggers of TensorFlow. -/
def tensorflowLoggers : List String := ["tensorflow", "absl"]

/-- Lets only errors through the loggers of TensorFlow. -/
def quieten (l : Logging) : Logging := tensorflowLoggers.foldl (fun l name => l.setLevel name Level.error) l

end Logging

end AccelProbe
