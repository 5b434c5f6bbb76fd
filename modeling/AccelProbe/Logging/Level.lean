import AccelProbe.Decimal.Digits

/-!
# Levels of log records

A level is a number; the higher it is, the graver the record. Five levels have names that a configuration may choose; further
names stand for some of the same numbers, and one for the number zero, below all others.
-/

namespace AccelProbe

namespace Level

/-- The level zero, which lets everything through. -/
def unset : Int := 0

/-- Details for tracing a run. -/
def debug : Int := 10

/-- What a run does. -/
def info : Int := 20

/-- What may be wrong. -/
def warning : Int := 30

/-- What went wrong. -/
def error : Int := 40

/-- What ends a run. -/
def critical : Int := 50

/-- The levels that a configuration may choose, by name. -/
def choices : List String := ["DEBUG", "INFO", "WARNING", "ERROR", "CRITICAL"]

/-- The level of a name; several names may stand for one level. -/
def named? (name : String) : Option Int :=
  [("DEBUG", debug), ("INFO", info), ("WARNING", warning), ("ERROR", error), ("CRITICAL", critical), ("NOTSET", unset),
    ("WARN", warning), ("FATAL", critical)].lookup name

/-- The name of a level as records show it. -/
def label (level : Int) : String :=
  if level = critical then "CRITICAL"
  else if level = error then "ERROR"
  else if level = warning then "WARNING"
  else if level = info then "INFO"
  else if level = debug then "DEBUG"
  else if level = unset then "NOTSET"
  else "Level " ++ intText level

end Level

end AccelProbe
