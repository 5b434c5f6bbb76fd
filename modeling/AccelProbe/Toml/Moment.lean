import AccelProbe.Toml.Basic
import AccelProbe.Value.Basic

/-!
# Dates and times of a document

A date, a time of day, or a date and a time with a letter or a blank between them and perhaps the distance from universal time.
Of the fraction of a second the first six digits count. A date that the calendar does not have is refused.
-/

namespace AccelProbe

namespace Toml

/-- A number of two digits between two bounds, both included. -/
def twoDigits? (low high : Nat) : List Char → Option (Nat × List Char)
  | a :: b :: rest =>
    if a.isDigit && b.isDigit then
      let n := Digits.toNat 10 [a, b]
      if low ≤ n ∧ n ≤ high then some (n, rest) else none
    else none
  | _ => none

/-- The characters behind a mark. -/
def behind? (mark : Char) : List Char → Option (List Char)
  | c :: rest => if c = mark then some rest else none
  | [] => none

/-- A year of four digits. -/
def year? : List Char → Option (Nat × List Char)
  | a :: b :: c :: d :: rest =>
    if [a, b, c, d].all Char.isDigit then some (Digits.toNat 10 [a, b, c, d], rest) else none
  | _ => none

/-- The microseconds of a fraction's digits. -/
def microseconds (ds : List Char) : Nat := Digits.toNat 10 ((ds ++ List.replicate 6 '0').take 6)

/-- The fraction of a second behind a point; without one there are no microseconds. -/
def fractionOfSecond (cs : List Char) : Nat × List Char :=
  match cs with
  | '.' :: rest =>
    let ds := rest.takeWhile Char.isDigit
    if ds.isEmpty then (0, cs) else (microseconds ds, rest.dropWhile Char.isDigit)
  | cs => (0, cs)

/-- A time of day. -/
def timeOfDay? (cs : List Char) : Option (TimeOfDay × List Char) := do
  let (hour, cs) ← twoDigits? 0 23 cs
  let cs ← behind? ':' cs
  let (minute, cs) ← twoDigits? 0 59 cs
  let cs ← behind? ':' cs
  let (second, cs) ← twoDigits? 0 59 cs
  let (microsecond, cs) := fractionOfSecond cs
  return (⟨hour, minute, second, microsecond⟩, cs)

/-- Hours and minutes as a number of minutes. -/
def minutes? (cs : List Char) : Option (Nat × List Char) := do
  let (hour, cs) ← twoDigits? 0 23 cs
  let cs ← behind? ':' cs
  let (minute, cs) ← twoDigits? 0 59 cs
  return (60 * hour + minute, cs)

/-- The distance from universal time in minutes, if one is given. -/
def offset (cs : List Char) : Option Int × List Char :=
  match cs with
  | 'Z' :: rest => (some 0, rest)
  | 'z' :: rest => (some 0, rest)
  | '+' :: rest =>
    match minutes? rest with
    | some (n, left) => (some n, left)
    | none => (none, cs)
  | '-' :: rest =>
    match minutes? rest with
    | some (n, left) => (some (-(n : Int)), left)
    | none => (none, cs)
  | cs => (none, cs)

/-- A date. -/
def date? (cs : List Char) : Option (Date × List Char) := do
  let (year, cs) ← year? cs
  let cs ← behind? '-' cs
  let (month, cs) ← twoDigits? 1 12 cs
  let cs ← behind? '-' cs
  let (day, cs) ← twoDigits? 1 31 cs
  return (⟨year, month, day⟩, cs)

/-- Whether a character may stand between a date and a time of day. -/
def isDateTimeMark (c : Char) : Bool := c == 'T' || c == 't' || c == ' '

/-- A time of day behind a date and the mark between them. -/
def timeBehind? : List Char → Option (TimeOfDay × List Char)
  | c :: rest => if isDateTimeMark c then timeOfDay? rest else none
  | [] => none

/-- A date or a time, if one begins here. -/
def moment? (cs : List Char) : Option (Reading Value) :=
  match date? cs with
  | some (date, rest) =>
    if !date.exists? then some (.error .malformed)
    else
      match timeBehind? rest with
      | some (time, rest) =>
        let (distance, rest) := offset rest
        some (.ok (.datetime date time distance, rest))
      | none => some (.ok (.date date, rest))
  | none => (timeOfDay? cs).map fun (time, rest) => .ok (.time time, rest)

/-- The steps that a moment takes: two more where its distance from universal time is given in digits and not by a letter. -/
def momentSteps (cs : List Char) : Nat :=
  match moment? cs with
  | some (.ok (.datetime _ _ (some _), rest)) => if (cs.take (cs.length - rest.length)).getLast?.any Char.isDigit then 5 else 3
  | _ => 3

end Toml

end AccelProbe
