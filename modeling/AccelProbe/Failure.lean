import AccelProbe.Library
import AccelProbe.Value.Writing

/-!
# Failures of a run

A run fails because a tensor library or the sink of its lines raises a failure, because a value of the wrong kind arrives,
because a tensor does not lie where it should, or because no library has the given name. What a library raises is passed on as
it is. Interrupts are failures that are meant to stop the program; no part of a run treats them as an error of its own.

A raised failure says what its arguments say, unless its kind words it in another way: a failure of the operating system is worded
by its number and the file, and a library may have kinds with a wording of their own. Such a wording is kept beside the arguments. It
may be one that cannot be written.
-/

namespace AccelProbe

/-- A wording of a failure that is not made of its arguments, or why it cannot be written. -/
abbrev OwnWording := Option (Except Value.Fault String)

/-- How a raised failure is treated, and how its kind words it. -/
inductive Nature where
  /-- An error like any other. -/
  | ordinary (wording : OwnWording := none)
  /-- A key was not found: the key alone is the message, and is shown by its source text. -/
  | missingKey
  /-- A request to stop the program. -/
  | interrupt (wording : OwnWording := none)

/-- The wording that a kind of failure has of its own. -/
def Nature.wording? : Nature → OwnWording
  | ordinary wording => wording
  | missingKey => none
  | interrupt wording => wording

/-- A failure as a library raises it. -/
structure Raised where
  /-- The name of its kind. -/
  label : String
  /-- How it is treated. -/
  nature : Nature
  /-- What it was raised with. -/
  arguments : List Value

namespace Raised

/-- The wording that is made of the arguments of a failure: of the only one, or of all of them where there are several. -/
def argumentsText (r : Raised) : Except Value.Fault String :=
  match r.arguments with
  | [] => .ok ""
  | [v] =>
    match r.nature with
    | .missingKey => v.toSource
    | _ => v.toText
  | vs => (Value.tuple vs).toSource

/-- The wording of a raised failure: the one that its kind has of its own, or else that of its arguments. -/
def message (r : Raised) : Except Value.Fault String := r.nature.wording?.getD r.argumentsText

/-- Whether a raised failure is a request to stop the program. -/
def isInterrupt (r : Raised) : Bool :=
  match r.nature with
  | .interrupt _ => true
  | _ => false

end Raised

/-- A failure of a run. -/
inductive Failure where
  /-- A library or the sink raised it. -/
  | raised (r : Raised)
  /-- A value could not be used as it was needed. -/
  | value (fault : Value.Fault)
  /-- A tensor was moved to the device of this index and lies elsewhere. -/
  | misplaced (place index : String)
  /-- No library has this name. -/
  | unknownLibrary (name : String)

namespace Failure

/-- The wording of a failure, where it can be written. -/
def message : Failure → Except Value.Fault String
  | raised r => r.message
  | value fault => .ok fault.message
  | misplaced place index => .ok ("Tensor was placed on " ++ place ++ " instead of GPU:" ++ index)
  | unknownLibrary name =>
    .ok ("Backend " ++ name ++ " not found. Available: " ++ (Value.list (Library.keys.map .str)).source)

/-- Whether a failure is a request to stop the program. -/
def isInterrupt : Failure → Bool
  | raised r => r.isInterrupt
  | _ => false

end Failure

end AccelProbe
