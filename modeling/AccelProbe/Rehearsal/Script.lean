import AccelProbe.Program
import AccelProbe.Rehearsal.Raising

/-!
# Scripts

A rehearsal runs the diagnostic without any tensor library. What the library would answer stands in a script: for the name of
each call a list of outcomes, taken one after the other, of which the last is repeated for ever. A call of which the script says
nothing has the usual outcome.
-/

namespace AccelProbe

namespace Rehearsal

/-- The outcome of a call. -/
inductive Outcome where
  /-- The call answers with a value. -/
  | answers (v : Value)
  /-- The call raises a failure. -/
  | raises (r : Raised)

/-- An outcome as the answer to a call. -/
def Outcome.reply : Outcome → Reply
  | answers v => .ok v
  | raises r => .error (.raised r)

/-- The outcomes of calls by name. -/
abbrev Script := List (String × List Outcome)

/-- The outcome of the call number `n`, from zero, under a name. -/
def Script.outcome? (s : Script) (name : String) (n : Nat) : Option Outcome :=
  match s.lookup name with
  | some outcomes =>
    match outcomes[n]? with
    | some outcome => some outcome
    | none => outcomes.getLast?
  | none => none

/-- How often a call under a name was made. -/
def timesCalled {Call : Type} (nameOf : Call → String) (name : String) (h : History Call) : Nat :=
  (h.calls.filter (nameOf · == name)).length

/-- The answer to a call by a script, or else the usual one. -/
def answer {Call : Type} (s : Script) (nameOf : Call → String) (usual : History Call → Call → Reply) (h : History Call)
    (c : Call) : Reply :=
  match s.outcome? (nameOf c) (timesCalled nameOf (nameOf c) h) with
  | some outcome => outcome.reply
  | none => usual h c

/-- What is worked out of a value, as part of an answer. -/
def ofValue {α : Type} (x : Except Value.Fault α) : Except Failure α := x.mapError .value

/-- The text of a tensor that stands in for a real one: its sizes and its device. -/
def tensorText (sizes : List Value) (device : Value) : Except Value.Fault String := do
  let shape ← Value.toDimensions sizes
  let place ← device.toText
  return "Tensor[" ++ shape ++ "]@" ++ place

/-- A tensor that stands in for a real one. -/
def tensor (sizes : List Value) (device : Value) : Reply := do
  let text ← ofValue (tensorText sizes device)
  return .tensor sizes device text

/-- The failure of an operation that needs a first dimension, for a tensor that has none. -/
def noDimension : Failure := .raised ⟨"IndexError", .ordinary, [.str "tuple index out of range"]⟩

/-- The first of some sizes. -/
def first (sizes : List Value) : Except Failure Value :=
  match sizes with
  | n :: _ => .ok n
  | [] => .error noDimension

/-- A tensor of the same sizes on another device. -/
def moved (v device : Value) : Reply := do
  let sizes ← ofValue v.shape
  tensor sizes device

/-- The statistics of a tensor that stands in for a real one: its mean, its greatest and its least element. -/
def mean : Value := .float (.ofRatio false 1 2)

@[inherit_doc mean]
def greatest : Value := .float (.ofRatio false 1 1)

@[inherit_doc mean]
def least : Value := .float (.ofRatio false 0 1)

end Rehearsal

end AccelProbe
