import AccelProbe.Configuration.Basic

/-!
# Validation of a configuration

`validate` gives the configuration as far as it was brought to its normal form, and the first fault if there is one. The order
of the checks is the order of the fields, except that the size of the matrix is looked at before the two flags.
-/

namespace AccelProbe

namespace Configuration

/-- The library that a value names, in any letter case. -/
def backend? : Value → Option Library
  | .str s => Library.named? s
  | _ => none

/-- The sizes in a list or a tuple. -/
def sizes? : Value → Option (List Value)
  | .list vs => some vs
  | .tuple vs => some vs
  | _ => none

/-- Whether a value is an integer of at least `least`. A truth value is none. -/
def isIntegerFrom (least : Int) : Value → Bool
  | .int n => decide (least ≤ n)
  | _ => false

/-- Whether a value is a truth value. -/
def isFlag : Value → Bool
  | .bool _ => true
  | _ => false

/-- The log level that a value names, in any letter case. -/
def logLevel? : Value → Option String
  | .str s => if Level.choices.contains (Text.upper s) then some (Text.upper s) else none
  | _ => none

/-- The first fault among the fields between the shape and the log level. -/
def numberFault? (c : Configuration) : Option Fault :=
  if !isIntegerFrom 0 c.deviceIndex then some (.badDeviceIndex c.deviceIndex)
  else if !isIntegerFrom 1 c.computeSize then some (.badComputeSize c.computeSize)
  else if !isFlag c.reportEnvironment then some (.badFlag "report_environment" c.reportEnvironment)
  else if !isFlag c.checkCompute then some (.badFlag "check_compute" c.checkCompute)
  else none

/-- The first fault of the sizes of a shape. -/
def shapeFault? (sizes : List Value) : Option Fault :=
  if sizes.isEmpty then some .shapeEmpty
  else if !sizes.all (isIntegerFrom 1) then some (.badDimension sizes)
  else none

/-- The checks from the sizes on: the log level is brought to its normal form when all of them pass. -/
def validateRest (c : Configuration) (sizes : List Value) : Configuration × Option Fault :=
  match shapeFault? sizes with
  | some fault => (c, some fault)
  | none =>
    match numberFault? c with
    | some fault => (c, some fault)
    | none =>
      match logLevel? c.logLevel with
      | some level => ({ c with logLevel := .str level }, none)
      | none => (c, some (.unknownLogLevel c.logLevel))

/-- A configuration with its library, shape and log level in normal form, up to the first fault. -/
def validate (c : Configuration) : Configuration × Option Fault :=
  match backend? c.backend with
  | none => (c, some (.unknownBackend c.backend))
  | some library =>
    let c := { c with backend := .str library.key }
    match sizes? c.shape with
    | none => (c, some (.shapeNotAList c.shape))
    | some sizes => validateRest { c with shape := .tuple sizes } sizes

/-- Why no configuration could be made of named arguments. -/
inductive Refusal where
  /-- The arguments do not fit the fields. -/
  | arguments (fault : Signature.Fault)
  /-- A field cannot be used. -/
  | field (fault : Fault)

/-- The wording of a refusal. -/
def Refusal.message : Refusal → Except Value.Fault String
  | arguments fault => .ok fault.message
  | field fault => fault.message

/-- The validated configuration of named arguments. -/
def make (given : Fields) : Except Refusal Configuration :=
  match signature.check given with
  | .error fault => .error (.arguments fault)
  | .ok () =>
    match (ofFields given).validate with
    | (c, none) => .ok c
    | (_, some fault) => .error (.field fault)

end Configuration

end AccelProbe
