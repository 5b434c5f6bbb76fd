import AccelProbe.Library
import AccelProbe.Logging.Level
import AccelProbe.Signature

/-!
# The configuration of a run

Seven fields decide what a run does. They may come from a document or from a caller, so before they are validated they hold
values of any kind. Validation looks at them one after the other, brings the name of the library, the shape and the log level to
their normal form, and stops at the first field that cannot be used. What was brought to its normal form before that stays so.
-/

namespace AccelProbe

/-- The configuration of a run. -/
structure Configuration where
  /-- The name of the tensor library. -/
  backend : Value := .str "torch"
  /-- The shape of the tensor that is allocated. -/
  shape : Value := .tuple [.int 2, .int 3]
  /-- The index of the device. -/
  deviceIndex : Value := .int 0
  /-- Whether the environment is reported. -/
  reportEnvironment : Value := .bool false
  /-- Whether a matrix is multiplied. -/
  checkCompute : Value := .bool false
  /-- The number of rows and columns of that matrix. -/
  computeSize : Value := .int 1000
  /-- The least level of log records that are shown. -/
  logLevel : Value := .str "INFO"
deriving Inhabited

namespace Configuration

/-- The configuration of a run that nothing else is said of. -/
def standard : Configuration := {}

/-- The fields of a configuration by name. -/
def fields (c : Configuration) : Fields :=
  [("backend", c.backend), ("shape", c.shape), ("device_index", c.deviceIndex), ("report_environment", c.reportEnvironment),
    ("check_compute", c.checkCompute), ("compute_size", c.computeSize), ("log_level", c.logLevel)]

/-- The names of the fields and their defaults. -/
def signature : Signature where
  title := "DiagnosticConfiguration"
  parameters := standard.fields.map fun f => (f.1, some f.2)

/-- The configuration with the given fields and the defaults for the others, not yet validated. -/
def ofFields (given : Fields) : Configuration :=
  let value := signature.value given
  { backend := value "backend"
    shape := value "shape"
    deviceIndex := value "device_index"
    reportEnvironment := value "report_environment"
    checkCompute := value "check_compute"
    computeSize := value "compute_size"
    logLevel := value "log_level" }

/-- A configuration with a value in place of a field, unchecked. A name that is no field changes nothing. -/
def assign (c : Configuration) (name : String) (v : Value) : Configuration := ofFields (c.fields.replace [(name, v)])

/-- Why a field of a configuration cannot be used. -/
inductive Fault where
  /-- No library has this name. -/
  | unknownBackend (given : Value)
  /-- The shape is neither a list nor a tuple. -/
  | shapeNotAList (given : Value)
  /-- The shape has no dimension. -/
  | shapeEmpty
  /-- A dimension of the shape is not a positive integer. -/
  | badDimension (sizes : List Value)
  /-- The device index is not an integer from zero on. -/
  | badDeviceIndex (given : Value)
  /-- The size of the matrix is not a positive integer. -/
  | badComputeSize (given : Value)
  /-- The field of this name is not a truth value. -/
  | badFlag (name : String) (given : Value)
  /-- No log level has this name. -/
  | unknownLogLevel (given : Value)

/-- A choice of names as messages list it. -/
def choiceText (names : List String) : String := (Value.list (names.map .str)).source

/-- The wording of a fault. It shows the refused value, where that can be written. -/
def Fault.message : Fault → Except Value.Fault String
  | unknownBackend v => v.toSource.map fun text => "Unknown backend " ++ text ++ ". Available: " ++ choiceText Library.keys
  | shapeNotAList v => v.toSource.map ("Tensor shape must be a list of integers. Got: " ++ ·)
  | shapeEmpty => .ok "Tensor shape must have at least one dimension"
  | badDimension sizes => (Value.list sizes).toSource.map ("Tensor dimensions must be positive integers. Got: " ++ ·)
  | badDeviceIndex v => v.toSource.map ("Device index must be a non-negative integer. Got: " ++ ·)
  | badComputeSize v => v.toSource.map ("Compute size must be a positive integer. Got: " ++ ·)
  | badFlag name v => v.toSource.map (name ++ " must be true or false. Got: " ++ ·)
  | unknownLogLevel v => v.toSource.map fun text => "Unknown log level " ++ text ++ ". Available: " ++ choiceText Level.choices

end Configuration

end AccelProbe
