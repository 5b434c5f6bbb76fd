import AccelProbe.Report.Flag
import AccelProbe.Signature

/-!
# The diagnostic report

What a tensor library says of itself: its version, whether an accelerator can be used, and how many devices it sees; and the
tensor that was allocated on one of them, if one was. The first three lines always stand; the confirmation and the printed
tensor follow when there is a printed tensor. A line that shows a value can be made only where the value can be written.
-/

namespace AccelProbe

/-- The result of a diagnostic run. -/
structure DiagnosticReport where
  /-- The display name of the library. -/
  library : Value
  /-- The display name of the accelerator. -/
  accelerator : Value
  /-- The version of the library. -/
  version : Value
  /-- Whether an accelerator can be used. -/
  available : Value
  /-- The number of devices. -/
  deviceCount : Value
  /-- The allocated tensor, if there is one. -/
  tensor : Value := .null
  /-- What the allocated tensor prints as, if there is one. -/
  tensorText : Value := .null
deriving Inhabited

namespace DiagnosticReport

/-- The fields of the report and their defaults. -/
def signature : Signature where
  title := "DiagnosticReport"
  parameters := [("library", none), ("accelerator", none), ("version", none), ("available", none), ("device_count", none),
    ("tensor", some .null), ("tensor_text", some .null)]

/-- A report from named arguments. -/
def ofFields (given : Fields) : Except Signature.Fault DiagnosticReport :=
  let value := signature.value given
  (signature.check given).map fun _ =>
    { library := value "library"
      accelerator := value "accelerator"
      version := value "version"
      available := value "available"
      deviceCount := value "device_count"
      tensor := value "tensor"
      tensorText := value "tensor_text" }

/-- The fields of a report by name. -/
def fields (r : DiagnosticReport) : Fields :=
  [("library", r.library), ("accelerator", r.accelerator), ("version", r.version), ("available", r.available),
    ("device_count", r.deviceCount), ("tensor", r.tensor), ("tensor_text", r.tensorText)]

/-- The line that names the library and its version. -/
def versionLine (r : DiagnosticReport) : Except Value.Fault String := do
  let library ← r.library.toText
  let version ← r.version.toText
  return library ++ " Version: " ++ version

/-- The line that tells whether the accelerator can be used. -/
def availabilityLine (r : DiagnosticReport) : Except Value.Fault String := do
  let accelerator ← r.accelerator.toText
  return accelerator ++ " Available: " ++ flagText r.available

/-- The line with the number of devices. -/
def deviceCountLine (r : DiagnosticReport) : Except Value.Fault String := do
  let accelerator ← r.accelerator.toText
  let count ← r.deviceCount.toText
  return accelerator ++ " Device Count: " ++ count

/-- The line that says that a tensor was allocated. -/
def confirmationLine (r : DiagnosticReport) : Except Value.Fault String := do
  let accelerator ← r.accelerator.toText
  return "Created " ++ accelerator ++ " tensor successfully!"

/-- The lines of the report, in the order in which they are printed. The printed tensor stands as it is, of whatever kind. -/
def lines (r : DiagnosticReport) : Except Value.Fault (List Value) := do
  let version ← r.versionLine
  let availability ← r.availabilityLine
  let count ← r.deviceCountLine
  if r.tensorText.isNull then return [.str version, .str availability, .str count]
  else
    let confirmation ← r.confirmationLine
    return [.str version, .str availability, .str count, .str confirmation, r.tensorText]

end DiagnosticReport

end AccelProbe
