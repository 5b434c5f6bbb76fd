import AccelProbe.Report.Flag
import AccelProbe.Signature
import AccelProbe.Value.Access

/-!
# The environment report

The environment variables that decide which devices a library finds, the capabilities the library was built with, and the names of
the devices it sees. Variables and capabilities have a heading each; the devices have one where there are any.
-/

namespace AccelProbe

/-- The environment of a run as a library sees it. -/
structure EnvironmentReport where
  /-- The variables with their values; a variable that is not set has none. -/
  settings : Value := .dictionary []
  /-- The capabilities of the library, each present or not. -/
  buildInfo : Value := .dictionary []
  /-- The names of the devices, by index. -/
  deviceNames : Value := .list []
deriving Inhabited

namespace EnvironmentReport

/-- The fields of the report and their defaults. -/
def signature : Signature where
  title := "EnvironmentReport"
  parameters := [("variables", some (.dictionary [])), ("build_info", some (.dictionary [])), ("device_names", some (.list []))]

/-- A report from named arguments. -/
def ofFields (given : Fields) : Except Signature.Fault EnvironmentReport :=
  let value := signature.value given
  (signature.check given).map fun _ =>
    { settings := value "variables", buildInfo := value "build_info", deviceNames := value "device_names" }

/-- The fields of a report by name. -/
def fields (r : EnvironmentReport) : Fields :=
  [("variables", r.settings), ("build_info", r.buildInfo), ("device_names", r.deviceNames)]

/-- The heading of the variables. -/
def variablesHeading : String := "=== Environment ==="

/-- The heading of the capabilities. -/
def capabilitiesHeading : String := "=== Build ==="

/-- The heading of the devices. -/
def devicesHeading : String := "=== Devices ==="

/-- What stands for the value of a variable that is not set. -/
def unsetText : String := "<unset>"

/-- The line of a variable. -/
def variableLine (entry : String × Value) : Except Value.Fault String := do
  let text ← if entry.2.isNull then .ok unsetText else entry.2.toText
  return entry.1 ++ ": " ++ text

/-- The line of a capability. -/
def capabilityLine (entry : String × Value) : String := entry.1 ++ ": " ++ flagText entry.2

/-- The line of a device. -/
def deviceLine (name : Value) (index : Nat) : Except Value.Fault String := do
  let text ← name.toText
  return "Device " ++ natText index ++ ": " ++ text

/-- The lines of the devices, with their heading, where there are any. -/
def deviceLines (names : Value) : Except Value.Fault (List String) :=
  if names.isTruthy then do
    let items ← names.items
    let lines ← items.zipIdx.mapM fun (name, index) => deviceLine name index
    return devicesHeading :: lines
  else .ok []

/-- The lines of the report, in the order in which they are printed. -/
def lines (r : EnvironmentReport) : Except Value.Fault (List String) := do
  let settings ← r.settings.entries
  let settings ← settings.mapM variableLine
  let capabilities ← r.buildInfo.entries
  let devices ← deviceLines r.deviceNames
  return variablesHeading :: settings ++ capabilitiesHeading :: capabilities.map capabilityLine ++ devices

end EnvironmentReport

end AccelProbe
