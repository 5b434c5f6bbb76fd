import AccelProbe.Backend.Basic
import AccelProbe.Environment
import AccelProbe.Report.Environment

/-!
# The environment section

The report is put together first and written then, so that a failure before leaves no line of it. The names of the devices are
asked for only where an accelerator can be used.
-/

namespace AccelProbe

namespace Section.Environment

open Program

/-- The name of the section's logger. -/
def loggerName : String := "src.domain.use_cases.report_environment"

/-- The record of the number of named devices. -/
def countRecord (accelerator : String) (count : Nat) : LogRecord :=
  ⟨loggerName, Level.debug, "Found " ++ natText count ++ " named " ++ accelerator ++ " device(s)"⟩

/-- The reported variables with their values. -/
def settings (env : AccelProbe.Environment) : Value :=
  .dictionary (Environment.reported.map fun name => (name, (env.value? name).elim .null .str))

/-- The names of the devices, where an accelerator can be used. -/
def deviceNames {Call : Type} (b : Backend Call) : Program Call Value := do
  let available ← b.perform .isAvailable
  if available.isTruthy then b.perform .deviceNames else return .list []

/-- The section. -/
def run {Call : Type} (b : Backend Call) (env : AccelProbe.Environment) : Program Call EnvironmentReport := do
  let buildInfo ← b.perform .buildInfo
  let names ← deviceNames b
  let count ← ofValue names.length
  note (countRecord b.accelerator count)
  let report : EnvironmentReport := { settings := settings env, buildInfo, deviceNames := names }
  let lines ← ofValue report.lines
  printAll (lines.map .str)
  return report

end Section.Environment

end AccelProbe
