import AccelProbe.Backend.Basic
import AccelProbe.Report.Diagnostic

/-!
# The diagnostic section

The version, the availability and the number of devices are asked one after the other, and the line of each is written as soon
as it is known, so that a library that fails leaves the lines before on the screen. Where an accelerator can be used, a random
tensor is moved to the device, and only then confirmed and printed. A failure of that allocation is logged; every failure leaves
the section as it is.
-/

namespace AccelProbe

namespace Section.Diagnostic

open Program

/-- The name of the section's logger. -/
def loggerName : String := "src.domain.use_cases.run_diagnostic"

/-- The shape of the tensor when none is given. -/
def standardShape : Value := .tuple [.int 2, .int 3]

/-- The record of the section's beginning. -/
def startRecord (library : String) : LogRecord :=
  ⟨loggerName, Level.debug, "Running diagnostic with the " ++ library ++ " backend"⟩

/-- The record that there is nothing to allocate a tensor on. -/
def skippedRecord (accelerator : String) : LogRecord :=
  ⟨loggerName, Level.info, "No " ++ accelerator ++ " device available, skipping allocation."⟩

/-- The record of the allocation. -/
def allocationRecord (accelerator : String) (sizes : List Value) (index : Value) : Except Value.Fault LogRecord := do
  let shape ← Value.toDimensions sizes
  let index ← index.toText
  return ⟨loggerName, Level.info, "Allocating a " ++ shape ++ " tensor on " ++ accelerator ++ " device " ++ index ++ "..."⟩

/-- The record of an allocation that failed. -/
def failureRecord (accelerator : String) (e : Failure) : Except Value.Fault LogRecord :=
  e.message.map fun text => ⟨loggerName, Level.error, accelerator ++ " tensor allocation failed: " ++ text⟩

/-- Moves a new tensor to the device. The result is the tensor and what it prints as. -/
def allocate {Call : Type} (b : Backend Call) (sizes : List Value) (index : Value) : Program Call (Value × Value) := do
  let fresh ← b.perform (.randomTensor (.tuple sizes))
  let tensor ← b.perform (.toAccelerator fresh index)
  let text ← b.perform (.formatTensor tensor)
  return (tensor, text)

/-- The section for a tensor of these sizes. -/
def runWith {Call : Type} (b : Backend Call) (sizes : List Value) (index : Value) : Program Call DiagnosticReport := do
  note (startRecord b.name)
  let version ← b.perform .version
  let report : DiagnosticReport :=
    { library := .str b.name, accelerator := .str b.accelerator, version, available := .bool false, deviceCount := .int 0 }
  let line ← ofValue report.versionLine
  print (.str line)
  let available ← b.perform .isAvailable
  let report := { report with available }
  let line ← ofValue report.availabilityLine
  print (.str line)
  let deviceCount ← b.perform .deviceCount
  let report := { report with deviceCount }
  let line ← ofValue report.deviceCountLine
  print (.str line)
  if available.isTruthy then
    let record ← ofValue (allocationRecord b.accelerator sizes index)
    note record
    let (tensor, tensorText) ← reporting (failureRecord b.accelerator) (allocate b sizes index)
    let report := { report with tensor, tensorText }
    let line ← ofValue report.confirmationLine
    print (.str line)
    print tensorText
    return report
  else
    note (skippedRecord b.accelerator)
    return report

/-- The section. The shape is taken apart first; a shape without items lets nothing else happen. -/
def run {Call : Type} (b : Backend Call) (shape index : Value) : Program Call DiagnosticReport := do
  let sizes ← ofValue shape.items
  runWith b sizes index

end Section.Diagnostic

end AccelProbe
