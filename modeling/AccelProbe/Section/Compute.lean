import AccelProbe.Backend.Basic
import AccelProbe.Report.Compute

/-!
# The compute section

To allocate a tensor proves only that memory can be had. This section multiplies a random matrix with its transpose on the
device, copies the product back, and reports its shape and statistics. The report is put together first and written then, so
that a failure before leaves no line of it. Without an accelerator the section says that it was skipped.
-/

namespace AccelProbe

namespace Section.Compute

open Program

/-- The name of the section's logger. -/
def loggerName : String := "src.domain.use_cases.check_compute"

/-- The number of rows and columns when none is given. -/
def standardSize : Value := .int 1000

/-- The line of a section that was skipped. -/
def skippedLine (accelerator : String) : String := accelerator ++ " compute check skipped: no device available"

/-- The record of the multiplication. -/
def multiplicationRecord (accelerator : String) (size : Value) : Except Value.Fault LogRecord :=
  size.toText.map fun text =>
    ⟨loggerName, Level.info, "Multiplying a " ++ text ++ "x" ++ text ++ " matrix on " ++ accelerator ++ "..."⟩

/-- The record of a multiplication that failed. -/
def failureRecord (accelerator : String) (e : Failure) : Except Value.Fault LogRecord :=
  e.message.map fun text => ⟨loggerName, Level.error, accelerator ++ " compute check failed: " ++ text⟩

/-- Multiplies a new matrix with its transpose. The result is the product on the host and its statistics. -/
def multiply {Call : Type} (b : Backend Call) (shape index : Value) : Program Call (Value × Value) := do
  let fresh ← b.perform (.randomTensor shape)
  let matrix ← b.perform (.toAccelerator fresh index)
  let product ← b.perform (.matmulTransposed matrix)
  let copy ← b.perform (.toHost product)
  let statistics ← b.perform (.statistics copy)
  return (copy, statistics)

/-- The section. It has no report where it was skipped. -/
def run {Call : Type} (b : Backend Call) (size index : Value) : Program Call (Option ComputeReport) := do
  let available ← b.perform .isAvailable
  if available.isTruthy then
    let shape := Value.tuple [size, size]
    let record ← ofValue (multiplicationRecord b.accelerator size)
    note record
    let (product, statistics) ← reporting (failureRecord b.accelerator) (multiply b shape index)
    let sizes ← ofValue product.shape
    let report : ComputeReport :=
      { accelerator := .str b.accelerator, deviceIndex := index, inputShape := shape, resultShape := .tuple sizes, statistics }
    let lines ← ofValue report.lines
    printAll (lines.map .str)
    return some report
  else
    print (.str (skippedLine b.accelerator))
    return none

end Section.Compute

end AccelProbe
