import AccelProbe.Signature
import AccelProbe.Value.Access

/-!
# The compute report

The result of multiplying a matrix on a device: the shapes of the matrix and of the product, and the statistics of the product
with four places each.
-/

namespace AccelProbe

/-- The result of a compute check. -/
structure ComputeReport where
  /-- The display name of the accelerator. -/
  accelerator : Value
  /-- The index of the device that multiplied. -/
  deviceIndex : Value
  /-- The shape of the matrix. -/
  inputShape : Value
  /-- The shape of the product, as copied back. -/
  resultShape : Value
  /-- The statistics of the product by name. -/
  statistics : Value := .dictionary []
deriving Inhabited

namespace ComputeReport

/-- The fields of the report and their defaults. -/
def signature : Signature where
  title := "ComputeReport"
  parameters := [("accelerator", none), ("device_index", none), ("input_shape", none), ("result_shape", none),
    ("statistics", some (.dictionary []))]

/-- A report from named arguments. -/
def ofFields (given : Fields) : Except Signature.Fault ComputeReport :=
  let value := signature.value given
  (signature.check given).map fun _ =>
    { accelerator := value "accelerator"
      deviceIndex := value "device_index"
      inputShape := value "input_shape"
      resultShape := value "result_shape"
      statistics := value "statistics" }

/-- The fields of a report by name. -/
def fields (r : ComputeReport) : Fields :=
  [("accelerator", r.accelerator), ("device_index", r.deviceIndex), ("input_shape", r.inputShape),
    ("result_shape", r.resultShape), ("statistics", r.statistics)]

/-- The number of places of a statistic. -/
def places : Nat := 4

/-- The heading of the report. -/
def heading : String := "=== Compute Check ==="

/-- The line of the multiplication. -/
def multiplicationLine (sizes : List Value) (accelerator deviceIndex : Value) : Except Value.Fault String := do
  let shape ← Value.toDimensions sizes
  let accelerator ← accelerator.toText
  let index ← deviceIndex.toText
  return "Matrix Multiplication: " ++ shape ++ " on " ++ accelerator ++ " device " ++ index

/-- The line of the product's shape. -/
def resultLine (sizes : List Value) : Except Value.Fault String :=
  (Value.toDimensions sizes).map ("Result Shape: " ++ ·)

/-- The line of a statistic. -/
def statisticLine (entry : String × Value) : Except Value.Fault String :=
  (entry.2.withPlaces places).map fun text => entry.1 ++ ": " ++ text

/-- The line that closes a check that passed. -/
def passedLine (accelerator : Value) : Except Value.Fault String := accelerator.toText.map (· ++ " compute check passed!")

/-- The lines of the report, in the order in which they are printed. -/
def lines (r : ComputeReport) : Except Value.Fault (List String) := do
  let input ← r.inputShape.items
  let multiplication ← multiplicationLine input r.accelerator r.deviceIndex
  let sizes ← r.resultShape.items
  let result ← resultLine sizes
  let entries ← r.statistics.entries
  let statistics ← entries.mapM statisticLine
  let passed ← passedLine r.accelerator
  return [heading, multiplication, result] ++ statistics ++ [passed]

end ComputeReport

end AccelProbe
