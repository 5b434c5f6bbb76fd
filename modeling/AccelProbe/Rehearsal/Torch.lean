import AccelProbe.Backend.Torch
import AccelProbe.Rehearsal.Script

/-!
# A rehearsed Torch

Usually Torch is there and sees no device; a tensor that is moved to one all the same lies there.
-/

namespace AccelProbe

namespace Rehearsal.Torch

/-- The name of a call in a script. -/
def callName : TorchCall → String
  | .load _ => "import"
  | .isAvailable => "cuda.is_available"
  | .deviceCount => "cuda.device_count"
  | .deviceName _ => "cuda.get_device_name"
  | .rand _ => "rand"
  | .cuda .. => "Tensor.cuda"
  | .transpose _ => "Tensor.T"
  | .matmul .. => "Tensor.matmul"
  | .cpu _ => "Tensor.cpu"
  | .mean _ => "Tensor.mean"
  | .max _ => "Tensor.max"
  | .min _ => "Tensor.min"
  | .hasCudnn => "backends.cudnn.is_available"
  | .builtWithCuda => "backends.cuda.is_built"
  | .hasMkl => "backends.mkl.is_available"
  | .hasMps => "backends.mps.is_available"

/-- What a call is made with. -/
def callArguments : TorchCall → List Value
  | .load level => [level.elim .null .str]
  | .deviceName index => [.int index]
  | .rand sizes => sizes
  | .cuda t index => [t, index]
  | .transpose t => [t]
  | .matmul left right => [left, right]
  | .cpu t => [t]
  | .mean t => [t]
  | .max t => [t]
  | .min t => [t]
  | _ => []

/-- The version of the rehearsed Torch. -/
def standardVersion : Value := .str "2.4.0"

/-- The usual answer to a call. -/
def usual (_ : History TorchCall) : TorchCall → Reply
  | .load _ => .ok standardVersion
  | .isAvailable => .ok (.bool false)
  | .deviceCount => .ok (.int 0)
  | .deviceName index => .ok (.str ("CUDA GPU " ++ intText index))
  | .rand sizes => tensor sizes (.str "cpu")
  | .cuda t index => do
    let index ← ofValue index.toText
    moved t (.str ("cuda:" ++ index))
  | .transpose t => do
    let sizes ← ofValue t.shape
    let place ← ofValue t.heldBy
    tensor sizes.reverse place
  | .matmul left right => do
    let rows ← ofValue left.shape
    let columns ← ofValue right.shape
    let place ← ofValue left.heldBy
    tensor (rows.take 1 ++ columns.drop 1) place
  | .cpu t => moved t (.str "cpu")
  | .mean _ => .ok mean
  | .max _ => .ok greatest
  | .min _ => .ok least
  | _ => .ok (.bool false)

/-- The name under which a script gives the version. -/
def versionName : String := "__version__"

/-- The answer to a call by a script. A library that could be loaded gives its version. -/
def answer (s : Script) (h : History TorchCall) (c : TorchCall) : Reply :=
  match c with
  | .load _ =>
    (Rehearsal.answer s callName usual h c).bind fun _ => ((s.outcome? versionName 0).getD (.answers standardVersion)).reply
  | c => Rehearsal.answer s callName usual h c

end Rehearsal.Torch

end AccelProbe
