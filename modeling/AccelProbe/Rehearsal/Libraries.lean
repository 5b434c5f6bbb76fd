import AccelProbe.Backend.Loading
import AccelProbe.Rehearsal.TensorFlow
import AccelProbe.Rehearsal.Torch

/-!
# Rehearsed libraries

Both libraries, each with a script of its own. What happened to one of them does not matter to the other.
-/

namespace AccelProbe

namespace Rehearsal.Libraries

/-- The part of a history that belongs to Torch. -/
def torchPart (h : History LibraryCall) : History TorchCall :=
  h.filterMap fun
    | .called (.torch c) reply => some (.called c reply)
    | _ => none

/-- The part of a history that belongs to TensorFlow. -/
def tensorflowPart (h : History LibraryCall) : History TensorFlowCall :=
  h.filterMap fun
    | .called (.tensorflow c) reply => some (.called c reply)
    | _ => none

/-- The answer to a call by the script of its library. -/
def answer (torch tensorflow : Script) (h : History LibraryCall) : LibraryCall → Reply
  | .torch c => Rehearsal.Torch.answer torch (torchPart h) c
  | .tensorflow c => Rehearsal.TensorFlow.answer tensorflow (tensorflowPart h) c

end Rehearsal.Libraries

end AccelProbe
