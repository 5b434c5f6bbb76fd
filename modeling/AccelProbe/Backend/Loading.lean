import AccelProbe.Backend.TensorFlow
import AccelProbe.Backend.Torch
import AccelProbe.Host

/-!
# Loading a library

A library is loaded only when it is chosen, so the other one need not be there. TensorFlow's own messages are silenced before it
is loaded; for Torch nothing of the host changes.
-/

namespace AccelProbe

/-- A call to one of the libraries. -/
inductive LibraryCall where
  /-- A call to Torch. -/
  | torch (c : TorchCall)
  /-- A call to TensorFlow. -/
  | tensorflow (c : TensorFlowCall)

/-- The library of a call. -/
def LibraryCall.library : LibraryCall → Library
  | torch _ => .torch
  | tensorflow _ => .tensorflow

namespace Backend

open Program

/-- The name of the logger for the loading of libraries. -/
def loggerName : String := "src.infrastructure.backends"

/-- The library that a value names, in any letter case. -/
def library? : Value → Except Failure Library
  | .str s =>
    match Library.named? s with
    | some l => .ok l
    | none => .error (.unknownLibrary s)
  | v => .error (.value (.noAttribute v.kind "lower"))

/-- The host as it is when a library is loaded. -/
def prepare (h : Host) : Library → Host
  | .torch => h
  | .tensorflow => h.quieten

/-- The record of a library's loading. -/
def loadingRecord (l : Library) : LogRecord := ⟨loggerName, Level.debug, "Loading " ++ l.key ++ " backend"⟩

/-- Loads a library on a host that is prepared for it. -/
def load (h : Host) (l : Library) : Program LibraryCall (Backend LibraryCall) := do
  note (loadingRecord l)
  let level := h.environment.value? Environment.minLogLevel
  match l with
  | .torch =>
    let version ← ask (.torch (.load level))
    return (Torch.backend version).rename .torch
  | .tensorflow =>
    let version ← ask (.tensorflow (.load level))
    return (TensorFlow.backend version).rename .tensorflow

/-- The backend of the library that a value names: the host as it is afterwards, and the program that loads the library. A name of
no library changes nothing. -/
def create (name : Value) (h : Host) : Host × Program LibraryCall (Backend LibraryCall) :=
  match library? name with
  | .ok l => (prepare h l, load (prepare h l) l)
  | .error e => (h, fail e)

end Backend

end AccelProbe
