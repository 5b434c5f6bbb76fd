import AccelProbe.Backend.Basic

/-!
# The backend of TensorFlow

TensorFlow makes a tensor on the device whose scope is open. Each operation that makes one therefore runs in a scope of its own,
which is left again whether the operation succeeds or fails. TensorFlow may quietly put a tensor elsewhere when a device is
missing, so where a moved tensor lies is checked before it is handed on.

Two things are assumed of TensorFlow. Its scopes pass a failure on: a scope that is left never takes the failure of what was run in
it away (`closing`). And a tensor has its text with it: to print it is no call, so it cannot fail (`Backend.printed`).
-/

namespace AccelProbe

/-- A call to TensorFlow. -/
inductive TensorFlowCall where
  /-- TensorFlow is loaded, with the least level of its own messages as the environment has it then. The answer is the version. -/
  | load (minLogLevel : Option String)
  /-- The list of the GPU devices. -/
  | listDevices
  /-- The details of a device. -/
  | deviceDetails (device : Value)
  /-- Whether TensorFlow was built with CUDA. -/
  | builtWithCuda
  /-- Whether TensorFlow was built for GPUs. -/
  | builtWithGpuSupport
  /-- The scope of a device is entered. -/
  | enter (device : Value)
  /-- The scope of a device is left. -/
  | exit (device : Value)
  /-- A new random tensor of this shape. -/
  | uniform (shape : Value)
  /-- A copy of a tensor. -/
  | identity (tensor : Value)
  /-- The product of a matrix and the transpose of another. -/
  | matmul (left right : Value)
  /-- The mean of the elements. -/
  | mean (tensor : Value)
  /-- The greatest element. -/
  | max (tensor : Value)
  /-- The least element. -/
  | min (tensor : Value)
  /-- The type and the index in the name of a device. -/
  | parseDevice (device : Value)

namespace TensorFlow

open Program

/-- The display name of the library. -/
def displayName : String := "TensorFlow"

/-- The display name of its accelerator. -/
def acceleratorName : String := "GPU"

/-- The scopes that are open after a history, the innermost first. -/
def openScopes (h : History TensorFlowCall) : List Value :=
  h.foldl (fun scopes e =>
    match e with
    | .called (.enter device) (.ok _) => device :: scopes
    | .called (.exit _) _ => scopes.drop 1
    | _ => scopes) []

/-- A program, and another one after it that is run whether the first succeeds or fails. A failure of the second stands for
both; its answer is not looked at. For the scope of a device that is how TensorFlow has it: when such a scope is left, the answer
never asks for the failure in it to be dropped. -/
def closing {α : Type} (last : Program TensorFlowCall Value) : Program TensorFlowCall α → Program TensorFlowCall α
  | done a => last.bind fun _ => done a
  | fail e => last.bind fun _ => fail e
  | call c next => call c fun reply => closing last (next reply)
  | write line next => write line fun taken => closing last (next taken)
  | log r next => log r (closing last next)

/-- A program in the scope of a device. When the scope cannot be entered, nothing is run and nothing is left. -/
def within {α : Type} (device : Value) (body : Program TensorFlowCall α) : Program TensorFlowCall α :=
  (ask (.enter device)).bind fun _ => closing (ask (.exit device)) body

/-- The scope of the host. -/
def hostScope : Value := .str "/CPU:0"

/-- The scope of the device with an index. -/
def deviceScope (index : Value) : Except Value.Fault Value := index.toText.map fun text => .str ("/GPU:" ++ text)

/-- The type of a GPU in a device specification. -/
def deviceType : Value := .str "GPU"

/-- Whether a device specification is that of the GPU with an index. The index is looked at only where the type is right. -/
def isAt (index specification : Value) : Except Value.Fault Bool := do
  let type ← specification.deviceType
  if type.same deviceType then
    let found ← specification.deviceIndex
    return found.same index
  else return false

/-- What a message says of the place where a tensor lies. -/
def placeText (place : Value) : Except Value.Fault String :=
  if place.isTruthy then place.toText else .ok "an unknown device"

/-- The failure of a tensor that lies elsewhere than on the GPU with an index. -/
def misplaced (place index : Value) : Program TensorFlowCall Value := do
  let found ← ofValue (placeText place)
  let wanted ← ofValue index.toText
  fail (.misplaced found wanted)

/-- A tensor as it is handed on, if it lies on the GPU with an index. -/
def placed (index tensor : Value) : Program TensorFlowCall Value := do
  let place ← ofValue tensor.heldBy
  let specification ← ask (.parseDevice place)
  let right ← ofValue (isAt index specification)
  if right then done tensor else misplaced place index

/-- A statistic as a double. -/
def statistic (c : TensorFlowCall) : Program TensorFlowCall Value := do
  let v ← ask c
  let x ← ofValue v.toDouble
  return .float x

/-- The names of devices: what their details call them, or else their own names. -/
def namesOf : List Value → Program TensorFlowCall (List Value)
  | [] => done []
  | device :: rest => do
    let details ← ask (.deviceDetails device)
    let name ← ofValue (details.detail "device_name" device.deviceName)
    let names ← namesOf rest
    return name :: names

/-- The number of the GPU devices. -/
def countDevices : Program TensorFlowCall Nat := do
  let devices ← ask .listDevices
  ofValue devices.length

/-- How TensorFlow is asked a question; `version` is the version it gave when it was loaded. -/
def perform (version : Value) : Query → Program TensorFlowCall Value
  | .version => done version
  | .isAvailable => do
    let count ← countDevices
    return .bool (decide (0 < count))
  | .deviceCount => do
    let count ← countDevices
    return .int count
  | .randomTensor shape => within hostScope (ask (.uniform shape))
  | .toAccelerator tensor index => do
    let scope ← ofValue (deviceScope index)
    let copy ← within scope (ask (.identity tensor))
    placed index copy
  | .matmulTransposed tensor => do
    let place ← ofValue tensor.heldBy
    within place (ask (.matmul tensor tensor))
  | .toHost tensor => within hostScope (ask (.identity tensor))
  | .statistics tensor => do
    let mean ← statistic (.mean tensor)
    let greatest ← statistic (.max tensor)
    let least ← statistic (.min tensor)
    return .dictionary [("Mean", mean), ("Max", greatest), ("Min", least)]
  | .formatTensor tensor => ofValue (Backend.printed tensor)
  | .buildInfo => do
    let cuda ← ask .builtWithCuda
    let gpu ← ask .builtWithGpuSupport
    return .dictionary [("Built With CUDA", cuda), ("Built With GPU Support", gpu)]
  | .deviceNames => do
    let devices ← ask .listDevices
    let devices ← ofValue devices.items
    let names ← namesOf devices
    return .list names

/-- The backend of TensorFlow, loaded with this version. -/
def backend (version : Value) : Backend TensorFlowCall where
  name := displayName
  accelerator := acceleratorName
  perform := perform version

end TensorFlow

end AccelProbe
