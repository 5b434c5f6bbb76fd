import AccelProbe.Backend.Basic

/-!
# The backend of Torch

Every question goes to Torch as it is: nothing is remembered and no failure is caught. Tensors move by their own operations.

One thing is assumed of Torch: a tensor has its text with it. To print it is no call, so it cannot fail (`Backend.printed`).
-/

namespace AccelProbe

/-- A call to Torch. -/
inductive TorchCall where
  /-- Torch is loaded, with the least level of TensorFlow's own messages as the environment has it then. The answer is the
  version. -/
  | load (minLogLevel : Option String)
  /-- Whether an accelerator can be used. -/
  | isAvailable
  /-- The number of devices. -/
  | deviceCount
  /-- The name of a device. -/
  | deviceName (index : Int)
  /-- A new random tensor with these sizes. -/
  | rand (sizes : List Value)
  /-- A tensor moved to a device. -/
  | cuda (tensor index : Value)
  /-- A matrix turned around. -/
  | transpose (tensor : Value)
  /-- The product of two matrices. -/
  | matmul (left right : Value)
  /-- A tensor moved to the host. -/
  | cpu (tensor : Value)
  /-- The mean of the elements. -/
  | mean (tensor : Value)
  /-- The greatest element. -/
  | max (tensor : Value)
  /-- The least element. -/
  | min (tensor : Value)
  /-- Whether cuDNN can be used. -/
  | hasCudnn
  /-- Whether Torch was built with CUDA. -/
  | builtWithCuda
  /-- Whether MKL can be used. -/
  | hasMkl
  /-- Whether MPS can be used. -/
  | hasMps

namespace Torch

open Program

/-- The display name of the library. -/
def displayName : String := "Torch"

/-- The display name of its accelerator. -/
def acceleratorName : String := "CUDA"

/-- A tensor, for an operation of this name that only tensors have. -/
def tensorFor (operation : String) (v : Value) : Program TorchCall Value :=
  match v with
  | .tensor .. => done v
  | v => fail (.value (.noAttribute v.kind operation))

/-- The names of the devices from `index` on, `count` of them. -/
def namesFrom (index : Int) : Nat → Program TorchCall (List Value)
  | 0 => done []
  | count + 1 => do
    let name ← ask (.deviceName index)
    let names ← namesFrom (index + 1) count
    return name :: names

/-- How Torch is asked a question; `version` is the version it gave when it was loaded. -/
def perform (version : Value) : Query → Program TorchCall Value
  | .version => do
    let text ← ofValue version.toText
    return .str text
  | .isAvailable => ask .isAvailable
  | .deviceCount => ask .deviceCount
  | .randomTensor shape => do
    let sizes ← ofValue shape.items
    ask (.rand sizes)
  | .toAccelerator tensor index => do
    let tensor ← tensorFor "cuda" tensor
    ask (.cuda tensor index)
  | .matmulTransposed tensor => do
    let tensor ← tensorFor "T" tensor
    let turned ← ask (.transpose tensor)
    ask (.matmul tensor turned)
  | .toHost tensor => do
    let tensor ← tensorFor "cpu" tensor
    ask (.cpu tensor)
  | .statistics tensor => do
    let tensor ← tensorFor "mean" tensor
    let mean ← ask (.mean tensor)
    let greatest ← ask (.max tensor)
    let least ← ask (.min tensor)
    return .dictionary [("Mean", mean), ("Max", greatest), ("Min", least)]
  | .formatTensor tensor => ofValue (Backend.printed tensor)
  | .buildInfo => do
    let cudnn ← ask .hasCudnn
    let cuda ← ask .builtWithCuda
    let mkl ← ask .hasMkl
    let mps ← ask .hasMps
    return .dictionary [("cuDNN Available", cudnn), ("Built With CUDA", cuda), ("Built With MKL", mkl), ("MPS Available", mps)]
  | .deviceNames => do
    let count ← ask .deviceCount
    let count ← ofValue count.toInteger
    let names ← namesFrom 0 count.toNat
    return .list names

/-- The backend of Torch, loaded with this version. -/
def backend (version : Value) : Backend TorchCall where
  name := displayName
  accelerator := acceleratorName
  perform := perform version

end Torch

end AccelProbe
