import AccelProbe.Program

/-!
# Backends

A backend puts the questions of the diagnostic to a tensor library. There are eleven questions; a backend answers each by a
program of calls to its library. One of them, how a tensor prints, has an answer that serves every library: its display text.
-/

namespace AccelProbe

/-- A question to a tensor library. -/
inductive Query where
  /-- Which version the library has. -/
  | version
  /-- Whether an accelerator can be used. -/
  | isAvailable
  /-- How many devices the library sees. -/
  | deviceCount
  /-- A new tensor of random numbers with this shape, on the host. -/
  | randomTensor (shape : Value)
  /-- A tensor moved to the device with this index. -/
  | toAccelerator (tensor index : Value)
  /-- The product of a matrix and its transpose, on the device that holds it. -/
  | matmulTransposed (tensor : Value)
  /-- A tensor moved to the host. -/
  | toHost (tensor : Value)
  /-- The statistics of a tensor's elements. -/
  | statistics (tensor : Value)
  /-- What a tensor prints as. -/
  | formatTensor (tensor : Value)
  /-- The capabilities the library was built with. -/
  | buildInfo
  /-- The names of the devices. -/
  | deviceNames

namespace Query

/-- The name of a question. -/
def name : Query → String
  | version => "version"
  | isAvailable => "is_available"
  | deviceCount => "device_count"
  | randomTensor _ => "random_tensor"
  | toAccelerator .. => "to_accelerator"
  | matmulTransposed _ => "matmul_transposed"
  | toHost _ => "to_host"
  | statistics _ => "statistics"
  | formatTensor _ => "format_tensor"
  | buildInfo => "build_info"
  | deviceNames => "device_names"

/-- What a question is asked of. -/
def arguments : Query → List Value
  | randomTensor shape => [shape]
  | toAccelerator tensor index => [tensor, index]
  | matmulTransposed tensor => [tensor]
  | toHost tensor => [tensor]
  | statistics tensor => [tensor]
  | formatTensor tensor => [tensor]
  | _ => []

/-- The index of the device that a tensor is moved to when none is given. -/
def standardIndex : Value := .int 0

/-- The question of a name with its arguments, if there is one that takes them. -/
def ofName? (name : String) (args : List Value) : Option Query :=
  match name, args with
  | "version", [] => some version
  | "is_available", [] => some isAvailable
  | "device_count", [] => some deviceCount
  | "random_tensor", [shape] => some (randomTensor shape)
  | "to_accelerator", [tensor] => some (toAccelerator tensor standardIndex)
  | "to_accelerator", [tensor, index] => some (toAccelerator tensor index)
  | "matmul_transposed", [tensor] => some (matmulTransposed tensor)
  | "to_host", [tensor] => some (toHost tensor)
  | "statistics", [tensor] => some (statistics tensor)
  | "format_tensor", [tensor] => some (formatTensor tensor)
  | "build_info", [] => some buildInfo
  | "device_names", [] => some deviceNames
  | _, _ => none

/-- The names of the questions that every backend has to answer for itself, in alphabetical order. -/
def required : List String :=
  ["build_info", "device_count", "device_names", "is_available", "matmul_transposed", "random_tensor", "statistics",
    "to_accelerator", "to_host", "version"]

/-- The name of the question that has an answer for every library. -/
def optional : String := "format_tensor"

end Query

/-- A tensor library as the diagnostic uses it. -/
structure Backend (Call : Type) where
  /-- The display name of the library. -/
  name : String := "Tensor"
  /-- The display name of its accelerator. -/
  accelerator : String := "GPU"
  /-- How the library is asked a question. -/
  perform : Query → Program Call Value

namespace Backend

/-- The same backend with the calls to its library under other names. -/
def rename {Call Call' : Type} (f : Call → Call') (b : Backend Call) : Backend Call' where
  name := b.name
  accelerator := b.accelerator
  perform := fun q => (b.perform q).rename f

/-- The backend whose library answers the questions themselves. -/
def direct (name accelerator : String) : Backend Query where
  name := name
  accelerator := accelerator
  perform := Program.ask

/-- What a tensor prints as, where the library has nothing of its own to say. A tensor has its text with it, so the libraries are assumed
never to fail over it. A backend that answers the question itself may still fail. -/
def printed (tensor : Value) : Except Value.Fault Value := tensor.toText.map .str

end Backend

end AccelProbe
