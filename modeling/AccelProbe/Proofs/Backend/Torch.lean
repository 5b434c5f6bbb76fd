import AccelProbe.Backend.Torch
import AccelProbe.Proofs.Program.Quiet

/-!
# What the backend of Torch does

Every question becomes calls to Torch and nothing else.
-/

namespace AccelProbe

namespace Torch

open Program

/-- A call is quiet, whatever is made of its answer quietly. -/
theorem quiet_ask (c : TorchCall) : (ask c).Quiet := every_ask fun _ => trivial

theorem quiet_tensorFor (operation : String) (v : Value) : (tensorFor operation v).Quiet := by
  cases v <;> exact trivial

theorem quiet_namesFrom (index : Int) (count : Nat) : (namesFrom index count).Quiet := by
  induction count generalizing index with
  | zero => exact trivial
  | succ count ih => exact (quiet_ask _).bind fun _ => (ih (index + 1)).bind fun _ => trivial

/-- Torch is asked every question by calls alone. -/
theorem quiet_perform (version : Value) (q : Query) : (perform version q).Quiet := by
  cases q with
  | version => exact (every_ofValue _).bind fun _ => trivial
  | isAvailable => exact quiet_ask _
  | deviceCount => exact quiet_ask _
  | randomTensor shape => exact (every_ofValue _).bind fun _ => quiet_ask _
  | toAccelerator tensor index => exact (quiet_tensorFor _ _).bind fun _ => quiet_ask _
  | matmulTransposed tensor => exact (quiet_tensorFor _ _).bind fun _ => (quiet_ask _).bind fun _ => quiet_ask _
  | toHost tensor => exact (quiet_tensorFor _ _).bind fun _ => quiet_ask _
  | statistics tensor =>
    exact (quiet_tensorFor _ _).bind fun _ => (quiet_ask _).bind fun _ => (quiet_ask _).bind fun _ =>
      (quiet_ask _).bind fun _ => trivial
  | formatTensor tensor => exact every_ofValue _
  | buildInfo =>
    exact (quiet_ask _).bind fun _ => (quiet_ask _).bind fun _ => (quiet_ask _).bind fun _ => (quiet_ask _).bind fun _ => trivial
  | deviceNames =>
    exact (quiet_ask _).bind fun _ => (every_ofValue _).bind fun _ => (quiet_namesFrom _ _).bind fun _ => trivial

end Torch

end AccelProbe
