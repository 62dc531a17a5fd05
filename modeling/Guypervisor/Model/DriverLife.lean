import Guypervisor.Model.KernelMemory
import Guypervisor.Model.System

/-! # The driver from its load to its unload

`DriverEntry` runs first. If it fails, the image is unmapped and nothing else of the driver ever
runs. If it succeeds, the I/O manager calls dispatch routines, as often as it likes, and
`DriverUnload` in the end. Beside the system stands memory, which only the VMX code writes.
-/

namespace Guypervisor.Model

open Effects DriverCode

/-- A dispatch routine called for an IRP, on a stack with room for `depth` nested calls of the
error printer. -/
structure DispatchCall where
  depth : ℕ
  routine : DispatchRoutine
  irp : Irp
deriving DecidableEq, Repr

/-- What the call runs. -/
def DispatchCall.run (call : DispatchCall) : Code NTSTATUS := call.routine.call call.depth call.irp

/-- The calls, one after another. -/
def serve : List DispatchCall → DriverCode Unit
  | [] => pure ()
  | call :: later => do
    let _ ← code call.run
    serve later

/-- One life of the driver, with the dispatch routines that are called if it was loaded. -/
def driverLife (depth : ℕ) (calls : List DispatchCall) : DriverCode Unit := do
  let status ← driverEntry depth
  if ntSuccess status then
    serve calls
    Device.driverUnload

/-- A load of the driver, and the dispatch routines that are called if it succeeds. -/
structure Life where
  depth : ℕ
  calls : List DispatchCall
deriving DecidableEq, Repr

/-- The driver is loaded and unloaded again and again. -/
def driverLives : List Life → DriverCode Unit
  | [] => pure ()
  | life :: later => do
    driverLife life.depth life.calls
    driverLives later

/-- Nothing is written through a null pointer: such an access faults and is never answered. -/
def WritesNonnull : Op → Prop
  | .store32 address _ | .store64 address _ | .zeroMemory address _ => address ≠ 0
  | _ => True

/-- The system with the bytes of memory. -/
def System.withMemory (physical : Address → Address) :
    Environment driverInterface (System × Memory) where
  allows state op response :=
    System.environment.allows state.1 op response ∧
      match op, response with
      | .inl op, response => KernelMemory.Reads physical state.2 op response ∧ WritesNonnull op
      | .inr _, _ => True
  next state op response :=
    (System.environment.next state.1 op response,
      match op with
      | .inl op => KernelMemory.nextMemory state.2 op
      | .inr _ => state.2)

end Guypervisor.Model
