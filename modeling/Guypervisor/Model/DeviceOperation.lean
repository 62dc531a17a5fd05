import Guypervisor.Effects.Sum
import Guypervisor.Model.IrpHandlers

/-! # What loading and unloading ask of the I/O manager

Beside the operations of the VMX code, `DriverEntry` and the class `Device` call the I/O manager,
access the driver object and the members of the `Device` object, and change the flags register.
Code that needs none of this is run by `code`.
-/

namespace Guypervisor.Model

open Effects

/-- The members of `Device` that name an object. -/
inductive DeviceName
  | deviceName | dosDeviceName
deriving DecidableEq, Repr

/-- One effect of loading or unloading. -/
inductive DeviceOp
  | writeEflags (value : BitVec 64)
  | uninitializedBytes (count : ℕ)
  | loadGuypervisor | storeGuypervisor (device : Address)
  | loadName (device : Address) (member : DeviceName)
  | storeName (device : Address) (member : DeviceName) (name : String)
  | loadDeviceObject (device : Address) | storeDeviceObject (device object : Address)
  | ioCreateDevice (name : String) | ioDeleteDevice (object : Address)
  | ioCreateSymbolicLink (link target : String) | ioDeleteSymbolicLink (link : String)
  | setMajorFunction (majorFunction : ℕ) (routine : DispatchRoutine) | setDriverUnload
deriving DecidableEq, Repr

/-- What each operation answers; `IoCreateDevice` gives the device object beside its status. -/
abbrev DeviceOp.Response : DeviceOp → Type
  | .uninitializedBytes count => BitVec (8 * count)
  | .loadGuypervisor | .loadDeviceObject _ => Address
  | .loadName _ _ => String
  | .ioCreateDevice _ => NTSTATUS × Address
  | .ioCreateSymbolicLink _ _ | .ioDeleteSymbolicLink _ => NTSTATUS
  | _ => Unit

abbrev deviceInterface : PFunctor.{0, 0} := ⟨DeviceOp, DeviceOp.Response⟩

/-- The interface of the whole driver. -/
abbrev driverInterface : PFunctor.{0, 0} := Both interface deviceInterface

abbrev DriverCode (α : Type) := Program driverInterface α

namespace DriverCode

/-- Issue one operation and return its answer. -/
def ask (op : DeviceOp) : DriverCode op.Response :=
  @Program.perform driverInterface (Sum.inr op)

/-- Code that asks nothing of the I/O manager. -/
def code {α : Type} (program : Code α) : DriverCode α := program.inLeft

def writeEflags (value : BitVec 64) : DriverCode Unit := ask (.writeEflags value)
/-- What an array on the stack holds before anything is stored in it. -/
def uninitializedBytes (count : ℕ) : DriverCode (BitVec (8 * count)) :=
  ask (.uninitializedBytes count)
/-- The value of `kGuypervisor`. -/
def loadGuypervisor : DriverCode Address := ask .loadGuypervisor
def storeGuypervisor (device : Address) : DriverCode Unit := ask (.storeGuypervisor device)
def loadName (device : Address) (member : DeviceName) : DriverCode String :=
  ask (.loadName device member)
def storeName (device : Address) (member : DeviceName) (name : String) : DriverCode Unit :=
  ask (.storeName device member name)
def loadDeviceObject (device : Address) : DriverCode Address := ask (.loadDeviceObject device)
def storeDeviceObject (device object : Address) : DriverCode Unit :=
  ask (.storeDeviceObject device object)
def ioCreateDevice (name : String) : DriverCode (NTSTATUS × Address) := ask (.ioCreateDevice name)
def ioDeleteDevice (object : Address) : DriverCode Unit := ask (.ioDeleteDevice object)
def ioCreateSymbolicLink (link target : String) : DriverCode NTSTATUS :=
  ask (.ioCreateSymbolicLink link target)
def ioDeleteSymbolicLink (link : String) : DriverCode NTSTATUS := ask (.ioDeleteSymbolicLink link)
def setMajorFunction (majorFunction : ℕ) (routine : DispatchRoutine) : DriverCode Unit :=
  ask (.setMajorFunction majorFunction routine)
def setDriverUnload : DriverCode Unit := ask .setDriverUnload

end DriverCode

end Guypervisor.Model
