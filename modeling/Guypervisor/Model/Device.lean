import Guypervisor.Model.DeviceOperation
import Guypervisor.Model.ProcessorContext

/-! # The class `Device`

`IoCreateDevice` stores the device object through the pointer it is given when it succeeds. The
`delete` of a `Device` deletes its device object and then frees it.
-/

namespace Guypervisor.Model

open Effects Code DriverCode

def irpMjCreate : ℕ := 0x00
def irpMjClose : ℕ := 0x02
def irpMjWrite : ℕ := 0x04
def irpMjDeviceControl : ℕ := 0x0E
def irpMjMaximumFunction : ℕ := 0x1B

namespace Device

/-- Two `UNICODE_STRING`s of 16 bytes and a pointer. -/
def sizeofDevice : BitVec 64 := 40

/-- `new Device(deviceName, dosDeviceName)`; nothing is constructed at a null pointer. -/
def new (deviceName dosDeviceName : String) : DriverCode Address := do
  let device ← code (allocatePool sizeofDevice)
  if device ≠ 0 then
    storeDeviceObject device 0
    storeName device .deviceName deviceName
    storeName device .dosDeviceName dosDeviceName
  return device

/-- `operator delete`, for the 40 bytes at `pointer`. -/
def operatorDelete (pointer : Address) : DriverCode Unit := do
  ioDeleteDevice (← loadDeviceObject pointer)
  code (freePool pointer)

/-- `delete` of a pointer to a `Device`, whose destructor is empty. -/
def delete (pointer : Address) : DriverCode Unit := do
  if pointer ≠ 0 then
    operatorDelete pointer

def addFunctions : DriverCode NTSTATUS := do
  (List.range irpMjMaximumFunction).forM fun i => setMajorFunction i .generalHandlerIRP
  setMajorFunction irpMjCreate .createHandlerIRP
  setMajorFunction irpMjClose .closeHandlerIRP
  setMajorFunction irpMjDeviceControl .ioctlHandlerIRP
  setMajorFunction irpMjWrite .writeHandlerIRP
  return statusSuccess

def driverUnload : DriverCode Unit := do
  delete (← loadGuypervisor)

def initDevice (device : Address) : DriverCode NTSTATUS := do
  let (status, object) ← ioCreateDevice (← loadName device .deviceName)
  if ntSuccess status then
    storeDeviceObject device object
  setDriverUnload
  let _ ← addFunctions
  return status

def createSymlink (device : Address) : DriverCode NTSTATUS := do
  let _ ← ioDeleteSymbolicLink (← loadName device .dosDeviceName)
  ioCreateSymbolicLink (← loadName device .dosDeviceName) (← loadName device .deviceName)

end Device

end Guypervisor.Model
