import Guypervisor.Model.Detection
import Guypervisor.Model.Device
import Guypervisor.Model.Ept

/-! # `DriverEntry`

Every `goto cleanup` is an early return through `driverCleanup`.
-/

namespace Guypervisor.Model

open Effects Code DriverCode

def statusNotSupported : NTSTATUS := 0xC00000BB

def deviceName : String := "\\Device\\Guypervisor"
def dosDeviceName : String := "\\DosDevices\\Guypervisor"

/-- The code after the label `cleanup` of `DriverEntry`. -/
def driverCleanup (status : NTSTATUS) : DriverCode NTSTATUS := do
  if !ntSuccess status then
    if (← loadGuypervisor) ≠ 0 then
      Device.delete (← loadGuypervisor)
    if (← code loadContext) ≠ 0 then
      code freeProcessorContext
  return status

/-- `DriverEntry`, on a stack with room for `depth` nested calls of the error printer. -/
def driverEntry (depth : ℕ) : DriverCode NTSTATUS := do
  let cpuidSupported ← isCPUIdSupported hasCpuidFlagMask
  if !cpuidSupported then
    return (← driverCleanup statusNotSupported)
  let vendorIsIntel ← vendorIsIntel
  if !vendorIsIntel then
    return (← driverCleanup statusNotSupported)
  let supportsVtx ← supportsVtxOperation
  if !supportsVtx then
    return (← driverCleanup statusNotSupported)
  storeGuypervisor (← Device.new deviceName dosDeviceName)
  let status ← Device.initDevice (← loadGuypervisor)
  if !ntSuccess status then
    return (← driverCleanup status)
  let status ← Device.createSymlink (← loadGuypervisor)
  if !ntSuccess status then
    return (← driverCleanup status)
  code newProcessorContext
  let status ← code initializeProcessorContext
  if !ntSuccess status then
    return (← driverCleanup status)
  let status ← code initializeEPT
  if !ntSuccess status then
    return (← driverCleanup status)
  let _ ← code (enterVmxHandler depth)
  driverCleanup status

end Guypervisor.Model
