import Guypervisor.Model.Populate

/-! # Entering VMX on request

`EnterVmxHandler` runs the four stages and cleans up behind them; `IOCTLHandlerIRP` calls it for
one control code, stores the status in the IRP and completes it. The other handlers print.
-/

namespace Guypervisor.Model

open Effects Code

/-- `CTL_CODE(DeviceType, Function, Method, Access)`. -/
def ctlCode (deviceType function method access : BitVec 32) : BitVec 32 :=
  (deviceType <<< 16) ||| (access <<< 14) ||| (function <<< 2) ||| method

/-- `IOCTL_ENTER_VMX`, with `FILE_DEVICE_UNKNOWN`, `kEnterVmx`, `METHOD_BUFFERED` and
`FILE_ANY_ACCESS` spelled out. -/
def ioctlEnterVmx : BitVec 32 := ctlCode 0x22 0x801 0 0

/-- The code after the label `cleanup` of `EnterVmxHandler`. -/
def enterVmxCleanup (depth : ℕ) (enteredVmx createdActiveVmcs : Bool) (status : NTSTATUS) :
    Code NTSTATUS := do
  if createdActiveVmcs then
    let _ ← clearActiveVMCS depth
  if enteredVmx then
    vmxoff
  return status

def enterVmxHandler (depth : ℕ) : Code NTSTATUS := call .enterVmxHandler do
  let status ← enterVmxonMode
  if !ntSuccess status then
    return (← enterVmxCleanup depth false false status)
  let status ← initializeVMCS
  if !ntSuccess status then
    return (← enterVmxCleanup depth true false status)
  let status ← populateActiveVMCS depth
  if !ntSuccess status then
    return (← enterVmxCleanup depth true true status)
  let status ← launchGuest depth
  if !ntSuccess status then
    return (← enterVmxCleanup depth true true status)
  enterVmxCleanup depth true true status

/-- The `switch` of `IOCTLHandlerIRP` on the control code. -/
def handleIoControlCode (depth : ℕ) (ioControlCode : BitVec 32) : Code NTSTATUS :=
  if ioControlCode = ioctlEnterVmx then enterVmxHandler depth else pure statusSuccess

def ioctlHandlerIRP (depth : ℕ) (ioControlCode : BitVec 32) : Code NTSTATUS := do
  let status ← handleIoControlCode depth ioControlCode
  setIoStatus status
  completeRequest
  return status

/-- What the handlers read of an IRP and its stack location. -/
structure Irp where
  majorFunction : ℕ
  type : BitVec 16
  ioControlCode : BitVec 32
deriving DecidableEq, Repr

def generalHandlerIRP (irp : Irp) : Code NTSTATUS := do
  print "Used general IRP" (irp.type.setWidth 64)
  return statusSuccess

def createHandlerIRP : Code NTSTATUS := do
  print "Received IRP_MJ_CREATE" 0
  print "Initialized hypervisor" 0
  return statusSuccess

def writeHandlerIRP : Code NTSTATUS := do
  print "Received IRP_MJ_CREATE" 0
  print "Initialized hypervisor" 0
  return statusSuccess

def closeHandlerIRP : Code NTSTATUS := do
  print "Entered IRP_MJ_CLOSE" 0
  print "Ended hypervisor" 0
  return statusSuccess

/-- The dispatch routines of the driver. -/
inductive DispatchRoutine
  | generalHandlerIRP | createHandlerIRP | closeHandlerIRP | writeHandlerIRP | ioctlHandlerIRP
deriving DecidableEq, Repr

/-- A dispatch routine called for an IRP. -/
def DispatchRoutine.call (depth : ℕ) (irp : Irp) : DispatchRoutine → Code NTSTATUS
  | generalHandlerIRP => Model.generalHandlerIRP irp
  | createHandlerIRP => Model.createHandlerIRP
  | closeHandlerIRP => Model.closeHandlerIRP
  | writeHandlerIRP => Model.writeHandlerIRP
  | ioctlHandlerIRP => Model.ioctlHandlerIRP depth irp.ioControlCode

end Guypervisor.Model
