import Guypervisor.Model.VmcsAccess

/-! # The VMX stages of `virtualization.cpp`

Each stage runs in a frame of its own. `PopulateActiveVMCS` has a module to itself.
-/

namespace Guypervisor.Model

open Effects Code

/-- `region->revisionIdentifier = id`: a store of bits 30:0 beside the shadow-VMCS bit. -/
def setRevisionIdentifier (region : Address) (id : BitVec 32) : Code Unit := do
  let word ← load32 region
  store32 region ((word &&& 0x80000000) ||| (id &&& 0x7FFFFFFF))

def enterVmxonMode : Code NTSTATUS := call .enterVmxonMode do
  let context ← loadContext
  -- Set CR0 fixed values
  let cr0 ← readCr0
  let cr0 := cr0 ||| (← readMsr .kIa32VmxCr0Fixed0)
  let cr0 := cr0 &&& (← readMsr .kIa32VmxCr0Fixed1)
  writeCr0 cr0
  -- Set CR4 fixed values
  let cr4 ← readCr4
  let cr4 := cr4 ||| (← readMsr .kIa32VmxCr4Fixed0)
  let cr4 := cr4 &&& (← readMsr .kIa32VmxCr0Fixed1)
  writeCr4 cr4
  -- Set CR4.VMXE = 1
  let cr4 ← readCr4
  writeCr4 (cr4 ||| 0x2000)
  let controlMsr : FeatureControlMsr ← readMsr .kIa32FeatureControl
  writeMsr .kIa32FeatureControl controlMsr.setLock.setEnableSmx.setEnableVmxon
  let basicMsr : VmxBasicMsr ← readMsr .kIa32VmxBasic
  setRevisionIdentifier (← loadField context .vmxonRegion) basicMsr.revisionId
  let physicalAllocatedVMX ← getPhysicalAddress (← loadField context .vmxonRegion)
  let outcome ← vmxon physicalAllocatedVMX
  if outcome.operationStatus ≠ 0 then
    return statusFailedVmxon
  return statusSuccess

/-- The control word a capability register admits that is closest to the requested one. -/
def modifyControlValue (msr : IntelMsr) (requestedValue : BitVec 32) : Code (BitVec 32) := do
  let msrValue ← readMsr msr
  return (requestedValue &&& msrValue.extractLsb' 32 32) ||| msrValue.extractLsb' 0 32

def initializeVMCS : Code NTSTATUS := call .initializeVMCS do
  let context ← loadContext
  let basicMsr : VmxBasicMsr ← readMsr .kIa32VmxBasic
  setRevisionIdentifier (← loadField context .vmcsRegion) basicMsr.revisionId
  let physicalAllocatedVMX ← getPhysicalAddress (← loadField context .vmcsRegion)
  let outcome ← vmclear physicalAllocatedVMX
  if outcome.operationStatus ≠ 0 then
    return statusFailedVmclear
  let outcome ← vmptrld physicalAllocatedVMX
  if outcome.operationStatus ≠ 0 then
    return statusFailedVmptrld
  return statusSuccess

def launchGuest (depth : ℕ) : Code NTSTATUS := call .launchGuest do
  let outcome ← vmlaunch
  if outcome.operationStatus ≠ 0 then
    let _ ← printVMXError depth
    return statusFailedVmlaunch
  return statusSuccess

def clearActiveVMCS (depth : ℕ) : Code NTSTATUS := call .clearActiveVMCS do
  let (outcome, stored) ← vmptrst
  let vmcsPhysicalAddr : Address := if outcome = .succeed then stored else 0
  if vmcsPhysicalAddr = -1 then
    let _ ← printVMXError depth
    return statusFailedVmptrld
  let outcome ← vmclear vmcsPhysicalAddr
  if outcome.operationStatus ≠ 0 then
    if outcome.operationStatus = 1 then
      let _ ← printVMXError depth
    return statusFailedVmclear
  return statusSuccess

/-- The host's entry point on a VM exit; what it prints about the exit is left out. -/
def vmexitHandler (depth : ℕ) : Code Unit := do
  let _ ← readVMCSFieldGeneric depth .kExitReason (some (0 : BitVec 32))
  let _ ← vmresume

end Guypervisor.Model
