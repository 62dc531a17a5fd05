import Guypervisor.Model.Operation

/-! # Reading and writing VMCS fields

The error path is recursive: a failed `VMREAD` prints the VMX error, and printing it reads two
fields. The functions of the cycle take the printer as a parameter, and `printVMXError` ties the
knot with the number of nested calls the kernel stack has room for; at zero the call overflows.
A destination pointer is modelled by what it points to, with `none` for the null pointer, and
the new contents are returned beside the status.
-/

namespace Guypervisor.Model

open Effects Code

/-- `ReadVMCSField64`, given the error printer it calls. -/
def readVMCSField64With (printVMXError : Code NTSTATUS) (encoding : VmcsFieldEncoding)
    (field : Option (BitVec 64)) : Code (NTSTATUS × Option (BitVec 64)) :=
  match field with
  | none => return (statusNullptrError, none)
  | some prior => do
    let (outcome, value) ← vmread encoding
    if outcome.operationStatus ≠ 0 then
      let _ ← printVMXError
      return (statusFailedVmread, some prior)
    return (statusSuccess, some value)

/-- `ReadVMCSFieldGeneric<T>` for a `T` of `w` bits, given the error printer it calls. -/
def readVMCSFieldGenericWith (printVMXError : Code NTSTATUS) {w : ℕ}
    (encoding : VmcsFieldEncoding) (field : Option (BitVec w)) :
    Code (NTSTATUS × Option (BitVec w)) :=
  match field with
  | none => return (statusNullptrError, none)
  | some prior => do
    let (status, tmp) ← readVMCSField64With printVMXError encoding (some 0)
    if !ntSuccess status then
      return (status, some prior)
    return (status, some ((tmp.getD 0).setWidth w))

/-- One level of `PrintVMXError`; only its reads and its status are kept of it. -/
def printVMXErrorWith (printVMXError : Code NTSTATUS) : Code NTSTATUS := do
  let (status, _) ← readVMCSFieldGenericWith printVMXError .kVmInstructionError
    (some (0 : BitVec 32))
  if !ntSuccess status then
    return status
  let (status, _) ← readVMCSFieldGenericWith printVMXError .kExitReason (some (0 : BitVec 32))
  return status

/-- `PrintVMXError` on a stack with room for `depth` nested calls of it. -/
def printVMXError : ℕ → Code NTSTATUS
  | 0 => overflow
  | depth + 1 => printVMXErrorWith (printVMXError depth)

def readVMCSField64 (depth : ℕ) (encoding : VmcsFieldEncoding) (field : Option (BitVec 64)) :
    Code (NTSTATUS × Option (BitVec 64)) :=
  readVMCSField64With (printVMXError depth) encoding field

def readVMCSFieldGeneric (depth : ℕ) {w : ℕ} (encoding : VmcsFieldEncoding)
    (field : Option (BitVec w)) : Code (NTSTATUS × Option (BitVec w)) :=
  readVMCSFieldGenericWith (printVMXError depth) encoding field

def writeVMCSField64 (depth : ℕ) (encoding : VmcsFieldEncoding) (value : BitVec 64) :
    Code NTSTATUS := do
  let outcome ← vmwrite encoding value
  if outcome.operationStatus ≠ 0 then
    let _ ← printVMXError depth
    return statusFailedVmwrite
  return statusSuccess

def writeVMCSField32 (depth : ℕ) (encoding : VmcsFieldEncoding) (value : BitVec 32) :
    Code NTSTATUS :=
  writeVMCSField64 depth encoding (value.setWidth 64)

def writeVMCSField16 (depth : ℕ) (encoding : VmcsFieldEncoding) (value : BitVec 16) :
    Code NTSTATUS :=
  writeVMCSField64 depth encoding (value.setWidth 64)

/-- `WriteVMCSFieldNatural` on the 64-bit build. -/
def writeVMCSFieldNatural (depth : ℕ) (encoding : VmcsFieldEncoding) (value : BitVec 64) :
    Code NTSTATUS :=
  writeVMCSField64 depth encoding value

end Guypervisor.Model
