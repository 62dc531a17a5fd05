import Guypervisor.Model.Operation

/-! # Allocating and freeing the processor context

`MmAllocateContiguousMemory` and `ExAllocatePoolWithTag` answer zero when they fail. The sizes
are those of the 64-bit build: `sizeof(VMCS)` follows from the nested structures of `vmcs.h`.
-/

namespace Guypervisor.Model

open Effects Code

def kAlignmentSize : BitVec 64 := 4 * 1024
def pageSize : BitVec 64 := 4096
def kStackSize : BitVec 64 := 12 * pageSize
def kPml4EntryCount : ℕ := 512
def kPdptEntryCount : ℕ := 512
def kPageDirectoryEntryCount : ℕ := 512

/-- `sizeof(VMCS)`: 8 bytes of header, 496 of guest state, 152 of host state, 36 of controls with
their padding, and 96 of exit information after 4 more bytes of padding. -/
def sizeofVMCS : BitVec 64 := 792
/-- The six pointers of `processorContext`. -/
def sizeofProcessorContext : BitVec 64 := 48
/-- One entry of a paging structure. -/
def sizeofEntry : BitVec 64 := 8

/-- `CPUID` leaf `kIa32AddressWidth`. -/
def kIa32AddressWidth : BitVec 32 := 0x80000008

def acquireMaxPhysicalAddress : Code (BitVec 64) := do
  let currentCpu ← cpuid kIa32AddressWidth
  let physWidth := (currentCpu.eax &&& 0xFF).toNat
  return ((1 : BitVec 64) <<< physWidth) - 1

/-- The least multiple of a power of two that is not below the address. -/
def alignUp (address alignmentSize : BitVec 64) : BitVec 64 :=
  (address + alignmentSize - 1) &&& ~~~(alignmentSize - 1)

def allocateContingiousPhysicalMemoryAligned (size alignmentSize : BitVec 64) : Code Address := do
  let maxPhysical ← acquireMaxPhysicalAddress
  let allocatedMemory ← allocateContiguousMemory (size + alignmentSize) maxPhysical
  if allocatedMemory = 0 then
    return 0
  zeroMemory allocatedMemory (size + alignmentSize)
  return alignUp allocatedMemory alignmentSize

def initializeProcessorContext : Code NTSTATUS := do
  let context ← loadContext
  storeField context .vmxonRegion
    (← allocateContingiousPhysicalMemoryAligned sizeofVMCS kAlignmentSize)
  if (← loadField context .vmxonRegion) = 0 then
    return ntError statusFailedToAllocateMemory
  storeField context .vmcsRegion
    (← allocateContingiousPhysicalMemoryAligned sizeofVMCS kAlignmentSize)
  if (← loadField context .vmcsRegion) = 0 then
    return statusFailedToAllocateMemory
  storeField context .eptPml4Entries
    (← allocatePool (BitVec.ofNat 64 kPml4EntryCount * sizeofEntry))
  zeroMemory (← loadField context .eptPml4Entries) (BitVec.ofNat 64 kPml4EntryCount * sizeofEntry)
  storeField context .msrBitmap (← allocateContingiousPhysicalMemoryAligned 1 kAlignmentSize)
  storeField context .guestStack (← allocatePool kStackSize)
  storeField context .hostStack (← allocatePool kStackSize)
  return statusSuccess

/-- `IF_NOT_NULLPTR_THEN_FREE_AND_SET_NULLPTR` on a member of the context. -/
def ifNotNullptrThenFreeAndSetNullptr (context : Address) (field : ContextField) : Code Unit := do
  if (← loadField context field) ≠ 0 then
    freeContiguousMemory (← loadField context field)
    storeField context field 0

/-- The sections that set a member to `nullptr` and then `delete` it. -/
def setNullptrThenDelete (context : Address) (field : ContextField) : Code Unit := do
  if (← loadField context field) ≠ 0 then
    storeField context field 0
    freePool (← loadField context field)

/-- The part of `FreeProcessorContext` for what came from the pool: two stacks, the PML4 table and
the context itself. -/
def deletePoolMembers (context : Address) : Code Unit := do
  setNullptrThenDelete context .guestStack
  setNullptrThenDelete context .hostStack
  setNullptrThenDelete context .eptPml4Entries
  if (← loadContext) ≠ 0 then
    storeContext 0
    freePool (← loadContext)

def freeProcessorContext : Code Unit := do
  let context ← loadContext
  ifNotNullptrThenFreeAndSetNullptr context .vmxonRegion
  ifNotNullptrThenFreeAndSetNullptr context .vmcsRegion
  ifNotNullptrThenFreeAndSetNullptr context .msrBitmap
  deletePoolMembers context

/-- `kProcessorContext = new processorContext`. -/
def newProcessorContext : Code Unit := do
  storeContext (← allocatePool sizeofProcessorContext)

end Guypervisor.Model
