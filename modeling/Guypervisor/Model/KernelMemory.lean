import Guypervisor.Model.Ept
import Guypervisor.Model.Heap

/-! # Memory under the kernel's allocators

The ledger of the driver's memory, together with the bytes of memory and the answers of both
allocators so far. A granted block holds whatever memory held there before. The context's members
stay in the ledger; every other access goes to the bytes.
-/

namespace Guypervisor.Model

open Effects Code

/-- The ledger, memory, and what the allocators have answered. -/
structure KernelMemory where
  heap : Heap
  memory : Memory
  pointers : List Address

namespace KernelMemory

/-- Nothing allocated; blocks will be found with the contents memory has. -/
def start (field : ContextField → Address) (memory : Memory) : KernelMemory :=
  ⟨.start field, memory, []⟩

/-- Memory after an operation; what the processor stores by itself, into the regions it is given, is
none of the code's and has to be added where it matters. -/
def nextMemory (memory : Memory) : Op → Memory
  | .store32 address value => memory.write address 4 fun offset => value.extractLsb' (8 * offset) 8
  | .store64 address value => memory.store64 address value
  | .zeroMemory address bytes => memory.clear address bytes.toNat
  | _ => memory

/-- What an operation adds to the allocators' answers. -/
def answer (op : Op) (response : op.Response) : List Address :=
  match op, response with
  | .allocateContiguousMemory _ _, pointer => [pointer]
  | .allocatePool _, pointer => [pointer]
  | _, _ => []

def next (state : KernelMemory) (op : Op) (response : op.Response) : KernelMemory :=
  ⟨state.heap.next op response, nextMemory state.memory op, state.pointers ++ answer op response⟩

/-- What memory and the translation of addresses can answer. -/
def Reads (physical : Address → Address) (memory : Memory) (op : Op) (response : op.Response) :
    Prop :=
  match op, response with
  | .load32 address, value => value = memory.load32 address
  | .load64 address, value => value = memory.load64 address
  | .getPhysicalAddress address, translated => translated = physical address
  | _, _ => True

/-- The kernel and memory as the environment of the driver's code. -/
def environment (physical : Address → Address) : Environment interface KernelMemory where
  allows state op response :=
    state.heap.Answers op response ∧ Reads physical state.memory op response
  next := next

end KernelMemory

/-- Memory alone: the allocators and the processor may answer in any way. -/
def Memory.environment : Environment interface Memory where
  allows _ _ _ := True
  next memory op _ := KernelMemory.nextMemory memory op

/-- What `DriverEntry` does before its request to enter VMX: a context is allocated, its members
are filled, and the tables are built. -/
def setUpTables : Code NTSTATUS := do
  newProcessorContext
  let _ ← initializeProcessorContext
  initializeEPT

end Guypervisor.Model
