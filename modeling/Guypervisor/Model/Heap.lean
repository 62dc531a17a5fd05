import Guypervisor.Effects.Block
import Guypervisor.Model.ProcessorContext

/-! # The kernel's allocators and the processor context in memory

The state is the driver's ledger: the blocks it holds from either allocator, the context pointer,
the members of the block that pointer leads to, and what the contiguous allocator has answered so
far. The members of a context that was just allocated are whatever the block held before.
-/

namespace Guypervisor.Model

open Effects

/-- Aligning an address rounds it up past the bits below the alignment. -/
theorem alignUp_eq_roundUp (address alignmentSize : BitVec 64) :
    alignUp address alignmentSize = roundUp address (alignmentSize - 1) := by
  have last : address + alignmentSize - 1 = address + (alignmentSize - 1) := by
    rw [BitVec.sub_eq_add_neg, BitVec.add_assoc, ← BitVec.sub_eq_add_neg]
  rw [alignUp, roundUp, last]

/-- The ledger of the driver's memory. -/
structure Heap where
  kProcessorContext : Address
  field : ContextField → Address
  contiguous : List (Block 64)
  pool : List (Block 64)
  answers : List Address

namespace Heap

/-- Nothing allocated; the next context will be found with these members. -/
def start (field : ContextField → Address) : Heap := ⟨0, field, [], [], []⟩

/-- The blocks in use. -/
def blocks (heap : Heap) : List (Block 64) := heap.contiguous ++ heap.pool

/-- Blocks in use after an allocator's answer; zero means that it failed. -/
def grant (held : List (Block 64)) (pointer bytes : BitVec 64) : List (Block 64) :=
  if pointer = 0 then held else ⟨pointer, bytes⟩ :: held

/-- Blocks in use after a release, which takes the one that begins at the pointer. -/
def release (held : List (Block 64)) (pointer : Address) : List (Block 64) :=
  held.filter (·.base ≠ pointer)

theorem mem_release {held : List (Block 64)} {pointer : Address} {block : Block 64} :
    block ∈ release held pointer ↔ block ∈ held ∧ block.base ≠ pointer := by
  simp [release]

/-- The ledger after an operation that was answered in the given way. -/
def next (heap : Heap) (op : Op) (response : op.Response) : Heap :=
  match op, response with
  | .storeContext pointer, _ => { heap with kProcessorContext := pointer }
  | .storeField _ field pointer, _ => { heap with field := Function.update heap.field field pointer }
  | .allocateContiguousMemory bytes _, pointer =>
    { heap with
      contiguous := grant heap.contiguous pointer bytes
      answers := heap.answers ++ [pointer] }
  | .freeContiguousMemory pointer, _ =>
    { heap with contiguous := release heap.contiguous pointer }
  | .allocatePool bytes, pointer => { heap with pool := grant heap.pool pointer bytes }
  | .freePool pointer, _ => { heap with pool := release heap.pool pointer }
  | _, _ => heap

/-- What the kernel can answer: an allocation fails or gives a fresh block, the context's members
are reached through the context pointer, and the null address cannot be accessed. -/
def Answers (heap : Heap) (op : Op) (response : op.Response) : Prop :=
  match op, response with
  | .allocateContiguousMemory bytes _, pointer =>
    pointer = 0 ∨ Block.Fresh heap.blocks ⟨pointer, bytes⟩
  | .allocatePool bytes, pointer => pointer = 0 ∨ Block.Fresh heap.blocks ⟨pointer, bytes⟩
  | .loadContext, pointer => pointer = heap.kProcessorContext
  | .loadField context field, pointer =>
    context ≠ 0 ∧ context = heap.kProcessorContext ∧ pointer = heap.field field
  | .storeField context _ _, _ => context ≠ 0 ∧ context = heap.kProcessorContext
  | .zeroMemory address _, _ => address ≠ 0
  | _, _ => True

/-- The kernel as the environment of the driver's code. -/
def environment : Environment interface Heap where
  allows := Answers
  next := next

end Heap

end Guypervisor.Model
