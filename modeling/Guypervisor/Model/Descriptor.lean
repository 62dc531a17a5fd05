import Guypervisor.Model.Processor
import Guypervisor.Model.Memory

/-! # Segment descriptors as the processor lays them out

A descriptor scatters its base and its limit over two doublewords, between its attributes. A
system descriptor has two more, the first of which extends the base to 64 bits.
-/

namespace Guypervisor.Model

/-- A descriptor without its base and its S bit. -/
structure DescriptorAttributes where
  limit : BitVec 20
  type : BitVec 4
  dpl : BitVec 2
  present : BitVec 1
  avl : BitVec 1
  l : BitVec 1
  d : BitVec 1
  g : BitVec 1
deriving DecidableEq, Repr

namespace DescriptorAttributes

variable (attributes : DescriptorAttributes) (system : BitVec 1) (base : BitVec 32)

/-- The type, S, DPL and P bits. -/
def accessByte : BitVec 8 := attributes.present ++ attributes.dpl ++ system ++ attributes.type

/-- The AVL, L, D/B and G bits. -/
def flags : BitVec 4 := attributes.g ++ attributes.d ++ attributes.l ++ attributes.avl

def firstDoubleword : BitVec 32 := base.extractLsb' 0 16 ++ attributes.limit.extractLsb' 0 16

def secondDoubleword : BitVec 32 :=
  base.extractLsb' 24 8 ++ attributes.flags ++ attributes.limit.extractLsb' 16 4 ++
    attributes.accessByte system ++ base.extractLsb' 16 8

/-- The eight bytes of a descriptor. -/
def encode : GdtEntry := attributes.secondDoubleword system base ++ attributes.firstDoubleword base

theorem base0_encode : (attributes.encode system base).base0 = base.extractLsb' 0 16 := by
  simp (disch := omega) only [GdtEntry.base0, encode, firstDoubleword,
    BitVec.extractLsb'_append_eq_of_add_le, BitVec.extractLsb'_append_eq_of_le]
  exact BitVec.extractLsb'_eq_self

theorem base1_encode : (attributes.encode system base).base1 = base.extractLsb' 16 8 := by
  simp (disch := omega) only [GdtEntry.base1, encode, secondDoubleword,
    BitVec.extractLsb'_append_eq_of_add_le, BitVec.extractLsb'_append_eq_of_le]
  exact BitVec.extractLsb'_eq_self

theorem base2_encode : (attributes.encode system base).base2 = base.extractLsb' 24 8 := by
  simp (disch := omega) only [GdtEntry.base2, encode, secondDoubleword,
    BitVec.extractLsb'_append_eq_of_le]
  exact BitVec.extractLsb'_eq_self

@[simp] theorem system_encode : (attributes.encode system base).system = system := by
  simp (disch := omega) only [GdtEntry.system, encode, secondDoubleword, accessByte,
    BitVec.extractLsb'_append_eq_of_add_le, BitVec.extractLsb'_append_eq_of_le]
  exact BitVec.extractLsb'_eq_self

/-- The pieces of the base, put together again. -/
@[simp] theorem lowBase_encode : (attributes.encode system base).lowBase = base.setWidth 64 := by
  have joined : base.extractLsb' 24 8 ++ base.extractLsb' 16 8 ++ base.extractLsb' 0 16 = base := by
    iterate 2 rw [BitVec.extractLsb'_append_extractLsb'_eq_extractLsb' (by rfl)]
    exact BitVec.extractLsb'_eq_self
  have shifted : (base.extractLsb' 24 8 ++ base.extractLsb' 16 8 ++
      base.extractLsb' 0 16).setWidth 32 = _ :=
    BitVec.setWidth_append_append_eq_shiftLeft_setWidth_or
  rw [joined, BitVec.setWidth_eq] at shifted
  rw [GdtEntry.lowBase, base0_encode, base1_encode, base2_encode, ← shifted]

end DescriptorAttributes

namespace Memory

variable (memory : Memory) (address : Address)

/-- A code or data descriptor lies at an address. -/
def HoldsSegment (base : BitVec 32) : Prop :=
  ∃ attributes : DescriptorAttributes, memory.load64 address = attributes.encode 1 base

/-- A system descriptor lies at an address. -/
def HoldsSystem (base : BitVec 64) : Prop :=
  ∃ attributes : DescriptorAttributes,
    memory.load64 address = attributes.encode 0 (base.extractLsb' 0 32) ∧
      memory.load32 (address + 8) = base.extractLsb' 32 32

end Memory

end Guypervisor.Model
