import Guypervisor.Model.Operation

/-! # Selectors and descriptors

`GdtEntry` views the first eight bytes of the packed structure `processor::GDTEntry`: sixteen
limit bits, sixteen base bits, and two groups of bitfields of sixteen bits each, allocated from
the least significant bit in declaration order. `base3` is the doubleword after them.
-/

namespace Guypervisor.Model

open Effects Code

/-- The constant `kRplMask`. -/
def kRplMask : BitVec 16 := 3

/-- `processor::segmentSelector`. -/
structure SegmentSelectors where
  es : BitVec 16
  cs : BitVec 16
  ss : BitVec 16
  ds : BitVec 16
  fs : BitVec 16
  gs : BitVec 16
  ldtr : BitVec 16
  tr : BitVec 16
deriving DecidableEq, Repr

def loadSegmentSelectors : Code SegmentSelectors := do
  let es ← readSelector .es
  let cs ← readSelector .cs
  let ss ← readSelector .ss
  let ds ← readSelector .ds
  let fs ← readSelector .fs
  let gs ← readSelector .gs
  let ldtr ← readSelector .ldtr
  let tr ← readSelector .tr
  return ⟨es, cs, ss, ds, fs, gs, ldtr, tr⟩

/-- The first eight bytes of `processor::GDTEntry`. -/
abbrev GdtEntry := BitVec 64

namespace GdtEntry

def base0 (entry : GdtEntry) : BitVec 16 := entry.extractLsb' 16 16
def base1 (entry : GdtEntry) : BitVec 8 := entry.extractLsb' 32 8
def system (entry : GdtEntry) : BitVec 1 := entry.extractLsb' 44 1
def base2 (entry : GdtEntry) : BitVec 8 := entry.extractLsb' 56 8

end GdtEntry

/-- `processor::vmxGdtEntry`, with the access rights as their whole word. -/
structure VmxGdtEntry where
  limit : BitVec 32
  base : BitVec 64
  access : BitVec 32
deriving DecidableEq, Repr

/-- The 32 base bits kept in the first eight bytes: the bitfields are promoted to `int`, shifted
together, and masked with `MAXULONG` before they are widened. -/
def GdtEntry.lowBase (entry : GdtEntry) : BitVec 64 :=
  ((entry.base2.setWidth 32 <<< 24) ||| (entry.base1.setWidth 32 <<< 16) |||
    entry.base0.setWidth 32).setWidth 64

/-- The access-rights word: what `LAR` loads, shifted down, or the unusable bit alone. -/
def readAccessRights (selector : BitVec 16) : Code (BitVec 32) :=
  if selector ≠ 0 then do
    let rights ← lar selector
    return rights >>> 8
  else return 0x10000

def readGDTEntry (gdt : DescriptorTableRegister) (selector : BitVec 16) : Code VmxGdtEntry := do
  if selector &&& 3 = 1 then
    -- "LDT implementation needed": all three members stay zero
    return ⟨0, 0, 0⟩
  let tmpEntry := gdt.base + (selector &&& ~~~kRplMask).setWidth 64
  let limit ← segmentLimit selector
  let access ← readAccessRights selector
  let entry : GdtEntry ← load64 tmpEntry
  let base := entry.lowBase
  if entry.system = 0 then
    let base3 ← load32 (tmpEntry + 8)
    return ⟨limit, base ||| (base3.setWidth 64 <<< 32), access⟩
  return ⟨limit, base, access⟩

end Guypervisor.Model
