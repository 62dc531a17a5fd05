import Guypervisor.Effects.WriteLog
import Guypervisor.Model.Memory
import Guypervisor.Model.ProcessorContext

/-! # `InitializeEPT` and the walk of extended page tables

The three entry types of `paging.h` have one layout. An assignment to a bitfield of a table entry
loads and stores its whole word; an assignment to a field of a local copy touches no memory. The
tables lie in pages that virtual addresses translate to, and the processor's walk goes by physical
addresses only.
-/

namespace Guypervisor.Model

open Effects Code

/-- Views of `PML4E`, `PDPTE` and `PDE`: `read_access` is bit 0, `write_access` bit 1,
`execute_access` bit 2, `next_page_table` bits 51:12. -/
abbrev EptEntry := BitVec 64

namespace EptEntry

def setReadAccess (entry : EptEntry) : EptEntry := entry ||| 0x1
def setWriteAccess (entry : EptEntry) : EptEntry := entry ||| 0x2
def setExecuteAccess (entry : EptEntry) : EptEntry := entry ||| 0x4

/-- `fields.next_page_table = page`: the 40 bits of the field are replaced. -/
def setNextPageTable (entry : EptEntry) (page : BitVec 64) : EptEntry :=
  (entry &&& (0xFFF0000000000FFF : BitVec 64)) ||| ((page.setWidth 40).setWidth 64 <<< 12)

/-- Readable, writable and executable. -/
def Accessible (entry : EptEntry) : Prop := entry &&& 0x7 = 0x7

instance (entry : EptEntry) : Decidable entry.Accessible := inferInstanceAs (Decidable (_ = _))

/-- The table an entry leads to. -/
def nextPageTable (entry : EptEntry) : Address := entry &&& 0x000FFFFFFFFFF000

/-- An entry of a page directory maps a page of 2 MB when bit 7 is set. -/
def MapsPage (entry : EptEntry) : Prop := entry &&& 0x80 = 0x80

instance (entry : EptEntry) : Decidable entry.MapsPage := inferInstanceAs (Decidable (_ = _))

/-- The page it maps. -/
def page (entry : EptEntry) : Address := entry &&& 0x000FFFFFFFE00000

end EptEntry

/-- Where an entry of a table lies. -/
def entryAddress (table : Address) (index : ℕ) : Address := table + BitVec.ofNat 64 index * sizeofEntry

theorem entryAddress_zero (table : Address) : entryAddress table 0 = table := by
  simp [entryAddress]

/-- An assignment to a bitfield of an entry in memory. -/
def assignField (entry : Address) (assign : EptEntry → EptEntry) : Code Unit := do
  store64 entry (assign (← load64 entry))

/-- One round of a filling loop: `temp` is a copy of the entry, and stays one. -/
def fillEntry (entry table : Address) : Code Unit := do
  let temp : EptEntry ← load64 entry
  let temp := temp.setExecuteAccess.setWriteAccess.setReadAccess
  let physical ← getPhysicalAddress table
  let _temp := temp.setNextPageTable (physical.sdiv pageSize)

/-- `&pde_entries[i][0]`. -/
def pdeRow (pdeEntries : Address) (i : ℕ) : Address :=
  entryAddress pdeEntries (i * kPageDirectoryEntryCount)

/-- The loop over the table of page-directory pointers. -/
@[irreducible] def fillPdpteEntries (pdpteEntries pdeEntries : Address) : Code PUnit :=
  (List.range kPdptEntryCount).forM fun i =>
    fillEntry (entryAddress pdpteEntries i) (pdeRow pdeEntries i)

/-- The loops over the page directories; the inner one takes the address of the row again. -/
@[irreducible] def fillPdeEntries (pdeEntries : Address) : Code PUnit :=
  (List.range kPdptEntryCount).forM fun i =>
    (List.range kPageDirectoryEntryCount).forM fun j =>
      fillEntry (entryAddress (pdeRow pdeEntries i) j) (pdeRow pdeEntries i)

def initializeEPT : Code NTSTATUS := do
  let context ← loadContext
  let pml4Entries ← loadField context .eptPml4Entries
  let pdpteEntries ← allocatePool (BitVec.ofNat 64 kPdptEntryCount * sizeofEntry)
  zeroMemory pdpteEntries (BitVec.ofNat 64 kPdptEntryCount)
  let pdeEntries ← allocatePool
    (BitVec.ofNat 64 (kPdptEntryCount * kPageDirectoryEntryCount) * sizeofEntry)
  zeroMemory pdeEntries (BitVec.ofNat 64 (kPageDirectoryEntryCount * kPdptEntryCount))
  assignField (entryAddress pml4Entries 0) EptEntry.setReadAccess
  assignField (entryAddress pml4Entries 0) EptEntry.setWriteAccess
  assignField (entryAddress pml4Entries 0) EptEntry.setExecuteAccess
  let physical ← getPhysicalAddress pdpteEntries
  assignField (entryAddress pml4Entries 0) fun entry =>
    entry.setNextPageTable (physical.sdiv pageSize)
  fillPdpteEntries pdpteEntries pdeEntries
  fillPdeEntries pdeEntries
  return statusSuccess

/-- Where the tables lie, and how the addresses of their pages are translated. -/
structure Placement where
  physical : Address → Address
  pml4 : Address
  pdpt : Address
  pd : Address
  pml4_aligned : pml4.toNat % 4096 = 0
  pdpt_aligned : pdpt.toNat % 4096 = 0
  pd_aligned : pd.toNat % 4096 = 0
  /-- A page is translated to a page, as a whole. -/
  physical_aligned : ∀ page : Address, page.toNat % 4096 = 0 → (physical page).toNat % 4096 = 0
  physical_add : ∀ page offset : Address, page.toNat % 4096 = 0 → offset.toNat < 4096 →
    physical (page + offset) = physical page + offset
  /-- The two upper tables lie in different frames, and an entry can hold the second's. -/
  distinct : physical pml4 ≠ physical pdpt
  bounded : (physical pdpt).toNat < 2 ^ 52

namespace Placement

variable (placement : Placement)

/-- Memory as virtual addresses show it. -/
def view (memory : Memory) : Memory := fun address => memory (placement.physical address)

/-- Bytes written from a virtual address on, by their physical addresses. -/
def bytes (address : Address) (count : ℕ) (byte : ℕ → BitVec 8) :
    WriteLog Address (BitVec 8) :=
  (List.range count).map fun offset =>
    (placement.physical (address + BitVec.ofNat 64 offset), byte offset)

def write (memory : Memory) (address : Address) (count : ℕ) (byte : ℕ → BitVec 8) : Memory :=
  (placement.bytes address count byte).replay memory

/-- Physical memory under the driver's code; the allocator hands out the tables by their size. -/
def environment : Environment interface Memory where
  allows memory op response :=
    match op, response with
    | .loadField _ .eptPml4Entries, pointer => pointer = placement.pml4
    | .allocatePool bytes, pointer =>
      pointer = if bytes = pageSize then placement.pdpt else placement.pd
    | .load64 address, value => value = (placement.view memory).load64 address
    | .getPhysicalAddress address, physical => physical = placement.physical address
    | _, _ => True
  next memory op _ :=
    match op with
    | .store64 address value =>
      placement.write memory address 8 fun offset => value.extractLsb' (8 * offset) 8
    | .zeroMemory address count => placement.write memory address count.toNat fun _ => 0
    | _ => memory

end Placement

/-- The walk of a guest-physical address; `none` is an EPT violation or misconfiguration. -/
def eptWalk (memory : Memory) (pml4 guestPhysical : Address) : Option Address := do
  let pml4e : EptEntry := memory.load64
    (entryAddress pml4 (guestPhysical.extractLsb' 39 9).toNat)
  guard pml4e.Accessible
  let pdpte : EptEntry := memory.load64
    (entryAddress pml4e.nextPageTable (guestPhysical.extractLsb' 30 9).toNat)
  guard pdpte.Accessible
  let pde : EptEntry := memory.load64
    (entryAddress pdpte.nextPageTable (guestPhysical.extractLsb' 21 9).toNat)
  guard pde.Accessible
  guard pde.MapsPage
  return pde.page ||| (guestPhysical &&& 0x1FFFFF)

end Guypervisor.Model
