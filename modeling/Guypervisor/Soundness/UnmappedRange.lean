import Guypervisor.Soundness.IdentityMap

/-! # What the walk does not reach

`InitializeEPT` clears as many bytes of the table of page-directory pointers as it has entries: the
first 64 entries. None of the stores that follow goes there, so no guest-physical address below
64 GB is mapped by the tables, wherever they lie and whatever memory held.
-/

namespace Guypervisor.Soundness.UnmappedRange

open Effects Effects.Program Model Code Proofs IdentityMap

/-- The bytes of the pointer table that are cleared. -/
def clearedBytes : ℕ := kPdptEntryCount

/-- Bytes from an address on are zero. -/
def Cleared (memory : Memory) (address : Address) (count : ℕ) : Prop :=
  ∀ offset < count, memory (address + BitVec.ofNat 64 offset) = 0

section Writes

variable {placement : Placement} {memory : Memory} {page : Address} {count : ℕ}

/-- Clearing from the beginning of a page on. -/
theorem cleared_write (aligned : page.toNat % 4096 = 0) (inside : count ≤ 4096) :
    Cleared (placement.write memory page count fun _ => 0) (placement.physical page) count := by
  intro offset bound
  have written : placement.physical page + BitVec.ofNat 64 offset ∈
      (placement.bytes page count fun _ => 0).keys := by
    rw [keys_bytes_page placement aligned inside]
    exact List.mem_map.mpr ⟨offset, List.mem_range.mpr bound, rfl⟩
  obtain ⟨_, _, same⟩ := List.mem_map.mp (WriteLog.mem_of_mem_keys written memory)
  exact (congrArg Prod.snd same).symm

/-- Clearing anything else keeps what is zero. -/
theorem Cleared.clear {address : Address} (cleared : Cleared memory address count)
    (other : Address) (bytes : ℕ) :
    Cleared (placement.write memory other bytes fun _ => 0) address count := by
  intro offset bound
  by_cases written : address + BitVec.ofNat 64 offset ∈
      (placement.bytes other bytes fun _ => 0).keys
  · obtain ⟨_, _, same⟩ := List.mem_map.mp (WriteLog.mem_of_mem_keys written memory)
    exact (congrArg Prod.snd same).symm
  · rw [Placement.write, WriteLog.replay_of_notMem written]
    exact cleared offset bound

/-- Storing a word at the beginning of another page keeps what is zero in this one. -/
theorem Cleared.store {other : Address} (cleared : Cleared memory (placement.physical page) count)
    (aligned : page.toNat % 4096 = 0) (otherAligned : other.toNat % 4096 = 0)
    (elsewhere : placement.physical other ≠ placement.physical page) (inside : count ≤ 4096)
    (byte : ℕ → BitVec 8) :
    Cleared (placement.write memory other 8 byte) (placement.physical page) count := by
  intro offset bound
  have unwritten : placement.physical page + BitVec.ofNat 64 offset ∉
      (placement.bytes other 8 byte).keys := by
    rw [keys_bytes_page placement otherAligned (by omega)]
    intro written
    obtain ⟨stored, member, same⟩ := List.mem_map.mp written
    have storedBound := List.mem_range.mp member
    exact elsewhere (frame_eq (placement.physical_aligned other otherAligned)
      (placement.physical_aligned page aligned) (by omega) (by omega) same).1
  rw [Placement.write, WriteLog.replay_of_notMem unwritten]
  exact cleared offset bound

/-- An entry whose bytes are zero. -/
theorem Cleared.load64_entry {address : Address} (cleared : Cleared memory address count)
    {index : ℕ} (inside : 8 * index + 8 ≤ count) : memory.load64 (entryAddress address index) = 0 := by
  apply load64_of_zeroAt
  intro offset bound
  have same : entryAddress address index + BitVec.ofNat 64 offset =
      address + BitVec.ofNat 64 (8 * index + offset) := by
    rw [entryAddress, add_assoc]
    congr 1
    apply BitVec.eq_of_toNat_eq
    simp [sizeofEntry]
    omega
  rw [same]
  exact cleared _ (by omega)

end Writes

section Initialize

variable (placement : Placement)

/-- What the function does once the pointer table is cleared: it stores in PML4 entry 0 only. -/
def IsLinking : Op → Prop
  | .store64 address _ => address = placement.pml4
  | .allocatePool _ | .zeroMemory _ _ | .load64 _ | .getPhysicalAddress _ => True
  | _ => False

/-- The beginning of the pointer table is zero. -/
def TableCleared (memory : Memory) : Prop :=
  Cleared memory (placement.physical placement.pdpt) clearedBytes

/-- None of this reaches the beginning of the pointer table. -/
theorem tableCleared_next {memory : Memory} {op : Op} (linking : IsLinking placement op)
    (cleared : TableCleared placement memory) (response : op.Response) :
    TableCleared placement (placement.environment.next memory op response) := by
  cases op with
  | store64 address value =>
    obtain rfl : address = placement.pml4 := linking
    exact cleared.store placement.pdpt_aligned placement.pml4_aligned placement.distinct
      (by decide) fun offset => value.extractLsb' (8 * offset) 8
  | zeroMemory other bytes => exact cleared.clear other bytes.toNat
  | allocatePool | load64 | getPhysicalAddress => exact cleared
  | _ => exact linking.elim

private theorem confined_assignField (assign : EptEntry → EptEntry) :
    (assignField (entryAddress placement.pml4 0) assign).Confined (IsLinking placement)
      fun _ => True := by
  rw [entryAddress_zero]
  exact confined_ask_bind trivial fun _ => ⟨rfl, fun _ => trivial⟩

private theorem confined_filling {program : Code PUnit}
    (confined : program.Confined IsFilling fun _ => True) :
    program.Confined (IsLinking placement) fun _ => True := by
  apply confined.mono
  · intro op filling
    cases op <;> trivial
  · exact fun _ _ => trivial

private theorem ensures_of_isLinking {program : Code NTSTATUS} {memory : Memory}
    (confined : program.Confined (IsLinking placement) fun _ => True)
    (cleared : TableCleared placement memory) :
    program.Ensures placement.environment (fun _ _ => True) memory
      fun _ final => TableCleared placement final := by
  have kept : program.Ensures placement.environment (fun _ _ => True) memory
      fun _ final => True ∧ TableCleared placement final :=
    confined.keeps (fun _ _ _ _ => trivial)
      (fun _ _ response linking cleared _ => tableCleared_next placement linking cleared response)
      cleared
  exact kept.mono fun _ _ ended => ended.2

private theorem cleared_next (memory : Memory) {count : BitVec 64} (inside : count.toNat ≤ 4096) :
    Cleared (placement.environment.next memory (.zeroMemory placement.pdpt count) ())
      (placement.physical placement.pdpt) count.toNat :=
  cleared_write placement.pdpt_aligned inside

/-- The beginning of the pointer table is zero after the function. -/
theorem ensures_tableCleared (memory : Memory) :
    initializeEPT.Ensures placement.environment (fun _ _ => True) memory
      fun _ final => TableCleared placement final := by
  refine ensures_steady_bind trivial (fun _ => rfl) fun context => ?_
  refine ensures_query_bind trivial (fun _ => rfl) fun pml4 loaded => ?_
  obtain rfl : pml4 = placement.pml4 := loaded
  refine ensures_query_bind trivial (fun _ => rfl) fun pdpt allocated => ?_
  obtain rfl : pdpt = placement.pdpt := allocated
  refine ensures_ask_bind trivial fun _ _ => ?_
  have inside : (BitVec.ofNat 64 kPdptEntryCount).toNat ≤ 4096 := by decide
  have cleared := cleared_next placement memory inside
  refine ensures_of_isLinking placement ?_ cleared
  refine confined_ask_bind trivial fun pd => confined_ask_bind trivial fun _ => ?_
  iterate 3 refine (confined_assignField placement _).bind fun _ _ => ?_
  refine confined_ask_bind trivial fun _ => ?_
  refine (confined_assignField placement _).bind fun _ _ => ?_
  refine (confined_filling placement (confined_fillPdpteEntries _ _)).bind fun _ _ => ?_
  refine (confined_filling placement (confined_fillPdeEntries _)).bind fun _ _ => ?_
  trivial

end Initialize

/-- The upper levels of the walk of a low address: the first PML4 entry and one of the first 64 of
the pointer table. -/
theorem index_of_low {guestPhysical : Address} (low : guestPhysical.toNat < 2 ^ 36) :
    (guestPhysical.extractLsb' 39 9).toNat = 0 ∧ (guestPhysical.extractLsb' 30 9).toNat < 64 := by
  rw [BitVec.extractLsb'_toNat, BitVec.extractLsb'_toNat, Nat.shiftRight_eq_div_pow,
    Nat.shiftRight_eq_div_pow]
  omega

/-- The walk of an address comes through its PML4 entry to the pointer table, and its entry there is
zero: it ends. -/
structure EndsAtCleared (placement : Placement) (memory : Memory) (guestPhysical : Address) : Prop where
  linked : EptEntry.nextPageTable (memory.load64 (entryAddress (placement.physical placement.pml4)
    (guestPhysical.extractLsb' 39 9).toNat)) = placement.physical placement.pdpt
  cleared : memory.load64 (entryAddress (placement.physical placement.pdpt)
    (guestPhysical.extractLsb' 30 9).toNat) = 0
  ends : eptWalk memory (placement.physical placement.pml4) guestPhysical = none

/-- The walk of a low address ends at an entry of the pointer table that is zero. -/
theorem endsAtCleared_of_cleared {placement : Placement} {memory : Memory} {guestPhysical : Address}
    (linked : Linked placement memory) (cleared : TableCleared placement memory)
    (low : guestPhysical.toNat < 2 ^ 36) : EndsAtCleared placement memory guestPhysical := by
  obtain ⟨⟨entry, stored⟩, -⟩ := linked
  obtain ⟨first, index⟩ := index_of_low low
  have frame := placement.physical_aligned placement.pdpt placement.pdpt_aligned
  have table : 8 * (guestPhysical.extractLsb' 30 9).toNat + 8 ≤ clearedBytes := by
    have count : clearedBytes = 512 := rfl
    omega
  have reaches : EptEntry.nextPageTable (memory.load64 (entryAddress
      (placement.physical placement.pml4) (guestPhysical.extractLsb' 39 9).toNat)) =
      placement.physical placement.pdpt := by
    rw [first, entryAddress_zero, stored, nextPageTable_frame entry frame placement.bounded]
  have zero : memory.load64 (entryAddress (placement.physical placement.pdpt)
      (guestPhysical.extractLsb' 30 9).toNat) = 0 := Cleared.load64_entry cleared table
  refine ⟨reaches, zero, ?_⟩
  rw [eptWalk, reaches, zero]
  simp only [guard, not_accessible_zero, ↓reduceIte]
  split <;> rfl

/-- **After the function the walk of every guest-physical address below 64 GB ends at a zero entry of
the pointer table, wherever the tables lie and whatever memory held.** -/
theorem unmapped_of_path {placement : Placement} {memory final : Memory}
    {events : List (Event interface)} {status : NTSTATUS} {guestPhysical : Address}
    (path : Path placement.environment initializeEPT memory events (.done status) final)
    (low : guestPhysical.toNat < 2 ^ 36) : EndsAtCleared placement final guestPhysical := by
  have linked := (ensures_initializeEPT placement memory).post_of_path path
  have cleared := (ensures_tableCleared placement memory).post_of_path path
  exact endsAtCleared_of_cleared linked cleared low

theorem unmapped_of_path_flat : ∃ events status final,
    Path flatPlacement.environment initializeEPT (fun _ => 0xFF) events (.done status) final ∧
      EndsAtCleared flatPlacement final 0xFEE00000 := by
  obtain ⟨status, final, events, path⟩ := returns_initializeEPT flatPlacement fun _ => 0xFF
  exact ⟨events, status, final, path, unmapped_of_path path (by decide)⟩

end Guypervisor.Soundness.UnmappedRange
