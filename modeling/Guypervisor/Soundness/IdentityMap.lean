import Guypervisor.Model.Ept
import Guypervisor.Proofs.Setup

/-! # The map `InitializeEPT` builds

The function links PML4 entry 0 to the table of page-directory pointers, but fills that table and
the page directories through copies of their entries, which are dropped. The first 512 bytes of the
pointer table were cleared and stay clear, so the walk of guest-physical address 0 ends at its
first entry, wherever the tables lie and whatever memory held before.
-/

namespace Guypervisor.Soundness.IdentityMap

open Effects Effects.Program Model Code Proofs

/-- Every guest-physical address below 512 GiB is mapped to itself. -/
def IdentityMapped (placement : Placement) (memory : Memory) : Prop :=
  ∀ guestPhysical : Address, guestPhysical.toNat < 2 ^ 39 →
    eptWalk memory (placement.physical placement.pml4) guestPhysical = some guestPhysical

section Words

variable {memory : Memory} {address : Address}

/-- The eight bytes from an address on are zero. -/
def ZeroAt (memory : Memory) (address : Address) : Prop :=
  ∀ offset < 8, memory (address + BitVec.ofNat 64 offset) = 0

theorem load64_of_zeroAt (zero : ZeroAt memory address) : memory.load64 address = 0 := by
  refine Memory.load64_of_bytes fun offset bound => ?_
  rw [zero offset bound]
  exact BitVec.extractLsb'_zero.symm

end Words

section Bytes

/-- Addresses near the beginning of two frames are the same only in the same frame. -/
theorem frame_eq {frame other : Address} {offset offset' : ℕ} (aligned : frame.toNat % 4096 = 0)
    (otherAligned : other.toNat % 4096 = 0) (inside : offset < 4096) (inside' : offset' < 4096)
    (same : frame + BitVec.ofNat 64 offset = other + BitVec.ofNat 64 offset') :
    frame = other ∧ offset = offset' := by
  have sums := congrArg BitVec.toNat same
  rw [BitVec.toNat_add, BitVec.toNat_add, BitVec.toNat_ofNat, BitVec.toNat_ofNat] at sums
  have frameBound := frame.isLt
  have otherBound := other.isLt
  have offsets : offset = offset' := by omega
  refine ⟨BitVec.eq_of_toNat_eq ?_, offsets⟩
  omega

variable (placement : Placement) {memory : Memory} {page : Address}
  (aligned : page.toNat % 4096 = 0)
include aligned

/-- The bytes at the beginning of a page lie at the beginning of its frame. -/
theorem bytes_page {count : ℕ} (inside : count ≤ 4096) (byte : ℕ → BitVec 8) :
    placement.bytes page count byte = (List.range count).map fun offset =>
      (placement.physical page + BitVec.ofNat 64 offset, byte offset) := by
  refine List.map_congr_left fun offset member => ?_
  have bound := List.mem_range.mp member
  rw [placement.physical_add page _ aligned (by rw [BitVec.toNat_ofNat]; omega)]

theorem keys_bytes_page {count : ℕ} (inside : count ≤ 4096) (byte : ℕ → BitVec 8) :
    (placement.bytes page count byte).keys = (List.range count).map fun offset =>
      placement.physical page + BitVec.ofNat 64 offset := by
  rw [bytes_page placement aligned inside, WriteLog.keys, List.map_map]
  rfl

/-- A word stored at the beginning of a page is found there. -/
theorem load64_store (value : BitVec 64) :
    (placement.write memory page 8 fun offset => value.extractLsb' (8 * offset) 8).load64
      (placement.physical page) = value := by
  have frame := placement.physical_aligned page aligned
  refine Memory.load64_of_bytes fun offset bound => ?_
  refine WriteLog.replay_of_mem ?_ ?_ memory
  · rw [keys_bytes_page placement aligned (by omega)]
    refine List.Nodup.map_on (fun first left second right same => ?_) List.nodup_range
    have firstBound := List.mem_range.mp left
    have secondBound := List.mem_range.mp right
    exact (frame_eq frame frame (by omega) (by omega) same).2
  · rw [bytes_page placement aligned (by omega)]
    exact List.mem_map.mpr ⟨offset, List.mem_range.mpr bound, rfl⟩

/-- Storing at the beginning of a page keeps what is zero at the beginning of another. -/
theorem zeroAt_store {other : Address} (otherAligned : other.toNat % 4096 = 0)
    (elsewhere : placement.physical page ≠ placement.physical other) (byte : ℕ → BitVec 8)
    (zero : ZeroAt memory (placement.physical other)) :
    ZeroAt (placement.write memory page 8 byte) (placement.physical other) := by
  intro offset bound
  have unwritten : placement.physical other + BitVec.ofNat 64 offset ∉
      (placement.bytes page 8 byte).keys := by
    rw [keys_bytes_page placement aligned (by omega)]
    intro written
    obtain ⟨stored, member, same⟩ := List.mem_map.mp written
    have storedBound := List.mem_range.mp member
    exact elsewhere (frame_eq (placement.physical_aligned page aligned)
      (placement.physical_aligned other otherAligned) (by omega) (by omega) same).1
  rw [Placement.write, WriteLog.replay_of_notMem unwritten]
  exact zero offset bound

/-- Clearing from the beginning of a page on. -/
theorem zeroAt_zero {count : ℕ} (enough : 8 ≤ count) (inside : count ≤ 4096) :
    ZeroAt (placement.write memory page count fun _ => 0) (placement.physical page) := by
  intro offset bound
  have written : placement.physical page + BitVec.ofNat 64 offset ∈
      (placement.bytes page count fun _ => 0).keys := by
    rw [keys_bytes_page placement aligned inside]
    exact List.mem_map.mpr ⟨offset, List.mem_range.mpr (by omega), rfl⟩
  obtain ⟨_, _, same⟩ := List.mem_map.mp (WriteLog.mem_of_mem_keys written memory)
  exact (congrArg Prod.snd same).symm

end Bytes

/-- Clearing anything keeps what is zero. -/
theorem zeroAt_clear (placement : Placement) {memory : Memory} {address : Address}
    (zero : ZeroAt memory address) (cleared : Address) (count : ℕ) :
    ZeroAt (placement.write memory cleared count fun _ => 0) address := by
  intro offset bound
  by_cases written : address + BitVec.ofNat 64 offset ∈
      (placement.bytes cleared count fun _ => 0).keys
  · obtain ⟨_, _, same⟩ := List.mem_map.mp (WriteLog.mem_of_mem_keys written memory)
    exact (congrArg Prod.snd same).symm
  · rw [Placement.write, WriteLog.replay_of_notMem written]
    exact zero offset bound

/-- The field of an entry keeps any 40 bits. -/
theorem nextPageTable_setNextPageTable (entry : EptEntry) (page : BitVec 64) :
    (entry.setNextPageTable page).nextPageTable = (page.setWidth 40).setWidth 64 <<< 12 := by
  have masks : (0xFFF0000000000FFF &&& 0x000FFFFFFFFFF000 : BitVec 64) = 0 := by decide
  have mask : (0x000FFFFFFFFFF000 : BitVec 64) = (BitVec.allOnes 40).setWidth 64 <<< 12 := by decide
  rw [EptEntry.setNextPageTable, EptEntry.nextPageTable, BitVec.and_or_distrib_right,
    BitVec.and_assoc, masks, mask, ← BitVec.shiftLeft_and_distrib, ← BitVec.setWidth_and,
    BitVec.and_allOnes]
  simp

/-- A frame is found again behind the field it was put into. -/
theorem nextPageTable_frame (entry : EptEntry) {frame : Address}
    (aligned : frame.toNat % 4096 = 0) (bounded : frame.toNat < 2 ^ 52) :
    (entry.setNextPageTable (frame.sdiv pageSize)).nextPageTable = frame := by
  have positive : frame.msb = false := by
    rw [BitVec.msb_eq_false_iff_two_mul_lt]
    omega
  have quotient : frame.sdiv pageSize = frame / 4096 := by
    rw [BitVec.sdiv, positive]
    rfl
  rw [nextPageTable_setNextPageTable, quotient]
  apply BitVec.eq_of_toNat_eq
  rw [BitVec.toNat_shiftLeft, BitVec.toNat_setWidth, BitVec.toNat_setWidth, BitVec.toNat_udiv,
    Nat.shiftLeft_eq]
  change frame.toNat / 4096 % 2 ^ 40 % 2 ^ 64 * 2 ^ 12 % 2 ^ 64 = frame.toNat
  omega

/-- What memory holds after the function: PML4 entry 0 leads to the pointer table, whose first
entry is zero. -/
def Linked (placement : Placement) (memory : Memory) : Prop :=
  (∃ entry : EptEntry, memory.load64 (placement.physical placement.pml4) =
    entry.setNextPageTable ((placement.physical placement.pdpt).sdiv pageSize)) ∧
  ZeroAt memory (placement.physical placement.pdpt)

theorem not_accessible_zero : ¬ EptEntry.Accessible 0 := by decide

/-- The walk of address 0 finds the first entry of the pointer table inaccessible. -/
theorem eptWalk_zero {placement : Placement} {memory : Memory} (linked : Linked placement memory) :
    eptWalk memory (placement.physical placement.pml4) 0 = none := by
  obtain ⟨⟨entry, stored⟩, zero⟩ := linked
  have frame := placement.physical_aligned placement.pdpt placement.pdpt_aligned
  have first (start : ℕ) : ((0 : Address).extractLsb' start 9).toNat = 0 := by simp
  rw [eptWalk, first, first, entryAddress_zero, entryAddress_zero, stored,
    nextPageTable_frame entry frame placement.bounded, load64_of_zeroAt zero]
  simp only [guard, not_accessible_zero, ↓reduceIte]
  split <;> rfl

theorem not_identityMapped_of_linked {placement : Placement} {memory : Memory}
    (linked : Linked placement memory) : ¬ IdentityMapped placement memory := by
  intro mapped
  have walked := mapped 0 (by decide)
  rw [eptWalk_zero linked] at walked
  contradiction

/-- No operation is excluded. -/
private abbrev anyMemoryOp (_ : Memory) (_ : Op) : Prop := True

/-- A loop that only fills copies changes nothing. -/
theorem ensures_of_isFilling {placement : Placement} {memory : Memory} {program : Code PUnit}
    (confined : program.Confined IsFilling fun _ => True) :
    program.Ensures placement.environment anyMemoryOp memory fun _ final => final = memory := by
  have passes : Passes placement.environment anyMemoryOp IsFilling memory := by
    refine ⟨fun _ _ => trivial, fun op _ filling _ => ?_⟩
    cases op <;> first | rfl | exact filling.elim
  exact (confined.ensures passes).mono fun _ _ kept => kept.2

section Initialize

variable (placement : Placement)

theorem next_allocatePool (memory : Memory) (bytes : BitVec 64) (response : Address) :
    placement.environment.next memory (.allocatePool bytes) response = memory := rfl

/-- Clearing the beginning of the pointer table. -/
theorem zeroAt_next_pdpt (memory : Memory) {count : BitVec 64} (enough : 8 ≤ count.toNat)
    (inside : count.toNat ≤ 4096) (response : Unit) :
    ZeroAt (placement.environment.next memory (.zeroMemory placement.pdpt count) response)
      (placement.physical placement.pdpt) :=
  zeroAt_zero placement placement.pdpt_aligned enough inside

theorem zeroAt_next_zeroMemory {memory : Memory} {address : Address} (zero : ZeroAt memory address)
    (cleared : Address) (count : BitVec 64) (response : Unit) :
    ZeroAt (placement.environment.next memory (.zeroMemory cleared count) response) address :=
  zeroAt_clear placement zero cleared count.toNat

/-- An assignment to PML4 entry 0 is found there, and keeps the beginning of the pointer table
clear. -/
theorem ensures_assignField {memory : Memory} (assign : EptEntry → EptEntry)
    (zero : ZeroAt memory (placement.physical placement.pdpt)) :
    (assignField (entryAddress placement.pml4 0) assign).Ensures placement.environment
      anyMemoryOp memory fun _ final =>
        (∃ entry : EptEntry,
          final.load64 (placement.physical placement.pml4) = assign entry) ∧
        ZeroAt final (placement.physical placement.pdpt) := by
  rw [entryAddress_zero]
  refine ensures_ask_bind trivial fun entry _ => ?_
  refine ⟨trivial, fun _ _ => ⟨⟨entry, load64_store placement placement.pml4_aligned _⟩, ?_⟩⟩
  exact zeroAt_store placement placement.pml4_aligned placement.pdpt_aligned placement.distinct
    (fun offset => (assign entry).extractLsb' (8 * offset) 8) zero

/-- Whatever memory held, the tables are linked as far as the pointer table and no further. -/
theorem ensures_initializeEPT (memory : Memory) :
    initializeEPT.Ensures placement.environment anyMemoryOp memory fun _ final =>
      Linked placement final := by
  refine ensures_steady_bind trivial (fun _ => rfl) fun context => ?_
  refine ensures_query_bind trivial (fun _ => rfl) fun pml4 loaded => ?_
  obtain rfl : pml4 = placement.pml4 := loaded
  refine ensures_query_bind trivial (fun _ => rfl) fun pdpt allocated => ?_
  obtain rfl : pdpt = placement.pdpt := allocated
  refine ensures_ask_bind trivial fun first _ => ?_
  have enough : 8 ≤ (BitVec.ofNat 64 kPdptEntryCount).toNat := by decide
  have inside : (BitVec.ofNat 64 kPdptEntryCount).toNat ≤ 4096 := by decide
  have cleared := zeroAt_next_pdpt placement memory enough inside first
  refine ensures_steady_bind trivial (next_allocatePool placement _ _) fun pd => ?_
  refine ensures_ask_bind trivial fun second _ => ?_
  have kept := zeroAt_next_zeroMemory placement cleared pd
    (BitVec.ofNat 64 (kPageDirectoryEntryCount * kPdptEntryCount)) second
  refine (ensures_assignField placement _ kept).bind fun _ _ read => ?_
  refine (ensures_assignField placement _ read.2).bind fun _ _ write => ?_
  refine (ensures_assignField placement _ write.2).bind fun _ _ execute => ?_
  refine ensures_query_bind trivial (fun _ => rfl) fun physical translated => ?_
  obtain rfl : physical = placement.physical placement.pdpt := translated
  refine (ensures_assignField placement _ execute.2).bind fun _ _ linked => ?_
  refine (ensures_of_isFilling (confined_fillPdpteEntries _ pd)).bind ?_
  rintro _ _ rfl
  refine (ensures_of_isFilling (confined_fillPdeEntries pd)).bind ?_
  rintro _ _ rfl
  exact linked

end Initialize

/-- The function returns, wherever the tables lie. -/
theorem returns_initializeEPT (placement : Placement) (memory : Memory) :
    ∃ status final, Reaches placement.environment initializeEPT memory (.done status) final := by
  refine confined_initializeEPT.finishes (fun state op work => ?_) memory
  cases op with
  | loadContext => exact ⟨(0 : Address), trivial⟩
  | loadField context field =>
    cases field <;> first | exact work.elim | exact ⟨_, rfl⟩
  | store64 | zeroMemory => exact ⟨(), trivial⟩
  | allocatePool | load64 | getPhysicalAddress => exact ⟨_, rfl⟩
  | _ => exact work.elim

/-- For no placement of the tables and no earlier contents of memory does the function leave the
identity map behind. -/
theorem not_identityMapped_of_initializeEPT (placement : Placement) (memory : Memory) :
    ¬ ∃ status final, Reaches placement.environment initializeEPT memory (.done status) final ∧
      IdentityMapped placement final := by
  rintro ⟨status, final, ⟨events, path⟩, mapped⟩
  have linked := (ensures_initializeEPT placement memory).post_of_path path
  exact not_identityMapped_of_linked linked mapped

/-- Tables whose virtual addresses are their physical ones. -/
def flatPlacement : Placement where
  physical := id
  pml4 := 0x1000
  pdpt := 0x2000
  pd := 0x200000
  pml4_aligned := by decide
  pdpt_aligned := by decide
  pd_aligned := by decide
  physical_aligned := fun _ aligned => aligned
  physical_add := fun _ _ _ _ => rfl
  distinct := by decide
  bounded := by decide

/-- On zeroed memory, with the tables in low frames, address 0 is not mapped. -/
theorem not_identityMapped : ¬ ∀ (placement : Placement) (memory final : Memory)
    (status : NTSTATUS), Reaches placement.environment initializeEPT memory (.done status) final →
      IdentityMapped placement final := by
  intro mapped
  obtain ⟨status, final, events, path⟩ := returns_initializeEPT flatPlacement fun _ => 0
  have linked := (ensures_initializeEPT flatPlacement _).post_of_path path
  exact not_identityMapped_of_linked linked (mapped _ _ _ status ⟨events, path⟩)

end Guypervisor.Soundness.IdentityMap
