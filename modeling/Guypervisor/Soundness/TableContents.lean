import Guypervisor.Proofs.Tables
import Guypervisor.Soundness.ContextLeak

/-! # What the tables keep of old memory

The tables are built in blocks of the pool, which hold whatever they held before. PML4 is cleared as
a whole. The other tables are cleared by as many bytes as they have entries of eight bytes, and the
loops that should store every entry fill copies, so seven eighths of both stay as they were found.
-/

namespace Guypervisor.Soundness.TableContents

open Effects Effects.Program Model Code Proofs

/-- Two runs have the same PML4, the same table of page-directory pointers, and the same page
directories. -/
structure TablesAgree (pml4 pdpt pd : Address) (first second : Memory) : Prop where
  upper : ∀ i < kPml4EntryCount,
    first.load64 (entryAddress pml4 i) = second.load64 (entryAddress pml4 i)
  pointers : ∀ i < kPdptEntryCount,
    first.load64 (entryAddress pdpt i) = second.load64 (entryAddress pdpt i)
  directories : ∀ i < kPdptEntryCount, ∀ j < kPageDirectoryEntryCount,
    first.load64 (entryAddress (pdeRow pd i) j) = second.load64 (entryAddress (pdeRow pd i) j)

/-- Two memories hold the same bytes from one offset of a table to another. -/
def AgreeBetween (table : Address) (low high : ℕ) (first second : Memory) : Prop :=
  ∀ offset, low ≤ offset → offset < high →
    first (table + BitVec.ofNat 64 offset) = second (table + BitVec.ofNat 64 offset)

/-- The blocks of the lower tables held the same bytes where `InitializeEPT` does not clear them. -/
def LeftoversAgree (pdpt pd : Address) (first second : Memory) : Prop :=
  AgreeBetween pdpt 512 4096 first second ∧ AgreeBetween pd 262144 2097152 first second

section Entries

variable {first second : Memory}

theorem entryAddress_add (table : Address) (index offset : ℕ) :
    entryAddress table index + BitVec.ofNat 64 offset =
      table + BitVec.ofNat 64 (8 * index + offset) := by
  rw [entryAddress, add_assoc, BitVec.ofNat_add, BitVec.ofNat_mul, mul_comm]
  rfl

/-- The entries of a row are entries of the whole. -/
theorem entryAddress_pdeRow (pd : Address) (i j : ℕ) :
    entryAddress (pdeRow pd i) j = entryAddress pd (512 * i + j) := by
  rw [pdeRow, entryAddress, entryAddress, entryAddress, add_assoc, ← add_mul, ← BitVec.ofNat_add,
    mul_comm i]
  rfl

/-- Tables have the same entries when they have the same bytes. -/
theorem entries_agree_iff (table : Address) (count : ℕ) :
    (∀ i < count, first.load64 (entryAddress table i) = second.load64 (entryAddress table i)) ↔
      AgreeBetween table 0 (8 * count) first second := by
  constructor
  · intro same offset _ inside
    have entry := Memory.load64_eq_iff.mp (same (offset / 8) (by omega)) (offset % 8) (by omega)
    rwa [entryAddress_add, Nat.div_add_mod] at entry
  · intro same i inside
    apply Memory.load64_eq_iff.mpr
    intro offset bound
    rw [entryAddress_add]
    exact same _ (by omega) (by omega)

/-- The rows of the page directories are one table. -/
theorem rows_agree_iff (pd : Address) :
    (∀ i < kPdptEntryCount, ∀ j < kPageDirectoryEntryCount,
      first.load64 (entryAddress (pdeRow pd i) j) =
        second.load64 (entryAddress (pdeRow pd i) j)) ↔
      AgreeBetween pd 0 2097152 first second := by
  rw [show 2097152 = 8 * (512 * 512) from rfl, ← entries_agree_iff]
  simp only [entryAddress_pdeRow, kPdptEntryCount, kPageDirectoryEntryCount]
  constructor
  · intro same k inside
    have entry := same (k / 512) (by omega) (k % 512) (by omega)
    rwa [Nat.div_add_mod] at entry
  · intro same i rows j columns
    exact same _ (by omega)

theorem tablesAgree_iff_bytes (pml4 pdpt pd : Address) :
    TablesAgree pml4 pdpt pd first second ↔ AgreeBetween pml4 0 4096 first second ∧
      AgreeBetween pdpt 0 4096 first second ∧ AgreeBetween pd 0 2097152 first second := by
  rw [← rows_agree_iff, show 4096 = 8 * 512 from rfl, ← entries_agree_iff, ← entries_agree_iff]
  constructor
  · rintro ⟨upper, pointers, directories⟩
    exact ⟨upper, pointers, directories⟩
  · rintro ⟨upper, pointers, directories⟩
    exact ⟨upper, pointers, directories⟩

end Entries

section Bytes

variable {physical : Address → Address} {memory : Memory} {pml4 pdpt pd : Address}
  {state : KernelMemory}

/-- Writing inside one block keeps a block apart from it. -/
theorem write_apart {block other : Block 64} (apart : block.Apart other)
    (fits : block.base.toNat + block.bytes.toNat ≤ 2 ^ 64)
    (otherFits : other.base.toNat + other.bytes.toNat ≤ 2 ^ 64) {count offset : ℕ}
    (byte : ℕ → BitVec 8) (inside : offset < block.bytes.toNat)
    (short : count ≤ other.bytes.toNat) :
    memory.write other.base count byte (block.base + BitVec.ofNat 64 offset) =
      memory (block.base + BitVec.ofNat 64 offset) := by
  apply Memory.write_of_not_lt
  intro near
  apply apart.not_contains (Block.contains_add fits inside)
  exact Block.contains_of_sub_lt otherFits (near.trans_le short)

theorem tableBytes_toNat : tableBytes.toNat = 4096 := by decide

theorem directoryBytes_toNat : directoryBytes.toNat = 2097152 := by decide

private theorem entry_fits : 8 ≤ tableBytes.toNat := by decide

private theorem pointers_fit : kPdptEntryCount ≤ tableBytes.toNat := by decide

private theorem directories_fit :
    kPageDirectoryEntryCount * kPdptEntryCount ≤ directoryBytes.toNat := by decide

variable (before : BeforeTables memory pml4 pdpt pd state)
include before

/-- What the blocks of the lower tables held before is what they are found with. -/
private theorem found_pdpt {offset : ℕ} (inside : offset < 4096) :
    state.memory (pdpt + BitVec.ofNat 64 offset) = memory (pdpt + BitVec.ofNat 64 offset) := by
  rw [← tableBytes_toNat] at inside
  apply before.outside
  intro block member
  apply (before.lower.first.apart block member).not_contains
  exact Block.contains_add before.lower.first.fits inside

private theorem found_pd {offset : ℕ} (inside : offset < 2097152) :
    state.memory (pd + BitVec.ofNat 64 offset) = memory (pd + BitVec.ofNat 64 offset) := by
  rw [← directoryBytes_toNat] at inside
  apply before.outside
  intro block member
  apply (before.lower.second.apart block (List.mem_cons_of_mem _ member)).not_contains
  exact Block.contains_add before.lower.second.fits inside

/-- Of the table of page-directory pointers the first 512 bytes are clear, the rest is old. -/
theorem tables_pdpt {offset : ℕ} (inside : offset < 4096) :
    tables physical state.memory pml4 pdpt pd (pdpt + BitVec.ofNat 64 offset) =
      if offset < 512 then 0 else memory (pdpt + BitVec.ofNat 64 offset) := by
  have bytes : offset < tableBytes.toNat := by rwa [tableBytes_toNat]
  have fits := before.lower.first.fits
  have upper := before.lower.first.apart _ before.upper.held
  have directories := Or.symm (before.lower.second.apart _ List.mem_cons_self)
  rw [tables, Memory.store64, write_apart upper fits before.upper.fits _ bytes entry_fits,
    Memory.clear, write_apart directories fits before.lower.second.fits _ bytes directories_fit,
    Memory.clear, Memory.write_add (by omega), found_pdpt before inside]
  rfl

/-- Of the page directories the first 262144 bytes are clear, the rest is old. -/
theorem tables_pd {offset : ℕ} (inside : offset < 2097152) :
    tables physical state.memory pml4 pdpt pd (pd + BitVec.ofNat 64 offset) =
      if offset < 262144 then 0 else memory (pd + BitVec.ofNat 64 offset) := by
  have bytes : offset < directoryBytes.toNat := by rwa [directoryBytes_toNat]
  have fits := before.lower.second.fits
  have upper := before.lower.second.apart _ (List.mem_cons_of_mem _ before.upper.held)
  have pointers := before.lower.second.apart _ List.mem_cons_self
  rw [tables, Memory.store64, write_apart upper fits before.upper.fits _ bytes entry_fits,
    Memory.clear, Memory.write_add (by omega), Memory.clear,
    write_apart pointers fits before.lower.first.fits _ bytes pointers_fit, found_pd before inside]
  rfl

/-- PML4 does not depend on what memory held. -/
theorem tables_pml4 {offset : ℕ} (inside : offset < 4096) :
    tables physical state.memory pml4 pdpt pd (pml4 + BitVec.ofNat 64 offset) =
      if offset < 8 then (link physical pdpt 0).extractLsb' (8 * offset) 8 else 0 := by
  have clear : ∀ offset < 4096, ((state.memory.clear pdpt kPdptEntryCount).clear pd
      (kPageDirectoryEntryCount * kPdptEntryCount)) (pml4 + BitVec.ofNat 64 offset) = 0 := by
    intro offset inside
    rw [← tableBytes_toNat] at inside
    exact Memory.clear_eq_zero (Memory.clear_eq_zero (before.upper.zero offset inside))
  have word : ((state.memory.clear pdpt kPdptEntryCount).clear pd
      (kPageDirectoryEntryCount * kPdptEntryCount)).load64 pml4 = 0 := by
    apply Memory.load64_of_bytes
    intro offset bound
    rw [clear offset (by omega)]
    exact BitVec.extractLsb'_zero.symm
  rw [tables, word, Memory.store64, Memory.write_add (by omega), clear offset inside]

end Bytes

/-- Tables whose beginnings were cleared agree when what was left does. -/
theorem agreeBetween_iff_leftover {table : Address} {low high : ℕ}
    {first second old other : Memory}
    (found : ∀ offset < high, first (table + BitVec.ofNat 64 offset) =
      if offset < low then 0 else old (table + BitVec.ofNat 64 offset))
    (otherFound : ∀ offset < high, second (table + BitVec.ofNat 64 offset) =
      if offset < low then 0 else other (table + BitVec.ofNat 64 offset)) :
    AgreeBetween table 0 high first second ↔ AgreeBetween table low high old other := by
  constructor
  · intro same offset left inside
    have byte := same offset (Nat.zero_le _) inside
    rwa [found offset inside, otherFound offset inside, if_neg (by omega),
      if_neg (by omega)] at byte
  · intro same offset _ inside
    rw [found offset inside, otherFound offset inside]
    split
    · rfl
    · exact same offset (by omega) inside

/-- Tables built on two memories agree when the memories do where nothing is cleared. -/
private theorem tablesAgree_iff_leftovers {physical : Address → Address}
    {memory other : Memory} {pml4 pdpt pd : Address} {state otherState : KernelMemory}
    (before : BeforeTables memory pml4 pdpt pd state)
    (otherBefore : BeforeTables other pml4 pdpt pd otherState) :
    TablesAgree pml4 pdpt pd (tables physical state.memory pml4 pdpt pd)
        (tables physical otherState.memory pml4 pdpt pd) ↔
      LeftoversAgree pdpt pd memory other := by
  have upper : AgreeBetween pml4 0 4096 (tables physical state.memory pml4 pdpt pd)
      (tables physical otherState.memory pml4 pdpt pd) := by
    intro offset _ inside
    rw [tables_pml4 before inside, tables_pml4 otherBefore inside]
  rw [tablesAgree_iff_bytes, and_iff_right upper]
  apply and_congr
  · exact agreeBetween_iff_leftover (fun _ => tables_pdpt before) fun _ => tables_pdpt otherBefore
  · exact agreeBetween_iff_leftover (fun _ => tables_pd before) fun _ => tables_pd otherBefore

/-- The exact extent of the defect: two runs on the same addresses build the same tables when the
blocks of the two lower ones held the same bytes from offsets 512 and 262144 on. -/
theorem tablesAgree_iff {physical : Address → Address} {field otherField : ContextField → Address}
    {memory otherMemory : Memory} {events otherEvents : List (Event interface)}
    {status otherStatus : NTSTATUS} {first second : KernelMemory}
    {context vmxon vmcs pml4 bitmap guest host pdpt pd : Address}
    (path : Path (KernelMemory.environment physical) setUpTables (.start field memory) events
      (.done status) first)
    (otherPath : Path (KernelMemory.environment physical) setUpTables
      (.start otherField otherMemory) otherEvents (.done otherStatus) second)
    (pointers : first.pointers = [context, vmxon, vmcs, pml4, bitmap, guest, host, pdpt, pd])
    (samePointers : second.pointers = first.pointers) :
    TablesAgree pml4 pdpt pd first.memory second.memory ↔
      LeftoversAgree pdpt pd memory otherMemory := by
  obtain ⟨state, before, built⟩ := tables_of_path path pointers
  obtain ⟨otherState, otherBefore, otherBuilt⟩ :=
    tables_of_path otherPath (samePointers.trans pointers)
  rw [built, otherBuilt]
  exact tablesAgree_iff_leftovers before otherBefore

section Runs

/-- The filling loops run to their end. -/
private theorem reaches_filling {physical : Address → Address} {program : Code PUnit}
    (confined : program.Confined IsFilling fun _ => True) (state : KernelMemory) :
    Reaches (KernelMemory.environment physical) program state (.done PUnit.unit) state := by
  have answered : ∀ op, IsFilling op → ∃ response,
      (KernelMemory.environment physical).allows state op response ∧
        (KernelMemory.environment physical).next state op response = state := by
    intro op filling
    cases op with
    | load64 address => exact ⟨_, ⟨trivial, rfl⟩, next_eq_self rfl rfl rfl⟩
    | getPhysicalAddress address => exact ⟨_, ⟨trivial, rfl⟩, next_eq_self rfl rfl rfl⟩
    | _ => exact filling.elim
  obtain ⟨_, _, reaches⟩ := confined.returns answered
  exact reaches

/-- With a context and two fresh blocks `InitializeEPT` runs to its end. -/
theorem reaches_initializeEPT (physical : Address → Address) {state : KernelMemory}
    {pdpt pd : Address} (valid : state.heap.kProcessorContext ≠ 0)
    (first : Block.Fresh state.heap.blocks ⟨pdpt, tableBytes⟩)
    (second : Block.Fresh (state.heap.next (.allocatePool tableBytes) pdpt).blocks
      ⟨pd, directoryBytes⟩) :
    ∃ final, Reaches (KernelMemory.environment physical) initializeEPT state (.done statusSuccess)
      final ∧ final.heap.kProcessorContext = state.heap.kProcessorContext ∧
        final.pointers = state.pointers ++ [pdpt, pd] := by
  refine ⟨?final, ?run, ?context, ?pointers⟩
  case run =>
    refine .step _ ⟨rfl, trivial⟩ ?_
    refine .step _ ⟨⟨valid, rfl, rfl⟩, trivial⟩ ?_
    refine .step pdpt ⟨.inr first, trivial⟩ ?_
    refine .step () ⟨first.nonzero, trivial⟩ ?_
    refine .step pd ⟨.inr second, trivial⟩ ?_
    refine .step () ⟨second.nonzero, trivial⟩ ?_
    iterate 3
      refine .step _ ⟨trivial, rfl⟩ ?_
      refine .step () ⟨trivial, trivial⟩ ?_
    refine .step _ ⟨trivial, rfl⟩ ?_
    refine .step _ ⟨trivial, rfl⟩ ?_
    refine .step () ⟨trivial, trivial⟩ ?_
    apply (reaches_filling (confined_fillPdpteEntries pdpt pd) _).andThen
    apply (reaches_filling (confined_fillPdeEntries pd) _).andThen
    exact .refl _ _
  case context => rfl
  case pointers => simp [KernelMemory.environment, KernelMemory.next, KernelMemory.answer]

/-- The kernel's answers while the context is filled: every allocation gets the next block. -/
def setUpAnswer (state : KernelMemory) : (op : Op) → Option op.Response
  | .load32 _ | .load64 _ | .getPhysicalAddress _ => none
  | op => ContextLeak.granted state.heap op

private theorem allows_of_setUpAnswer (state : KernelMemory) (op : Op) (response : op.Response)
    (answered : setUpAnswer state op = some response) :
    (KernelMemory.environment id).allows state op response := by
  cases op with
  | load32 | load64 | getPhysicalAddress => contradiction
  | _ => exact ⟨(ContextLeak.allows_of_granted state.heap _ response answered).1, trivial⟩

/-- Clear memory, but perhaps for one byte of what will be the table of page-directory pointers. -/
def leftover (dirty : Bool) : Memory :=
  Function.update (fun _ => 0) 0x80200 (if dirty then 7 else 0)

/-- The answers of the allocators in the runs below. -/
def blockPointers : List Address :=
  [0x10000, 0x20000, 0x30000, 0x40000, 0x50000, 0x60000, 0x70000, 0x80000, 0x90000]

/-- Where the context was filled, and two more blocks can be granted, the setup runs to its end. -/
private theorem reaches_setUpTables {physical : Address → Address} {start between : KernelMemory}
    {status : NTSTATUS} {pdpt pd : Address}
    (filled : Reaches (KernelMemory.environment physical) ContextCleanup.setUp start (.done status)
      between)
    (valid : between.heap.kProcessorContext ≠ 0)
    (first : Block.Fresh between.heap.blocks ⟨pdpt, tableBytes⟩)
    (second : Block.Fresh (between.heap.next (.allocatePool tableBytes) pdpt).blocks
      ⟨pd, directoryBytes⟩) :
    ∃ final, Reaches (KernelMemory.environment physical) setUpTables start (.done statusSuccess)
      final ∧ final.heap.kProcessorContext ≠ 0 ∧ final.pointers = between.pointers ++ [pdpt, pd] := by
  obtain ⟨final, built, context, pointers⟩ := reaches_initializeEPT physical valid first second
  have run := filled.bind fun _ => initializeEPT
  rw [ContextCleanup.setUp, bind_assoc] at run
  refine ⟨final, run.trans built, ?_, pointers⟩
  rw [context]
  exact valid

/-- On either memory the setup runs to its end. -/
theorem reaches_leftover (dirty : Bool) :
    ∃ final, Reaches (KernelMemory.environment id) setUpTables
      (.start (fun _ => 0) (leftover dirty)) (.done statusSuccess) final ∧
        final.heap.kProcessorContext ≠ 0 ∧ final.pointers = blockPointers := by
  cases dirty with
  | false =>
    have filled : Reaches (KernelMemory.environment id) ContextCleanup.setUp
        (.start (fun _ => 0) (leftover false)) (.done statusSuccess) _ :=
      reaches_drive allows_of_setUpAnswer 40 statusSuccess (by decide +kernel)
    exact reaches_setUpTables filled (by decide +kernel) (by decide +kernel) (by decide +kernel)
  | true =>
    have filled : Reaches (KernelMemory.environment id) ContextCleanup.setUp
        (.start (fun _ => 0) (leftover true)) (.done statusSuccess) _ :=
      reaches_drive allows_of_setUpAnswer 40 statusSuccess (by decide +kernel)
    exact reaches_setUpTables filled (by decide +kernel) (by decide +kernel) (by decide +kernel)

/-- Runs on both memories, and what the exact extent says of them. -/
theorem tablesAgree_iff_leftover : ∃ first second : KernelMemory,
    Reaches (KernelMemory.environment id) setUpTables (.start (fun _ => 0) (leftover false))
        (.done statusSuccess) first ∧
      Reaches (KernelMemory.environment id) setUpTables (.start (fun _ => 0) (leftover true))
        (.done statusSuccess) second ∧
      (TablesAgree 0x40000 0x80000 0x90000 first.memory second.memory ↔
        LeftoversAgree 0x80000 0x90000 (leftover false) (leftover true)) := by
  obtain ⟨first, ⟨events, path⟩, -, pointers⟩ := reaches_leftover false
  obtain ⟨second, ⟨otherEvents, otherPath⟩, -, otherPointers⟩ := reaches_leftover true
  refine ⟨first, second, ⟨events, path⟩, ⟨otherEvents, otherPath⟩, ?_⟩
  exact tablesAgree_iff path otherPath pointers (otherPointers.trans pointers.symm)

/-- The blocks of the pool that the two functions are handed. -/
def poolBlocks (pml4 guest host pdpt pd : Address) : List (Block 64) :=
  [⟨pml4, tableBytes⟩, ⟨guest, kStackSize⟩, ⟨host, kStackSize⟩, ⟨pdpt, tableBytes⟩,
    ⟨pd, directoryBytes⟩]

/-- One byte that was left in the block of the table of page-directory pointers is a difference
between the tables of two runs that are the same in everything else. -/
theorem not_tablesAgree : ¬ ∀ (physical : Address → Address) (field : ContextField → Address)
    (memory other : Memory) (events otherEvents : List (Event interface)) (status : NTSTATUS)
    (first second : KernelMemory) (context vmxon vmcs pml4 bitmap guest host pdpt pd : Address),
    (∀ address, (∀ block ∈ poolBlocks pml4 guest host pdpt pd, ¬ block.Contains address) →
      memory address = other address) →
    Path (KernelMemory.environment physical) setUpTables (.start field memory) events
      (.done status) first →
    Path (KernelMemory.environment physical) setUpTables (.start field other) otherEvents
      (.done status) second →
    first.pointers = [context, vmxon, vmcs, pml4, bitmap, guest, host, pdpt, pd] →
    second.pointers = first.pointers → TablesAgree pml4 pdpt pd first.memory second.memory := by
  intro agree
  obtain ⟨first, ⟨events, path⟩, -, pointers⟩ := reaches_leftover false
  obtain ⟨second, ⟨otherEvents, otherPath⟩, -, otherPointers⟩ := reaches_leftover true
  have elsewhere : ∀ address, (∀ block ∈ poolBlocks 0x40000 0x60000 0x70000 0x80000 0x90000,
      ¬ block.Contains address) → leftover false address = leftover true address := by
    intro address outside
    have other : address ≠ 0x80200 := by
      rintro rfl
      apply outside ⟨0x80000, tableBytes⟩ (by simp [poolBlocks])
      exact ⟨by decide, by decide⟩
    rw [leftover, leftover, Function.update_of_ne other, Function.update_of_ne other]
  have same := agree id _ _ _ events otherEvents statusSuccess first second _ _ _ _ _ _ _ _ _
    elsewhere path otherPath pointers (otherPointers.trans pointers.symm)
  obtain ⟨state, before, built⟩ := tables_of_path path pointers
  obtain ⟨otherState, otherBefore, otherBuilt⟩ := tables_of_path otherPath otherPointers
  rw [built, otherBuilt] at same
  have left := ((tablesAgree_iff_leftovers before otherBefore).mp same).1 512 le_rfl (by decide)
  revert left
  decide

end Runs

end Guypervisor.Soundness.TableContents
