import Guypervisor.Model.KernelMemory
import Guypervisor.Proofs.Setup

/-! # The tables in memory

What setting up the driver does to memory. Until the page directories are allocated, memory changes
only inside blocks in use, and only by being cleared; `InitializeEPT` then clears the beginning of
two fresh blocks and links PML4 entry 0.
-/

namespace Guypervisor.Proofs

open Effects Effects.Program Model Code

/-- The size of one table of 512 entries. -/
def tableBytes : BitVec 64 := BitVec.ofNat 64 kPml4EntryCount * sizeofEntry

/-- The size of the 512 page directories. -/
def directoryBytes : BitVec 64 :=
  BitVec.ofNat 64 (kPdptEntryCount * kPageDirectoryEntryCount) * sizeofEntry

/-- No operation is excluded. -/
private abbrev anyKernelOp (_ : KernelMemory) (_ : Op) : Prop := True

/-- From one state to another the blocks in use only grow, by the given answers of the allocators,
and memory changes only inside them, and only by being cleared. -/
structure Grows (before after : KernelMemory) (answers : List Address) : Prop where
  pointers : after.pointers = before.pointers ++ answers
  held : before.heap.blocks ⊆ after.heap.blocks
  outside : ∀ address, (∀ block ∈ after.heap.blocks, ¬ block.Contains address) →
    after.memory address = before.memory address
  cleared : ∀ address, before.memory address = 0 → after.memory address = 0

section Steps

variable {physical : Address → Address} {before between after : KernelMemory}
  {answers later : List Address}

/-- An operation that changes neither the ledger nor memory, and allocates nothing. -/
theorem next_eq_self {state : KernelMemory} {op : Op} {response : op.Response}
    (ledger : state.heap.next op response = state.heap)
    (memory : KernelMemory.nextMemory state.memory op = state.memory)
    (answered : KernelMemory.answer op response = []) : state.next op response = state := by
  rw [KernelMemory.next, ledger, memory, answered, List.append_nil]

theorem Grows.refl (state : KernelMemory) : Grows state state [] where
  pointers := (List.append_nil _).symm
  held := List.Subset.refl _
  outside _ _ := rfl
  cleared _ zero := zero

theorem Grows.trans (first : Grows before between answers) (second : Grows between after later) :
    Grows before after (answers ++ later) where
  pointers := by rw [second.pointers, first.pointers, List.append_assoc]
  held := List.Subset.trans first.held second.held
  outside address untouched := by
    rw [second.outside address untouched]
    exact first.outside address fun block member => untouched block (second.held member)
  cleared address zero := second.cleared address (first.cleared address zero)

/-- An operation that only adds to the blocks in use. -/
theorem Grows.next (grown : Grows before between answers) (op : Op) (response : op.Response)
    (held : between.heap.blocks ⊆ (between.heap.next op response).blocks)
    (memory : KernelMemory.nextMemory between.memory op = between.memory) :
    Grows before (between.next op response) (answers ++ KernelMemory.answer op response) := by
  apply grown.trans
  constructor
  · rfl
  · exact held
  · intro address _
    exact congrFun memory address
  · intro address zero
    exact (congrFun memory address).trans zero

/-- Clearing the beginning of a block in use. -/
theorem Grows.clear (grown : Grows before between answers) {block : Block 64}
    (member : block ∈ between.heap.blocks)
    (fits : block.base.toNat + block.bytes.toNat ≤ 2 ^ 64) {count : BitVec 64}
    (short : count.toNat ≤ block.bytes.toNat) :
    Grows before (between.next (.zeroMemory block.base count) ()) answers := by
  have step : Grows between (between.next (.zeroMemory block.base count) ()) [] := by
    constructor
    · rfl
    · exact List.Subset.refl _
    · intro address untouched
      change between.memory.write block.base count.toNat (fun _ => 0) address = _
      apply Memory.write_of_not_lt
      intro near
      apply untouched block member
      exact Block.contains_of_sub_lt fits (near.trans_le short)
    · intro address zero
      exact Memory.clear_eq_zero zero
  rw [← List.append_nil answers]
  exact grown.trans step

theorem subset_grant (held : List (Block 64)) (pointer bytes : BitVec 64) :
    held ⊆ Heap.grant held pointer bytes := by
  unfold Heap.grant
  split
  · exact List.Subset.refl _
  · exact List.subset_cons_self _ _

theorem mem_grant {held : List (Block 64)} {pointer bytes : BitVec 64} (nonzero : pointer ≠ 0) :
    ⟨pointer, bytes⟩ ∈ Heap.grant held pointer bytes := by
  rw [Heap.grant, if_neg nonzero]
  exact List.mem_cons_self

/-- The pool is asked for a block. -/
theorem grows_allocatePool (state : KernelMemory) (bytes pointer : BitVec 64) :
    Grows state (state.next (.allocatePool bytes) pointer) [pointer] := by
  have held : state.heap.blocks ⊆ (state.heap.next (.allocatePool bytes) pointer).blocks := by
    intro block member
    rcases List.mem_append.mp member with contiguous | pool
    · exact List.mem_append_left _ contiguous
    · exact List.mem_append_right _ (subset_grant _ _ _ pool)
  exact (Grows.refl state).next _ _ held rfl

/-- The contiguous allocator is asked for a block. -/
theorem grows_allocateContiguous (state : KernelMemory) (bytes highest pointer : BitVec 64) :
    Grows state (state.next (.allocateContiguousMemory bytes highest) pointer) [pointer] := by
  have held : state.heap.blocks ⊆
      (state.heap.next (.allocateContiguousMemory bytes highest) pointer).blocks := by
    intro block member
    rcases List.mem_append.mp member with contiguous | pool
    · exact List.mem_append_left _ (subset_grant _ _ _ contiguous)
    · exact List.mem_append_right _ pool
  exact (Grows.refl state).next _ _ held rfl

/-- A block that is in use and clear. -/
structure IsClear (state : KernelMemory) (block : Block 64) : Prop where
  held : block ∈ state.heap.blocks
  fits : block.base.toNat + block.bytes.toNat ≤ 2 ^ 64
  zero : ∀ address, block.Contains address → state.memory address = 0

theorem IsClear.grows {block : Block 64} (clear : IsClear before block)
    (grown : Grows before after answers) : IsClear after block where
  held := grown.held clear.held
  fits := clear.fits
  zero address inside := grown.cleared address (clear.zero address inside)

/-- What the aligned allocator did: it was answered once, and the block, if there is one, is fresh,
in use and clear. -/
structure Aligns (before after : KernelMemory) (block : Block 64) : Prop where
  grown : Grows before after [block.base]
  granted : block.base ≠ 0 → Block.Fresh before.heap.blocks block ∧ IsClear after block

/-- A table of 512 entries that is in use and clear. -/
structure IsClearTable (state : KernelMemory) (table : Address) : Prop where
  held : ⟨table, tableBytes⟩ ∈ state.heap.blocks
  fits : table.toNat + tableBytes.toNat ≤ 2 ^ 64
  zero : ∀ offset < tableBytes.toNat, state.memory (table + BitVec.ofNat 64 offset) = 0

theorem IsClearTable.grows {table : Address} (clear : IsClearTable before table)
    (grown : Grows before after answers) : IsClearTable after table where
  held := grown.held clear.held
  fits := clear.fits
  zero offset inside := grown.cleared _ (clear.zero offset inside)

end Steps

section Run

variable {physical : Address → Address} {α : Type} {state : KernelMemory}
  {post : α → KernelMemory → Prop}

/-- A block of the pool, if it is granted, is fresh and then in use. -/
theorem ensures_allocatePool_bind {bytes : BitVec 64} {next : Address → Code α}
    (rest : ∀ pointer after, Grows state after [pointer] →
      after.heap.field = state.heap.field →
      (pointer ≠ 0 → Block.Fresh state.heap.blocks ⟨pointer, bytes⟩ ∧
        ⟨pointer, bytes⟩ ∈ after.heap.blocks) →
      (next pointer).Ensures (KernelMemory.environment physical) anyKernelOp after post) :
    (allocatePool bytes >>= next).Ensures (KernelMemory.environment physical) anyKernelOp state
      post := by
  apply ensures_ask_bind trivial
  intro pointer granted
  apply rest pointer _ (grows_allocatePool state bytes pointer) rfl
  intro nonzero
  exact ⟨granted.1.resolve_left nonzero, List.mem_append_right _ (mem_grant nonzero)⟩

/-- A member of the context is stored in the ledger. -/
theorem ensures_storeField_bind {context pointer : Address} {field : ContextField}
    {next : Unit → Code α}
    (rest : ∀ after, Grows state after [] →
      after.heap.field = Function.update state.heap.field field pointer →
      (next ()).Ensures (KernelMemory.environment physical) anyKernelOp after post) :
    (storeField context field pointer >>= next).Ensures (KernelMemory.environment physical)
      anyKernelOp state post := by
  apply ensures_ask_bind trivial
  intro _ _
  apply rest
  · exact (Grows.refl state).next (.storeField context field pointer) () (List.Subset.refl _) rfl
  · rfl

/-- A block of the pool is allocated, and its pointer is stored in a member. -/
theorem ensures_allocateMember_bind {context : Address} {field : ContextField} {bytes : BitVec 64}
    {next : Unit → Code α}
    (rest : ∀ pointer after, Grows state after [pointer] →
      after.heap.field = Function.update state.heap.field field pointer →
      (pointer ≠ 0 → Block.Fresh state.heap.blocks ⟨pointer, bytes⟩ ∧
        ⟨pointer, bytes⟩ ∈ after.heap.blocks) →
      (next ()).Ensures (KernelMemory.environment physical) anyKernelOp after post) :
    (do
      let pointer ← allocatePool bytes
      let stored ← storeField context field pointer
      next stored).Ensures (KernelMemory.environment physical) anyKernelOp state post := by
  apply ensures_allocatePool_bind
  intro pointer _ allocated kept granted
  apply ensures_storeField_bind
  intro after stored fields
  rw [kept] at fields
  apply rest pointer after (allocated.trans stored) fields
  intro nonzero
  obtain ⟨fresh, held⟩ := granted nonzero
  exact ⟨fresh, stored.held held⟩

/-- The aligned allocator makes one allocation, and clears and rounds what it was granted. -/
theorem ensures_allocateAligned_grows (size alignmentSize : BitVec 64) (state : KernelMemory) :
    (allocateContingiousPhysicalMemoryAligned size alignmentSize).Ensures
      (KernelMemory.environment physical) anyKernelOp state fun region final =>
        final.heap.field = state.heap.field ∧ ∃ pointer, region = alignUp pointer alignmentSize ∧
          Aligns state final ⟨pointer, size + alignmentSize⟩ := by
  apply ensures_steady_bind trivial fun _ => next_eq_self rfl rfl rfl
  intro cpu
  apply ensures_ask_bind trivial
  intro pointer granted
  have grown := grows_allocateContiguous state (size + alignmentSize)
    (((1 : BitVec 64) <<< (cpu.eax &&& 0xFF).toNat) - 1) pointer
  split
  · rename_i null
    refine ⟨rfl, pointer, ?_, grown, fun nonzero => absurd null nonzero⟩
    rw [null, alignUp_eq_roundUp, roundUp_zero]
  · rename_i nonzero
    apply ensures_ask_bind trivial
    intro _ _
    have fresh : Block.Fresh state.heap.blocks ⟨pointer, size + alignmentSize⟩ :=
      granted.1.resolve_left nonzero
    have member : ⟨pointer, size + alignmentSize⟩ ∈ (state.next (.allocateContiguousMemory
        (size + alignmentSize) (((1 : BitVec 64) <<< (cpu.eax &&& 0xFF).toNat) - 1))
          pointer).heap.blocks :=
      List.mem_append_left _ (mem_grant nonzero)
    refine ⟨rfl, pointer, rfl, grown.clear member fresh.fits le_rfl, fun _ => ⟨fresh, ?_⟩⟩
    constructor
    · exact member
    · exact fresh.fits
    · exact fun address inside => if_pos inside.sub_lt

/-- Clearing a table that is in use. -/
theorem isClearTable_next {table : Address} (fits : table.toNat + tableBytes.toNat ≤ 2 ^ 64)
    (held : ⟨table, tableBytes⟩ ∈ state.heap.blocks) :
    IsClearTable (state.next (.zeroMemory table tableBytes) ()) table where
  held := held
  fits := fits
  zero offset inside := by
    change state.memory.write table tableBytes.toNat (fun _ => 0) _ = _
    rw [Memory.write_add (by omega), if_pos inside]

/-- Where the context was filled to the end, the third answer is a clear table, and a member. -/
def Filled (answers : List Address) (state : KernelMemory) : Prop :=
  answers.length = 6 → answers[2]? = some (state.heap.field .eptPml4Entries) ∧
    IsClearTable state (state.heap.field .eptPml4Entries)

/-- The block of the VMXON or of the VMCS region. -/
def regionBlock (pointer : Address) : Block 64 := ⟨pointer, sizeofVMCS + kAlignmentSize⟩

/-- A region is null where its block is. -/
theorem Aligns.eq_zero {before after : KernelMemory} {pointer : Address}
    (aligns : Aligns before after (regionBlock pointer))
    (null : alignUp pointer kAlignmentSize = 0) : pointer = 0 := by
  by_contra nonzero
  have fresh := (aligns.granted nonzero).1
  have room : (kAlignmentSize - 1).toNat < (sizeofVMCS + kAlignmentSize).toNat := by decide
  rw [alignUp_eq_roundUp] at null
  exact fresh.roundUp_ne_zero room null

/-- A region is allocated, and its pointer is stored in a member and read back. -/
theorem ensures_allocateRegion_bind {context : Address} {field : ContextField}
    {next : Address → Code α}
    (rest : ∀ pointer after, Aligns state after (regionBlock pointer) →
      after.heap.field =
        Function.update state.heap.field field (alignUp pointer kAlignmentSize) →
      (next (alignUp pointer kAlignmentSize)).Ensures (KernelMemory.environment physical)
        anyKernelOp after post) :
    (do
      let region ← allocateContingiousPhysicalMemoryAligned sizeofVMCS kAlignmentSize
      storeField context field region
      let member ← loadField context field
      next member).Ensures (KernelMemory.environment physical) anyKernelOp state post := by
  apply (ensures_allocateAligned_grows _ _ _).bind
  rintro _ _ ⟨kept, pointer, rfl, aligned⟩
  apply ensures_storeField_bind
  intro after stored fields
  rw [kept] at fields
  apply ensures_query_bind trivial fun _ => next_eq_self rfl rfl rfl
  intro member read
  obtain rfl : member = alignUp pointer kAlignmentSize := by
    rw [read.1.2.2, fields, Function.update_self]
  apply rest pointer after _ fields
  constructor
  · exact aligned.grown.trans stored
  · intro nonzero
    obtain ⟨fresh, clear⟩ := aligned.granted nonzero
    exact ⟨fresh, clear.grows stored⟩

/-- The two regions of a context: members lead to the first page boundary of each block, and the
blocks are clear and apart from each other. -/
structure HasRegions (state : KernelMemory) (vmxon vmcs : Address) : Prop where
  vmxonField : state.heap.field .vmxonRegion = alignUp vmxon kAlignmentSize
  vmcsField : state.heap.field .vmcsRegion = alignUp vmcs kAlignmentSize
  vmxonClear : IsClear state (regionBlock vmxon)
  vmcsClear : IsClear state (regionBlock vmcs)
  apart : (regionBlock vmxon).Apart (regionBlock vmcs)

theorem HasRegions.grows {before after : KernelMemory} {vmxon vmcs : Address}
    {answers : List Address} (regions : HasRegions before vmxon vmcs)
    (grown : Grows before after answers)
    (vmxonKept : after.heap.field .vmxonRegion = before.heap.field .vmxonRegion)
    (vmcsKept : after.heap.field .vmcsRegion = before.heap.field .vmcsRegion) :
    HasRegions after vmxon vmcs where
  vmxonField := vmxonKept.trans regions.vmxonField
  vmcsField := vmcsKept.trans regions.vmcsField
  vmxonClear := regions.vmxonClear.grows grown
  vmcsClear := regions.vmcsClear.grows grown
  apart := regions.apart

/-- The table lies apart from both regions. -/
structure HasTable (state : KernelMemory) (table vmxon vmcs : Address) : Prop where
  clear : IsClearTable state table
  vmxon : (regionBlock vmxon).Apart ⟨table, tableBytes⟩
  vmcs : (regionBlock vmcs).Apart ⟨table, tableBytes⟩

/-- An allocation of a region failed and nothing was allocated after it, or there are both regions,
and the table. -/
def Regions (answers : List Address) (state : KernelMemory) : Prop :=
  answers = [0] ∨ (∃ vmxon, answers = [vmxon, 0]) ∨
    ∃ vmxon vmcs later, answers = vmxon :: vmcs :: later ∧ HasRegions state vmxon vmcs ∧
      HasTable state (state.heap.field .eptPml4Entries) vmxon vmcs

theorem ensures_initializeProcessorContext_grows (state : KernelMemory) :
    initializeProcessorContext.Ensures (KernelMemory.environment physical) anyKernelOp state
      fun _ final => ∃ answers, Grows state final answers ∧ Filled answers final ∧
        Regions answers final := by
  have early {answers : List Address} {final : KernelMemory} (fewer : answers.length < 6) :
      Filled answers final := fun all => absurd all fewer.ne
  apply ensures_steady_bind trivial fun _ => next_eq_self rfl rfl rfl
  intro context
  apply ensures_allocateRegion_bind
  intro vmxon first vmxonAligned vmxonFields
  split
  · rename_i null
    obtain rfl := vmxonAligned.eq_zero null
    exact ⟨_, vmxonAligned.grown, early (by decide), .inl rfl⟩
  rename_i vmxonNonnull
  apply ensures_allocateRegion_bind
  intro vmcs second vmcsAligned vmcsFields
  have grown := vmxonAligned.grown.trans vmcsAligned.grown
  split
  · rename_i null
    obtain rfl := vmcsAligned.eq_zero null
    exact ⟨_, grown, early (by simp), .inr (.inl ⟨vmxon, rfl⟩)⟩
  rename_i vmcsNonnull
  have regions : HasRegions second vmxon vmcs := by
    have nonzero {pointer : Address} (nonnull : alignUp pointer kAlignmentSize ≠ 0) :
        pointer ≠ 0 := by
      rintro rfl
      rw [alignUp_eq_roundUp, roundUp_zero] at nonnull
      contradiction
    obtain ⟨_, vmxonClear⟩ := vmxonAligned.granted (nonzero vmxonNonnull)
    obtain ⟨fresh, vmcsClear⟩ := vmcsAligned.granted (nonzero vmcsNonnull)
    constructor
    · rw [vmcsFields, vmxonFields]
      rfl
    · rw [vmcsFields, Function.update_self]
    · exact vmxonClear.grows vmcsAligned.grown
    · exact vmcsClear
    · exact Or.symm (fresh.apart _ vmxonClear.held)
  apply ensures_allocateMember_bind
  intro table filled allocated fields granted
  apply ensures_query_bind trivial fun _ => next_eq_self rfl rfl rfl
  intro member read
  obtain rfl : member = table := by
    rw [read.1.2.2, fields, Function.update_self]
  apply ensures_ask_bind trivial
  intro _ cleared
  obtain ⟨fresh, held⟩ := granted cleared.1
  have wiped := allocated.clear held fresh.fits le_rfl
  have ready := isClearTable_next fresh.fits held
  apply (ensures_allocateAligned_grows _ _ _).bind
  rintro _ _ ⟨bitmapKept, bitmap, rfl, allocatedBitmap⟩
  apply ensures_storeField_bind
  intro _ storedBitmap bitmapFields
  apply ensures_allocateMember_bind
  intro guest _ allocatedGuest guestFields _
  apply ensures_allocateMember_bind
  intro host final allocatedHost hostFields _
  have later := ((allocatedBitmap.grown.trans storedBitmap).trans allocatedGuest).trans
    allocatedHost
  have kept : final.heap.field =
      Function.update (Function.update (Function.update (Function.update second.heap.field
        .eptPml4Entries member) .msrBitmap (alignUp bitmap kAlignmentSize)) .guestStack guest)
        .hostStack host := by
    rw [hostFields, guestFields, bitmapFields, bitmapKept, ← fields]
    rfl
  have found : final.heap.field .eptPml4Entries = member := by
    rw [kept]
    rfl
  have others := wiped.trans later
  refine ⟨_, grown.trans others, fun _ => ?_, .inr (.inr ⟨vmxon, vmcs, _, rfl, ?_, ?_⟩)⟩
  · rw [found]
    exact ⟨rfl, ready.grows later⟩
  · exact regions.grows others (by rw [kept]; rfl) (by rw [kept]; rfl)
  · rw [found]
    constructor
    · exact ready.grows later
    · exact Or.symm (fresh.apart _ regions.vmxonClear.held)
    · exact Or.symm (fresh.apart _ regions.vmcsClear.held)

/-- What the four assignments make of PML4 entry 0. -/
def link (physical : Address → Address) (pdpt : Address) (entry : EptEntry) : EptEntry :=
  entry.setReadAccess.setWriteAccess.setExecuteAccess.setNextPageTable
    ((physical pdpt).sdiv pageSize)

/-- Memory after `InitializeEPT`: as many bytes of the two new tables are cleared as they have
entries. -/
def tables (physical : Address → Address) (memory : Memory) (pml4 pdpt pd : Address) : Memory :=
  let cleared := (memory.clear pdpt kPdptEntryCount).clear pd
    (kPageDirectoryEntryCount * kPdptEntryCount)
  cleared.store64 pml4 (link physical pdpt (cleared.load64 pml4))

/-- An assignment to an entry stores its word. -/
theorem ensures_assignField_bind {entry : Address} {assign : EptEntry → EptEntry}
    {next : Unit → Code α}
    (rest : (next ()).Ensures (KernelMemory.environment physical) anyKernelOp
      { state with memory := state.memory.store64 entry (assign (state.memory.load64 entry)) }
      post) :
    (assignField entry assign >>= next).Ensures (KernelMemory.environment physical) anyKernelOp
      state post := by
  rw [assignField, bind_assoc]
  apply ensures_query_bind trivial fun _ => next_eq_self rfl rfl rfl
  intro word loaded
  obtain rfl : word = state.memory.load64 entry := loaded.2
  apply ensures_ask_bind trivial
  intro _ _
  have stored : state.next (.store64 entry (assign (state.memory.load64 entry))) () =
      { state with
        memory := state.memory.store64 entry (assign (state.memory.load64 entry)) } := by
    rw [KernelMemory.next]
    exact congrArg _ (List.append_nil _)
  change Ensures _ _ _ (state.next (.store64 entry (assign (state.memory.load64 entry))) ()) _
  rw [stored]
  exact rest

/-- A loop that only fills copies leaves the state as it is. -/
theorem ensures_filling {program : Code PUnit} {next : PUnit → Code α}
    (confined : program.Confined IsFilling fun _ => True)
    (rest : (next PUnit.unit).Ensures (KernelMemory.environment physical) anyKernelOp state post) :
    (program >>= next).Ensures (KernelMemory.environment physical) anyKernelOp state post := by
  have passes : Passes (KernelMemory.environment physical) anyKernelOp IsFilling state := by
    refine ⟨fun _ _ => trivial, fun op _ filling _ => ?_⟩
    cases op <;> first | exact next_eq_self rfl rfl rfl | exact filling.elim
  exact confined.ensures_bind passes fun _ _ => rest

/-- Two fresh blocks for the lower tables. -/
structure LowerTables (state : KernelMemory) (pdpt pd : Address) : Prop where
  first : Block.Fresh state.heap.blocks ⟨pdpt, tableBytes⟩
  second : Block.Fresh (⟨pdpt, tableBytes⟩ :: state.heap.blocks) ⟨pd, directoryBytes⟩

/-- `InitializeEPT` makes two allocations, and the tables of whatever memory held. -/
theorem ensures_initializeEPT_tables (state : KernelMemory) :
    initializeEPT.Ensures (KernelMemory.environment physical) anyKernelOp state fun _ final =>
      final.heap.field = state.heap.field ∧ state.heap.blocks ⊆ final.heap.blocks ∧
        ∃ pdpt pd, LowerTables state pdpt pd ∧
        final.pointers = state.pointers ++ [pdpt, pd] ∧ final.memory =
          tables physical state.memory (state.heap.field .eptPml4Entries) pdpt pd := by
  apply ensures_steady_bind trivial fun _ => next_eq_self rfl rfl rfl
  intro context
  apply ensures_query_bind trivial fun _ => next_eq_self rfl rfl rfl
  intro pml4 read
  obtain rfl : pml4 = state.heap.field .eptPml4Entries := read.1.2.2
  apply ensures_ask_bind trivial
  intro pdpt pdptGranted
  apply ensures_ask_bind trivial
  intro _ pdptCleared
  apply ensures_ask_bind trivial
  intro pd pdGranted
  apply ensures_ask_bind trivial
  intro _ pdCleared
  have laid : LowerTables state pdpt pd := by
    constructor
    · exact pdptGranted.1.resolve_left pdptCleared.1
    · apply (pdGranted.1.resolve_left pdCleared.1).anti
      intro block member
      rcases List.mem_cons.mp member with rfl | earlier
      · exact List.mem_append_right _ (mem_grant pdptCleared.1)
      · exact (grows_allocatePool state tableBytes pdpt).held earlier
  iterate 3 apply ensures_assignField_bind
  apply ensures_query_bind trivial fun _ => next_eq_self rfl rfl rfl
  intro translated found
  obtain rfl : translated = physical pdpt := found.2
  apply ensures_assignField_bind
  apply ensures_filling (confined_fillPdpteEntries pdpt pd)
  apply ensures_filling (confined_fillPdeEntries pd)
  have held : state.heap.blocks ⊆ ((state.heap.next (.allocatePool tableBytes) pdpt).next
      (.allocatePool directoryBytes) pd).blocks :=
    List.Subset.trans (grows_allocatePool state tableBytes pdpt).held
      (grows_allocatePool (state.next (.allocatePool tableBytes) pdpt) directoryBytes pd).held
  refine ⟨rfl, held, pdpt, pd, laid, ?_, ?_⟩
  · simp [KernelMemory.environment, KernelMemory.next, KernelMemory.answer]
  · simp only [entryAddress_zero, Memory.store64_store64, Memory.load64_store64]
    rfl

/-- Between the context and the lower tables PML4 is a clear table in use, and memory outside the
blocks in use is as it was. -/
structure BeforeTables (memory : Memory) (pml4 pdpt pd : Address) (state : KernelMemory) :
    Prop where
  upper : IsClearTable state pml4
  lower : LowerTables state pdpt pd
  outside : ∀ address, (∀ block ∈ state.heap.blocks, ¬ block.Contains address) →
    state.memory address = memory address

theorem ensures_newProcessorContext_grows (state : KernelMemory) :
    newProcessorContext.Ensures (KernelMemory.environment physical) anyKernelOp state
      fun _ final => ∃ pointer, Grows state final [pointer] := by
  apply ensures_allocatePool_bind
  intro pointer after grown _ _
  refine ⟨trivial, fun _ _ => ⟨pointer, ?_⟩⟩
  exact grown.next (.storeContext pointer) () (List.Subset.refl _) rfl

/-- A run of the setup in which every allocation was made leaves the tables of what memory held. -/
theorem tables_of_path {field : ContextField → Address} {memory : Memory}
    {events : List (Event interface)} {status : NTSTATUS} {final : KernelMemory}
    {context vmxon vmcs pml4 bitmap guest host pdpt pd : Address}
    (path : Path (KernelMemory.environment physical) setUpTables (.start field memory) events
      (.done status) final)
    (pointers : final.pointers = [context, vmxon, vmcs, pml4, bitmap, guest, host, pdpt, pd]) :
    ∃ state, BeforeTables memory pml4 pdpt pd state ∧
      final.memory = tables physical state.memory pml4 pdpt pd := by
  obtain ⟨_, first, _, _, _, created, rest⟩ := path.of_bind_done
  obtain ⟨_, second, _, _, _, filled, built⟩ := rest.of_bind_done
  obtain ⟨context', start⟩ := (ensures_newProcessorContext_grows _).post_of_path created
  obtain ⟨answers, grown, ready⟩ :=
    (ensures_initializeProcessorContext_grows first).post_of_path filled
  obtain ⟨_, _, pdpt', pd', lower, added, stored⟩ :=
    (ensures_initializeEPT_tables second).post_of_path built
  have grown := start.trans grown
  rw [added, grown.pointers] at pointers
  change _ = [context, vmxon, vmcs, pml4, bitmap, guest, host] ++ [pdpt, pd] at pointers
  obtain ⟨upper, lowers⟩ := List.append_inj' pointers rfl
  obtain ⟨rfl, rfl⟩ : pdpt' = pdpt ∧ pd' = pd := by simpa using lowers
  obtain rfl : answers = [vmxon, vmcs, pml4, bitmap, guest, host] := (List.cons.inj upper).2
  obtain ⟨third, clear⟩ := ready.1 rfl
  obtain rfl : pml4 = second.heap.field .eptPml4Entries := Option.some.inj third
  exact ⟨second, ⟨clear, lower, grown.outside⟩, stored⟩

/-- What was zero, and not in PML4, is zero among the tables. -/
theorem tables_eq_zero {memory : Memory} {pml4 pdpt pd address : Address}
    (fits : pml4.toNat + tableBytes.toNat ≤ 2 ^ 64) (zero : memory address = 0)
    (outside : ¬ (Block.mk pml4 tableBytes).Contains address) :
    tables physical memory pml4 pdpt pd address = 0 := by
  have far : ¬ (address - pml4).toNat < 8 := by
    intro near
    have entry : 8 ≤ tableBytes.toNat := by decide
    exact outside (Block.contains_of_sub_lt fits (near.trans_le entry))
  unfold tables Memory.store64
  rw [Memory.write_of_not_lt far]
  exact Memory.clear_eq_zero (Memory.clear_eq_zero zero)

/-- Building the tables leaves the regions as they are. -/
theorem HasRegions.tables {state final : KernelMemory} {vmxon vmcs pdpt pd : Address}
    (regions : HasRegions state vmxon vmcs)
    (table : HasTable state (state.heap.field .eptPml4Entries) vmxon vmcs)
    (fields : final.heap.field = state.heap.field) (held : state.heap.blocks ⊆ final.heap.blocks)
    (stored : final.memory =
      tables physical state.memory (state.heap.field .eptPml4Entries) pdpt pd) :
    HasRegions final vmxon vmcs := by
  have clear {block : Block 64} (clear : IsClear state block)
      (apart : block.Apart ⟨state.heap.field .eptPml4Entries, tableBytes⟩) :
      IsClear final block := by
    constructor
    · exact held clear.held
    · exact clear.fits
    · intro address inside
      rw [stored]
      exact tables_eq_zero table.clear.fits (clear.zero address inside) (apart.not_contains inside)
  constructor
  · rw [fields, regions.vmxonField]
  · rw [fields, regions.vmcsField]
  · exact clear regions.vmxonClear table.vmxon
  · exact clear regions.vmcsClear table.vmcs
  · exact regions.apart

/-- Where the second and third answer of the allocators are not null, setting up leaves the regions
in these two blocks. -/
theorem ensures_setUpTables_regions (physical : Address → Address)
    (field : ContextField → Address) (memory : Memory) :
    setUpTables.Ensures (KernelMemory.environment physical) anyKernelOp (.start field memory)
      fun _ final => ∀ context vmxon vmcs later, final.pointers = context :: vmxon :: vmcs :: later →
        vmxon ≠ 0 → vmcs ≠ 0 → HasRegions final vmxon vmcs := by
  apply (ensures_newProcessorContext_grows _).bind
  rintro _ first ⟨context, start⟩
  apply (ensures_initializeProcessorContext_grows first).bind
  rintro _ second ⟨answers, grown, -, filled⟩
  apply (ensures_initializeEPT_tables second).mono
  rintro _ final ⟨fields, held, pdpt, pd, -, added, stored⟩ context' vmxon vmcs later split
  rw [added, grown.pointers, start.pointers] at split
  rcases filled with rfl | ⟨vmxon', rfl⟩ | ⟨vmxon', vmcs', others, rfl, regions, table⟩
  · intro nonzero
    exact absurd (List.cons.inj (List.cons.inj split).2).1.symm nonzero
  · intro _ nonzero
    exact absurd (List.cons.inj (List.cons.inj (List.cons.inj split).2).2).1.symm nonzero
  · intro _ _
    obtain ⟨rfl, rest⟩ := List.cons.inj (List.cons.inj split).2
    obtain ⟨rfl, -⟩ := List.cons.inj rest
    exact regions.tables table fields held stored

theorem confined_setUpTables : setUpTables.Confined IsSetupWork DriverStatus := by
  apply (confined_newProcessorContext trivial fun _ => trivial).bind
  intro _ _
  apply confined_initializeProcessorContext.bind
  intro _ _
  exact confined_initializeEPT.mono (fun _ => IsTableWork.isSetupWork) fun _ => id

end Run

end Guypervisor.Proofs
