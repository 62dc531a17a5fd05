import Guypervisor.Model.DriverLife
import Guypervisor.Soundness.ContextLeak
import Guypervisor.Soundness.RegionHeaders

/-! # Every access lies in a block the driver holds

Neither filling the context, nor building the tables with their loops over all entries, nor any
request reaches past the blocks the allocators granted, as long as both allocations of a region were
granted. What was not granted from the pool is used all the same: such an access begins at the null
address, and there is one only after the pool refused an allocation. If the allocation of a region
fails, the PML4 pointer was never set and the tables are linked through whatever it held.
-/

namespace Guypervisor.Soundness.AccessBounds

open Effects Effects.Program Model Code Proofs

/-- The bytes an operation of the VMX code writes, with the whole context for one of its members. -/
def written : Op → Option (Block 64)
  | .store32 address _ => some (Memory.wordAt address)
  | .store64 address _ => some ⟨address, sizeofEntry⟩
  | .zeroMemory address bytes => some ⟨address, bytes⟩
  | .storeField context _ _ => some ⟨context, sizeofProcessorContext⟩
  | _ => none

/-- The bytes an operation of the VMX code reads or writes. -/
def accessed : Op → Option (Block 64)
  | .load32 address => some (Memory.wordAt address)
  | .load64 address => some ⟨address, sizeofEntry⟩
  | .loadField context _ => some ⟨context, sizeofProcessorContext⟩
  | op => written op

/-- The bytes lie in a block in use, or begin at the null address where an allocation may have been
refused. -/
def Held (refused : Prop) (heap : Heap) (bytes : Block 64) : Prop :=
  (refused ∧ bytes.base = 0) ∨ ∃ block ∈ heap.blocks, bytes.Within block

/-- None of the first two answers of the contiguous allocator after some earlier ones is null. -/
def RegionsGranted (earlier : List Address) (heap : Heap) : Prop :=
  ∀ answers, heap.answers = earlier ++ answers → 0 ∉ answers.take 2

/-- Where both regions were granted, the bytes of an operation are held. -/
def InBounds (bytesOf : Op → Option (Block 64)) (refused : Prop) (earlier : List Address)
    (heap : Heap) (op : Op) : Prop :=
  RegionsGranted earlier heap → ∀ bytes, bytesOf op = some bytes → Held refused heap bytes

/-- The pool refuses an allocation only where that is admitted. -/
def Admits (refused : Prop) (op : Op) (response : op.Response) : Prop :=
  match op, response with
  | .allocatePool _, pointer => pointer = 0 → refused
  | _, _ => True

/-- The kernel under this condition. -/
abbrev granting (refused : Prop) : Environment interface Heap :=
  Heap.environment.restrict fun _ => Admits refused

variable {refused : Prop}

section Blocks

variable {heap after : Heap} {bytes : Block 64}

theorem within_refl (block : Block 64) : block.Within block := by
  constructor
  · exact BitVec.le_refl _
  · exact le_rfl

/-- A shorter run of bytes from the same beginning. -/
theorem within_of_le {base short long : BitVec 64} (shorter : short.toNat ≤ long.toNat) :
    (Block.mk base short).Within ⟨base, long⟩ := by
  constructor
  · exact BitVec.le_refl _
  · exact Nat.add_le_add_left shorter _

theorem Held.mono (held : Held refused heap bytes) (subset : heap.blocks ⊆ after.blocks) :
    Held refused after bytes := by
  rcases held with null | ⟨block, member, within⟩
  · exact .inl null
  · exact .inr ⟨block, subset member, within⟩

/-- Fewer bytes from the same beginning are held. -/
theorem Held.of_le {base short long : Address} (held : Held refused heap ⟨base, long⟩)
    (shorter : short.toNat ≤ long.toNat) : Held refused heap ⟨base, short⟩ := by
  rcases held with null | ⟨block, member, low, high⟩
  · exact .inl null
  · refine .inr ⟨block, member, low, le_trans ?_ high⟩
    exact Nat.add_le_add_left shorter _

/-- An entry of a table lies in the table. -/
theorem entry_within {table size : Address} {index count : ℕ}
    (fits : table.toNat + size.toNat ≤ 2 ^ 64) (length : size.toNat = count * 8)
    (bound : index < count) :
    (Block.mk (entryAddress table index) sizeofEntry).Within ⟨table, size⟩ := by
  have offset : (BitVec.ofNat 64 index * sizeofEntry).toNat = index * 8 := by
    change (BitVec.ofNat 64 index * 8#64).toNat = _
    rw [BitVec.toNat_mul, BitVec.toNat_ofNat, Nat.mod_eq_of_lt (show index < 2 ^ 64 by omega),
      BitVec.toNat_ofNat, Nat.mod_eq_of_lt (by omega)]
  have address : (entryAddress table index).toNat = table.toNat + index * 8 := by
    rw [entryAddress, BitVec.toNat_add, offset, Nat.mod_eq_of_lt (by omega)]
  constructor
  · change table ≤ entryAddress table index
    rw [BitVec.le_def]
    omega
  · change (entryAddress table index).toNat + 8 ≤ table.toNat + size.toNat
    omega

/-- The rows of the page directories follow one another. -/
theorem entryAddress_pdeRow (table : Address) (i j : ℕ) :
    entryAddress (pdeRow table i) j = entryAddress table (i * kPageDirectoryEntryCount + j) := by
  rw [pdeRow, entryAddress, entryAddress, entryAddress, BitVec.ofNat_add, BitVec.add_mul,
    BitVec.add_assoc]

end Blocks

section SetUp

variable {earlier answers later : List Address} {heap between after : Heap} {context : Address}

/-- An operation that accesses nothing. -/
theorem inBounds_of_none {bytesOf : Op → Option (Block 64)} {op : Op} (none : bytesOf op = none) :
    InBounds bytesOf refused earlier heap op := by
  intro _ bytes some
  rw [none] at some
  contradiction

/-- An operation whose bytes are held. -/
theorem inBounds_of_held {bytesOf : Op → Option (Block 64)} {op : Op} {bytes : Block 64}
    (accesses : bytesOf op = some bytes) (held : Held refused heap bytes) :
    InBounds bytesOf refused earlier heap op := by
  intro _ other same
  obtain rfl : bytes = other := Option.some.inj (accesses.symm.trans same)
  exact held

/-- An operation whose bytes are held where both regions were granted. -/
theorem inBounds_of_granted {bytesOf : Op → Option (Block 64)} {op : Op} {bytes : Block 64}
    (accesses : bytesOf op = some bytes) (held : RegionsGranted earlier heap → Held refused heap bytes) :
    InBounds bytesOf refused earlier heap op :=
  fun granted => inBounds_of_held accesses (held granted) granted

/-- From one ledger to another blocks are only added, by the given answers of the contiguous
allocator, and the context stays where it is. -/
structure Extends (before after : Heap) (answers : List Address) : Prop where
  kProcessorContext : after.kProcessorContext = before.kProcessorContext
  blocks : before.blocks ⊆ after.blocks
  answers : after.answers = before.answers ++ answers

theorem Extends.refl (heap : Heap) : Extends heap heap [] where
  kProcessorContext := rfl
  blocks := List.Subset.refl _
  answers := (List.append_nil _).symm

theorem Extends.trans (first : Extends heap between answers)
    (second : Extends between after later) : Extends heap after (answers ++ later) where
  kProcessorContext := second.kProcessorContext.trans first.kProcessorContext
  blocks := List.Subset.trans first.blocks second.blocks
  answers := by rw [second.answers, first.answers, List.append_assoc]

/-- A member of the context is stored. -/
theorem extends_storeField (heap : Heap) (context : Address) (field : ContextField)
    (pointer : Address) : Extends heap (heap.next (.storeField context field pointer) ()) [] :=
  ⟨rfl, List.Subset.refl _, (List.append_nil _).symm⟩

theorem extends_allocatePool (heap : Heap) (bytes pointer : Address) :
    Extends heap (heap.next (.allocatePool bytes) pointer) [] := by
  refine ⟨rfl, fun block member => ?_, (List.append_nil _).symm⟩
  rcases List.mem_append.mp member with contiguous | pool
  · exact List.mem_append_left _ contiguous
  · exact List.mem_append_right _ (subset_grant _ _ _ pool)

theorem extends_allocateContiguous (heap : Heap) (bytes highest pointer : Address) :
    Extends heap (heap.next (.allocateContiguousMemory bytes highest) pointer) [pointer] := by
  refine ⟨rfl, fun block member => ?_, rfl⟩
  rcases List.mem_append.mp member with contiguous | pool
  · exact List.mem_append_left _ (subset_grant _ _ _ contiguous)
  · exact List.mem_append_right _ pool

/-- What the pool grants is in use. -/
theorem mem_allocatePool (heap : Heap) (bytes : Address) {pointer : Address} (nonzero : pointer ≠ 0) :
    ⟨pointer, bytes⟩ ∈ (heap.next (.allocatePool bytes) pointer).blocks :=
  List.mem_append_right _ (mem_grant nonzero)

/-- It is held, as far as it is used. -/
theorem held_allocatePool (heap : Heap) {bytes pointer count : Address}
    (admitted : Admits refused (.allocatePool bytes) pointer) (fewer : count.toNat ≤ bytes.toNat) :
    Held refused (heap.next (.allocatePool bytes) pointer) ⟨pointer, count⟩ := by
  by_cases null : pointer = 0
  · exact .inl ⟨admitted null, null⟩
  · exact .inr ⟨⟨pointer, bytes⟩, mem_allocatePool heap bytes null, within_of_le fewer⟩

/-- What the contiguous allocator grants is held. -/
theorem held_allocateContiguous (heap : Heap) (bytes highest : Address) {pointer : Address}
    (nonzero : pointer ≠ 0) :
    Held refused (heap.next (.allocateContiguousMemory bytes highest) pointer) ⟨pointer, bytes⟩ :=
  .inr ⟨⟨pointer, bytes⟩, List.mem_append_left _ (mem_grant nonzero), within_refl _⟩

/-- The aligned allocator clears no more than it was granted, and gives out room for a header. -/
theorem ensures_allocateAligned (heap : Heap) (size : BitVec 64) :
    (allocateContingiousPhysicalMemoryAligned size kAlignmentSize).Ensures (granting refused)
      (InBounds accessed refused earlier) heap fun region final => ∃ pointer,
        Extends heap final [pointer] ∧ final.field = heap.field ∧
        (size = sizeofVMCS → (region = 0 → pointer = 0) ∧
          (region ≠ 0 → Held refused final (Memory.wordAt region))) := by
  have cleared : (allocateContingiousPhysicalMemoryAligned size kAlignmentSize).Ensures
      (granting refused) (InBounds accessed refused earlier) heap fun _ _ => True := by
    apply ensures_ask_bind (inBounds_of_none rfl)
    intro cpu _
    apply ensures_ask_bind (inBounds_of_none rfl)
    intro pointer granted
    split
    · trivial
    · rename_i nonzero
      exact ⟨inBounds_of_held rfl (held_allocateContiguous _ _ _ nonzero), fun _ _ => trivial⟩
  have allocated := (ContextCleanup.ensures_allocateAligned size heap).restrict fun _ => Admits refused
  apply (allocated.and cleared).mono
  rintro region final ⟨⟨pointer, highest, rounded, granted, rfl⟩, -⟩
  refine ⟨pointer, extends_allocateContiguous _ _ _ _, rfl, ?_⟩
  rintro rfl
  constructor
  · intro null
    exact granted.eq_zero (by decide) (rounded.symm.trans null)
  · intro nonzero
    rw [← ContextCleanup.alignUp_kAlignmentSize] at rounded
    rw [rounded] at nonzero ⊢
    rcases granted with rfl | fresh
    · refine absurd ?_ nonzero
      rw [alignUp_eq_roundUp, roundUp_zero]
    · refine .inr ⟨regionBlock pointer, List.mem_append_left _ (mem_grant fresh.nonzero), ?_⟩
      exact RegionHeaders.wordAt_within fresh.fits

/-- The context holds a table of 512 entries and room for the headers of both regions. -/
structure Furnished (refused : Prop) (heap : Heap) : Prop where
  context : Held refused heap ⟨heap.kProcessorContext, sizeofProcessorContext⟩
  vmxon : Held refused heap (Memory.wordAt (heap.field .vmxonRegion))
  vmcs : Held refused heap (Memory.wordAt (heap.field .vmcsRegion))

/-- A region is allocated, its pointer is stored in a member of the context and read back. -/
theorem ensures_allocateRegion_bind {field : ContextField} {next : Address → Code NTSTATUS}
    {post : NTSTATUS → Heap → Prop}
    (context : Held refused heap ⟨heap.kProcessorContext, sizeofProcessorContext⟩)
    (rest : ∀ region pointer final, Extends heap final [pointer] →
      final.field = Function.update heap.field field region → (region = 0 → pointer = 0) →
      (region ≠ 0 → Held refused final (Memory.wordAt region)) →
      (next region).Ensures (granting refused) (InBounds accessed refused earlier) final post) :
    (do
      storeField heap.kProcessorContext field
        (← allocateContingiousPhysicalMemoryAligned sizeofVMCS kAlignmentSize)
      let region ← loadField heap.kProcessorContext field
      next region).Ensures (granting refused) (InBounds accessed refused earlier) heap post := by
  apply (ensures_allocateAligned heap sizeofVMCS).bind
  rintro region first ⟨pointer, grown, kept, room⟩
  obtain ⟨nonnull, held⟩ := room rfl
  refine ensures_ask_bind (inBounds_of_held rfl (context.mono grown.blocks)) fun _ _ => ?_
  have stored := grown.trans (extends_storeField first heap.kProcessorContext field region)
  refine ensures_ask_bind (inBounds_of_held rfl (context.mono stored.blocks)) ?_
  rintro found ⟨⟨-, -, read⟩, -⟩
  obtain rfl : found = region := read.trans (Function.update_self ..)
  refine rest found pointer _ stored ?_ nonnull held
  rw [← kept]
  rfl

/-- The context is filled inside what was granted. -/
theorem ensures_initializeProcessorContext
    (context : Held refused heap ⟨heap.kProcessorContext, sizeofProcessorContext⟩) :
    initializeProcessorContext.Ensures (granting refused) (InBounds accessed refused heap.answers) heap
      fun _ final => RegionsGranted heap.answers final → Furnished refused final ∧
        Held refused final ⟨final.field .eptPml4Entries, tableBytes⟩ := by
  apply ensures_ask_bind (inBounds_of_none rfl)
  rintro _ ⟨rfl, -⟩
  apply ensures_allocateRegion_bind context
  intro vmxonRegion vmxon first grown vmxonFields nonnull vmxonHeld
  split
  · rename_i null
    refine fun granted => absurd ?_ (granted _ grown.answers)
    simp [nonnull null]
  rename_i nonzero
  replace vmxonHeld := vmxonHeld nonzero
  have firstContext := context.mono grown.blocks
  rw [← grown.kProcessorContext] at firstContext ⊢
  apply ensures_allocateRegion_bind firstContext
  intro vmcsRegion vmcs second later vmcsFields nonnull vmcsHeld
  replace vmxonHeld := vmxonHeld.mono later.blocks
  replace grown := grown.trans later
  split
  · rename_i null
    refine fun granted => absurd ?_ (granted _ grown.answers)
    simp [nonnull null]
  rename_i nonzero
  replace vmcsHeld := vmcsHeld nonzero
  rw [← later.kProcessorContext]
  have secondContext := firstContext.mono later.blocks
  rw [← later.kProcessorContext] at secondContext
  apply ensures_ask_bind (inBounds_of_none rfl)
  rintro table ⟨-, admitted⟩
  have tableHeld : Held refused (second.next (.allocatePool tableBytes) table) ⟨table, tableBytes⟩ :=
    held_allocatePool second admitted le_rfl
  have third := extends_allocatePool second tableBytes table
  refine ensures_ask_bind (inBounds_of_held rfl (secondContext.mono third.blocks)) fun _ _ => ?_
  replace third := third.trans (extends_storeField _ second.kProcessorContext .eptPml4Entries table)
  refine ensures_ask_bind (inBounds_of_held rfl (secondContext.mono third.blocks)) ?_
  rintro found ⟨⟨-, -, read⟩, -⟩
  obtain rfl : found = table := read
  refine ensures_ask_bind (inBounds_of_held rfl tableHeld) fun _ _ => ?_
  apply (ensures_allocateAligned _ 1).bind
  rintro bitmapRegion fourth ⟨bitmap, allocated, fourthFields, -⟩
  replace tableHeld := tableHeld.mono allocated.blocks
  have filled := third.trans allocated
  refine ensures_ask_bind (inBounds_of_held rfl (secondContext.mono filled.blocks)) fun _ _ => ?_
  apply ensures_ask_bind (inBounds_of_none rfl)
  intro guestStack _
  have guest := extends_allocatePool fourth kStackSize guestStack
  refine ensures_ask_bind
    (inBounds_of_held rfl (secondContext.mono (filled.trans guest).blocks)) fun _ _ => ?_
  apply ensures_ask_bind (inBounds_of_none rfl)
  intro hostStack _
  have added := guest.trans (extends_allocatePool _ kStackSize hostStack)
  have all := filled.trans added
  refine ensures_ask_bind (inBounds_of_held rfl (secondContext.mono all.blocks)) fun _ _ => ?_
  refine fun _ => ⟨⟨?_, ?_, ?_⟩, ?_⟩
  · exact (all.kProcessorContext ▸ secondContext).mono all.blocks
  · have member : fourth.field .vmxonRegion = vmxonRegion := by
      rw [fourthFields]
      change second.field .vmxonRegion = _
      rw [vmcsFields, vmxonFields]
      rfl
    exact (member ▸ vmxonHeld).mono all.blocks
  · have member : fourth.field .vmcsRegion = vmcsRegion := by
      rw [fourthFields]
      change second.field .vmcsRegion = _
      rw [vmcsFields]
      rfl
    exact (member ▸ vmcsHeld).mono all.blocks
  · have member : fourth.field .eptPml4Entries = found := by
      rw [fourthFields]
      rfl
    exact (member ▸ tableHeld).mono added.blocks

/-- What a filling loop does when it stays inside a block. -/
def FillsFrom (block : Block 64) : Op → Prop
  | .load64 address => (Block.mk address sizeofEntry).Within block
  | .getPhysicalAddress _ => True
  | _ => False

theorem confined_fillEntry {block : Block 64} {entry : Address} (table : Address)
    (inside : (Block.mk entry sizeofEntry).Within block) :
    (fillEntry entry table).Confined (FillsFrom block) fun _ => True :=
  confined_ask_bind inside fun _ => confined_ask_bind trivial fun _ => trivial

/-- The first loop reads the table of page-directory pointers only. -/
theorem confined_fillPdpteEntries {pdpt : Address} (pd : Address)
    (fits : pdpt.toNat + tableBytes.toNat ≤ 2 ^ 64) :
    (fillPdpteEntries pdpt pd).Confined (FillsFrom ⟨pdpt, tableBytes⟩) fun _ => True := by
  have bound : ∀ i ∈ List.range kPdptEntryCount, i < 512 := fun _ => List.mem_range.mp
  have length : tableBytes.toNat = 512 * 8 := by decide
  unfold fillPdpteEntries
  generalize List.range kPdptEntryCount = rows at bound ⊢
  exact confined_forM fun i member =>
    confined_fillEntry _ (entry_within fits length (bound i member))

/-- The nested loops read the page directories only. -/
theorem confined_fillPdeEntries {pd : Address}
    (fits : pd.toNat + directoryBytes.toNat ≤ 2 ^ 64) :
    (fillPdeEntries pd).Confined (FillsFrom ⟨pd, directoryBytes⟩) fun _ => True := by
  have rowBound : ∀ i ∈ List.range kPdptEntryCount, i < 512 := fun _ => List.mem_range.mp
  have columnBound : ∀ j ∈ List.range kPageDirectoryEntryCount, j < 512 :=
    fun _ => List.mem_range.mp
  have length : directoryBytes.toNat = 512 * 512 * 8 := by decide
  unfold fillPdeEntries
  generalize List.range kPdptEntryCount = rows at rowBound ⊢
  generalize List.range kPageDirectoryEntryCount = columns at columnBound ⊢
  refine confined_forM fun i row => confined_forM fun j column => confined_fillEntry _ ?_
  rw [entryAddress_pdeRow]
  have below : i * kPageDirectoryEntryCount + j < 512 * 512 := by
    have := rowBound i row
    have := columnBound j column
    change i * 512 + j < 512 * 512
    omega
  exact entry_within fits length below

/-- A loop inside a block in use changes nothing. -/
theorem fills_passes {block : Block 64} (member : block ∈ heap.blocks) :
    Passes (granting refused) (InBounds accessed refused earlier) (FillsFrom block) heap where
  issues op fills := by
    cases op with
    | load64 => exact inBounds_of_held rfl (.inr ⟨block, member, fills⟩)
    | _ => first | exact inBounds_of_none rfl | exact fills.elim
  steady op _ fills _ := by
    cases op <;> first | rfl | exact fills.elim

/-- The granted state of the regions depends on the allocator's answers only. -/
theorem RegionsGranted.of_extends (granted : RegionsGranted earlier after)
    (grown : Extends heap after []) : RegionsGranted earlier heap := by
  intro answers split
  apply granted answers
  rw [grown.answers, split, List.append_nil]

/-- An assignment to a field of PML4 entry 0 stays inside the table. -/
theorem ensures_assignField_bind {α : Type} {table : Address} {assign : EptEntry → EptEntry}
    {next : Unit → Code α} {post : α → Heap → Prop}
    (held : RegionsGranted earlier heap → Held refused heap ⟨table, tableBytes⟩)
    (rest : (next ()).Ensures (granting refused) (InBounds accessed refused earlier) heap post) :
    (assignField (entryAddress table 0) assign >>= next).Ensures (granting refused)
      (InBounds accessed refused earlier) heap post := by
  have entry : RegionsGranted earlier heap → Held refused heap ⟨entryAddress table 0, sizeofEntry⟩ := by
    intro granted
    rw [entryAddress_zero]
    exact (held granted).of_le (by decide)
  refine ensures_steady_bind (inBounds_of_granted rfl entry) (fun _ => rfl) fun _ => ?_
  exact ensures_steady_bind (inBounds_of_granted rfl entry) (fun _ => rfl) fun _ => rest

/-- The tables are built inside what was granted. -/
theorem ensures_initializeEPT
    (context : RegionsGranted earlier heap →
      Held refused heap ⟨heap.kProcessorContext, sizeofProcessorContext⟩)
    (upper : RegionsGranted earlier heap → Held refused heap ⟨heap.field .eptPml4Entries, tableBytes⟩) :
    initializeEPT.Ensures (granting refused) (InBounds accessed refused earlier) heap fun _ final =>
      Extends heap final [] ∧ final.field = heap.field := by
  apply ensures_ask_bind (inBounds_of_none rfl)
  rintro _ ⟨rfl, -⟩
  refine ensures_ask_bind (inBounds_of_granted rfl context) ?_
  rintro table ⟨⟨-, -, rfl⟩, -⟩
  apply ensures_ask_bind (inBounds_of_none rfl)
  rintro pdpt ⟨pdptGranted, pdptAdmitted⟩
  have first := extends_allocatePool heap tableBytes pdpt
  have second := extends_allocatePool (heap.next (.allocatePool tableBytes) pdpt) directoryBytes
  refine ensures_ask_bind (inBounds_of_held rfl (held_allocatePool heap pdptAdmitted (by decide))) ?_
  rintro _ ⟨pdptNonnull, -⟩
  apply ensures_ask_bind (inBounds_of_none rfl)
  rintro pd ⟨pdGranted, pdAdmitted⟩
  have grown := first.trans (second pd)
  refine ensures_ask_bind (inBounds_of_held rfl (held_allocatePool _ pdAdmitted (by decide))) ?_
  rintro _ ⟨pdNonnull, -⟩
  have held (granted : RegionsGranted earlier _) := (upper (granted.of_extends grown)).mono grown.blocks
  iterate 3 apply ensures_assignField_bind held
  apply ensures_steady_bind (inBounds_of_none rfl) fun _ => rfl
  intro _
  apply ensures_assignField_bind held
  have pdptFits := (pdptGranted.resolve_left pdptNonnull).fits
  have pdptMember := (second pd).blocks (mem_allocatePool heap tableBytes pdptNonnull)
  apply (confined_fillPdpteEntries pd pdptFits).ensures_bind (fills_passes pdptMember)
  intro _ _
  have pdFits := (pdGranted.resolve_left pdNonnull).fits
  have pdMember := mem_allocatePool (heap.next (.allocatePool tableBytes) pdpt) directoryBytes pdNonnull
  apply (confined_fillPdeEntries pdFits).ensures_bind (fills_passes pdMember)
  intro _ _
  exact ⟨grown, rfl⟩

theorem Furnished.extends (furnished : Furnished refused heap) (grown : Extends heap after answers)
    (fields : after.field = heap.field) : Furnished refused after where
  context := (grown.kProcessorContext ▸ furnished.context).mono grown.blocks
  vmxon := (fields ▸ furnished.vmxon).mono grown.blocks
  vmcs := (fields ▸ furnished.vmcs).mono grown.blocks

/-- The context is allocated, and held. -/
theorem ensures_newProcessorContext (heap : Heap) :
    newProcessorContext.Ensures (granting refused) (InBounds accessed refused earlier) heap fun _ final =>
      final.answers = heap.answers ∧
        Held refused final ⟨final.kProcessorContext, sizeofProcessorContext⟩ := by
  apply ensures_ask_bind (inBounds_of_none rfl)
  rintro pointer ⟨-, admitted⟩
  exact ⟨inBounds_of_none rfl, fun _ _ => ⟨rfl, held_allocatePool heap admitted le_rfl⟩⟩

/-- Every access of the setup stays inside what was granted. -/
theorem ensures_setUpTables (heap : Heap) :
    setUpTables.Ensures (granting refused) (InBounds accessed refused heap.answers) heap fun _ final =>
      RegionsGranted heap.answers final → Furnished refused final := by
  apply (ensures_newProcessorContext heap).bind
  rintro _ created ⟨same, context⟩
  rw [← same]
  apply (ensures_initializeProcessorContext context).bind
  rintro _ filled furnished
  have context granted := (furnished granted).1.context
  apply (ensures_initializeEPT context fun granted => (furnished granted).2).mono
  rintro _ final ⟨grown, fields⟩ granted
  exact (furnished (granted.of_extends grown)).1.extends grown fields

end SetUp

/-- An allocation from the pool is refused. -/
def refuses : Event interface → Bool
  | ⟨.allocatePool _, pointer⟩ => pointer = 0
  | _ => false

theorem admits_of_refuses {op : Op} {response : op.Response}
    (admitted : refuses ⟨op, response⟩ = true → refused) : Admits refused op response := by
  cases op with
  | allocatePool => exact fun null => admitted (decide_eq_true null)
  | _ => trivial

/-- **Filling the context and building the tables never reads or writes outside the blocks in use, as
long as both regions were granted; but for an access that begins at the null address, after the pool
refused an allocation.** -/
theorem inBounds_of_path {heap final : Heap} {events : List (Event interface)}
    {rest : Code NTSTATUS} {op : Op}
    (path : Path Heap.environment setUpTables heap events rest final)
    (issued : rest.head? = some op) :
    InBounds accessed (∃ event ∈ events, refuses event = true) heap.answers final op := by
  have admitted : ∀ event ∈ events,
      Admits (∃ event ∈ events, refuses event = true) event.1 event.2 :=
    fun event member => admits_of_refuses fun refused => ⟨event, member, refused⟩
  exact (ensures_setUpTables heap).legal_of_path (path.restrict admitted) issued

/-- A setup in which every allocation gets the next block, inside the loop over the table. -/
def setUpRun : List (Event interface) × Code NTSTATUS × Heap :=
  drive Heap.environment ContextLeak.granted 60 setUpTables (.start fun _ => 0)

private theorem path_setUpRun : Path Heap.environment setUpTables (.start fun _ => 0) setUpRun.1
    setUpRun.2.1 setUpRun.2.2 :=
  drive_path _ _ (fun heap op response answered =>
    (ContextLeak.allows_of_granted heap op response answered).1) 60 _ _

/-- The load lies in a block, since nothing was refused. -/
theorem inBounds_of_path_setUpRun :
    ∃ block ∈ setUpRun.2.2.blocks, (Block.mk 0x80050 sizeofEntry).Within block := by
  have answers : setUpRun.2.2.answers = [] ++ [0x20000, 0x30000, 0x50000] := by decide +kernel
  have regions : RegionsGranted [] setUpRun.2.2 := by
    intro others split
    obtain rfl := List.append_cancel_left (split.symm.trans answers)
    decide
  have granted : ¬ ∃ event ∈ setUpRun.1, refuses event = true := by decide +kernel
  have issued : setUpRun.2.1.head? = some (.load64 0x80050) := by decide +kernel
  exact (inBounds_of_path path_setUpRun issued regions _ rfl).resolve_left fun null => granted null.1

section Serving

variable {earlier : List Address} {heap : Heap} {α : Type} {post : α → Heap → Prop}

/-- Where both regions were granted the context has room for their headers. -/
def Ready (refused : Prop) (earlier : List Address) (heap : Heap) : Prop :=
  RegionsGranted earlier heap → Furnished refused heap

/-- One step that writes nothing and leaves the ledger as it is. -/
private theorem ensures_step_bind {op : Op} {next : op.Response → Code α}
    (silent : written op = none) (steady : ∀ response, heap.next op response = heap)
    (rest : ∀ response, (granting refused).allows heap op response →
      (next response).Ensures (granting refused) (InBounds written refused earlier) heap post) :
    (ask op >>= next).Ensures (granting refused) (InBounds written refused earlier) heap post :=
  ensures_query_bind (inBounds_of_none silent) steady rest

/-- The header a member leads to is inside what was granted. -/
private theorem ensures_setRevisionIdentifier_bind {field : ContextField} {id : BitVec 32}
    {next : Unit → Code α}
    (header : RegionsGranted earlier heap → Held refused heap (Memory.wordAt (heap.field field)))
    (rest : (next ()).Ensures (granting refused) (InBounds written refused earlier) heap post) :
    (setRevisionIdentifier (heap.field field) id >>= next).Ensures (granting refused)
      (InBounds written refused earlier) heap post := by
  rw [setRevisionIdentifier, bind_assoc]
  refine ensures_step_bind rfl (fun _ => rfl) fun word _ => ?_
  exact ensures_steady_bind (inBounds_of_granted rfl header) (fun _ => rfl) fun _ => rest

/-- A stage that writes into the ledger's blocks only, in a frame of its own. -/
private theorem ensures_stage {routine : Routine} {body : Code NTSTATUS}
    (ensured : body.Ensures (granting refused) (InBounds written refused earlier) heap
      fun _ final => final = heap) :
    (call routine body).Ensures (granting refused) (InBounds written refused earlier) heap
      fun _ final => final = heap := by
  apply ensures_call (inBounds_of_none rfl)
  apply ensured.mono
  rintro _ _ rfl
  exact ⟨inBounds_of_none rfl, rfl⟩

private theorem ensures_enterVmxonMode (ready : Ready refused earlier heap) :
    enterVmxonMode.Ensures (granting refused) (InBounds written refused earlier) heap
      fun _ final => final = heap := by
  apply ensures_stage
  iterate 14 refine ensures_step_bind rfl (fun _ => rfl) fun _ _ => ?_
  refine ensures_step_bind rfl (fun _ => rfl) ?_
  rintro _ ⟨⟨-, -, rfl⟩, -⟩
  apply ensures_setRevisionIdentifier_bind fun granted => (ready granted).vmxon
  iterate 3 refine ensures_step_bind rfl (fun _ => rfl) fun _ _ => ?_
  split <;> rfl

private theorem ensures_initializeVMCS (ready : Ready refused earlier heap) :
    initializeVMCS.Ensures (granting refused) (InBounds written refused earlier) heap
      fun _ final => final = heap := by
  apply ensures_stage
  iterate 2 refine ensures_step_bind rfl (fun _ => rfl) fun _ _ => ?_
  refine ensures_step_bind rfl (fun _ => rfl) ?_
  rintro _ ⟨⟨-, -, rfl⟩, -⟩
  apply ensures_setRevisionIdentifier_bind fun granted => (ready granted).vmcs
  iterate 3 refine ensures_step_bind rfl (fun _ => rfl) fun _ _ => ?_
  split
  · rfl
  · refine ensures_step_bind rfl (fun _ => rfl) fun _ _ => ?_
    split <;> rfl

/-- What a request does after its regions were prepared writes nothing. -/
private theorem afterEntry_passes (refused : Prop) (earlier : List Address) (heap : Heap) :
    Passes (granting refused) (InBounds written refused earlier) IsAfterEntry heap where
  issues op work := by
    cases op <;> first | exact inBounds_of_none rfl | exact work.elim
  steady op _ work _ := by
    cases op <;> first | rfl | exact work.elim

/-- A request writes into the two headers only, and leaves the ledger as it is. -/
theorem ensures_enterVmxHandler (depth : ℕ) (ready : Ready refused earlier heap) :
    (enterVmxHandler depth).Ensures (granting refused) (InBounds written refused earlier) heap
      fun _ final => final = heap := by
  have passes := afterEntry_passes refused earlier heap
  rw [enterVmxHandler_eq]
  apply ensures_stage
  apply (ensures_enterVmxonMode ready).bind
  rintro _ _ rfl
  apply (ensures_initializeVMCS ready).bind
  rintro _ _ rfl
  have populated : (populateActiveVMCS depth).Confined IsAfterEntry DriverStatus :=
    (confined_populateActiveVMCS depth).mono (fun _ => IsFieldWork.isAfterEntry) fun _ => id
  apply populated.ensures_bind passes
  intro _ _
  apply (confined_launchGuest depth).ensures_bind passes
  intro _ launched
  apply ((confined_enterVmxCleanup depth launched).ensures passes).mono
  exact fun _ _ ended => ended.2

/-- So does every dispatch routine. -/
theorem ensures_dispatch (call : DispatchCall) (ready : Ready refused earlier heap) :
    call.run.Ensures (granting refused) (InBounds written refused earlier) heap
      fun _ final => final = heap := by
  obtain ⟨depth, routine, irp⟩ := call
  have handled : (handleIoControlCode depth irp.ioControlCode).Ensures (granting refused)
      (InBounds written refused earlier) heap fun _ final => final = heap := by
    unfold handleIoControlCode
    split
    · exact ensures_enterVmxHandler depth ready
    · rfl
  cases routine with
  | ioctlHandlerIRP =>
    apply handled.bind
    rintro status _ rfl
    iterate 2 refine ensures_step_bind rfl (fun _ => rfl) fun _ _ => ?_
    rfl
  | generalHandlerIRP =>
    exact ensures_step_bind rfl (fun _ => rfl) fun _ _ => rfl
  | createHandlerIRP | closeHandlerIRP | writeHandlerIRP =>
    iterate 2 refine ensures_step_bind rfl (fun _ => rfl) fun _ _ => ?_
    rfl

end Serving

end Guypervisor.Soundness.AccessBounds
