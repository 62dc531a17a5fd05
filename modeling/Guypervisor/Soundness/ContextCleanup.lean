import Guypervisor.Model.Heap
import Guypervisor.Proofs.Rules

/-! # Freeing the processor context

`FreeProcessorContext` gives `MmFreeContiguousMemory` each of three members that is not null. A
member holds a granted address rounded up to a page, null where the allocation failed, or, when
`InitializeProcessorContext` left before it, what the pool block held earlier. The frees are legal
exactly when every block granted was page aligned and every member left out was found null.
-/

namespace Guypervisor.Soundness.ContextCleanup

open Effects Effects.Program Model Code Proofs

/-- A pointer given to `MmFreeContiguousMemory` is where a block in use begins. -/
def FreesAllocated (heap : Heap) : Op → Prop
  | .freeContiguousMemory pointer => ∃ block ∈ heap.contiguous, block.base = pointer
  | _ => True

/-- The test a member passes before it is freed, and the pointer it then gives. -/
def Releasable (held : List (Block 64)) (pointer : Address) : Prop :=
  pointer ≠ 0 → ∃ block ∈ held, block.base = pointer

/-- The blocks in use after a member was freed unless it is null. -/
def freed (heap : Heap) (field : ContextField) : Heap :=
  if heap.field field = 0 then heap
  else
    { heap with
      contiguous := Heap.release heap.contiguous (heap.field field)
      field := Function.update heap.field field 0 }

@[simp] theorem freed_kProcessorContext (heap : Heap) (field : ContextField) :
    (freed heap field).kProcessorContext = heap.kProcessorContext := by
  unfold freed
  split <;> rfl

theorem freed_field (heap : Heap) {field other : ContextField} (different : other ≠ field) :
    (freed heap field).field other = heap.field other := by
  unfold freed
  split
  · rfl
  · exact Function.update_of_ne different ..

section Free

variable {heap : Heap} {context : Address} {α : Type} {post : α → Heap → Prop}

private theorem ensures_loadField_iff (valid : context ≠ 0)
    (here : heap.kProcessorContext = context) (field : ContextField) (next : Address → Code α) :
    (loadField context field >>= next).Ensures Heap.environment FreesAllocated heap post ↔
      (next (heap.field field)).Ensures Heap.environment FreesAllocated heap post := by
  refine (ensures_unique_bind_iff (heap.field field) fun response => ?_).trans ?_
  · exact ⟨fun allowed => allowed.2.2, fun same => ⟨valid, here.symm, same⟩⟩
  · exact and_iff_right trivial

/-- A member is freed legally exactly when it is null or leads to a block in use. -/
theorem ensures_ifNotNullptrThenFree_iff (valid : context ≠ 0)
    (here : heap.kProcessorContext = context) (field : ContextField) (next : Unit → Code α) :
    (ifNotNullptrThenFreeAndSetNullptr context field >>= next).Ensures Heap.environment
        FreesAllocated heap post ↔
      Releasable heap.contiguous (heap.field field) ∧
        (next ()).Ensures Heap.environment FreesAllocated (freed heap field) post := by
  rw [ifNotNullptrThenFreeAndSetNullptr, bind_assoc, ensures_loadField_iff valid here]
  by_cases null : heap.field field = 0
  · rw [if_neg (not_not_intro null), freed, if_pos null]
    exact (and_iff_right fun nonzero => absurd null nonzero).symm
  · rw [if_pos null, bind_assoc, ensures_loadField_iff valid here, freed, if_neg null, bind_assoc]
    refine Iff.trans (ensures_unique_bind_iff () fun _ => iff_of_true trivial rfl) ?_
    refine and_congr ⟨fun held _ => held, fun held => held null⟩ ?_
    refine Iff.trans
      (ensures_unique_bind_iff () fun _ => iff_of_true ⟨valid, here.symm⟩ rfl) ?_
    exact and_iff_right trivial

/-- Deleting a member gives nothing to the contiguous allocator. -/
private theorem confined_setNullptrThenDelete (field : ContextField) :
    (setNullptrThenDelete context field).Confined (fun op => ∀ heap, FreesAllocated heap op)
      fun _ => True := by
  refine confined_ask_bind (fun _ => trivial) fun pointer => ?_
  split
  · refine confined_ask_bind (fun _ => trivial) fun _ => confined_ask_bind (fun _ => trivial) ?_
    exact fun _ => ⟨fun _ => trivial, fun _ => trivial⟩
  · trivial

private theorem confined_deletePoolMembers :
    (deletePoolMembers context).Confined (fun op => ∀ heap, FreesAllocated heap op)
      fun _ => True := by
  iterate 3 refine (confined_setNullptrThenDelete _).bind fun _ _ => ?_
  refine confined_ask_bind (fun _ => trivial) fun pointer => ?_
  split
  · refine confined_ask_bind (fun _ => trivial) fun _ => confined_ask_bind (fun _ => trivial) ?_
    exact fun _ => ⟨fun _ => trivial, fun _ => trivial⟩
  · trivial

/-- The frees of `FreeProcessorContext` are legal exactly when each of the three members is null
or leads to a block that is still in use when its turn comes. -/
theorem ensures_freeProcessorContext_iff (valid : heap.kProcessorContext ≠ 0) :
    freeProcessorContext.Ensures Heap.environment FreesAllocated heap (fun _ _ => True) ↔
      Releasable heap.contiguous (heap.field .vmxonRegion) ∧
      Releasable (freed heap .vmxonRegion).contiguous (heap.field .vmcsRegion) ∧
      Releasable (freed (freed heap .vmxonRegion) .vmcsRegion).contiguous
        (heap.field .msrBitmap) := by
  rw [freeProcessorContext]
  refine Iff.trans (ensures_unique_bind_iff heap.kProcessorContext fun _ => Iff.rfl) ?_
  refine (and_iff_right trivial).trans ?_
  refine Iff.trans (ensures_ifNotNullptrThenFree_iff valid rfl _ _) (and_congr_right fun _ => ?_)
  refine Iff.trans (ensures_ifNotNullptrThenFree_iff valid (by simp) _ _) ?_
  rw [freed_field heap (by decide)]
  refine and_congr_right fun _ => ?_
  refine Iff.trans (ensures_ifNotNullptrThenFree_iff valid (by simp) _ _) ?_
  rw [freed_field _ (by decide), freed_field _ (by decide)]
  refine and_iff_left ?_
  exact confined_deletePoolMembers.ensures_everywhere fun state op issued => issued state

end Free

section Release

/-- An address at which a page begins. -/
def Aligned (address : Address) : Prop := address &&& 0xFFF = 0

instance (address : Address) : Decidable (Aligned address) :=
  inferInstanceAs (Decidable (address &&& 0xFFF = 0))

theorem alignUp_kAlignmentSize (address : Address) :
    alignUp address kAlignmentSize = roundUp address 0xFFF :=
  alignUp_eq_roundUp address kAlignmentSize

variable {held : List (Block 64)} (apart : held.Pairwise Block.Apart)
  (nonempty : ∀ block ∈ held, 0 < block.bytes.toNat) {block : Block 64} {pointer : Address}
include apart nonempty

/-- A block in use contains the beginning of no block in use but itself. -/
theorem releasable_iff_base_eq (member : block ∈ held) (inside : block.Contains pointer)
    (nonzero : pointer ≠ 0) : Releasable held pointer ↔ block.base = pointer := by
  constructor
  · intro releasable
    obtain ⟨other, otherMember, same⟩ := releasable nonzero
    by_cases equal : block = other
    · rw [equal]
      exact same
    · have separate := apart.forall member otherMember equal
      exact absurd same (separate.base_ne (nonempty other otherMember) inside)
  · intro same _
    exact ⟨block, member, same⟩

/-- What the aligned allocator gives out can be freed exactly when the block was aligned. -/
theorem releasable_roundUp_iff {base bytes : Address}
    (granted : base = 0 ∨ ⟨base, bytes⟩ ∈ held ∧
      (⟨base, bytes⟩ : Block 64).Contains (roundUp base 0xFFF) ∧ roundUp base 0xFFF ≠ 0) :
    Releasable held (roundUp base 0xFFF) ↔ Aligned base := by
  rcases granted with rfl | ⟨member, inside, nonzero⟩
  · exact iff_of_true (fun nonzero => absurd (by decide) nonzero) (by decide)
  · rw [releasable_iff_base_eq apart nonempty member inside nonzero, Aligned,
      ← roundUp_eq_self_iff]
    exact eq_comm

end Release

section SetUp

/-- `new processorContext` and what fills it. -/
def setUp : Code NTSTATUS := do
  newProcessorContext
  initializeProcessorContext

def regionBytes : BitVec 64 := sizeofVMCS + kAlignmentSize
def bitmapBytes : BitVec 64 := 1 + kAlignmentSize

private abbrev anyOp (_ : Heap) (_ : Op) : Prop := True

/-- An answer of the contiguous allocator to a request beside the blocks in use. -/
def Granted (used : List (Block 64)) (base bytes : Address) : Prop :=
  base = 0 ∨ Block.Fresh used ⟨base, bytes⟩

theorem Granted.anti {used fewer : List (Block 64)} {base bytes : Address}
    (granted : Granted used base bytes) (subset : fewer ⊆ used) : Granted fewer base bytes :=
  granted.imp_right fun fresh => fresh.anti subset

/-- Rounding up keeps an address that was granted from becoming null. -/
theorem Granted.eq_zero {used : List (Block 64)} {base bytes : Address}
    (granted : Granted used base bytes) (room : (0xFFF#64).toNat < bytes.toNat)
    (null : roundUp base 0xFFF = 0) : base = 0 := by
  rcases granted with zero | fresh
  · exact zero
  · exact absurd null (fresh.roundUp_ne_zero room)

/-- The aligned allocator asks once and rounds the answer up; a null answer stays null. -/
theorem ensures_allocateAligned (size : BitVec 64) (heap : Heap) :
    (allocateContingiousPhysicalMemoryAligned size kAlignmentSize).Ensures Heap.environment anyOp
      heap fun pointer final => ∃ base highest, pointer = roundUp base 0xFFF ∧
        Granted heap.blocks base (size + kAlignmentSize) ∧
        final = heap.next (.allocateContiguousMemory (size + kAlignmentSize) highest) base := by
  refine ensures_steady_bind trivial (fun _ => rfl) fun cpu => ?_
  refine ensures_ask_bind trivial fun base granted => ?_
  split
  · subst base
    exact ⟨0, _, by decide, granted, rfl⟩
  · refine ensures_steady_bind trivial (fun _ => rfl) fun _ => ?_
    exact ⟨base, _, alignUp_kAlignmentSize base, granted, rfl⟩

/-- The context as `InitializeProcessorContext` leaves it at each of its exits. -/
inductive Built (initial : ContextField → Address) (heap : Heap) : Prop
  | noVmxon : heap.answers = [0] → heap.contiguous = [] → heap.field .vmxonRegion = 0 →
      heap.field .vmcsRegion = initial .vmcsRegion →
      heap.field .msrBitmap = initial .msrBitmap → Built initial heap
  | noVmcs (vmxon : Address) : heap.answers = [vmxon, 0] →
      heap.contiguous = [⟨vmxon, regionBytes⟩] → Block.Fresh [] ⟨vmxon, regionBytes⟩ →
      heap.field .vmxonRegion = roundUp vmxon 0xFFF → heap.field .vmcsRegion = 0 →
      heap.field .msrBitmap = initial .msrBitmap → Built initial heap
  | complete (vmxon vmcs bitmap : Address) : heap.answers = [vmxon, vmcs, bitmap] →
      heap.contiguous = Heap.grant [⟨vmcs, regionBytes⟩, ⟨vmxon, regionBytes⟩] bitmap bitmapBytes →
      Block.Fresh [] ⟨vmxon, regionBytes⟩ →
      Block.Fresh [⟨vmxon, regionBytes⟩] ⟨vmcs, regionBytes⟩ →
      Granted [⟨vmcs, regionBytes⟩, ⟨vmxon, regionBytes⟩] bitmap bitmapBytes →
      heap.field .vmxonRegion = roundUp vmxon 0xFFF →
      heap.field .vmcsRegion = roundUp vmcs 0xFFF →
      heap.field .msrBitmap = roundUp bitmap 0xFFF → Built initial heap

theorem ensures_setUp (initial : ContextField → Address) :
    setUp.Ensures Heap.environment anyOp (.start initial) fun _ heap =>
      heap.kProcessorContext ≠ 0 ∧ Built initial heap := by
  refine ensures_ask_bind trivial fun context contextGranted => ?_
  refine ensures_ask_bind trivial fun _ _ => ?_
  refine ensures_ask_bind trivial fun loaded same => ?_
  obtain rfl : loaded = context := same
  refine (ensures_allocateAligned _ _).bind fun pointer heap allocated => ?_
  obtain ⟨vmxon, _, rfl, vmxonGranted, rfl⟩ := allocated
  refine ensures_ask_bind trivial fun _ stored => ?_
  have valid : loaded ≠ 0 := stored.1
  refine ensures_ask_bind trivial fun member read => ?_
  obtain rfl : member = roundUp vmxon 0xFFF := read.2.2
  split
  case isTrue null =>
    obtain rfl := vmxonGranted.eq_zero (by decide) null
    exact ⟨valid, .noVmxon rfl rfl rfl rfl rfl⟩
  case isFalse notNull =>
    have vmxonNonzero : vmxon ≠ 0 := by rintro rfl; exact notNull (by decide)
    have vmxonFresh := (vmxonGranted.resolve_left vmxonNonzero).anti (List.nil_subset _)
    refine (ensures_allocateAligned _ _).bind fun pointer heap allocated => ?_
    obtain ⟨vmcs, _, rfl, vmcsGranted, rfl⟩ := allocated
    refine ensures_ask_bind trivial fun _ _ => ?_
    refine ensures_ask_bind trivial fun member read => ?_
    obtain rfl : member = roundUp vmcs 0xFFF := read.2.2
    have grantedFirst : Heap.grant [] vmxon regionBytes = [⟨vmxon, regionBytes⟩] :=
      if_neg vmxonNonzero
    split
    case isTrue null =>
      obtain rfl := vmcsGranted.eq_zero (by decide) null
      exact ⟨valid, .noVmcs vmxon rfl grantedFirst vmxonFresh rfl rfl rfl⟩
    case isFalse notNull =>
      have vmcsNonzero : vmcs ≠ 0 := by rintro rfl; exact notNull (by decide)
      refine ensures_ask_bind trivial fun table _ => ?_
      iterate 3 refine ensures_ask_bind trivial fun _ _ => ?_
      refine (ensures_allocateAligned _ _).bind fun pointer heap allocated => ?_
      obtain ⟨bitmap, _, rfl, bitmapGranted, rfl⟩ := allocated
      iterate 5 refine ensures_ask_bind trivial fun _ _ => ?_
      have grantedSecond : Heap.grant (Heap.grant [] vmxon regionBytes) vmcs regionBytes =
          [⟨vmcs, regionBytes⟩, ⟨vmxon, regionBytes⟩] := by
        rw [grantedFirst]
        exact if_neg vmcsNonzero
      refine ⟨valid, .complete vmxon vmcs bitmap rfl ?_ vmxonFresh ?_ ?_ rfl rfl rfl⟩
      · exact congrArg (Heap.grant · bitmap bitmapBytes) grantedSecond
      · rw [← grantedFirst]
        exact (vmcsGranted.resolve_left vmcsNonzero).anti (List.subset_append_left ..)
      · rw [← grantedSecond]
        exact bitmapGranted.anti (List.subset_append_left ..)

end SetUp

section Cleanup

theorem freed_contiguous {heap : Heap} (nonzero : ∀ block ∈ heap.contiguous, block.base ≠ 0)
    (field : ContextField) :
    (freed heap field).contiguous = Heap.release heap.contiguous (heap.field field) := by
  unfold freed
  split
  case isTrue null =>
    rw [null, Heap.release, List.filter_eq_self.mpr]
    intro block member
    exact decide_eq_true (nonzero block member)
  case isFalse => rfl

/-- A `FreeProcessorContext` from here gives `MmFreeContiguousMemory` only pointers at which a
block in use begins. -/
def FreesOnlyAllocated (heap : Heap) : Prop :=
  ∀ events rest final op, Path Heap.environment freeProcessorContext heap events rest final →
    rest.head? = some op → FreesAllocated final op

theorem freesOnlyAllocated_iff_releasable {heap : Heap} (valid : heap.kProcessorContext ≠ 0)
    (nonzero : ∀ block ∈ heap.contiguous, block.base ≠ 0) :
    FreesOnlyAllocated heap ↔
      Releasable heap.contiguous (heap.field .vmxonRegion) ∧
      Releasable (Heap.release heap.contiguous (heap.field .vmxonRegion))
        (heap.field .vmcsRegion) ∧
      Releasable (Heap.release (Heap.release heap.contiguous (heap.field .vmxonRegion))
        (heap.field .vmcsRegion)) (heap.field .msrBitmap) := by
  have first := freed_contiguous nonzero .vmxonRegion
  have second : (freed (freed heap .vmxonRegion) .vmcsRegion).contiguous =
      Heap.release (Heap.release heap.contiguous (heap.field .vmxonRegion))
        (heap.field .vmcsRegion) := by
    rw [freed_contiguous, first, freed_field heap (by decide)]
    rw [first]
    exact fun block member => nonzero block (Heap.mem_release.mp member).1
  rw [FreesOnlyAllocated, ← ensures_iff_legal, ensures_freeProcessorContext_iff valid, first, second]

/-- Each block of the contiguous allocator was page aligned, and the old contents of a member
whose allocation was not attempted was null. -/
def InputsSafe (initial : ContextField → Address) (answers : List Address) : Prop :=
  (∀ base ∈ answers, Aligned base) ∧
    (answers.length < 2 → initial .vmcsRegion = 0) ∧
    (answers.length < 3 → initial .msrBitmap = 0)

theorem releasable_nil_iff (pointer : Address) : Releasable [] pointer ↔ pointer = 0 := by
  simp [Releasable]

private theorem inUse_of_granted {used held : List (Block 64)} {base bytes : Address}
    (granted : Granted used base bytes) (room : (0xFFF#64).toNat < bytes.toNat)
    (member : base ≠ 0 → ⟨base, bytes⟩ ∈ held) :
    base = 0 ∨ ⟨base, bytes⟩ ∈ held ∧ (⟨base, bytes⟩ : Block 64).Contains (roundUp base 0xFFF) ∧
      roundUp base 0xFFF ≠ 0 := by
  by_cases null : base = 0
  · exact .inl null
  · have fresh := granted.resolve_left null
    exact .inr ⟨member null, fresh.contains_roundUp room, fun zero => null (granted.eq_zero room zero)⟩

section Three

variable {vmxon vmcs bitmap : Address} (vmxonFresh : Block.Fresh [] ⟨vmxon, regionBytes⟩)
  (vmcsFresh : Block.Fresh [⟨vmxon, regionBytes⟩] ⟨vmcs, regionBytes⟩)
  (bitmapGranted : Granted [⟨vmcs, regionBytes⟩, ⟨vmxon, regionBytes⟩] bitmap bitmapBytes)
include vmxonFresh vmcsFresh bitmapGranted

/-- The blocks of a complete context are apart, begin at addresses that are not null, and have
room for the rounding. -/
private theorem three_blocks :
    (Heap.grant [⟨vmcs, regionBytes⟩, ⟨vmxon, regionBytes⟩] bitmap bitmapBytes).Pairwise Block.Apart ∧
    ∀ block ∈ Heap.grant [⟨vmcs, regionBytes⟩, ⟨vmxon, regionBytes⟩] bitmap bitmapBytes,
      block.base ≠ 0 ∧ (0xFFF#64).toNat < block.bytes.toNat := by
  have room : (0xFFF#64).toNat < regionBytes.toNat := by decide
  have two : [(⟨vmcs, regionBytes⟩ : Block 64), ⟨vmxon, regionBytes⟩].Pairwise Block.Apart :=
    List.pairwise_pair.mpr (vmcsFresh.apart _ (by simp))
  by_cases null : bitmap = 0
  · rw [Heap.grant, if_pos null]
    refine ⟨two, ?_⟩
    simp only [List.mem_cons, List.not_mem_nil, or_false, forall_eq_or_imp, forall_eq]
    exact ⟨⟨vmcsFresh.nonzero, room⟩, vmxonFresh.nonzero, room⟩
  · have fresh := bitmapGranted.resolve_left null
    rw [Heap.grant, if_neg null]
    refine ⟨List.pairwise_cons.mpr ⟨fresh.apart, two⟩, ?_⟩
    simp only [List.mem_cons, List.not_mem_nil, or_false, forall_eq_or_imp, forall_eq]
    exact ⟨⟨null, by decide⟩, ⟨vmcsFresh.nonzero, room⟩, vmxonFresh.nonzero, room⟩

private theorem releasable_three :
    (Releasable (Heap.grant [⟨vmcs, regionBytes⟩, ⟨vmxon, regionBytes⟩] bitmap bitmapBytes)
        (roundUp vmxon 0xFFF) ∧
      Releasable (Heap.release (Heap.grant [⟨vmcs, regionBytes⟩, ⟨vmxon, regionBytes⟩] bitmap
        bitmapBytes) (roundUp vmxon 0xFFF)) (roundUp vmcs 0xFFF) ∧
      Releasable (Heap.release (Heap.release (Heap.grant [⟨vmcs, regionBytes⟩, ⟨vmxon, regionBytes⟩]
        bitmap bitmapBytes) (roundUp vmxon 0xFFF)) (roundUp vmcs 0xFFF)) (roundUp bitmap 0xFFF)) ↔
      Aligned vmxon ∧ Aligned vmcs ∧ Aligned bitmap := by
  obtain ⟨apart, sound⟩ := three_blocks vmxonFresh vmcsFresh bitmapGranted
  have subset : [⟨vmcs, regionBytes⟩, ⟨vmxon, regionBytes⟩] ⊆
      Heap.grant [⟨vmcs, regionBytes⟩, ⟨vmxon, regionBytes⟩] bitmap bitmapBytes := by
    unfold Heap.grant
    split
    · exact List.Subset.refl _
    · exact List.subset_cons_self ..
  have granted : bitmap ≠ 0 → ⟨bitmap, bitmapBytes⟩ ∈
      Heap.grant [⟨vmcs, regionBytes⟩, ⟨vmxon, regionBytes⟩] bitmap bitmapBytes := by
    intro nonzero
    rw [Heap.grant, if_neg nonzero]
    exact List.mem_cons_self ..
  generalize Heap.grant [⟨vmcs, regionBytes⟩, ⟨vmxon, regionBytes⟩] bitmap bitmapBytes = held at *
  have room : (0xFFF#64).toNat < regionBytes.toNat := by decide
  have nonempty : ∀ block ∈ held, 0 < block.bytes.toNat := fun block member =>
    Nat.zero_lt_of_lt (sound block member).2
  have vmxonInside := vmxonFresh.contains_roundUp room
  have vmcsInside := vmcsFresh.contains_roundUp room
  have vmcsHeld : ⟨vmcs, regionBytes⟩ ∈ Heap.release held (roundUp vmxon 0xFFF) := by
    refine Heap.mem_release.mpr ⟨subset (by simp), ?_⟩
    exact (Std.Symm.symm _ _ (vmcsFresh.apart _ (by simp))).base_ne
      (nonempty _ (subset (by simp))) vmxonInside
  have bitmapHeld : bitmap ≠ 0 → ⟨bitmap, bitmapBytes⟩ ∈
      Heap.release (Heap.release held (roundUp vmxon 0xFFF)) (roundUp vmcs 0xFFF) := by
    intro nonzero
    have fresh := bitmapGranted.resolve_left nonzero
    have filled := nonempty _ (granted nonzero)
    refine Heap.mem_release.mpr ⟨Heap.mem_release.mpr ⟨granted nonzero, ?_⟩, ?_⟩
    · exact (Std.Symm.symm _ _ (fresh.apart _ (by simp))).base_ne filled vmxonInside
    · exact (Std.Symm.symm _ _ (fresh.apart _ (by simp))).base_ne filled vmcsInside
  have fewer : ∀ pointer, ∀ block ∈ Heap.release held pointer, 0 < block.bytes.toNat :=
    fun pointer block member => nonempty block (Heap.mem_release.mp member).1
  refine and_congr ?_ (and_congr ?_ ?_)
  · exact releasable_roundUp_iff apart nonempty
      (inUse_of_granted (.inr vmxonFresh) room fun _ => subset (by simp))
  · exact releasable_roundUp_iff (apart.filter _) (fewer _)
      (inUse_of_granted (.inr vmcsFresh) room fun _ => vmcsHeld)
  · exact releasable_roundUp_iff ((apart.filter _).filter _)
      (fun block member => fewer _ block (Heap.mem_release.mp member).1)
      (inUse_of_granted bitmapGranted (by decide) bitmapHeld)

end Three

theorem freesOnlyAllocated_iff_of_built {initial : ContextField → Address} {heap : Heap}
    (valid : heap.kProcessorContext ≠ 0) (built : Built initial heap) :
    FreesOnlyAllocated heap ↔ InputsSafe initial heap.answers := by
  have room : (0xFFF#64).toNat < regionBytes.toNat := by decide
  have nonempty : 0 < regionBytes.toNat := by decide
  cases built with
  | noVmxon answers contiguous vmxonField vmcsField bitmapField =>
    rw [freesOnlyAllocated_iff_releasable valid (by simp [contiguous]), contiguous, vmxonField,
      vmcsField, bitmapField, answers]
    simp [Heap.release, releasable_nil_iff, InputsSafe, Aligned]
  | noVmcs vmxon answers contiguous fresh vmxonField vmcsField bitmapField =>
    rw [freesOnlyAllocated_iff_releasable valid (by simpa [contiguous] using fresh.nonzero),
      contiguous, vmxonField, vmcsField, bitmapField, answers]
    have first : Releasable [⟨vmxon, regionBytes⟩] (roundUp vmxon 0xFFF) ↔ Aligned vmxon :=
      releasable_roundUp_iff (List.pairwise_singleton ..) (by simpa using nonempty)
        (inUse_of_granted (.inr fresh) room (by simp))
    rw [first]
    constructor
    · rintro ⟨aligned, _, bitmap⟩
      rw [(roundUp_eq_self_iff vmxon 0xFFF).mpr aligned] at bitmap
      have old : initial .msrBitmap = 0 := by
        simpa [Heap.release, releasable_nil_iff] using bitmap
      have zeroAligned : Aligned 0#64 := by decide
      exact ⟨by simp [aligned, zeroAligned], by simp, fun _ => old⟩
    · rintro ⟨aligned, _, old⟩
      exact ⟨aligned vmxon (by simp), fun zero => absurd rfl zero,
        fun nonzero => absurd (old (by simp)) nonzero⟩
  | complete vmxon vmcs bitmap answers contiguous vmxonFresh vmcsFresh bitmapGranted vmxonField
      vmcsField bitmapField =>
    have separate : ∀ block ∈ heap.contiguous, block.base ≠ 0 := by
      rw [contiguous]
      exact fun block member => ((three_blocks vmxonFresh vmcsFresh bitmapGranted).2 block member).1
    rw [freesOnlyAllocated_iff_releasable valid separate, contiguous, vmxonField, vmcsField,
      bitmapField, answers, releasable_three vmxonFresh vmcsFresh bitmapGranted]
    simp [InputsSafe]

/-- Exactly when the cleanup after `InitializeProcessorContext` is legal, whichever of its exits
was taken. -/
theorem freesOnlyAllocated_iff {initial : ContextField → Address} {events : List (Event interface)}
    {status : NTSTATUS} {heap : Heap}
    (path : Path Heap.environment setUp (.start initial) events (.done status) heap) :
    FreesOnlyAllocated heap ↔ InputsSafe initial heap.answers := by
  obtain ⟨valid, built⟩ := (ensures_setUp initial).post_of_path path
  exact freesOnlyAllocated_iff_of_built valid built

end Cleanup

section Runs

/-- `InitializeProcessorContext` when its first allocation is refused: it has stored the null it was
given and gone no further. -/
theorem reaches_of_refused {heap : Heap} (valid : heap.kProcessorContext ≠ 0) :
    Reaches Heap.environment initializeProcessorContext heap
      (.done (ntError statusFailedToAllocateMemory))
      { heap with
        field := Function.update heap.field .vmxonRegion 0
        answers := heap.answers ++ [0] } := by
  refine .step heap.kProcessorContext rfl ?_
  refine .step ⟨0, 0, 0, 0⟩ trivial ?_
  refine .step 0 (.inl rfl) ?_
  refine .step () ⟨valid, rfl⟩ ?_
  refine .step 0 ⟨valid, rfl, rfl⟩ ?_
  exact .refl _ _

/-- A pool block whose last owner left a nonzero word in every place. -/
def leftover : ContextField → Address := fun _ => 0x7700

/-- The context after the first contiguous allocation failed. -/
def afterFailure : Heap :=
  ⟨0x1000, Function.update leftover .vmxonRegion 0, [], [⟨0x1000, sizeofProcessorContext⟩], [0]⟩

private theorem reaches_afterFailure :
    Reaches Heap.environment setUp (.start leftover)
      (.done (ntError statusFailedToAllocateMemory)) afterFailure := by
  refine .step 0x1000 (.inr (by decide)) ?_
  refine .step () trivial ?_
  exact reaches_of_refused (by decide)

theorem freesOnlyAllocated_iff_afterFailure :
    FreesOnlyAllocated afterFailure ↔ InputsSafe leftover [0] := by
  obtain ⟨events, path⟩ := reaches_afterFailure
  exact freesOnlyAllocated_iff path

/-- When the first allocation fails, the cleanup frees the words the block was found with. -/
theorem not_freesOnlyAllocated : ¬ ∀ initial events status heap,
    Path Heap.environment setUp (.start initial) events (.done status) heap →
      FreesOnlyAllocated heap := by
  intro frees
  obtain ⟨events, path⟩ := reaches_afterFailure
  obtain ⟨valid, built⟩ := (ensures_setUp leftover).post_of_path path
  have safe := (freesOnlyAllocated_iff_of_built valid built).mp (frees _ _ _ _ path)
  exact absurd (safe.2.1 (by decide)) (by decide)

end Runs

end Guypervisor.Soundness.ContextCleanup
