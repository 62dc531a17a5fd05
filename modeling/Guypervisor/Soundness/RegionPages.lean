import Guypervisor.Soundness.ContextLeak

/-! # The pages of the VMX regions

The processor uses a page of 4096 bytes at the VMXON region, the VMCS region and the MSR bitmap.
Each is the first page boundary in a block that is one page longer than the structure kept in it,
so that the whole page lies in the block only when the boundary comes before the structure's size.
-/

namespace Guypervisor.Soundness.RegionPages

open Effects Effects.Program Model Code Proofs ContextCleanup

/-- The page the processor uses. -/
def pageAt (address : Address) : Block 64 := ⟨address, pageSize⟩

/-- Three aligned pages, each inside the block allocated for it, and apart from the others. -/
structure WholePages (heap : Heap) (vmxon vmcs bitmap : Address) : Prop where
  aligned : Aligned (heap.field .vmxonRegion) ∧ Aligned (heap.field .vmcsRegion) ∧
    Aligned (heap.field .msrBitmap)
  vmxon : (pageAt (heap.field .vmxonRegion)).Within ⟨vmxon, regionBytes⟩
  vmcs : (pageAt (heap.field .vmcsRegion)).Within ⟨vmcs, regionBytes⟩
  bitmap : (pageAt (heap.field .msrBitmap)).Within ⟨bitmap, bitmapBytes⟩
  apart : [pageAt (heap.field .vmxonRegion), pageAt (heap.field .vmcsRegion),
    pageAt (heap.field .msrBitmap)].Pairwise Block.Apart

/-- The bytes from an address to the next page boundary. -/
def toNextPage (address : Address) : ℕ := (4096 - address.toNat % 4096) % 4096

/-- Rounding up goes to the next page boundary. -/
theorem toNat_roundUp {address : Address} (fits : address.toNat + 0xFFF < 2 ^ 64) :
    (roundUp address 0xFFF).toNat = address.toNat + toNextPage address := by
  have low : (0xFFF#64).toNat = 2 ^ 12 - 1 := by decide
  have round := roundUp_add_mod low (show address.toNat + (0xFFF#64).toNat < 2 ^ 64 from fits)
  rw [low] at round
  change (roundUp address 0xFFF).toNat + _ = _ at round
  unfold toNextPage
  omega

/-- The page at the boundary lies in the block when the boundary comes soon enough. -/
theorem within_iff {used : List (Block 64)} {base bytes : Address} {size : ℕ}
    (fresh : Block.Fresh used ⟨base, bytes⟩) (length : bytes.toNat = size + 4096) :
    (pageAt (roundUp base 0xFFF)).Within ⟨base, bytes⟩ ↔ toNextPage base ≤ size := by
  have fits := fresh.fits
  change base.toNat + bytes.toNat ≤ 2 ^ 64 at fits
  have rounded := toNat_roundUp (show base.toNat + 0xFFF < 2 ^ 64 by omega)
  have page : pageSize.toNat = 4096 := by decide
  unfold Block.Within pageAt
  simp only [BitVec.le_def]
  rw [rounded, page, length]
  omega

theorem aligned_roundUp (address : Address) : Aligned (roundUp address 0xFFF) :=
  roundUp_and_mask address 0xFFF

/-- The exact extent of the defect: the pages are whole when the next page boundary is at most 792
bytes, the size of `VMCS`, into the blocks of the two regions, and at most one into the bitmap's. -/
theorem wholePages_iff {initial : ContextField → Address} {events : List (Event interface)}
    {status : NTSTATUS} {heap : Heap} {vmxon vmcs bitmap : Address}
    (path : Path Heap.environment setUp (.start initial) events (.done status) heap)
    (answers : heap.answers = [vmxon, vmcs, bitmap]) (nonzero : bitmap ≠ 0) :
    WholePages heap vmxon vmcs bitmap ↔
      toNextPage vmxon ≤ 792 ∧ toNextPage vmcs ≤ 792 ∧ toNextPage bitmap ≤ 1 := by
  obtain ⟨-, built⟩ := (ensures_setUp initial).post_of_path path
  rcases built with ⟨short, _⟩ | ⟨_, short, _⟩ |
    ⟨vmxon', vmcs', bitmap', full, _, vmxonFresh, vmcsFresh, bitmapGranted, vmxonField, vmcsField,
      bitmapField⟩
  · simp [answers] at short
  · simp [answers] at short
  · rw [answers] at full
    injection full with first later
    injection later with second last
    injection last with third
    subst first second third
    have bitmapFresh := bitmapGranted.resolve_left nonzero
    have region : regionBytes.toNat = 792 + 4096 := by decide
    have length : bitmapBytes.toNat = 1 + 4096 := by decide
    rw [← within_iff vmxonFresh region, ← within_iff vmcsFresh region,
      ← within_iff bitmapFresh length, ← vmxonField, ← vmcsField, ← bitmapField]
    constructor
    · intro whole
      exact ⟨whole.vmxon, whole.vmcs, whole.bitmap⟩
    · rintro ⟨vmxonWithin, vmcsWithin, bitmapWithin⟩
      have symm {block other : Block 64} (apart : block.Apart other) : other.Apart block :=
        Or.symm apart
      constructor
      · rw [vmxonField, vmcsField, bitmapField]
        exact ⟨aligned_roundUp _, aligned_roundUp _, aligned_roundUp _⟩
      · exact vmxonWithin
      · exact vmcsWithin
      · exact bitmapWithin
      · have first := symm (vmcsFresh.apart ⟨vmxon, regionBytes⟩ (by simp))
        have second := symm (bitmapFresh.apart ⟨vmxon, regionBytes⟩ (by simp))
        have third := symm (bitmapFresh.apart ⟨vmcs, regionBytes⟩ (by simp))
        simp only [List.pairwise_cons, List.mem_cons, List.not_mem_nil, or_false, forall_eq_or_imp,
          forall_eq, IsEmpty.forall_iff, implies_true, List.Pairwise.nil, and_true]
        exact ⟨⟨first.of_within vmxonWithin vmcsWithin, second.of_within vmxonWithin bitmapWithin⟩,
          third.of_within vmcsWithin bitmapWithin⟩

section Runs

/-- A contiguous block that begins some bytes into a page. -/
def shiftedBlock (shift : Address) (heap : Heap) (bytes : BitVec 64) : Option Address :=
  let base : Address := 0x10000 * BitVec.ofNat 64 (heap.blocks.length + 1) + shift
  if Block.Fresh heap.blocks ⟨base, bytes⟩ then some base else none

/-- The kernel's answers with such blocks. -/
def shifted (shift : Address) (heap : Heap) : (op : Op) → Option op.Response
  | .allocateContiguousMemory bytes _ => shiftedBlock shift heap bytes
  | op => ContextLeak.granted heap op

private theorem allows_of_shifted (shift : Address) (heap : Heap) (op : Op) (response : op.Response)
    (answered : shifted shift heap op = some response) :
    Heap.environment.allows heap op response := by
  cases op with
  | allocateContiguousMemory bytes =>
    obtain ⟨fresh, same⟩ := Option.ite_none_right_eq_some.mp answered
    obtain rfl := Option.some.inj same
    exact .inr fresh
  | _ => exact (ContextLeak.allows_of_granted heap _ response answered).1

def shiftedRun (shift : Address) : List (Event interface) × Code NTSTATUS × Heap :=
  drive Heap.environment (shifted shift) 40 setUp (.start fun _ => 0)

private theorem path_shiftedRun {shift : Address}
    (finished : (shiftedRun shift).2.1.head? = none) :
    ∃ status, Path Heap.environment setUp (.start fun _ => 0) (shiftedRun shift).1 (.done status)
      (shiftedRun shift).2.2 :=
  drive_path_done (allows_of_shifted shift) finished

theorem wholePages_iff_shiftedRun :
    WholePages (shiftedRun 0xFFF).2.2 0x20FFF 0x30FFF 0x50FFF ↔
      toNextPage 0x20FFF ≤ 792 ∧ toNextPage 0x30FFF ≤ 792 ∧ toNextPage 0x50FFF ≤ 1 := by
  have finished : (shiftedRun 0xFFF).2.1.head? = none := by decide +kernel
  have answers : (shiftedRun 0xFFF).2.2.answers = [0x20FFF, 0x30FFF, 0x50FFF] := by decide +kernel
  obtain ⟨status, path⟩ := path_shiftedRun finished
  exact wholePages_iff path answers (by decide)

/-- In blocks that begin 16 bytes into a page the three pages end after their blocks. -/
theorem not_wholePages : ¬ ∀ (initial : ContextField → Address) (events : List (Event interface))
    (status : NTSTATUS) (heap : Heap) (vmxon vmcs bitmap : Address),
    Path Heap.environment setUp (.start initial) events (.done status) heap →
    heap.answers = [vmxon, vmcs, bitmap] → bitmap ≠ 0 → WholePages heap vmxon vmcs bitmap := by
  intro whole
  have finished : (shiftedRun 0x10).2.1.head? = none := by decide +kernel
  have answers : (shiftedRun 0x10).2.2.answers = [0x20010, 0x30010, 0x50010] := by decide +kernel
  obtain ⟨status, path⟩ := path_shiftedRun finished
  have inside := (whole _ _ status _ _ _ _ path answers (by decide)).bitmap.2
  revert inside
  decide +kernel

end Runs

end Guypervisor.Soundness.RegionPages
