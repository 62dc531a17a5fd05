import Guypervisor.Effects.Observation
import Guypervisor.Proofs.Setup
import Guypervisor.Soundness.ContextLeak

/-! # A complete processor context or a failure

`InitializeProcessorContext` fills six members. It is to report success only when all six
allocations succeeded, and never to write through a null pointer. Its two failure statuses pass
`NT_SUCCESS`, the last four allocations are not tested, and the table of the third is cleared even
when it is null.
-/

namespace Guypervisor.Soundness.CompleteContext

open Effects Effects.Program Model Code Proofs ContextCleanup

/-- The answer of an allocation. -/
def allocated : Event interface → Option Address
  | ⟨.allocateContiguousMemory _ _, pointer⟩ => some pointer
  | ⟨.allocatePool _, pointer⟩ => some pointer
  | _ => none

/-- The answers of the allocations of a run. -/
def allocations (events : List (Event interface)) : List Address := events.filterMap allocated

/-- Memory is cleared or written through the null pointer. -/
def IsNullWrite : Op → Prop
  | .zeroMemory address _ => address = 0
  | .storeField context _ _ => context = 0
  | _ => False

/-- What the members are to hold; the contiguous allocator's addresses are rounded up to a page. -/
def results (vmxon vmcs table bitmap guest host : Address) : ContextField → Address
  | .vmxonRegion => alignUp vmxon kAlignmentSize
  | .vmcsRegion => alignUp vmcs kAlignmentSize
  | .eptPml4Entries => table
  | .msrBitmap => alignUp bitmap kAlignmentSize
  | .guestStack => guest
  | .hostStack => host

/-- Six allocations were made, each member holds the result of its own, and none is null. -/
def Complete (answers : List Address) (heap : Heap) : Prop :=
  ∃ vmxon vmcs table bitmap guest host, answers = [vmxon, vmcs, table, bitmap, guest, host] ∧
    heap.field = results vmxon vmcs table bitmap guest host ∧ ∀ field, heap.field field ≠ 0

/-- Nothing is about to be written through null, and a success is that of a complete context. -/
def Sound (events : List (Event interface)) (rest : Code NTSTATUS) (heap : Heap) : Prop :=
  (∀ op, rest.head? = some op → ¬ IsNullWrite op) ∧
    ∀ status, rest = .done status → ntSuccess status = true → Complete (allocations events) heap

/-- The end of a run: a status, or a write through the null pointer. -/
def Ended (rest : Code NTSTATUS) : Prop :=
  (∃ status, rest = .done status) ∨ ∃ op, rest.head? = some op ∧ IsNullWrite op

private abbrev observed : Environment interface (Heap × List Address) :=
  Heap.environment.observing allocated

/-- A write through null comes after an allocation that failed. -/
private def AfterFailure (state : Heap × List Address) (op : Op) : Prop :=
  IsNullWrite op → 0 ∈ state.2

/-- Success is reported at every exit, and the context is complete when no allocation failed. -/
private def Outcome (status : NTSTATUS) (state : Heap × List Address) : Prop :=
  ntSuccess status = true ∧ (Complete state.2 state.1 ↔ 0 ∉ state.2)

/-- A program makes one allocation, gives a result that is null when the answer is, and leaves the
members alone. -/
private def Allocates (program : Code Address) (result : Address → Address) : Prop :=
  ∀ heap answers, program.Ensures observed AfterFailure (heap, answers) fun pointer final =>
    ∃ base, pointer = result base ∧ (result base = 0 ↔ base = 0) ∧ final.2 = answers ++ [base] ∧
      final.1.field = heap.field ∧ final.1.kProcessorContext = heap.kProcessorContext

private theorem allocates_pool (bytes : BitVec 64) : Allocates (allocatePool bytes) id := by
  intro heap answers
  refine ⟨False.elim, ?_⟩
  intro base _
  exact ⟨base, rfl, Iff.rfl, rfl, rfl, rfl⟩

/-- Rounding up makes a granted address null only when it was. -/
private theorem alignUp_eq_zero_iff {used : List (Block 64)} {base bytes : Address}
    (granted : Granted used base bytes) (room : (0xFFF#64).toNat < bytes.toNat) :
    alignUp base kAlignmentSize = 0 ↔ base = 0 := by
  rw [alignUp_kAlignmentSize]
  constructor
  · intro null
    exact granted.eq_zero room null
  · rintro rfl
    decide

private theorem allocates_aligned {size : BitVec 64}
    (room : (0xFFF#64).toNat < (size + kAlignmentSize).toNat) :
    Allocates (allocateContingiousPhysicalMemoryAligned size kAlignmentSize)
      (alignUp · kAlignmentSize) := by
  intro heap answers
  apply ensures_steady_bind False.elim
  · intro cpu
    exact Prod.ext rfl (List.append_nil _)
  intro cpu
  apply ensures_ask_bind False.elim
  intro base granted
  have rounds := alignUp_eq_zero_iff granted room
  split
  · rename_i null
    exact ⟨base, (rounds.mpr null).symm, rounds, rfl, rfl, rfl⟩
  · rename_i nonzero
    apply ensures_ask_bind fun null => absurd null nonzero
    intro _ _
    exact ⟨base, rfl, rounds, List.append_nil _, rfl, rfl⟩

section Members

variable {α : Type} {heap : Heap} {answers : List Address} {context : Address}
  {post : α → Heap × List Address → Prop}

/-- A member is read. -/
private theorem ensures_load_bind {field : ContextField} {next : Address → Code α}
    (rest : (next (heap.field field)).Ensures observed AfterFailure (heap, answers) post) :
    (loadField context field >>= next).Ensures observed AfterFailure (heap, answers) post := by
  apply ensures_query_bind False.elim
  · intro pointer
    exact Prod.ext rfl (List.append_nil _)
  · intro pointer read
    obtain rfl : pointer = heap.field field := read.2.2
    exact rest

variable (valid : context ≠ 0) (here : heap.kProcessorContext = context)
include valid here

/-- The result of an allocation becomes a member of the context. -/
private theorem ensures_fill_bind {program : Code Address} {result : Address → Address}
    {field : ContextField} {next : Unit → Code α} (allocates : Allocates program result)
    (rest : ∀ base filled, (result base = 0 ↔ base = 0) → filled.kProcessorContext = context →
      filled.field = Function.update heap.field field (result base) →
        (next ()).Ensures observed AfterFailure (filled, answers ++ [base]) post) :
    (program >>= fun pointer => storeField context field pointer >>= next).Ensures observed
      AfterFailure (heap, answers) post := by
  apply (allocates heap answers).bind
  rintro pointer ⟨allotted, _⟩ ⟨base, rfl, rounds, rfl, fields, kept⟩
  apply ensures_ask_bind fun null => absurd null valid
  intro _ _
  have step : observed.next (allotted, answers ++ [base])
      (.storeField context field (result base)) () =
        (allotted.next (.storeField context field (result base)) (), answers ++ [base]) :=
    Prod.ext rfl (List.append_nil _)
  rw [step]
  apply rest base (allotted.next (.storeField context field (result base)) ()) rounds
  · exact kept.trans here
  · exact congrArg (Function.update · field (result base)) fields

end Members

/-- Too few allocations do not make a context complete. -/
private theorem not_complete {answers : List Address} {heap : Heap} (fewer : answers.length < 6) :
    ¬ Complete answers heap := by
  rintro ⟨_, _, _, _, _, _, rfl, _⟩
  exact absurd fewer (by simp)

/-- The six results are complete when none of the six answers was null. -/
private theorem complete_iff {vmxon vmcs table bitmap guest host : Address} {heap : Heap}
    (fields : heap.field = results vmxon vmcs table bitmap guest host)
    (vmxonRounds : alignUp vmxon kAlignmentSize = 0 ↔ vmxon = 0)
    (vmcsRounds : alignUp vmcs kAlignmentSize = 0 ↔ vmcs = 0)
    (bitmapRounds : alignUp bitmap kAlignmentSize = 0 ↔ bitmap = 0) :
    Complete [vmxon, vmcs, table, bitmap, guest, host] heap ↔
      0 ∉ [vmxon, vmcs, table, bitmap, guest, host] := by
  have members : (∀ field, heap.field field ≠ 0) ↔
      0 ∉ [vmxon, vmcs, table, bitmap, guest, host] := by
    simp only [List.mem_cons, List.not_mem_nil, or_false, not_or, eq_comm (a := (0 : Address))]
    rw [fields, ← ne_eq vmxon, ← ne_eq vmcs, ← ne_eq bitmap, ← vmxonRounds.ne, ← vmcsRounds.ne,
      ← bitmapRounds.ne]
    constructor
    · intro nonnull
      exact ⟨nonnull .vmxonRegion, nonnull .vmcsRegion, nonnull .eptPml4Entries,
        nonnull .msrBitmap, nonnull .guestStack, nonnull .hostStack⟩
    · rintro ⟨vmxon, vmcs, table, bitmap, guest, host⟩ field
      cases field with
      | vmxonRegion => exact vmxon
      | vmcsRegion => exact vmcs
      | eptPml4Entries => exact table
      | msrBitmap => exact bitmap
      | guestStack => exact guest
      | hostStack => exact host
  constructor
  · rintro ⟨_, _, _, _, _, _, -, -, nonnull⟩
    exact members.mp nonnull
  · intro nonnull
    exact ⟨_, _, _, _, _, _, rfl, fields, members.mpr nonnull⟩

theorem ensures_initializeProcessorContext {initial : Heap}
    (valid : initial.kProcessorContext ≠ 0) :
    initializeProcessorContext.Ensures observed AfterFailure (initial, []) Outcome := by
  have region : (0xFFF#64).toNat < (sizeofVMCS + kAlignmentSize).toNat := by decide
  apply ensures_query_bind False.elim fun _ => rfl
  intro context same
  obtain rfl : context = initial.kProcessorContext := same
  apply ensures_fill_bind valid rfl (allocates_aligned region)
  intro vmxon heap vmxonRounds here vmxonFields
  apply ensures_load_bind
  rw [vmxonFields, Function.update_self]
  split
  · rename_i null
    obtain rfl := vmxonRounds.mp null
    exact ⟨(driverStatus_ntError _).ntSuccess, iff_of_false (not_complete (by simp)) (by simp)⟩
  apply ensures_fill_bind valid here (allocates_aligned region)
  intro vmcs heap vmcsRounds here vmcsFields
  apply ensures_load_bind
  rw [vmcsFields, Function.update_self]
  split
  · rename_i null
    obtain rfl := vmcsRounds.mp null
    exact ⟨(driverStatus_ntError _).ntSuccess, iff_of_false (not_complete (by simp)) (by simp)⟩
  apply ensures_fill_bind valid here (allocates_pool _)
  intro table heap _ here tableFields
  apply ensures_load_bind
  rw [tableFields, Function.update_self]
  have answered : table = 0 → (0 : Address) ∈ [] ++ [vmxon] ++ [vmcs] ++ [table] := by
    rintro rfl
    simp
  apply ensures_query_bind answered
  · intro _
    exact Prod.ext rfl (List.append_nil _)
  intro _ _
  apply ensures_fill_bind valid here (allocates_aligned (by decide))
  intro bitmap heap bitmapRounds here bitmapFields
  apply ensures_fill_bind valid here (allocates_pool _)
  intro guest heap _ here guestFields
  apply ensures_fill_bind valid here (allocates_pool _)
  intro host heap _ _ hostFields
  refine ⟨driverStatus_statusSuccess.ntSuccess, ?_⟩
  apply complete_iff _ vmxonRounds vmcsRounds bitmapRounds
  rw [hostFields, guestFields, bitmapFields, tableFields, vmcsFields, vmxonFields]
  funext field
  cases field <;> rfl

/-- Without a context the first member is written through null. -/
theorem ensures_of_null {initial : Heap} (null : initial.kProcessorContext = 0) :
    initializeProcessorContext.Ensures Heap.environment (fun _ _ => True) initial
      fun _ _ => False := by
  apply ensures_ask_bind trivial
  intro context same
  obtain rfl : context = initial.kProcessorContext := same
  apply (ensures_allocateAligned _ _).bind
  intro pointer heap _
  apply ensures_ask_bind trivial
  intro _ stored
  exact absurd null stored.1

/-- The exact extent of the defect: a run that ends is sound when there is a context and no
allocation of the run has failed. -/
theorem sound_iff {initial final : Heap} {events : List (Event interface)} {rest : Code NTSTATUS}
    (path : Path Heap.environment initializeProcessorContext initial events rest final)
    (ended : Ended rest) :
    Sound events rest final ↔ initial.kProcessorContext ≠ 0 ∧ 0 ∉ allocations events := by
  by_cases null : initial.kProcessorContext = 0
  · have later := (ensures_of_null null).along path
    rcases ended with ⟨status, rfl⟩ | ⟨op, issued, writes⟩
    · exact later.elim
    · apply iff_of_false
      · intro sound
        exact sound.1 op issued writes
      · intro conditions
        exact conditions.1 null
  · have traced := path.observing allocated []
    have ensured := ensures_initializeProcessorContext null
    rcases ended with ⟨status, rfl⟩ | ⟨op, issued, writes⟩
    · obtain ⟨success, complete⟩ : Outcome status (final, allocations events) :=
        ensured.post_of_path traced
      rw [and_iff_right null, ← complete]
      constructor
      · intro sound
        exact sound.2 status rfl success
      · intro whole
        constructor
        · intro op issued
          contradiction
        · intro _ _ _
          exact whole
    · have failed : 0 ∈ allocations events := ensured.legal_of_path traced issued writes
      apply iff_of_false
      · intro sound
        exact sound.1 op issued writes
      · intro conditions
        exact conditions.2 failed

section Runs

/-- A ledger with a context and nothing else. -/
def contextHeap : Heap :=
  ⟨0x1000, fun _ => 0, [], [⟨0x1000, sizeofProcessorContext⟩], []⟩

/-- Every allocation is granted. -/
def grantedRun : List (Event interface) × Code NTSTATUS × Heap :=
  drive (Heap.environment.restrict ContextLeak.AllocationsSucceed) ContextLeak.granted 40
    initializeProcessorContext contextHeap

theorem sound_iff_grantedRun :
    Sound grantedRun.1 grantedRun.2.1 grantedRun.2.2 ↔
      contextHeap.kProcessorContext ≠ 0 ∧ 0 ∉ allocations grantedRun.1 := by
  have finished : grantedRun.2.1.head? = none := by decide +kernel
  have path := drive_path _ _ ContextLeak.allows_of_granted 40 initializeProcessorContext
    contextHeap
  exact sound_iff path.of_restrict (.inl (done_of_head? finished))

/-- The ledger after the first allocation has failed. -/
def emptyHeap : Heap :=
  { contextHeap with
    field := Function.update contextHeap.field .vmxonRegion 0
    answers := [0] }

private theorem reaches_emptyHeap :
    Reaches Heap.environment initializeProcessorContext contextHeap
      (.done (ntError statusFailedToAllocateMemory)) emptyHeap :=
  reaches_of_refused (by decide)

/-- When the first allocation fails, an empty context is reported as a success. -/
theorem not_sound : ¬ ∀ (initial final : Heap) (events : List (Event interface))
    (rest : Code NTSTATUS), initial.kProcessorContext ≠ 0 →
    Path Heap.environment initializeProcessorContext initial events rest final →
      Sound events rest final := by
  intro sound
  obtain ⟨events, path⟩ := reaches_emptyHeap
  have whole := (sound _ _ events _ (by decide) path).2 _ rfl (driverStatus_ntError _).ntSuccess
  obtain ⟨_, _, _, _, _, _, _, _, nonnull⟩ := whole
  exact nonnull .vmxonRegion rfl

end Runs

end Guypervisor.Soundness.CompleteContext
