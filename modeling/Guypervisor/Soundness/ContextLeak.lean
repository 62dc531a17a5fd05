import Guypervisor.Proofs.Setup
import Guypervisor.Soundness.ContextCleanup

/-! # What the cleanup of the processor context leaves behind

`FreeProcessorContext` sets each pointer that came from the pool to null and then deletes the null
pointer. Deleting null releases nothing, so the pool blocks stay in use; the block of the context
itself is among them after every run.
-/

namespace Guypervisor.Soundness.ContextLeak

open Effects Effects.Program Model Code Proofs ContextCleanup

/-- The life of a processor context. -/
def lifetime : Code Unit := do
  let _ ← setUp
  freeProcessorContext

/-- No allocation fails. -/
def AllocationsSucceed (_ : Heap) (op : Op) (response : op.Response) : Prop :=
  match op, response with
  | .allocateContiguousMemory _ _, pointer => pointer ≠ 0
  | .allocatePool _, pointer => pointer ≠ 0
  | _, _ => True

private abbrev granting := Heap.environment.restrict AllocationsSucceed

/-- Every block was released, and no pointer to the context is left. -/
def AllReleased (heap : Heap) : Prop :=
  heap.contiguous = [] ∧ heap.pool = [] ∧ heap.kProcessorContext = 0

/-- The block of a context is in use. -/
def ContextHeld (context : Address) (heap : Heap) : Prop :=
  ⟨context, sizeofProcessorContext⟩ ∈ heap.pool

private abbrev anyRequest (_ : Heap) (_ : Op) : Prop := True

section Kept

variable {context : Address} {heap : Heap} {α : Type}

theorem contextHeld_next {op : Op} (keeps : KeepsPool op) (held : ContextHeld context heap)
    (response : op.Response) : ContextHeld context (heap.next op response) := by
  cases op with
  | allocatePool bytes =>
    change _ ∈ Heap.grant heap.pool response bytes
    unfold Heap.grant
    split
    · exact held
    · exact List.mem_cons_of_mem _ held
  | freePool => exact keeps.elim
  | _ => exact held

theorem ensures_of_keepsPool {results : α → Prop} {program : Code α}
    (confined : program.Confined KeepsPool results) (held : ContextHeld context heap) :
    program.Ensures granting anyRequest heap fun result final =>
      results result ∧ ContextHeld context final :=
  confined.keeps (fun _ _ _ _ => trivial)
    (fun _ _ response keeps held _ => contextHeld_next keeps held response) held

end Kept

section Leak

variable {context : Address} {heap : Heap} (nonzero : context ≠ 0)
  (held : ContextHeld context heap)
include nonzero held

/-- Deleting null leaves the block of the context in use. -/
theorem contextHeld_freePool_zero : ContextHeld context (heap.next (.freePool 0) ()) :=
  Heap.mem_release.mpr ⟨held, nonzero⟩

/-- A member is null by the time it is deleted. -/
theorem ensures_setNullptrThenDelete (pointer : Address) (field : ContextField) :
    (setNullptrThenDelete pointer field).Ensures granting anyRequest heap fun _ final =>
      ContextHeld context final := by
  refine ensures_ask_bind trivial fun member _ => ?_
  split
  · refine ensures_ask_bind trivial fun _ _ => ensures_ask_bind trivial fun deleted read => ?_
    have null : deleted = 0 := read.1.2.2.trans (Function.update_self ..)
    subst null
    exact ⟨trivial, fun _ _ => contextHeld_freePool_zero nonzero held⟩
  · exact held

/-- The context pointer is null by the time the context is deleted. -/
theorem ensures_deletePoolMembers (pointer : Address) :
    (deletePoolMembers pointer).Ensures granting anyRequest heap fun _ final =>
      ContextHeld context final := by
  refine (ensures_setNullptrThenDelete nonzero held pointer _).bind fun _ heap held => ?_
  refine (ensures_setNullptrThenDelete nonzero held pointer _).bind fun _ heap held => ?_
  refine (ensures_setNullptrThenDelete nonzero held pointer _).bind fun _ heap held => ?_
  refine ensures_ask_bind trivial fun loaded _ => ?_
  split
  · refine ensures_ask_bind trivial fun _ _ => ensures_ask_bind trivial fun deleted read => ?_
    obtain rfl : deleted = 0 := read.1
    exact ⟨trivial, fun _ _ => contextHeld_freePool_zero nonzero held⟩
  · exact held

theorem ensures_freeProcessorContext :
    freeProcessorContext.Ensures granting anyRequest heap fun _ final => ContextHeld context final := by
  refine ensures_ask_bind trivial fun pointer _ => ?_
  have one := ensures_of_keepsPool (confined_ifNotNullptrThenFree pointer .vmxonRegion) held
  refine one.bind fun _ heap kept => ?_
  have two := ensures_of_keepsPool (confined_ifNotNullptrThenFree pointer .vmcsRegion) kept.2
  refine two.bind fun _ heap kept => ?_
  have three := ensures_of_keepsPool (confined_ifNotNullptrThenFree pointer .msrBitmap) kept.2
  refine three.bind fun _ heap kept => ?_
  exact ensures_deletePoolMembers nonzero kept.2 pointer

end Leak

/-- Over its whole life the context keeps its block. -/
theorem ensures_lifetime (initial : ContextField → Address) :
    lifetime.Ensures granting anyRequest (.start initial) fun _ final =>
      ∃ context, ContextHeld context final := by
  have built : setUp.Ensures granting anyRequest (.start initial) fun _ heap =>
      ∃ context, context ≠ 0 ∧ ContextHeld context heap := by
    refine ensures_ask_bind trivial fun context granted => ?_
    have held : ContextHeld context ((Heap.start initial).next
        (.allocatePool sizeofProcessorContext) context) := by
      change _ ∈ Heap.grant [] context sizeofProcessorContext
      rw [Heap.grant, if_neg granted.2]
      exact List.mem_singleton_self _
    have stored : ContextHeld context (((Heap.start initial).next
        (.allocatePool sizeofProcessorContext) context).next (.storeContext context) ()) := held
    refine ensures_ask_bind trivial fun _ _ => ?_
    have filling : initializeProcessorContext.Confined KeepsPool DriverStatus :=
      confined_initializeProcessorContext.mono (fun _ => IsSetupWork.keepsPool) fun _ => id
    refine (ensures_of_keepsPool filling stored).mono ?_
    exact fun _ _ kept => ⟨context, granted.2, kept.2⟩
  refine built.bind fun _ heap kept => ?_
  obtain ⟨context, nonzero, held⟩ := kept
  exact (ensures_freeProcessorContext nonzero held).mono fun _ _ kept => ⟨context, kept⟩

theorem not_allReleased_of_held {final : Heap} (held : ∃ context, ContextHeld context final) :
    ¬ AllReleased final := by
  intro released
  obtain ⟨context, held⟩ := held
  rw [ContextHeld, released.2.1] at held
  exact List.not_mem_nil held

/-- No completed life of a processor context releases every block. -/
theorem not_allReleased_of_path {initial : ContextField → Address}
    {events : List (Event interface)} {final : Heap}
    (path : Path (Heap.environment.restrict AllocationsSucceed) lifetime (.start initial) events
      (.done ()) final) : ¬ AllReleased final :=
  not_allReleased_of_held ((ensures_lifetime initial).post_of_path path)

section Run

/-- A page-aligned block beside those in use. -/
def nextBlock (heap : Heap) (bytes : BitVec 64) : Option Address :=
  let base : Address := 0x10000 * BitVec.ofNat 64 (heap.blocks.length + 1)
  if Block.Fresh heap.blocks ⟨base, bytes⟩ then some base else none

theorem fresh_of_nextBlock {heap : Heap} {bytes base : BitVec 64}
    (granted : nextBlock heap bytes = some base) : Block.Fresh heap.blocks ⟨base, bytes⟩ := by
  rw [nextBlock, Option.ite_none_right_eq_some] at granted
  obtain ⟨fresh, same⟩ := granted
  rw [Option.some.injEq] at same
  subst same
  exact fresh

/-- The kernel's answers when every allocation gets the next block. -/
def granted (heap : Heap) : (op : Op) → Option op.Response
  | .allocateContiguousMemory bytes _ => nextBlock heap bytes
  | .allocatePool bytes => nextBlock heap bytes
  | .loadContext => some heap.kProcessorContext
  | .loadField context field =>
    if context ≠ 0 ∧ context = heap.kProcessorContext then some (heap.field field) else none
  | .storeField context _ _ =>
    if context ≠ 0 ∧ context = heap.kProcessorContext then some () else none
  | .zeroMemory address _ => if address ≠ 0 then some () else none
  | op => op.plainAnswer

theorem allows_of_granted (heap : Heap) (op : Op) (response : op.Response)
    (answered : granted heap op = some response) : granting.allows heap op response := by
  cases op with
  | allocateContiguousMemory bytes =>
    have fresh := fresh_of_nextBlock answered
    exact ⟨.inr fresh, fresh.nonzero⟩
  | allocatePool bytes =>
    have fresh := fresh_of_nextBlock answered
    exact ⟨.inr fresh, fresh.nonzero⟩
  | loadContext => exact ⟨(Option.some.inj answered).symm, trivial⟩
  | loadField context field =>
    obtain ⟨⟨valid, here⟩, same⟩ := Option.ite_none_right_eq_some.mp answered
    exact ⟨⟨valid, here, (Option.some.inj same).symm⟩, trivial⟩
  | storeField context =>
    exact ⟨(Option.ite_none_right_eq_some.mp answered).1, trivial⟩
  | zeroMemory address =>
    exact ⟨(Option.ite_none_right_eq_some.mp answered).1, trivial⟩
  | _ => exact ⟨trivial, trivial⟩

/-- A life of a context in which every allocation gets the next block. -/
def grantedRun : List (Event interface) × Code Unit × Heap :=
  drive granting granted 60 lifetime (.start fun _ => 0)

private theorem path_grantedRun : Path granting lifetime (.start fun _ => 0) grantedRun.1
    (.done ()) grantedRun.2.2 := by
  have finished : grantedRun.2.1.head? = none := by decide +kernel
  obtain ⟨_, path⟩ := drive_path_done allows_of_granted finished
  exact path

theorem not_allReleased_of_path_granted : ¬ AllReleased grantedRun.2.2 :=
  not_allReleased_of_path path_grantedRun

/-- With every allocation granted, the cleanup leaves the block of the context in use. -/
theorem not_allReleased : ¬ ∀ initial events final,
    Path (Heap.environment.restrict AllocationsSucceed) lifetime (.start initial) events (.done ())
      final → AllReleased final := by
  intro released
  have held := (ensures_lifetime fun _ => 0).post_of_path path_grantedRun
  exact not_allReleased_of_held held (released _ _ _ path_grantedRun)

end Run

end Guypervisor.Soundness.ContextLeak
