import Guypervisor.Model.Heap
import Guypervisor.Model.IrpHandlers

/-! # Stacks during a request to enter VMX

A request runs on the kernel stack of its caller. Each of its routines has a frame while it runs;
the two arrays that `PopulateActiveVMCS` takes the stack pointers of guest and host from lie in its
own frame. The blocks the driver has allocated lie elsewhere.
-/

namespace Guypervisor.Model

open Effects Code

/-- The driver's memory when a request begins, and where the frames of the request will lie. A
routine that the handler calls has its frame beside the handler's, but perhaps where the frame of
another one was that has returned. -/
structure StackPlacement where
  heap : Heap
  kernelStack : Block 64
  /-- The frames of the handler's callers. -/
  callers : List (Block 64)
  frame : Routine → Block 64
  array : LocalArray → Address
  kernelStack_fits : kernelStack.base.toNat + kernelStack.bytes.toNat ≤ 2 ^ 64
  heap_apart : ∀ block ∈ heap.blocks, block.Apart kernelStack
  callers_within : ∀ caller ∈ callers, caller.Within kernelStack
  callers_apart : ∀ routine, ∀ caller ∈ callers, caller.Apart (frame routine)
  frame_within : ∀ routine, (frame routine).Within kernelStack
  handler_apart : ∀ routine, routine ≠ .enterVmxHandler →
    (frame .enterVmxHandler).Apart (frame routine)
  array_within : ∀ array', Block.Within ⟨array array', pageSize⟩ (frame .populateActiveVMCS)

/-- The stack a field is the pointer of. -/
def VmcsFieldEncoding.stackPointerOf : VmcsFieldEncoding → Option LocalArray
  | .kGuestRsp => some .guestStack
  | .kHostRsp => some .hostStack
  | _ => none

/-- The driver's memory, the open frames of the request, innermost first, and the stack pointers it
has written. -/
structure RequestStacks where
  heap : Heap
  frames : List Routine
  stackPointer : LocalArray → Option Address

namespace RequestStacks

/-- The frames after an operation. -/
def nextFrames (frames : List Routine) : Op → List Routine
  | .enter routine => routine :: frames
  | .leave _ => frames.tail
  | _ => frames

/-- The stack pointers after an operation; a `VMWRITE` that fails writes nothing. -/
def nextStackPointer (stackPointer : LocalArray → Option Address) (op : Op)
    (response : op.Response) : LocalArray → Option Address :=
  match op, response with
  | .vmwrite field value, .succeed =>
    match field.stackPointerOf with
    | some stack => Function.update stackPointer stack (some value)
    | none => stackPointer
  | _, _ => stackPointer

/-- A write of another field leaves both as they are. -/
theorem nextStackPointer_of_none {field : VmcsFieldEncoding} (other : field.stackPointerOf = none)
    (stackPointer : LocalArray → Option Address) (value : BitVec 64) (outcome : VmxOutcome) :
    nextStackPointer stackPointer (.vmwrite field value) outcome = stackPointer := by
  cases outcome <;> simp [nextStackPointer, other]

/-- A stack pointer after a write was there before it, or was written. -/
theorem nextStackPointer_eq_some {field : VmcsFieldEncoding}
    {stackPointer : LocalArray → Option Address} {value pointer : BitVec 64}
    {outcome : VmxOutcome} {stack : LocalArray}
    (found : nextStackPointer stackPointer (.vmwrite field value) outcome stack = some pointer) :
    stackPointer stack = some pointer ∨ field.stackPointerOf = some stack ∧ pointer = value := by
  cases outcome with
  | succeed =>
    cases written : field.stackPointerOf with
    | none =>
      rw [nextStackPointer_of_none written] at found
      exact .inl found
    | some other =>
      simp only [nextStackPointer, written] at found
      by_cases same : stack = other
      · subst same
        rw [Function.update_self] at found
        exact .inr ⟨rfl, (Option.some.inj found).symm⟩
      · rw [Function.update_of_ne same] at found
        exact .inl found
  | failInvalid => exact .inl found
  | failValid => exact .inl found

def next (state : RequestStacks) (op : Op) (response : op.Response) : RequestStacks :=
  ⟨state.heap.next op response, nextFrames state.frames op,
    nextStackPointer state.stackPointer op response⟩

end RequestStacks

namespace StackPlacement

variable (placement : StackPlacement)

/-- The kernel's answers, and the addresses of the arrays. -/
def environment : Environment interface RequestStacks where
  allows state op response :=
    state.heap.Answers op response ∧
      match op, response with
      | .localAddress array, address => address = placement.array array
      | _, _ => True
  next := RequestStacks.next

/-- A request has begun. -/
def start : RequestStacks := ⟨placement.heap, [], fun _ => none⟩

/-- The frames that have not returned. -/
def openFrames (state : RequestStacks) : List (Block 64) :=
  state.frames.map placement.frame ++ placement.callers

/-- Allocated and not freed, or a frame that has not returned. -/
def Owned (state : RequestStacks) (range : Block 64) : Prop :=
  range ∈ state.heap.blocks ∨ range ∈ placement.openFrames state

end StackPlacement

end Guypervisor.Model
