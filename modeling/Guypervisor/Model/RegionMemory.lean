import Guypervisor.Model.KernelMemory
import Guypervisor.Model.StackFrames

/-! # Memory as the processor is handed a region

The kernel and the bytes of memory, together with the frames that are open, so that an instruction
can be told by the stage that executes it. The processor has one value of `IA32_VMX_BASIC`.
-/

namespace Guypervisor.Model

open Effects

/-- The kernel and memory, and the open frames, innermost first. -/
structure RegionMemory where
  kernel : KernelMemory
  frames : List Routine

namespace RegionMemory

/-- Nothing allocated, and no frame of the request open. -/
def start (field : ContextField → Address) (memory : Memory) : RegionMemory :=
  ⟨.start field memory, []⟩

def next (state : RegionMemory) (op : Op) (response : op.Response) : RegionMemory :=
  ⟨state.kernel.next op response, RequestStacks.nextFrames state.frames op⟩

/-- The answers of the kernel and of memory, and the value of `IA32_VMX_BASIC`. -/
def environment (physical : Address → Address) (basic : BitVec 64) :
    Environment interface RegionMemory where
  allows state op response :=
    (KernelMemory.environment physical).allows state.kernel op response ∧
      match op, response with
      | .readMsr .kIa32VmxBasic, value => value = basic
      | _, _ => True
  next := next

/-- An operation that changes neither the kernel's state nor the frames. -/
theorem next_eq_self {state : RegionMemory} {op : Op} {response : op.Response}
    (kernel : state.kernel.next op response = state.kernel)
    (frames : RequestStacks.nextFrames state.frames op = state.frames) :
    state.next op response = state := by
  rw [next, kernel, frames]

end RegionMemory

end Guypervisor.Model
