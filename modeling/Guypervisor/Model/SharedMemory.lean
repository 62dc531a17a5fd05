import Guypervisor.Model.DriverLife
import Guypervisor.Model.RegionMemory
import Mathlib.Logic.Function.Basic

/-! # Processors that serve IRPs at the same time

All processors share the kernel's ledger and memory; each has the frames it opened itself, and its
own value of `IA32_VMX_BASIC`.
-/

namespace Guypervisor.Model

open Effects

/-- The kernel and memory, and the open frames of each processor. -/
structure SharedMemory (ι : Type) where
  kernel : KernelMemory
  frames : ι → List Routine

namespace SharedMemory

variable {ι : Type} [DecidableEq ι]

/-- What one processor has to do with. -/
def seenBy (state : SharedMemory ι) (i : ι) : RegionMemory := ⟨state.kernel, state.frames i⟩

/-- The environment of one processor's code. -/
def environment (physical : Address → Address) (basic : ι → BitVec 64) (i : ι) :
    Environment interface (SharedMemory ι) where
  allows state op response :=
    (RegionMemory.environment physical (basic i)).allows (state.seenBy i) op response
  next state op response :=
    ⟨state.kernel.next op response,
      Function.update state.frames i (RequestStacks.nextFrames (state.frames i) op)⟩

/-- An operation that changes neither the kernel's state nor the frames. -/
theorem next_eq_self {physical : Address → Address} {basic : ι → BitVec 64} {i : ι}
    {state : SharedMemory ι} {op : Op} {response : op.Response}
    (kernel : state.kernel.next op response = state.kernel)
    (frames : RequestStacks.nextFrames (state.frames i) op = state.frames i) :
    (environment physical basic i).next state op response = state := by
  change SharedMemory.mk _ _ = state
  rw [kernel, frames, Function.update_eq_self]

end SharedMemory

end Guypervisor.Model
