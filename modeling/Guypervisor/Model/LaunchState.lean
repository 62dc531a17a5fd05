import Guypervisor.Model.IrpHandlers

/-! # The launch state of the current VMCS and the exits it can hold at

`VMCLEAR` makes a VMCS clear; `VMLAUNCH` succeeds on a clear VMCS only, and `VMRESUME` on a
launched one only. A VM entry that gets as far as loading guest state does not return to the code
that issued it: a VM exit follows. If a `VMLAUNCH` fails there, bit 31 of the exit reason is set
and the VMCS stays clear.
-/

namespace Guypervisor.Model

open Effects

inductive LaunchState
  | clear
  | launched
deriving DecidableEq, Repr

/-- A current VMCS by its launch state, whatever the other operations answer. -/
def launchStates : Environment interface LaunchState where
  allows state op response :=
    match op, response with
    | .vmlaunch, outcome => outcome = .succeed → state = .clear
    | .vmresume, outcome => outcome = .succeed → state = .launched
    | _, _ => True
  next state op response :=
    match op, response with
    | .vmclear _, .succeed => .clear
    | _, _ => state

/-- The union `ExitReason`. -/
abbrev ExitReason := BitVec 32

/-- `VMEntryFailure`: 1 if a VM entry failed. -/
def ExitReason.vmEntryFailure (reason : ExitReason) : BitVec 1 := reason.extractLsb' 31 1

/-- A VM entry that does not return to the program, and the launch state in which it began. -/
def Enters {α : Type} (program : Code α) (start state : LaunchState) : Prop :=
  ∃ rest, Reaches launchStates program start rest state ∧ rest.head? = some .guest

/-- The exit-reason words and launch states that can hold at a VM exit. -/
inductive ExitsWith : ExitReason → LaunchState → Prop
  /-- `VMLAUNCH` failed while it loaded guest state. -/
  | launchFailed {depth : ℕ} {start state : LaunchState} {reason : ExitReason} :
      Enters (enterVmxHandler depth) start state → reason.vmEntryFailure = 1 →
      ExitsWith reason state
  /-- `VMLAUNCH` entered the guest, which has left it again. -/
  | launched {depth : ℕ} {start state : LaunchState} {reason : ExitReason} :
      Enters (enterVmxHandler depth) start state → reason.vmEntryFailure = 0 →
      ExitsWith reason .launched
  /-- The handler's `VMRESUME` failed while it loaded guest state, or the guest left again. -/
  | resumed {depth : ℕ} {before reason : ExitReason} {start state : LaunchState} :
      ExitsWith before start → Enters (vmexitHandler depth) start state → ExitsWith reason state

/-- A VM exit that can happen. -/
structure VmExit where
  reason : ExitReason
  launchState : LaunchState
  happens : ExitsWith reason launchState

end Guypervisor.Model
