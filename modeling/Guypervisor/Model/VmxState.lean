import Guypervisor.Model.Operation

/-! # The VMX state of a logical processor

A logical processor is outside VMX operation, or in VMX root operation on one VMXON region with
or without a current VMCS. `next` is what an instruction that ended in a given way does to that
state; an instruction that failed does nothing to it. `Legal` says where each instruction may be
issued, and that a request to enter VMX must have left VMX operation when it returns.
-/

namespace Guypervisor.Model

/-- Outside VMX operation, or in VMX root operation with at most one current VMCS. -/
inductive VmxState
  | off
  | root (region : Address) (current : Option Address)
deriving DecidableEq, Repr

namespace VmxState

/-- The VMXON region in use, if the processor is in VMX operation. -/
def region? : VmxState → Option Address
  | .off => none
  | .root region _ => some region

/-- The current VMCS, if there is one. -/
def current? : VmxState → Option Address
  | .off => none
  | .root _ current => current

/-- The state after an operation that was answered in the given way. -/
def next (state : VmxState) (op : Op) (response : op.Response) : VmxState :=
  match op, response, state with
  | .vmxon region, .succeed, .off => .root region none
  | .vmxoff, (), _ => .off
  | .vmptrld region, .succeed, .root on _ => .root on (some region)
  | .vmclear region, .succeed, .root on (some current) =>
    if current = region then .root on none else .root on (some current)
  | _, _, _ => state

/-- The protocol of the VMX instructions, with the state each call of the handler must leave. -/
def Legal (state : VmxState) : Op → Prop
  | .vmxon _ | .leave .enterVmxHandler => state = .off
  | .vmxoff | .vmclear _ | .vmptrld _ | .vmptrst => state ≠ .off
  | .vmread _ | .vmwrite _ _ | .vmlaunch | .vmresume => state.current? ≠ none
  | _ => True

end VmxState

end Guypervisor.Model
