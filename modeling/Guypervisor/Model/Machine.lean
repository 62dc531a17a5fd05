import Guypervisor.Model.ProcessorState
import Guypervisor.Model.VmxState

/-! # A processor whose state the driver changes

A request to enter VMX sets control registers, a model-specific register and words of memory, makes
a VMCS current and fills it. `Machine` carries all of that. A VMCS keeps its fields while another one
is current, and while none is; its fields are not in the memory the driver writes. Two things are not
followed, as almost any instruction sets them anew: the status flags in RFLAGS, and the VM-instruction
error of a VMCS.
-/

namespace Guypervisor.Model

open Effects

/-- A processor with its VMX state, and the VMCS of each region. -/
structure Machine where
  cpu : ProcessorState
  vmx : VmxState
  vmcs : Address → Vmcs

namespace Machine

/-- Registers and memory are read as they are, RFLAGS but for the status flags. The fields of a VMCS
are reached while it is current, and an instruction that needs a current VMCS does not succeed without
one. -/
def Answers (machine : Machine) (op : Op) (response : op.Response) : Prop :=
  match op, response with
  | .readEflags, flags => SameFlags flags machine.cpu.rflags
  | .vmread field, (outcome, value) => outcome = .succeed →
      ∃ current, machine.vmx.current? = some current ∧
        (field ≠ .kVmInstructionError → value = (machine.vmcs current).read field)
  | .vmwrite _ _, outcome | .vmlaunch, outcome | .vmresume, outcome =>
    outcome = .succeed → machine.vmx.current? ≠ none
  | op, response => ∀ expected, machine.cpu.reading op = some expected → response = expected

/-- The VMCSs after a field of the current one was written. -/
def writeField (machine : Machine) (field : VmcsFieldEncoding) (value : BitVec 64) :
    Address → Vmcs :=
  fun region =>
    if machine.vmx.current? = some region then (machine.vmcs region).write field value
    else machine.vmcs region

def next (machine : Machine) (op : Op) (response : op.Response) : Machine :=
  match op, response with
  | .writeCr0 value, _ => { machine with cpu := { machine.cpu with cr0 := value } }
  | .writeCr4 value, _ => { machine with cpu := { machine.cpu with cr4 := value } }
  | .writeMsr msr value, _ =>
    { machine with cpu :=
      { machine.cpu with msr := Function.update machine.cpu.msr msr.address value } }
  | .store32 address value, _ =>
    { machine with cpu := { machine.cpu with memory := machine.cpu.memory.store32 address value } }
  | .store64 address value, _ =>
    { machine with cpu := { machine.cpu with memory := machine.cpu.memory.store64 address value } }
  | .zeroMemory address bytes, _ =>
    { machine with cpu :=
      { machine.cpu with memory := machine.cpu.memory.clear address bytes.toNat } }
  | .vmwrite field value, outcome =>
    if outcome = .succeed then { machine with vmcs := machine.writeField field value } else machine
  | op, response => { machine with vmx := machine.vmx.next op response }

/-- The machine as the environment of the code that runs on it. -/
def environment : Environment interface Machine where
  allows := Answers
  next := next

end Machine

end Guypervisor.Model
