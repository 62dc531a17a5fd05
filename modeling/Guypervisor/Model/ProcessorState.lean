import Guypervisor.Model.Memory

/-! # A processor in a fixed state and its current VMCS

Between `VMPTRLD` and `VMLAUNCH` the registers and the memory the driver reads do not change;
only the fields of the current VMCS do. `activeVmcs` is a VMCS that stays current, whatever the
other operations answer, and `populating` adds the processor's answers to it.
-/

namespace Guypervisor.Model

open Effects

/-- A VMCS that stays current: a `VMREAD` that succeeds gives the field's value, and a `VMWRITE`
that succeeds stores its operand. -/
def activeVmcs : Environment interface Vmcs where
  allows vmcs op response :=
    match op, response with
    | .vmread field, (outcome, value) => outcome = .succeed → value = vmcs.read field
    | _, _ => True
  next vmcs op response :=
    match op, response with
    | .vmwrite field value, outcome => if outcome = .succeed then vmcs.write field value else vmcs
    | _, _ => vmcs

/-- What the driver reads to fill a VMCS. -/
structure ProcessorState where
  cr0 : BitVec 64
  cr3 : BitVec 64
  cr4 : BitVec 64
  dr7 : BitVec 64
  rflags : BitVec 64
  /-- The model-specific registers by address. -/
  msr : BitVec 32 → BitVec 64
  selector : SegmentRegister → BitVec 16
  gdtr : DescriptorTableRegister
  idtr : DescriptorTableRegister
  memory : Memory
  /-- What `LSL` loads. -/
  segmentLimit : BitVec 16 → BitVec 32
  /-- What `LAR` loads. -/
  accessRights : BitVec 16 → BitVec 32
  /-- Where the locals of `PopulateActiveVMCS` lie. -/
  arrays : LocalArray → Address
  /-- Where the driver's code lies. -/
  symbols : Symbol → Address

namespace ProcessorState

/-- Every register, byte and address zero. -/
instance : Inhabited ProcessorState where
  default := ⟨0, 0, 0, 0, 0, fun _ => 0, fun _ => 0, ⟨0, 0⟩, ⟨0, 0⟩, fun _ => 0, fun _ => 0,
    fun _ => 0, fun _ => 0, fun _ => 0⟩

/-- The one answer the processor gives to an operation that reads its state, or that writes a
field. -/
def answer (cpu : ProcessorState) : (op : Op) → Option op.Response
  | .readCr0 => some cpu.cr0
  | .readCr3 => some cpu.cr3
  | .readCr4 => some cpu.cr4
  | .readDr7 => some cpu.dr7
  | .readEflags => some cpu.rflags
  | .readMsr msr => some (cpu.msr msr.address)
  | .readSelector register => some (cpu.selector register)
  | .sgdt => some cpu.gdtr
  | .sidt => some cpu.idtr
  | .segmentLimit selector => some (cpu.segmentLimit selector)
  | .lar selector => some (cpu.accessRights selector)
  | .load32 address => some (cpu.memory.load32 address)
  | .load64 address => some (cpu.memory.load64 address)
  | .localAddress array => some (cpu.arrays array)
  | .symbolAddress symbol => some (cpu.symbols symbol)
  | .vmwrite _ _ => some VmxOutcome.succeed
  | _ => none

/-- The runs in which the processor is in this state throughout and every `VMWRITE` succeeds. -/
def populating (cpu : ProcessorState) : Environment interface Vmcs :=
  activeVmcs.restrict fun _ op response => ∀ expected, cpu.answer op = some expected →
    response = expected

/-- The one answer the processor gives to an operation that reads its state. -/
def reading (cpu : ProcessorState) : (op : Op) → Option op.Response
  | .vmwrite _ _ => none
  | op => cpu.answer op

theorem answer_of_reading {cpu : ProcessorState} {op : Op} {expected : op.Response}
    (given : cpu.reading op = some expected) : cpu.answer op = some expected := by
  cases op with
  | vmwrite => contradiction
  | _ => exact given

/-- The runs in which the processor is in this state throughout; every instruction that can fail
may do so. -/
def running (cpu : ProcessorState) : Environment interface Unit where
  allows _ op response := ∀ expected, cpu.reading op = some expected → response = expected
  next _ _ _ := ()

/-- One way to answer everything: `VMREAD` succeeds, and what the processor's state does not
determine is answered plainly. -/
def respond (cpu : ProcessorState) (vmcs : Vmcs) : (op : Op) → Option op.Response
  | .vmread field => some (VmxOutcome.succeed, vmcs.read field)
  | op => (cpu.answer op).or op.plainAnswer

theorem respond_of_answer {cpu : ProcessorState} {op : Op} {expected : op.Response}
    (answered : cpu.answer op = some expected) (vmcs : Vmcs) :
    cpu.respond vmcs op = some expected := by
  have preferred : (cpu.answer op).or op.plainAnswer = some expected := by
    rw [answered, Option.some_or]
  cases op with
  | vmread => contradiction
  | _ => exact preferred

theorem allows_of_respond (cpu : ProcessorState) (vmcs : Vmcs) (op : Op) (response : op.Response)
    (responded : cpu.respond vmcs op = some response) :
    cpu.populating.allows vmcs op response := by
  constructor
  · cases op with
    | vmread field =>
      obtain rfl := Option.some.inj responded
      exact fun _ => rfl
    | _ => trivial
  · intro expected answered
    rw [respond_of_answer answered vmcs] at responded
    exact (Option.some.inj responded).symm

end ProcessorState

end Guypervisor.Model
