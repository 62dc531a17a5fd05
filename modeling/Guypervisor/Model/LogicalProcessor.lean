import Guypervisor.Model.VmxState

/-! # Logical processors that share one processor context

Every logical processor has a VMX state of its own and the set of VMCS regions active on it: made
current by `VMPTRLD` and not yet given up by `VMCLEAR`. Leaving VMX operation does not empty that
set. All of them read the same context pointer, members and physical addresses.
-/

namespace Guypervisor.Model

open Effects

/-- One logical processor: its VMX state and the VMCS regions active on it. -/
structure LogicalProcessor where
  vmx : VmxState
  active : List Address
deriving DecidableEq, Repr

/-- What all processors see alike. -/
structure SharedContext where
  kProcessorContext : Address
  field : Address → ContextField → Address
  physicalAddress : Address → Address

/-- A context whose regions are pages of their own. -/
def SharedContext.paged : SharedContext where
  kProcessorContext := 0x1000
  field _ member :=
    match member with
    | .vmxonRegion => 0x2000
    | .vmcsRegion => 0x3000
    | _ => 0x4000
  physicalAddress := id

namespace LogicalProcessor

/-- A processor that was never in VMX operation. -/
def idle : LogicalProcessor := ⟨.off, []⟩

/-- The regions active after an operation that was answered in the given way. -/
def nextActive (active : List Address) (op : Op) (response : op.Response) : List Address :=
  match op, response with
  | .vmptrld region, .succeed => region :: active
  | .vmclear region, .succeed => active.filter (· ≠ region)
  | _, _ => active

def next (processor : LogicalProcessor) (op : Op) (response : op.Response) : LogicalProcessor :=
  ⟨processor.vmx.next op response, nextActive processor.active op response⟩

/-- `VMCLEAR` of the only VMCS of a processor leaves none current and none active. -/
theorem next_vmclear_current (region current : Address) :
    next ⟨.root region (some current), [current]⟩ (.vmclear current) .succeed =
      ⟨.root region none, []⟩ := by
  simp [next, nextActive, VmxState.next]

/-- Outside VMX operation only a `VMXON` that succeeds changes that. -/
theorem vmx_next_of_off {processor : LogicalProcessor} (op : Op) (response : op.Response)
    (off : processor.vmx = .off) :
    (processor.next op response).vmx = .off ∨
      ∃ region, (⟨op, response⟩ : Event interface) = ⟨.vmxon region, VmxOutcome.succeed⟩ := by
  obtain ⟨_, active⟩ := processor
  subst off
  cases op with
  | vmxon region =>
    cases response with
    | succeed => exact .inr ⟨region, rfl⟩
    | failInvalid | failValid => exact .inl rfl
  | vmclear | vmptrld => cases response <;> exact .inl rfl
  | _ => exact .inl rfl

/-- What the processor can answer. Outside VMX operation an instruction other than `VMXON` raises
`#UD` and is never answered; in VMX operation `VMXON` fails; `VMPTRLD` takes no region that is
not page aligned; `VMPTRST` stores the current pointer, or all ones; without a current VMCS the
instructions that use it fail. -/
def Answers (shared : SharedContext) (processor : LogicalProcessor) (op : Op)
    (response : op.Response) : Prop :=
  match op, response with
  | .vmxon _, outcome => processor.vmx ≠ .off → outcome ≠ .succeed
  | .vmxoff, _ => processor.vmx ≠ .off
  | .vmclear _, _ => processor.vmx ≠ .off
  | .vmptrld region, outcome => processor.vmx ≠ .off ∧ (outcome = .succeed → region &&& 0xFFF = 0)
  | .vmptrst, (outcome, stored) =>
    processor.vmx ≠ .off ∧ outcome = .succeed ∧ stored = processor.vmx.current?.getD (-1)
  | .vmread _, (outcome, _) =>
    processor.vmx ≠ .off ∧ (processor.vmx.current? = none → outcome = .failInvalid)
  | .vmwrite _ _, outcome | .vmlaunch, outcome | .vmresume, outcome =>
    processor.vmx ≠ .off ∧ (processor.vmx.current? = none → outcome = .failInvalid)
  | .loadContext, pointer => pointer = shared.kProcessorContext
  | .loadField context field, pointer => pointer = shared.field context field
  | .getPhysicalAddress address, physical => physical = shared.physicalAddress address
  | _, _ => True

/-- A logical processor as the environment of the code it runs. -/
def environment (shared : SharedContext) : Environment interface LogicalProcessor where
  allows := Answers shared
  next := next

/-- The same, where the context pointer, the members of the context and the translation of addresses
may have changed from one operation to the next, as they do when the driver is loaded again. -/
def reloading : Environment interface LogicalProcessor where
  allows processor op response := ∃ shared, Answers shared processor op response
  next := next

/-- The answers of a processor on which every VMX instruction but `VMLAUNCH` succeeds. -/
def launchFails (processor : LogicalProcessor) (op : Op) : Option op.Response :=
  match op with
  | .vmxon _ => if processor.vmx = .off then some VmxOutcome.succeed else none
  | .vmxoff => if processor.vmx = .off then none else some ()
  | .vmclear _ => if processor.vmx = .off then none else some VmxOutcome.succeed
  | .vmptrld region =>
    if processor.vmx = .off ∨ region &&& 0xFFF ≠ 0 then none else some VmxOutcome.succeed
  | .vmptrst =>
    if processor.vmx = .off then none
    else some (VmxOutcome.succeed, processor.vmx.current?.getD (-1))
  | .vmread _ | .vmwrite _ _ | .vmlaunch | .vmresume =>
    if processor.vmx.current? = none then none else Op.launchFails _
  | op => op.plainAnswer

private theorem off_of_current {processor : LogicalProcessor}
    (current : processor.vmx.current? ≠ none) : processor.vmx ≠ .off := by
  intro off
  rw [off] at current
  exact current rfl

theorem answers_of_launchFails (processor : LogicalProcessor) (op : Op) (response : op.Response)
    (answered : processor.launchFails op = some response) :
    Answers .paged processor op response := by
  cases op with
  | vmxon =>
    have off := (Option.ite_none_right_eq_some.mp answered).1
    exact fun on => absurd off on
  | vmxoff | vmclear => exact (Option.ite_none_left_eq_some.mp answered).1
  | vmptrld region =>
    obtain ⟨ready, -⟩ := Option.ite_none_left_eq_some.mp answered
    rw [not_or, not_not] at ready
    exact ⟨ready.1, fun _ => ready.2⟩
  | vmptrst =>
    obtain ⟨on, stored⟩ := Option.ite_none_left_eq_some.mp answered
    obtain rfl := Option.some.inj stored
    exact ⟨on, rfl, rfl⟩
  | vmread | vmwrite | vmlaunch | vmresume =>
    have current := (Option.ite_none_left_eq_some.mp answered).1
    exact ⟨off_of_current current, fun none => absurd none current⟩
  | loadContext | getPhysicalAddress => exact (Option.some.inj answered).symm
  | loadField context member => cases member <;> exact (Option.some.inj answered).symm
  | _ => trivial

end LogicalProcessor

end Guypervisor.Model
