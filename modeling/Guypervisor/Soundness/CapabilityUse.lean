import Guypervisor.Soundness.ControlWords

/-! # Registers and fields that not every processor has

The TRUE capability registers exist where bit 55 of `IA32_VMX_BASIC` is set, and the register and
the field of the secondary controls where the primary controls may activate them. `vmcs_field_index.h`
marks each field that depends on a control. `PopulateActiveVMCS` asks for bit 55, and takes the
secondary controls for granted.
-/

namespace Guypervisor.Soundness.CapabilityUse

open Effects Effects.Program Model Code Population ControlWords

/-- A control may be 1 in the word that a register governs. -/
def mayBe (cpu : ProcessorState) (msr : IntelMsr) (bit : ℕ) : Bool :=
  (mayBeOne (cpu.msr msr.address)).getLsbD bit

/-- The primary controls may activate the secondary controls. -/
def allowsSecondary (cpu : ProcessorState) : Bool :=
  mayBe cpu (if consultsTrueMsrs cpu then .kIa32VmxTrueProcbasedCtls else .kIa32VmxProcbasedCtls) 31

/-- A secondary control may be 1. -/
def mayBeSecondary (cpu : ProcessorState) (bit : ℕ) : Bool :=
  allowsSecondary cpu && mayBe cpu .kIa32VmxProcbasedCtls2 bit

/-- An exit control may be 1. -/
def mayBeExit (cpu : ProcessorState) (bit : ℕ) : Bool :=
  mayBe cpu (if consultsTrueMsrs cpu then .kIa32VmxTrueExitCtls else .kIa32VmxExitCtls) bit

/-- An entry control may be 1. -/
def mayBeEntry (cpu : ProcessorState) (bit : ℕ) : Bool :=
  mayBe cpu (if consultsTrueMsrs cpu then .kIa32VmxTrueEntryCtls else .kIa32VmxEntryCtls) bit

/-- Registers the processor has. -/
def HasMsr (cpu : ProcessorState) : IntelMsr → Prop
  | .kIa32VmxTruePinbasedCtls | .kIa32VmxTrueProcbasedCtls => consultsTrueMsrs cpu = true
  | .kIa32VmxTrueExitCtls | .kIa32VmxTrueEntryCtls => consultsTrueMsrs cpu = true
  | .kIa32VmxProcbasedCtls2 => allowsSecondary cpu = true
  | _ => True

/-- Fields the processor has, by the controls that `Exists if` names: `enableEPT`, the loads and
saves of PAT, EFER and PERF_GLOBAL_CTRL, and `activateSecondaryControls`. -/
def HasField (cpu : ProcessorState) : VmcsFieldEncoding → Prop
  | .kGuestPhysicalAddrFull | .kGuestPdpte0Full | .kGuestPdpte1Full | .kGuestPdpte2Full
  | .kGuestPdpte3Full => mayBeSecondary cpu 1 = true
  | .kGuestIa32PatFull => (mayBeEntry cpu 14 || mayBeExit cpu 18) = true
  | .kGuestIa32EferFull => (mayBeEntry cpu 15 || mayBeExit cpu 20) = true
  | .kGuestIa32PerfGlobalCtrlFull => mayBeEntry cpu 13 = true
  | .kControlSecondaryProcessorVmExecutionControls => allowsSecondary cpu = true
  | _ => True

/-- A register that is read and a field that is written are there. -/
def Present (cpu : ProcessorState) : Op → Prop
  | .readMsr msr => HasMsr cpu msr
  | .vmwrite field _ => HasField cpu field
  | _ => True

/-- No run of the function gets to a register or a field that is not there. -/
def TouchesPresent (cpu : ProcessorState) (depth : ℕ) : Prop :=
  ∀ events rest op, Path cpu.running (populateActiveVMCS depth) () events rest () →
    rest.head? = some op → Present cpu op

/-- With the secondary controls, every register of the script is there. -/
theorem hasMsr_of_mem {cpu : ProcessorState} {msr : IntelMsr} (secondary : allowsSecondary cpu = true)
    (read : msr ∈ populateMsrs cpu) : HasMsr cpu msr := by
  have each : ∀ msr ∈ populateMsrs cpu, HasMsr cpu msr := by
    cases consults : consultsTrueMsrs cpu with
    | false =>
      simp [populateMsrs, controlsMsrs, gsMsrs, controlRegistersMsrs, sysenterMsrs, HasMsr, consults,
        secondary]
    | true =>
      simp [populateMsrs, controlsMsrs, gsMsrs, controlRegistersMsrs, sysenterMsrs, HasMsr, consults,
        secondary]
  exact each msr read

/-- The fields marked with controls other than `activateSecondaryControls`. -/
def otherOptionalFields : List VmcsFieldEncoding :=
  [.kGuestPhysicalAddrFull, .kGuestPdpte0Full, .kGuestPdpte1Full, .kGuestPdpte2Full,
   .kGuestPdpte3Full, .kGuestIa32PatFull, .kGuestIa32EferFull, .kGuestIa32PerfGlobalCtrlFull]

/-- With the secondary controls, every field of the script is there. -/
theorem hasField_of_mem {cpu : ProcessorState} {field : VmcsFieldEncoding}
    (secondary : allowsSecondary cpu = true) (written : field ∈ (populateWrites cpu).keys) :
    HasField cpu field := by
  have unwritten : ∀ field ∈ (populateWrites default).keys, field ∉ otherOptionalFields := by
    decide +kernel
  rw [keys_populateWrites cpu default] at written
  have required := unwritten field written
  cases field with
  | kControlSecondaryProcessorVmExecutionControls => exact secondary
  | _ => trivial

/-- The first three operations lead to the register of the secondary controls. -/
theorem path_secondary (cpu : ProcessorState) (depth : ℕ) : ∃ events rest,
    Path cpu.running (populateActiveVMCS depth) () events rest () ∧
      rest.head? = some (.readMsr .kIa32VmxProcbasedCtls2) := by
  have unread : ∀ {op : Op} {response : op.Response}, cpu.reading op = none →
      cpu.running.allows () op response := by
    intro op response unread expected given
    rw [unread] at given
    contradiction
  have basic : cpu.running.allows () (.readMsr .kIa32VmxBasic)
      (cpu.msr IntelMsr.kIa32VmxBasic.address) := fun _ given => Option.some.inj given
  exact ⟨_, _, .cons () (unread rfl) (.cons (cpu.msr IntelMsr.kIa32VmxBasic.address) basic
    (.cons VmxOutcome.succeed (unread rfl) (.nil _ _))), rfl⟩

/-- The exact extent of the defect: the function touches only what the processor has when the
processor has secondary controls. -/
theorem touchesPresent_iff (cpu : ProcessorState) (depth : ℕ) :
    TouchesPresent cpu depth ↔ allowsSecondary cpu = true := by
  constructor
  · intro present
    obtain ⟨events, rest, path, issued⟩ := path_secondary cpu depth
    exact present events rest _ path issued
  · intro secondary events rest op path issued
    obtain ⟨read, written⟩ := scheduled_of_path path issued
    cases op with
    | readMsr msr => exact hasMsr_of_mem secondary (read msr rfl)
    | vmwrite field value =>
      exact hasField_of_mem secondary (List.mem_map_of_mem (written field value rfl))
    | _ => trivial

/-- A processor without the TRUE registers whose primary controls cannot activate secondary ones. -/
def earlyCpu : ProcessorState :=
  { (default : ProcessorState) with
    msr := fun address =>
      if address = IntelMsr.kIa32VmxProcbasedCtls.address then 0x77B9FFFE0401E172 else 0 }

/-- Such a processor is asked for the register of the secondary controls. -/
theorem not_touchesPresent : ¬ ∀ cpu depth, TouchesPresent cpu depth := by
  intro present
  obtain ⟨events, rest, path, issued⟩ := path_secondary earlyCpu 0
  have allowed : allowsSecondary earlyCpu = true := present earlyCpu 0 events rest _ path issued
  have absent : allowsSecondary earlyCpu = false := by decide
  rw [absent] at allowed
  contradiction

end Guypervisor.Soundness.CapabilityUse
