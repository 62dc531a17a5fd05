import Guypervisor.Effects.BitRange
import Guypervisor.Soundness.Population

/-! # Control words and the registers that govern them

The low half of a VMX capability register has the bits of a control that must be 1, the high half
those that may be. `ModifyControlValue` clamps a requested word between the two, so each control
that `PopulateActiveVMCS` writes lies between the halves of its register and is the requested word
on every bit they leave free.
-/

namespace Guypervisor.Soundness.ControlWords

open Effects Effects.Program Model Code Proofs Population

/-- The bits of a control that must be 1. -/
def mustBeOne (capability : BitVec 64) : BitVec 32 := capability.extractLsb' 0 32

/-- The bits of a control that may be 1. -/
def mayBeOne (capability : BitVec 64) : BitVec 32 := capability.extractLsb' 32 32

/-- The register that governs a control field, the TRUE one exactly when bit 55 says so. -/
def governing (cpu : ProcessorState) : VmcsFieldEncoding → Option IntelMsr
  | .kControlPinBasedVmExecutionControls =>
    some (if consultsTrueMsrs cpu then .kIa32VmxTruePinbasedCtls else .kIa32VmxPinbasedCtls)
  | .kControlPrimaryProcessorVmExecutionControls =>
    some (if consultsTrueMsrs cpu then .kIa32VmxTrueProcbasedCtls else .kIa32VmxProcbasedCtls)
  | .kControlSecondaryProcessorVmExecutionControls => some .kIa32VmxProcbasedCtls2
  | .kControlVmExitControls =>
    some (if consultsTrueMsrs cpu then .kIa32VmxTrueExitCtls else .kIa32VmxExitCtls)
  | .kControlVmEntryControls =>
    some (if consultsTrueMsrs cpu then .kIa32VmxTrueEntryCtls else .kIa32VmxEntryCtls)
  | _ => none

/-- The word requested for a control field: `activateSecondaryControls` is bit 31, and
`hostAddrSpaceSize` and `ia32ModeGuest` are bit 9. -/
def requested : VmcsFieldEncoding → BitVec 32
  | .kControlPrimaryProcessorVmExecutionControls => 0x80000000
  | .kControlVmExitControls | .kControlVmEntryControls => 0x200
  | _ => 0

/-- A control word keeps to its register, grants the request where it can, and is left alone by
`ModifyControlValue`. -/
structure Honours (cpu : ProcessorState) (msr : IntelMsr) (request word : BitVec 32) : Prop where
  between : Between (mustBeOne (cpu.msr msr.address)) (mayBeOne (cpu.msr msr.address)) word
  granted : AgreeOn (mayBeOne (cpu.msr msr.address) &&& ~~~mustBeOne (cpu.msr msr.address))
    word request
  fixed : ∀ events result,
    Path cpu.running (modifyControlValue msr word) () events (.done result) () → result = word

/-- What the function computes is the clamped request. -/
theorem controlValue_eq_clamp (cpu : ProcessorState) (msr : IntelMsr) (request : BitVec 32) :
    controlValue cpu msr request =
      clamp (mustBeOne (cpu.msr msr.address)) (mayBeOne (cpu.msr msr.address)) request := rfl

theorem modifyControlValue_of_path {cpu : ProcessorState} {msr : IntelMsr}
    {request result : BitVec 32} {events : List (Event interface)}
    (path : Path cpu.running (modifyControlValue msr request) () events (.done result) ()) :
    result = controlValue cpu msr request := by
  obtain ⟨value, _, -, allowed, rest⟩ := path_ask_bind path
  obtain rfl : value = cpu.msr msr.address := allowed _ rfl
  obtain ⟨-, same, -⟩ := rest.of_done
  exact Program.done.inj same

/-- Where the register leaves room, the clamped request honours it. -/
theorem honours_controlValue {cpu : ProcessorState} {msr : IntelMsr}
    (room : BitSubset (mustBeOne (cpu.msr msr.address)) (mayBeOne (cpu.msr msr.address)))
    (request : BitVec 32) : Honours cpu msr request (controlValue cpu msr request) := by
  rw [controlValue_eq_clamp]
  have between := between_clamp room request
  refine ⟨between, agreeOn_clamp _ _ request, ?_⟩
  intro events result path
  rw [modifyControlValue_of_path path, controlValue_eq_clamp]
  exact clamp_of_between between

/-- Each control field is written, with the clamped request. -/
theorem mem_populateWrites {cpu : ProcessorState} {field : VmcsFieldEncoding} {msr : IntelMsr}
    (governed : governing cpu field = some msr) :
    put field ((controlValue cpu msr (requested field)).setWidth 64) ∈ populateWrites cpu := by
  apply controlsWrites_subset
  cases field <;> first
    | contradiction
    | obtain rfl := Option.some.inj governed
      simp [controlsWrites, requested]

/-- A field of 32 bits keeps the low half of its operand. -/
theorem setWidth_of_kept_eq {field : VmcsFieldEncoding} {value : BitVec 64} {word : BitVec 32}
    (width : fieldBits field.encoding = 32)
    (same : Vmcs.kept field value = Vmcs.kept field (word.setWidth 64)) :
    value.setWidth 32 = word := by
  rw [Vmcs.kept, Vmcs.kept, width] at same
  have low := congrArg (BitVec.setWidth 32) same
  simpa using low

theorem fieldBits_of_governing {cpu : ProcessorState} {field : VmcsFieldEncoding} {msr : IntelMsr}
    (governed : governing cpu field = some msr) : fieldBits field.encoding = 32 := by
  cases field <;> first | contradiction | rfl

/-- At every point of every run, each word written to a control field honours the register that
governs the field, and a finished run has written each of them. -/
theorem honours_of_path {cpu : ProcessorState} {depth : ℕ} {events : List (Event interface)}
    {rest : Code NTSTATUS} {field : VmcsFieldEncoding} {msr : IntelMsr}
    (path : Path cpu.running (populateActiveVMCS depth) () events rest ())
    (governed : governing cpu field = some msr)
    (room : BitSubset (mustBeOne (cpu.msr msr.address)) (mayBeOne (cpu.msr msr.address))) :
    (∀ value outcome, ⟨.vmwrite field value, outcome⟩ ∈ events →
      Honours cpu msr (requested field) (value.setWidth 32)) ∧
    (∀ status, rest = .done status → ∃ value outcome, ⟨.vmwrite field value, outcome⟩ ∈ events) := by
  constructor
  · intro value outcome written
    have member : put field value ∈ populateWrites cpu := by
      apply (prefix_of_path path).1.subset
      exact List.mem_filterMap.mpr ⟨_, written, rfl⟩
    have same := WriteLog.value_unique (nodup_keys_populateWrites cpu) member
      (mem_populateWrites governed)
    rw [setWidth_of_kept_eq (fieldBits_of_governing governed) same]
    exact honours_controlValue room (requested field)
  · rintro status rfl
    have member := mem_populateWrites governed
    rw [← (ended_of_path path).1, writesOf, List.mem_filterMap] at member
    obtain ⟨⟨op, response⟩, issued, written⟩ := member
    cases op with
    | vmwrite other value =>
      obtain rfl : other = field := congrArg Prod.fst (Option.some.inj written)
      exact ⟨value, response, issued⟩
    | _ => contradiction

/-- A processor with TRUE capability registers. Its primary controls must have bits 1, 4 to 6, 8, 13,
14 and 26, which the older register wants together with 15 and 16, and may have bit 31. -/
def trueControls : ProcessorState :=
  { (default : ProcessorState) with
    msr := fun address =>
      if address = IntelMsr.kIa32VmxBasic.address then 0x00DA040000000004
      else if address = IntelMsr.kIa32VmxPinbasedCtls.address then 0x0000007F00000016
      else if address = IntelMsr.kIa32VmxProcbasedCtls.address then 0xFFF9FFFE0401E172
      else if address = IntelMsr.kIa32VmxProcbasedCtls2.address then 0x005FBCFF00000000
      else if address = IntelMsr.kIa32VmxExitCtls.address then 0x01FFFFFF00036DFF
      else if address = IntelMsr.kIa32VmxEntryCtls.address then 0x0003FFFF000011FF
      else if address = IntelMsr.kIa32VmxTruePinbasedCtls.address then 0x0000007F00000016
      else if address = IntelMsr.kIa32VmxTrueProcbasedCtls.address then 0xFFF9FFFE04006172
      else if address = IntelMsr.kIa32VmxTrueExitCtls.address then 0x01FFFFFF00036DFB
      else if address = IntelMsr.kIa32VmxTrueEntryCtls.address then 0x0003FFFF000011FB
      else 0 }

/-- Its run of `PopulateActiveVMCS`. -/
def trueControlsRun : List (Event interface) × Code NTSTATUS × Vmcs :=
  populateRun trueControls fun _ => 0

private theorem finishes_trueControlsRun : trueControlsRun.2.1.head? = none := by decide +kernel

/-- Its primary controls and its exit controls, each with a bit requested. -/
theorem honours_of_path_trueControls :
    ((∀ value outcome, ⟨.vmwrite .kControlPrimaryProcessorVmExecutionControls value, outcome⟩ ∈
        trueControlsRun.1 →
      Honours trueControls .kIa32VmxTrueProcbasedCtls 0x80000000 (value.setWidth 32)) ∧
      ∃ value outcome, ⟨.vmwrite .kControlPrimaryProcessorVmExecutionControls value, outcome⟩ ∈
        trueControlsRun.1) ∧
    ((∀ value outcome, ⟨.vmwrite .kControlVmExitControls value, outcome⟩ ∈ trueControlsRun.1 →
      Honours trueControls .kIa32VmxTrueExitCtls 0x200 (value.setWidth 32)) ∧
      ∃ value outcome, ⟨.vmwrite .kControlVmExitControls value, outcome⟩ ∈ trueControlsRun.1) := by
  obtain ⟨status, path⟩ := path_running_populateRun finishes_trueControlsRun
  have primary : governing trueControls .kControlPrimaryProcessorVmExecutionControls =
      some .kIa32VmxTrueProcbasedCtls := rfl
  have exit : governing trueControls .kControlVmExitControls = some .kIa32VmxTrueExitCtls := rfl
  have primaryHonours := honours_of_path path primary (by decide)
  have exitHonours := honours_of_path path exit (by decide)
  exact ⟨⟨primaryHonours.1, primaryHonours.2 status rfl⟩, exitHonours.1, exitHonours.2 status rfl⟩

end Guypervisor.Soundness.ControlWords
