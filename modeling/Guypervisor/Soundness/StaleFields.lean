import Guypervisor.Soundness.Population

/-! # Control fields and the previous contents of the VMCS

A VMCS keeps whatever its region held before. VM entry and VM exit consult twelve control fields
whatever the optional controls are; `PopulateActiveVMCS` writes five of them. Two VMCSs therefore
agree on the twelve after the function exactly when they agreed on the other seven before it.
-/

namespace Guypervisor.Soundness.StaleFields

open Effects Effects.Program Model Population

/-- The control fields that are consulted whatever the optional controls are. -/
def consultedFields : List VmcsFieldEncoding :=
  [.kControlPinBasedVmExecutionControls, .kControlPrimaryProcessorVmExecutionControls,
   .kControlVmExitControls, .kControlVmEntryControls, .kControlExceptionBitmap,
   .kControlPageFaultErrorCodeMask, .kControlPageFaultErrorCodeMatch, .kControlCr3TargetCount,
   .kControlVmExitMsrStoreCount, .kControlVmExitMsrLoadCount, .kControlVmEntryMsrLoadCount,
   .kControlVmEntryInterruptionInformationField]

/-- Those of them that nothing writes. -/
def forgottenFields : List VmcsFieldEncoding :=
  [.kControlPageFaultErrorCodeMask, .kControlPageFaultErrorCodeMatch, .kControlCr3TargetCount,
   .kControlVmExitMsrStoreCount, .kControlVmExitMsrLoadCount, .kControlVmEntryMsrLoadCount,
   .kControlVmEntryInterruptionInformationField]

/-- Two VMCSs hold the same values in some fields. -/
def AgreeOn (fields : List VmcsFieldEncoding) (first second : Vmcs) : Prop :=
  ∀ field ∈ fields, first.read field = second.read field

/-- A consulted field is written or forgotten. -/
theorem mem_keys_iff (cpu : ProcessorState) {field : VmcsFieldEncoding}
    (consulted : field ∈ consultedFields) :
    field ∈ (populateWrites cpu).keys ↔ field ∉ forgottenFields := by
  have partitioned : ∀ field ∈ consultedFields,
      (field ∈ (populateWrites default).keys ↔ field ∉ forgottenFields) := by
    decide +kernel
  rw [keys_populateWrites cpu default]
  exact partitioned field consulted

theorem consulted_of_forgotten {field : VmcsFieldEncoding} (forgotten : field ∈ forgottenFields) :
    field ∈ consultedFields := by
  have included : ∀ field ∈ forgottenFields, field ∈ consultedFields := by decide
  exact included field forgotten

/-- A consulted field is the same after two runs exactly when it is written or was the same. -/
theorem read_eq_iff {cpu : ProcessorState} {depth depth' : ℕ} {first second first' second' : Vmcs}
    {events events' : List (Event interface)} {status status' : NTSTATUS}
    {field : VmcsFieldEncoding}
    (path : Path cpu.populating (populateActiveVMCS depth) first events (.done status) first')
    (path' : Path cpu.populating (populateActiveVMCS depth') second events' (.done status') second')
    (consulted : field ∈ consultedFields) :
    first'.read field = second'.read field ↔
      (field ∈ forgottenFields → first.read field = second.read field) := by
  rw [(performed_of_path path).2, (performed_of_path path').2, WriteLog.replay_eq_iff,
    mem_keys_iff cpu consulted]
  exact imp_iff_not_or.symm

/-- Two VMCSs agree on what is consulted after the function exactly when they agreed on what it
forgets before. -/
theorem agreeOn_consulted_iff {cpu : ProcessorState} {depth depth' : ℕ}
    {first second first' second' : Vmcs} {events events' : List (Event interface)}
    {status status' : NTSTATUS}
    (path : Path cpu.populating (populateActiveVMCS depth) first events (.done status) first')
    (path' : Path cpu.populating (populateActiveVMCS depth') second events' (.done status')
      second') :
    AgreeOn consultedFields first' second' ↔ AgreeOn forgottenFields first second := by
  constructor
  · intro after field forgotten
    have consulted := consulted_of_forgotten forgotten
    exact (read_eq_iff path path' consulted).mp (after field consulted) forgotten
  · intro before field consulted
    exact (read_eq_iff path path' consulted).mpr (before field)

/-- A region of zeros, and the same region with a CR3-target count left over in it. -/
def zeroed : Vmcs := fun _ => 0
def leftover : Vmcs := zeroed.write .kControlCr3TargetCount 5

private theorem finishes_zeroed : (populateRun default zeroed).2.1.head? = none := by
  decide +kernel

private theorem finishes_leftover : (populateRun default leftover).2.1.head? = none := by
  decide +kernel

theorem agreeOn_consulted_iff_leftover :
    AgreeOn consultedFields (populateRun default zeroed).2.2 (populateRun default leftover).2.2 ↔
      AgreeOn forgottenFields zeroed leftover := by
  obtain ⟨_, path⟩ := path_populateRun finishes_zeroed
  obtain ⟨_, path'⟩ := path_populateRun finishes_leftover
  exact agreeOn_consulted_iff path path'

/-- The left-over count is still there for VM entry. -/
theorem not_agreeOn_consulted : ¬ ∀ (cpu : ProcessorState) (depth depth' : ℕ)
    (first second first' second' : Vmcs) (events events' : List (Event interface))
    (status status' : NTSTATUS),
    Path cpu.populating (populateActiveVMCS depth) first events (.done status) first' →
    Path cpu.populating (populateActiveVMCS depth') second events' (.done status') second' →
      AgreeOn consultedFields first' second' := by
  intro independent
  obtain ⟨_, path⟩ := path_populateRun finishes_zeroed
  obtain ⟨_, path'⟩ := path_populateRun finishes_leftover
  have agree := independent _ _ _ _ _ _ _ _ _ _ _ path path'
  have consulted : VmcsFieldEncoding.kControlCr3TargetCount ∈ consultedFields := by decide
  have count := (read_eq_iff path path' consulted).mp (agree _ consulted) (by decide)
  revert count
  decide +kernel

end Guypervisor.Soundness.StaleFields
