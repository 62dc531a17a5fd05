import Guypervisor.Model.IrpHandlers
import Guypervisor.Proofs.Rules

/-! # What the stages can do

For each routine, the operations it can issue and the results it can return under any responses
at all. Between `VMPTRLD` and `VMLAUNCH` the driver only reads registers, memory and fields and
writes fields, so a state that none of these change is carried through `PopulateActiveVMCS`
without looking at its text again.
-/

namespace Guypervisor.Proofs

open Effects Effects.Program Model Code

/-- Reading a VMCS field, or running out of stack while reporting that it failed. -/
def IsFieldRead : Op → Prop
  | .vmread _ | .overflow => True
  | _ => False

/-- What `PopulateActiveVMCS` does: registers and memory are read, fields are read and written,
and its own frame comes and goes. -/
def IsFieldWork : Op → Prop
  | .vmread _ | .overflow | .vmwrite _ _ => True
  | .readCr0 | .readCr3 | .readCr4 | .readDr7 | .readEflags | .readMsr _ => True
  | .readSelector _ | .sgdt | .sidt | .segmentLimit _ | .lar _ => True
  | .load32 _ | .load64 _ | .localAddress _ | .symbolAddress _ | .print _ _ => True
  | .enter .populateActiveVMCS | .leave .populateActiveVMCS => True
  | _ => False

/-- What the sections of `PopulateActiveVMCS` do, but for the one for RSP, RIP and RFLAGS. -/
def IsSectionWork : Op → Prop
  | .vmwrite field _ => field ≠ .kGuestRsp ∧ field ≠ .kHostRsp
  | .enter _ | .leave _ | .readEflags => False
  | op => IsFieldWork op

/-- What the stages do besides VMX instructions and field work: registers, memory and the driver's
variables are accessed, and the frames of the stages come and go. -/
def IsPreparation : Op → Prop
  | .readCr0 | .writeCr0 _ | .readCr4 | .writeCr4 _ | .readMsr _ | .writeMsr _ _ => True
  | .loadContext | .loadField _ _ | .load32 _ | .store32 _ _ | .getPhysicalAddress _ => True
  | .enter routine | .leave routine => routine ≠ .enterVmxHandler
  | _ => False

/-- What `DumpVmcsGuestArea` does: fields are read and printed. -/
def IsFieldDump : Op → Prop
  | .vmread _ | .overflow | .print _ _ => True
  | _ => False

/-- What a request to enter VMX does: it touches no IRP, and allocates and releases nothing. -/
def IsRequestWork : Op → Prop
  | .setIoStatus _ | .completeRequest => False
  | .allocateContiguousMemory _ _ | .freeContiguousMemory _ | .allocatePool _ | .freePool _ => False
  | .storeContext _ | .storeField _ _ _ => False
  | _ => True

/-- What a request does once both regions were prepared: memory is not written, and the two stages
that prepare a region are not entered. -/
def IsAfterEntry : Op → Prop
  | .store32 _ _ | .store64 _ _ | .zeroMemory _ _ => False
  | .enter routine => routine ≠ .enterVmxonMode ∧ routine ≠ .initializeVMCS
  | op => IsRequestWork op

/-- What the body of a stage does, but for `VMLAUNCH` and the writes of the stack pointers: it opens
no frame. -/
def IsBodyWork : Op → Prop
  | .vmwrite field _ => field ≠ .kGuestRsp ∧ field ≠ .kHostRsp
  | .vmlaunch | .enter _ | .leave _ => False
  | op => IsRequestWork op

theorem IsFieldRead.isFieldDump {op : Op} (read : IsFieldRead op) : IsFieldDump op := by
  cases op <;> trivial

theorem IsFieldDump.isFieldWork {op : Op} (dumped : IsFieldDump op) : IsFieldWork op := by
  cases op <;> trivial

theorem IsFieldRead.isFieldWork {op : Op} (read : IsFieldRead op) : IsFieldWork op := by
  cases op <;> trivial

theorem IsFieldDump.isSectionWork {op : Op} (dumped : IsFieldDump op) : IsSectionWork op := by
  cases op <;> first | exact dumped.elim | trivial

theorem IsFieldRead.isBodyWork {op : Op} (read : IsFieldRead op) : IsBodyWork op := by
  cases op <;> first | exact read.elim | trivial

theorem IsSectionWork.isFieldWork {op : Op} (work : IsSectionWork op) : IsFieldWork op := by
  cases op <;> trivial

theorem IsSectionWork.isBodyWork {op : Op} (work : IsSectionWork op) : IsBodyWork op := by
  cases op <;> first | exact work.elim | exact work

theorem IsBodyWork.isRequestWork {op : Op} (work : IsBodyWork op) : IsRequestWork op := by
  cases op <;> first | exact work.elim | trivial

theorem IsFieldRead.isAfterEntry {op : Op} (read : IsFieldRead op) : IsAfterEntry op := by
  cases op <;> first | exact read.elim | trivial

theorem IsAfterEntry.isRequestWork {op : Op} (work : IsAfterEntry op) : IsRequestWork op := by
  cases op <;> first | exact work.elim | exact work | trivial

theorem IsFieldWork.isAfterEntry {op : Op} (work : IsFieldWork op) : IsAfterEntry op := by
  cases op with
  | enter routine => cases routine <;> first | exact work.elim | exact ⟨nofun, nofun⟩
  | _ => first | exact work.elim | trivial

theorem IsFieldWork.isRequestWork {op : Op} (work : IsFieldWork op) : IsRequestWork op :=
  work.isAfterEntry.isRequestWork

theorem confined_overflow {α : Type} {ops : Op → Prop} {results : α → Prop}
    (issued : ops .overflow) : Confined (P := interface) ops results overflow :=
  ⟨issued, fun response => response.elim⟩

section Read

variable {printer : Code NTSTATUS}
  (confined : printer.Confined IsFieldRead DriverStatus)
include confined

theorem confined_readVMCSField64With (encoding : VmcsFieldEncoding) (prior : BitVec 64) :
    (readVMCSField64With printer encoding (some prior)).Confined IsFieldRead
      fun result => DriverStatus result.1 := by
  refine confined_ask_bind trivial fun ⟨outcome, value⟩ => ?_
  dsimp only
  split
  · exact confined.bind fun _ _ => (driverStatus_ntError _ : DriverStatus statusFailedVmread)
  · exact driverStatus_statusSuccess

theorem confined_readVMCSFieldGenericWith {w : ℕ} (encoding : VmcsFieldEncoding)
    (prior : BitVec w) :
    (readVMCSFieldGenericWith printer encoding (some prior)).Confined IsFieldRead
      fun result => DriverStatus result.1 := by
  unfold readVMCSFieldGenericWith
  refine (confined_readVMCSField64With confined encoding 0).bind fun result status => ?_
  dsimp only
  split <;> exact status

end Read

/-- Printing the VMX error only reads fields, however deeply it recurses. -/
theorem confined_printVMXError (depth : ℕ) :
    (printVMXError depth).Confined IsFieldRead DriverStatus := by
  induction depth with
  | zero => exact confined_overflow trivial
  | succ depth ih =>
    refine (confined_readVMCSFieldGenericWith ih _ 0).bind fun result status => ?_
    dsimp only
    split
    · exact status
    · exact (confined_readVMCSFieldGenericWith ih _ 0).bind fun _ later => later

/-- Printing the VMX error is field work. -/
theorem confined_printVMXError' (depth : ℕ) :
    (printVMXError depth).Confined IsFieldWork DriverStatus :=
  (confined_printVMXError depth).mono (fun _ => IsFieldRead.isFieldWork) (fun _ => id)

theorem confined_readVMCSFieldGeneric (depth : ℕ) {w : ℕ} (encoding : VmcsFieldEncoding)
    (prior : BitVec w) :
    (readVMCSFieldGeneric depth encoding (some prior)).Confined IsFieldRead
      fun result => DriverStatus result.1 :=
  confined_readVMCSFieldGenericWith (confined_printVMXError depth) encoding prior

/-- Reading a field is part of the dump. -/
theorem confined_readVMCSFieldGeneric' (depth : ℕ) {w : ℕ} (encoding : VmcsFieldEncoding)
    (prior : BitVec w) :
    (readVMCSFieldGeneric depth encoding (some prior)).Confined IsFieldDump
      fun result => DriverStatus result.1 :=
  (confined_readVMCSFieldGeneric depth encoding prior).mono (fun _ => IsFieldRead.isFieldDump)
    (fun _ => id)

/-- The outcome of a write is reported by reading fields. -/
theorem confined_writeVMCSField64 {ops : Op → Prop} (reads : ∀ op, IsFieldRead op → ops op)
    (depth : ℕ) {encoding : VmcsFieldEncoding} {value : BitVec 64}
    (writes : ops (.vmwrite encoding value)) :
    (writeVMCSField64 depth encoding value).Confined ops DriverStatus := by
  refine confined_ask_bind writes fun outcome => ?_
  split
  · exact ((confined_printVMXError depth).mono reads fun _ => id).bind
      fun _ _ => driverStatus_ntError _
  · exact driverStatus_statusSuccess

theorem confined_readAccessRights (selector : BitVec 16) :
    (readAccessRights selector).Confined IsSectionWork fun _ => True := by
  unfold readAccessRights
  split
  · exact confined_ask_bind trivial fun _ => trivial
  · trivial

theorem confined_readGDTEntry (gdt : DescriptorTableRegister) (selector : BitVec 16) :
    (readGDTEntry gdt selector).Confined IsSectionWork fun _ => True := by
  unfold readGDTEntry
  split
  · trivial
  · refine confined_ask_bind trivial fun limit => ?_
    refine (confined_readAccessRights selector).bind fun access _ => ?_
    refine confined_ask_bind trivial fun entry => ?_
    dsimp only
    split
    · exact confined_ask_bind trivial fun _ => trivial
    · trivial

/-- None of the fields of a segment register is a stack pointer. -/
abbrev NoStackPointer (fields : SegmentFields) : Prop :=
  ∀ field ∈ [fields.guestSelector, fields.guestLimit, fields.guestAccessRights, fields.guestBase,
    fields.hostSelector], field ≠ .kGuestRsp ∧ field ≠ .kHostRsp

section Populate

variable (depth : ℕ) {status : NTSTATUS} (accumulated : DriverStatus status)

/-- A field that is no stack pointer is written. -/
theorem confined_sectionWrite {encoding : VmcsFieldEncoding} {value : BitVec 64}
    (other : encoding ≠ .kGuestRsp ∧ encoding ≠ .kHostRsp) :
    (writeVMCSField64 depth encoding value).Confined IsSectionWork DriverStatus :=
  confined_writeVMCSField64 (fun _ read => read.isFieldDump.isSectionWork) depth other

theorem confined_modifyControlValue (msr : IntelMsr) (requested : BitVec 32) :
    (modifyControlValue msr requested).Confined IsSectionWork fun _ => True :=
  confined_ask_bind trivial fun _ => trivial

include accumulated

theorem confined_populateControls :
    (populateControls depth status).Confined IsSectionWork DriverStatus := by
  refine confined_ask_bind trivial fun basicMsr => ?_
  refine (confined_sectionWrite depth (by decide)).bind fun _ _ => ?_
  iterate 3
    refine (confined_modifyControlValue _ _).bind fun _ _ => ?_
    refine (confined_sectionWrite depth (by decide)).bind fun _ _ => ?_
  refine (confined_sectionWrite depth (by decide)).bind fun _ _ => ?_
  iterate 2
    refine (confined_modifyControlValue _ _).bind fun _ _ => ?_
    refine (confined_sectionWrite depth (by decide)).bind fun _ _ => ?_
  iterate 2 refine (confined_sectionWrite depth (by decide)).bind fun _ _ => ?_
  repeat' first | assumption | apply DriverStatus.or

theorem confined_populateSegment (gdtr : DescriptorTableRegister) {fields : SegmentFields}
    (others : NoStackPointer fields) (selector : BitVec 16) :
    (populateSegment depth gdtr fields selector status).Confined IsSectionWork DriverStatus := by
  refine (confined_readGDTEntry gdtr selector).bind fun entry _ => ?_
  iterate 5 refine (confined_sectionWrite depth (others _ (by simp))).bind fun _ _ => ?_
  repeat' first | assumption | apply DriverStatus.or

theorem confined_populateBasedSegment (gdtr : DescriptorTableRegister) {fields : SegmentFields}
    (others : NoStackPointer fields) {hostBase : VmcsFieldEncoding}
    (other : hostBase ≠ .kGuestRsp ∧ hostBase ≠ .kHostRsp) (selector : BitVec 16) :
    (populateBasedSegment depth gdtr fields hostBase selector status).Confined IsSectionWork
      DriverStatus := by
  refine (confined_readGDTEntry gdtr selector).bind fun entry _ => ?_
  iterate 4 refine (confined_sectionWrite depth (others _ (by simp))).bind fun _ _ => ?_
  refine (confined_sectionWrite depth other).bind fun _ _ => ?_
  refine (confined_sectionWrite depth (others _ (by simp))).bind fun _ _ => ?_
  repeat' first | assumption | apply DriverStatus.or

theorem confined_populateGs (gdtr : DescriptorTableRegister) (selector : BitVec 16) :
    (populateGs depth gdtr selector status).Confined IsSectionWork DriverStatus := by
  refine (confined_readGDTEntry gdtr selector).bind fun entry _ => ?_
  iterate 3 refine (confined_sectionWrite depth (by decide)).bind fun _ _ => ?_
  iterate 2
    refine confined_ask_bind trivial fun _ => ?_
    refine (confined_sectionWrite depth (by decide)).bind fun _ _ => ?_
  refine (confined_sectionWrite depth (by decide)).bind fun _ _ => ?_
  repeat' first | assumption | apply DriverStatus.or

theorem confined_populateLdtr (gdtr : DescriptorTableRegister) (selector : BitVec 16) :
    (populateLdtr depth gdtr selector status).Confined IsSectionWork DriverStatus := by
  refine (confined_readGDTEntry gdtr selector).bind fun entry _ => ?_
  iterate 4 refine (confined_sectionWrite depth (by decide)).bind fun _ _ => ?_
  repeat' first | assumption | apply DriverStatus.or

theorem confined_populateDescriptorTables (gdtr idtr : DescriptorTableRegister) :
    (populateDescriptorTables depth gdtr idtr status).Confined IsSectionWork DriverStatus := by
  iterate 6 refine (confined_sectionWrite depth (by decide)).bind fun _ _ => ?_
  repeat' first | assumption | apply DriverStatus.or

theorem confined_populateControlRegisters :
    (populateControlRegisters depth status).Confined IsSectionWork DriverStatus := by
  iterate 7 refine confined_ask_bind trivial fun _ => ?_
  refine (confined_sectionWrite depth (by decide)).bind fun _ _ => ?_
  refine confined_ask_bind trivial fun _ => ?_
  iterate 3 refine (confined_sectionWrite depth (by decide)).bind fun _ _ => ?_
  refine confined_ask_bind trivial fun _ => ?_
  iterate 3 refine (confined_sectionWrite depth (by decide)).bind fun _ _ => ?_
  refine confined_ask_bind trivial fun _ => ?_
  iterate 3 refine (confined_sectionWrite depth (by decide)).bind fun _ _ => ?_
  refine confined_ask_bind trivial fun _ => ?_
  refine (confined_sectionWrite depth (by decide)).bind fun _ _ => ?_
  repeat' first | assumption | apply DriverStatus.or

theorem confined_populateContexts :
    (populateContexts depth status).Confined IsFieldWork DriverStatus := by
  have write (encoding : VmcsFieldEncoding) (value : BitVec 64) :
      (writeVMCSField64 depth encoding value).Confined IsFieldWork DriverStatus :=
    confined_writeVMCSField64 (fun _ => IsFieldRead.isFieldWork) depth trivial
  iterate 3 refine confined_ask_bind trivial fun _ => ?_
  refine (write _ _).bind fun _ _ => ?_
  refine confined_ask_bind trivial fun _ => ?_
  iterate 3 refine (write _ _).bind fun _ _ => ?_
  refine confined_ask_bind trivial fun _ => ?_
  refine (write _ _).bind fun _ _ => ?_
  repeat' first | assumption | apply DriverStatus.or

theorem confined_populateSysenter :
    (populateSysenter depth status).Confined IsSectionWork DriverStatus := by
  iterate 3 refine confined_ask_bind trivial fun _ => ?_
  iterate 6 refine (confined_sectionWrite depth (by decide)).bind fun _ _ => ?_
  repeat' first | assumption | apply DriverStatus.or

end Populate

/-- The label says which field is printed; every line of the dump reads at most one field. -/
theorem confined_dump16 (depth : ℕ) (label : String) (encoding : VmcsFieldEncoding)
    (values : DumpValues) :
    (dump16 depth label encoding values).Confined IsFieldDump fun _ => True :=
  (confined_readVMCSFieldGeneric' depth encoding _).bind fun _ _ =>
    confined_ask_bind trivial fun _ => trivial

theorem confined_dump32 (depth : ℕ) (label : String) (encoding : VmcsFieldEncoding)
    (values : DumpValues) :
    (dump32 depth label encoding values).Confined IsFieldDump fun _ => True :=
  (confined_readVMCSFieldGeneric' depth encoding _).bind fun _ _ =>
    confined_ask_bind trivial fun _ => trivial

theorem confined_dump64 (depth : ℕ) (label : String) (encoding : VmcsFieldEncoding)
    (values : DumpValues) :
    (dump64 depth label encoding values).Confined IsFieldDump fun _ => True :=
  (confined_readVMCSFieldGeneric' depth encoding _).bind fun _ _ =>
    confined_ask_bind trivial fun _ => trivial

theorem confined_dumpVmcsGuestArea (depth : ℕ) :
    (dumpVmcsGuestArea depth).Confined IsFieldDump fun _ => True := by
  iterate 8 refine (confined_dump16 depth _ _ _).bind fun _ _ => ?_
  iterate 2 refine confined_ask_bind trivial fun _ => ?_
  iterate 10 refine (confined_dump64 depth _ _ _).bind fun _ _ => ?_
  iterate 22 refine (confined_dump32 depth _ _ _).bind fun _ _ => ?_
  refine confined_ask_bind trivial fun _ => ?_
  iterate 20 refine (confined_dump64 depth _ _ _).bind fun _ _ => ?_
  trivial

theorem confined_loadSegmentSelectors :
    loadSegmentSelectors.Confined IsSectionWork fun _ => True := by
  iterate 8 refine confined_ask_bind trivial fun _ => ?_
  trivial

/-- The sections of `PopulateActiveVMCS` before the one for RSP, RIP and RFLAGS. -/
def populateSegments (depth : ℕ) : Code NTSTATUS := do
  let _ ← populateControls depth statusSuccess
  let status ← writeVMCSFieldNatural depth .kGuestPendingDebugExceptions 0
  let segmentSelector ← loadSegmentSelectors
  let gdtr ← sgdt
  let idtr ← sidt
  let status ← populateSegment depth gdtr csFields segmentSelector.cs status
  let status ← populateSegment depth gdtr ssFields segmentSelector.ss status
  let status ← populateSegment depth gdtr dsFields segmentSelector.ds status
  let status ← populateSegment depth gdtr esFields segmentSelector.es status
  let status ← populateBasedSegment depth gdtr fsFields .kHostFsBase segmentSelector.fs status
  let status ← populateGs depth gdtr segmentSelector.gs status
  let status ← populateBasedSegment depth gdtr trFields .kHostTrBase segmentSelector.tr status
  let status ← populateLdtr depth gdtr segmentSelector.ldtr status
  let status ← populateDescriptorTables depth gdtr idtr status
  populateControlRegisters depth status

/-- The sections after it. -/
def populateRest (depth : ℕ) (status : NTSTATUS) : Code NTSTATUS := do
  let status ← populateSysenter depth status
  dumpVmcsGuestArea depth
  return status

theorem populateActiveVMCS_eq (depth : ℕ) :
    populateActiveVMCS depth = call .populateActiveVMCS (do
      let status ← populateSegments depth
      let status ← populateContexts depth status
      populateRest depth status) := by
  simp only [populateActiveVMCS, populateSegments, populateRest, bind_assoc]

theorem confined_populateSegments (depth : ℕ) :
    (populateSegments depth).Confined IsSectionWork DriverStatus := by
  refine (confined_populateControls depth driverStatus_statusSuccess).bind fun _ _ => ?_
  refine (confined_sectionWrite depth (by decide)).bind fun _ status => ?_
  refine confined_loadSegmentSelectors.bind fun selectors _ => ?_
  refine confined_ask_bind trivial fun gdtr => confined_ask_bind trivial fun idtr => ?_
  iterate 4 refine (confined_populateSegment depth ‹_› _ (by decide) _).bind fun _ _ => ?_
  refine (confined_populateBasedSegment depth ‹_› _ (by decide) (by decide) _).bind fun _ _ => ?_
  refine (confined_populateGs depth ‹_› _ _).bind fun _ _ => ?_
  refine (confined_populateBasedSegment depth ‹_› _ (by decide) (by decide) _).bind fun _ _ => ?_
  refine (confined_populateLdtr depth ‹_› _ _).bind fun _ _ => ?_
  refine (confined_populateDescriptorTables depth ‹_› _ _).bind fun _ _ => ?_
  exact confined_populateControlRegisters depth ‹_›

theorem confined_populateRest (depth : ℕ) {status : NTSTATUS} (accumulated : DriverStatus status) :
    (populateRest depth status).Confined IsSectionWork DriverStatus := by
  refine (confined_populateSysenter depth accumulated).bind fun _ final => ?_
  refine ((confined_dumpVmcsGuestArea depth).mono (fun _ => IsFieldDump.isSectionWork)
    (fun _ => id)).bind fun _ _ => ?_
  exact final

/-- `PopulateActiveVMCS` does field work only and returns a status of the driver. -/
theorem confined_populateActiveVMCS (depth : ℕ) :
    (populateActiveVMCS depth).Confined IsFieldWork DriverStatus := by
  have work {program : Code NTSTATUS} (confined : program.Confined IsSectionWork DriverStatus) :
      program.Confined IsFieldWork DriverStatus :=
    confined.mono (fun _ => IsSectionWork.isFieldWork) fun _ => id
  rw [populateActiveVMCS_eq]
  refine confined_call trivial trivial ?_
  refine (work (confined_populateSegments depth)).bind fun _ status => ?_
  refine (confined_populateContexts depth status).bind fun _ status => ?_
  exact work (confined_populateRest depth status)

section Returns

theorem confined_setRevisionIdentifier (region : Address) (id : BitVec 32) :
    (setRevisionIdentifier region id).Confined IsPreparation fun _ => True :=
  confined_ask_bind trivial fun _ => ⟨trivial, fun _ => trivial⟩

/-- Preparing a region is part of a stage's body. -/
theorem confined_setRevisionIdentifier' (region : Address) (id : BitVec 32) :
    (setRevisionIdentifier region id).Confined IsBodyWork fun _ => True :=
  confined_ask_bind trivial fun _ => ⟨trivial, fun _ => trivial⟩

/-- What is returned past a test of an instruction's outcome is a status of the driver. -/
private theorem confined_report {outcome : VmxOutcome} {failure : NTSTATUS}
    {rest : Code NTSTATUS} (failed : DriverStatus failure)
    (confined : rest.Confined IsBodyWork DriverStatus) :
    Confined (P := interface) IsBodyWork DriverStatus
      (if outcome.operationStatus ≠ 0 then pure failure else rest) := by
  split
  · exact failed
  · exact confined

/-- A stage is a body, run in a frame of its own. -/
def IsStage (routine : Routine) (stage : Code NTSTATUS) : Prop :=
  ∃ body, stage = call routine body ∧ body.Confined IsBodyWork DriverStatus

theorem IsStage.confined {routine : Routine} {stage : Code NTSTATUS}
    (isStage : IsStage routine stage) : stage.Confined IsRequestWork DriverStatus := by
  obtain ⟨body, rfl, confined⟩ := isStage
  apply confined_call trivial trivial
  exact confined.mono (fun _ => IsBodyWork.isRequestWork) fun _ => id

theorem isStage_enterVmxonMode : IsStage .enterVmxonMode enterVmxonMode := by
  refine ⟨_, rfl, ?_⟩
  iterate 15 refine confined_ask_bind trivial fun _ => ?_
  refine (confined_setRevisionIdentifier' _ _).bind fun _ _ => ?_
  iterate 3 refine confined_ask_bind trivial fun _ => ?_
  exact confined_report (driverStatus_ntError _) driverStatus_statusSuccess

theorem isStage_initializeVMCS : IsStage .initializeVMCS initializeVMCS := by
  refine ⟨_, rfl, ?_⟩
  iterate 3 refine confined_ask_bind trivial fun _ => ?_
  refine (confined_setRevisionIdentifier' _ _).bind fun _ _ => ?_
  iterate 3 refine confined_ask_bind trivial fun _ => ?_
  refine confined_report (driverStatus_ntError _) ?_
  refine confined_ask_bind trivial fun _ => ?_
  exact confined_report (driverStatus_ntError _) driverStatus_statusSuccess

/-- `ClearActiveVMCS` is a stage that writes no memory. -/
private theorem exists_clearActiveVMCS_eq (depth : ℕ) :
    ∃ body, clearActiveVMCS depth = call .clearActiveVMCS body ∧
      body.Confined (fun op => IsBodyWork op ∧ IsAfterEntry op) DriverStatus := by
  have printed : (printVMXError depth).Confined (fun op => IsBodyWork op ∧ IsAfterEntry op)
      DriverStatus :=
    (confined_printVMXError depth).mono (fun _ read => ⟨read.isBodyWork, read.isAfterEntry⟩)
      fun _ => id
  refine ⟨_, rfl, ?_⟩
  refine confined_ask_bind ⟨trivial, trivial⟩ fun ⟨outcome, stored⟩ => ?_
  dsimp only
  generalize (if outcome = .succeed then stored else 0) = address
  split
  · refine printed.bind fun _ _ => ?_
    exact driverStatus_ntError _
  · refine confined_ask_bind ⟨trivial, trivial⟩ fun cleared => ?_
    cases cleared with
    | succeed => exact driverStatus_statusSuccess
    | failInvalid => exact driverStatus_ntError _
    | failValid =>
      refine printed.bind fun _ _ => ?_
      exact driverStatus_ntError _

theorem isStage_clearActiveVMCS (depth : ℕ) :
    IsStage .clearActiveVMCS (clearActiveVMCS depth) := by
  obtain ⟨body, same, confined⟩ := exists_clearActiveVMCS_eq depth
  exact ⟨body, same, confined.mono (fun _ work => work.1) fun _ => id⟩

theorem confined_clearActiveVMCS (depth : ℕ) :
    (clearActiveVMCS depth).Confined IsAfterEntry DriverStatus := by
  obtain ⟨body, same, confined⟩ := exists_clearActiveVMCS_eq depth
  rw [same]
  apply confined_call ⟨nofun, nofun⟩ trivial
  exact confined.mono (fun _ work => work.2) fun _ => id

theorem confined_enterVmxonMode : enterVmxonMode.Confined IsRequestWork DriverStatus :=
  isStage_enterVmxonMode.confined

theorem confined_initializeVMCS : initializeVMCS.Confined IsRequestWork DriverStatus :=
  isStage_initializeVMCS.confined

theorem confined_launchGuest (depth : ℕ) :
    (launchGuest depth).Confined IsAfterEntry DriverStatus := by
  refine confined_call ⟨nofun, nofun⟩ trivial ?_
  refine confined_ask_bind trivial fun outcome => ?_
  cases outcome with
  | succeed => exact ⟨trivial, fun response => response.elim⟩
  | failInvalid | failValid =>
    exact ((confined_printVMXError depth).mono (fun _ => IsFieldRead.isAfterEntry) fun _ => id).bind
      fun _ _ => driverStatus_ntError _

theorem confined_enterVmxCleanup (depth : ℕ) {status : NTSTATUS}
    (produced : DriverStatus status) :
    (enterVmxCleanup depth true true status).Confined IsAfterEntry DriverStatus := by
  refine (confined_clearActiveVMCS depth).bind fun _ _ => ?_
  exact confined_ask_bind trivial fun _ => produced

end Returns

end Guypervisor.Proofs
