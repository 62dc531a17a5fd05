import Guypervisor.Effects.WriteLog
import Guypervisor.Model.Populate
import Guypervisor.Model.ProcessorState
import Guypervisor.Proofs.Confinement

/-! # What `PopulateActiveVMCS` writes

On a processor in a fixed state the function is a list of writes and a list of registers it reads,
one of each for its sections, in the order of the source. It keeps to them whatever the outcomes of
its instructions are, and what it returns depends on these outcomes alone. Where every `VMWRITE`
succeeds, the fields hold afterwards what was written, and the rest of what they held before.
-/

namespace Guypervisor.Soundness.Population

open Effects Effects.Program Model Code Proofs

/-- One write: the field, and what the field keeps of the operand. -/
def put (field : VmcsFieldEncoding) (value : BitVec 64) : VmcsFieldEncoding × BitVec 64 :=
  (field, Vmcs.kept field value)

/-- The writes of one program. -/
abbrev FieldWrites : Type := WriteLog VmcsFieldEncoding (BitVec 64)

/-- Success is reported, and the fields are those of `vmcs` after the writes. -/
def Performed (log : FieldWrites) (vmcs : Vmcs) (status : NTSTATUS) (final : Vmcs) : Prop :=
  status = statusSuccess ∧ final.read = log.replay vmcs.read

/-- What a run has before it, the fields to write and the registers to read, and the writes it has
made, with their outcomes. -/
structure Script where
  writes : FieldWrites
  msrs : List IntelMsr
  made : List (VmcsFieldEncoding × VmxOutcome)

namespace Script

/-- A write or a read of a register is the one that comes next. -/
def Follows (script : Script) : Op → Prop
  | .readMsr msr => script.msrs.head? = some msr
  | .vmwrite field value => script.writes.head? = some (put field value)
  | _ => True

/-- The script after an operation. -/
def next (script : Script) (op : Op) (response : op.Response) : Script :=
  match op, response with
  | .readMsr _, _ => { script with msrs := script.msrs.tail }
  | .vmwrite field _, outcome =>
    { script with writes := script.writes.tail, made := script.made ++ [(field, outcome)] }
  | _, _ => script

end Script

/-- The processor in a fixed state, with the script its code follows. -/
def scripted (cpu : ProcessorState) : Environment interface Script where
  allows _ := cpu.running.allows ()
  next := Script.next

/-- The status of a write. -/
def writeStatus (outcome : VmxOutcome) : NTSTATUS :=
  if outcome = .succeed then statusSuccess else statusFailedVmwrite

/-- What `|=` makes of a status and the writes made. -/
def accumulated (base : NTSTATUS) (made : List (VmcsFieldEncoding × VmxOutcome)) : NTSTATUS :=
  made.foldl (fun status write => status ||| writeStatus write.2) base

/-- Where a run stands: what is left of the script, and the status accumulated since `prior`. -/
structure Stands (prior : List (VmcsFieldEncoding × VmxOutcome)) (base : NTSTATUS)
    (writes : FieldWrites) (msrs : List IntelMsr) (status : NTSTATUS) (script : Script) : Prop where
  writes : script.writes = writes
  msrs : script.msrs = msrs
  status : ∃ since, script.made = prior ++ since ∧ status = accumulated base since

/-- A status on its own, with no writes made since. -/
theorem Stands.here (writes : FieldWrites) (msrs : List IntelMsr)
    (made : List (VmcsFieldEncoding × VmxOutcome)) (status : NTSTATUS) :
    Stands made status writes msrs status ⟨writes, msrs, made⟩ :=
  ⟨rfl, rfl, [], (List.append_nil _).symm, rfl⟩

/-- A value is given, and the state stays as it is. -/
def Gives {σ α : Type} (value : α) (state : σ) (result : α) (final : σ) : Prop :=
  result = value ∧ final = state

section Rules

variable {cpu : ProcessorState} {α : Type} {script : Script} {post : α → Script → Prop}

/-- Reporting a failed write is not in the script. -/
theorem passes_fieldDump : Passes (scripted cpu) Script.Follows IsFieldDump script := by
  constructor
  · intro op dumped
    cases op <;> trivial
  · intro op _ dumped _
    cases op <;> first | rfl | exact dumped.elim

/-- The same, before the failure is returned. -/
private theorem ensures_report_bind {depth : ℕ} {next : NTSTATUS → Code α}
    (rest : (next statusFailedVmwrite).Ensures (scripted cpu) Script.Follows script post) :
    ((do let _ ← printVMXError depth; return statusFailedVmwrite) >>= next).Ensures (scripted cpu)
      Script.Follows script post := by
  rw [bind_assoc]
  have printed : (printVMXError depth).Confined IsFieldDump DriverStatus :=
    (confined_printVMXError depth).mono (fun _ => IsFieldRead.isFieldDump) (fun _ => id)
  exact printed.ensures_bind passes_fieldDump fun _ _ => rest

/-- An operation that reads the processor's state has its answer. -/
theorem ensures_answer_bind {op : Op} {next : op.Response → Code α} (answer : op.Response)
    (answered : cpu.reading op = some answer) (issued : script.Follows op)
    (unchanged : script.next op answer = script)
    (rest : (next answer).Ensures (scripted cpu) Script.Follows script post) :
    Ensures (scripted cpu) Script.Follows (ask op >>= next) script post := by
  apply ensures_ask_bind issued
  intro response allowed
  obtain rfl : response = answer := allowed answer answered
  change (next response).Ensures _ _ (script.next op response) post
  rw [unchanged]
  exact rest

/-- A program that reads the processor's state gives a value. -/
theorem ensures_gives_bind {β : Type} {value : β} {program : Code β} {next : β → Code α}
    (gives : program.Ensures (scripted cpu) Script.Follows script (Gives value script))
    (rest : (next value).Ensures (scripted cpu) Script.Follows script post) :
    (program >>= next).Ensures (scripted cpu) Script.Follows script post := by
  apply gives.bind
  rintro result final ⟨rfl, rfl⟩
  exact rest

/-- A field write is the next of the script, and may fail. -/
theorem ensures_writeVMCSField64_bind {depth : ℕ} {field : VmcsFieldEncoding} {value : BitVec 64}
    {writes : FieldWrites} {next : NTSTATUS → Code α} (head : script.writes = put field value :: writes)
    (rest : ∀ outcome, (next (writeStatus outcome)).Ensures (scripted cpu) Script.Follows
      ⟨writes, script.msrs, script.made ++ [(field, outcome)]⟩ post) :
    (writeVMCSField64 depth field value >>= next).Ensures (scripted cpu) Script.Follows script
      post := by
  have issued : script.Follows (.vmwrite field value) := by simp [Script.Follows, head]
  apply ensures_ask_bind issued
  intro outcome _
  have later := rest outcome
  have moved : (scripted cpu).next script (.vmwrite field value) outcome =
      ⟨writes, script.msrs, script.made ++ [(field, outcome)]⟩ := by
    simp [scripted, Script.next, head]
  rw [moved]
  cases outcome with
  | succeed => exact later
  | failInvalid => exact ensures_report_bind later
  | failValid => exact ensures_report_bind later

variable {prior : List (VmcsFieldEncoding × VmxOutcome)} {base status : NTSTATUS}
  {writes : FieldWrites} {msrs : List IntelMsr}

/-- The status of a field write is accumulated. -/
theorem ensures_write_bind {depth : ℕ} {field : VmcsFieldEncoding} {value : BitVec 64}
    {next : NTSTATUS → Code α}
    (stands : Stands prior base (put field value :: writes) msrs status script)
    (rest : ∀ later final, Stands prior base writes msrs (status ||| later) final →
      (next later).Ensures (scripted cpu) Script.Follows final post) :
    (writeVMCSField64 depth field value >>= next).Ensures (scripted cpu) Script.Follows script
      post := by
  apply ensures_writeVMCSField64_bind stands.writes
  intro outcome
  apply rest
  obtain ⟨since, made, rfl⟩ := stands.status
  refine ⟨rfl, stands.msrs, since ++ [(field, outcome)], ?_, ?_⟩
  · rw [made, List.append_assoc]
  · rw [accumulated, accumulated, List.foldl_append]
    rfl

/-- A read of a register is the next of the script. -/
theorem ensures_msr_bind {msr : IntelMsr} {next : BitVec 64 → Code α}
    (stands : Stands prior base writes (msr :: msrs) status script)
    (rest : ∀ final, Stands prior base writes msrs status final →
      (next (cpu.msr msr.address)).Ensures (scripted cpu) Script.Follows final post) :
    (readMsr msr >>= next).Ensures (scripted cpu) Script.Follows script post := by
  have issued : script.Follows (.readMsr msr) := by simp [Script.Follows, stands.msrs]
  apply ensures_ask_bind issued
  intro response allowed
  obtain rfl : response = cpu.msr msr.address := allowed _ rfl
  apply rest
  refine ⟨stands.writes, ?_, stands.status⟩
  simp [scripted, Script.next, stands.msrs]

end Rules

variable (cpu : ProcessorState) (depth : ℕ)
  {prior : List (VmcsFieldEncoding × VmxOutcome)} {base status : NTSTATUS}
  {writes : FieldWrites} {msrs : List IntelMsr} {script : Script}

/-- The control word written for a request. -/
def controlValue (msr : IntelMsr) (requested : BitVec 32) : BitVec 32 :=
  (requested &&& (cpu.msr msr.address).extractLsb' 32 32) |||
    (cpu.msr msr.address).extractLsb' 0 32

/-- Whether the TRUE capability registers are consulted. -/
def consultsTrueMsrs : Bool := VmxBasicMsr.bit55 (cpu.msr IntelMsr.kIa32VmxBasic.address)

def controlsWrites : FieldWrites :=
  [put .kGuestVmcsLinkPtrFull (-1),
   put .kControlSecondaryProcessorVmExecutionControls
     ((controlValue cpu .kIa32VmxProcbasedCtls2 0).setWidth 64),
   put .kControlPinBasedVmExecutionControls
     ((controlValue cpu (if consultsTrueMsrs cpu then .kIa32VmxTruePinbasedCtls
       else .kIa32VmxPinbasedCtls) 0).setWidth 64),
   put .kControlPrimaryProcessorVmExecutionControls
     ((controlValue cpu (if consultsTrueMsrs cpu then .kIa32VmxTrueProcbasedCtls
       else .kIa32VmxProcbasedCtls) 0x80000000).setWidth 64),
   put .kControlExceptionBitmap 0,
   put .kControlVmExitControls
     ((controlValue cpu (if consultsTrueMsrs cpu then .kIa32VmxTrueExitCtls
       else .kIa32VmxExitCtls) 0x200).setWidth 64),
   put .kControlVmEntryControls
     ((controlValue cpu (if consultsTrueMsrs cpu then .kIa32VmxTrueEntryCtls
       else .kIa32VmxEntryCtls) 0x200).setWidth 64),
   put .kGuestActivityState 0,
   put .kGuestInterruptibilityState 0]

/-- The registers read for them. -/
def controlsMsrs : List IntelMsr :=
  [.kIa32VmxBasic, .kIa32VmxProcbasedCtls2,
   if consultsTrueMsrs cpu then .kIa32VmxTruePinbasedCtls else .kIa32VmxPinbasedCtls,
   if consultsTrueMsrs cpu then .kIa32VmxTrueProcbasedCtls else .kIa32VmxProcbasedCtls,
   if consultsTrueMsrs cpu then .kIa32VmxTrueExitCtls else .kIa32VmxExitCtls,
   if consultsTrueMsrs cpu then .kIa32VmxTrueEntryCtls else .kIa32VmxEntryCtls]

/-- A control word is computed from the register that comes next. -/
theorem ensures_modifyControlValue_bind {α : Type} {msr : IntelMsr} {requested : BitVec 32}
    {next : BitVec 32 → Code α} {post : α → Script → Prop}
    (stands : Stands prior base writes (msr :: msrs) status script)
    (rest : ∀ final, Stands prior base writes msrs status final →
      (next (controlValue cpu msr requested)).Ensures (scripted cpu) Script.Follows final post) :
    (modifyControlValue msr requested >>= next).Ensures (scripted cpu) Script.Follows script
      post := by
  rw [modifyControlValue, bind_assoc]
  exact ensures_msr_bind stands rest

theorem ensures_populateControls
    (stands : Stands prior base (controlsWrites cpu ++ writes) (controlsMsrs cpu ++ msrs) status
      script) :
    (populateControls depth status).Ensures (scripted cpu) Script.Follows script
      (Stands prior base writes msrs) := by
  refine ensures_msr_bind stands fun _ stands => ?_
  refine ensures_write_bind stands fun _ _ stands => ?_
  iterate 3
    refine ensures_modifyControlValue_bind cpu stands fun _ stands => ?_
    refine ensures_write_bind stands fun _ _ stands => ?_
  refine ensures_write_bind stands fun _ _ stands => ?_
  iterate 2
    refine ensures_modifyControlValue_bind cpu stands fun _ stands => ?_
    refine ensures_write_bind stands fun _ _ stands => ?_
  iterate 2 refine ensures_write_bind stands fun _ _ stands => ?_
  exact stands

/-- The access rights written for a selector. -/
def accessRightsWord (selector : BitVec 16) : BitVec 32 :=
  if selector ≠ 0 then cpu.accessRights selector >>> 8 else 0x10000

/-- The first eight bytes of the descriptor a selector names. -/
def descriptor (selector : BitVec 16) : GdtEntry :=
  cpu.memory.load64 (cpu.gdtr.base + (selector &&& ~~~kRplMask).setWidth 64)

/-- The doubleword after them. -/
def upperBase (selector : BitVec 16) : BitVec 32 :=
  cpu.memory.load32 (cpu.gdtr.base + (selector &&& ~~~kRplMask).setWidth 64 + 8)

/-- What `ReadGDTEntry` gives for a selector. -/
def gdtEntry (selector : BitVec 16) : VmxGdtEntry :=
  if selector &&& 3 = 1 then ⟨0, 0, 0⟩
  else if (descriptor cpu selector).system = 0 then
    ⟨cpu.segmentLimit selector,
      (descriptor cpu selector).lowBase ||| ((upperBase cpu selector).setWidth 64 <<< 32),
      accessRightsWord cpu selector⟩
  else
    ⟨cpu.segmentLimit selector, (descriptor cpu selector).lowBase, accessRightsWord cpu selector⟩

theorem ensures_readAccessRights (script : Script) (selector : BitVec 16) :
    (readAccessRights selector).Ensures (scripted cpu) Script.Follows script
      (Gives (accessRightsWord cpu selector) script) := by
  unfold readAccessRights accessRightsWord
  split
  · exact ensures_answer_bind _ rfl trivial rfl ⟨rfl, rfl⟩
  · exact ⟨rfl, rfl⟩

theorem ensures_readGDTEntry (script : Script) (selector : BitVec 16) :
    (readGDTEntry cpu.gdtr selector).Ensures (scripted cpu) Script.Follows script
      (Gives (gdtEntry cpu selector) script) := by
  unfold readGDTEntry gdtEntry
  split
  · exact ⟨rfl, rfl⟩
  · refine ensures_answer_bind _ rfl trivial rfl ?_
    refine ensures_gives_bind (ensures_readAccessRights cpu script selector) ?_
    refine ensures_answer_bind _ rfl trivial rfl ?_
    change Ensures _ _ (if (descriptor cpu selector).system = 0 then _ else _) _ _
    split
    · exact ensures_answer_bind _ rfl trivial rfl ⟨rfl, rfl⟩
    · exact ⟨rfl, rfl⟩

/-- The writes of a section for CS, SS, DS or ES. -/
def segmentWrites (fields : SegmentFields) (selector : BitVec 16) : FieldWrites :=
  [put fields.guestSelector (selector.setWidth 64),
   put fields.guestLimit ((gdtEntry cpu selector).limit.setWidth 64),
   put fields.guestAccessRights ((gdtEntry cpu selector).access.setWidth 64),
   put fields.guestBase (gdtEntry cpu selector).base,
   put fields.hostSelector ((selector &&& ~~~kRplMask).setWidth 64)]

theorem ensures_populateSegment (fields : SegmentFields) (selector : BitVec 16)
    (stands : Stands prior base (segmentWrites cpu fields selector ++ writes) msrs status script) :
    (populateSegment depth cpu.gdtr fields selector status).Ensures (scripted cpu) Script.Follows
      script (Stands prior base writes msrs) := by
  refine ensures_gives_bind (ensures_readGDTEntry cpu script selector) ?_
  iterate 5 refine ensures_write_bind stands fun _ _ stands => ?_
  exact stands

/-- The writes of a section for FS or TR. -/
def basedSegmentWrites (fields : SegmentFields) (hostBase : VmcsFieldEncoding)
    (selector : BitVec 16) : FieldWrites :=
  [put fields.guestSelector (selector.setWidth 64),
   put fields.guestLimit ((gdtEntry cpu selector).limit.setWidth 64),
   put fields.guestAccessRights ((gdtEntry cpu selector).access.setWidth 64),
   put fields.guestBase (gdtEntry cpu selector).base,
   put hostBase (gdtEntry cpu selector).base,
   put fields.hostSelector ((selector &&& ~~~kRplMask).setWidth 64)]

theorem ensures_populateBasedSegment (fields : SegmentFields) (hostBase : VmcsFieldEncoding)
    (selector : BitVec 16)
    (stands : Stands prior base (basedSegmentWrites cpu fields hostBase selector ++ writes) msrs
      status script) :
    (populateBasedSegment depth cpu.gdtr fields hostBase selector status).Ensures (scripted cpu)
      Script.Follows script (Stands prior base writes msrs) := by
  refine ensures_gives_bind (ensures_readGDTEntry cpu script selector) ?_
  iterate 6 refine ensures_write_bind stands fun _ _ stands => ?_
  exact stands

def gsWrites (selector : BitVec 16) : FieldWrites :=
  [put .kGuestGsSelector (selector.setWidth 64),
   put .kGuestGsLimit ((gdtEntry cpu selector).limit.setWidth 64),
   put .kGuestGsAccessRights ((gdtEntry cpu selector).access.setWidth 64),
   put .kGuestGsBase (cpu.msr IntelMsr.kIa32GsBase.address),
   put .kHostGsBase (cpu.msr IntelMsr.kIa32GsBase.address),
   put .kHostGsSelector ((selector &&& ~~~kRplMask).setWidth 64)]

def gsMsrs : List IntelMsr := [.kIa32GsBase, .kIa32GsBase]

theorem ensures_populateGs (selector : BitVec 16)
    (stands : Stands prior base (gsWrites cpu selector ++ writes) (gsMsrs ++ msrs) status script) :
    (populateGs depth cpu.gdtr selector status).Ensures (scripted cpu) Script.Follows script
      (Stands prior base writes msrs) := by
  refine ensures_gives_bind (ensures_readGDTEntry cpu script selector) ?_
  iterate 3 refine ensures_write_bind stands fun _ _ stands => ?_
  iterate 2
    refine ensures_msr_bind stands fun _ stands => ?_
    refine ensures_write_bind stands fun _ _ stands => ?_
  refine ensures_write_bind stands fun _ _ stands => ?_
  exact stands

def ldtrWrites (selector : BitVec 16) : FieldWrites :=
  [put .kGuestLdtrSelector (selector.setWidth 64),
   put .kGuestLdtrLimit ((gdtEntry cpu selector).limit.setWidth 64),
   put .kGuestLdtrAccessRights ((gdtEntry cpu selector).access.setWidth 64),
   put .kGuestLdtrBase (gdtEntry cpu selector).base]

theorem ensures_populateLdtr (selector : BitVec 16)
    (stands : Stands prior base (ldtrWrites cpu selector ++ writes) msrs status script) :
    (populateLdtr depth cpu.gdtr selector status).Ensures (scripted cpu) Script.Follows script
      (Stands prior base writes msrs) := by
  refine ensures_gives_bind (ensures_readGDTEntry cpu script selector) ?_
  iterate 4 refine ensures_write_bind stands fun _ _ stands => ?_
  exact stands

def descriptorTablesWrites : FieldWrites :=
  [put .kGuestGdtrLimit ((cpu.gdtr.limit.setWidth 32).setWidth 64),
   put .kGuestGdtrBase cpu.gdtr.base,
   put .kHostGdtrBase cpu.gdtr.base,
   put .kGuestIdtrLimit ((cpu.idtr.limit.setWidth 32).setWidth 64),
   put .kGuestIdtrBase cpu.idtr.base,
   put .kHostIdtrBase cpu.idtr.base]

theorem ensures_populateDescriptorTables
    (stands : Stands prior base (descriptorTablesWrites cpu ++ writes) msrs status script) :
    (populateDescriptorTables depth cpu.gdtr cpu.idtr status).Ensures (scripted cpu)
      Script.Follows script (Stands prior base writes msrs) := by
  iterate 6 refine ensures_write_bind stands fun _ _ stands => ?_
  exact stands

/-- The guest's CR0, within the fixed bits. -/
def guestCr0 : BitVec 64 :=
  (cpu.cr0 ||| cpu.msr IntelMsr.kIa32VmxCr0Fixed0.address) &&&
    cpu.msr IntelMsr.kIa32VmxCr0Fixed1.address

/-- The guest's CR4; its upper bound is read from the register for CR0. -/
def guestCr4 : BitVec 64 :=
  (cpu.cr4 ||| cpu.msr IntelMsr.kIa32VmxCr4Fixed0.address) &&&
    cpu.msr IntelMsr.kIa32VmxCr0Fixed1.address

def controlRegistersWrites : FieldWrites :=
  [put .kGuestCr0 (guestCr0 cpu),
   put .kHostCr0 cpu.cr0,
   put .kControlCr0Mask 0,
   put .kControlCr0ReadShadow (guestCr0 cpu),
   put .kGuestCr3 cpu.cr3,
   put .kHostCr3 cpu.cr3,
   put .kGuestCr4 (guestCr4 cpu),
   put .kHostCr4 cpu.cr4,
   put .kControlCr4Mask 0,
   put .kControlCr4ReadShadow (guestCr4 cpu),
   put .kGuestDr7 cpu.dr7]

def controlRegistersMsrs : List IntelMsr :=
  [.kIa32VmxCr0Fixed0, .kIa32VmxCr0Fixed1, .kIa32VmxCr4Fixed0, .kIa32VmxCr0Fixed1]

theorem ensures_populateControlRegisters
    (stands : Stands prior base (controlRegistersWrites cpu ++ writes)
      (controlRegistersMsrs ++ msrs) status script) :
    (populateControlRegisters depth status).Ensures (scripted cpu) Script.Follows script
      (Stands prior base writes msrs) := by
  refine ensures_answer_bind _ rfl trivial rfl ?_
  iterate 2 refine ensures_msr_bind stands fun _ stands => ?_
  iterate 2 refine ensures_answer_bind _ rfl trivial rfl ?_
  iterate 2 refine ensures_msr_bind stands fun _ stands => ?_
  refine ensures_write_bind stands fun _ _ stands => ?_
  refine ensures_answer_bind _ rfl trivial rfl ?_
  iterate 3 refine ensures_write_bind stands fun _ _ stands => ?_
  refine ensures_answer_bind _ rfl trivial rfl ?_
  iterate 3 refine ensures_write_bind stands fun _ _ stands => ?_
  refine ensures_answer_bind _ rfl trivial rfl ?_
  iterate 3 refine ensures_write_bind stands fun _ _ stands => ?_
  refine ensures_answer_bind _ rfl trivial rfl ?_
  refine ensures_write_bind stands fun _ _ stands => ?_
  exact stands

def contextsWrites : FieldWrites :=
  [put .kGuestRsp (cpu.arrays .guestStack + 4096 - 8),
   put .kGuestRip (cpu.symbols .guestCode),
   put .kGuestRFlags cpu.rflags,
   put .kHostRsp (cpu.arrays .hostStack + 4096 - 8),
   put .kHostRip (cpu.symbols .vmexitHandler)]

theorem ensures_populateContexts
    (stands : Stands prior base (contextsWrites cpu ++ writes) msrs status script) :
    (populateContexts depth status).Ensures (scripted cpu) Script.Follows script
      (Stands prior base writes msrs) := by
  iterate 3 refine ensures_answer_bind _ rfl trivial rfl ?_
  refine ensures_write_bind stands fun _ _ stands => ?_
  refine ensures_answer_bind _ rfl trivial rfl ?_
  iterate 3 refine ensures_write_bind stands fun _ _ stands => ?_
  refine ensures_answer_bind _ rfl trivial rfl ?_
  refine ensures_write_bind stands fun _ _ stands => ?_
  exact stands

def sysenterWrites : FieldWrites :=
  [put .kHostIa32SysenterCs
     (((cpu.msr IntelMsr.kIa32SysenterCs.address).setWidth 32).setWidth 64),
   put .kGuestIa32SysenterCs
     (((cpu.msr IntelMsr.kIa32SysenterCs.address).setWidth 32).setWidth 64),
   put .kGuestIa32SysenterEsp (cpu.msr IntelMsr.kIa32SysenterEsp.address),
   put .kGuestIa32SysenterEip (cpu.msr IntelMsr.kIa32SysenterEip.address),
   put .kHostIa32SysenterEsp (cpu.msr IntelMsr.kIa32SysenterEsp.address),
   put .kHostIa32SysenterEip (cpu.msr IntelMsr.kIa32SysenterEip.address)]

def sysenterMsrs : List IntelMsr := [.kIa32SysenterCs, .kIa32SysenterEsp, .kIa32SysenterEip]

theorem ensures_populateSysenter
    (stands : Stands prior base (sysenterWrites cpu ++ writes) (sysenterMsrs ++ msrs) status
      script) :
    (populateSysenter depth status).Ensures (scripted cpu) Script.Follows script
      (Stands prior base writes msrs) := by
  iterate 3 refine ensures_msr_bind stands fun _ stands => ?_
  iterate 6 refine ensures_write_bind stands fun _ _ stands => ?_
  exact stands

/-- All writes of the function. -/
def populateWrites : FieldWrites :=
  controlsWrites cpu ++ [put .kGuestPendingDebugExceptions 0] ++
    segmentWrites cpu csFields (cpu.selector .cs) ++
    segmentWrites cpu ssFields (cpu.selector .ss) ++
    segmentWrites cpu dsFields (cpu.selector .ds) ++
    segmentWrites cpu esFields (cpu.selector .es) ++
    basedSegmentWrites cpu fsFields .kHostFsBase (cpu.selector .fs) ++
    gsWrites cpu (cpu.selector .gs) ++
    basedSegmentWrites cpu trFields .kHostTrBase (cpu.selector .tr) ++
    ldtrWrites cpu (cpu.selector .ldtr) ++ descriptorTablesWrites cpu ++
    controlRegistersWrites cpu ++ contextsWrites cpu ++ sysenterWrites cpu

/-- The processor's state does not change which fields are written. -/
theorem keys_populateWrites (other : ProcessorState) :
    (populateWrites cpu).keys = (populateWrites other).keys := by
  simp only [WriteLog.keys, populateWrites, controlsWrites, segmentWrites, basedSegmentWrites,
    gsWrites, ldtrWrites, descriptorTablesWrites, controlRegistersWrites, contextsWrites,
    sysenterWrites, put, List.map_append, List.map_cons, List.map_nil]

/-- No field is written twice. -/
theorem nodup_keys_populateWrites : (populateWrites cpu).keys.Nodup := by
  rw [keys_populateWrites cpu default]
  decide +kernel

/-- All registers it reads. -/
def populateMsrs : List IntelMsr :=
  controlsMsrs cpu ++ gsMsrs ++ controlRegistersMsrs ++ sysenterMsrs

/-- The writes of a section are writes of the function. -/
theorem controlsWrites_subset : controlsWrites cpu ⊆ populateWrites cpu := by
  intro write member
  simp only [populateWrites, List.mem_append]
  tauto

theorem controlRegistersWrites_subset : controlRegistersWrites cpu ⊆ populateWrites cpu := by
  intro write member
  simp only [populateWrites, List.mem_append]
  tauto

variable {cpu} in
/-- A field that is written is written with one value. -/
theorem mem_populateWrites_iff_kept {field : VmcsFieldEncoding} {value : BitVec 64}
    (written : put field value ∈ populateWrites cpu) (other : BitVec 64) :
    (field, other) ∈ populateWrites cpu ↔ other = Vmcs.kept field value := by
  constructor
  · intro again
    exact WriteLog.value_unique (nodup_keys_populateWrites cpu) again written
  · rintro rfl
    exact written

variable {cpu} in
/-- A field of natural width is written with the whole of the value. -/
theorem mem_populateWrites_iff {field : VmcsFieldEncoding} {value : BitVec 64}
    (width : fieldBits field.encoding = 64) (written : put field value ∈ populateWrites cpu)
    (other : BitVec 64) : (field, other) ∈ populateWrites cpu ↔ other = value := by
  rw [mem_populateWrites_iff_kept written, Vmcs.kept_of_natural width]

/-- Dumping the guest area is not in the script. -/
theorem ensures_dumpVmcsGuestArea (script : Script) :
    (dumpVmcsGuestArea depth).Ensures (scripted cpu) Script.Follows script (Gives () script) :=
  ((confined_dumpVmcsGuestArea depth).ensures passes_fieldDump).mono fun _ _ kept => ⟨rfl, kept.2⟩

/-- Selectors and descriptor-table registers are those of the processor. -/
theorem ensures_loadSegmentSelectors (script : Script) :
    loadSegmentSelectors.Ensures (scripted cpu) Script.Follows script
      (Gives ⟨cpu.selector .es, cpu.selector .cs, cpu.selector .ss, cpu.selector .ds,
        cpu.selector .fs, cpu.selector .gs, cpu.selector .ldtr, cpu.selector .tr⟩ script) := by
  iterate 8 refine ensures_answer_bind _ rfl trivial rfl ?_
  exact ⟨rfl, rfl⟩

/-- The end of the script: everything was written, and the status returned is that of the writes
from the pending debug exceptions on. -/
structure Ended (status : NTSTATUS) (final : Script) : Prop where
  writes : final.writes = []
  status : ∃ early outcome later,
    final.made = early ++ (.kGuestPendingDebugExceptions, outcome) :: later ∧
      status = accumulated (writeStatus outcome) later

/-- The whole function follows its script. -/
theorem ensures_populateActiveVMCS :
    (populateActiveVMCS depth).Ensures (scripted cpu) Script.Follows
      ⟨populateWrites cpu, populateMsrs cpu, []⟩ Ended := by
  rw [← List.append_nil (populateWrites cpu), ← List.append_nil (populateMsrs cpu)]
  simp only [populateWrites, populateMsrs, List.append_assoc]
  apply ensures_call trivial
  change Ensures _ _ _ (⟨_, _, _⟩ : Script) _
  refine (ensures_populateControls cpu depth (.here _ _ _ _)).bind
    fun _ controlled stands => ?_
  -- The status is assigned here, and accumulated from here on.
  refine ensures_writeVMCSField64_bind stands.writes fun outcome => ?_
  rw [stands.msrs]
  refine ensures_gives_bind (ensures_loadSegmentSelectors cpu _) ?_
  iterate 2 refine ensures_answer_bind _ rfl trivial rfl ?_
  refine (ensures_populateSegment cpu depth _ _ (.here _ _ _ _)).bind fun _ _ stands => ?_
  iterate 3 refine (ensures_populateSegment cpu depth _ _ stands).bind fun _ _ stands => ?_
  refine (ensures_populateBasedSegment cpu depth _ _ _ stands).bind fun _ _ stands => ?_
  refine (ensures_populateGs cpu depth _ stands).bind fun _ _ stands => ?_
  refine (ensures_populateBasedSegment cpu depth _ _ _ stands).bind fun _ _ stands => ?_
  refine (ensures_populateLdtr cpu depth _ stands).bind fun _ _ stands => ?_
  refine (ensures_populateDescriptorTables cpu depth stands).bind fun _ _ stands => ?_
  refine (ensures_populateControlRegisters cpu depth stands).bind fun _ _ stands => ?_
  refine (ensures_populateContexts cpu depth stands).bind fun _ _ stands => ?_
  refine (ensures_populateSysenter cpu depth stands).bind fun _ _ stands => ?_
  refine ensures_gives_bind (ensures_dumpVmcsGuestArea cpu depth _) ⟨trivial, ?_⟩
  obtain ⟨later, made, status⟩ := stands.status
  rw [List.append_assoc, List.singleton_append] at made
  exact ⟨stands.writes, controlled.made, outcome, later, made, status⟩

/-- The write an event makes. -/
def writtenBy : Event interface → Option (VmcsFieldEncoding × BitVec 64)
  | ⟨.vmwrite field value, _⟩ => some (put field value)
  | _ => none

/-- The register an event reads. -/
def readBy : Event interface → Option IntelMsr
  | ⟨.readMsr msr, _⟩ => some msr
  | _ => none

/-- The field an event writes, with the outcome. -/
def madeBy : Event interface → Option (VmcsFieldEncoding × VmxOutcome)
  | ⟨.vmwrite field _, outcome⟩ => some (field, outcome)
  | _ => none

/-- The writes of a run, the registers it reads, and the outcomes of its writes. -/
def writesOf (events : List (Event interface)) : FieldWrites := events.filterMap writtenBy
def msrsOf (events : List (Event interface)) : List IntelMsr := events.filterMap readBy
def madeOf (events : List (Event interface)) : List (VmcsFieldEncoding × VmxOutcome) :=
  events.filterMap madeBy

/-- One step along a script. -/
private theorem Script.follows_next {script : Script} {op : Op} (follows : script.Follows op)
    (response : op.Response) :
    writesOf [⟨op, response⟩] ++ (script.next op response).writes = script.writes ∧
      msrsOf [⟨op, response⟩] ++ (script.next op response).msrs = script.msrs ∧
      (script.next op response).made = script.made ++ madeOf [⟨op, response⟩] := by
  cases op with
  | readMsr msr => exact ⟨rfl, List.cons_head?_tail follows, (List.append_nil _).symm⟩
  | vmwrite field value => exact ⟨List.cons_head?_tail follows, rfl, rfl⟩
  | _ => exact ⟨rfl, rfl, (List.append_nil _).symm⟩

/-- A run keeps to its script. -/
theorem followed {α : Type} {cpu : ProcessorState} {program rest : Code α}
    {events : List (Event interface)} {before after : Unit} {start : Script}
    {post : α → Script → Prop}
    (ensured : program.Ensures (scripted cpu) Script.Follows start post)
    (path : Path cpu.running program before events rest after) :
    ∃ final, rest.Ensures (scripted cpu) Script.Follows final post ∧
      writesOf events ++ final.writes = start.writes ∧ msrsOf events ++ final.msrs = start.msrs ∧
      final.made = start.made ++ madeOf events := by
  induction path generalizing start with
  | nil => exact ⟨start, ensured, rfl, rfl, (List.append_nil _).symm⟩
  | @cons op _ _ _ events _ response allowed _ ih =>
    obtain ⟨final, later, writes, msrs, made⟩ := ih (ensured.2 response allowed)
    obtain ⟨written, read, attempted⟩ := Script.follows_next ensured.1 response
    change writesOf events ++ _ = (start.next op response).writes at writes
    change msrsOf events ++ _ = (start.next op response).msrs at msrs
    change final.made = (start.next op response).made ++ madeOf events at made
    have split : ∀ {β : Type} (f : Event interface → Option β),
        (⟨op, response⟩ :: events).filterMap f =
        [⟨op, response⟩].filterMap f ++ events.filterMap f :=
      fun _ => List.filterMap_append (l := [_])
    refine ⟨final, later, ?_, ?_, ?_⟩
    · rw [writesOf, split, List.append_assoc, ← written, ← writes]
      rfl
    · rw [msrsOf, split, List.append_assoc, ← read, ← msrs]
      rfl
    · rw [madeOf, split, ← List.append_assoc, made, attempted]
      rfl

/-- What becomes of the fields in a run whose writes succeed. -/
theorem replayed {α : Type} {cpu : ProcessorState} {program rest : Code α}
    {events : List (Event interface)} {start final : Vmcs}
    (path : Path cpu.populating program start events rest final) :
    Path cpu.running program () events rest () ∧ final.read = (writesOf events).replay start.read ∧
      ∀ made ∈ madeOf events, made.2 = .succeed := by
  induction path with
  | nil => exact ⟨.nil _ _, rfl, by simp [madeOf]⟩
  | @cons op _ vmcs _ events _ response allowed _ ih =>
    obtain ⟨running, read, succeeded⟩ := ih
    have step : cpu.running.allows () op response := fun expected given =>
      allowed.2 expected (ProcessorState.answer_of_reading given)
    refine ⟨.cons response step running, ?_, ?_⟩
    · rw [read]
      cases op with
      | vmwrite field value =>
        obtain rfl : response = VmxOutcome.succeed := allowed.2 _ rfl
        exact congrArg (writesOf events).replay (vmcs.read_write field value)
      | _ => rfl
    · cases op with
      | vmwrite field value =>
        obtain rfl : response = VmxOutcome.succeed := allowed.2 _ rfl
        simpa [madeOf, madeBy] using succeeded
      | _ => exact succeeded

theorem writeStatus_eq_success_iff (outcome : VmxOutcome) :
    writeStatus outcome = statusSuccess ↔ outcome = .succeed := by
  cases outcome <;> decide

/-- A status is a success when it was one and every write since has succeeded. -/
theorem accumulated_eq_success_iff (base : NTSTATUS)
    (made : List (VmcsFieldEncoding × VmxOutcome)) :
    accumulated base made = statusSuccess ↔
      base = statusSuccess ∧ ∀ write ∈ made, write.2 = .succeed := by
  induction made generalizing base with
  | nil => simp [accumulated]
  | cons write rest ih =>
    change accumulated (base ||| writeStatus write.2) rest = statusSuccess ↔ _
    rw [ih, List.forall_mem_cons, ← and_assoc, ← writeStatus_eq_success_iff]
    simp [statusSuccess, BitVec.or_eq_zero_iff]

/-- At every point of a run, what it has written and read is how its script begins. -/
theorem prefix_of_path {cpu : ProcessorState} {depth : ℕ} {events : List (Event interface)}
    {rest : Code NTSTATUS}
    (path : Path cpu.running (populateActiveVMCS depth) () events rest ()) :
    writesOf events <+: populateWrites cpu ∧ msrsOf events <+: populateMsrs cpu := by
  obtain ⟨final, -, writes, msrs, -⟩ := followed (ensures_populateActiveVMCS cpu depth) path
  exact ⟨⟨final.writes, writes⟩, ⟨final.msrs, msrs⟩⟩

/-- A write or a read of a register is one of the script's wherever it is issued. -/
theorem scheduled_of_path {cpu : ProcessorState} {depth : ℕ} {events : List (Event interface)}
    {rest : Code NTSTATUS} {op : Op}
    (path : Path cpu.running (populateActiveVMCS depth) () events rest ())
    (issued : rest.head? = some op) :
    (∀ msr, op = .readMsr msr → msr ∈ populateMsrs cpu) ∧
      ∀ field value, op = .vmwrite field value → put field value ∈ populateWrites cpu := by
  obtain ⟨final, ensured, writes, msrs, -⟩ := followed (ensures_populateActiveVMCS cpu depth) path
  have follows : final.Follows op := ensured.legal_of_path (.nil _ _) issued
  constructor
  · rintro msr rfl
    have left : msr ∈ final.msrs := List.mem_of_mem_head? follows
    rw [← show msrsOf events ++ final.msrs = populateMsrs cpu from msrs]
    exact List.mem_append_right _ left
  · rintro field value rfl
    have left : put field value ∈ final.writes := List.mem_of_mem_head? follows
    rw [← show writesOf events ++ final.writes = populateWrites cpu from writes]
    exact List.mem_append_right _ left

/-- A finished run makes all writes, and returns the status of the writes
from the pending debug exceptions on. -/
theorem ended_of_path {cpu : ProcessorState} {depth : ℕ} {events : List (Event interface)}
    {status : NTSTATUS}
    (path : Path cpu.running (populateActiveVMCS depth) () events (.done status) ()) :
    writesOf events = populateWrites cpu ∧ ∃ early outcome later,
      madeOf events = early ++ (.kGuestPendingDebugExceptions, outcome) :: later ∧
        status = accumulated (writeStatus outcome) later := by
  obtain ⟨final, ended, writes, -, made⟩ := followed (ensures_populateActiveVMCS cpu depth) path
  replace ended : Ended status final := ended
  rw [ended.writes, List.append_nil] at writes
  rw [List.nil_append] at made
  rw [← made]
  exact ⟨writes, ended.status⟩

/-- A run writes one value to a field. -/
def WritesOne (events : List (Event interface)) (field : VmcsFieldEncoding) (value : BitVec 64) :
    Prop := ∀ other, (field, other) ∈ writesOf events ↔ other = value

/-- The value written is unique, at the width it was computed at. -/
theorem WritesOne.unique {events : List (Event interface)} {field : VmcsFieldEncoding} {w : ℕ}
    {first second : BitVec w} (narrow : w ≤ 64) (writes : WritesOne events field (first.setWidth 64))
    (again : WritesOne events field (second.setWidth 64)) : first = second := by
  have same : first.setWidth 64 = second.setWidth 64 := (again _).mp ((writes _).mpr rfl)
  have narrowed := congrArg (BitVec.setWidth w) same
  rwa [BitVec.setWidth_setWidth_of_le _ narrow, BitVec.setWidth_eq,
    BitVec.setWidth_setWidth_of_le _ narrow, BitVec.setWidth_eq] at narrowed

/-- A finished run writes what its script says, where the field takes the whole of the value. -/
theorem writesOne_of_path {cpu : ProcessorState} {depth : ℕ} {events : List (Event interface)}
    {status : NTSTATUS} {w : ℕ} {field : VmcsFieldEncoding} {value : BitVec w}
    (path : Path cpu.running (populateActiveVMCS depth) () events (.done status) ())
    (fits : w ≤ fieldBits field.encoding)
    (written : put field (value.setWidth 64) ∈ populateWrites cpu) :
    WritesOne events field (value.setWidth 64) := by
  intro other
  rw [(ended_of_path path).1, mem_populateWrites_iff_kept written, Vmcs.kept_of_fits fits]

/-- After a finished run each field holds the last value written to it, or what it held. -/
theorem performed_of_path {cpu : ProcessorState} {depth : ℕ} {start final : Vmcs}
    {events : List (Event interface)} {status : NTSTATUS}
    (path : Path cpu.populating (populateActiveVMCS depth) start events (.done status) final) :
    Performed (populateWrites cpu) start status final := by
  obtain ⟨running, read, succeeded⟩ := replayed path
  obtain ⟨writes, early, outcome, later, split, rfl⟩ := ended_of_path running
  rw [split, List.forall_mem_append, List.forall_mem_cons] at succeeded
  rw [← writes]
  refine ⟨?_, read⟩
  rw [accumulated_eq_success_iff, writeStatus_eq_success_iff]
  exact succeeded.2

/-- What a field holds after a finished run that writes it. -/
theorem read_of_path {cpu : ProcessorState} {depth : ℕ} {start final : Vmcs}
    {events : List (Event interface)} {status : NTSTATUS} {field : VmcsFieldEncoding}
    {value : BitVec 64}
    (path : Path cpu.populating (populateActiveVMCS depth) start events (.done status) final)
    (written : put field value ∈ populateWrites cpu) :
    final.read field = Vmcs.kept field value := by
  rw [(performed_of_path path).2]
  exact WriteLog.replay_of_mem (nodup_keys_populateWrites cpu) written _

/-- A run in which every `VMREAD` succeeds. -/
def populateRun (cpu : ProcessorState) (start : Vmcs) :
    List (Event interface) × Code NTSTATUS × Vmcs :=
  drive cpu.populating cpu.respond 400 (populateActiveVMCS 2) start

theorem path_populateRun {cpu : ProcessorState} {start : Vmcs}
    (finished : (populateRun cpu start).2.1.head? = none) :
    ∃ status, Path cpu.populating (populateActiveVMCS 2) start (populateRun cpu start).1
      (.done status) (populateRun cpu start).2.2 :=
  drive_path_done cpu.allows_of_respond finished

/-- The same run, when the contents of the VMCS are left open. -/
theorem path_running_populateRun {cpu : ProcessorState} {start : Vmcs}
    (finished : (populateRun cpu start).2.1.head? = none) :
    ∃ status, Path cpu.running (populateActiveVMCS 2) () (populateRun cpu start).1
      (.done status) () := by
  obtain ⟨status, path⟩ := path_populateRun finished
  exact ⟨status, (replayed path).1⟩

end Guypervisor.Soundness.Population
