import Guypervisor.Effects.Observation
import Guypervisor.Proofs.Life
import Guypervisor.Soundness.FailureReporting

/-! # The VMX instructions a request executes

No stage recognises the failure of an instruction, so what a request executes hardly depends on how
its instructions end: it is one session, from `VMXON` to `VMXOFF`. Over any number of lives of the
driver the VMX instructions are such sessions, one after another, and the guest is entered at the
end of the first half of one.
-/

namespace Guypervisor.Soundness.RequestTrace

open Effects Effects.Program Model Code DriverCode Proofs

/-- What is told of a request: that it begins, and its VMX instructions with how they end; `VMREAD`
is left out. -/
inductive Instruction
  | request
  | vmxon (outcome : VmxOutcome) | vmxoff
  | vmclear (outcome : VmxOutcome) | vmptrld (outcome : VmxOutcome)
  | vmptrst (outcome : VmxOutcome) (stored : Address)
  | vmwrite (field : VmcsFieldEncoding) | vmlaunch (outcome : VmxOutcome)
deriving DecidableEq, Repr

def instruction : Event interface → Option Instruction
  | ⟨.enter .enterVmxHandler, _⟩ => some .request
  | ⟨.vmxon _, outcome⟩ => some (.vmxon outcome)
  | ⟨.vmxoff, _⟩ => some .vmxoff
  | ⟨.vmclear _, outcome⟩ => some (.vmclear outcome)
  | ⟨.vmptrld _, outcome⟩ => some (.vmptrld outcome)
  | ⟨.vmptrst, (outcome, stored)⟩ => some (.vmptrst outcome stored)
  | ⟨.vmwrite field _, _⟩ => some (.vmwrite field)
  | ⟨.vmlaunch, outcome⟩ => some (.vmlaunch outcome)
  | _ => none

section Fields

def controlFields : List VmcsFieldEncoding :=
  [.kGuestVmcsLinkPtrFull, .kControlSecondaryProcessorVmExecutionControls,
    .kControlPinBasedVmExecutionControls, .kControlPrimaryProcessorVmExecutionControls,
    .kControlExceptionBitmap, .kControlVmExitControls, .kControlVmEntryControls,
    .kGuestActivityState, .kGuestInterruptibilityState]

def segmentFields (fields : SegmentFields) : List VmcsFieldEncoding :=
  [fields.guestSelector, fields.guestLimit, fields.guestAccessRights, fields.guestBase,
    fields.hostSelector]

def basedSegmentFields (fields : SegmentFields) (hostBase : VmcsFieldEncoding) :
    List VmcsFieldEncoding :=
  [fields.guestSelector, fields.guestLimit, fields.guestAccessRights, fields.guestBase, hostBase,
    fields.hostSelector]

def gsFields : List VmcsFieldEncoding :=
  [.kGuestGsSelector, .kGuestGsLimit, .kGuestGsAccessRights, .kGuestGsBase, .kHostGsBase,
    .kHostGsSelector]

def ldtrFields : List VmcsFieldEncoding :=
  [.kGuestLdtrSelector, .kGuestLdtrLimit, .kGuestLdtrAccessRights, .kGuestLdtrBase]

def descriptorTableFields : List VmcsFieldEncoding :=
  [.kGuestGdtrLimit, .kGuestGdtrBase, .kHostGdtrBase, .kGuestIdtrLimit, .kGuestIdtrBase,
    .kHostIdtrBase]

def controlRegisterFields : List VmcsFieldEncoding :=
  [.kGuestCr0, .kHostCr0, .kControlCr0Mask, .kControlCr0ReadShadow, .kGuestCr3, .kHostCr3,
    .kGuestCr4, .kHostCr4, .kControlCr4Mask, .kControlCr4ReadShadow, .kGuestDr7]

def contextFields : List VmcsFieldEncoding :=
  [.kGuestRsp, .kGuestRip, .kGuestRFlags, .kHostRsp, .kHostRip]

def sysenterFields : List VmcsFieldEncoding :=
  [.kHostIa32SysenterCs, .kGuestIa32SysenterCs, .kGuestIa32SysenterEsp, .kGuestIa32SysenterEip,
    .kHostIa32SysenterEsp, .kHostIa32SysenterEip]

/-- What `PopulateActiveVMCS` writes, in order. -/
def populateFields : List VmcsFieldEncoding :=
  controlFields ++ [.kGuestPendingDebugExceptions] ++ segmentFields csFields ++
    segmentFields ssFields ++ segmentFields dsFields ++ segmentFields esFields ++
    basedSegmentFields fsFields .kHostFsBase ++ gsFields ++
    basedSegmentFields trFields .kHostTrBase ++ ldtrFields ++ descriptorTableFields ++
    controlRegisterFields ++ contextFields ++ sysenterFields

/-- `VMWRITE` takes a field whatever the processor: the access type is full, the field is no
VM-exit information, and no reserved bit of the encoding is set. -/
structure Writable (field : VmcsFieldEncoding) : Prop where
  full : field.encoding.getLsbD 0 = false
  type : field.encoding.extractLsb' 10 2 ≠ 1
  reserved : field.encoding.getLsbD 12 = false ∧ field.encoding.extractLsb' 15 17 = 0

instance (field : VmcsFieldEncoding) : Decidable (Writable field) :=
  decidable_of_iff (field.encoding.getLsbD 0 = false ∧ field.encoding.extractLsb' 10 2 ≠ 1 ∧
    field.encoding.getLsbD 12 = false ∧ field.encoding.extractLsb' 15 17 = 0)
    ⟨fun ⟨full, type, reserved⟩ => ⟨full, type, reserved⟩,
      fun writable => ⟨writable.full, writable.type, writable.reserved⟩⟩

/-- No field is written twice. -/
theorem nodup_populateFields : populateFields.Nodup := by decide +kernel

end Fields

/-- How the instructions of one request end. -/
structure Session where
  entered : VmxOutcome
  cleared : VmxOutcome
  loaded : VmxOutcome
  launched : VmxOutcome
  stored : VmxOutcome × Address
  ended : VmxOutcome
deriving DecidableEq, Repr

namespace Session

variable (session : Session)

/-- The first half, up to `VMLAUNCH`: `VMPTRLD` is executed if `VMCLEAR` succeeds. -/
def entry : List Instruction :=
  [.request, .vmxon session.entered, .vmclear session.cleared] ++
    (if session.cleared = .succeed then [.vmptrld session.loaded] else []) ++
    populateFields.map .vmwrite ++ [.vmlaunch session.launched]

/-- The second half: `VMCLEAR` is left out if `VMPTRST` says that no VMCS is current. -/
def exit : List Instruction :=
  [.vmptrst session.stored.1 session.stored.2] ++
    (if session.stored.1 = .succeed ∧ session.stored.2 = -1 then []
      else [.vmclear session.ended]) ++ [.vmxoff]

/-- All of it. -/
def instructions : List Instruction := session.entry ++ session.exit

end Session

/-- Requests that returned: whole sessions, in each of which `VMLAUNCH` failed. -/
def Returned (seen : List Instruction) : Prop :=
  ∃ sessions : List Session, (∀ session ∈ sessions, session.launched ≠ .succeed) ∧
    seen = sessions.flatMap Session.instructions

theorem Returned.nil : Returned [] := ⟨[], fun _ member => absurd member List.not_mem_nil, rfl⟩

/-- Another session after them. -/
theorem Returned.concat {seen : List Instruction} (returned : Returned seen) {session : Session}
    (failed : session.launched ≠ .succeed) : Returned (seen ++ session.instructions) := by
  obtain ⟨sessions, earlier, rfl⟩ := returned
  refine ⟨sessions ++ [session], ?_, by simp⟩
  intro other member
  rcases List.mem_append.mp member with before | last
  · exact earlier other before
  · rwa [List.mem_singleton.mp last]

/-- The guest is entered after the first half of a session whose `VMLAUNCH` succeeded. -/
def Launches (seen : List Instruction) : Prop :=
  ∃ (before : List Instruction) (session : Session),
    Returned before ∧ session.launched = .succeed ∧ seen = before ++ session.entry

variable {σ : Type} {state : σ × List Instruction} {seen : List Instruction}

/-- What may be issued: writes of fields that can be written, and the entry of the guest. -/
def Allowed (state : σ × List Instruction) : Op → Prop
  | .vmwrite field _ => Writable field
  | .guest => Launches state.2
  | _ => True

section Code

variable {α : Type} {env : Environment interface σ} {post : α → σ × List Instruction → Prop}
  {depth : ℕ}

/-- A run, with the instructions so far. -/
private abbrev observed (env : Environment interface σ) :
    Environment interface (σ × List Instruction) := env.observing instruction

/-- Executing no VMX instruction but `VMREAD`. -/
def IsQuiet : Op → Prop
  | .vmxon _ | .vmxoff | .vmclear _ | .vmptrld _ | .vmptrst => False
  | .vmwrite _ _ | .vmlaunch | .vmresume | .guest => False
  | .enter routine => routine ≠ .enterVmxHandler
  | _ => True

theorem IsQuiet.silent {op : Op} (quiet : IsQuiet op) : Silent instruction op := by
  intro response
  cases op with
  | enter routine => cases routine <;> first | rfl | exact absurd rfl quiet
  | _ => first | rfl | exact quiet.elim

theorem IsQuiet.allowed {op : Op} (quiet : IsQuiet op) (state : σ × List Instruction) :
    Allowed state op := by
  cases op <;> trivial

/-- Quiet code is not told of. -/
theorem ensures_quiet {program : Code α} {results : α → Prop}
    (confined : program.Confined IsQuiet results) (sees : Seen seen state) :
    program.Ensures (env.observing instruction) Allowed state fun result final =>
      results result ∧ Seen seen final :=
  confined.keeps (fun state _ quiet _ => IsQuiet.allowed quiet state)
    (fun _ _ response quiet sees _ => sees.next quiet.silent response) sees

private theorem ensures_quiet_bind {β : Type} {program : Code β} {next : β → Code α}
    {results : β → Prop} (confined : program.Confined IsQuiet results) (sees : Seen seen state)
    (rest : ∀ result between, Seen seen between →
      (next result).Ensures (observed env) Allowed between post) :
    (program >>= next).Ensures (observed env) Allowed state post := by
  apply (ensures_quiet confined sees).bind
  rintro result between ⟨-, sees⟩
  exact rest result between sees

private theorem ensures_quietAsk_bind {op : Op} {next : op.Response → Code α} (quiet : IsQuiet op)
    (sees : Seen seen state)
    (rest : ∀ response between, Seen seen between →
      (next response).Ensures (observed env) Allowed between post) :
    (ask op >>= next).Ensures (observed env) Allowed state post :=
  ensures_ask_bind (quiet.allowed state) fun response _ =>
    rest response _ (sees.next quiet.silent response)

/-- An instruction that is told of. -/
private theorem ensures_told_bind {op : Op} {next : op.Response → Code α} (issued : Allowed state op)
    (word : op.Response → Instruction)
    (told : ∀ response, instruction ⟨op, response⟩ = some (word response))
    (sees : Seen seen state)
    (rest : ∀ response between, Seen (seen ++ [word response]) between →
      (next response).Ensures (observed env) Allowed between post) :
    (ask op >>= next).Ensures (observed env) Allowed state post :=
  ensures_ask_bind issued fun response _ => rest response _ (sees.observed (told response))

theorem confined_isQuiet_printVMXError (depth : ℕ) :
    (printVMXError depth).Confined IsQuiet fun _ => True := by
  apply (confined_printVMXError depth).mono
  · intro op read
    cases op <;> trivial
  · exact fun _ _ => trivial

private theorem ensures_write_bind {field : VmcsFieldEncoding} {value : BitVec 64}
    {next : NTSTATUS → Code α} (writable : Writable field) (sees : Seen seen state)
    (rest : ∀ status between, Seen (seen ++ [.vmwrite field]) between →
      (next status).Ensures (observed env) Allowed between post) :
    (writeVMCSField64 depth field value >>= next).Ensures (observed env) Allowed state post := by
  rw [writeVMCSField64, bind_assoc]
  refine ensures_told_bind writable (fun _ => .vmwrite field) (fun _ => rfl) sees ?_
  intro outcome between sees
  cases outcome with
  | succeed => exact rest _ _ sees
  | failInvalid | failValid =>
    change Ensures _ _ ((do let _ ← printVMXError depth; return statusFailedVmwrite) >>= next) _ _
    rw [bind_assoc]
    apply ensures_quiet_bind (confined_isQuiet_printVMXError depth) sees
    exact fun _ between sees => rest _ between sees

/-- Some fields were written, whatever was returned. -/
private abbrev Wrote (fields : List VmcsFieldEncoding) (seen : List Instruction) (_ : NTSTATUS)
    (final : σ × List Instruction) : Prop := Seen (seen ++ fields.map .vmwrite) final

private theorem quiet_readGDTEntry (gdt : DescriptorTableRegister) (selector : BitVec 16) :
    (readGDTEntry gdt selector).Confined IsQuiet fun _ => True := by
  have rights : (readAccessRights selector).Confined IsQuiet fun _ => True := by
    unfold readAccessRights
    split
    · exact confined_ask_bind trivial fun _ => trivial
    · trivial
  unfold readGDTEntry
  split
  · trivial
  · refine confined_ask_bind trivial fun limit => ?_
    refine rights.bind fun access _ => ?_
    refine confined_ask_bind trivial fun entry => ?_
    dsimp only
    split
    · exact confined_ask_bind trivial fun _ => trivial
    · trivial

section Sections

variable (depth) (status : NTSTATUS) (sees : Seen seen state)
include sees

private theorem ensures_populateControls :
    (populateControls depth status).Ensures (observed env) Allowed state
      (Wrote controlFields seen) := by
  refine ensures_quietAsk_bind trivial sees fun _ _ sees => ?_
  refine ensures_write_bind (by decide) sees fun _ _ sees => ?_
  have control {msr : IntelMsr} {requested : BitVec 32} :
      (modifyControlValue msr requested).Confined IsQuiet fun _ => True :=
    confined_ask_bind trivial fun _ => trivial
  iterate 3
    refine ensures_quiet_bind control sees fun _ _ sees => ?_
    refine ensures_write_bind (by decide) sees fun _ _ sees => ?_
  refine ensures_write_bind (by decide) sees fun _ _ sees => ?_
  iterate 2
    refine ensures_quiet_bind control sees fun _ _ sees => ?_
    refine ensures_write_bind (by decide) sees fun _ _ sees => ?_
  iterate 2 refine ensures_write_bind (by decide) sees fun _ _ sees => ?_
  change Seen (seen ++ controlFields.map .vmwrite) _
  simpa [controlFields] using sees

private theorem ensures_populateSegment {gdtr : DescriptorTableRegister} {fields : SegmentFields}
    {selector : BitVec 16} (writable : ∀ field ∈ segmentFields fields, Writable field) :
    (populateSegment depth gdtr fields selector status).Ensures (observed env) Allowed state
      (Wrote (segmentFields fields) seen) := by
  refine ensures_quiet_bind (quiet_readGDTEntry _ _) sees fun _ _ sees => ?_
  iterate 5
    refine ensures_write_bind (writable _ (by simp [segmentFields])) sees fun _ _ sees => ?_
  change Seen (seen ++ (segmentFields fields).map .vmwrite) _
  simpa [segmentFields] using sees

private theorem ensures_populateBasedSegment {gdtr : DescriptorTableRegister} {fields : SegmentFields}
    {hostBase : VmcsFieldEncoding} {selector : BitVec 16}
    (writable : ∀ field ∈ basedSegmentFields fields hostBase, Writable field) :
    (populateBasedSegment depth gdtr fields hostBase selector status).Ensures (observed env) Allowed state
      (Wrote (basedSegmentFields fields hostBase) seen) := by
  refine ensures_quiet_bind (quiet_readGDTEntry _ _) sees fun _ _ sees => ?_
  iterate 6
    refine ensures_write_bind (writable _ (by simp [basedSegmentFields])) sees fun _ _ sees => ?_
  change Seen (seen ++ (basedSegmentFields fields hostBase).map .vmwrite) _
  simpa [basedSegmentFields] using sees

private theorem ensures_populateGs {gdtr : DescriptorTableRegister} {selector : BitVec 16} :
    (populateGs depth gdtr selector status).Ensures (observed env) Allowed state
      (Wrote gsFields seen) := by
  refine ensures_quiet_bind (quiet_readGDTEntry _ _) sees fun _ _ sees => ?_
  iterate 3 refine ensures_write_bind (by decide) sees fun _ _ sees => ?_
  iterate 2
    refine ensures_quietAsk_bind trivial sees fun _ _ sees => ?_
    refine ensures_write_bind (by decide) sees fun _ _ sees => ?_
  refine ensures_write_bind (by decide) sees fun _ _ sees => ?_
  change Seen (seen ++ gsFields.map .vmwrite) _
  simpa [gsFields] using sees

private theorem ensures_populateLdtr {gdtr : DescriptorTableRegister} {selector : BitVec 16} :
    (populateLdtr depth gdtr selector status).Ensures (observed env) Allowed state
      (Wrote ldtrFields seen) := by
  refine ensures_quiet_bind (quiet_readGDTEntry _ _) sees fun _ _ sees => ?_
  iterate 4 refine ensures_write_bind (by decide) sees fun _ _ sees => ?_
  change Seen (seen ++ ldtrFields.map .vmwrite) _
  simpa [ldtrFields] using sees

private theorem ensures_populateDescriptorTables {gdtr idtr : DescriptorTableRegister} :
    (populateDescriptorTables depth gdtr idtr status).Ensures (observed env) Allowed state
      (Wrote descriptorTableFields seen) := by
  iterate 6 refine ensures_write_bind (by decide) sees fun _ _ sees => ?_
  change Seen (seen ++ descriptorTableFields.map .vmwrite) _
  simpa [descriptorTableFields] using sees

private theorem ensures_populateControlRegisters :
    (populateControlRegisters depth status).Ensures (observed env) Allowed state
      (Wrote controlRegisterFields seen) := by
  iterate 7 refine ensures_quietAsk_bind trivial sees fun _ _ sees => ?_
  refine ensures_write_bind (by decide) sees fun _ _ sees => ?_
  refine ensures_quietAsk_bind trivial sees fun _ _ sees => ?_
  iterate 3 refine ensures_write_bind (by decide) sees fun _ _ sees => ?_
  refine ensures_quietAsk_bind trivial sees fun _ _ sees => ?_
  iterate 3 refine ensures_write_bind (by decide) sees fun _ _ sees => ?_
  refine ensures_quietAsk_bind trivial sees fun _ _ sees => ?_
  iterate 3 refine ensures_write_bind (by decide) sees fun _ _ sees => ?_
  refine ensures_quietAsk_bind trivial sees fun _ _ sees => ?_
  refine ensures_write_bind (by decide) sees fun _ _ sees => ?_
  change Seen (seen ++ controlRegisterFields.map .vmwrite) _
  simpa [controlRegisterFields] using sees

private theorem ensures_populateContexts :
    (populateContexts depth status).Ensures (observed env) Allowed state
      (Wrote contextFields seen) := by
  iterate 3 refine ensures_quietAsk_bind trivial sees fun _ _ sees => ?_
  refine ensures_write_bind (by decide) sees fun _ _ sees => ?_
  refine ensures_quietAsk_bind trivial sees fun _ _ sees => ?_
  iterate 3 refine ensures_write_bind (by decide) sees fun _ _ sees => ?_
  refine ensures_quietAsk_bind trivial sees fun _ _ sees => ?_
  refine ensures_write_bind (by decide) sees fun _ _ sees => ?_
  change Seen (seen ++ contextFields.map .vmwrite) _
  simpa [contextFields] using sees

private theorem ensures_populateSysenter :
    (populateSysenter depth status).Ensures (observed env) Allowed state
      (Wrote sysenterFields seen) := by
  iterate 3 refine ensures_quietAsk_bind trivial sees fun _ _ sees => ?_
  iterate 6 refine ensures_write_bind (by decide) sees fun _ _ sees => ?_
  change Seen (seen ++ sysenterFields.map .vmwrite) _
  simpa [sysenterFields] using sees

end Sections

/-- A frame other than the handler's. -/
private theorem ensures_frame {routine : Routine} {body : Code α} (other : routine ≠ .enterVmxHandler)
    (sees : Seen seen state) {results : α → List Instruction → Prop}
    (ensured : ∀ state, Seen seen state → body.Ensures (observed env) Allowed state
      fun result final => ∃ word, results result word ∧ Seen (seen ++ word) final) :
    (call routine body).Ensures (observed env) Allowed state
      fun result final => ∃ word, results result word ∧ Seen (seen ++ word) final := by
  have quiet : IsQuiet (.enter routine) := other
  refine ensures_call trivial ((ensured _ (sees.next quiet.silent ())).mono ?_)
  rintro result final ⟨word, produced, sees⟩
  have left : IsQuiet (.leave routine) := trivial
  exact ⟨trivial, word, produced, sees.next left.silent ()⟩

private theorem ensures_populateActiveVMCS (sees : Seen seen state) :
    (populateActiveVMCS depth).Ensures (observed env) Allowed state
      (Wrote populateFields seen) := by
  have body (state : σ × List Instruction) (sees : Seen seen state) :
      (do
        let status ← populateSegments depth
        let status ← populateContexts depth status
        populateRest depth status : Code NTSTATUS).Ensures (observed env) Allowed state
        fun _ final => ∃ word, word = populateFields.map .vmwrite ∧ Seen (seen ++ word) final := by
    have selectors : loadSegmentSelectors.Confined IsQuiet fun _ => True := by
      iterate 8 refine confined_ask_bind trivial fun _ => ?_
      trivial
    have pending : Writable .kGuestPendingDebugExceptions := by decide
    simp only [populateSegments, populateRest, bind_assoc]
    apply (ensures_populateControls depth _ sees).bind
    intro _ _ sees
    refine ensures_write_bind pending sees fun status _ sees => ?_
    refine ensures_quiet_bind selectors sees fun selector _ sees => ?_
    refine ensures_quietAsk_bind trivial sees fun gdtr _ sees => ?_
    refine ensures_quietAsk_bind trivial sees fun idtr _ sees => ?_
    apply (ensures_populateSegment depth _ sees (by decide)).bind
    intro status _ sees
    apply (ensures_populateSegment depth _ sees (by decide)).bind
    intro status _ sees
    apply (ensures_populateSegment depth _ sees (by decide)).bind
    intro status _ sees
    apply (ensures_populateSegment depth _ sees (by decide)).bind
    intro status _ sees
    apply (ensures_populateBasedSegment depth _ sees (by decide)).bind
    intro status _ sees
    apply (ensures_populateGs depth _ sees).bind
    intro status _ sees
    apply (ensures_populateBasedSegment depth _ sees (by decide)).bind
    intro status _ sees
    apply (ensures_populateLdtr depth _ sees).bind
    intro status _ sees
    apply (ensures_populateDescriptorTables depth _ sees).bind
    intro status _ sees
    apply (ensures_populateControlRegisters depth _ sees).bind
    intro status _ sees
    apply (ensures_populateContexts depth _ sees).bind
    intro status _ sees
    apply (ensures_populateSysenter depth _ sees).bind
    intro status _ sees
    have dumped : (dumpVmcsGuestArea depth).Confined IsQuiet fun _ => True := by
      apply (confined_dumpVmcsGuestArea depth).mono
      · intro op dumps
        cases op <;> trivial
      · exact fun _ => id
    refine ensures_quiet_bind dumped sees fun _ _ sees => ?_
    refine ⟨_, rfl, ?_⟩
    simpa [populateFields] using sees
  rw [populateActiveVMCS_eq]
  apply (ensures_frame (by decide) sees body).mono
  rintro _ final ⟨_, rfl, sees⟩
  exact sees

private theorem ensures_setRevisionIdentifier_bind {region : Address} {id : BitVec 32}
    {next : Unit → Code α} (sees : Seen seen state)
    (rest : ∀ between, Seen seen between → (next ()).Ensures (observed env) Allowed between post) :
    (setRevisionIdentifier region id >>= next).Ensures (observed env) Allowed state post := by
  have confined : (setRevisionIdentifier region id).Confined IsQuiet fun _ => True :=
    confined_ask_bind trivial fun _ => ⟨trivial, fun _ => trivial⟩
  exact ensures_quiet_bind confined sees fun _ between sees => rest between sees

/-- Reporting a failure is quiet. -/
private theorem ensures_report {status : NTSTATUS} (sees : Seen seen state) :
    (do let _ ← printVMXError depth; return status : Code NTSTATUS).Ensures (observed env) Allowed
      state fun _ final => Seen seen final := by
  apply ensures_quiet_bind (confined_isQuiet_printVMXError depth) sees
  exact fun _ _ sees => sees

private theorem ensures_enterVmxonMode (sees : Seen seen state) :
    enterVmxonMode.Ensures (observed env) Allowed state fun _ final =>
      ∃ word, (∃ entered, word = [.vmxon entered]) ∧ Seen (seen ++ word) final := by
  apply ensures_frame (by decide) sees
  intro state sees
  iterate 15 refine ensures_quietAsk_bind trivial sees fun _ _ sees => ?_
  refine ensures_setRevisionIdentifier_bind sees fun _ sees => ?_
  iterate 2 refine ensures_quietAsk_bind trivial sees fun _ _ sees => ?_
  refine ensures_told_bind trivial .vmxon (fun _ => rfl) sees fun entered _ sees => ?_
  split
  · exact ⟨_, ⟨entered, rfl⟩, sees⟩
  · exact ⟨_, ⟨entered, rfl⟩, sees⟩

private theorem ensures_initializeVMCS (sees : Seen seen state) :
    initializeVMCS.Ensures (observed env) Allowed state fun _ final =>
      ∃ word, (∃ cleared loaded, word = .vmclear cleared ::
        if cleared = .succeed then [.vmptrld loaded] else []) ∧ Seen (seen ++ word) final := by
  apply ensures_frame (by decide) sees
  intro state sees
  iterate 3 refine ensures_quietAsk_bind trivial sees fun _ _ sees => ?_
  refine ensures_setRevisionIdentifier_bind sees fun _ sees => ?_
  iterate 2 refine ensures_quietAsk_bind trivial sees fun _ _ sees => ?_
  refine ensures_told_bind trivial .vmclear (fun _ => rfl) sees fun cleared _ sees => ?_
  cases cleared with
  | succeed =>
    refine ensures_told_bind trivial .vmptrld (fun _ => rfl) sees fun loaded final sees => ?_
    have both : Seen (seen ++ (.vmclear .succeed :: [.vmptrld loaded])) final := by
      simpa using sees
    split
    · exact ⟨_, ⟨.succeed, loaded, rfl⟩, both⟩
    · exact ⟨_, ⟨.succeed, loaded, rfl⟩, both⟩
  | failInvalid => exact ⟨_, ⟨.failInvalid, .succeed, rfl⟩, sees⟩
  | failValid => exact ⟨_, ⟨.failValid, .succeed, rfl⟩, sees⟩

/-- Control comes back from `VMLAUNCH` only if it failed. -/
private theorem ensures_launchGuest (sees : Seen seen state)
    (launches : Launches (seen ++ [.vmlaunch .succeed])) :
    (launchGuest depth).Ensures (observed env) Allowed state fun _ final =>
      ∃ word, (∃ launched, launched ≠ .succeed ∧ word = [.vmlaunch launched]) ∧
        Seen (seen ++ word) final := by
  apply ensures_frame (by decide) sees
  intro state sees
  refine ensures_told_bind trivial .vmlaunch (fun _ => rfl) sees fun launched between sees => ?_
  cases launched with
  | succeed =>
    refine ⟨?_, fun response => response.elim⟩
    change Launches between.2
    rwa [show between.2 = _ from sees]
  | failInvalid | failValid =>
    apply (ensures_report sees).mono
    exact fun _ _ sees => ⟨_, ⟨_, by decide, rfl⟩, sees⟩

private theorem ensures_clearActiveVMCS (sees : Seen seen state) :
    (clearActiveVMCS depth).Ensures (observed env) Allowed state fun _ final =>
      ∃ word, (∃ (stored : VmxOutcome × Address) (ended : VmxOutcome),
        word = .vmptrst stored.1 stored.2 ::
          if stored.1 = .succeed ∧ stored.2 = -1 then [] else [.vmclear ended]) ∧
        Seen (seen ++ word) final := by
  apply ensures_frame (by decide) sees
  intro state sees
  refine ensures_told_bind trivial (fun stored => .vmptrst stored.1 stored.2) (fun _ => rfl) sees ?_
  intro stored between sees
  change Ensures _ _ (if storedAddress stored = -1 then _ else _) _ _
  have none : storedAddress stored = -1 ↔ stored.1 = .succeed ∧ stored.2 = -1 := by
    unfold storedAddress
    split
    · simp_all
    · simp_all
  split
  · rename_i missing
    apply (ensures_report sees).mono
    exact fun _ _ sees => ⟨_, ⟨stored, .succeed, by rw [if_pos (none.mp missing)]⟩, sees⟩
  · rename_i found
    refine ensures_told_bind trivial .vmclear (fun _ => rfl) sees fun ended final sees => ?_
    have both : Seen (seen ++ [.vmptrst stored.1 stored.2, .vmclear ended]) final := by
      simpa using sees
    have word : ∃ (other : VmxOutcome × Address) (last : VmxOutcome),
        ([.vmptrst stored.1 stored.2, .vmclear ended] : List Instruction) =
          .vmptrst other.1 other.2 ::
            if other.1 = .succeed ∧ other.2 = -1 then [] else [.vmclear last] :=
      ⟨stored, ended, by rw [if_neg (none.not.mp found)]⟩
    cases ended with
    | succeed | failInvalid => exact ⟨_, word, both⟩
    | failValid =>
      apply (ensures_report both).mono
      exact fun _ _ both => ⟨_, word, both⟩

/-- A request that returns was one session, whose `VMLAUNCH` failed. -/
theorem ensures_enterVmxHandler (returned : Returned state.2) :
    (enterVmxHandler depth).Ensures (env.observing instruction) Allowed state fun _ final =>
      ∃ session : Session, session.launched ≠ .succeed ∧
        final.2 = state.2 ++ session.instructions := by
  rw [enterVmxHandler_eq]
  refine ensures_told_bind trivial (fun _ => .request) (fun _ => rfl) rfl fun _ begun sees => ?_
  rw [bind_assoc]
  apply (ensures_enterVmxonMode sees).bind
  rintro _ _ ⟨_, ⟨entered, rfl⟩, sees⟩
  simp only [bind_assoc]
  apply (ensures_initializeVMCS sees).bind
  rintro _ _ ⟨_, ⟨cleared, loaded, rfl⟩, sees⟩
  apply (ensures_populateActiveVMCS sees).bind
  intro _ _ sees
  have launches : Launches (state.2 ++ [.request] ++ [.vmxon entered] ++
      (.vmclear cleared :: if cleared = .succeed then [.vmptrld loaded] else []) ++
      populateFields.map .vmwrite ++ [.vmlaunch .succeed]) :=
    ⟨state.2, ⟨entered, cleared, loaded, .succeed, (.succeed, 0), .succeed⟩, returned, rfl,
      by simp [Session.entry]⟩
  apply (ensures_launchGuest sees launches).bind
  rintro _ _ ⟨_, ⟨launched, failed, rfl⟩, sees⟩
  change Ensures _ _ (((clearActiveVMCS depth >>= _) : Code _) >>= _) _ _
  rw [bind_assoc]
  apply (ensures_clearActiveVMCS sees).bind
  rintro _ _ ⟨_, ⟨stored, ended, rfl⟩, sees⟩
  refine ensures_told_bind trivial (fun _ => .vmxoff) (fun _ => rfl) sees fun _ _ sees => ?_
  refine ensures_quietAsk_bind trivial sees fun _ final sees => ?_
  refine ⟨⟨entered, cleared, loaded, launched, stored, ended⟩, failed, ?_⟩
  rw [show final.2 = _ from sees]
  simp [Session.instructions, Session.entry, Session.exit]

end Code

section Lives

variable {env : Environment driverInterface σ}

/-- The same of the whole driver. -/
def AllowedDriver (state : σ × List Instruction) : driverInterface.A → Prop
  | .inl op => Allowed state op
  | .inr _ => True

theorem IsOutside.isQuiet {op : Op} (outside : IsOutside (.inl op)) : IsQuiet op := by
  cases op <;> first | trivial | exact (outside.elim id id).elim

/-- Lives that end had only requests that returned. -/
theorem ensures_driverLives (lives : List Life) (returned : Returned state.2) :
    (driverLives lives).Ensures (env.observing (observeLeft instruction)) AllowedDriver state
      fun _ final => Returned final.2 := by
  apply ensures_driverLives_of_keeps
  · intro state op outside _
    match op with
    | .inl _ => exact (IsOutside.isQuiet outside).allowed state
    | .inr _ => trivial
  · intro state op response outside returned _
    have silent : Silent (observeLeft instruction) op := by
      match op with
      | .inl _ => exact (IsOutside.isQuiet outside).silent
      | .inr _ => exact fun _ => rfl
    have sees : Seen state.2 state := rfl
    rwa [show _ = state.2 from sees.next silent response]
  · intro depth state returned
    apply (ensures_inLeft _ _ _).mpr
    rw [Environment.left_observing]
    apply (ensures_enterVmxHandler returned).mono
    rintro _ final ⟨session, failed, seen⟩
    rw [seen]
    exact returned.concat failed
  · exact returned

variable {lives : List Life} {start final : σ} {events : List (Event driverInterface)}
  {rest : DriverCode Unit}

/-- **However its instructions end, over any number of lives of the driver that are over the VMX
instructions but `VMREAD` are whole sessions, one after another: each is from its `VMXON` to its
`VMXOFF`, and has attempted the same fields in the same order.** -/
theorem returned_of_path (path : Path env (driverLives lives) start events (.done ()) final) :
    Returned (events.filterMap (observeLeft instruction)) :=
  (ensures_driverLives lives .nil).post_of_path (path.observing (observeLeft instruction) [])

/-- **The guest is entered after the first half of a session: one `VMXON`, one `VMCLEAR` and one
`VMWRITE` of each field of the driver's list, whether it succeeded or not, stand between the last
request that returned and the `VMLAUNCH` that succeeded.** -/
theorem launches_of_path (path : Path env (driverLives lives) start events rest final)
    (entered : rest.head? = some (.inl .guest)) :
    Launches (events.filterMap (observeLeft instruction)) :=
  (ensures_driverLives lives .nil).legal_of_path (path.observing (observeLeft instruction) []) entered

/-- **No `VMWRITE` of any life of the driver is to a field that cannot be written.** -/
theorem writable_of_path (path : Path env (driverLives lives) start events rest final)
    {field : VmcsFieldEncoding} {value : BitVec 64}
    (issued : rest.head? = some (.inl (.vmwrite field value))) : Writable field :=
  (ensures_driverLives lives .nil).legal_of_path (path.observing (observeLeft instruction) []) issued

end Lives

section Witnesses

private abbrev anyAnswer : Environment driverInterface Unit := FailureReporting.anyOutcome.beside

private theorem free (op : driverInterface.A) (response : driverInterface.B op) :
    anyAnswer.allows () op response ∧ anyAnswer.next () op response = () := by
  match op with
  | .inl _ | .inr _ => exact ⟨trivial, rfl⟩

private theorem exists_answer (op : driverInterface.A) (outside : IsOutside op) :
    ∃ response, anyAnswer.allows () op response ∧ anyAnswer.next () op response = () := by
  match op with
  | .inr op =>
    have : Nonempty op.Response := by cases op <;> infer_instance
    exact ⟨Classical.choice this, free (.inr op) _⟩
  | .inl op =>
    have : Nonempty op.Response := by
      cases op <;> first
        | infer_instance
        | exact ⟨(⟨0, 0, 0, 0⟩ : CpuInfo)⟩
        | exact (outside.elim id id).elim
    exact ⟨Classical.choice this, free (.inl op) _⟩

theorem allows_of_launchFails (state : Unit) (op : Op) (response : op.Response)
    (_ : op.launchFails = some response) :
    FailureReporting.anyOutcome.allows state op response := trivial

private theorem allows_of_plainAnswer (state : Unit) (op : Op) (response : op.Response)
    (_ : op.plainAnswer = some response) :
    FailureReporting.anyOutcome.allows state op response := trivial

/-- A life whose request returns, as `VMLAUNCH` fails. -/
theorem returned_of_path_launchFails : ∃ events, Path anyAnswer (driverLives [⟨2, []⟩]) () events
    (.done ()) () ∧ Returned (events.filterMap (observeLeft instruction)) := by
  have request : Reaches FailureReporting.anyOutcome (enterVmxHandler 2) ()
      (.done statusFailedVmlaunch) () :=
    reaches_drive allows_of_launchFails 400 _ (by decide +kernel)
  obtain ⟨events, path⟩ := reaches_driverLives (fun op response _ => free op response) exists_answer
    request.beside exists_answer
  exact ⟨events, path, returned_of_path path⟩

private theorem exists_path_of_drive {steps : ℕ} {op : Op}
    (issued : (drive FailureReporting.anyOutcome (fun _ => Op.plainAnswer) steps
      (enterVmxHandler 2) ()).2.1.head? = some op) : ∃ events rest,
      Path anyAnswer (driverLives [⟨2, []⟩]) () events rest () ∧ rest.head? = some (.inl op) := by
  have inside : Reaches FailureReporting.anyOutcome (enterVmxHandler 2) () _ _ :=
    ⟨_, drive_path _ (fun _ => Op.plainAnswer) allows_of_plainAnswer steps _ _⟩
  obtain ⟨rest, ⟨events, path⟩, issued⟩ := exists_issued (fun op response _ => free op response)
    exists_answer inside.beside (head?_inLeft issued)
  exact ⟨events, rest, path, issued⟩

/-- A life whose request enters the guest. -/
theorem launches_of_path_plainAnswer : ∃ events rest,
    Path anyAnswer (driverLives [⟨2, []⟩]) () events rest () ∧ rest.head? = some (.inl .guest) ∧
      Launches (events.filterMap (observeLeft instruction)) := by
  have entered : (drive FailureReporting.anyOutcome (fun _ => Op.plainAnswer) 302
      (enterVmxHandler 2) ()).2.1.head? = some .guest := by decide +kernel
  obtain ⟨events, rest, path, issued⟩ := exists_path_of_drive entered
  exact ⟨events, rest, path, issued, launches_of_path path issued⟩

/-- A life that is about to write the VMCS link pointer. -/
theorem writable_of_path_linkPointer : ∃ events rest,
    Path anyAnswer (driverLives [⟨2, []⟩]) () events rest () ∧
      rest.head? = some (.inl (.vmwrite .kGuestVmcsLinkPtrFull (-1))) ∧
      Writable .kGuestVmcsLinkPtrFull := by
  have linked : (drive FailureReporting.anyOutcome (fun _ => Op.plainAnswer) 36
      (enterVmxHandler 2) ()).2.1.head? = some (.vmwrite .kGuestVmcsLinkPtrFull (-1)) := by
    decide +kernel
  obtain ⟨events, rest, path, issued⟩ := exists_path_of_drive linked
  exact ⟨events, rest, path, issued, writable_of_path path issued⟩

end Witnesses

end Guypervisor.Soundness.RequestTrace
