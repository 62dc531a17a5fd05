import Guypervisor.Effects.Observation
import Guypervisor.Effects.Prophecy
import Guypervisor.Model.Machine
import Guypervisor.Proofs.Stages
import Guypervisor.Soundness.FixedBits
import Guypervisor.Soundness.HostReturn

/-! # The VMCS that `VMLAUNCH` is executed with

From any state of the processor and any contents of the VMCSs, and however its instructions end, a
request comes to `VMLAUNCH` with a VMCS that describes the processor as it is at that moment: each
field of the script was attempted once and holds its value if that succeeded, and every other field
but the VM-instruction error is what it was. The guest then starts as a mirror of the processor, but
for its stack, its code and the status flags, which are those of the moment they were read.
-/

namespace Guypervisor.Soundness.LaunchedVmcs

open Effects Effects.Program Model Code Proofs Population FixedBits HostReturn

/-- Fields attempted so far, with the outcomes. -/
abbrev Made : Type := List (VmcsFieldEncoding × VmxOutcome)

/-- A machine, with the fields attempted so far. -/
abbrev Observed : Type := Machine × Made

abbrev observed : Environment interface Observed := Machine.environment.observing madeBy

/-- The processor with other flags. -/
abbrev withFlags (cpu : ProcessorState) (flags : BitVec 64) : ProcessorState :=
  { cpu with rflags := flags }

/-- The control registers are clamped and `IA32_FEATURE_CONTROL` and memory may differ; the rest of
the processor is as it was, but for the status flags. -/
structure Entered (before after : ProcessorState) : Prop where
  registers : (⟨after.cr0, after.cr4⟩ : ControlRegisters) = atVmxon before ⟨before.cr0, before.cr4⟩
  msr : ∀ address ≠ IntelMsr.kIa32FeatureControl.address, after.msr address = before.msr address
  rest : after = { before with
    cr0 := after.cr0, cr4 := after.cr4, msr := after.msr, memory := after.memory }

/-- Of the VMCSs before, the current one has the fields that were attempted with success, with the
values computed from the processor; all the others are as they were. Nothing is said of the
VM-instruction error. -/
def Filled (cpu : ProcessorState) (current : Option Address) (before : Address → Vmcs) (made : Made)
    (after : Address → Vmcs) : Prop :=
  ∀ region field, field ≠ .kVmInstructionError → (after region).read field =
    if current = some region ∧ (field, .succeed) ∈ made then
      (populateWrites cpu).replay (before region).read field
    else (before region).read field

/-- What a request comes to `VMLAUNCH` with; the status flags are those that were read. -/
structure Described (start : Machine) (made : Made) (machine : Machine) : Prop where
  entered : Entered start.cpu machine.cpu
  attempted : made.map Prod.fst = (populateWrites machine.cpu).keys
  filled : ∃ flags, SameFlags flags machine.cpu.rflags ∧
    Filled (withFlags machine.cpu flags) machine.vmx.current? start.vmcs made machine.vmcs

/-- `VMLAUNCH` is issued where this holds. -/
def LaunchesDescribed (start : Machine) (state : Observed) (op : Op) : Prop :=
  op = .vmlaunch → Described start state.2 state.1

section Populate

/-- Where a run of `PopulateActiveVMCS` stands that reads these flags. -/
structure Stage (before : Machine) (flags : BitVec 64) (script : Script) (state : Observed) :
    Prop where
  cpu : state.1.cpu = before.cpu
  vmx : state.1.vmx = before.vmx
  seen : state.2 = script.made
  progress : ∃ done, done ++ script.writes = populateWrites (withFlags before.cpu flags) ∧
    done.keys = script.made.map Prod.fst
  filled : Filled (withFlags before.cpu flags) before.vmx.current? before.vmcs script.made state.1.vmcs

variable {before : Machine} {flags : BitVec 64} {script : Script} {state : Observed}

/-- One field, at one outcome. -/
theorem Filled.attempt {cpu : ProcessorState} {machine : Machine} {start : Address → Vmcs}
    {made : Made} (filled : Filled cpu machine.vmx.current? start made machine.vmcs)
    {field : VmcsFieldEncoding} {value : BitVec 64} (written : put field value ∈ populateWrites cpu)
    (outcome : VmxOutcome) :
    Filled cpu machine.vmx.current? start (made ++ [(field, outcome)])
      (machine.next (.vmwrite field value) outcome).vmcs := by
  intro region other followed
  by_cases succeeded : outcome = .succeed
  · subst succeeded
    change (machine.writeField field value region).read other = _
    by_cases here : machine.vmx.current? = some region
    · rw [Machine.writeField, if_pos here, Vmcs.read_write]
      by_cases same : other = field
      · subst same
        rw [Function.update_self, if_pos ⟨here, List.mem_append_right _ List.mem_cons_self⟩]
        exact (WriteLog.replay_of_mem (nodup_keys_populateWrites cpu) written _).symm
      · rw [Function.update_of_ne same, filled region other followed]
        simp [same]
    · rw [Machine.writeField, if_neg here, filled region other followed]
      simp [here]
  · have kept : machine.next (.vmwrite field value) outcome = machine := if_neg succeeded
    have failed : (.succeed : VmxOutcome) ≠ outcome := fun same => succeeded same.symm
    rw [kept, filled region other followed]
    simp [failed]

/-- An operation of the function leads from one stage to the next. -/
theorem Stage.next (stage : Stage before flags script state) {op : Op} (work : IsFieldWork op)
    (follows : script.Follows op) (response : op.Response) :
    Stage before flags (script.next op response) (observed.next state op response) := by
  obtain ⟨cpu, vmx, seen, ⟨done, split, keys⟩, filled⟩ := stage
  have silent : ∀ {other : Op} {response : other.Response}, madeBy ⟨other, response⟩ = none →
      (state.2 ++ (madeBy ⟨other, response⟩).toList) = script.made := by
    intro other response unseen
    rw [unseen, seen]
    exact List.append_nil _
  cases op with
  | vmwrite field value =>
    obtain ⟨rest, head⟩ : ∃ rest, script.writes = put field value :: rest :=
      List.head?_eq_some_iff.mp follows
    have written : put field value ∈ populateWrites (withFlags before.cpu flags) := by
      rw [← split, head]
      exact List.mem_append_right _ List.mem_cons_self
    have kept : ∀ outcome, (state.1.next (.vmwrite field value) outcome).cpu = state.1.cpu ∧
        (state.1.next (.vmwrite field value) outcome).vmx = state.1.vmx := by
      intro outcome
      cases outcome <;> exact ⟨rfl, rfl⟩
    constructor
    · exact (kept response).1.trans cpu
    · exact (kept response).2.trans vmx
    · change state.2 ++ [(field, response)] = script.made ++ [(field, response)]
      rw [seen]
    · refine ⟨done ++ [put field value], ?_, ?_⟩
      · change done ++ [put field value] ++ script.writes.tail = _
        rw [← split, head, List.append_assoc]
        rfl
      · change (done ++ [put field value]).map Prod.fst = (script.made ++ [_]).map Prod.fst
        rw [List.map_append, List.map_append, ← keys]
        rfl
    · rw [← vmx] at filled ⊢
      exact filled.attempt written response
  | enter routine | leave routine =>
    exact ⟨cpu, vmx, silent rfl, ⟨done, split, keys⟩, filled⟩
  | _ =>
    first
    | exact work.elim
    | exact ⟨cpu, vmx, silent rfl, ⟨done, split, keys⟩, filled⟩

/-- The processor answers as the one the script was computed from, where its flags were foretold. -/
theorem Stage.allows (stage : Stage before flags script state) {op : Op} {response : op.Response}
    (allowed : (observed.foretold .readEflags flags).allows state op response) :
    (scripted (withFlags before.cpu flags)).allows script op response := by
  intro expected given
  have read : op ≠ .readEflags → state.1.cpu.reading op = some expected := by
    intro other
    rw [stage.cpu, ← given]
    cases op <;> first | rfl | exact absurd rfl other
  cases op with
  | readEflags => exact (Environment.foretold_answer allowed).trans (Option.some.inj given)
  | vmread | vmwrite | vmlaunch | vmresume => contradiction
  | _ => exact allowed.1 expected (read nofun)

/-- RFLAGS is read once. -/
theorem asksOnce_populateActiveVMCS (depth : ℕ) :
    (populateActiveVMCS depth).AsksOnce (P := interface) .readEflags := by
  have never (op : interface.A) (work : IsSectionWork op) : op ≠ .readEflags := by
    rintro rfl
    exact work
  have write (field : VmcsFieldEncoding) (value : BitVec 64) :
      (writeVMCSField64 depth field value).Confined (P := interface) (· ≠ .readEflags) DriverStatus :=
    confined_writeVMCSField64 (fun op read => never op read.isFieldDump.isSectionWork) depth Op.noConfusion
  have contexts (status : NTSTATUS) :
      (populateContexts depth status).AsksOnce (P := interface) .readEflags := by
    have rest (rflags guestStack hostStack : BitVec 64) : (do
        let status := status ||| (← writeVMCSFieldNatural depth .kGuestRsp (guestStack + 4096 - 8))
        let guestCode ← symbolAddress .guestCode
        let status := status ||| (← writeVMCSFieldNatural depth .kGuestRip guestCode)
        let status := status ||| (← writeVMCSFieldNatural depth .kGuestRFlags rflags)
        let status := status ||| (← writeVMCSFieldNatural depth .kHostRsp (hostStack + 4096 - 8))
        let vmexitHandler ← symbolAddress .vmexitHandler
        let status := status ||| (← writeVMCSFieldNatural depth .kHostRip vmexitHandler)
        return status : Code NTSTATUS).Confined (P := interface) (· ≠ .readEflags) fun _ => True := by
      refine (write _ _).bind fun _ _ => ?_
      refine confined_ask_bind Op.noConfusion fun _ => ?_
      iterate 3 refine (write _ _).bind fun _ _ => ?_
      refine confined_ask_bind Op.noConfusion fun _ => ?_
      exact (write _ _).bind fun _ _ => trivial
    refine ⟨fun same => Op.noConfusion same, fun guestStack => ?_⟩
    refine ⟨fun same => Op.noConfusion same, fun hostStack => ?_⟩
    exact ⟨fun _ rflags => rest rflags guestStack hostStack,
      fun rflags => (rest rflags guestStack hostStack).asksOnce⟩
  rw [populateActiveVMCS_eq]
  have segments := (confined_populateSegments depth).mono never fun _ => id
  have fields : (do
      let status ← populateSegments depth
      let status ← populateContexts depth status
      populateRest depth status : Code NTSTATUS).AsksOnce (P := interface) .readEflags :=
    segments.bind_asksOnce fun status accumulated =>
      (contexts status).bind (confined_populateContexts depth accumulated) fun status accumulated =>
        (confined_populateRest depth accumulated).mono never fun _ _ => trivial
  refine ⟨fun same => Op.noConfusion same, fun _ => ?_⟩
  exact fields.bind (confined_true _) fun _ _ => confined_ask_bind Op.noConfusion fun _ => trivial

theorem ensures_populateActiveVMCS (depth : ℕ) (before : Machine) :
    (populateActiveVMCS depth).Ensures observed (fun _ op => IsFieldWork op) (before, [])
      fun _ final => final.1.cpu = before.cpu ∧ final.1.vmx = before.vmx ∧
        final.2.map Prod.fst = (populateWrites before.cpu).keys ∧
        ∃ flags, SameFlags flags before.cpu.rflags ∧
          Filled (withFlags before.cpu flags) before.vmx.current? before.vmcs final.2 final.1.vmcs := by
  have first (flags : BitVec 64) : Stage before flags ⟨populateWrites (withFlags before.cpu flags),
      populateMsrs (withFlags before.cpu flags), []⟩ (before, []) :=
    ⟨rfl, rfl, rfl, ⟨[], rfl, rfl⟩, fun region field _ => by simp⟩
  have staged (flags : BitVec 64) : (populateActiveVMCS depth).Ensures
      (observed.foretold .readEflags flags)
      (fun state op => IsFieldWork op ∧ ∃ script, Stage before flags script state) (before, [])
      fun status final => ∃ script, Stage before flags script final ∧ Ended status script := by
    apply Ensures.of_related
      (Population.ensures_populateActiveVMCS (withFlags before.cpu flags) depth)
      (confined_populateActiveVMCS depth) _ (first flags)
    intro script state op response work stage follows allowed
    exact ⟨stage.allows allowed, stage.next work follows response⟩
  have flagged : (populateActiveVMCS depth).Ensures observed
      (fun state op => IsFieldWork op ∧ state.1.cpu = before.cpu) (before, []) fun status final =>
        ∃ flags, SameFlags flags before.cpu.rflags ∧
          ∃ script, Stage before flags script final ∧ Ended status script := by
    apply Ensures.of_foretold (SameFlags · before.cpu.rflags) (asksOnce_populateActiveVMCS depth)
    · exact ⟨_, .refl _⟩
    · rintro state flags ⟨-, cpu⟩ allowed
      rw [← cpu]
      exact allowed
    · exact fun flags _ => (staged flags).of_legal fun _ _ ⟨work, _, stage⟩ => ⟨work, stage.cpu⟩
  apply (flagged.of_legal fun _ _ => And.left).mono
  rintro status final ⟨flags, same, script, ⟨cpu, vmx, seen, ⟨done, split, keys⟩, filled⟩, ended⟩
  rw [show script.writes = [] from ended.writes, List.append_nil] at split
  rw [seen]
  refine ⟨cpu, vmx, ?_, flags, same, filled⟩
  rw [← keys, split]
  exact keys_populateWrites _ _

end Populate

section Entry

variable {start : Machine} {state : Observed}

/-- Nothing was written to a VMCS yet. -/
structure Prepared (start : Machine) (state : Observed) : Prop where
  made : state.2 = []
  vmcs : state.1.vmcs = start.vmcs
  entered : Entered start.cpu state.1.cpu

/-- What entering VMX operation does once the control registers are clamped. -/
def IsEntering : Op → Prop
  | .writeCr0 _ | .writeCr4 _ | .vmwrite _ _ => False
  | .writeMsr msr _ => msr = .kIa32FeatureControl
  | _ => True

/-- Memory and `IA32_FEATURE_CONTROL` may be written. -/
private theorem Entered.change {before after : ProcessorState} (entered : Entered before after)
    {msr : BitVec 32 → BitVec 64} (memory : Memory)
    (same : ∀ address ≠ IntelMsr.kIa32FeatureControl.address, msr address = before.msr address) :
    Entered before { after with msr := msr, memory := memory } :=
  ⟨entered.registers, same,
    congrArg (fun cpu : ProcessorState => { cpu with msr := msr, memory := memory }) entered.rest⟩

theorem Prepared.next (prepared : Prepared start state) {op : Op} (entering : IsEntering op)
    (response : op.Response) : Prepared start (observed.next state op response) := by
  obtain ⟨made, vmcs, entered⟩ := prepared
  have unseen : state.2 ++ [] = [] := (List.append_nil _).trans made
  cases op with
  | writeMsr written value =>
    obtain rfl : written = .kIa32FeatureControl := entering
    refine ⟨unseen, vmcs, entered.change _ ?_⟩
    intro address other
    exact (Function.update_of_ne other _ _).trans (entered.msr address other)
  | store32 | store64 | zeroMemory => exact ⟨unseen, vmcs, entered.change _ entered.msr⟩
  | _ =>
    first
    | exact entering.elim
    | exact ⟨unseen, vmcs, entered⟩

/-- Code that enters VMX operation and writes no field keeps all of that. -/
theorem Prepared.ensures {program : Code NTSTATUS}
    (confined : program.Confined IsEntering fun _ => True) (prepared : Prepared start state) :
    program.Ensures observed (fun _ _ => True) state fun _ final => Prepared start final := by
  have kept : program.Ensures observed (fun _ _ => True) state fun _ final =>
      True ∧ Prepared start final :=
    confined.keeps (fun _ _ _ _ => trivial)
      (fun _ _ response entering prepared _ => prepared.next entering response) prepared
  exact kept.mono fun _ _ ended => ended.2

theorem ensures_enterVmxonMode (start : Machine) :
    enterVmxonMode.Ensures observed (fun _ _ => True) (start, [])
      fun _ final => Prepared start final := by
  refine ensures_ask_bind trivial fun _ _ => ?_
  refine ensures_ask_bind trivial fun context _ => ?_
  refine ensures_ask_bind trivial fun cr0 read => ?_
  obtain rfl := read _ rfl
  refine ensures_ask_bind trivial fun fixed0 read => ?_
  obtain rfl := read _ rfl
  refine ensures_ask_bind trivial fun fixed1 read => ?_
  obtain rfl := read _ rfl
  refine ensures_ask_bind trivial fun _ _ => ?_
  refine ensures_ask_bind trivial fun cr4 read => ?_
  obtain rfl := read _ rfl
  refine ensures_ask_bind trivial fun fixed0 read => ?_
  obtain rfl := read _ rfl
  refine ensures_ask_bind trivial fun fixed1 read => ?_
  obtain rfl := read _ rfl
  refine ensures_ask_bind trivial fun _ _ => ?_
  refine ensures_ask_bind trivial fun cr4 read => ?_
  obtain rfl := read _ rfl
  refine ensures_ask_bind trivial fun _ _ => ?_
  apply Prepared.ensures
  · refine confined_ask_bind trivial fun _ => ?_
    refine confined_ask_bind rfl fun _ => ?_
    iterate 6 refine confined_ask_bind trivial fun _ => ?_
    refine confined_ask_bind trivial fun outcome => ?_
    cases outcome <;> exact ⟨trivial, fun _ => trivial⟩
  · exact ⟨rfl, rfl, rfl, fun _ _ => rfl, rfl⟩

/-- `InitializeVMCS` is such code. -/
theorem isEntering_initializeVMCS : initializeVMCS.Confined IsEntering fun _ => True := by
  apply confined_initializeVMCS'.mono
  · intro op initializing
    cases op <;> trivial
  · exact fun _ => id

end Entry

section Request

/-- Everything but `VMLAUNCH`. -/
def IsNoLaunch (op : Op) : Prop := op ≠ .vmlaunch

/-- A stage does not launch the guest. -/
private theorem confined_of_isStage {routine : Routine} {stage : Code NTSTATUS}
    (isStage : IsStage routine stage) : stage.Confined IsNoLaunch fun _ => True := by
  obtain ⟨body, rfl, confined⟩ := isStage
  apply confined_call Op.noConfusion Op.noConfusion
  apply confined.mono
  · rintro op work rfl
    exact work
  · exact fun _ _ => trivial

/-- Where the guest is not launched, nothing is asked. -/
private theorem issues (start : Machine) (state : Observed) (op : Op) (other : IsNoLaunch op) :
    LaunchesDescribed start state op := fun launch => absurd launch other

/-- After `VMLAUNCH` has failed it is not executed again. -/
private theorem ensures_rest {depth : ℕ} {start : Machine} {state : Observed} (status : NTSTATUS) :
    (enterVmxCleanup depth true true status).Ensures observed (LaunchesDescribed start) state
      fun _ _ => True := by
  have confined : (enterVmxCleanup depth true true status).Confined IsNoLaunch
      fun _ => True := by
    apply (confined_of_isStage (isStage_clearActiveVMCS depth)).bind
    intro _ _
    exact confined_ask_bind Op.noConfusion fun _ => trivial
  exact confined.ensures_everywhere (issues start)

private theorem ensures_launchGuest {depth : ℕ} {start : Machine} {state : Observed}
    (described : Described start state.2 state.1) :
    (launchGuest depth).Ensures observed (LaunchesDescribed start) state fun _ _ => True := by
  apply ensures_call (issues start _ _ Op.noConfusion)
  have same : observed.next state (.enter .launchGuest) () = state :=
    congrArg (Prod.mk _) (List.append_nil _)
  rw [same]
  refine ensures_ask_bind (fun _ => described) fun outcome _ => ?_
  have printed : (printVMXError depth).Confined IsNoLaunch fun _ => True := by
    apply (confined_printVMXError depth).mono
    · rintro op read rfl
      exact read
    · exact fun _ _ => trivial
  cases outcome with
  | succeed => exact ⟨issues start _ _ Op.noConfusion, fun response => response.elim⟩
  | failInvalid | failValid =>
    apply (printed.ensures_everywhere (issues start)).bind
    intro _ _ _
    exact ⟨issues start _ _ Op.noConfusion, trivial⟩

/-- A request comes to `VMLAUNCH` with the VMCS described. -/
theorem ensures_enterVmxHandler (depth : ℕ) (start : Machine) :
    (enterVmxHandler depth).Ensures observed (LaunchesDescribed start) (start, []) fun _ _ => True := by
  rw [enterVmxHandler_eq]
  apply ensures_call (issues start _ _ Op.noConfusion)
  apply ((ensures_enterVmxonMode start).and
    ((confined_of_isStage isStage_enterVmxonMode).ensures_everywhere (issues start))).bind
  rintro _ entered ⟨prepared, -⟩
  apply ((Prepared.ensures isEntering_initializeVMCS prepared).and
    ((confined_of_isStage isStage_initializeVMCS).ensures_everywhere (issues start))).bind
  rintro _ ⟨before, _⟩ ⟨⟨rfl, vmcs, processor⟩, -⟩
  have populated : (populateActiveVMCS depth).Ensures observed (LaunchesDescribed start) (before, [])
      _ :=
    (ensures_populateActiveVMCS depth before).of_legal fun state op work => by
      apply issues start state op
      rintro rfl
      exact work
  apply populated.bind
  rintro _ final ⟨cpu, vmx, attempted, filled⟩
  have described : Described start final.2 final.1 := by
    refine ⟨?_, ?_, ?_⟩
    · rw [cpu]
      exact processor
    · rw [cpu]
      exact attempted
    · rw [cpu, vmx, ← show before.vmcs = start.vmcs from vmcs]
      exact filled
  apply (ensures_launchGuest described).bind
  intro status _ _
  apply (ensures_rest status).mono
  intro _ _ _
  exact ⟨issues start _ _ Op.noConfusion, trivial⟩

/-- **However the instructions of a request end, it comes to `VMLAUNCH` with a VMCS that describes the
processor as it then is: each field of the script was attempted once, and holds its value exactly
where this succeeded.** -/
theorem described_of_path {depth : ℕ} {start machine : Machine} {events : List (Event interface)}
    {rest : Code NTSTATUS}
    (path : Path Machine.environment (enterVmxHandler depth) start events rest machine)
    (issued : rest.head? = some .vmlaunch) : Described start (madeOf events) machine :=
  (ensures_enterVmxHandler depth start).legal_of_path (path.observing madeBy []) issued rfl

end Request

section Mirror

/-- What a VM entry loads from the guest-state area, but for limits and access rights. -/
structure GuestState where
  cr0 : BitVec 64
  cr3 : BitVec 64
  cr4 : BitVec 64
  dr7 : BitVec 64
  rflags : BitVec 64
  rsp : BitVec 64
  rip : BitVec 64
  selector : SegmentRegister → BitVec 64
  fsBase : BitVec 64
  gsBase : BitVec 64
  trBase : BitVec 64
  gdtrBase : BitVec 64
  gdtrLimit : BitVec 64
  idtrBase : BitVec 64
  idtrLimit : BitVec 64
  sysenterCs : BitVec 64
  sysenterEsp : BitVec 64
  sysenterEip : BitVec 64

/-- The guest's field for a selector. -/
def guestSelector : SegmentRegister → VmcsFieldEncoding
  | .es => .kGuestEsSelector
  | .cs => .kGuestCsSelector
  | .ss => .kGuestSsSelector
  | .ds => .kGuestDsSelector
  | .fs => .kGuestFsSelector
  | .gs => .kGuestGsSelector
  | .ldtr => .kGuestLdtrSelector
  | .tr => .kGuestTrSelector

def guest (vmcs : Vmcs) : GuestState where
  cr0 := vmcs.read .kGuestCr0
  cr3 := vmcs.read .kGuestCr3
  cr4 := vmcs.read .kGuestCr4
  dr7 := vmcs.read .kGuestDr7
  rflags := vmcs.read .kGuestRFlags
  rsp := vmcs.read .kGuestRsp
  rip := vmcs.read .kGuestRip
  selector register := vmcs.read (guestSelector register)
  fsBase := vmcs.read .kGuestFsBase
  gsBase := vmcs.read .kGuestGsBase
  trBase := vmcs.read .kGuestTrBase
  gdtrBase := vmcs.read .kGuestGdtrBase
  gdtrLimit := vmcs.read .kGuestGdtrLimit
  idtrBase := vmcs.read .kGuestIdtrBase
  idtrLimit := vmcs.read .kGuestIdtrLimit
  sysenterCs := vmcs.read .kGuestIa32SysenterCs
  sysenterEsp := vmcs.read .kGuestIa32SysenterEsp
  sysenterEip := vmcs.read .kGuestIa32SysenterEip

/-- The processor's own registers, with the stack and the code of the guest. -/
def mirror (cpu : ProcessorState) : GuestState where
  cr0 := cpu.cr0
  cr3 := cpu.cr3
  cr4 := cpu.cr4
  dr7 := cpu.dr7
  rflags := cpu.rflags
  rsp := cpu.arrays .guestStack + 4096 - 8
  rip := cpu.symbols .guestCode
  selector register := (cpu.selector register).setWidth 64
  fsBase := cpu.msr IntelMsr.kIa32FsBase.address
  gsBase := cpu.msr IntelMsr.kIa32GsBase.address
  trBase := systemBase cpu.memory (descriptorAddress cpu (cpu.selector .tr))
  gdtrBase := cpu.gdtr.base
  gdtrLimit := cpu.gdtr.limit.setWidth 64
  idtrBase := cpu.idtr.base
  idtrLimit := cpu.idtr.limit.setWidth 64
  sysenterCs := cpu.msr IntelMsr.kIa32SysenterCs.address
  sysenterEsp := cpu.msr IntelMsr.kIa32SysenterEsp.address
  sysenterEip := cpu.msr IntelMsr.kIa32SysenterEip.address

/-- The fields of a VMCS hold what the script says of them. -/
def Holds (cpu : ProcessorState) (vmcs : Vmcs) : Prop :=
  ∀ field value, put field value ∈ populateWrites cpu → vmcs.read field = Vmcs.kept field value

/-- The VM-instruction error is not written. -/
theorem kVmInstructionError_notMem (cpu : ProcessorState) :
    .kVmInstructionError ∉ (populateWrites cpu).keys := by
  rw [keys_populateWrites cpu default]
  decide +kernel

/-- Where every write has succeeded, the current VMCS holds the whole script, with the flags read. -/
theorem Described.holds {start machine : Machine} {made : Made} {region : Address}
    (described : Described start made machine) (succeeded : ∀ write ∈ made, write.2 = .succeed)
    (current : machine.vmx.current? = some region) :
    ∃ flags, SameFlags flags machine.cpu.rflags ∧
      Holds (withFlags machine.cpu flags) (machine.vmcs region) := by
  obtain ⟨flags, same, filled⟩ := described.filled
  refine ⟨flags, same, fun field value written => ?_⟩
  have key : field ∈ (populateWrites (withFlags machine.cpu flags)).keys := List.mem_map_of_mem written
  have followed : field ≠ .kVmInstructionError := by
    rintro rfl
    exact kVmInstructionError_notMem _ key
  have attempted : field ∈ made.map Prod.fst := by
    rw [described.attempted, keys_populateWrites machine.cpu (withFlags machine.cpu flags)]
    exact key
  obtain ⟨⟨_, outcome⟩, member, rfl⟩ := List.mem_map.mp attempted
  obtain rfl : outcome = .succeed := succeeded _ member
  rw [filled region _ followed, if_pos ⟨current, member⟩]
  exact WriteLog.replay_of_mem (nodup_keys_populateWrites _) written _

variable {cpu : ProcessorState} {vmcs : Vmcs}

/-- A field holds the whole of a value that fits it. -/
theorem Holds.read (holds : Holds cpu vmcs) {w : ℕ} {field : VmcsFieldEncoding} {value : BitVec w}
    (fits : w ≤ fieldBits field.encoding)
    (written : put field (value.setWidth 64) ∈ populateWrites cpu) :
    vmcs.read field = value.setWidth 64 := by
  rw [holds field _ written, Vmcs.kept_of_fits fits]

/-- The guest that is described. -/
theorem Holds.guest (holds : Holds cpu vmcs) : guest vmcs =
    { mirror cpu with
      cr0 := guestCr0 cpu
      cr4 := guestCr4 cpu
      fsBase := (gdtEntry cpu (cpu.selector .fs)).base
      trBase := (gdtEntry cpu (cpu.selector .tr)).base
      sysenterCs := ((cpu.msr IntelMsr.kIa32SysenterCs.address).setWidth 32).setWidth 64 } := by
  have natural (field : VmcsFieldEncoding) (value : BitVec 64)
      (width : fieldBits field.encoding = 64) (written : put field value ∈ populateWrites cpu) :
      vmcs.read field = value := by
    rw [holds field value written, Vmcs.kept_of_natural width]
  have control (field : VmcsFieldEncoding) (value : BitVec 64)
      (width : fieldBits field.encoding = 64)
      (written : put field value ∈ controlRegistersWrites cpu) : vmcs.read field = value :=
    natural field value width (controlRegistersWrites_subset cpu written)
  have selector (register : SegmentRegister) :
      vmcs.read (guestSelector register) = (cpu.selector register).setWidth 64 := by
    apply holds.read
    · cases register <;> decide
    · cases register <;> simp [guestSelector, populateWrites, segmentWrites, basedSegmentWrites,
        gsWrites, ldtrWrites, csFields, ssFields, dsFields, esFields, fsFields, trFields]
  have limit (field : VmcsFieldEncoding) (value : BitVec 16) (width : fieldBits field.encoding = 32)
      (written : put field ((value.setWidth 32).setWidth 64) ∈ populateWrites cpu) :
      vmcs.read field = value.setWidth 64 := by
    have widened : (value.setWidth 32).setWidth 64 = value.setWidth 64 := by
      apply BitVec.eq_of_toNat_eq
      have bound := value.isLt
      simp only [BitVec.toNat_setWidth]
      omega
    rw [← widened]
    exact holds.read width.ge written
  have cr0 := control .kGuestCr0 (guestCr0 cpu) (by decide) (by simp [controlRegistersWrites])
  have cr3 := control .kGuestCr3 cpu.cr3 (by decide) (by simp [controlRegistersWrites])
  have cr4 := control .kGuestCr4 (guestCr4 cpu) (by decide) (by simp [controlRegistersWrites])
  have dr7 := control .kGuestDr7 cpu.dr7 (by decide) (by simp [controlRegistersWrites])
  have rflags := natural .kGuestRFlags cpu.rflags (by decide)
    (by simp [populateWrites, contextsWrites])
  have rsp := natural .kGuestRsp (cpu.arrays .guestStack + 4096 - 8) (by decide)
    (by simp [populateWrites, contextsWrites])
  have rip := natural .kGuestRip (cpu.symbols .guestCode) (by decide)
    (by simp [populateWrites, contextsWrites])
  have fsBase := natural .kGuestFsBase (gdtEntry cpu (cpu.selector .fs)).base (by decide)
    (by simp [populateWrites, basedSegmentWrites, fsFields])
  have gsBase := natural .kGuestGsBase (cpu.msr IntelMsr.kIa32GsBase.address) (by decide)
    (by simp [populateWrites, gsWrites])
  have trBase := natural .kGuestTrBase (gdtEntry cpu (cpu.selector .tr)).base (by decide)
    (by simp [populateWrites, basedSegmentWrites, trFields])
  have gdtrBase := natural .kGuestGdtrBase cpu.gdtr.base (by decide)
    (by simp [populateWrites, descriptorTablesWrites])
  have gdtrLimit := limit .kGuestGdtrLimit cpu.gdtr.limit (by decide)
    (by simp [populateWrites, descriptorTablesWrites])
  have idtrBase := natural .kGuestIdtrBase cpu.idtr.base (by decide)
    (by simp [populateWrites, descriptorTablesWrites])
  have idtrLimit := limit .kGuestIdtrLimit cpu.idtr.limit (by decide)
    (by simp [populateWrites, descriptorTablesWrites])
  have sysenterCs : vmcs.read .kGuestIa32SysenterCs =
      ((cpu.msr IntelMsr.kIa32SysenterCs.address).setWidth 32).setWidth 64 :=
    holds.read (by decide) (by simp [populateWrites, sysenterWrites])
  have sysenterEsp := natural .kGuestIa32SysenterEsp (cpu.msr IntelMsr.kIa32SysenterEsp.address)
    (by decide) (by simp [populateWrites, sysenterWrites])
  have sysenterEip := natural .kGuestIa32SysenterEip (cpu.msr IntelMsr.kIa32SysenterEip.address)
    (by decide) (by simp [populateWrites, sysenterWrites])
  simp only [LaunchedVmcs.guest, mirror, cr0, cr3, cr4, dr7, rflags, rsp, rip, selector, fsBase,
    gsBase, trBase, gdtrBase, gdtrLimit, idtrBase, idtrLimit, sysenterCs, sysenterEsp, sysenterEip]

variable {before after : ProcessorState}

/-- The registers that bound the control registers are not written. -/
theorem Entered.fixed (entered : Entered before after) :
    (⟨after.cr0, after.cr4⟩ : ControlRegisters) = atVmxon after ⟨before.cr0, before.cr4⟩ := by
  have cr0Fixed0 := entered.msr IntelMsr.kIa32VmxCr0Fixed0.address (by decide)
  have cr0Fixed1 := entered.msr IntelMsr.kIa32VmxCr0Fixed1.address (by decide)
  have cr4Fixed0 := entered.msr IntelMsr.kIa32VmxCr4Fixed0.address (by decide)
  rw [entered.registers, atVmxon, atVmxon, FixedBits.cr0Fixed0, FixedBits.cr0Fixed1,
    FixedBits.cr4Fixed0, ← cr0Fixed0, ← cr0Fixed1, ← cr4Fixed0]
  rfl

/-- Clamping CR0 again changes nothing. -/
theorem Entered.guestCr0 (entered : Entered before after) : guestCr0 after = after.cr0 := by
  have clamped : after.cr0 = (before.cr0 ||| cr0Fixed0 after) &&& cr0Fixed1 after :=
    congrArg ControlRegisters.cr0 entered.fixed
  rw [Population.guestCr0]
  change (after.cr0 ||| cr0Fixed0 after) &&& cr0Fixed1 after = after.cr0
  rw [clamped]
  apply BitVec.eq_of_getLsbD_eq
  intro i _
  simp only [BitVec.getLsbD_or, BitVec.getLsbD_and]
  cases before.cr0.getLsbD i <;> cases (cr0Fixed0 after).getLsbD i <;>
    cases (cr0Fixed1 after).getLsbD i <;> rfl

/-- Clamping CR4 again clears `CR4.VMXE` unless the bound admits it. -/
theorem Entered.guestCr4_eq_iff (entered : Entered before after) :
    guestCr4 after = after.cr4 ↔ BitSubset vmxe (cr0Fixed1 after) := by
  have clamped : after.cr4 =
      ((before.cr4 ||| cr4Fixed0 after) &&& cr0Fixed1 after) ||| vmxe :=
    congrArg ControlRegisters.cr4 entered.fixed
  have guest : guestCr4 after = (after.cr4 ||| cr4Fixed0 after) &&& cr0Fixed1 after := rfl
  rw [guest, clamped, bitSubset_iff, BitVec.eq_of_getLsbD_eq_iff]
  apply forall₂_congr
  intro i _
  simp only [BitVec.getLsbD_or, BitVec.getLsbD_and]
  cases before.cr4.getLsbD i <;> cases (cr4Fixed0 after).getLsbD i <;>
    cases (cr0Fixed1 after).getLsbD i <;> cases vmxe.getLsbD i <;> decide

/-- The guest is a mirror of the processor, with the status flags that were read. -/
def Mirrors (guest : GuestState) (cpu : ProcessorState) : Prop :=
  ∃ flags, SameFlags flags cpu.rflags ∧ guest = mirror (withFlags cpu flags)

/-- **Where every write has succeeded and FS and TR name descriptors of the GDT, the guest starts as a
mirror of the processor at `VMLAUNCH`, but for its stack, its code and the status flags, exactly when
the bound of CR0 admits `CR4.VMXE`, the base of FS is the one that is decoded, that of TR is decoded as
it is, and `IA32_SYSENTER_CS` fits its field.** -/
theorem guest_eq_mirror_iff {depth : ℕ} {start machine : Machine} {events : List (Event interface)}
    {rest : Code NTSTATUS} {region : Address}
    (path : Path Machine.environment (enterVmxHandler depth) start events rest machine)
    (issued : rest.head? = some .vmlaunch) (current : machine.vmx.current? = some region)
    (succeeded : ∀ write ∈ madeOf events, write.2 = .succeed)
    (fsNames : NamesGdt (machine.cpu.selector .fs)) (trNames : NamesGdt (machine.cpu.selector .tr)) :
    Mirrors (guest (machine.vmcs region)) machine.cpu ↔
      BitSubset vmxe (cr0Fixed1 machine.cpu) ∧ FsBaseInDescriptor machine.cpu ∧
        TrBaseRead machine.cpu ∧ SysenterCsFits machine.cpu := by
  have described : Described start (madeOf events) machine :=
    (ensures_enterVmxHandler depth start).legal_of_path (path.observing madeBy []) issued rfl
  obtain ⟨flags, same, holds⟩ := described.holds succeeded current
  have mirrored (other : BitVec 64) :
      guest (machine.vmcs region) = mirror (withFlags machine.cpu other) ↔
        flags = other ∧ BitSubset vmxe (cr0Fixed1 machine.cpu) ∧ FsBaseInDescriptor machine.cpu ∧
          TrBaseRead machine.cpu ∧ SysenterCsFits machine.cpu := by
    rw [holds.guest, FsBaseInDescriptor, ← base_gdtEntry machine.cpu fsNames,
      ← base_tr_iff machine.cpu trNames, ← sysenterCs_iff machine.cpu,
      ← described.entered.guestCr4_eq_iff, eq_comm (a := machine.cpu.msr _)]
    have cr0 : Population.guestCr0 (withFlags machine.cpu flags) = machine.cpu.cr0 :=
      described.entered.guestCr0
    have cr4 : Population.guestCr4 (withFlags machine.cpu flags) = Population.guestCr4 machine.cpu := rfl
    have entry (selector : BitVec 16) :
        gdtEntry (withFlags machine.cpu flags) selector = gdtEntry machine.cpu selector := rfl
    simp only [mirror, cr0, cr4, entry, GuestState.mk.injEq, true_and, and_true]
    exact and_left_comm
  constructor
  · rintro ⟨other, -, equal⟩
    exact ((mirrored other).mp equal).2
  · exact fun holds => ⟨flags, same, (mirrored flags).mpr ⟨rfl, holds⟩⟩

end Mirror

section Witnesses

/-- What a machine answers on which everything succeeds, up to `VMLAUNCH`; whenever the flags are read
the carry flag is set. -/
private def respond (machine : Machine) : (op : Op) → Option op.Response
  | .readEflags => some (machine.cpu.rflags ||| 1)
  | .vmread field => machine.vmx.current?.map fun current =>
    (VmxOutcome.succeed, (machine.vmcs current).read field)
  | .vmwrite _ _ => machine.vmx.current?.map fun _ => VmxOutcome.succeed
  | .vmlaunch | .vmresume => none
  | op => (machine.cpu.reading op).or op.plainAnswer

private theorem respond_allowed (machine : Machine) (op : Op) (response : op.Response)
    (answered : respond machine op = some response) :
    Machine.environment.allows machine op response := by
  have read : ∀ expected, machine.cpu.reading op = some expected →
      (machine.cpu.reading op).or op.plainAnswer = some response → response = expected := by
    intro expected given answered
    rw [given, Option.some_or] at answered
    exact (Option.some.inj answered).symm
  cases op with
  | vmread field =>
    obtain ⟨current, found, rfl⟩ := Option.map_eq_some_iff.mp answered
    exact fun _ => ⟨current, found, fun _ => rfl⟩
  | vmwrite =>
    obtain ⟨current, found, rfl⟩ := Option.map_eq_some_iff.mp answered
    exact fun _ none => Option.some_ne_none current (found.symm.trans none)
  | vmlaunch | vmresume => contradiction
  | readEflags =>
    have flags : machine.cpu.rflags ||| 1 = response := Option.some.inj answered
    rw [← flags]
    exact sameFlags_or _ (by decide)
  | _ => exact fun expected given => read expected given answered

/-- The processor with an FS base of its own, and VMCSs of zeros. -/
private def threadMachine : Machine := ⟨threadCpu, .off, fun _ _ => 0⟩

private def threadLaunch : List (Event interface) × Code NTSTATUS × Machine :=
  drive Machine.environment respond 400 (enterVmxHandler 2) threadMachine

private theorem path_threadLaunch : Path Machine.environment (enterVmxHandler 2) threadMachine
    threadLaunch.1 threadLaunch.2.1 threadLaunch.2.2 :=
  drive_path _ _ respond_allowed _ _ _

private theorem issued_threadLaunch : threadLaunch.2.1.head? = some .vmlaunch := by decide +kernel

private theorem current_threadLaunch : threadLaunch.2.2.vmx.current? = some 0x3000 := by
  decide +kernel

private theorem succeeded_threadLaunch : ∀ write ∈ madeOf threadLaunch.1, write.2 = .succeed := by
  decide +kernel

theorem described_of_path_thread : ∃ events rest machine,
    Path Machine.environment (enterVmxHandler 2) threadMachine events rest machine ∧
      rest.head? = some .vmlaunch ∧ Described threadMachine (madeOf events) machine :=
  ⟨_, _, _, path_threadLaunch, issued_threadLaunch,
    described_of_path path_threadLaunch issued_threadLaunch⟩

theorem guest_eq_mirror_iff_thread :
    Mirrors (guest (threadLaunch.2.2.vmcs 0x3000)) threadLaunch.2.2.cpu ↔
      BitSubset vmxe (cr0Fixed1 threadLaunch.2.2.cpu) ∧ FsBaseInDescriptor threadLaunch.2.2.cpu ∧
        TrBaseRead threadLaunch.2.2.cpu ∧ SysenterCsFits threadLaunch.2.2.cpu := by
  have fsNames : NamesGdt (threadLaunch.2.2.cpu.selector .fs) := by decide +kernel
  have trNames : NamesGdt (threadLaunch.2.2.cpu.selector .tr) := by decide +kernel
  exact guest_eq_mirror_iff path_threadLaunch issued_threadLaunch current_threadLaunch
    succeeded_threadLaunch fsNames trNames

end Witnesses

end Guypervisor.Soundness.LaunchedVmcs
