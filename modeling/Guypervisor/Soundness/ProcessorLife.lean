import Guypervisor.Model.LogicalProcessor
import Guypervisor.Proofs.Life
import Guypervisor.Soundness.FixedBits
import Guypervisor.Soundness.VmxProtocol

/-! # The processor over any number of lives of the driver

The driver is loaded, serves IRPs and is unloaded, again and again, on one processor. As long as
entering VMX succeeds, every VMX instruction of all of that keeps to the protocol. However the
instructions end, the driver is outside VMX operation whenever it is not serving a request. And the
first request leaves its mark for good: CR0 and CR4 are clamped once and never given back.
-/

namespace Guypervisor.Soundness.ProcessorLife

open Effects Effects.Program Model Code DriverCode Proofs VmxProtocol FixedBits

section Protocol

/-- The protocol of the VMX instructions among the operations of the whole driver. -/
def LegalVmx (state : VmxState) : driverInterface.A → Prop
  | .inl op => state.Legal op
  | .inr _ => True

/-- Any number of lives keep to the protocol, and leave VMX operation. -/
theorem ensures_driverLives (lives : List Life) :
    (driverLives lives).Ensures (anyOutcome.restrict EntrySucceeds).beside LegalVmx .off
      fun _ final => final = .off := by
  apply ensures_driverLives_of_keeps
  · rintro _ op outside rfl
    match op with
    | .inl op => cases op <;> first | trivial | exact (outside.elim id id).elim
    | .inr _ => trivial
  · rintro _ op response outside rfl _
    match op with
    | .inl op => cases op <;> first | rfl | exact (outside.elim id id).elim
    | .inr _ => rfl
  · rintro depth _ rfl
    exact (ensures_inLeft _ _ _).mpr (entering_enterVmxHandler depth)
  · rfl

/-- **Where every entry succeeds, each VMX instruction of any number of lives of the driver is issued
in a state of the processor in which it is legal.** -/
theorem legal_of_entrySucceeds {lives : List Life} {events : List (Event driverInterface)}
    {rest : DriverCode Unit} {state : VmxState} {op : Op}
    (path : Path (anyOutcome.restrict EntrySucceeds).beside (driverLives lives) .off events rest state)
    (issued : rest.head? = some (.inl op)) : state.Legal op :=
  (ensures_driverLives lives).legal_of_path path issued

private theorem exists_entering (state : VmxState) (op : Op) (outside : IsOutside (.inl op)) :
    ∃ response, (anyOutcome.restrict EntrySucceeds).allows state op response ∧
      (anyOutcome.restrict EntrySucceeds).next state op response = state := by
  cases op <;> first
    | exact ⟨(), ⟨trivial, trivial⟩, rfl⟩
    | exact ⟨(0 : BitVec 64), ⟨trivial, trivial⟩, rfl⟩
    | exact ⟨(⟨0, 0, 0, 0⟩ : CpuInfo), ⟨trivial, trivial⟩, rfl⟩
    | exact (outside.elim id id).elim

/-- A load that gets as far as `VMLAUNCH`. -/
theorem legal_of_entrySucceeds_launch : ∃ events rest state,
    Path (anyOutcome.restrict EntrySucceeds).beside (driverLives [⟨2, []⟩]) .off events rest state ∧
      rest.head? = some (.inl .vmlaunch) ∧ state.Legal .vmlaunch := by
  have free (op : driverInterface.A) (response : driverInterface.B op) (decides : DecidesLoading op) :
      (anyOutcome.restrict EntrySucceeds).beside.allows .off op response ∧
        (anyOutcome.restrict EntrySucceeds).beside.next .off op response = .off := by
    match op, decides with
    | .inl .readEflags, _ | .inl (.cpuid _), _ => exact ⟨⟨trivial, trivial⟩, rfl⟩
    | .inr _, _ => exact ⟨trivial, rfl⟩
  have launched : (drive (anyOutcome.restrict EntrySucceeds) (fun _ => Op.launchFails) 301
      (enterVmxHandler 2) .off).2.1.head? = some .vmlaunch := by decide +kernel
  have inside : Reaches (anyOutcome.restrict EntrySucceeds) (enterVmxHandler 2) .off _ _ :=
    ⟨_, drive_path _ (fun _ => Op.launchFails) entrySucceeds_of_launchFails 301 _ _⟩
  obtain ⟨rest, ⟨events, path⟩, issued⟩ :=
    exists_issued free (exists_beside (exists_entering .off)) inside.beside (head?_inLeft launched)
  exact ⟨events, rest, _, path, issued, legal_of_entrySucceeds path issued⟩

end Protocol

section Outside

/-- Serving a request to enter VMX asks nothing of the I/O manager or of the allocators, completes no
IRP and stores nothing in the context; all of this is done outside VMX operation. -/
def OffOutside (processor : LogicalProcessor) : driverInterface.A → Prop
  | .inl op => ¬ IsRequestWork op → processor.vmx = .off
  | .inr _ => processor.vmx = .off

/-- However its instructions end, a request that returns has left VMX operation. -/
theorem ensures_enterVmxHandler (depth : ℕ) (processor : LogicalProcessor) :
    (enterVmxHandler depth).Ensures LogicalProcessor.reloading
      (fun processor op => OffOutside processor (.inl op)) processor
      fun _ final => final.vmx = .off := by
  have inside {program : Code NTSTATUS} {results : NTSTATUS → Prop}
      (confined : program.Confined IsRequestWork results) (processor : LogicalProcessor) :
      program.Ensures LogicalProcessor.reloading
        (fun processor op => OffOutside processor (.inl op)) processor fun _ _ => True :=
    (confined.ensures_everywhere fun _ _ work other => absurd work other).mono fun _ _ _ => trivial
  have after {program : Code NTSTATUS} (confined : program.Confined IsAfterEntry DriverStatus) :
      program.Confined IsRequestWork DriverStatus :=
    confined.mono (fun _ => IsAfterEntry.isRequestWork) fun _ => id
  rw [enterVmxHandler_eq]
  apply ensures_call fun other => absurd trivial other
  apply (inside confined_enterVmxonMode _).bind
  intro _ _ _
  apply (inside confined_initializeVMCS _).bind
  intro _ _ _
  have populated : (populateActiveVMCS depth).Confined IsRequestWork DriverStatus :=
    (confined_populateActiveVMCS depth).mono (fun _ => IsFieldWork.isRequestWork) fun _ => id
  apply (inside populated _).bind
  intro _ _ _
  apply (inside (after (confined_launchGuest depth)) _).bind
  intro _ _ _
  apply (inside (after (confined_clearActiveVMCS depth)) _).bind
  intro _ _ _
  refine ensures_ask_bind (fun other => absurd trivial other) fun _ _ => ?_
  exact ⟨fun other => absurd trivial other, rfl⟩

/-- **However the VMX instructions end, over any number of lives the driver calls the I/O manager and
the allocators, completes IRPs and returns from its unloading outside VMX operation.** -/
theorem offOutside_of_path {lives : List Life} {start : LogicalProcessor} (off : start.vmx = .off) :
    (∀ events rest processor op,
      Path LogicalProcessor.reloading.beside (driverLives lives) start events rest processor →
        rest.head? = some op → OffOutside processor op) ∧
    ∀ events processor, Path LogicalProcessor.reloading.beside (driverLives lives) start events
      (.done ()) processor → processor.vmx = .off := by
  have ensured : (driverLives lives).Ensures LogicalProcessor.reloading.beside OffOutside start
      fun _ final => final.vmx = .off := by
    apply ensures_driverLives_of_keeps
    · intro processor op _ off
      match op with
      | .inl _ => exact fun _ => off
      | .inr _ => exact off
    · intro processor op response outside off _
      match op with
      | .inl op =>
        rcases LogicalProcessor.vmx_next_of_off op response off with still | ⟨region, entered⟩
        · exact still
        · obtain rfl : op = .vmxon region := congrArg Sigma.fst entered
          exact (outside.elim id id).elim
      | .inr _ => exact off
    · intro depth processor _
      exact (ensures_inLeft _ _ _).mpr (ensures_enterVmxHandler depth processor)
    · exact off
  constructor
  · intro events rest processor op path issued
    exact ensured.legal_of_path path issued
  · intro events processor path
    exact ensured.post_of_path path

private theorem exists_outside (processor : LogicalProcessor) (op : Op)
    (outside : IsOutside (.inl op)) : ∃ response,
      LogicalProcessor.reloading.allows processor op response ∧
        LogicalProcessor.reloading.next processor op response = processor := by
  cases op <;> first
    | exact ⟨(), ⟨.paged, trivial⟩, rfl⟩
    | exact ⟨_, ⟨.paged, rfl⟩, rfl⟩
    | exact ⟨(0 : BitVec 64), ⟨.paged, trivial⟩, rfl⟩
    | exact ⟨(⟨0, 0, 0, 0⟩ : CpuInfo), ⟨.paged, trivial⟩, rfl⟩
    | exact (outside.elim id id).elim

/-- What a load asks first is answered in any way. -/
private theorem decides_free (op : driverInterface.A) (response : driverInterface.B op)
    (decides : DecidesLoading op) :
    LogicalProcessor.reloading.beside.allows .idle op response ∧
      LogicalProcessor.reloading.beside.next .idle op response = .idle := by
  match op, decides with
  | .inl .readEflags, _ | .inl (.cpuid _), _ => exact ⟨⟨.paged, trivial⟩, rfl⟩
  | .inr _, _ => exact ⟨trivial, rfl⟩

/-- A life whose request ends as `VMLAUNCH` fails, from any context and members. -/
private theorem reaches_life (lives : List Life) : Reaches LogicalProcessor.reloading.beside
    (driverLives (⟨2, []⟩ :: lives)) .idle (driverLives lives) .idle := by
  have answered (processor : LogicalProcessor) (op : Op) (response : op.Response)
      (given : processor.launchFails op = some response) :
      LogicalProcessor.reloading.allows processor op response :=
    ⟨.paged, LogicalProcessor.answers_of_launchFails processor op response given⟩
  obtain ⟨final, request, rfl⟩ : ∃ final, Reaches LogicalProcessor.reloading (enterVmxHandler 2) .idle
      (.done statusFailedVmlaunch) final ∧ final = .idle :=
    ⟨_, reaches_drive answered 400 _ (by decide +kernel), by decide +kernel⟩
  have life := reaches_driverLife decides_free (exists_beside (exists_outside .idle)) request.beside
    (exists_beside (exists_outside .idle))
  exact life.andThen (.refl _ _)

/-- Two lives, each with a request of its own. -/
theorem offOutside_of_path_twice : ∃ events processor,
    Path LogicalProcessor.reloading.beside (driverLives [⟨2, []⟩, ⟨2, []⟩]) .idle events (.done ())
      processor ∧ processor.vmx = .off := by
  obtain ⟨events, path⟩ := (reaches_life [⟨2, []⟩]).trans (reaches_life [])
  exact ⟨events, _, path, (offOutside_of_path rfl).2 _ _ path⟩

end Outside

section Registers

variable {cpu : ProcessorState}

/-- A request to enter VMX begins. -/
def requestOf : Event driverInterface → Option Unit
  | ⟨.inl (.enter .enterVmxHandler), _⟩ => some ()
  | _ => none

/-- The registers of a processor, with the requests so far. -/
abbrev observed (cpu : ProcessorState) : Environment driverInterface (ControlRegisters × List Unit) :=
  (controlRegisters cpu).beside.observing requestOf

private theorem clamped_again (word low high mark : BitVec 64) :
    ((((word ||| low) &&& high ||| mark) ||| low) &&& high) ||| mark =
      ((word ||| low) &&& high) ||| mark := by
  apply BitVec.eq_of_getLsbD_eq
  intro i _
  simp only [BitVec.getLsbD_or, BitVec.getLsbD_and]
  cases word.getLsbD i <;> cases low.getLsbD i <;> cases high.getLsbD i <;>
    cases mark.getLsbD i <;> rfl

/-- Clamping what was clamped changes nothing. -/
theorem atVmxon_atVmxon (cpu : ProcessorState) (registers : ControlRegisters) :
    atVmxon cpu (atVmxon cpu registers) = atVmxon cpu registers := by
  have cr0 := clamped_again registers.cr0 (cr0Fixed0 cpu) (cr0Fixed1 cpu) 0#64
  have cr4 := clamped_again registers.cr4 (cr4Fixed0 cpu) (cr0Fixed1 cpu) vmxe
  simp only [BitVec.or_zero] at cr0
  rw [atVmxon, atVmxon, cr0, cr4]

/-- The registers are as they were before the first request, and clamped after it. -/
def Settled (cpu : ProcessorState) (before : ControlRegisters)
    (state : ControlRegisters × List Unit) : Prop :=
  state.1 = if state.2 = [] then before else atVmxon cpu before

/-- Leaving CR0 and CR4 alone, and beginning no request. -/
def KeepsControl : Op → Prop
  | .writeCr0 _ | .writeCr4 _ | .enter .enterVmxHandler => False
  | _ => True

/-- No operation is excluded. -/
private abbrev anyOp (_ : ControlRegisters × List Unit) (_ : driverInterface.A) : Prop := True

private theorem next_of_keepsControl (cpu : ProcessorState) {op : Op} (keeps : KeepsControl op)
    (state : ControlRegisters × List Unit) (response : op.Response) :
    (observed cpu).next state (.inl op) response = state := by
  have silent : requestOf ⟨.inl op, response⟩ = none := by
    cases op with
    | enter routine => cases routine <;> first | rfl | exact keeps.elim
    | _ => rfl
  have kept : (controlRegisters cpu).next state.1 op response = state.1 := by
    cases op <;> first | rfl | exact keeps.elim
  change ((controlRegisters cpu).next state.1 op response, _ ++ (requestOf ⟨.inl op, response⟩).toList) = _
  rw [silent, kept]
  exact congrArg (Prod.mk _) (List.append_nil _)

private theorem ensures_of_keepsControl {program : Code NTSTATUS}
    {state : ControlRegisters × List Unit}
    (confined : program.Confined KeepsControl fun _ => True) :
    program.Ensures (observed cpu).left (fun _ _ => True) state fun _ final => final = state := by
  have passes : Passes (observed cpu).left (fun _ _ => True) KeepsControl state :=
    ⟨fun _ _ => trivial, fun _ response keeps _ => next_of_keepsControl cpu keeps state response⟩
  exact (confined.ensures passes).mono fun _ _ ended => ended.2

/-- `EnterVmxonMode` clamps the registers it finds. -/
private theorem ensures_enterVmxonMode (registers : ControlRegisters) (seen : List Unit) :
    enterVmxonMode.Ensures (observed cpu).left (fun _ _ => True) (registers, seen)
      fun _ final => final = (atVmxon cpu registers, seen) := by
  refine ensures_ask_bind trivial fun _ _ => ?_
  refine ensures_ask_bind trivial fun context _ => ?_
  refine ensures_ask_bind trivial fun cr0 read => ?_
  obtain rfl : cr0 = registers.cr0 := read
  refine ensures_ask_bind trivial fun fixed0 read => ?_
  obtain rfl : fixed0 = cr0Fixed0 cpu := read
  refine ensures_ask_bind trivial fun fixed1 read => ?_
  obtain rfl : fixed1 = cr0Fixed1 cpu := read
  refine ensures_ask_bind trivial fun _ _ => ?_
  refine ensures_ask_bind trivial fun cr4 read => ?_
  obtain rfl : cr4 = registers.cr4 := read
  refine ensures_ask_bind trivial fun fixed0 read => ?_
  obtain rfl : fixed0 = cr4Fixed0 cpu := read
  refine ensures_ask_bind trivial fun fixed1 read => ?_
  obtain rfl : fixed1 = cr0Fixed1 cpu := read
  refine ensures_ask_bind trivial fun _ _ => ?_
  refine ensures_ask_bind trivial fun cr4 read => ?_
  have bounded : cr4 = (registers.cr4 ||| cr4Fixed0 cpu) &&& cr0Fixed1 cpu := read
  subst bounded
  refine ensures_ask_bind trivial fun _ _ => ?_
  refine (ensures_of_keepsControl ?_).mono ?_
  · iterate 8 refine confined_ask_bind trivial fun _ => ?_
    refine confined_ask_bind trivial fun outcome => ?_
    cases outcome <;> exact ⟨trivial, fun _ => trivial⟩
  · rintro _ _ rfl
    refine Prod.ext rfl ?_
    simp [Environment.left, Environment.observing, requestOf]

private theorem keepsControl_initializeVMCS :
    initializeVMCS.Confined KeepsControl fun _ => True := by
  apply confined_initializeVMCS'.mono
  · intro op initializing
    cases op with
    | enter routine => cases routine <;> trivial
    | _ => trivial
  · exact fun _ => id

private theorem keepsControl_populateActiveVMCS (depth : ℕ) :
    (populateActiveVMCS depth).Confined KeepsControl fun _ => True := by
  apply (confined_populateActiveVMCS depth).mono
  · intro op work
    cases op with
    | enter routine => cases routine <;> trivial
    | _ => trivial
  · exact fun _ _ => trivial

/-- Reporting an error reads fields only. -/
private theorem keepsControl_report (depth : ℕ) (status : NTSTATUS) :
    (do
      let _ ← printVMXError depth
      return status : Code NTSTATUS).Confined KeepsControl fun _ => True := by
  have printed : (printVMXError depth).Confined KeepsControl DriverStatus := by
    apply (confined_printVMXError depth).mono
    · intro op read
      cases op <;> trivial
    · exact fun _ => id
  exact printed.bind fun _ _ => trivial

private theorem keepsControl_launchGuest (depth : ℕ) :
    (launchGuest depth).Confined KeepsControl fun _ => True := by
  refine confined_call trivial trivial ?_
  refine confined_ask_bind trivial fun outcome => ?_
  cases outcome with
  | succeed => exact ⟨trivial, fun response => response.elim⟩
  | failInvalid | failValid => exact keepsControl_report depth _

private theorem keepsControl_enterVmxCleanup (depth : ℕ) (status : NTSTATUS) :
    (enterVmxCleanup depth true true status).Confined KeepsControl fun _ => True := by
  have cleared : (clearActiveVMCS depth).Confined KeepsControl fun _ => True := by
    refine confined_call trivial trivial ?_
    refine confined_ask_bind trivial fun ⟨outcome, stored⟩ => ?_
    dsimp only
    generalize (if outcome = .succeed then stored else 0) = address
    split
    · exact keepsControl_report depth _
    · refine confined_ask_bind trivial fun cleared => ?_
      cases cleared with
      | succeed | failInvalid => trivial
      | failValid => exact keepsControl_report depth _
  apply cleared.bind
  intro _ _
  exact confined_ask_bind trivial fun _ => trivial

/-- A request clamps the registers, and does nothing else to them. -/
private theorem ensures_enterVmxHandler_settled (depth : ℕ) {before : ControlRegisters}
    {state : ControlRegisters × List Unit} (settled : Settled cpu before state) :
    (enterVmxHandler depth).Ensures (observed cpu).left (fun _ _ => True) state
      fun _ final => Settled cpu before final := by
  obtain ⟨registers, seen⟩ := state
  have again : atVmxon cpu registers = atVmxon cpu before := by
    rw [show registers = _ from settled]
    split
    · rfl
    · exact atVmxon_atVmxon cpu before
  have left (state : ControlRegisters × List Unit) :
      (observed cpu).left.next state (.leave .enterVmxHandler) () = state := by
    have keeps : KeepsControl (.leave .enterVmxHandler) := trivial
    exact next_of_keepsControl cpu keeps state ()
  rw [enterVmxHandler_eq]
  apply ensures_call trivial
  apply (ensures_enterVmxonMode registers (seen ++ [()])).bind
  rintro _ _ rfl
  have rest : (do
      let _ ← initializeVMCS
      let _ ← populateActiveVMCS depth
      let status ← launchGuest depth
      enterVmxCleanup depth true true status).Confined KeepsControl fun _ => True := by
    apply keepsControl_initializeVMCS.bind
    intro _ _
    apply (keepsControl_populateActiveVMCS depth).bind
    intro _ _
    apply (keepsControl_launchGuest depth).bind
    intro status _
    exact keepsControl_enterVmxCleanup depth status
  apply (ensures_of_keepsControl rest).mono
  rintro _ _ rfl
  refine ⟨trivial, ?_⟩
  rw [left, Settled, if_neg (List.concat_ne_nil _ _), again]

/-- **However often the driver is loaded, asked to enter VMX and unloaded, CR0 and CR4 are as they were
before if no request was made, and otherwise as the first request clamped them.** -/
theorem registers_of_path {lives : List Life} {before final : ControlRegisters}
    {events : List (Event driverInterface)}
    (path : Path (controlRegisters cpu).beside (driverLives lives) before events (.done ()) final) :
    final = if events.filterMap requestOf = [] then before else atVmxon cpu before := by
  have ensured : (driverLives lives).Ensures (observed cpu) (fun _ _ => True) (before, [])
      fun _ final => Settled cpu before final := by
    apply ensures_driverLives_of_keeps
    · exact fun _ _ _ _ => trivial
    · rintro ⟨registers, seen⟩ op response outside settled _
      match op with
      | .inl op =>
        have keeps : KeepsControl op := by
          cases op <;> first | trivial | exact (outside.elim id id).elim
        rw [next_of_keepsControl cpu keeps]
        exact settled
      | .inr op =>
        change Settled cpu before (registers, seen ++ [])
        rw [List.append_nil]
        exact settled
    · intro depth state settled
      exact (ensures_inLeft _ _ _).mpr (ensures_enterVmxHandler_settled depth settled)
    · rfl
  exact ensured.post_of_path (path.observing requestOf [])

/-- What a processor answers whose `VMLAUNCH` fails. -/
private def launchFailing (registers : ControlRegisters) : (op : Op) → Option op.Response
  | .readCr0 => some registers.cr0
  | .readCr4 => some registers.cr4
  | .readMsr msr => some (wideCpu.msr msr.address)
  | op => op.launchFails

private theorem launchFailing_allowed (registers : ControlRegisters) (op : Op) (response : op.Response)
    (answered : launchFailing registers op = some response) :
    (controlRegisters wideCpu).allows registers op response := by
  cases op with
  | readCr0 | readCr4 | readMsr => exact (Option.some.inj answered).symm
  | _ => trivial

private theorem exists_control (registers : ControlRegisters) (op : Op)
    (outside : IsOutside (.inl op)) : ∃ response,
      (controlRegisters wideCpu).allows registers op response ∧
        (controlRegisters wideCpu).next registers op response = registers := by
  cases op <;> first
    | exact ⟨(), trivial, rfl⟩
    | exact ⟨(0 : BitVec 64), trivial, rfl⟩
    | exact ⟨(⟨0, 0, 0, 0⟩ : CpuInfo), trivial, rfl⟩
    | exact (outside.elim id id).elim

/-- A life with a request, on a processor whose CR4 is clamped. -/
theorem registers_of_path_wide : ∃ events final,
    Path (controlRegisters wideCpu).beside (driverLives [⟨2, []⟩]) ⟨0x80050033, 0x100000020⟩ events
      (.done ()) final ∧
    final = if events.filterMap requestOf = [] then ⟨0x80050033, 0x100000020⟩
      else atVmxon wideCpu ⟨0x80050033, 0x100000020⟩ := by
  have free (op : driverInterface.A) (response : driverInterface.B op) (decides : DecidesLoading op) :
      (controlRegisters wideCpu).beside.allows ⟨0x80050033, 0x100000020⟩ op response ∧
        (controlRegisters wideCpu).beside.next ⟨0x80050033, 0x100000020⟩ op response =
          ⟨0x80050033, 0x100000020⟩ := by
    match op, decides with
    | .inl .readEflags, _ | .inl (.cpuid _), _ | .inr _, _ => exact ⟨trivial, rfl⟩
  have request : Reaches (controlRegisters wideCpu) (enterVmxHandler 2) ⟨0x80050033, 0x100000020⟩
      (.done statusFailedVmlaunch) _ :=
    reaches_drive launchFailing_allowed 400 _ (by decide +kernel)
  obtain ⟨events, path⟩ := reaches_driverLives free (exists_beside (exists_control _))
    request.beside (exists_beside (exists_control _))
  exact ⟨events, _, path, registers_of_path path⟩

end Registers

end Guypervisor.Soundness.ProcessorLife
