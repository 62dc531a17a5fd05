import Guypervisor.Model.UserMode
import Guypervisor.Soundness.LoadOutcome
import Guypervisor.Soundness.RequestTrace

/-! # A request of the user-mode program

The user-mode program and the driver together, with any I/O manager between them that serves the
program's calls as documented. Every status that a request returns counts as success, so the program
never learns that entering VMX failed: where it reports a failure, no VMX instruction was executed.
-/

namespace Guypervisor.Soundness.UserRequest

open Effects Effects.Program Model UserMode Proofs RequestTrace

section Program

/-- What the program knows of its request: the answer, once there is one. -/
def desk : Environment userInterface (Option Bool) where
  allows _ _ _ := True
  next answer op response :=
    match op, response with
    | .deviceIoControl _, ioctl => some ioctl
    | _, _ => answer

/-- The program makes one request, and ends early only if it was not told that this succeeded. -/
def Careful (answer : Option Bool) : UserOp → Prop
  | .deviceIoControl parameters => answer = none ∧ parameters.ioControlCode = ioctlEnterVmx
  | .exit status => answer ≠ some true ∧ status = -1
  | _ => True

theorem ensures_main : main.Ensures desk Careful none fun result answer =>
    result = 0 ∧ answer = some true := by
  refine ⟨trivial, fun handle _ => ?_⟩
  change Ensures _ _ (if handle = invalidHandleValue then _ else _) _ _
  split
  · exact ⟨trivial, fun _ _ => ⟨trivial, fun _ _ => ⟨⟨nofun, rfl⟩, fun response => response.elim⟩⟩⟩
  · refine ⟨⟨rfl, rfl⟩, fun ioctl _ => ?_⟩
    cases ioctl with
    | false =>
      exact ⟨trivial, fun _ _ => ⟨trivial, fun _ _ => ⟨⟨nofun, rfl⟩, fun response => response.elim⟩⟩⟩
    | true => exact ⟨trivial, fun _ _ => ⟨trivial, fun _ _ => ⟨rfl, rfl⟩⟩⟩

end Program

section Manager

variable {manager : IoManager}

/-- At most one control request is passed to the driver, and the program ends early only if none
succeeded. -/
def Ruled (statuses : List NTSTATUS) : ManagerOp → Prop
  | .ioCallDriver irp =>
    irp.majorFunction = irpMjDeviceControl → statuses = [] ∧ irp.ioControlCode = ioctlEnterVmx
  | .serve (.exit code) => code = -1 ∧ ∀ status ∈ statuses, ntSuccess status = false
  | .serve _ => True

/-- The answer is made of the driver's. -/
def Reported (statuses : List NTSTATUS) : Option Bool → Prop
  | none => statuses = []
  | some ioctl => ioctl = true ↔ ∃ status ∈ statuses, ntSuccess status = true

theorem Reported.failed {statuses : List NTSTATUS} {answer : Option Bool}
    (reported : Reported statuses answer) (unsure : answer ≠ some true) :
    ∀ status ∈ statuses, ntSuccess status = false := by
  intro status member
  match answer with
  | none =>
    have empty : statuses = [] := reported
    rw [empty] at member
    exact absurd member List.not_mem_nil
  | some true => exact absurd rfl unsure
  | some false =>
    rw [Bool.eq_false_iff]
    exact fun success => Bool.false_ne_true (reported.mpr ⟨status, member, success⟩)

/-- Serving a call that is no control request changes nothing. -/
private theorem ensures_ordinary {op : UserOp} {answer : Option Bool} {statuses : List NTSTATUS}
    (confined : (manager op).Confined (Ordinary op) fun _ => True) (careful : Careful answer op)
    (reported : Reported statuses answer) :
    (manager op).Ensures requests Ruled statuses fun _ final => Reported final answer := by
  have kept : (manager op).Ensures requests Ruled statuses fun _ final => True ∧ final = statuses := by
    apply confined.keeps
    · rintro _ issued ordinary rfl
      cases issued with
      | ioCallDriver irp => exact fun control => absurd control ordinary
      | serve served =>
        obtain rfl : served = op := ordinary
        cases served with
        | exit status => exact ⟨careful.2, reported.failed careful.1⟩
        | _ => trivial
    · rintro _ issued response ordinary rfl _
      cases issued with
      | ioCallDriver irp => exact if_neg ordinary
      | serve served => rfl
    · rfl
  apply kept.mono
  rintro _ final ⟨-, rfl⟩
  exact reported

/-- The I/O manager keeps to what the program assumes. -/
theorem implements_manager (documented : Documented manager) :
    Implements manager desk Careful requests Ruled fun answer statuses => Reported statuses answer := by
  intro answer statuses op reported careful
  cases op with
  | deviceIoControl parameters =>
    obtain ⟨unasked, code⟩ := careful
    obtain rfl : statuses = [] := by rwa [unasked] at reported
    apply ((documented.controls parameters).of_legal fun now issued controls => ?_).mono
    · exact fun ioctl final reports => ⟨trivial, reports⟩
    · cases issued with
      | ioCallDriver irp =>
        intro control
        rw [← code]
        exact controls control
      | serve served =>
        obtain rfl : served = .deviceIoControl parameters := controls
        trivial
  | createFile | getLastError | output | exit | getchar =>
    refine (ensures_ordinary (documented.ordinary _ ?_) careful reported).mono fun _ _ same =>
      ⟨trivial, same⟩
    exact fun _ => nofun

end Manager

section Driver

/-- The routine for control requests is where it belongs, and nowhere else. -/
structure Serving (loaded : System) : Prop where
  control : loaded.majorFunction irpMjDeviceControl = some .ioctlHandlerIRP
  others : ∀ major, major ≠ irpMjDeviceControl → loaded.majorFunction major ≠ some .ioctlHandlerIRP

/-- A load that succeeds has left the table behind. -/
theorem serving_of_path {depth : ℕ} {system loaded : System} {events : List (Event driverInterface)}
    {status : NTSTATUS}
    (load : Path System.environment (driverEntry depth) system.mapImage events (.done status) loaded)
    (success : ntSuccess status = true) : Serving loaded := by
  have table := LoadOutcome.majorFunction_of_ntSuccess load success
  constructor
  · rw [table]
    rfl
  · intro major other
    rw [table, LoadOutcome.dispatchTable, if_neg other]
    split_ifs <;> simp [system.mapped_mapImage.majorFunction]

variable {σ : Type} {env : Environment sharedInterface σ} {loaded : System} {depth : ℕ}

private abbrev observed (env : Environment sharedInterface σ) :
    Environment sharedInterface (σ × List Instruction) := env.observing (observeLeft instruction)

/-- No VMX instruction was executed when the program ends early. -/
def Allowed (state : σ × List Instruction) : sharedInterface.A → Prop
  | .inl op => RequestTrace.Allowed state op
  | .inr (.serve (.exit code)) => code = -1 ∧ state.2 = []
  | .inr _ => True

/-- What the driver executed for the control requests so far: one session, or nothing. -/
structure Served (statuses : List NTSTATUS) (state : σ × List Instruction) : Prop where
  nothing : statuses = [] → state.2 = []
  session : statuses ≠ [] →
    ∃ session : Session, session.launched ≠ .succeed ∧ state.2 = session.instructions
  succeeded : ∀ status ∈ statuses, ntSuccess status = true

theorem Served.same {statuses : List NTSTATUS} {state final : σ × List Instruction}
    (served : Served statuses state) (sees : Seen state.2 final) : Served statuses final := by
  have same : final.2 = state.2 := sees
  constructor
  · rw [same]
    exact served.nothing
  · rw [same]
    exact served.session
  · exact served.succeeded

private abbrev running (env : Environment sharedInterface σ) :
    Environment interface (σ × List Instruction) := env.left.observing instruction

/-- The other routines only print. -/
theorem confined_call {routine : DispatchRoutine} (irp : Irp) (other : routine ≠ .ioctlHandlerIRP) :
    (routine.call depth irp).Confined IsQuiet fun _ => True := by
  cases routine with
  | ioctlHandlerIRP => exact absurd rfl other
  | generalHandlerIRP => exact confined_ask_bind trivial fun _ => trivial
  | createHandlerIRP | closeHandlerIRP | writeHandlerIRP =>
    exact confined_ask_bind trivial fun _ => confined_ask_bind trivial fun _ => trivial

/-- A control request is one session, and its status counts as success. -/
private theorem ensures_control {state : σ × List Instruction} (sees : Seen [] state) :
    (ioctlHandlerIRP depth ioctlEnterVmx).Ensures (running env) RequestTrace.Allowed state
      fun status final => ntSuccess status = true ∧
        ∃ session : Session, session.launched ≠ .succeed ∧ final.2 = session.instructions := by
  have none : state.2 = [] := sees
  have returned : Returned state.2 := by
    rw [none]
    exact .nil
  have produced : (enterVmxHandler depth).Ensures (running env) (fun _ _ => True) state
      fun status _ => DriverStatus status :=
    (confined_enterVmxHandler depth).ensures_everywhere fun _ _ _ => trivial
  rw [ioctlHandlerIRP, handleIoControlCode, if_pos rfl]
  apply (produced.and (ensures_enterVmxHandler returned)).bind
  rintro status between ⟨driverStatus, session, failed, seen⟩
  have completes : (do
      Code.setIoStatus status
      Code.completeRequest
      return status : Code NTSTATUS).Confined IsQuiet (· = status) :=
    confined_ask_bind trivial fun _ => confined_ask_bind trivial fun _ => rfl
  apply (ensures_quiet completes rfl).mono
  rintro _ final ⟨rfl, sees⟩
  refine ⟨driverStatus.ntSuccess, session, failed, ?_⟩
  rw [show final.2 = between.2 from sees, seen, none, List.nil_append]

/-- An operation that no driver takes part in. -/
private theorem ensures_system {op : ManagerOp} {state : σ × List Instruction}
    {post : op.Response → σ × List Instruction → Prop} (issued : Allowed state (.inr op))
    (answered : ∀ response final, Seen state.2 final → post response final) :
    (@Program.perform sharedInterface (.inr op)).Ensures (observed env) Allowed state post := by
  have sees : Seen state.2 state := rfl
  exact ⟨issued, fun response _ => answered response _ (sees.next (fun _ => rfl) response)⟩

/-- The driver keeps to what the program and the I/O manager assume. -/
theorem implements_callDriver (serving : Serving loaded) :
    Implements (callDriver loaded depth) requests Ruled (observed env) Allowed Served := by
  intro statuses state op served ruled
  have kept {final : σ × List Instruction} (sees : Seen state.2 final) : Served statuses final :=
    served.same sees
  cases op with
  | serve op =>
    have allowed : Allowed state (.inr (.serve op)) := by
      cases op with
      | exit code =>
        refine ⟨ruled.1, served.nothing (List.eq_nil_iff_forall_not_mem.mpr ?_)⟩
        intro status member
        exact absurd (served.succeeded status member) (by rw [ruled.2 status member]; decide)
      | _ => trivial
    exact ensures_system allowed fun _ _ sees => ⟨trivial, kept sees⟩
  | ioCallDriver irp =>
    by_cases control : irp.majorFunction = irpMjDeviceControl
    · obtain ⟨rfl, code⟩ := ruled control
      rw [callDriver, control, serving.control]
      apply (ensures_inLeft _ _ _).mpr
      rw [Environment.left_observing, DispatchRoutine.call, code]
      apply (ensures_control (served.nothing rfl)).mono
      rintro status final ⟨success, session⟩
      refine ⟨trivial, ?_⟩
      rw [show requests.next [] (.ioCallDriver irp) status = [status] from if_pos control]
      exact ⟨nofun, fun _ => session, by simpa using success⟩
    · have others := serving.others _ control
      have unasked (status : NTSTATUS) : requests.next statuses (.ioCallDriver irp) status = statuses :=
        if_neg control
      rw [callDriver]
      split
      · rename_i routine found
        rw [found] at others
        apply (ensures_inLeft _ _ _).mpr
        rw [Environment.left_observing]
        apply (ensures_quiet (confined_call irp fun same => others (congrArg some same)) rfl).mono
        rintro status final ⟨-, sees⟩
        exact ⟨trivial, (unasked status).symm ▸ kept sees⟩
      · exact ensures_system trivial fun status _ sees => ⟨trivial, (unasked status).symm ▸ kept sees⟩

/-- The program, the I/O manager and the driver together. -/
theorem ensures_run {manager : IoManager} (documented : Documented manager) (serving : Serving loaded)
    (state : σ) :
    (run manager loaded depth).Ensures (observed env) Allowed (state, []) fun result final =>
      result = 0 ∧
        ∃ session : Session, session.launched ≠ .succeed ∧ final.2 = session.instructions := by
  have served : Served [] ((state, []) : σ × List Instruction) :=
    ⟨fun _ => rfl, fun some => absurd rfl some, fun _ member => absurd member List.not_mem_nil⟩
  have reported : Reported [] none := rfl
  have asked := ensures_main.implemented (implements_manager documented) reported
  apply (asked.implemented (implements_callDriver serving) served).mono
  rintro result final ⟨statuses, served, answer, reported, returned, rfl⟩
  obtain ⟨status, member, -⟩ := reported.mp rfl
  exact ⟨returned, served.session (List.ne_nil_of_mem member)⟩

end Driver

section Runs

variable {σ : Type} {env : Environment sharedInterface σ} {entryDepth depth : ℕ} {manager : IoManager}
  {system loaded : System} {loading : List (Event driverInterface)} {status : NTSTATUS}
  {start final : σ} {events : List (Event sharedInterface)}

/-- **Once the driver is loaded, a run of the user-mode program that ends has executed one whole
session of VMX instructions, and reports success however these ended.** -/
theorem session_of_path (documented : Documented manager)
    (load : Path System.environment (driverEntry entryDepth) system.mapImage loading (.done status)
      loaded)
    (success : ntSuccess status = true) {result : BitVec 32}
    (path : Path env (run manager loaded depth) start events (.done result) final) :
    result = 0 ∧ ∃ session : Session, session.launched ≠ .succeed ∧
      events.filterMap (observeLeft instruction) = session.instructions :=
  (ensures_run documented (serving_of_path load success) start).post_of_path
    (path.observing (observeLeft instruction) [])

/-- **Where the program ends early no VMX instruction was executed: no failure of entering VMX is
ever reported.** -/
theorem refused_of_path (documented : Documented manager)
    (load : Path System.environment (driverEntry entryDepth) system.mapImage loading (.done status)
      loaded)
    (success : ntSuccess status = true) {rest : Program sharedInterface (BitVec 32)}
    (path : Path env (run manager loaded depth) start events rest final) {code : BitVec 32}
    (exits : rest.head? = some (.inr (.serve (.exit code)))) :
    code = -1 ∧ events.filterMap (observeLeft instruction) = [] :=
  (ensures_run documented (serving_of_path load success) start).legal_of_path
    (path.observing (observeLeft instruction) []) exits

end Runs

section Witnesses

/-- An I/O manager that makes one IRP of each call for the driver, and looks for the caller's
variables only after that. -/
def plainManager : IoManager
  | .createFile parameters => do
    let status ← ioCallDriver ⟨irpMjCreate, 6, 0⟩
    if ntSuccess status then serve (.createFile parameters) else return invalidHandleValue
  | .deviceIoControl parameters => do
    let status ← ioCallDriver ⟨irpMjDeviceControl, 6, parameters.ioControlCode⟩
    let _ ← serve (.deviceIoControl parameters)
    return ntSuccess status
  | op => serve op

theorem documented_plainManager : Documented plainManager := by
  constructor
  · intro op other
    cases op with
    | createFile parameters =>
      have ordinary : irpMjCreate ≠ irpMjDeviceControl := by decide
      refine ⟨ordinary, fun status => ?_⟩
      change Confined _ _ (if ntSuccess status then _ else _)
      split
      · exact ⟨rfl, fun _ => trivial⟩
      · trivial
    | deviceIoControl parameters => exact absurd rfl (other parameters)
    | getLastError | output | exit | getchar => exact ⟨rfl, fun _ => trivial⟩
  · intro parameters
    refine ⟨fun _ => ⟨rfl, rfl⟩, fun status _ => ⟨rfl, fun _ _ => ?_⟩⟩
    change _ ↔ ∃ other ∈ [status], _
    simp

private abbrev anyAnswer : Environment sharedInterface Unit := FailureReporting.anyOutcome.beside

variable {loaded : System}

/-- The device is opened, with this answer of the I/O manager. -/
private theorem reaches_opened {parameters : FileParameters}
    (create : loaded.majorFunction irpMjCreate = some .createHandlerIRP) (handle : BitVec 64) :
    Reaches anyAnswer ((plainManager (.createFile parameters)).implemented (callDriver loaded 2)) ()
      (.done handle) () := by
  have created : Reaches FailureReporting.anyOutcome createHandlerIRP () (.done statusSuccess) () := by
    apply Reaches.stay () trivial rfl
    apply Reaches.stay () trivial rfl
    exact .refl _ _
  change Reaches _ (callDriver loaded 2 (.ioCallDriver ⟨irpMjCreate, 6, 0⟩) >>= _) _ _ _
  rw [callDriver, create]
  apply created.beside.andThen
  exact .step handle trivial (.refl _ _)

/-- The request is served, as `VMLAUNCH` fails. -/
private theorem reaches_served {parameters : ControlParameters}
    (control : loaded.majorFunction irpMjDeviceControl = some .ioctlHandlerIRP)
    (code : parameters.ioControlCode = ioctlEnterVmx) :
    Reaches anyAnswer ((plainManager (.deviceIoControl parameters)).implemented (callDriver loaded 2))
      () (.done true) () := by
  have served : Reaches FailureReporting.anyOutcome (ioctlHandlerIRP 2 ioctlEnterVmx) ()
      (.done statusFailedVmlaunch) () :=
    reaches_drive allows_of_launchFails 400 _ (by decide +kernel)
  change Reaches _ (callDriver loaded 2 (.ioCallDriver ⟨irpMjDeviceControl, 6, _⟩) >>= _) _ _ _
  rw [callDriver, control, code]
  apply served.beside.andThen
  exact .step true trivial (.refl _ _)

/-- A program that is given a handle. -/
theorem session_of_path_launchFails : ∃ loaded events,
    Path anyAnswer (run plainManager loaded 2) () events (.done 0) () ∧
      ∃ session : Session, session.launched ≠ .succeed ∧
        events.filterMap (observeLeft instruction) = session.instructions := by
  obtain ⟨loaded, _, load⟩ := LoadBalance.returns_driverEntry
  have table := LoadOutcome.majorFunction_of_ntSuccess load (by decide)
  have reaches : Reaches anyAnswer (run plainManager loaded 2) () (.done 0) () := by
    change Reaches _ (implemented _ (plainManager (.createFile _) >>= _)) _ _ _
    rw [implemented_bind]
    apply (reaches_opened (by rw [table]; rfl) 4).andThen
    change Reaches _ (implemented _ (plainManager (.deviceIoControl _) >>= _)) _ _ _
    rw [implemented_bind]
    apply (reaches_served (by rw [table]; rfl) rfl).andThen
    apply Reaches.step () trivial
    apply Reaches.step (0 : BitVec 32) trivial
    exact .refl _ _
  obtain ⟨events, path⟩ := reaches
  exact ⟨loaded, events, path, (session_of_path documented_plainManager load (by decide) path).2⟩

/-- A program that is refused one. -/
theorem refused_of_path_invalid : ∃ loaded events rest,
    Path anyAnswer (run plainManager loaded 2) () events rest () ∧
      rest.head? = some (.inr (.serve (.exit (-1)))) ∧
      events.filterMap (observeLeft instruction) = [] := by
  obtain ⟨loaded, _, load⟩ := LoadBalance.returns_driverEntry
  have table := LoadOutcome.majorFunction_of_ntSuccess load (by decide)
  have reaches : ∃ rest, Reaches anyAnswer (run plainManager loaded 2) () rest () ∧
      rest.head? = some (.inr (.serve (.exit (-1)))) := by
    refine ⟨?rest, ?reached, ?exits⟩
    case reached =>
      change Reaches _ (implemented _ (plainManager (.createFile _) >>= _)) _ _ _
      rw [implemented_bind]
      apply (reaches_opened (by rw [table]; rfl) invalidHandleValue).andThen
      apply Reaches.step (2 : BitVec 32) trivial
      apply Reaches.step () trivial
      exact .refl _ _
    case exits => rfl
  obtain ⟨rest, ⟨events, path⟩, exits⟩ := reaches
  exact ⟨loaded, events, rest, path, exits,
    (refused_of_path documented_plainManager load (by decide) path exits).2⟩

end Witnesses

end Guypervisor.Soundness.UserRequest
