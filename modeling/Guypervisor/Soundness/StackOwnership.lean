import Guypervisor.Model.StackFrames
import Guypervisor.Proofs.Stages
import Guypervisor.Soundness.CompleteContext

/-! # Whose stacks guest and host run on

The stack pointers of guest and host are written by `PopulateActiveVMCS`, which takes them from two
local arrays. When `LaunchGuest` executes `VMLAUNCH` the frame that holds the arrays has returned:
the only frame that can lie where they were is that of `LaunchGuest` itself, which cannot be the
stack of both. The blocks allocated for the two stacks are not used.
-/

namespace Guypervisor.Soundness.StackOwnership

open Effects Effects.Program Model Code Proofs

/-- Two ranges for the stacks of guest and host. A range that is itself an open frame is not held
to be apart from itself. -/
structure AreStacks (placement : StackPlacement) (state : RequestStacks) (guest host : Block 64) :
    Prop where
  guestOwned : placement.Owned state guest
  hostOwned : placement.Owned state host
  guestInside : ∀ pointer, state.stackPointer .guestStack = some pointer → guest.Contains pointer
  hostInside : ∀ pointer, state.stackPointer .hostStack = some pointer → host.Contains pointer
  apart : guest.Apart host
  guestFrames : ∀ frame ∈ placement.openFrames state, frame ≠ guest → frame.Apart guest
  hostFrames : ∀ frame ∈ placement.openFrames state, frame ≠ host → frame.Apart host

/-- The stack pointers that were written lead into live, separate stacks. -/
def OnLiveStacks (placement : StackPlacement) (state : RequestStacks) : Prop :=
  ∃ guest host, AreStacks placement state guest host

/-- Where a request stands: the blocks are those it began with, the given frames are open, and a
stack pointer that was written is the end of its array. -/
structure Stands (placement : StackPlacement) (frames : List Routine) (state : RequestStacks) :
    Prop where
  heap : state.heap = placement.heap
  frames : state.frames = frames
  pointers : ∀ array pointer, state.stackPointer array = some pointer →
    pointer = placement.array array + 4096 - 8

/-- `VMLAUNCH` is executed by `LaunchGuest`, called by the handler. -/
private def LaunchesLast (placement : StackPlacement) (state : RequestStacks) (op : Op) : Prop :=
  op = .vmlaunch → Stands placement [.launchGuest, .enterVmxHandler] state

section Run

variable {placement : StackPlacement} {frames : List Routine} {state : RequestStacks} {α : Type}
  {post : α → RequestStacks → Prop}

theorem stackPointerOf_eq_none {field : VmcsFieldEncoding}
    (other : field ≠ .kGuestRsp ∧ field ≠ .kHostRsp) : field.stackPointerOf = none := by
  obtain ⟨notGuest, notHost⟩ := other
  unfold VmcsFieldEncoding.stackPointerOf
  split
  · contradiction
  · contradiction
  · rfl

/-- The body of a stage leaves frames and stack pointers as they are. -/
private theorem bodyWork_passes (placement : StackPlacement) (state : RequestStacks) :
    Passes placement.environment (LaunchesLast placement) IsBodyWork state where
  issues := by
    rintro _ work rfl
    exact work.elim
  steady op response work _ := by
    cases op with
    | vmwrite field value =>
      have kept := RequestStacks.nextStackPointer_of_none (stackPointerOf_eq_none work)
        state.stackPointer value response
      exact congrArg (RequestStacks.mk state.heap state.frames) kept
    | _ => first | rfl | exact work.elim

/-- A stage opens and closes its frame, and leaves the rest as it was. -/
private theorem ensures_stage {routine : Routine} {stage : Code NTSTATUS}
    (isStage : IsStage routine stage) (state : RequestStacks) :
    stage.Ensures placement.environment (LaunchesLast placement) state
      fun _ final => final = state := by
  obtain ⟨body, rfl, confined⟩ := isStage
  apply ensures_call nofun
  apply (confined.ensures (bodyWork_passes placement _)).mono
  rintro _ _ ⟨-, rfl⟩
  exact ⟨nofun, rfl⟩

/-- A field that is no stack pointer is written, or one is written with the end of its array. -/
private theorem ensures_write_bind {depth : ℕ} {field : VmcsFieldEncoding} {value : BitVec 64}
    {next : NTSTATUS → Code α} (stands : Stands placement frames state)
    (ends : ∀ stack, field.stackPointerOf = some stack → value = placement.array stack + 4096 - 8)
    (rest : ∀ status final, DriverStatus status → Stands placement frames final →
      (next status).Ensures placement.environment (LaunchesLast placement) final post) :
    (writeVMCSField64 depth field value >>= next).Ensures placement.environment
      (LaunchesLast placement) state post := by
  apply ensures_ask_bind nofun
  intro outcome _
  have written : Stands placement frames
      (placement.environment.next state (.vmwrite field value) outcome) := by
    constructor
    · exact stands.heap
    · exact stands.frames
    · intro stack pointer found
      rcases RequestStacks.nextStackPointer_eq_some found with before | ⟨pointed, rfl⟩
      · exact stands.pointers stack pointer before
      · exact ends stack pointed
  have report : ∀ status, DriverStatus status →
      ((do let _ ← printVMXError depth; return status) >>= next).Ensures placement.environment
        (LaunchesLast placement) (placement.environment.next state (.vmwrite field value) outcome)
        post := by
    intro status driverStatus
    rw [bind_assoc]
    have printed : (printVMXError depth).Confined IsBodyWork DriverStatus :=
      (confined_printVMXError depth).mono (fun _ => IsFieldRead.isBodyWork) fun _ => id
    apply printed.ensures_bind (bodyWork_passes placement _)
    intro _ _
    exact rest _ _ driverStatus written
  cases outcome with
  | succeed => exact rest _ _ driverStatus_statusSuccess written
  | failInvalid => exact report _ (driverStatus_ntError _)
  | failValid => exact report _ (driverStatus_ntError _)

/-- The stack pointers are written with the ends of the two arrays. -/
private theorem ensures_populateContexts (depth : ℕ) {status : NTSTATUS}
    (accumulated : DriverStatus status) (stands : Stands placement frames state) :
    (populateContexts depth status).Ensures placement.environment (LaunchesLast placement) state
      fun result final => DriverStatus result ∧ Stands placement frames final := by
  have other {value : BitVec 64} (stack : LocalArray) {field : VmcsFieldEncoding}
      (none : field.stackPointerOf = none) (some : field.stackPointerOf = some stack) :
      value = placement.array stack + 4096 - 8 := by
    rw [none] at some
    contradiction
  apply ensures_query_bind nofun fun _ => rfl
  intro guestStack guestFound
  obtain rfl : guestStack = placement.array .guestStack := guestFound.2
  apply ensures_query_bind nofun fun _ => rfl
  intro hostStack hostFound
  obtain rfl : hostStack = placement.array .hostStack := hostFound.2
  apply ensures_steady_bind nofun fun _ => rfl
  intro rflags
  apply ensures_write_bind stands
  · intro stack pointed
    obtain rfl : LocalArray.guestStack = stack := Option.some.inj pointed
    rfl
  intro _ _ _ stands
  apply ensures_steady_bind nofun fun _ => rfl
  intro guestCode
  apply ensures_write_bind stands fun stack => other stack rfl
  intro _ _ _ stands
  apply ensures_write_bind stands fun stack => other stack rfl
  intro _ _ _ stands
  apply ensures_write_bind stands
  · intro stack pointed
    obtain rfl : LocalArray.hostStack = stack := Option.some.inj pointed
    rfl
  intro _ _ _ stands
  apply ensures_steady_bind nofun fun _ => rfl
  intro vmexitHandler
  apply ensures_write_bind stands fun stack => other stack rfl
  intro _ _ _ stands
  refine ⟨?_, stands⟩
  repeat' first | assumption | apply DriverStatus.or

private theorem ensures_populateActiveVMCS (depth : ℕ) (stands : Stands placement frames state) :
    (populateActiveVMCS depth).Ensures placement.environment (LaunchesLast placement) state
      fun _ final => Stands placement frames final := by
  rw [populateActiveVMCS_eq]
  apply ensures_call nofun
  have segments : (populateSegments depth).Confined IsBodyWork DriverStatus :=
    (confined_populateSegments depth).mono (fun _ => IsSectionWork.isBodyWork) fun _ => id
  apply segments.ensures_bind (bodyWork_passes placement _)
  intro status accumulated
  have opened : Stands placement (.populateActiveVMCS :: frames)
      (placement.environment.next state (.enter .populateActiveVMCS) ()) :=
    ⟨stands.heap, congrArg _ stands.frames, stands.pointers⟩
  apply (ensures_populateContexts depth accumulated opened).bind
  rintro status final ⟨accumulated, written⟩
  have rest : (populateRest depth status).Confined IsBodyWork DriverStatus :=
    (confined_populateRest depth accumulated).mono (fun _ => IsSectionWork.isBodyWork) fun _ => id
  apply (rest.ensures (bodyWork_passes placement _)).mono
  rintro _ _ ⟨-, rfl⟩
  refine ⟨nofun, ?_⟩
  exact ⟨written.heap, congrArg List.tail written.frames, written.pointers⟩

/-- The frame of `PopulateActiveVMCS` has returned when `LaunchGuest` executes `VMLAUNCH`. -/
private theorem ensures_launchGuest (depth : ℕ) (stands : Stands placement [.enterVmxHandler] state) :
    (launchGuest depth).Ensures placement.environment (LaunchesLast placement) state
      fun _ _ => True := by
  have opened : Stands placement [.launchGuest, .enterVmxHandler]
      (placement.environment.next state (.enter .launchGuest) ()) :=
    ⟨stands.heap, congrArg _ stands.frames, stands.pointers⟩
  apply ensures_call nofun
  apply ensures_ask_bind fun _ => opened
  intro outcome _
  have report : (do let _ ← printVMXError depth; return statusFailedVmlaunch).Confined IsBodyWork
      DriverStatus :=
    ((confined_printVMXError depth).mono (fun _ => IsFieldRead.isBodyWork) fun _ => id).bind
      fun _ _ => driverStatus_ntError _
  have reported (state : RequestStacks) := (report.ensures (bodyWork_passes placement state)).mono
    fun _ final _ => (⟨nofun, trivial⟩ : LaunchesLast placement final (.leave .launchGuest) ∧ True)
  cases outcome with
  | succeed => exact ⟨nofun, fun response => response.elim⟩
  | failInvalid => exact reported _
  | failValid => exact reported _

private theorem ensures_enterVmxHandler (placement : StackPlacement) (depth : ℕ) :
    (enterVmxHandler depth).Ensures placement.environment (LaunchesLast placement) placement.start
      fun _ _ => True := by
  rw [enterVmxHandler_eq]
  apply ensures_call nofun
  apply (ensures_stage isStage_enterVmxonMode _).bind
  rintro _ _ rfl
  apply (ensures_stage isStage_initializeVMCS _).bind
  rintro _ _ rfl
  have stands : Stands placement [.enterVmxHandler]
      (placement.environment.next placement.start (.enter .enterVmxHandler) ()) :=
    ⟨rfl, rfl, nofun⟩
  apply (ensures_populateActiveVMCS depth stands).bind
  intro _ _ populated
  apply (ensures_launchGuest depth populated).bind
  intro status state _
  apply (ensures_stage (isStage_clearActiveVMCS depth) state).bind
  rintro _ _ rfl
  exact ⟨nofun, fun _ _ => ⟨nofun, trivial⟩⟩

end Run

section Ranges

variable {placement : StackPlacement} {state : RequestStacks}

/-- Frames lie on the kernel stack, and blocks do not. -/
theorem frame_apart_of_allocated {frame block : Block 64}
    (opened : frame ∈ placement.openFrames state) (allocated : block ∈ placement.heap.blocks) :
    frame.Apart block := by
  have within : frame.Within placement.kernelStack := by
    rcases List.mem_append.mp opened with request | caller
    · obtain ⟨routine, _, rfl⟩ := List.mem_map.mp request
      exact placement.frame_within routine
    · exact placement.callers_within frame caller
  have whole : block.Within block := ⟨BitVec.le_refl _, le_rfl⟩
  have apart := (placement.heap_apart block allocated).of_within whole within
  exact Or.symm apart

/-- Pointers into two of the blocks the driver has allocated would be into live, separate stacks. -/
theorem onLiveStacks_of_allocated {guest host : Block 64} (heap : state.heap = placement.heap)
    (guestAllocated : guest ∈ placement.heap.blocks) (hostAllocated : host ∈ placement.heap.blocks)
    (apart : guest.Apart host)
    (guestInside : ∀ pointer, state.stackPointer .guestStack = some pointer →
      guest.Contains pointer)
    (hostInside : ∀ pointer, state.stackPointer .hostStack = some pointer →
      host.Contains pointer) : OnLiveStacks placement state := by
  have owned {block : Block 64} (allocated : block ∈ placement.heap.blocks) :
      placement.Owned state block := by
    rw [StackPlacement.Owned, heap]
    exact .inl allocated
  refine ⟨guest, host, ?_⟩
  constructor
  · exact owned guestAllocated
  · exact owned hostAllocated
  · exact guestInside
  · exact hostInside
  · exact apart
  · intro frame opened _
    exact frame_apart_of_allocated opened guestAllocated
  · intro frame opened _
    exact frame_apart_of_allocated opened hostAllocated

/-- The end of an array lies in the frame of `PopulateActiveVMCS`. -/
theorem frame_contains_end (placement : StackPlacement) (stack : LocalArray) :
    (placement.frame .populateActiveVMCS).Contains (placement.array stack + 4096 - 8) := by
  obtain ⟨low, high⟩ := placement.array_within stack
  obtain ⟨_, within⟩ := placement.frame_within .populateActiveVMCS
  have fits := placement.kernelStack_fits
  have page : pageSize.toNat = 4096 := by decide
  rw [BitVec.le_def] at low
  simp only [page] at low high
  have moved : placement.array stack + 4096 - 8 = placement.array stack + 4088 := by
    rw [add_sub_assoc]
    rfl
  have pointer : (placement.array stack + 4096 - 8).toNat =
      (placement.array stack).toNat + 4088 := by
    have offset : (4088 : Address).toNat = 4088 := by decide
    rw [moved, BitVec.toNat_add, offset]
    exact Nat.mod_eq_of_lt (by omega)
  constructor
  · rw [BitVec.le_def]
    omega
  · omega

/-- An owned range around the end of an array is the frame of `LaunchGuest`. -/
theorem eq_frame_launchGuest {stack : LocalArray} {range : Block 64}
    (stands : Stands placement [.launchGuest, .enterVmxHandler] state)
    (owned : placement.Owned state range)
    (inside : range.Contains (placement.array stack + 4096 - 8)) :
    range = placement.frame .launchGuest := by
  have frame := frame_contains_end placement stack
  rcases owned with allocated | opened
  · rw [stands.heap] at allocated
    apply absurd ((placement.frame_within _).contains frame)
    exact (placement.heap_apart range allocated).not_contains inside
  · rw [StackPlacement.openFrames, stands.frames] at opened
    rcases List.mem_append.mp opened with request | caller
    · simp only [List.map_cons, List.map_nil, List.mem_cons, List.not_mem_nil, or_false] at request
      rcases request with launch | rfl
      · exact launch
      · apply absurd frame
        exact (placement.handler_apart _ (by decide)).not_contains inside
    · apply absurd frame
      exact (placement.callers_apart _ range caller).not_contains inside

/-- At a `VMLAUNCH` after both writes there is no live stack for each of the two. -/
private theorem not_onLiveStacks_of_stands
    (stands : Stands placement [.launchGuest, .enterVmxHandler] state)
    {guestPointer hostPointer : Address}
    (guestWritten : state.stackPointer .guestStack = some guestPointer)
    (hostWritten : state.stackPointer .hostStack = some hostPointer) :
    ¬ OnLiveStacks placement state := by
  rintro ⟨guest, host, separate⟩
  have guestInside := separate.guestInside _ guestWritten
  have hostInside := separate.hostInside _ hostWritten
  obtain rfl := stands.pointers _ _ guestWritten
  obtain rfl := stands.pointers _ _ hostWritten
  obtain rfl := eq_frame_launchGuest stands separate.guestOwned guestInside
  obtain rfl := eq_frame_launchGuest stands separate.hostOwned hostInside
  exact separate.apart.not_contains guestInside guestInside

/-- For no placement of frames and blocks does a request reach its `VMLAUNCH` with stack pointers
written that lead into live, separate stacks. -/
theorem not_onLiveStacks_of_path {depth : ℕ} {events : List (Event interface)}
    {rest : Code NTSTATUS} {guestPointer hostPointer : Address}
    (path : Path placement.environment (enterVmxHandler depth) placement.start events rest state)
    (launches : rest.head? = some .vmlaunch)
    (guestWritten : state.stackPointer .guestStack = some guestPointer)
    (hostWritten : state.stackPointer .hostStack = some hostPointer) :
    ¬ OnLiveStacks placement state := by
  have stands := (ensures_enterVmxHandler placement depth).legal_of_path path launches rfl
  exact not_onLiveStacks_of_stands stands guestWritten hostWritten

end Ranges

section Runs

/-- A kernel stack of six pages. The handler's callers and the handler have one page each;
`PopulateActiveVMCS` has the three below, of which the other routines use the upper one again. -/
def sixPageFrame : Routine → Block 64
  | .enterVmxHandler => ⟨0x104000, 0x1000⟩
  | .populateActiveVMCS => ⟨0x101000, 0x3000⟩
  | _ => ⟨0x103000, 0x1000⟩

def sixPageArray : LocalArray → Address
  | .guestStack => 0x101000
  | .hostStack => 0x102000

/-- This stack beside a complete processor context. -/
def sixPages : StackPlacement where
  heap := CompleteContext.grantedRun.2.2
  kernelStack := ⟨0x100000, 0x6000⟩
  callers := [⟨0x105000, 0x1000⟩]
  frame := sixPageFrame
  array := sixPageArray
  kernelStack_fits := by decide
  heap_apart := by decide +kernel
  callers_within := by
    intro caller member
    obtain rfl := List.mem_singleton.mp member
    exact ⟨by decide, by decide⟩
  callers_apart := by
    intro routine
    cases routine <;> decide
  frame_within := by
    intro routine
    cases routine <;> exact ⟨by decide, by decide⟩
  handler_apart := by
    intro routine
    cases routine <;> decide
  array_within := by
    intro array
    cases array <;> exact ⟨by decide, by decide⟩

/-- The kernel's and the processor's answers up to `VMLAUNCH`. -/
def launchAnswer (state : RequestStacks) : (op : Op) → Option op.Response
  | .localAddress array => some (sixPageArray array)
  | .vmlaunch => none
  | op => ContextLeak.granted state.heap op

private theorem allows_of_launchAnswer (state : RequestStacks) (op : Op) (response : op.Response)
    (answered : launchAnswer state op = some response) :
    sixPages.environment.allows state op response := by
  cases op with
  | localAddress array => exact ⟨trivial, (Option.some.inj answered).symm⟩
  | vmlaunch => contradiction
  | _ => exact ⟨(ContextLeak.allows_of_granted state.heap _ response answered).1, trivial⟩

/-- The request up to its `VMLAUNCH`. -/
def launchRun : List (Event interface) × Code NTSTATUS × RequestStacks :=
  drive sixPages.environment launchAnswer 400 (enterVmxHandler 1) sixPages.start

private theorem path_launchRun : Path sixPages.environment (enterVmxHandler 1) sixPages.start
    launchRun.1 launchRun.2.1 launchRun.2.2 :=
  drive_path _ _ allows_of_launchAnswer 400 _ _

private theorem launches_launchRun : launchRun.2.1.head? = some .vmlaunch := by decide +kernel

private theorem guestPointer_launchRun :
    launchRun.2.2.stackPointer .guestStack = some 0x101FF8 := by decide +kernel

private theorem hostPointer_launchRun :
    launchRun.2.2.stackPointer .hostStack = some 0x102FF8 := by decide +kernel

theorem not_onLiveStacks_launchRun : ¬ OnLiveStacks sixPages launchRun.2.2 :=
  not_onLiveStacks_of_path path_launchRun launches_launchRun guestPointer_launchRun
    hostPointer_launchRun

/-- In this request the pointers lead into the two lower pages of a frame that has returned. -/
theorem not_onLiveStacks : ¬ ∀ (placement : StackPlacement) (depth : ℕ)
    (events : List (Event interface)) (rest : Code NTSTATUS) (state : RequestStacks)
    (guestPointer hostPointer : Address),
    Path placement.environment (enterVmxHandler depth) placement.start events rest state →
    rest.head? = some .vmlaunch → state.stackPointer .guestStack = some guestPointer →
    state.stackPointer .hostStack = some hostPointer → OnLiveStacks placement state := by
  intro live
  have stands := (ensures_enterVmxHandler sixPages 1).legal_of_path path_launchRun
    launches_launchRun rfl
  apply not_onLiveStacks_of_stands stands guestPointer_launchRun hostPointer_launchRun
  exact live _ _ _ _ _ _ _ path_launchRun launches_launchRun guestPointer_launchRun
    hostPointer_launchRun

end Runs

end Guypervisor.Soundness.StackOwnership
