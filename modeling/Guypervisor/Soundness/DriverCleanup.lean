import Guypervisor.Model.System
import Guypervisor.Proofs.Loading
import Guypervisor.Soundness.ContextLeak

/-! # What a failed `DriverEntry` undoes

The cleanup deletes the `Device` whenever there is one, and with it a device object: the one that
`IoCreateDevice` created, or, where that call failed, none. A failing `DriverEntry` undoes what it
did exactly when `IoCreateDevice` did not fail.
-/

namespace Guypervisor.Soundness.DriverCleanup

open Effects Effects.Program Model Code DriverCode Proofs

/-- What the I/O manager did for a call. -/
inductive IoCall
  | created (object : Address) | creationFailed | deleted (object : Address)
  | linked (link : String) | unlinked (link : String)
deriving DecidableEq, Repr

def ioCall : Event driverInterface → Option IoCall
  | ⟨.inr (.ioCreateDevice _), (status, object)⟩ =>
    if ntSuccess status then some (.created object) else some .creationFailed
  | ⟨.inr (.ioDeleteDevice object), _⟩ => some (.deleted object)
  | ⟨.inr (.ioCreateSymbolicLink link _), status⟩ =>
    if ntSuccess status then some (.linked link) else none
  | ⟨.inr (.ioDeleteSymbolicLink link), status⟩ =>
    if ntSuccess status then some (.unlinked link) else none
  | _ => none

/-- The ways in which `DriverEntry` fails. -/
inductive Failed (start final : System) : List IoCall → Prop
  /-- A check found the processor unsupported. -/
  | unsupported : final.devices = start.devices → final.links = start.links →
      Failed start final []
  /-- `IoCreateDevice` failed. -/
  | notCreated : Failed start final [.creationFailed, .deleted 0]
  /-- `IoCreateSymbolicLink` failed, after a link was deleted or not. -/
  | notLinked {object : Address} {unlinked : List IoCall} : final.devices = start.devices →
      (∀ link ∈ final.links, link ∈ start.links) → (∀ call ∈ unlinked, ∃ link, call = .unlinked link) →
      Failed start final (.created object :: unlinked ++ [.deleted object])

section Unlinked

variable {object : Address} {unlinked : List IoCall}
  (onlyUnlinked : ∀ call ∈ unlinked, ∃ link, call = .unlinked link)
include onlyUnlinked

end Unlinked

private abbrev observed : Environment driverInterface (System × List IoCall) :=
  System.environment.observing ioCall

private abbrev anyOp (_ : System × List IoCall) (_ : driverInterface.A) : Prop := True

/-- The state after an operation of loading, with what was observed of it. -/
def after (state : System × List IoCall) (op : DeviceOp) (response : op.Response) :
    System × List IoCall :=
  (state.1.nextDevice op response,
    state.2 ++ (ioCall (⟨Sum.inr op, response⟩ : Event driverInterface)).toList)

section Rules

variable {α : Type} {state : System × List IoCall} {post : α → System × List IoCall → Prop}

/-- A call of the I/O manager, or an access to what loading changes. -/
theorem ensures_device_bind {op : DeviceOp} {next : op.Response → DriverCode α}
    (rest : ∀ response, state.1.AnswersDevice op response →
      (next response).Ensures observed anyOp (after state op response) post) :
    (DriverCode.ask op >>= next).Ensures observed anyOp state post :=
  ⟨trivial, rest⟩

/-- An access that changes nothing and is no call. -/
theorem ensures_load_bind {op : DeviceOp} {next : op.Response → DriverCode α}
    (steady : ∀ response, state.1.nextDevice op response = state.1)
    (quiet : ∀ response, ioCall (⟨Sum.inr op, response⟩ : Event driverInterface) = none)
    (rest : ∀ response, state.1.AnswersDevice op response →
      (next response).Ensures observed anyOp state post) :
    (DriverCode.ask op >>= next).Ensures observed anyOp state post := by
  apply ensures_device_bind
  intro response answered
  rw [after, steady, quiet, Option.toList_none, List.append_nil]
  exact rest response answered

/-- An operation of the other code. -/
theorem ensures_heap_bind {op : Op} {next : op.Response → DriverCode α}
    (rest : ∀ response, state.1.heap.Answers op response → (next response).Ensures observed anyOp
      ({ state.1 with heap := state.1.heap.next op response }, state.2) post) :
    (code (Code.ask op) >>= next).Ensures observed anyOp state post := by
  refine ensures_askCode_bind trivial fun response answered => ?_
  have step : observed.next state (Sum.inl op) response =
      ({ state.1 with heap := state.1.heap.next op response }, state.2) :=
    Prod.ext rfl (List.append_nil _)
  rw [step]
  exact rest response answered

/-- The checks change nothing. -/
theorem detection_passes (state : System × List IoCall) :
    Passes observed anyOp IsDetection state where
  issues _ _ := trivial
  steady op response detects _ := by
    match op, detects with
    | .inl .readEflags, _ | .inl (.cpuid _), _ => exact Prod.ext rfl (List.append_nil _)
    | .inr (.writeEflags _), _ | .inr (.uninitializedBytes _), _ =>
      exact Prod.ext rfl (List.append_nil _)

end Rules

section Cleanup

/-- A `Device` with its device object, and no processor context. -/
structure Holding (device object : Address) (devices : List Address) (links : List String)
    (calls : List IoCall) (state : System × List IoCall) : Prop where
  nonzero : device ≠ 0
  kGuypervisor : state.1.kGuypervisor = device
  kProcessorContext : state.1.heap.kProcessorContext = 0
  deviceObject : (state.1.members device).deviceObject = object
  devices : state.1.devices = devices
  links : state.1.links = links
  calls : state.2 = calls

variable {device object : Address} {devices : List Address} {links : List String}
  {calls : List IoCall} {state : System × List IoCall} {status : NTSTATUS}

namespace Holding

variable (holding : Holding device object devices links calls state)
include holding

/-- The member is assigned. -/
theorem storeDeviceObject (other : Address) :
    Holding device other devices links calls (after state (.storeDeviceObject device other) ()) where
  nonzero := holding.nonzero
  kGuypervisor := holding.kGuypervisor
  kProcessorContext := holding.kProcessorContext
  deviceObject := by simp [after, System.nextDevice, System.setMembers]
  devices := holding.devices
  links := holding.links
  calls := (List.append_nil _).trans holding.calls

/-- A device object was created. -/
theorem create {name : String} (success : ntSuccess status = true) (other : Address) :
    Holding device object (other :: devices) links (calls ++ [.created other])
      (after state (.ioCreateDevice name) (status, other)) := by
  obtain ⟨nonzero, guypervisor, context, members, rfl, rfl, rfl⟩ := holding
  have changed : after state (.ioCreateDevice name) (status, other) =
      ({ state.1 with devices := other :: state.1.devices }, state.2 ++ [.created other]) := by
    simp [after, System.nextDevice, ioCall, success]
  rw [changed]
  exact ⟨nonzero, guypervisor, context, members, rfl, rfl, rfl⟩

/-- None was. -/
theorem createFailed {name : String} (failure : ntSuccess status = false) (other : Address) :
    Holding device object devices links (calls ++ [.creationFailed])
      (after state (.ioCreateDevice name) (status, other)) := by
  obtain ⟨nonzero, guypervisor, context, members, rfl, rfl, rfl⟩ := holding
  have changed : after state (.ioCreateDevice name) (status, other) =
      (state.1, state.2 ++ [.creationFailed]) := by
    simp [after, System.nextDevice, ioCall, failure]
  rw [changed]
  exact ⟨nonzero, guypervisor, context, members, rfl, rfl, rfl⟩

/-- A link was deleted, or there was none. -/
theorem deleteLink (link : String) (status : NTSTATUS) :
    ∃ left unlinked, (∀ other ∈ left, other ∈ links) ∧
      (∀ call ∈ unlinked, ∃ other, call = .unlinked other) ∧
      Holding device object devices left (calls ++ unlinked)
        (after state (.ioDeleteSymbolicLink link) status) := by
  obtain ⟨nonzero, guypervisor, context, members, rfl, rfl, rfl⟩ := holding
  cases success : ntSuccess status with
  | true =>
    have changed : after state (.ioDeleteSymbolicLink link) status =
        ({ state.1 with links := state.1.links.filter (· ≠ link) },
          state.2 ++ [.unlinked link]) := by
      simp [after, System.nextDevice, ioCall, success]
    rw [changed]
    exact ⟨_, [.unlinked link], fun _ member => (List.mem_filter.mp member).1, by simp,
      nonzero, guypervisor, context, members, rfl, rfl, rfl⟩
  | false =>
    have unchanged : after state (.ioDeleteSymbolicLink link) status = state := by
      simp [after, System.nextDevice, ioCall, success]
    rw [unchanged]
    exact ⟨_, [], fun _ member => member, by simp,
      nonzero, guypervisor, context, members, rfl, rfl, by simp⟩

/-- No link was created. -/
theorem linkFailed {link target : String} (failure : ntSuccess status = false) :
    Holding device object devices links calls
      (after state (.ioCreateSymbolicLink link target) status) := by
  have unchanged : after state (.ioCreateSymbolicLink link target) status = state := by
    simp [after, System.nextDevice, ioCall, failure]
  rw [unchanged]
  exact holding

/-- Filling the dispatch table keeps it. -/
theorem addFunctions : Device.addFunctions.Ensures observed anyOp state fun _ final =>
    Holding device object devices links calls final := by
  have kept : Device.addFunctions.Ensures observed anyOp state fun _ final =>
      True ∧ Holding device object devices links calls final := by
    apply confined_addFunctions.keeps (fun _ _ _ _ => trivial) _ holding
    intro state op response installs holding _
    match op, installs with
    | .inr (.setMajorFunction _ _), _ =>
      obtain ⟨nonzero, guypervisor, context, members, devices, links, calls⟩ := holding
      exact ⟨nonzero, guypervisor, context, members, devices, links, (List.append_nil _).trans calls⟩
  exact kept.mono fun _ _ ended => ended.2

end Holding

/-- The cleanup deletes the device object and then the `Device`. -/
theorem Holding.ensures_driverCleanup (holding : Holding device object devices links calls state)
    (failure : ntSuccess status = false) :
    (driverCleanup status).Ensures observed anyOp state fun _ final =>
      final.1.devices = devices.filter (· ≠ object) ∧ final.1.links = links ∧
        final.2 = calls ++ [.deleted object] := by
  obtain ⟨nonzero, rfl, context, rfl, rfl, rfl, rfl⟩ := holding
  rw [driverCleanup, failure]
  refine ensures_load_bind (fun _ => rfl) (fun _ => rfl) ?_
  rintro _ rfl
  rw [if_pos nonzero]
  refine ensures_load_bind (fun _ => rfl) (fun _ => rfl) ?_
  rintro _ rfl
  rw [Device.delete, if_pos nonzero]
  refine ensures_load_bind (fun _ => rfl) (fun _ => rfl) ?_
  rintro _ ⟨_, rfl⟩
  refine ensures_device_bind fun _ _ => ?_
  refine ensures_heap_bind fun _ _ => ?_
  refine ensures_heap_bind fun pointer loaded => ?_
  have null : pointer = 0 := loaded.trans context
  rw [if_neg (not_not_intro null)]
  exact ⟨rfl, rfl, rfl⟩

/-- Where there is neither, it does nothing. -/
theorem ensures_driverCleanup_mapped (guypervisor : state.1.kGuypervisor = 0)
    (context : state.1.heap.kProcessorContext = 0) :
    (driverCleanup status).Ensures observed anyOp state fun _ final =>
      final.1.devices = state.1.devices ∧ final.1.links = state.1.links ∧ final.2 = state.2 := by
  rw [driverCleanup]
  split
  · refine ensures_load_bind (fun _ => rfl) (fun _ => rfl) ?_
    rintro _ rfl
    rw [if_neg (not_not_intro guypervisor)]
    refine ensures_heap_bind fun pointer loaded => ?_
    have null : pointer = 0 := loaded.trans context
    rw [if_neg (not_not_intro null)]
    exact ⟨rfl, rfl, rfl⟩
  · exact ⟨rfl, rfl, rfl⟩

end Cleanup

section Entry

variable {device object : Address} {devices : List Address} {links : List String}
  {calls : List IoCall} {state : System × List IoCall}

/-- `InitDevice` creates a new device object, or fails and leaves the member null. -/
theorem ensures_initDevice
    (holding : device ≠ 0 → Holding device 0 devices links calls state) :
    (Device.initDevice device).Ensures observed anyOp state fun status final =>
      (ntSuccess status = true → ∃ object ∉ devices,
        Holding device object (object :: devices) links (calls ++ [.created object]) final) ∧
      (ntSuccess status = false →
        Holding device 0 devices links (calls ++ [.creationFailed]) final) := by
  refine ensures_load_bind (fun _ => rfl) (fun _ => rfl) fun name named => ?_
  have holding := holding named.1
  refine ensures_device_bind fun ⟨status, object⟩ answered => ?_
  dsimp only
  cases success : ntSuccess status with
  | true =>
    have fresh : object ∉ state.1.devices := (answered success).2
    rw [holding.devices] at fresh
    refine ensures_device_bind fun _ _ => ?_
    refine ensures_load_bind (fun _ => rfl) (fun _ => rfl) fun _ _ => ?_
    apply ((holding.create success object).storeDeviceObject object).addFunctions.bind
    intro _ final kept
    exact ⟨fun _ => ⟨object, fresh, kept⟩, fun failed => absurd (success.symm.trans failed) nofun⟩
  | false =>
    refine ensures_load_bind (fun _ => rfl) (fun _ => rfl) fun _ _ => ?_
    apply (holding.createFailed success object).addFunctions.bind
    intro _ final kept
    exact ⟨fun succeeded => absurd (success.symm.trans succeeded) nofun, fun _ => kept⟩

/-- `CreateSymlink` deletes a link at most, unless it succeeds. -/
theorem ensures_createSymlink (holding : Holding device object devices links calls state) :
    (Device.createSymlink device).Ensures observed anyOp state fun status final =>
      ntSuccess status = false → ∃ left unlinked, (∀ link ∈ left, link ∈ links) ∧
        (∀ call ∈ unlinked, ∃ link, call = .unlinked link) ∧
        Holding device object devices left (calls ++ unlinked) final := by
  refine ensures_load_bind (fun _ => rfl) (fun _ => rfl) fun link _ => ?_
  refine ensures_device_bind fun status _ => ?_
  obtain ⟨left, unlinked, fewer, calls, kept⟩ := holding.deleteLink link status
  refine ensures_load_bind (fun _ => rfl) (fun _ => rfl) fun created _ => ?_
  refine ensures_load_bind (fun _ => rfl) (fun _ => rfl) fun target _ => ?_
  refine ensures_device_bind fun status _ => ?_
  intro failure
  exact ⟨left, unlinked, fewer, calls, kept.linkFailed failure⟩

/-- An early return because the processor is unsupported. -/
theorem ensures_unsupported {start : System} (mapped : start.Mapped) (status : NTSTATUS) :
    (driverCleanup status).Ensures observed anyOp (start, []) fun result final =>
      ntSuccess result = false → Failed start final.1 final.2 := by
  apply (ensures_driverCleanup_mapped mapped.kGuypervisor mapped.kProcessorContext).mono
  rintro result ⟨final, calls⟩ ⟨devices, links, rfl⟩ _
  exact .unsupported devices links

/-- `new Device`, where the allocation did not fail. -/
theorem ensures_new {start : System} (mapped : start.Mapped) (deviceName dosDeviceName : String) :
    (Device.new deviceName dosDeviceName).Ensures observed anyOp (start, []) fun device final =>
      device ≠ 0 → Holding device 0 start.devices start.links []
        (after final (.storeGuypervisor device) ()) := by
  refine ensures_heap_bind fun device granted => ?_
  split
  · iterate 3 refine ensures_device_bind fun _ _ => ?_
    intro nonzero
    refine ⟨nonzero, rfl, mapped.kProcessorContext, ?_, rfl, rfl, rfl⟩
    simp [after, System.nextDevice, System.setMembers]
  · rename_i null
    exact fun nonzero => absurd nonzero null

/-- Deleting a new device object leaves the others. -/
theorem filter_created (fresh : object ∉ devices) :
    (object :: devices).filter (· ≠ object) = devices := by
  rw [List.filter_cons_of_neg (by simp), List.filter_eq_self]
  rintro other member
  exact decide_eq_true (ne_of_mem_of_not_mem member fresh)

theorem ensures_driverEntry (depth : ℕ) {start : System} (mapped : start.Mapped) :
    (driverEntry depth).Ensures observed anyOp (start, []) fun status final =>
      ntSuccess status = false → Failed start final.1 final.2 := by
  apply ensures_driverEntry_of_detection (detection_passes _) (ensures_unsupported mapped _)
  apply (ensures_new mapped _ _).bind
  intro device state built
  refine ensures_device_bind fun _ _ => ?_
  refine ensures_load_bind (fun _ => rfl) (fun _ => rfl) ?_
  rintro _ rfl
  apply (ensures_initDevice built).bind
  rintro status state ⟨succeeds, fails⟩
  split
  · rename_i failed
    have failure : ntSuccess status = false := by simpa using failed
    apply ((fails failure).ensures_driverCleanup failure).mono
    rintro _ ⟨final, calls⟩ ⟨_, _, rfl⟩ _
    exact .notCreated
  rename_i succeeded
  obtain ⟨object, fresh, created⟩ := succeeds (by simpa using succeeded)
  refine ensures_load_bind (fun _ => rfl) (fun _ => rfl) ?_
  rintro _ rfl
  rw [created.kGuypervisor]
  apply (ensures_createSymlink created).bind
  intro status state fails
  split
  · rename_i failed
    have failure : ntSuccess status = false := by simpa using failed
    obtain ⟨left, unlinked, fewer, calls, kept⟩ := fails failure
    apply (kept.ensures_driverCleanup failure).mono
    rintro _ ⟨final, _⟩ ⟨devices, rfl, rfl⟩ _
    have undone : Failed start final (.created object :: unlinked ++ [.deleted object]) :=
      .notLinked (devices.trans (filter_created fresh)) fewer calls
    simpa using undone
  · apply ((confined_afterSymlink depth).ensures_everywhere fun _ _ _ => trivial).mono
    intro status _ success failure
    exact absurd (success.symm.trans failure) nofun

end Entry

section Run

/-- A machine that passes the checks, on which every allocation gets the next block and `VMLAUNCH`
fails; `IoCreateDevice` gives the answer `created`, and any link can be created. -/
def loadAnswer (created : NTSTATUS × Address) (system : System) :
    (op : driverInterface.A) → Option (driverInterface.B op)
  | .inl .readEflags => some (0x200000 : BitVec 64)
  | .inl (.cpuid _) => some (⟨0, 0, 0x4000000, 0⟩ : CpuInfo)
  | .inl .vmlaunch => some VmxOutcome.failValid
  | .inl op => ContextLeak.granted system.heap op
  | .inr .loadGuypervisor => some system.kGuypervisor
  | .inr (.loadName device member) =>
    if device ≠ 0 then some ((system.members device).name member) else none
  | .inr (.loadDeviceObject device) =>
    if device ≠ 0 then some (system.members device).deviceObject else none
  | .inr (.storeName device _ _) | .inr (.storeDeviceObject device _) =>
    if device ≠ 0 then some () else none
  | .inr (.uninitializedBytes count) => some (0 : BitVec (8 * count))
  | .inr (.ioCreateDevice _) =>
    if ntSuccess created.1 = true → created.2 ≠ 0 ∧ created.2 ∉ system.devices then some created
    else none
  | .inr (.ioCreateSymbolicLink link _) => if link ∉ system.links then some (0 : NTSTATUS) else none
  | .inr (.ioDeleteSymbolicLink _) => some (0xC0000034 : NTSTATUS)
  | .inr (.storeGuypervisor _) | .inr (.writeEflags _) | .inr (.ioDeleteDevice _) => some ()
  | .inr (.setMajorFunction _ _) | .inr .setDriverUnload => some ()

theorem allows_of_loadAnswer (created : NTSTATUS × Address) (system : System)
    (op : driverInterface.A) (response : driverInterface.B op)
    (answered : loadAnswer created system op = some response) :
    System.environment.allows system op response := by
  obtain op | op := op
  · have plain : ContextLeak.granted system.heap op = some response →
        system.heap.Answers op response :=
      fun granted => (ContextLeak.allows_of_granted system.heap op response granted).1
    cases op with
    | readEflags | cpuid | vmlaunch => trivial
    | _ => exact plain answered
  · cases op with
    | loadGuypervisor => exact (Option.some.inj answered).symm
    | loadName | loadDeviceObject =>
      obtain ⟨nonzero, same⟩ := Option.ite_none_right_eq_some.mp answered
      exact ⟨nonzero, (Option.some.inj same).symm⟩
    | storeName | storeDeviceObject => exact (Option.ite_none_right_eq_some.mp answered).1
    | ioCreateDevice =>
      obtain ⟨fresh, same⟩ := Option.ite_none_right_eq_some.mp answered
      obtain rfl := Option.some.inj same
      exact fresh
    | ioCreateSymbolicLink =>
      obtain ⟨free, _⟩ := Option.ite_none_right_eq_some.mp answered
      exact fun _ => free
    | ioDeleteSymbolicLink =>
      obtain rfl := Option.some.inj answered
      exact fun success => absurd success (by decide)
    | _ => trivial

end Run

end Guypervisor.Soundness.DriverCleanup
