import Guypervisor.Model.LoadCycle
import Guypervisor.Soundness.DriverCleanup

/-! # What the driver holds after it was unloaded

`DriverUnload` deletes the `Device` and its device object. The symbolic link stays, and so do the
processor context with what its members point to and the tables that `InitializeEPT` allocated, so
no load and unload of the driver is balanced.
-/

namespace Guypervisor.Soundness.LoadBalance

open Effects Effects.Program Model Code DriverCode Proofs

/-- What the kernel hands out to the driver and takes back. -/
inductive Resource
  | contiguous (pointer : Address) | pool (pointer : Address)
  | device (object : Address) | link (name : String)
deriving DecidableEq, Repr

/-- The resource an event gives to the driver. -/
def acquired : Event driverInterface → Option Resource
  | ⟨.inl (.allocateContiguousMemory _ _), pointer⟩ =>
    if pointer = (0 : Address) then none else some (.contiguous pointer)
  | ⟨.inl (.allocatePool _), pointer⟩ =>
    if pointer = (0 : Address) then none else some (.pool pointer)
  | ⟨.inr (.ioCreateDevice _), (status, object)⟩ =>
    if ntSuccess status then some (.device object) else none
  | ⟨.inr (.ioCreateSymbolicLink name _), status⟩ =>
    if ntSuccess status then some (.link name) else none
  | _ => none

/-- The resource an event takes from it; `delete` of a null pointer is no release. -/
def released : Event driverInterface → Option Resource
  | ⟨.inl (.freeContiguousMemory pointer), _⟩ => some (.contiguous pointer)
  | ⟨.inl (.freePool pointer), _⟩ => if pointer = 0 then none else some (.pool pointer)
  | ⟨.inr (.ioDeleteDevice object), _⟩ => some (.device object)
  | ⟨.inr (.ioDeleteSymbolicLink name), status⟩ =>
    if ntSuccess status then some (.link name) else none
  | _ => none

/-- Between two releases of a resource lies an acquisition of it. -/
def ReleasedOnce (events : List (Event driverInterface)) : Prop :=
  ∀ before first between second after resource,
    events = before ++ first :: between ++ second :: after →
    released first = some resource → released second = some resource →
    ∃ event ∈ between, acquired event = some resource

/-- The driver owns nothing. -/
structure OwnsNothing (system : System) : Prop where
  contiguous : system.heap.contiguous = []
  pool : system.heap.pool = []
  devices : system.devices = []
  links : system.links = []

/-- Each unload leaves nothing behind, and nothing was released twice. -/
structure Balanced {start : System} (cycles : LoadCycles start) : Prop where
  ownsNothing : ∀ system ∈ cycles.unloaded, OwnsNothing system
  releasedOnce : ReleasedOnce cycles.events

private abbrev anyOp (_ : System) (_ : driverInterface.A) : Prop := True

section Loading

/-- A `Device` with the name of its link. -/
structure Named (device : Address) (system : System) : Prop where
  kGuypervisor : system.kGuypervisor = device
  dosDeviceName : (system.members device).name .dosDeviceName = dosDeviceName

/-- The link of the driver exists. -/
def Linked (system : System) : Prop := dosDeviceName ∈ system.links

variable {device : Address} {system : System}

/-- `new Device` names the link, where the allocation did not fail. -/
theorem ensures_new (system : System) :
    (Device.new deviceName dosDeviceName).Ensures System.environment anyOp system
      fun device final => device ≠ 0 → Named device { final with kGuypervisor := device } := by
  refine ensures_askCode_bind trivial fun device _ => ?_
  split
  · iterate 3 refine ensures_askDevice_bind trivial fun _ _ => ?_
    intro _
    exact ⟨rfl, by simp [System.environment, System.nextDevice, System.setMembers]⟩
  · rename_i null
    exact fun nonzero => absurd nonzero null

/-- What `InitDevice` does. -/
def IsInit : driverInterface.A → Prop
  | .inr (.loadName _ _) | .inr (.ioCreateDevice _) | .inr (.storeDeviceObject _ _) => True
  | .inr .setDriverUnload | .inr (.setMajorFunction _ _) => True
  | _ => False

theorem IsInstall.isInit {op : driverInterface.A} (installs : IsInstall op) : IsInit op := by
  match op, installs with
  | .inr (.setMajorFunction _ _), _ => trivial

theorem confined_initDevice (device : Address) :
    (Device.initDevice device).Confined IsInit fun _ => True := by
  have functions : Device.addFunctions.Confined IsInit fun _ => True :=
    confined_addFunctions.mono (fun _ => IsInstall.isInit) fun _ => id
  apply confined_askDevice_bind trivial
  intro _
  apply confined_askDevice_bind trivial
  rintro ⟨status, object⟩
  dsimp only
  split
  · apply confined_askDevice_bind trivial
    intro _
    apply confined_askDevice_bind trivial
    intro _
    exact functions.bind fun _ _ => trivial
  · apply confined_askDevice_bind trivial
    intro _
    exact functions.bind fun _ _ => trivial

/-- It keeps the name. -/
theorem Named.next {op : driverInterface.A} (named : Named device system) (init : IsInit op)
    (response : driverInterface.B op) : Named device (System.environment.next system op response) := by
  obtain ⟨guypervisor, name⟩ := named
  match op, init with
  | .inr (.ioCreateDevice _), _ =>
    change Named device (if _ then _ else _)
    split
    · exact ⟨guypervisor, name⟩
    · exact ⟨guypervisor, name⟩
  | .inr (.storeDeviceObject other object), _ =>
    refine ⟨guypervisor, ?_⟩
    by_cases same : device = other
    · subst same
      simpa [System.environment, System.nextDevice, System.setMembers] using name
    · simpa [System.environment, System.nextDevice, System.setMembers, same] using name
  | .inr (.loadName _ _), _ | .inr .setDriverUnload, _ | .inr (.setMajorFunction _ _), _ =>
    exact ⟨guypervisor, name⟩

theorem ensures_initDevice (named : device ≠ 0 → Named device system) :
    (Device.initDevice device).Ensures System.environment anyOp system fun _ final =>
      Named device final := by
  by_cases null : device = 0
  · subst null
    exact ⟨trivial, fun _ read => absurd rfl read.1⟩
  · have kept : (Device.initDevice device).Ensures System.environment anyOp system fun _ final =>
        True ∧ Named device final :=
      (confined_initDevice device).keeps (fun _ _ _ _ => trivial)
        (fun _ _ response init named _ => named.next init response) (named null)
    exact kept.mono fun _ _ ended => ended.2

/-- Deleting a link changes no `Device`. -/
theorem named_deleteLink (named : Named device system) (link : String) (status : NTSTATUS) :
    Named device (system.nextDevice (.ioDeleteSymbolicLink link) status) := by
  change Named device (if _ then _ else _)
  split
  · exact ⟨named.kGuypervisor, named.dosDeviceName⟩
  · exact named

/-- `CreateSymlink` creates the link, or fails. -/
theorem ensures_createSymlink (named : Named device system) :
    (Device.createSymlink device).Ensures System.environment anyOp system fun status final =>
      ntSuccess status = true → Linked final := by
  refine ensures_askDevice_bind trivial fun link _ => ?_
  refine ensures_askDevice_bind trivial fun deleted _ => ?_
  have named := named_deleteLink named link deleted
  refine ensures_askDevice_bind trivial fun created read => ?_
  obtain rfl : created = dosDeviceName := read.2.trans named.dosDeviceName
  refine ensures_askDevice_bind trivial fun target _ => ?_
  refine ensures_askDevice_bind trivial fun status _ => ?_
  intro success
  change Linked (if ntSuccess status = true then _ else _)
  rw [if_pos success]
  exact List.mem_cons_self

/-- A cleanup returns the status it was given. -/
theorem ensures_driverCleanup {status : NTSTATUS} (failure : ntSuccess status = false) :
    (driverCleanup status).Ensures System.environment anyOp system fun result final =>
      ntSuccess result = true → Linked final := by
  have returned : (driverCleanup status).Ensures System.environment anyOp system
      fun result _ => result = status :=
    (confined_driverCleanup status).ensures_everywhere fun _ _ _ => trivial
  apply returned.mono
  rintro _ _ rfl success
  exact absurd (success.symm.trans failure) nofun

/-- The other code changes no link. -/
theorem ensures_afterSymlink (depth : ℕ) (linked : Linked system) :
    (afterSymlink depth).Ensures System.environment anyOp system fun _ final => Linked final := by
  have kept : (afterSymlink depth).Ensures System.environment anyOp system fun status final =>
      ntSuccess status = true ∧ Linked final := by
    apply (confined_afterSymlink depth).keeps (fun _ _ _ _ => trivial) _ linked
    intro _ op _ isCode linked _
    match op, isCode with
    | .inl _, _ => exact linked
  exact kept.mono fun _ _ ended => ended.2

/-- The checks change nothing. -/
theorem detection_passes (system : System) :
    Passes System.environment anyOp IsDetection system where
  issues _ _ := trivial
  steady op _ detects _ := by
    match op, detects with
    | .inl .readEflags, _ | .inl (.cpuid _), _ => rfl
    | .inr (.writeEflags _), _ | .inr (.uninitializedBytes _), _ => rfl

/-- A `DriverEntry` that succeeds leaves the link behind. -/
theorem ensures_driverEntry (depth : ℕ) (system : System) :
    (driverEntry depth).Ensures System.environment anyOp system fun status final =>
      ntSuccess status = true → Linked final := by
  apply ensures_driverEntry_of_detection (detection_passes _) (ensures_driverCleanup (by decide))
  apply (ensures_new system).bind
  intro device system built
  refine ensures_askDevice_bind trivial fun _ _ => ?_
  refine ensures_askDevice_bind trivial ?_
  rintro _ rfl
  apply (ensures_initDevice built).bind
  intro status system named
  split
  · rename_i failed
    exact ensures_driverCleanup (by simpa using failed)
  refine ensures_askDevice_bind trivial ?_
  rintro _ rfl
  rw [named.kGuypervisor]
  apply (ensures_createSymlink named).bind
  intro status system linked
  split
  · rename_i failed
    exact ensures_driverCleanup (by simpa using failed)
  rename_i succeeded
  apply (ensures_afterSymlink depth (linked (by simpa using succeeded))).mono
  exact fun _ _ linked _ => linked

end Loading

section Unloading

variable {start : System}

/-- Serving IRPs asks the I/O manager for nothing. -/
theorem Linked.serves {majorFunction : ℕ → Option DispatchRoutine} {state final : System}
    {irps : List Served} (linked : Linked state)
    (serves : Serves System.environment.left majorFunction state irps final) : Linked final := by
  induction serves with
  | nil => exact linked
  | @cons depth irp routine state _ _ _ _ _ _ path _ ih =>
    have kept : (routine.call depth irp).Ensures System.environment.left (fun _ _ => True) state
        fun _ final => True ∧ Linked final :=
      (confined_true _).keeps (fun _ _ _ _ => trivial) (fun _ _ _ _ linked _ => linked) linked
    exact ih (kept.post_of_path path).2

/-- What `DriverUnload` does. -/
def IsUnload : driverInterface.A → Prop
  | .inr .loadGuypervisor | .inr (.loadDeviceObject _) | .inr (.ioDeleteDevice _) => True
  | .inl (.freePool _) => True
  | _ => False

theorem confined_driverUnload : Device.driverUnload.Confined IsUnload fun _ => True := by
  apply confined_askDevice_bind trivial
  intro device
  rw [Device.delete]
  split
  · iterate 2
      apply confined_askDevice_bind trivial
      intro _
    exact ⟨trivial, fun _ => trivial⟩
  · trivial

/-- It leaves the link. -/
theorem ensures_driverUnload {system : System} (linked : Linked system) :
    Device.driverUnload.Ensures System.environment anyOp system fun _ final => Linked final := by
  have kept : Device.driverUnload.Ensures System.environment anyOp system fun _ final =>
      True ∧ Linked final := by
    apply confined_driverUnload.keeps (fun _ _ _ _ => trivial) _ linked
    intro _ op _ unload linked _
    match op, unload with
    | .inr .loadGuypervisor, _ | .inr (.loadDeviceObject _), _ => exact linked
    | .inr (.ioDeleteDevice _), _ | .inl (.freePool _), _ => exact linked
  exact kept.mono fun _ _ ended => ended.2

/-- `DriverUnload` returns in any state. -/
theorem returns_driverUnload (system : System) : ∃ unloaded,
    Reaches System.environment Device.driverUnload system (.done ()) unloaded := by
  have deleted : ∃ unloaded, Reaches System.environment (Device.delete system.kGuypervisor) system
      (.done ()) unloaded := by
    rw [Device.delete]
    split
    · rename_i nonzero
      exact ⟨_, Reaches.step (system.members system.kGuypervisor).deviceObject ⟨nonzero, rfl⟩
        (Reaches.step () trivial (Reaches.step () trivial (.refl _ _)))⟩
    · exact ⟨system, .refl _ _⟩
  obtain ⟨unloaded, reaches⟩ := deleted
  exact ⟨unloaded, Reaches.step system.kGuypervisor rfl reaches⟩

/-- After every unload the link is still there. -/
theorem linked_unloaded (cycle : LoadCycle start) : Linked cycle.unloaded := by
  have loaded : Linked cycle.loaded :=
    (ensures_driverEntry cycle.depth _).post_of_path cycle.loads cycle.succeeds
  have served : Linked cycle.served := loaded.serves cycle.serves
  exact (ensures_driverUnload served).post_of_path cycle.unloads

/-- So one cycle is enough to leave something behind. -/
theorem not_balanced_next (cycle : LoadCycle start) (later : LoadCycles cycle.unloaded) :
    ¬ Balanced (.next cycle later) := by
  intro balanced
  have linked : dosDeviceName ∈ cycle.unloaded.links := linked_unloaded cycle
  rw [(balanced.ownsNothing _ List.mem_cons_self).links] at linked
  exact List.not_mem_nil linked

end Unloading

/-- **Loading and unloading is balanced exactly when the driver was never loaded.** -/
theorem balanced_iff {field : ContextField → Address} (cycles : LoadCycles (.start field)) :
    Balanced cycles ↔ cycles.count = 0 := by
  cases cycles with
  | none =>
    apply iff_of_true _ rfl
    constructor
    · exact fun _ member => absurd member List.not_mem_nil
    · intro before first between second after _ split
      simp [LoadCycles.events] at split
  | next cycle later => exact iff_of_false (not_balanced_next cycle later) (Nat.succ_ne_zero _)

section Run

/-- A load that succeeds: every allocation gets the next block, and `VMLAUNCH` fails. -/
private abbrev answer := DriverCleanup.loadAnswer (0, 0x500000)

private theorem allows_of_answer (system : System) (op : driverInterface.A)
    (response : driverInterface.B op) (answered : answer system op = some response) :
    System.environment.allows system op response :=
  DriverCleanup.allows_of_loadAnswer _ system op response answered

/-- The part of `InitializeEPT` before the loops, which gives their tables. -/
def prepareTables : Code (Address × Address) := do
  let context ← loadContext
  let pml4Entries ← loadField context .eptPml4Entries
  let pdpteEntries ← allocatePool (BitVec.ofNat 64 kPdptEntryCount * sizeofEntry)
  zeroMemory pdpteEntries (BitVec.ofNat 64 kPdptEntryCount)
  let pdeEntries ← allocatePool
    (BitVec.ofNat 64 (kPdptEntryCount * kPageDirectoryEntryCount) * sizeofEntry)
  zeroMemory pdeEntries (BitVec.ofNat 64 (kPageDirectoryEntryCount * kPdptEntryCount))
  assignField (entryAddress pml4Entries 0) EptEntry.setReadAccess
  assignField (entryAddress pml4Entries 0) EptEntry.setWriteAccess
  assignField (entryAddress pml4Entries 0) EptEntry.setExecuteAccess
  let physical ← getPhysicalAddress pdpteEntries
  assignField (entryAddress pml4Entries 0) fun entry =>
    entry.setNextPageTable (physical.sdiv pageSize)
  return (pdpteEntries, pdeEntries)

theorem initializeEPT_eq : initializeEPT = do
    let tables ← prepareTables
    fillPdpteEntries tables.1 tables.2
    fillPdeEntries tables.2
    return statusSuccess := rfl

/-- Where the loops are answered without a change, `InitializeEPT` ends in the state its tables were
prepared in. -/
theorem reaches_initializeEPT {σ : Type} {env : Environment interface σ} {state prepared : σ}
    {tables : Address × Address}
    (fills : ∀ op, IsFilling op → ∃ response, env.allows prepared op response ∧
      env.next prepared op response = prepared)
    (prepares : Reaches env prepareTables state (.done tables) prepared) :
    Reaches env initializeEPT state (.done statusSuccess) prepared := by
  have ends {program : Code PUnit} (confined : program.Confined IsFilling fun _ => True) :
      Reaches env program prepared (.done ⟨⟩) prepared := by
    obtain ⟨_, _, reaches⟩ := confined.returns fills
    exact reaches
  rw [initializeEPT_eq]
  apply prepares.andThen
  apply (ends (confined_fillPdpteEntries _ _)).andThen
  exact (ends (confined_fillPdeEntries _)).andThen (.refl _ _)

/-- The system answers them so. -/
private theorem answers_filling (system : System) (op : Op) (fills : IsFilling op) :
    ∃ response, System.environment.left.allows system op response ∧
      System.environment.left.next system op response = system := by
  cases op with
  | load64 | getPhysicalAddress => exact ⟨(0 : BitVec 64), trivial, rfl⟩
  | _ => exact fills.elim

private abbrev codeAnswer (system : System) (op : interface.A) : Option (interface.B op) :=
  answer system (.inl op)

private theorem allows_of_codeAnswer (system : System) (op : interface.A)
    (response : interface.B op) (answered : codeAnswer system op = some response) :
    System.environment.left.allows system op response :=
  allows_of_answer system (.inl op) response answered

/-- A `DriverEntry` that succeeds. -/
theorem returns_driverEntry : ∃ loaded, Reaches System.environment (driverEntry 2)
    (System.start fun _ => 0).mapImage (.done statusSuccess) loaded := by
  apply Exists.intro
  · apply (reaches_drive allows_of_answer 10 true (by decide +kernel)).andThen
    apply (reaches_drive allows_of_answer 10 true (by decide +kernel)).andThen
    apply (reaches_drive allows_of_answer 10 true (by decide +kernel)).andThen
    apply (reaches_drive allows_of_answer 10 0x10000 (by decide +kernel)).andThen
    apply (reaches_drive allows_of_answer 10 () (by decide +kernel)).andThen
    apply (reaches_drive allows_of_answer 10 0x10000 (by decide +kernel)).andThen
    apply (reaches_drive allows_of_answer 100 statusSuccess (by decide +kernel)).andThen
    apply (reaches_drive allows_of_answer 10 0x10000 (by decide +kernel)).andThen
    apply (reaches_drive allows_of_answer 100 statusSuccess (by decide +kernel)).andThen
    apply (reaches_drive allows_of_answer 10 () (by decide +kernel)).andThen
    apply (reaches_drive allows_of_answer 100 statusSuccess (by decide +kernel)).andThen
    apply (reaches_initializeEPT (answers_filling _) (reaches_drive allows_of_codeAnswer 100 (0x90000, 0xA0000)
      (by decide +kernel))).inLeft.andThen
    apply (reaches_drive allows_of_answer 500 statusFailedVmlaunch (by decide +kernel)).andThen
    exact .refl _ _

/-- Without an IRP between them they are a cycle. -/
theorem exists_cycle : ∃ cycles : LoadCycles (.start fun _ => 0), cycles.count ≠ 0 := by
  obtain ⟨loaded, entry, loads⟩ := returns_driverEntry
  obtain ⟨unloaded, unload, unloads⟩ := returns_driverUnload loaded
  let cycle : LoadCycle (.start fun _ => 0) :=
    { depth := 2, status := statusSuccess, entry, loaded, loads, succeeds := by decide
      irps := [], served := loaded, serves := .nil _, unload, unloaded, unloads }
  exact ⟨.next cycle (.none _), Nat.one_ne_zero⟩

/-- After such a cycle the driver still owns its link. -/
theorem not_balanced : ¬ ∀ (field : ContextField → Address) (cycles : LoadCycles (.start field)),
    Balanced cycles := by
  intro balanced
  obtain ⟨cycles, some⟩ := exists_cycle
  cases cycles with
  | none => exact some rfl
  | next cycle later => exact not_balanced_next cycle later (balanced _ _)

end Run

end Guypervisor.Soundness.LoadBalance
