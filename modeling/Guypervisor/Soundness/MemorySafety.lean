import Guypervisor.Effects.Surroundings
import Guypervisor.Proofs.Life
import Guypervisor.Soundness.AccessBounds
import Guypervisor.Soundness.DriverCleanup
import Guypervisor.Soundness.LoadBalance

/-! # What a life of the driver does to memory

From its load to its unload the driver writes only into blocks it holds, as long as both regions were
granted, and uses its `Device` only while it holds it. What the pool refused is used all the same, at
the null address, where nothing is stored. So, if both regions were granted, no byte outside all
blocks, those of earlier lives included, changes but in the pages handed to the processor, which may
store there at any time.
-/

namespace Guypervisor.Soundness.MemorySafety

open Effects Effects.Program Model Code DriverCode Proofs AccessBounds

/-- The bytes an operation of the class `Device` reads or writes. -/
def accessedDevice : DeviceOp → Option (Block 64)
  | .loadName device _ | .storeName device _ _ => some ⟨device, Device.sizeofDevice⟩
  | .loadDeviceObject device | .storeDeviceObject device _ => some ⟨device, Device.sizeofDevice⟩
  | _ => none

/-- In the whole driver: what the VMX code writes, where both regions were granted, and what the
class `Device` accesses. -/
def KeepsInside (refused : Prop) (earlier : List Address) (system : System) :
    driverInterface.A → Prop
  | .inl op => InBounds written refused earlier system.heap op
  | .inr op => ∀ bytes, accessedDevice op = some bytes → Held refused system.heap bytes

/-- The pool refuses an allocation only where that is admitted. -/
def AdmitsDriver (refused : Prop) (op : driverInterface.A) (response : driverInterface.B op) : Prop :=
  match op, response with
  | .inl op, response => Admits refused op response
  | .inr _, _ => True

/-- The system under this condition. -/
abbrev grantingSystem (refused : Prop) : Environment driverInterface System :=
  System.environment.restrict fun _ => AdmitsDriver refused

section Devices

variable {refused : Prop} {earlier : List Address} {system : System} {device : Address}

/-- What the methods of `Device` do to one `Device`. -/
def UsesDevice (device : Address) : driverInterface.A → Prop
  | .inl _ => False
  | .inr op => (∀ other, op ≠ .storeGuypervisor other) ∧
    ∀ bytes, accessedDevice op = some bytes → bytes = ⟨device, Device.sizeofDevice⟩

/-- The I/O manager and the class `Device` leave the ledger as it is. -/
theorem heap_nextDevice (system : System) (op : DeviceOp) (response : op.Response) :
    (system.nextDevice op response).heap = system.heap := by
  cases op with
  | ioCreateDevice | ioCreateSymbolicLink | ioDeleteSymbolicLink =>
    simp only [System.nextDevice]
    split <;> rfl
  | _ => rfl

/-- Only an assignment changes the driver's pointer. -/
theorem kGuypervisor_nextDevice (system : System) {op : DeviceOp}
    (other : ∀ device, op ≠ .storeGuypervisor device) (response : op.Response) :
    (system.nextDevice op response).kGuypervisor = system.kGuypervisor := by
  cases op with
  | storeGuypervisor device => exact absurd rfl (other device)
  | ioCreateDevice | ioCreateSymbolicLink | ioDeleteSymbolicLink =>
    simp only [System.nextDevice]
    split <;> rfl
  | _ => rfl

private theorem confined_initDevice (device : Address) :
    (Device.initDevice device).Confined (UsesDevice device) fun _ => True := by
  have functions : Device.addFunctions.Confined (UsesDevice device) fun _ => True := by
    apply confined_addFunctions.mono _ fun _ => id
    intro op install
    match op, install with
    | .inr (.setMajorFunction _ _), _ => exact ⟨nofun, nofun⟩
  refine confined_askDevice_bind ⟨nofun, fun _ same => (Option.some.inj same).symm⟩ fun _ => ?_
  refine confined_askDevice_bind ⟨nofun, nofun⟩ fun answer => ?_
  dsimp only
  split
  · refine confined_askDevice_bind ⟨nofun, fun _ same => (Option.some.inj same).symm⟩ fun _ => ?_
    refine confined_askDevice_bind ⟨nofun, nofun⟩ fun _ => ?_
    exact functions.bind fun _ _ => trivial
  · refine confined_askDevice_bind ⟨nofun, nofun⟩ fun _ => ?_
    exact functions.bind fun _ _ => trivial

private theorem confined_createSymlink (device : Address) :
    (Device.createSymlink device).Confined (UsesDevice device) fun _ => True := by
  refine confined_askDevice_bind ⟨nofun, fun _ same => (Option.some.inj same).symm⟩ fun _ => ?_
  refine confined_askDevice_bind ⟨nofun, nofun⟩ fun _ => ?_
  iterate 2 refine confined_askDevice_bind ⟨nofun, fun _ same => (Option.some.inj same).symm⟩ fun _ => ?_
  exact confined_askDevice_bind ⟨nofun, nofun⟩ fun _ => trivial

/-- Using a held `Device` is legal, and touches neither the ledger nor the driver's pointer. -/
private theorem ensures_usesDevice_bind {α β : Type} {program : DriverCode α}
    {next : α → DriverCode β} {results : α → Prop} {post : β → System → Prop}
    (confined : program.Confined (UsesDevice device) results)
    (held : Held refused system.heap ⟨device, Device.sizeofDevice⟩)
    (rest : ∀ result final, final.heap = system.heap → final.kGuypervisor = system.kGuypervisor →
      (next result).Ensures (grantingSystem refused) (KeepsInside refused earlier) final post) :
    (program >>= next).Ensures (grantingSystem refused) (KeepsInside refused earlier) system post := by
  have kept : program.Ensures (grantingSystem refused) (KeepsInside refused earlier) system fun result final =>
      results result ∧ final.heap = system.heap ∧ final.kGuypervisor = system.kGuypervisor := by
    apply confined.keeps
    · rintro state op uses ⟨same, -⟩
      match op, uses with
      | .inr _, uses =>
        intro bytes accesses
        rw [uses.2 bytes accesses, same]
        exact held
    · rintro state op response uses ⟨sameHeap, samePointer⟩ -
      match op, uses with
      | .inr op, uses =>
        exact ⟨(heap_nextDevice state op response).trans sameHeap,
          (kGuypervisor_nextDevice state uses.1 response).trans samePointer⟩
    · exact ⟨rfl, rfl⟩
  apply kept.bind
  rintro result final ⟨-, sameHeap, samePointer⟩
  exact rest result final sameHeap samePointer

/-- A call that accesses no `Device`. -/
private theorem keepsInside_of_none {op : DeviceOp} (none : accessedDevice op = none) :
    KeepsInside refused earlier system (.inr op) := by
  intro bytes some
  rw [none] at some
  contradiction

/-- An access to a held `Device`. -/
private theorem keepsInside_of_held {op : DeviceOp}
    (accesses : accessedDevice op = some ⟨device, Device.sizeofDevice⟩)
    (held : Held refused system.heap ⟨device, Device.sizeofDevice⟩) :
    KeepsInside refused earlier system (.inr op) := by
  intro bytes some
  obtain rfl := Option.some.inj (accesses.symm.trans some)
  exact held

/-- Deleting a held `Device`, or none, is legal. -/
private theorem ensures_delete
    (held : device ≠ 0 → Held refused system.heap ⟨device, Device.sizeofDevice⟩) :
    (Device.delete device).Ensures (grantingSystem refused) (KeepsInside refused earlier) system fun _ final =>
      final.heap.kProcessorContext = system.heap.kProcessorContext := by
  unfold Device.delete
  split
  · rename_i nonzero
    refine ensures_askDevice_bind (keepsInside_of_held rfl (held nonzero)) fun object _ => ?_
    refine ensures_askDevice_bind (keepsInside_of_none rfl) fun _ _ => ?_
    exact ⟨inBounds_of_none rfl, fun _ _ => rfl⟩
  · rfl

/-- A cleanup before the context exists deletes the `Device` only. -/
private theorem ensures_driverCleanup {status : NTSTATUS}
    (held : system.kGuypervisor ≠ 0 →
      Held refused system.heap ⟨system.kGuypervisor, Device.sizeofDevice⟩)
    (none : system.heap.kProcessorContext = 0) (failure : ntSuccess status = false) :
    (driverCleanup status).Ensures (grantingSystem refused) (KeepsInside refused earlier) system
      fun result _ => ntSuccess result = false := by
  have context {system : System} (none : system.heap.kProcessorContext = 0) :
      (do
        if (← code loadContext) ≠ 0 then
          code freeProcessorContext
        return status : DriverCode NTSTATUS).Ensures (grantingSystem refused) (KeepsInside refused earlier) system
        fun result _ => ntSuccess result = false := by
    refine ensures_askCode_bind (inBounds_of_none rfl) ?_
    rintro _ ⟨rfl, -⟩
    rw [none]
    exact failure
  rw [driverCleanup, failure]
  refine ensures_askDevice_bind (keepsInside_of_none rfl) ?_
  rintro _ ⟨rfl, -⟩
  split
  · refine ensures_askDevice_bind (keepsInside_of_none rfl) ?_
    rintro _ ⟨rfl, -⟩
    apply (ensures_delete held).bind
    intro _ final kept
    exact context (kept.trans none)
  · exact context none

/-- Code that asks nothing of the I/O manager leaves the driver's pointer as it is. -/
private theorem ensures_code {α : Type} {program : Code α} {post : α → Heap → Prop}
    (ensured : program.Ensures (granting refused) (InBounds written refused earlier) system.heap post) :
    (code program).Ensures (grantingSystem refused) (KeepsInside refused earlier) system fun result final =>
      post result final.heap ∧ final.kGuypervisor = system.kGuypervisor := by
  have viewed := ensured.of_view (grantingSystem refused).left System.heap system
    (fun _ _ _ allowed => allowed) fun _ _ _ _ => rfl
  have pointer : program.Ensures (grantingSystem refused).left (fun _ _ => True) system
      fun _ final => True ∧ final.kGuypervisor = system.kGuypervisor :=
    (confined_true program).keeps (fun _ _ _ _ => trivial) (fun _ _ _ _ same _ => same) rfl
  apply (ensures_inLeft program system _).mpr
  apply (pointer.and viewed).mono
  rintro result final ⟨⟨-, same⟩, holds⟩
  exact ⟨holds, same⟩

/-- What is written for is a part of what is accessed. -/
private theorem inBounds_written {heap : Heap} (op : Op) (inside : InBounds accessed refused earlier heap op) :
    InBounds written refused earlier heap op := by
  intro granted bytes writes
  apply inside granted bytes
  cases op <;> first | exact writes | exact absurd writes nofun

/-- The driver has its `Device`, and its context if both regions were granted. -/
structure Loaded (refused : Prop) (earlier : List Address) (system : System) : Prop where
  device : Held refused system.heap ⟨system.kGuypervisor, Device.sizeofDevice⟩
  ready : Ready refused earlier system.heap

/-- After the symbolic link was created, the context is set up and a request is made. -/
private theorem ensures_afterSymlink (depth : ℕ)
    (held : Held refused system.heap ⟨system.kGuypervisor, Device.sizeofDevice⟩)
    (first : system.heap.answers = earlier) :
    (afterSymlink depth).Ensures (grantingSystem refused) (KeepsInside refused earlier) system
      fun _ final => Loaded refused earlier final := by
  subst first
  have stays : ∀ heap op response, IsSetupWork op →
      Held refused heap ⟨system.kGuypervisor, Device.sizeofDevice⟩ → (granting refused).allows heap op response →
      Held refused ((granting refused).next heap op response) ⟨system.kGuypervisor, Device.sizeofDevice⟩ := by
    intro heap op response work held _
    cases op with
    | allocatePool => exact held.mono (extends_allocatePool heap _ _).blocks
    | allocateContiguousMemory => exact held.mono (extends_allocateContiguous heap _ _ _).blocks
    | _ => first | exact held | exact work.elim
  have kept : setUpTables.Ensures (granting refused) (fun _ _ => True) system.heap
      fun status final => DriverStatus status ∧
        Held refused final ⟨system.kGuypervisor, Device.sizeofDevice⟩ :=
    confined_setUpTables.keeps (fun _ _ _ _ => trivial) stays held
  have setUp := kept.and ((ensures_setUpTables system.heap).of_legal fun _ op => inBounds_written op)
  rw [afterSymlink_eq]
  apply (ensures_code setUp).bind
  rintro status between ⟨⟨⟨-, held⟩, ready⟩, same⟩
  apply (ensures_code (ensures_enterVmxHandler depth ready)).bind
  rintro _ final ⟨unchanged, still⟩
  constructor
  · rw [unchanged, still, same]
    exact held
  · rw [unchanged]
    exact ready

/-- `new Device` fills what it was granted. -/
private theorem ensures_new (start : System) (deviceName dosDeviceName : String) :
    (Device.new deviceName dosDeviceName).Ensures (grantingSystem refused) (KeepsInside refused earlier) start
      fun device final => Held refused final.heap ⟨device, Device.sizeofDevice⟩ ∧
        final.heap.answers = start.heap.answers ∧
        final.heap.kProcessorContext = start.heap.kProcessorContext := by
  refine ensures_askCode_bind (inBounds_of_none rfl) ?_
  rintro device ⟨-, admitted⟩
  have held : Held refused (start.heap.next (.allocatePool Device.sizeofDevice) device)
      ⟨device, Device.sizeofDevice⟩ := held_allocatePool start.heap admitted le_rfl
  split
  · iterate 3 refine ensures_askDevice_bind (keepsInside_of_held rfl held) fun _ _ => ?_
    exact ⟨held, rfl, rfl⟩
  · exact ⟨held, rfl, rfl⟩

/-- Every access of `DriverEntry` is in bounds. -/
theorem ensures_driverEntry (depth : ℕ) {start : System} (mapped : start.Mapped) :
    (driverEntry depth).Ensures (grantingSystem refused) (KeepsInside refused start.heap.answers) start
      fun status final => ntSuccess status = true → Loaded refused start.heap.answers final := by
  have unsupported : (driverCleanup statusNotSupported).Ensures (grantingSystem refused)
      (KeepsInside refused start.heap.answers) start fun status final =>
        ntSuccess status = true → Loaded refused start.heap.answers final := by
    apply (ensures_driverCleanup (absurd mapped.kGuypervisor) mapped.kProcessorContext rfl).mono
    intro status _ failure success
    exact absurd (failure.symm.trans success) nofun
  have detects : Passes (grantingSystem refused) (KeepsInside refused start.heap.answers) IsDetection start := by
    refine ⟨fun op detects => ?_, fun op response detects _ => ?_⟩
    · match op, detects with
      | .inl .readEflags, _ | .inl (.cpuid _), _ => exact inBounds_of_none rfl
      | .inr (.writeEflags _), _ | .inr (.uninitializedBytes _), _ => exact keepsInside_of_none rfl
    · match op, detects with
      | .inl .readEflags, _ | .inl (.cpuid _), _ => rfl
      | .inr (.writeEflags _), _ | .inr (.uninitializedBytes _), _ => rfl
  apply ensures_driverEntry_of_detection detects unsupported
  apply (ensures_new start _ _).bind
  rintro device created ⟨held, answers, context⟩
  refine ensures_askDevice_bind (keepsInside_of_none rfl) fun _ _ => ?_
  refine ensures_askDevice_bind (keepsInside_of_none rfl) fun loaded read => ?_
  have same : loaded = device := read.1
  rw [same]
  have stored : Held refused ({ created with kGuypervisor := device } : System).heap
      ⟨device, Device.sizeofDevice⟩ := held
  apply ensures_usesDevice_bind (confined_initDevice device) stored
  intro status initialized sameHeap samePointer
  rw [mapped.kProcessorContext] at context
  have undo {status : NTSTATUS} {state : System} (sameHeap : state.heap = created.heap)
      (samePointer : state.kGuypervisor = device) (failed : (!ntSuccess status) = true) :
      (driverCleanup status).Ensures (grantingSystem refused) (KeepsInside refused start.heap.answers) state
        fun result final => ntSuccess result = true → Loaded refused start.heap.answers final := by
    apply (ensures_driverCleanup (fun _ => by rw [sameHeap, samePointer]; exact held)
      (by rw [sameHeap, context]) (by simpa using failed)).mono
    intro result _ failure success
    exact absurd (failure.symm.trans success) nofun
  split
  · rename_i failed
    exact undo sameHeap samePointer failed
  refine ensures_askDevice_bind (keepsInside_of_none rfl) ?_
  rintro _ ⟨rfl, -⟩
  rw [samePointer]
  have stillHeld : Held refused initialized.heap ⟨device, Device.sizeofDevice⟩ := by
    rw [sameHeap]
    exact held
  apply ensures_usesDevice_bind (confined_createSymlink device) stillHeld
  intro status linked stillHeap stillPointer
  replace stillHeap : linked.heap = created.heap := stillHeap.trans sameHeap
  replace stillPointer : linked.kGuypervisor = device := stillPointer.trans samePointer
  split
  · rename_i failed
    exact undo stillHeap stillPointer failed
  apply (ensures_afterSymlink depth _ _).mono
  · exact fun _ _ loaded _ => loaded
  · rw [stillHeap, stillPointer]
    exact held
  · rw [stillHeap, answers]

/-- Serving dispatch routines changes neither the ledger nor the driver's pointer. -/
private theorem ensures_serve (calls : List DispatchCall) (loaded : Loaded refused earlier system) :
    (serve calls).Ensures (grantingSystem refused) (KeepsInside refused earlier) system
      fun _ final => Loaded refused earlier final := by
  induction calls generalizing system with
  | nil => exact loaded
  | cons call later ih =>
    apply (ensures_code (ensures_dispatch call loaded.ready)).bind
    rintro _ between ⟨sameHeap, samePointer⟩
    apply ih
    constructor
    · rw [sameHeap, samePointer]
      exact loaded.device
    · rw [sameHeap]
      exact loaded.ready

end Devices

section Frame

variable {physical : Address → Address} {earlier : List Address}

/-- The block an event adds to those in use. -/
def allocated : Event driverInterface → Option (Block 64)
  | ⟨.inl (.allocateContiguousMemory bytes _), pointer⟩ => some ⟨pointer, bytes⟩
  | ⟨.inl (.allocatePool bytes), pointer⟩ => some ⟨pointer, bytes⟩
  | _ => none

/-- The page an instruction hands to the processor. -/
def handedPage : Event driverInterface → Option (Block 64)
  | ⟨.inl (.vmxon pointer), _⟩ => some ⟨pointer, pageSize⟩
  | ⟨.inl (.vmclear pointer), _⟩ | ⟨.inl (.vmptrld pointer), _⟩ => some ⟨pointer, pageSize⟩
  | _ => none

/-- The physical address of a byte lies in a page that some event hands to the processor. -/
def InHandedPage (physical : Address → Address) (events : List (Event driverInterface))
    (address : Address) : Prop :=
  ∃ page ∈ events.filterMap handedPage, page.Spans (physical address)

/-- What the processor does by itself: it stores, at any time, into the pages it is handed. -/
def OwnStores (physical : Address → Address) (events : List (Event driverInterface))
    (before after : System × Memory) : Prop :=
  after.1 = before.1 ∧
    ∀ address, ¬ InHandedPage physical events address → after.2 address = before.2 address

variable {handed : List (Event driverInterface)}

/-- No block that spans the address is allocated or handed over. -/
def far (address : Address) (event : Event driverInterface) : Bool :=
  (allocated event).all (¬ ·.Spans address) && (handedPage event).all (¬ ·.Spans address)

/-- Where memory is zero and addresses are translated to themselves, a life up to `VMXON`. -/
def zeroAnswer (state : System × Memory) :
    (op : driverInterface.A) → Option (driverInterface.B op)
  | .inl (.load32 address) => some (state.2.load32 address)
  | .inl (.load64 address) => some (state.2.load64 address)
  | .inl (.getPhysicalAddress address) => some address
  | .inl (.store32 address value) =>
    if address ≠ 0 then DriverCleanup.loadAnswer (0, 0x500000) state.1 (.inl (.store32 address value))
    else none
  | .inl (.store64 address value) =>
    if address ≠ 0 then DriverCleanup.loadAnswer (0, 0x500000) state.1 (.inl (.store64 address value))
    else none
  | .inl (.vmxon _) => none
  | op => DriverCleanup.loadAnswer (0, 0x500000) state.1 op

/-- The system with memory, where this is so. -/
private abbrev farSystem : Environment driverInterface (System × Memory) :=
  (System.withMemory id).restrict fun _ op response => far 0x5000 ⟨op, response⟩ = true

private def farAnswer (state : System × Memory) (op : driverInterface.A) :
    Option (driverInterface.B op) :=
  (zeroAnswer state op).filter fun response => far 0x5000 ⟨op, response⟩

private theorem allows_of_zeroAnswer (state : System × Memory) (op : driverInterface.A)
    (response : driverInterface.B op) (answered : zeroAnswer state op = some response) :
    (System.withMemory id).allows state op response := by
  obtain op | op := op
  · cases op with
    | load32 | load64 | getPhysicalAddress =>
      exact ⟨trivial, (Option.some.inj answered).symm, trivial⟩
    | store32 | store64 =>
      obtain ⟨nonzero, answered⟩ := Option.ite_none_right_eq_some.mp answered
      exact ⟨trivial, trivial, nonzero⟩
    | zeroMemory address bytes =>
      have allowed : address ≠ 0 := DriverCleanup.allows_of_loadAnswer (0, 0x500000) state.1
        (.inl (.zeroMemory address bytes)) response answered
      exact ⟨allowed, trivial, allowed⟩
    | vmxon => contradiction
    | _ => exact ⟨DriverCleanup.allows_of_loadAnswer (0, 0x500000) _ _ _ answered, trivial, trivial⟩
  · exact ⟨DriverCleanup.allows_of_loadAnswer (0, 0x500000) _ _ _ answered, trivial⟩

private theorem allows_of_farAnswer (state : System × Memory) (op : driverInterface.A)
    (response : driverInterface.B op) (answered : farAnswer state op = some response) :
    farSystem.allows state op response := by
  obtain ⟨answered, isFar⟩ := Option.filter_eq_some_iff.mp answered
  exact ⟨allows_of_zeroAnswer state op response answered, isFar⟩

private theorem answers_filling (state : System × Memory) (op : Op) (fills : IsFilling op) :
    ∃ response, farSystem.left.allows state op response ∧
      farSystem.left.next state op response = state := by
  cases op with
  | load64 | getPhysicalAddress => exact ⟨_, ⟨⟨trivial, rfl, trivial⟩, rfl⟩, rfl⟩
  | _ => exact fills.elim

private theorem reaches_vmxon : ∃ rest final, Reaches farSystem (driverEntry 2)
    (.start fun _ => 0, fun _ => 0) rest final ∧ rest.head? = some (.inl (.vmxon 0x30000)) ∧
    final.1.heap.answers = [] ++ [0x30000, 0x40000, 0x60000] := by
  refine ⟨?rest, ?final, ?run, ?issued, ?answers⟩
  case run =>
    apply (reaches_drive allows_of_farAnswer 10 true (by decide +kernel)).andThen
    apply (reaches_drive allows_of_farAnswer 10 true (by decide +kernel)).andThen
    apply (reaches_drive allows_of_farAnswer 10 true (by decide +kernel)).andThen
    apply (reaches_drive allows_of_farAnswer 10 0x10000 (by decide +kernel)).andThen
    apply (reaches_drive allows_of_farAnswer 10 () (by decide +kernel)).andThen
    apply (reaches_drive allows_of_farAnswer 10 0x10000 (by decide +kernel)).andThen
    apply (reaches_drive allows_of_farAnswer 100 statusSuccess (by decide +kernel)).andThen
    apply (reaches_drive allows_of_farAnswer 10 0x10000 (by decide +kernel)).andThen
    apply (reaches_drive allows_of_farAnswer 100 statusSuccess (by decide +kernel)).andThen
    apply (reaches_drive allows_of_farAnswer 10 () (by decide +kernel)).andThen
    apply (reaches_drive allows_of_farAnswer 100 statusSuccess (by decide +kernel)).andThen
    apply (LoadBalance.reaches_initializeEPT (answers_filling _)
      (reaches_drive (fun state op => allows_of_farAnswer state (.inl op)) 100 (0x90000, 0xA0000)
        (by decide +kernel))).inLeft.andThen
    change Reaches farSystem (code (enterVmxHandler 2) >>= fun _ => driverCleanup statusSuccess) _ _ _
    exact reaches_driven allows_of_farAnswer 50 _ _
  case issued => decide +kernel
  case answers => decide +kernel

end Frame

end Guypervisor.Soundness.MemorySafety
