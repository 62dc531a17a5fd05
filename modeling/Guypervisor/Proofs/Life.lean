import Guypervisor.Model.DriverLife
import Guypervisor.Proofs.Loading
import Guypervisor.Proofs.Tables

/-! # Properties that hold over a whole life of the driver

A life of the driver is its requests to enter VMX among operations that load and unload it, print,
and complete IRPs. A property of the state that these operations keep therefore holds over a whole
life, and over any number of lives, as soon as every request keeps it.
-/

namespace Guypervisor.Proofs

open Effects Effects.Program Model DriverCode

/-- What the driver does outside its requests to enter VMX: the checks, the calls of the I/O manager
and of the allocators, filling the context and the tables, printing, and completing IRPs. -/
def IsOutside : driverInterface.A → Prop
  | .inl .readEflags | .inl (.print _ _) | .inl (.setIoStatus _) | .inl .completeRequest => True
  | .inl op => IsSetupWork op ∨ IsRelease op
  | .inr _ => True

section Confined

theorem IsDetection.isOutside {op : driverInterface.A} (detects : IsDetection op) : IsOutside op := by
  match op, detects with
  | .inl .readEflags, _ | .inr (.writeEflags _), _ | .inr (.uninitializedBytes _), _ => trivial
  | .inl (.cpuid _), _ => exact .inl trivial

theorem IsSetupWork.isOutside {op : Op} (work : IsSetupWork op) : IsOutside (.inl op) := by
  cases op <;> first | exact .inl work | exact work.elim

theorem IsRelease.isOutside {op : Op} (releases : IsRelease op) : IsOutside (.inl op) := by
  cases op <;> first | exact .inr releases | exact releases.elim

theorem IsUndo.isOutside {op : driverInterface.A} (undoes : IsUndo op) : IsOutside op := by
  match op, undoes with
  | .inl _, releases => exact IsRelease.isOutside releases
  | .inr _, _ => trivial

theorem IsConstruction.isOutside {op : driverInterface.A} (constructs : IsConstruction op) :
    IsOutside op := by
  match op, constructs with
  | .inl (.allocatePool _), _ => exact .inl trivial
  | .inr _, _ => trivial

theorem confined_initDevice (device : Address) :
    (Device.initDevice device).Confined IsOutside fun _ => True := by
  have installs : ∀ op, IsInstall op → IsOutside op := by
    intro op install
    match op, install with
    | .inr _, _ => trivial
  have functions : Device.addFunctions.Confined IsOutside fun _ => True :=
    confined_addFunctions.mono installs fun _ => id
  refine confined_askDevice_bind trivial fun _ => ?_
  refine confined_askDevice_bind trivial fun answer => ?_
  dsimp only
  split
  · refine confined_askDevice_bind trivial fun _ => confined_askDevice_bind trivial fun _ => ?_
    exact functions.bind fun _ _ => trivial
  · refine confined_askDevice_bind trivial fun _ => ?_
    exact functions.bind fun _ _ => trivial

theorem confined_createSymlink (device : Address) :
    (Device.createSymlink device).Confined IsOutside fun _ => True := by
  iterate 5 refine confined_askDevice_bind trivial fun _ => ?_
  trivial

theorem confined_driverUnload : Device.driverUnload.Confined IsOutside fun _ => True := by
  refine confined_askDevice_bind trivial fun device => ?_
  exact (confined_delete device).mono (fun _ => IsUndo.isOutside) fun _ => id

end Confined

section Invariant

variable {σ : Type} {env : Environment driverInterface σ} {legal : σ → driverInterface.A → Prop}
  {inv : σ → Prop} {state : σ}
  (issues : ∀ state op, IsOutside op → inv state → legal state op)
  (keeps : ∀ state op response, IsOutside op → inv state → env.allows state op response →
    inv (env.next state op response))
include issues keeps

/-- Code outside the requests keeps the property. -/
private theorem ensures_outside_bind {α β : Type} {program : DriverCode α}
    {next : α → DriverCode β} {results : α → Prop} {post : β → σ → Prop}
    (confined : program.Confined IsOutside results) (holds : inv state)
    (rest : ∀ result state, results result → inv state → (next result).Ensures env legal state post) :
    (program >>= next).Ensures env legal state post := by
  apply (confined.keeps issues keeps holds).bind
  rintro result final ⟨produced, holds⟩
  exact rest result final produced holds

/-- So does one operation. -/
private theorem ensures_outside {op : DeviceOp} (holds : inv state) :
    (DriverCode.ask op).Ensures env legal state fun _ final => inv final := by
  have confined : (DriverCode.ask op).Confined IsOutside fun _ => True := ⟨trivial, fun _ => trivial⟩
  exact (confined.keeps issues keeps holds).mono fun _ _ ended => ended.2

/-- A cleanup keeps the property. -/
private theorem ensures_cleanup {status : NTSTATUS} (holds : inv state) :
    (driverCleanup status).Ensures env legal state fun _ final => inv final := by
  have confined : (driverCleanup status).Confined IsOutside fun _ => True :=
    (confined_driverCleanup status).mono (fun _ => IsUndo.isOutside) fun _ _ => trivial
  exact (confined.keeps issues keeps holds).mono fun _ _ ended => ended.2

variable (request : ∀ depth state, inv state →
  (code (enterVmxHandler depth)).Ensures env legal state fun _ final => inv final)
include request

/-- `DriverEntry` keeps what its request keeps. -/
theorem ensures_driverEntry_of_keeps (depth : ℕ) (holds : inv state) :
    (driverEntry depth).Ensures env legal state fun _ final => inv final := by
  have detects {program : DriverCode Bool} (confined : program.Confined IsDetection fun _ => True) :
      program.Confined IsOutside fun _ => True :=
    confined.mono (fun _ => IsDetection.isOutside) fun _ => id
  have cleanup {status : NTSTATUS} {state : σ} (holds : inv state) :
      (driverCleanup status).Ensures env legal state fun _ final => inv final :=
    ensures_cleanup issues keeps holds
  apply ensures_outside_bind issues keeps (detects (confined_isCPUIdSupported _)) holds
  intro supported state _ holds
  split
  · exact cleanup holds
  apply ensures_outside_bind issues keeps (detects confined_vendorIsIntel) holds
  intro intel state _ holds
  split
  · exact cleanup holds
  apply ensures_outside_bind issues keeps (detects confined_supportsVtxOperation) holds
  intro vtx state _ holds
  split
  · exact cleanup holds
  have constructs : (Device.new deviceName dosDeviceName).Confined IsOutside fun _ => True :=
    (confined_new _ _).mono (fun _ => IsConstruction.isOutside) fun _ => id
  apply ensures_outside_bind issues keeps constructs holds
  intro device state _ holds
  apply (ensures_outside issues keeps holds).bind
  intro _ state holds
  apply (ensures_outside issues keeps holds).bind
  intro device state holds
  apply ensures_outside_bind issues keeps (confined_initDevice _) holds
  intro status state _ holds
  split
  · exact cleanup holds
  apply (ensures_outside issues keeps holds).bind
  intro device state holds
  apply ensures_outside_bind issues keeps (confined_createSymlink _) holds
  intro status state _ holds
  split
  · exact cleanup holds
  change (afterSymlink depth).Ensures env legal state fun _ final => inv final
  rw [afterSymlink_eq]
  have setUp : (code setUpTables).Confined IsOutside DriverStatus :=
    (confined_inLeft _ _ _).mpr
      (confined_setUpTables.mono (fun _ => IsSetupWork.isOutside) fun _ => id)
  apply ensures_outside_bind issues keeps setUp holds
  intro status state _ holds
  exact (request depth state holds).bind fun _ _ holds => holds

/-- A dispatch routine keeps it: a request, if there is one, and the completion of the IRP. -/
theorem ensures_dispatch_of_keeps (call : DispatchCall) (holds : inv state) :
    (code call.run).Ensures env legal state fun _ final => inv final := by
  have outside {program : Code NTSTATUS}
      (confined : program.Confined (fun op => IsOutside (.inl op)) fun _ => True) {state : σ}
      (holds : inv state) : (code program).Ensures env legal state fun _ final => inv final :=
    (((confined_inLeft _ _ _).mpr confined).keeps issues keeps holds).mono fun _ _ ended => ended.2
  obtain ⟨depth, routine, irp⟩ := call
  cases routine with
  | ioctlHandlerIRP =>
    have handled : (code (handleIoControlCode depth irp.ioControlCode)).Ensures env legal state
        fun _ final => inv final := by
      unfold handleIoControlCode
      split
      · exact request depth state holds
      · exact holds
    change (code (handleIoControlCode depth irp.ioControlCode >>= _)).Ensures env legal state _
    rw [code, inLeft_bind]
    apply handled.bind
    intro status state holds
    refine outside ?_ holds
    exact ⟨trivial, fun _ => ⟨trivial, fun _ => trivial⟩⟩
  | generalHandlerIRP =>
    refine outside ?_ holds
    exact ⟨trivial, fun _ => trivial⟩
  | createHandlerIRP | closeHandlerIRP | writeHandlerIRP =>
    refine outside ?_ holds
    exact ⟨trivial, fun _ => ⟨trivial, fun _ => trivial⟩⟩

/-- A life of the driver keeps it. -/
theorem ensures_driverLife_of_keeps (depth : ℕ) (calls : List DispatchCall) (holds : inv state) :
    (driverLife depth calls).Ensures env legal state fun _ final => inv final := by
  have served {loaded : σ} (holds : inv loaded) :
      (serve calls).Ensures env legal loaded fun _ final => inv final := by
    induction calls generalizing loaded with
    | nil => exact holds
    | cons call later ih =>
      apply (ensures_dispatch_of_keeps issues keeps request call holds).bind
      exact fun _ between holds => ih holds
  apply (ensures_driverEntry_of_keeps issues keeps request depth holds).bind
  intro status loaded holds
  split
  · apply (served holds).bind
    intro _ served holds
    exact (confined_driverUnload.keeps issues keeps holds).mono fun _ _ ended => ended.2
  · exact holds

/-- Any number of lives keep it. -/
theorem ensures_driverLives_of_keeps (lives : List Life) (holds : inv state) :
    (driverLives lives).Ensures env legal state fun _ final => inv final := by
  induction lives generalizing state with
  | nil => exact holds
  | cons life later ih =>
    apply (ensures_driverLife_of_keeps issues keeps request life.depth life.calls holds).bind
    exact fun _ between holds => ih holds

end Invariant

section Reach

variable {σ : Type} {env : Environment driverInterface σ} {state : σ}

/-- Loading and unloading are answered by what answers the code among them. -/
theorem exists_beside {env : Environment interface σ}
    (answered : ∀ op, IsOutside (.inl op) → ∃ response, env.allows state op response ∧
      env.next state op response = state) (op : driverInterface.A) (outside : IsOutside op) :
    ∃ response, env.beside.allows state op response ∧ env.beside.next state op response = state := by
  match op with
  | .inl op => exact answered op outside
  | .inr op =>
    have : Nonempty op.Response := by cases op <;> infer_instance
    exact ⟨Classical.choice this, trivial, rfl⟩

/-- The operations whose answers decide how far loading goes. -/
def DecidesLoading : driverInterface.A → Prop
  | .inl .readEflags | .inl (.cpuid _) => True
  | .inr (.uninitializedBytes _) | .inr (.ioCreateDevice _) => True
  | .inr (.ioCreateSymbolicLink _ _) => True
  | _ => False

variable (free : ∀ op response, DecidesLoading op → env.allows state op response ∧
    env.next state op response = state)
include free

private theorem reaches_vendorIsIntel : Reaches env vendorIsIntel state (.done true) state := by
  have bytes := free (.inr (.uninitializedBytes 12)) (0 : BitVec 96) trivial
  have info := free (.inl (.cpuid kIa32CpuVendorName)) (⟨0, 0, 0, 0⟩ : CpuInfo) trivial
  apply Reaches.stay (0 : BitVec 96) bytes.1 bytes.2
  apply Reaches.stay (⟨0, 0, 0, 0⟩ : CpuInfo) info.1 info.2
  exact .refl _ _

private theorem reaches_supportsVtxOperation :
    Reaches env supportsVtxOperation state (.done true) state := by
  have info := free (.inl (.cpuid kIa32CpuVersion)) (⟨0, 0, 0x4000000, 0⟩ : CpuInfo) trivial
  apply Reaches.stay (⟨0, 0, 0x4000000, 0⟩ : CpuInfo) info.1 info.2
  exact .refl _ _

variable (answered : ∀ op, IsOutside op → ∃ response, env.allows state op response ∧
    env.next state op response = state)
include answered

omit free in
/-- What stands outside the requests can end where it began. -/
private theorem exists_reaches_outside {α : Type} {program : DriverCode α} {results : α → Prop}
    (confined : program.Confined IsOutside results) :
    ∃ result, results result ∧ Reaches env program state (.done result) state :=
  confined.returns answered

private theorem reaches_isCPUIdSupported :
    Reaches env (isCPUIdSupported hasCpuidFlagMask) state (.done true) state := by
  have flags := free (.inl .readEflags) (0x200000 : BitVec 64) trivial
  obtain ⟨_, written, kept⟩ := answered (.inr (.writeEflags (0x200000 ||| 0x200000))) trivial
  obtain ⟨_, restored, same⟩ := answered (.inr (.writeEflags 0x200000)) trivial
  iterate 2 apply Reaches.stay (0x200000 : BitVec 64) flags.1 flags.2
  apply Reaches.stay () written kept
  apply Reaches.stay (0x200000 : BitVec 64) flags.1 flags.2
  apply Reaches.stay () restored same
  exact .refl _ _

private theorem reaches_initDevice (device : Address) :
    Reaches env (Device.initDevice device) state (.done statusSuccess) state := by
  have installs : ∀ op, IsInstall op → IsOutside op := by
    intro op install
    match op, install with
    | .inr _, _ => trivial
  obtain ⟨name, named, kept⟩ := answered (.inr (.loadName device .deviceName)) trivial
  have created := free (.inr (.ioCreateDevice name)) (statusSuccess, 1) trivial
  obtain ⟨_, stored, same⟩ := answered (.inr (.storeDeviceObject device 1)) trivial
  obtain ⟨_, set, still⟩ := answered (.inr .setDriverUnload) trivial
  obtain ⟨_, -, installed⟩ := exists_reaches_outside answered
    (confined_addFunctions.mono installs fun _ => id)
  apply Reaches.stay name named kept
  apply Reaches.stay (statusSuccess, 1) created.1 created.2
  apply Reaches.stay () stored same
  apply Reaches.stay () set still
  exact installed.andThen (.refl _ _)

private theorem reaches_createSymlink (device : Address) :
    Reaches env (Device.createSymlink device) state (.done statusSuccess) state := by
  obtain ⟨link, named, kept⟩ := answered (.inr (.loadName device .dosDeviceName)) trivial
  obtain ⟨status, deleted, same⟩ := answered (.inr (.ioDeleteSymbolicLink link)) trivial
  obtain ⟨target, read, still⟩ := answered (.inr (.loadName device .deviceName)) trivial
  have created := free (.inr (.ioCreateSymbolicLink link target)) statusSuccess trivial
  apply Reaches.stay link named kept
  apply Reaches.stay status deleted same
  apply Reaches.stay link named kept
  apply Reaches.stay target read still
  apply Reaches.stay statusSuccess created.1 created.2
  exact .refl _ _

/-- Where loading changes nothing, it reaches its request. -/
theorem reaches_request (depth : ℕ) : ∃ status, Reaches env (driverEntry depth) state
    (code (enterVmxHandler depth) >>= fun _ => pure status) state := by
  obtain ⟨device, -, built⟩ := exists_reaches_outside answered
    ((confined_new deviceName dosDeviceName).mono (fun _ => IsConstruction.isOutside) fun _ => id)
  obtain ⟨_, stored, same⟩ := answered (.inr (.storeGuypervisor device)) trivial
  obtain ⟨loaded, read, still⟩ := answered (.inr .loadGuypervisor) trivial
  have setUp : (code setUpTables).Confined IsOutside DriverStatus :=
    (confined_inLeft _ _ _).mpr
      (confined_setUpTables.mono (fun _ => IsSetupWork.isOutside) fun _ => id)
  obtain ⟨status, -, tables⟩ := exists_reaches_outside answered setUp
  refine ⟨status, ?_⟩
  apply (reaches_isCPUIdSupported free answered).andThen
  apply (reaches_vendorIsIntel free).andThen
  apply (reaches_supportsVtxOperation free).andThen
  apply built.andThen
  apply Reaches.stay () stored same
  apply Reaches.stay loaded read still
  apply (reaches_initDevice free answered loaded).andThen
  apply Reaches.stay loaded read still
  apply (reaches_createSymlink free answered loaded).andThen
  change Reaches env (afterSymlink depth) state _ state
  rw [afterSymlink_eq]
  exact tables.andThen (.refl _ _)

/-- So a life of the driver issues what its request issues. -/
theorem exists_issued {depth : ℕ} {rest : DriverCode NTSTATUS} {final : σ} {op : driverInterface.A}
    (inside : Reaches env (code (enterVmxHandler depth)) state rest final)
    (issued : rest.head? = some op) : ∃ later,
      Reaches env (driverLives [⟨depth, []⟩]) state later final ∧ later.head? = some op := by
  obtain ⟨status, entered⟩ := reaches_request free answered depth
  have loading : Reaches env (driverEntry depth) state (rest >>= fun _ => pure status) final :=
    entered.trans (inside.bind _)
  exact ⟨_, (loading.bind _).bind _, head?_bind (head?_bind (head?_bind issued _) _) _⟩

/-- It ends where its request ends, if unloading changes nothing either. -/
theorem reaches_driverLife {depth : ℕ} {final : σ} {status : NTSTATUS}
    (request : Reaches env (code (enterVmxHandler depth)) state (.done status) final)
    (unloads : ∀ op, IsOutside op → ∃ response, env.allows final op response ∧
      env.next final op response = final) :
    Reaches env (driverLife depth []) state (.done ()) final := by
  obtain ⟨result, entered⟩ := reaches_request free answered depth
  have loaded : Reaches env (driverEntry depth) state (.done result) final :=
    entered.trans (request.andThen (.refl _ _))
  obtain ⟨_, -, unloaded⟩ := exists_reaches_outside unloads confined_driverUnload
  apply loaded.andThen
  split
  · exact unloaded
  · exact .refl _ _

/-- A life alone. -/
theorem reaches_driverLives {depth : ℕ} {final : σ} {status : NTSTATUS}
    (request : Reaches env (code (enterVmxHandler depth)) state (.done status) final)
    (unloads : ∀ op, IsOutside op → ∃ response, env.allows final op response ∧
      env.next final op response = final) :
    Reaches env (driverLives [⟨depth, []⟩]) state (.done ()) final :=
  (reaches_driverLife free answered request unloads).andThen (.refl _ _)

end Reach

end Guypervisor.Proofs
