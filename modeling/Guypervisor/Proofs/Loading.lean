import Guypervisor.Model.KernelMemory
import Guypervisor.Proofs.DriverRules

/-! # What the parts of `DriverEntry` can do

The checks access the flags and identify the processor, and `AddFunctions` fills the dispatch
table. Past `CreateSymlink` nothing asks the I/O manager for anything, and no status is one that
`NT_SUCCESS` rejects, so the rest of `DriverEntry` always succeeds if it returns.
-/

namespace Guypervisor.Proofs

open Effects Effects.Program Model DriverCode

/-- What the checks do. -/
def IsDetection : driverInterface.A → Prop
  | .inl .readEflags | .inl (.cpuid _) => True
  | .inr (.writeEflags _) | .inr (.uninitializedBytes _) => True
  | _ => False

theorem confined_isCPUIdSupported (mask : BitVec 32) :
    (isCPUIdSupported mask).Confined IsDetection fun _ => True := by
  iterate 2 refine confined_askCode_bind trivial fun _ => ?_
  refine confined_askDevice_bind trivial fun _ => ?_
  refine confined_askCode_bind trivial fun _ => ?_
  exact confined_askDevice_bind trivial fun _ => trivial

theorem confined_vendorIsIntel : vendorIsIntel.Confined IsDetection fun _ => True := by
  refine confined_askDevice_bind trivial fun _ => ?_
  exact confined_askCode_bind trivial fun _ => trivial

theorem confined_supportsVtxOperation :
    supportsVtxOperation.Confined IsDetection fun _ => True :=
  confined_askCode_bind trivial fun _ => trivial

/-- What `new Device` does. -/
def IsConstruction : driverInterface.A → Prop
  | .inl (.allocatePool _) => True
  | .inr (.storeDeviceObject _ _) | .inr (.storeName _ _ _) => True
  | _ => False

theorem confined_new (deviceName dosDeviceName : String) :
    (Device.new deviceName dosDeviceName).Confined IsConstruction fun _ => True := by
  apply confined_askCode_bind trivial
  intro device
  split
  · iterate 3
      refine confined_askDevice_bind trivial fun _ => ?_
    trivial
  · trivial

/-- Installing a dispatch routine. -/
def IsInstall : driverInterface.A → Prop
  | .inr (.setMajorFunction _ _) => True
  | _ => False

theorem confined_addFunctions : Device.addFunctions.Confined IsInstall fun _ => True := by
  have loop : ((List.range irpMjMaximumFunction).forM fun i =>
      setMajorFunction i .generalHandlerIRP).Confined IsInstall fun _ => True :=
    confined_forM fun _ _ => ⟨trivial, fun _ => trivial⟩
  apply loop.bind
  intro _ _
  iterate 4 refine confined_askDevice_bind trivial fun _ => ?_
  trivial

/-- Asking nothing of the I/O manager. -/
def IsCode : driverInterface.A → Prop
  | .inl _ => True
  | .inr _ => False

/-- The part of `DriverEntry` after a symbolic link was created. -/
def afterSymlink (depth : ℕ) : DriverCode NTSTATUS := do
  code newProcessorContext
  let status ← code initializeProcessorContext
  if !ntSuccess status then
    return (← driverCleanup status)
  let status ← code initializeEPT
  if !ntSuccess status then
    return (← driverCleanup status)
  let _ ← code (enterVmxHandler depth)
  driverCleanup status

/-- The part of `DriverEntry` after the checks. -/
def afterDetection (depth : ℕ) : DriverCode NTSTATUS := do
  storeGuypervisor (← Device.new deviceName dosDeviceName)
  let status ← Device.initDevice (← loadGuypervisor)
  if !ntSuccess status then
    return (← driverCleanup status)
  let status ← Device.createSymlink (← loadGuypervisor)
  if !ntSuccess status then
    return (← driverCleanup status)
  afterSymlink depth

/-- The checks change nothing, so `DriverEntry` is a cleanup or goes on after them. -/
theorem ensures_driverEntry_of_detection {σ : Type} {env : Environment driverInterface σ}
    {legal : σ → driverInterface.A → Prop} {state : σ} {post : NTSTATUS → σ → Prop} {depth : ℕ}
    (detects : Passes env legal IsDetection state)
    (unsupported : (driverCleanup statusNotSupported).Ensures env legal state post)
    (supported : (afterDetection depth).Ensures env legal state post) :
    (driverEntry depth).Ensures env legal state post := by
  apply (confined_isCPUIdSupported _).ensures_bind detects
  intro supportsCpuid _
  split
  · exact unsupported
  apply confined_vendorIsIntel.ensures_bind detects
  intro intel _
  split
  · exact unsupported
  apply confined_supportsVtxOperation.ensures_bind detects
  intro supportsVtx _
  split
  · exact unsupported
  · exact supported

/-- The cleanup of a success does nothing. -/
theorem driverCleanup_of_ntSuccess {status : NTSTATUS} (success : ntSuccess status = true) :
    driverCleanup status = pure status := by
  rw [driverCleanup, success]
  rfl

/-- What the cleanup does. -/
def IsUndo : driverInterface.A → Prop
  | .inl op => IsRelease op
  | .inr .loadGuypervisor | .inr (.loadDeviceObject _) | .inr (.ioDeleteDevice _) => True
  | _ => False

theorem confined_delete (pointer : Address) :
    (Device.delete pointer).Confined IsUndo fun _ => True := by
  unfold Device.delete
  split
  · refine confined_askDevice_bind trivial fun _ => confined_askDevice_bind trivial fun _ => ?_
    exact ⟨trivial, fun _ => trivial⟩
  · trivial

/-- Whatever it undoes, the status stays the same. -/
theorem confined_driverCleanup (status : NTSTATUS) :
    (driverCleanup status).Confined IsUndo fun result => result = status := by
  have context : (code Code.loadContext >>= fun context => if context ≠ 0 then
      code freeProcessorContext >>= fun _ => pure status else pure status).Confined
      IsUndo fun result => result = status := by
    apply confined_askCode_bind trivial
    intro context
    split
    · exact confined_code_bind confined_freeProcessorContext fun _ _ => rfl
    · rfl
  rw [driverCleanup]
  split
  · apply confined_askDevice_bind trivial
    intro device
    split
    · apply confined_askDevice_bind trivial
      intro device
      exact (confined_delete device).bind fun _ _ => context
    · exact context
  · rfl

/-- No early return is taken after the symbolic link was created. -/
theorem afterSymlink_eq (depth : ℕ) : afterSymlink depth = (do
    let status ← code setUpTables
    let _ ← code (enterVmxHandler depth)
    return status) := by
  unfold afterSymlink setUpTables code
  rw [inLeft_bind, bind_assoc]
  refine congrArg _ (funext fun _ => ?_)
  rw [inLeft_bind, bind_assoc]
  have initialized : (code initializeProcessorContext).Confined (fun _ => True) DriverStatus :=
    (confined_inLeft _ _ _).mpr
      (confined_initializeProcessorContext.mono (fun _ _ => trivial) fun _ => id)
  apply initialized.bind_congr
  intro _ driver
  rw [driver.ntSuccess]
  have built : (code initializeEPT).Confined (fun _ => True) DriverStatus :=
    (confined_inLeft _ _ _).mpr (confined_initializeEPT.mono (fun _ _ => trivial) fun _ => id)
  apply built.bind_congr
  intro status driver
  rw [driver.ntSuccess, driverCleanup_of_ntSuccess driver.ntSuccess]
  rfl

/-- It does not take its early returns, so it asks nothing and succeeds. -/
theorem confined_afterSymlink (depth : ℕ) :
    (afterSymlink depth).Confined IsCode fun status => ntSuccess status = true := by
  apply confined_code_bind (confined_newProcessorContext trivial fun _ => trivial)
  intro _ _
  apply confined_code_bind
    (confined_initializeProcessorContext.mono (fun _ _ => trivial) fun _ => id)
  intro _ initialized
  rw [initialized.ntSuccess]
  apply confined_code_bind (confined_initializeEPT.mono (fun _ _ => trivial) fun _ => id)
  intro status mapped
  rw [mapped.ntSuccess]
  apply confined_code_bind ((confined_enterVmxHandler depth).mono (fun _ _ => trivial) fun _ => id)
  intro _ _
  rw [driverCleanup_of_ntSuccess mapped.ntSuccess]
  exact mapped.ntSuccess

end Guypervisor.Proofs
