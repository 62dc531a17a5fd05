import Guypervisor.Proofs.Confinement

/-! # The stages as sequences of VMX instructions

No stage's failure is recognised, so the handler is its stages one after the other. Each stage in
turn is one or two VMX instructions among operations that prepare them or report on them. The rules
below hold for any environment that such operations pass in, and leave the VMX instructions to it.
-/

namespace Guypervisor.Proofs

open Effects Effects.Program Model Code

/-- Every status is accepted, so each stage runs whatever the one before it returned. -/
theorem enterVmxHandler_eq (depth : ℕ) : enterVmxHandler depth = call .enterVmxHandler (do
    let _ ← enterVmxonMode
    let _ ← initializeVMCS
    let _ ← populateActiveVMCS depth
    let status ← launchGuest depth
    enterVmxCleanup depth true true status) := by
  apply congrArg (call .enterVmxHandler)
  apply confined_enterVmxonMode.bind_congr
  intro _ entered
  rw [entered.ntSuccess]
  apply confined_initializeVMCS.bind_congr
  intro _ initialized
  rw [initialized.ntSuccess]
  apply (confined_populateActiveVMCS depth).bind_congr
  intro _ populated
  rw [populated.ntSuccess]
  apply (confined_launchGuest depth).bind_congr
  intro _ launched
  rw [launched.ntSuccess]
  rfl

/-- A request keeps to its own work, and every status it returns is one of the driver's. -/
theorem confined_enterVmxHandler (depth : ℕ) :
    (enterVmxHandler depth).Confined IsRequestWork DriverStatus := by
  rw [enterVmxHandler_eq]
  apply confined_call trivial trivial
  apply confined_enterVmxonMode.bind
  intro _ _
  apply confined_initializeVMCS.bind
  intro _ _
  have populated : (populateActiveVMCS depth).Confined IsRequestWork DriverStatus :=
    (confined_populateActiveVMCS depth).mono (fun _ => IsFieldWork.isRequestWork) (fun _ => id)
  apply populated.bind
  intro _ _
  have after {program : Code NTSTATUS} (confined : program.Confined IsAfterEntry DriverStatus) :
      program.Confined IsRequestWork DriverStatus :=
    confined.mono (fun _ => IsAfterEntry.isRequestWork) fun _ => id
  apply (after (confined_launchGuest depth)).bind
  intro _ launched
  exact after (confined_enterVmxCleanup depth launched)

/-- So does the `switch` on the control code. -/
theorem confined_handleIoControlCode (depth : ℕ) (ioControlCode : BitVec 32) :
    (handleIoControlCode depth ioControlCode).Confined IsRequestWork DriverStatus := by
  unfold handleIoControlCode
  split
  · exact confined_enterVmxHandler depth
  · exact driverStatus_statusSuccess

theorem confined_ioctlHandlerIRP (depth : ℕ) (ioControlCode : BitVec 32) :
    (ioctlHandlerIRP depth ioControlCode).Confined (fun _ => True) DriverStatus := by
  have handled : (handleIoControlCode depth ioControlCode).Confined (fun _ => True)
      DriverStatus :=
    (confined_handleIoControlCode depth ioControlCode).mono (fun _ _ => trivial) fun _ => id
  apply handled.bind
  intro status produced
  exact confined_ask_bind trivial fun _ => confined_ask_bind trivial fun _ => produced

/-- What `InitializeVMCS` does: a region is prepared, cleared and made current. -/
def IsInitializing : Op → Prop
  | .loadContext | .loadField _ _ | .readMsr _ => True
  | .load32 _ | .store32 _ _ | .getPhysicalAddress _ => True
  | .vmclear _ | .vmptrld _ => True
  | .enter routine | .leave routine => routine = .initializeVMCS
  | _ => False

theorem confined_initializeVMCS' : initializeVMCS.Confined IsInitializing fun _ => True := by
  refine confined_call rfl rfl ?_
  iterate 7 refine confined_ask_bind trivial fun _ => ?_
  refine confined_ask_bind trivial fun cleared => ?_
  split
  · trivial
  · refine confined_ask_bind trivial fun loaded => ?_
    split <;> trivial

/-- What `ClearActiveVMCS` finds in its variable after `VMPTRST`. -/
def storedAddress (answer : VmxOutcome × BitVec 64) : Address :=
  if answer.1 = .succeed then answer.2 else 0

section Rules

variable {σ α : Type} {env : Environment interface σ} {legal : σ → Op → Prop} {state : σ}

/-- One step of the preparation. -/
theorem ensures_preparation_bind {op : Op} {next : op.Response → Code α} {post : α → σ → Prop}
    (prepares : Passes env legal IsPreparation state) (step : IsPreparation op)
    (rest : ∀ response, (next response).Ensures env legal state post) :
    Ensures env legal (ask op >>= next) state post := by
  apply ensures_ask_bind (prepares.issues op step)
  intro response allowed
  rw [prepares.steady op response step allowed]
  exact rest response

/-- A stage's frame around its body. -/
theorem ensures_stage {routine : Routine} {body : Code α} {post : α → σ → Prop}
    (stage : routine ≠ .enterVmxHandler) (prepares : Passes env legal IsPreparation state)
    (ensured : body.Ensures env legal state fun result final =>
      Passes env legal IsPreparation final ∧ post result final) :
    (call routine body).Ensures env legal state post := by
  have entered : IsPreparation (.enter routine) := stage
  have left : IsPreparation (.leave routine) := stage
  refine ensures_preparation_bind prepares entered fun _ => ?_
  apply ensured.bind
  rintro result final ⟨prepared, holds⟩
  exact ensures_preparation_bind prepared left fun _ => holds

variable {post : σ → Prop} (prepares : Passes env legal IsPreparation state)
include prepares

/-- `EnterVmxonMode` is its `VMXON`. -/
theorem ensures_enterVmxonMode
    (enters : ∀ region, (vmxon region).Ensures env legal state fun _ final =>
      Passes env legal IsPreparation final ∧ post final) :
    enterVmxonMode.Ensures env legal state fun _ final => post final := by
  apply ensures_stage (by decide) prepares
  iterate 15 refine ensures_preparation_bind prepares trivial fun _ => ?_
  apply (confined_setRevisionIdentifier _ _).ensures_bind prepares
  intro _ _
  refine ensures_preparation_bind prepares trivial fun _ => ?_
  refine ensures_preparation_bind prepares trivial fun region => ?_
  apply (enters region).bind
  intro outcome final entered
  split
  · exact entered
  · exact entered

/-- `InitializeVMCS` is its `VMCLEAR` and, if that succeeded, its `VMPTRLD`. -/
theorem ensures_initializeVMCS
    (clears : ∀ region, (vmclear region).Ensures env legal state fun outcome between =>
      if outcome = .succeed then
        (vmptrld region).Ensures env legal between fun _ final =>
          Passes env legal IsPreparation final ∧ post final
      else Passes env legal IsPreparation between ∧ post between) :
    initializeVMCS.Ensures env legal state fun _ final => post final := by
  apply ensures_stage (by decide) prepares
  iterate 3 refine ensures_preparation_bind prepares trivial fun _ => ?_
  apply (confined_setRevisionIdentifier _ _).ensures_bind prepares
  intro _ _
  refine ensures_preparation_bind prepares trivial fun _ => ?_
  refine ensures_preparation_bind prepares trivial fun region => ?_
  apply (clears region).bind
  intro outcome between cleared
  cases outcome with
  | succeed =>
    apply cleared.bind
    intro outcome final loaded
    split
    · exact loaded
    · exact loaded
  | failInvalid => exact cleared
  | failValid => exact cleared

/-- `LaunchGuest` is its `VMLAUNCH`, if control comes back, and a report. -/
theorem ensures_launchGuest (depth : ℕ)
    (launches : vmlaunch.Ensures env legal state fun _ final =>
      Passes env legal IsFieldWork final ∧ Passes env legal IsPreparation final ∧ post final) :
    (launchGuest depth).Ensures env legal state fun _ final => post final := by
  apply ensures_stage (by decide) prepares
  apply launches.bind
  rintro outcome final ⟨works, launched⟩
  split
  · exact (confined_printVMXError' depth).ensures_bind works fun _ _ => launched
  · exact launched

/-- `ClearActiveVMCS` is its `VMPTRST` and, if that gave an address, its `VMCLEAR`. -/
theorem ensures_clearActiveVMCS (depth : ℕ)
    (stores : vmptrst.Ensures env legal state fun answer between =>
      (storedAddress answer = -1 →
        Passes env legal IsFieldWork between ∧ Passes env legal IsPreparation between ∧
          post between) ∧
      (storedAddress answer ≠ -1 →
        (vmclear (storedAddress answer)).Ensures env legal between fun outcome final =>
          (outcome ≠ .succeed → Passes env legal IsFieldWork final) ∧
            Passes env legal IsPreparation final ∧ post final)) :
    (clearActiveVMCS depth).Ensures env legal state fun _ final => post final := by
  apply ensures_stage (by decide) prepares
  apply stores.bind
  rintro answer between ⟨missing, found⟩
  change Ensures _ _ (if storedAddress answer = -1 then _ else _) _ _
  split
  · rename_i none
    obtain ⟨works, left⟩ := missing none
    exact (confined_printVMXError' depth).ensures_bind works fun _ _ => left
  · rename_i some
    apply (found some).bind
    rintro cleared final ⟨works, left⟩
    cases cleared with
    | succeed => exact left
    | failInvalid => exact left
    | failValid =>
      exact (confined_printVMXError' depth).ensures_bind (works (by decide)) fun _ _ => left

end Rules

end Guypervisor.Proofs
