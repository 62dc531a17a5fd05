import Guypervisor.Model.Dispatch
import Guypervisor.Proofs.Stages

/-! # Which IRPs are completed

Of the five dispatch routines that `AddFunctions` installs only `IOCTLHandlerIRP` calls
`IoCompleteRequest`. The other four return success and leave the IRP as it is, so a sequence of
IRPs is completed exactly when each of them is an `IRP_MJ_DEVICE_CONTROL`.
-/

namespace Guypervisor.Soundness.IrpCompletion

open Effects Effects.Program Model Code DriverCode Proofs

/-- The status an event stores in the IRP. -/
def stored : Event interface → Option NTSTATUS
  | ⟨.setIoStatus status, _⟩ => some status
  | _ => none

/-- `Irp->IoStatus.Status` after some events, if they store one. -/
def ioStatus (events : List (Event interface)) : Option NTSTATUS := (events.filterMap stored).getLast?

/-- The routine called `IoCompleteRequest` exactly once, and had stored the status it returns. -/
def Completed (served : Served) : Prop :=
  ∃ before after, served.events = before ++ ⟨.completeRequest, ()⟩ :: after ∧
    (∀ event ∈ before ++ after, event.1 ≠ .completeRequest) ∧ ioStatus before = some served.status

section Routines

variable {σ : Type} {env : Environment interface σ} {depth : ℕ} {irp : Irp} {start final : σ}
  {events : List (Event interface)} {status : NTSTATUS}

/-- `IOCTLHandlerIRP` stores its status and completes the IRP, last of all. -/
theorem completed_ioctlHandlerIRP
    (path : Path env (ioctlHandlerIRP depth irp.ioControlCode) start events (.done status) final) :
    Completed ⟨irp, events, status⟩ := by
  obtain ⟨result, between, handled, later, rfl, first, path⟩ := path.of_bind_done
  obtain ⟨_, later, rfl, _, path⟩ := path_ask_bind path
  obtain ⟨_, later, rfl, _, path⟩ := path_ask_bind path
  obtain ⟨rfl, same, _⟩ := path.of_done
  cases same
  have work := ((confined_handleIoControlCode depth irp.ioControlCode).along first).2
  refine ⟨handled ++ [⟨.setIoStatus status, ()⟩], [], by simp, ?_, by simp [ioStatus, stored]⟩
  rintro ⟨op, response⟩ member rfl
  have issued : (⟨.completeRequest, response⟩ : Event interface) ∈ handled := by
    simpa using member
  exact work _ issued

/-- The other routines never complete it. -/
theorem not_completed_of_ne {routine : DispatchRoutine} (other : routine ≠ .ioctlHandlerIRP)
    (path : Path env (routine.call depth irp) start events (.done status) final) :
    ¬ Completed ⟨irp, events, status⟩ := by
  have confined : (routine.call depth irp).Confined (fun op : Op => op ≠ .completeRequest)
      fun _ => True := by
    cases routine with
    | generalHandlerIRP => exact confined_ask_bind (by simp) fun _ => trivial
    | ioctlHandlerIRP => contradiction
    | createHandlerIRP | closeHandlerIRP | writeHandlerIRP =>
      apply confined_ask_bind (by simp)
      intro _
      exact confined_ask_bind (by simp) fun _ => trivial
  rintro ⟨before, after, split, _⟩
  have issued : (⟨.completeRequest, ()⟩ : Event interface) ∈ events := by
    dsimp only at split
    rw [split]
    exact List.mem_append_right _ List.mem_cons_self
  exact (confined.along path).2 _ issued rfl

end Routines

section Table

/-- No major function leads to `IOCTLHandlerIRP`. -/
def IoctlFree (system : System) : Prop :=
  ∀ major, system.majorFunction major ≠ some .ioctlHandlerIRP

/-- `IRP_MJ_DEVICE_CONTROL` does, and no other one. -/
def IoctlInstalled (system : System) : Prop :=
  ∀ major, system.majorFunction major = some .ioctlHandlerIRP ↔ major = irpMjDeviceControl

variable {system : System}

theorem IoctlFree.install (free : IoctlFree system) (index : ℕ) {routine : DispatchRoutine}
    (other : routine ≠ .ioctlHandlerIRP) : IoctlFree (system.install index routine) := by
  intro major
  by_cases here : major = index
  · simpa [System.install, here] using other
  · simpa [System.install, here] using free major

theorem IoctlFree.installed (free : IoctlFree system) :
    IoctlInstalled (system.install irpMjDeviceControl .ioctlHandlerIRP) := by
  intro major
  by_cases here : major = irpMjDeviceControl
  · simp [System.install, here]
  · simpa [System.install, here] using free major

theorem IoctlInstalled.install (installed : IoctlInstalled system) {index : ℕ}
    {routine : DispatchRoutine} (elsewhere : index ≠ irpMjDeviceControl)
    (other : routine ≠ .ioctlHandlerIRP) : IoctlInstalled (system.install index routine) := by
  intro major
  by_cases here : major = index
  · simpa [System.install, here, other] using elsewhere
  · simpa [System.install, here] using installed major

private abbrev anyOp (_ : System) (_ : driverInterface.A) : Prop := True

/-- Installing one routine, and what follows. -/
theorem ensures_setMajorFunction_bind {α : Type} {index : ℕ} {routine : DispatchRoutine}
    {next : Unit → DriverCode α} {post : α → System → Prop}
    (rest : (next ()).Ensures System.environment anyOp (system.install index routine) post) :
    (setMajorFunction index routine >>= next).Ensures System.environment anyOp system post :=
  ⟨trivial, fun _ _ => rest⟩

theorem ensures_generalHandlerIRP (indices : List ℕ) (free : IoctlFree system) :
    (indices.forM fun i => setMajorFunction i .generalHandlerIRP).Ensures System.environment anyOp
      system fun _ final => IoctlFree final := by
  induction indices generalizing system with
  | nil => exact free
  | cons index rest ih =>
    apply ensures_setMajorFunction_bind
    exact ih (free.install index (by decide))

/-- What `AddFunctions` leaves in the table. -/
theorem ensures_addFunctions (free : IoctlFree system) :
    Device.addFunctions.Ensures System.environment anyOp system fun _ final =>
      IoctlInstalled final := by
  apply (ensures_generalHandlerIRP _ free).bind
  intro _ system free
  iterate 4 apply ensures_setMajorFunction_bind
  apply IoctlInstalled.install _ (by decide) (by decide)
  apply IoctlFree.installed
  apply IoctlFree.install _ irpMjClose (by decide)
  exact free.install irpMjCreate (by decide)

end Table

/-- **A sequence of IRPs is completed exactly when all of them are `IRP_MJ_DEVICE_CONTROL`.** -/
theorem completed_iff {σ : Type} {env : Environment interface σ} {start loaded : System}
    {events : List (Event driverInterface)} {status : NTSTATUS} (mapped : start.Mapped)
    (path : Path System.environment Device.addFunctions start events (.done status) loaded)
    {before after : σ} {served : List Served}
    (serves : Serves env loaded.majorFunction before served after) :
    (∀ one ∈ served, Completed one) ↔
      ∀ one ∈ served, one.irp.majorFunction = irpMjDeviceControl := by
  have free : IoctlFree start := by simp [IoctlFree, mapped.majorFunction]
  have installed : IoctlInstalled loaded := (ensures_addFunctions free).post_of_path path
  induction serves with
  | nil => simp
  | @cons _ irp routine _ _ _ events status _ found path _ ih =>
    rw [List.forall_mem_cons, List.forall_mem_cons]
    refine and_congr ?_ ih
    rw [← installed irp.majorFunction, found, Option.some_inj]
    constructor
    · intro completed
      by_contra other
      exact not_completed_of_ne other path completed
    · rintro rfl
      exact completed_ioctlHandlerIRP path

section Run

/-- Stores to the dispatch table are answered. -/
def tableAnswer (_ : System) : (op : driverInterface.A) → Option (driverInterface.B op)
  | .inr (.setMajorFunction _ _) => some ()
  | _ => none

/-- A call of `AddFunctions` for a driver just mapped. -/
def addFunctionsRun : List (Event driverInterface) × DriverCode NTSTATUS × System :=
  drive System.environment tableAnswer 40 Device.addFunctions (.start fun _ => 0)

private theorem path_addFunctionsRun : ∃ status, Path System.environment Device.addFunctions
    (.start fun _ => 0) addFunctionsRun.1 (.done status) addFunctionsRun.2.2 := by
  have finished : addFunctionsRun.2.1.head? = none := by decide +kernel
  apply drive_path_done _ finished
  rintro system (op | op) response answered
  · contradiction
  · cases op with
    | setMajorFunction => trivial
    | _ => contradiction

/-- Any answer to any operation. -/
def anything : Environment interface Unit where
  allows _ _ _ := True
  next _ _ _ := ()

/-- A routine called for an IRP; two operations are answered. -/
def servedRun (routine : DispatchRoutine) (irp : Irp) : List (Event interface) × Code NTSTATUS × Unit :=
  drive anything (fun _ => Op.plainAnswer) 2 (routine.call 0 irp) ()

/-- A control code that the driver does not know. -/
def unknownControl : Served :=
  let irp : Irp := ⟨irpMjDeviceControl, 6, 0⟩
  ⟨irp, (servedRun .ioctlHandlerIRP irp).1, statusSuccess⟩

private theorem serves_unknownControl :
    Serves anything addFunctionsRun.2.2.majorFunction () [unknownControl] () := by
  have found : addFunctionsRun.2.2.majorFunction irpMjDeviceControl = some .ioctlHandlerIRP := by
    decide +kernel
  have path : Path anything (DispatchRoutine.ioctlHandlerIRP.call 0 unknownControl.irp) ()
      unknownControl.events (.done statusSuccess) () :=
    drive_path anything _ (fun _ _ _ _ => trivial) 2 _ _
  exact .cons found path (.nil _)

theorem completed_iff_unknownControl :
    (∀ one ∈ [unknownControl], Completed one) ↔
      ∀ one ∈ [unknownControl], one.irp.majorFunction = irpMjDeviceControl := by
  obtain ⟨_, path⟩ := path_addFunctionsRun
  exact completed_iff (System.mapped_start _) path serves_unknownControl

/-- An `IRP_MJ_CREATE`. -/
def created : Served :=
  let irp : Irp := ⟨irpMjCreate, 6, 0⟩
  ⟨irp, (servedRun .createHandlerIRP irp).1, statusSuccess⟩

/-- It is not completed. -/
theorem not_completed : ¬ ∀ (start loaded : System) (events : List (Event driverInterface))
    (status : NTSTATUS), start.Mapped →
    Path System.environment Device.addFunctions start events (.done status) loaded →
    ∀ served, Serves anything loaded.majorFunction () served () →
      ∀ one ∈ served, Completed one := by
  intro completes
  obtain ⟨status, installed⟩ := path_addFunctionsRun
  have found : addFunctionsRun.2.2.majorFunction irpMjCreate = some .createHandlerIRP := by
    decide +kernel
  have path : Path anything (DispatchRoutine.createHandlerIRP.call 0 created.irp) ()
      created.events (.done statusSuccess) () :=
    drive_path anything _ (fun _ _ _ _ => trivial) 2 _ _
  have completed : Completed created := completes _ _ _ status (System.mapped_start _) installed _
    (.cons found path (.nil _)) _ List.mem_cons_self
  exact not_completed_of_ne (by decide) path completed

end Run

end Guypervisor.Soundness.IrpCompletion
