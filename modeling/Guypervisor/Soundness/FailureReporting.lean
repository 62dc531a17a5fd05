import Guypervisor.Proofs.Stages

/-! # What becomes of a failed stage

`DriverEntry` calls the handler directly and `IOCTLHandlerIRP` calls it for a request. A failure
of `VMXON`, `VMCLEAR`, `VMPTRLD` or `VMLAUNCH` in one of the four stages is to end the run with a
status that `NT_SUCCESS` rejects. Each failure code is a truth value, which `NT_SUCCESS` accepts,
so a run reports its failures exactly when it has none.
-/

namespace Guypervisor.Soundness.FailureReporting

open Effects Effects.Program Model Code Proofs

/-- Every outcome of every instruction and every value read or returned. -/
def anyOutcome : Environment interface Unit where
  allows _ _ _ := True
  next _ _ _ := ()

/-- The two callers of the handler. -/
inductive Caller
  | driver
  | irp
deriving DecidableEq, Repr

/-- The call whose status the caller gives out. -/
def Caller.request : Caller → ℕ → Code NTSTATUS
  | .driver, depth => enterVmxHandler depth
  | .irp, depth => ioctlHandlerIRP depth ioctlEnterVmx

/-- The four stages, in the order in which the handler runs them. -/
def stages : List Routine :=
  [.enterVmxonMode, .initializeVMCS, .populateActiveVMCS, .launchGuest]

/-- The frames open after some events, innermost first. -/
def openFrames (events : List (Event interface)) : List Routine :=
  events.foldl (fun frames event =>
    match event with
    | ⟨.enter routine, _⟩ => routine :: frames
    | ⟨.leave _, _⟩ => frames.tail
    | _ => frames) []

/-- One of the four instructions ended in VMfail. -/
def failed : Event interface → Bool
  | ⟨.vmxon _, outcome⟩ | ⟨.vmclear _, outcome⟩ | ⟨.vmptrld _, outcome⟩ | ⟨.vmlaunch, outcome⟩ =>
    outcome ≠ VmxOutcome.succeed
  | _ => false

/-- An event that is a failure of the stage whose frame is innermost. -/
def StageFailure (before : List (Event interface)) (event : Event interface) : Prop :=
  failed event = true ∧ ∃ stage ∈ stages, (openFrames before).head? = some stage

/-- After each failure no stage is entered, and the run ends with a failing status, which the IRP
holds as well when there is one. -/
def FailuresReported (caller : Caller) (events : List (Event interface)) (rest : Code NTSTATUS) :
    Prop :=
  ∀ before event after, events = before ++ event :: after → StageFailure before event →
    (∀ stage ∈ stages, ⟨.enter stage, ()⟩ ∉ after) ∧
      ∃ status, rest = .done status ∧ ntSuccess status = false ∧
        (caller = .irp → ⟨.setIoStatus status, ()⟩ ∈ after)

/-- No stage fails. -/
def StagesSucceed (events : List (Event interface)) : Prop :=
  ∀ before event after, events = before ++ event :: after → ¬ StageFailure before event

/-- Whatever happens, a status the caller gives out is one that `NT_SUCCESS` accepts. -/
theorem ntSuccess_of_path {caller : Caller} {depth : ℕ} {events : List (Event interface)}
    {status : NTSTATUS} {final : Unit}
    (path : Path anyOutcome (caller.request depth) () events (.done status) final) :
    ntSuccess status = true := by
  have confined : (caller.request depth).Confined (fun _ => True) DriverStatus := by
    cases caller with
    | driver => exact (confined_enterVmxHandler depth).mono (fun _ _ => trivial) fun _ => id
    | irp => exact confined_ioctlHandlerIRP depth ioctlEnterVmx
  have produced : DriverStatus status := (confined.along path).1
  exact produced.ntSuccess

/-- A run in which a stage fails does not report it. -/
theorem stagesSucceed_of_reported {caller : Caller} {depth : ℕ}
    {events : List (Event interface)} {rest : Code NTSTATUS} {final : Unit}
    (path : Path anyOutcome (caller.request depth) () events rest final)
    (reported : FailuresReported caller events rest) : StagesSucceed events := by
  intro before event after split failure
  obtain ⟨_, status, rfl, rejected, _⟩ := reported before event after split failure
  rw [ntSuccess_of_path path] at rejected
  contradiction

/-- The failures of a run are reported exactly when there are none. -/
theorem failuresReported_iff {caller : Caller} {depth : ℕ} {events : List (Event interface)}
    {rest : Code NTSTATUS} {final : Unit}
    (path : Path anyOutcome (caller.request depth) () events rest final) :
    FailuresReported caller events rest ↔ StagesSucceed events := by
  constructor
  · exact stagesSucceed_of_reported path
  · intro succeed before event after split failure
    exact absurd failure (succeed before event after split)

/-- A request on a machine whose only failure is that of `VMLAUNCH`. -/
def launchFailure : List (Event interface) × Code NTSTATUS × Unit :=
  drive anyOutcome (fun _ => Op.launchFails) 320 (Caller.irp.request 2) ()

private theorem path_launchFailure : Path anyOutcome (Caller.irp.request 2) () launchFailure.1
    launchFailure.2.1 launchFailure.2.2 :=
  drive_path anyOutcome _ (fun _ _ _ _ => trivial) 320 _ _

theorem failuresReported_iff_launchFailure :
    FailuresReported .irp launchFailure.1 launchFailure.2.1 ↔ StagesSucceed launchFailure.1 :=
  failuresReported_iff path_launchFailure

/-- The failure of `VMLAUNCH` ends in a completed request with a status that means success. -/
theorem not_failuresReported : ¬ ∀ caller depth events rest final,
    Path anyOutcome (Caller.request caller depth) () events rest final → rest.Halted →
      FailuresReported caller events rest := by
  intro reported
  have launched : (launchFailure.1[301]?).any failed = true := by decide +kernel
  have framed : (openFrames (launchFailure.1.take 301)).head? = some .launchGuest := by
    decide +kernel
  obtain ⟨event, found, failure⟩ := Option.any_eq_true _ _ |>.mp launched
  have split : launchFailure.1 =
      launchFailure.1.take 301 ++ event :: launchFailure.1.drop 302 := by
    rw [← List.singleton_append, ← Option.toList_some, ← found,
      ← List.drop_eq_getElem?_toList_append, List.take_append_drop]
  have finished : launchFailure.2.1.head? = none := by decide +kernel
  have halted : launchFailure.2.1.Halted := halted_of_head? finished
  have succeed : StagesSucceed launchFailure.1 :=
    stagesSucceed_of_reported path_launchFailure (reported _ _ _ _ _ path_launchFailure halted)
  exact succeed _ event _ split ⟨failure, .launchGuest, by decide, framed⟩

end Guypervisor.Soundness.FailureReporting
