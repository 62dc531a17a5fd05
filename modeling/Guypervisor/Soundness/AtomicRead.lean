import Guypervisor.Soundness.FailureReporting

/-! # Reading a field or leaving the destination alone

`ReadVMCSFieldGeneric` returns early when its destination is null or the read fails, so that what
the destination points to stays as it was and the status says so. The statuses for both are truth
values that `NT_SUCCESS` accepts: neither is reported, and a failed read is stored.
-/

namespace Guypervisor.Soundness.AtomicRead

open Effects Effects.Program Model Code Proofs FailureReporting

/-- How the `VMREAD` of the field ended, and the value it loaded. -/
def fieldRead : List (Event interface) → Option (VmxOutcome × BitVec 64)
  | ⟨.vmread _, response⟩ :: _ => some response
  | _ => none

variable {w : ℕ}

/-- The field is stored and success is reported, or the destination is left alone and a failure is
reported. -/
def IsAtomic (destination : Option (BitVec w)) (events : List (Event interface)) (status : NTSTATUS)
    (after : Option (BitVec w)) : Prop :=
  match destination, fieldRead events with
  | some _, some (.succeed, value) => status = statusSuccess ∧ after = some (value.setWidth w)
  | _, _ => ntSuccess status = false ∧ after = destination

/-- A destination that is not null, and a `VMREAD` that succeeds. -/
def Readable (destination : Option (BitVec w)) (events : List (Event interface)) : Prop :=
  destination.isSome ∧ ∃ value, fieldRead events = some (.succeed, value)

variable {depth : ℕ} {encoding : VmcsFieldEncoding} {events : List (Event interface)}
  {status : NTSTATUS}

/-- A read that does not succeed is reported as a success. -/
theorem ntSuccess_of_path {prior : BitVec w} {after : Option (BitVec w)}
    (path : Path anyOutcome (readVMCSFieldGeneric depth encoding (some prior)) () events
      (.done (status, after)) ()) : ntSuccess status = true :=
  have produced : DriverStatus status :=
    ((confined_readVMCSFieldGeneric depth encoding prior).along path).1
  produced.ntSuccess

/-- A run begins with the `VMREAD`; one that succeeds is stored at once. -/
theorem fieldRead_of_path {prior : BitVec w} {after : Option (BitVec w)}
    (path : Path anyOutcome (readVMCSFieldGeneric depth encoding (some prior)) () events
      (.done (status, after)) ()) :
    ∃ outcome value, fieldRead events = some (outcome, value) ∧
      (outcome = .succeed → status = statusSuccess ∧ after = some (value.setWidth w)) := by
  obtain ⟨⟨outcome, value⟩, later, rfl, -, rest⟩ := path_ask_bind path
  refine ⟨outcome, value, rfl, ?_⟩
  rintro rfl
  obtain ⟨-, same, -⟩ := rest.of_done
  injection same with same
  exact Prod.ext_iff.mp same

/-- The exact extent of the defect: a read is atomic when the destination is not null and the
`VMREAD` succeeds. -/
theorem isAtomic_iff {destination after : Option (BitVec w)}
    (path : Path anyOutcome (readVMCSFieldGeneric depth encoding destination) () events
      (.done (status, after)) ()) :
    IsAtomic destination events status after ↔ Readable destination events := by
  cases destination with
  | none =>
    obtain ⟨rfl, same, -⟩ := path.of_done
    injection same with same
    obtain ⟨rfl, rfl⟩ := Prod.ext_iff.mp same
    constructor
    · intro atomic
      exact absurd atomic.1 Bool.noConfusion
    · intro readable
      exact absurd readable.1 Bool.noConfusion
  | some prior =>
    obtain ⟨outcome, value, read, stored⟩ := fieldRead_of_path path
    have accepted := ntSuccess_of_path path
    unfold IsAtomic Readable
    rw [read]
    cases outcome with
    | succeed => simp [stored rfl]
    | failInvalid => simp [accepted]
    | failValid => simp [accepted]

/-- A `VMREAD` that fails for one field, and reads every other one as zero. -/
def missingField (missing : VmcsFieldEncoding) : Unit → (op : Op) → Option op.Response
  | _, .vmread field => if field = missing then some (VmxOutcome.failValid, (0 : BitVec 64))
    else some (VmxOutcome.succeed, (0 : BitVec 64))
  | _, op => op.plainAnswer

/-- A doubleword that holds 5, read into while the SMBASE field is missing. -/
def doublewordRun (field : VmcsFieldEncoding) :
    List (Event interface) × Code (NTSTATUS × Option (BitVec 32)) × Unit :=
  drive anyOutcome (missingField .kGuestSmbase) 4
    (readVMCSFieldGeneric 1 field (some (5 : BitVec 32))) ()

private theorem path_doublewordRun {field : VmcsFieldEncoding} {result : NTSTATUS × Option (BitVec 32)}
    (finished : (doublewordRun field).2.1.result? = some result) :
    Path anyOutcome (readVMCSFieldGeneric 1 field (some (5 : BitVec 32))) () (doublewordRun field).1
      (.done result) () := by
  rw [← done_of_result? finished]
  exact drive_path anyOutcome _ (fun _ _ _ _ => trivial) 4 _ _

theorem isAtomic_iff_exitReason :
    IsAtomic (some (5 : BitVec 32)) (doublewordRun .kExitReason).1 statusSuccess (some 0) ↔
      Readable (some (5 : BitVec 32)) (doublewordRun .kExitReason).1 := by
  have finished : (doublewordRun .kExitReason).2.1.result? =
      some (statusSuccess, some (0 : BitVec 32)) := by decide +kernel
  exact isAtomic_iff (path_doublewordRun finished)

/-- A failed read zeroes the destination and is not reported. -/
theorem not_isAtomic : ¬ ∀ (w depth : ℕ) (encoding : VmcsFieldEncoding)
    (destination after : Option (BitVec w)) (events : List (Event interface)) (status : NTSTATUS),
    w = 16 ∨ w = 32 ∨ w = 64 →
    Path anyOutcome (readVMCSFieldGeneric depth encoding destination) () events
      (.done (status, after)) () → IsAtomic destination events status after := by
  intro atomic
  have finished : (doublewordRun .kGuestSmbase).2.1.result? =
      some (statusFailedVmread, some (0 : BitVec 32)) := by decide +kernel
  have kept := (atomic 32 1 _ _ _ _ _ (by omega) (path_doublewordRun finished)).2
  contradiction

end Guypervisor.Soundness.AtomicRead
