import Guypervisor.Soundness.Population

/-! # What becomes of a failed `VMWRITE`

`PopulateActiveVMCS` gathers the statuses of its writes with `|=`, so that its own is a success just
if none of them failed. One write in the middle, that of the pending debug exceptions, is assigned
instead, and the status forgets what came before it.
-/

namespace Guypervisor.Soundness.WriteReporting

open Effects Effects.Program Model Population

/-- Writes with their outcomes, in the order they were made. -/
abbrev Made : Type := List (VmcsFieldEncoding × VmxOutcome)

/-- One of the writes failed. -/
def Failed (made : Made) : Prop := ∃ write ∈ made, write.2 ≠ .succeed

/-- The writes made before the status is assigned. -/
def forgotten (made : Made) : Made := made.takeWhile (·.1 ≠ .kGuestPendingDebugExceptions)

/-- The writes from the one on whose status is assigned. -/
def accounted (made : Made) : Made := made.dropWhile (·.1 ≠ .kGuestPendingDebugExceptions)

/-- The status is a success exactly when no write failed. -/
def ReportsFailures (events : List (Event interface)) (status : NTSTATUS) : Prop :=
  status = statusSuccess ↔ ¬ Failed (madeOf events)

theorem failed_append (first second : Made) :
    Failed (first ++ second) ↔ Failed first ∨ Failed second := by
  simp only [Failed, List.mem_append, or_and_right, exists_or]

/-- Every field written is written once. -/
theorem nodup_fields {cpu : ProcessorState} {events : List (Event interface)}
    (writes : writesOf events = populateWrites cpu) : ((madeOf events).map Prod.fst).Nodup := by
  have fields : (madeOf events).map Prod.fst = (writesOf events).keys := by
    rw [madeOf, writesOf, WriteLog.keys, List.map_filterMap, List.map_filterMap]
    congr 1
    funext event
    obtain ⟨op, response⟩ := event
    cases op <;> rfl
  rw [fields, writes]
  exact nodup_keys_populateWrites cpu

/-- Where the writes of a finished run divide, and the status of the second part is returned. -/
theorem divided_of_path {cpu : ProcessorState} {depth : ℕ} {events : List (Event interface)}
    {status : NTSTATUS}
    (path : Path cpu.running (populateActiveVMCS depth) () events (.done status) ()) :
    status = statusSuccess ↔ ¬ Failed (accounted (madeOf events)) := by
  obtain ⟨writes, early, outcome, later, split, rfl⟩ := ended_of_path path
  have once : ((early ++ (.kGuestPendingDebugExceptions, outcome) :: later).map Prod.fst).Nodup := by
    rw [← split]
    exact nodup_fields writes
  have others : ∀ write ∈ early, decide (write.1 ≠ .kGuestPendingDebugExceptions) = true := by
    intro write member
    rw [List.map_append, List.map_cons, List.nodup_append] at once
    rw [decide_eq_true_iff]
    exact once.2.2 _ (List.mem_map_of_mem member) _ List.mem_cons_self
  have tail : accounted (madeOf events) =
      (.kGuestPendingDebugExceptions, outcome) :: later := by
    rw [split, accounted, List.dropWhile_append_of_pos others, List.dropWhile_cons_of_neg (by simp)]
  rw [tail, accumulated_eq_success_iff, writeStatus_eq_success_iff]
  simp [Failed]

/-- The exact extent of the defect: the failures of a run are reported when those before the
assignment are not the only ones. -/
theorem reportsFailures_iff {cpu : ProcessorState} {depth : ℕ} {events : List (Event interface)}
    {status : NTSTATUS}
    (path : Path cpu.running (populateActiveVMCS depth) () events (.done status) ()) :
    ReportsFailures events status ↔
      (Failed (forgotten (madeOf events)) → Failed (accounted (madeOf events))) := by
  have whole : Failed (madeOf events) ↔
      Failed (forgotten (madeOf events)) ∨ Failed (accounted (madeOf events)) := by
    unfold forgotten accounted
    rw [← failed_append, List.takeWhile_append_dropWhile]
  rw [ReportsFailures, divided_of_path path, whole]
  tauto

instance (made : Made) : Decidable (Failed made) := inferInstanceAs (Decidable (∃ _ ∈ made, _))

/-- A processor on which nothing fails but the write of the link pointer. -/
def linkFails : (op : Op) → Option op.Response
  | .vmwrite .kGuestVmcsLinkPtrFull _ => some VmxOutcome.failValid
  | op => (default : ProcessorState).respond (fun _ => 0) op

private theorem allows_linkFails (op : Op) (response : op.Response)
    (responded : linkFails op = some response) :
    (ProcessorState.running default).allows () op response := by
  intro expected given
  have answered := ProcessorState.respond_of_answer (ProcessorState.answer_of_reading given)
    (fun _ => 0)
  have same : linkFails op = (default : ProcessorState).respond (fun _ => 0) op := by
    cases op with
    | vmwrite => contradiction
    | _ => rfl
  rw [same, answered] at responded
  exact (Option.some.inj responded).symm

/-- The run on it. -/
def linkRun : List (Event interface) × Code NTSTATUS × Unit :=
  drive (ProcessorState.running default) (fun _ => linkFails) 400 (populateActiveVMCS 2) ()

private theorem path_linkRun : ∃ status,
    Path (ProcessorState.running default) (populateActiveVMCS 2) () linkRun.1 (.done status) () := by
  have finished : linkRun.2.1.head? = none := by decide +kernel
  exact drive_path_done (fun _ => allows_linkFails) finished

theorem reportsFailures_iff_linkRun : ∃ status, ReportsFailures linkRun.1 status ↔
    (Failed (forgotten (madeOf linkRun.1)) → Failed (accounted (madeOf linkRun.1))) := by
  obtain ⟨status, path⟩ := path_linkRun
  exact ⟨status, reportsFailures_iff path⟩

/-- The failure of the first write alone is not reported. -/
theorem not_reportsFailures : ¬ ∀ cpu depth events status,
    Path (ProcessorState.running cpu) (populateActiveVMCS depth) () events (.done status) () →
      ReportsFailures events status := by
  intro reports
  obtain ⟨status, path⟩ := path_linkRun
  have failed : Failed (madeOf linkRun.1) := by decide +kernel
  have others : ¬ Failed (accounted (madeOf linkRun.1)) := by decide +kernel
  have success : status = statusSuccess := (divided_of_path path).mpr others
  exact (reports _ _ _ _ path).mp success failed

end Guypervisor.Soundness.WriteReporting
