import Guypervisor.Proofs.Confinement

/-! # How far the error recursion goes

A failed `VMREAD` prints the VMX error, and printing it makes two more reads. Nothing bounds the
nesting but the answers of the processor. `pendingAfter` follows the reads that are still to be
made: each one that succeeds settles itself, and each one that fails leaves the two of the printer
in its place. The calls of the driver that lead to reads end just when nothing is pending any more.
-/

namespace Guypervisor.Soundness.ErrorRecursion

open Effects Effects.Program Model Code Proofs

/-- What the VMX instructions answer: `VMREAD` by how many were made before it and by its field. -/
structure Behaviour where
  vmread : ℕ → VmcsFieldEncoding → VmxOutcome × BitVec 64
  vmwrite : VmcsFieldEncoding → BitVec 64 → VmxOutcome
  vmlaunch : VmxOutcome
  vmptrst : VmxOutcome × BitVec 64
  vmclear : Address → VmxOutcome

namespace Behaviour

/-- The processor that behaves so; the state counts the `VMREAD`s made. -/
def environment (behaviour : Behaviour) : Environment interface ℕ where
  allows attempts op response :=
    match op, response with
    | .vmread field, answer => answer = behaviour.vmread attempts field
    | .vmwrite field value, outcome => outcome = behaviour.vmwrite field value
    | .vmlaunch, outcome => outcome = behaviour.vmlaunch
    | .vmptrst, answer => answer = behaviour.vmptrst
    | .vmclear region, outcome => outcome = behaviour.vmclear region
    | _, _ => True
  next attempts op _ :=
    match op with
    | .vmread _ => attempts + 1
    | _ => attempts

/-- The reads of the error printer. -/
def printerReads : List VmcsFieldEncoding := [.kVmInstructionError, .kExitReason]

/-- The reads still to be made after some more attempts. -/
def pendingAfter (behaviour : Behaviour) : ℕ → ℕ → List VmcsFieldEncoding → List VmcsFieldEncoding
  | 0, _, pending => pending
  | _ + 1, _, [] => []
  | steps + 1, attempts, field :: rest =>
    if (behaviour.vmread attempts field).1 = .succeed then
      behaviour.pendingAfter steps (attempts + 1) rest
    else behaviour.pendingAfter steps (attempts + 1) (printerReads ++ rest)

/-- At some point nothing is pending any more. -/
def Settles (behaviour : Behaviour) (attempts : ℕ) (pending : List VmcsFieldEncoding) : Prop :=
  ∃ steps, behaviour.pendingAfter steps attempts pending = []

end Behaviour

/-- The calls of the driver that read fields or report errors. -/
inductive Call
  | readVMCSField64 (encoding : VmcsFieldEncoding) (field : Option (BitVec 64))
  | readVMCSFieldGeneric {w : ℕ} (encoding : VmcsFieldEncoding) (field : Option (BitVec w))
  | printVMXError
  | writeVMCSField64 (encoding : VmcsFieldEncoding) (value : BitVec 64)
  | launchGuest
  | clearActiveVMCS

/-- The call, on a stack with room for so many nested calls of the printer. -/
def Call.code (depth : ℕ) : Call → Code Unit
  | .readVMCSField64 encoding field => do
    let _ ← Model.readVMCSField64 depth encoding field
  | .readVMCSFieldGeneric encoding field => do
    let _ ← Model.readVMCSFieldGeneric depth encoding field
  | .printVMXError => do
    let _ ← Model.printVMXError depth
  | .writeVMCSField64 encoding value => do
    let _ ← Model.writeVMCSField64 depth encoding value
  | .launchGuest => do
    let _ ← Model.launchGuest depth
  | .clearActiveVMCS => do
    let _ ← Model.clearActiveVMCS depth

/-- With room enough on the stack, no nested call overflows it. -/
def Ends (behaviour : Behaviour) (call : Call) : Prop :=
  ∃ depth, ∀ events rest attempts,
    Path behaviour.environment (call.code depth) 0 events rest attempts →
      rest.head? ≠ some .overflow

/-- `ClearActiveVMCS` finds no current VMCS, or an address that `VMCLEAR` rejects with a reason. -/
def reportsClear (behaviour : Behaviour) : Prop :=
  let stored := if behaviour.vmptrst.1 = .succeed then behaviour.vmptrst.2 else 0
  stored = -1 ∨ behaviour.vmclear stored = .failValid

instance (behaviour : Behaviour) : Decidable (reportsClear behaviour) :=
  inferInstanceAs (Decidable (_ ∨ _))

/-- The reads a call makes if none of them fails. -/
def Call.reads (behaviour : Behaviour) : Call → List VmcsFieldEncoding
  | .readVMCSField64 encoding field => if field.isSome then [encoding] else []
  | .readVMCSFieldGeneric encoding field => if field.isSome then [encoding] else []
  | .printVMXError => Behaviour.printerReads
  | .writeVMCSField64 encoding value =>
    if behaviour.vmwrite encoding value = .succeed then [] else Behaviour.printerReads
  | .launchGuest => if behaviour.vmlaunch = .succeed then [] else Behaviour.printerReads
  | .clearActiveVMCS => if reportsClear behaviour then Behaviour.printerReads else []

section Skeleton

variable {α : Type}

/-- A read before a program, without what it returns. -/
theorem readVMCSField64With_bind (printer : Code NTSTATUS) (encoding : VmcsFieldEncoding)
    (prior : BitVec 64) (next : Code α) :
    (readVMCSField64With printer encoding (some prior) >>= fun _ => next) =
      vmread encoding >>= fun answer =>
        if answer.1 = .succeed then next else printer >>= fun _ => next := by
  simp only [readVMCSField64With, bind_assoc]
  congr 1
  funext ⟨outcome, value⟩
  cases outcome <;> simp [VmxOutcome.operationStatus]

/-- A read of another width is the same read. -/
theorem readVMCSFieldGenericWith_bind (printer : Code NTSTATUS) {w : ℕ}
    (encoding : VmcsFieldEncoding) (prior : BitVec w) (next : Code α) :
    (readVMCSFieldGenericWith printer encoding (some prior) >>= fun _ => next) =
      vmread encoding >>= fun answer =>
        if answer.1 = .succeed then next else printer >>= fun _ => next := by
  rw [← readVMCSField64With_bind printer encoding 0 next]
  simp only [readVMCSFieldGenericWith, bind_assoc]
  congr 1
  funext ⟨status, value⟩
  dsimp only
  split <;> rfl

/-- The reads in a row, each with the room for the printer that it may call, and then a program. -/
def readsThen (next : Code α) : List (VmcsFieldEncoding × ℕ) → Code α
  | [] => next
  | (field, depth) :: rest => do
    let answer ← vmread field
    if answer.1 = .succeed then readsThen next rest
    else
      let _ ← printVMXError depth
      readsThen next rest

/-- No status the reads return is a failure, so the printer makes both. -/
theorem printVMXError_succ_bind (depth : ℕ) (next : Code α) :
    (printVMXError (depth + 1) >>= fun _ => next) =
      readsThen next (Behaviour.printerReads.map (·, depth)) := by
  have confined := confined_printVMXError depth
  calc
    (printVMXError (depth + 1) >>= fun _ => next) =
        readVMCSFieldGenericWith (printVMXError depth) .kVmInstructionError (some (0 : BitVec 32)) >>=
          fun _ => readVMCSFieldGenericWith (printVMXError depth) .kExitReason
            (some (0 : BitVec 32)) >>= fun _ => next := by
      rw [printVMXError, printVMXErrorWith, bind_assoc]
      apply (confined_readVMCSFieldGenericWith confined _ 0).bind_congr
      rintro ⟨status, _⟩ produced
      simp [DriverStatus.ntSuccess produced]
    _ = readsThen next (Behaviour.printerReads.map (·, depth)) := by
      rw [readVMCSFieldGenericWith_bind]
      simp only [readVMCSFieldGenericWith_bind]
      rfl

end Skeleton

section Ends

variable (behaviour : Behaviour) {α : Type}

/-- No run gets to an overflow of the stack. -/
def Fits (program : Code α) (attempts : ℕ) : Prop :=
  program.Ensures behaviour.environment (fun _ op => op ≠ .overflow) attempts fun _ _ => True

/-- A program that overflows nowhere, whatever the processor does. -/
def Harmless (program : Code α) : Prop := ∀ attempts, Fits behaviour program attempts

variable {behaviour} {next : Code α} {attempts : ℕ}

/-- An instruction whose answer is determined. -/
theorem fits_ask_bind (op : Op) {rest : op.Response → Code α} (answer : op.Response)
    (only : ∀ response, behaviour.environment.allows attempts op response ↔ response = answer)
    (other : op ≠ .overflow) :
    Fits behaviour (ask op >>= rest) attempts ↔
      Fits behaviour (rest answer) (behaviour.environment.next attempts op answer) := by
  rw [Fits, ensures_unique_bind_iff answer only]
  exact and_iff_right other

/-- One read, and the reads it leaves. -/
theorem fits_readsThen_cons (field : VmcsFieldEncoding) (depth : ℕ)
    (rest : List (VmcsFieldEncoding × ℕ)) :
    Fits behaviour (readsThen next ((field, depth) :: rest)) attempts ↔
      if (behaviour.vmread attempts field).1 = .succeed then
        Fits behaviour (readsThen next rest) (attempts + 1)
      else Fits behaviour (printVMXError depth >>= fun _ => readsThen next rest) (attempts + 1) := by
  rw [readsThen, vmread, fits_ask_bind (.vmread field) _ (fun _ => Iff.rfl) (by nofun)]
  split <;> rfl

/-- Without room for the printer, its call overflows the stack. -/
theorem not_fits_printVMXError_zero : ¬ Fits behaviour (printVMXError 0 >>= fun _ => next) attempts :=
  fun fits => fits.1 rfl

/-- With room for it, the call is its two reads. -/
theorem printVMXError_succ_readsThen (depth : ℕ) (rest : List (VmcsFieldEncoding × ℕ)) :
    (printVMXError (depth + 1) >>= fun _ => readsThen next rest) =
      readsThen next (Behaviour.printerReads.map (·, depth) ++ rest) :=
  printVMXError_succ_bind depth (readsThen next rest)

/-- With more room than there are steps, a list of reads that settles fits. -/
theorem fits_of_pendingAfter (harmless : Harmless behaviour next) {steps : ℕ}
    {reads : List (VmcsFieldEncoding × ℕ)} (room : ∀ read ∈ reads, steps ≤ read.2)
    (settled : behaviour.pendingAfter steps attempts (reads.map Prod.fst) = []) :
    Fits behaviour (readsThen next reads) attempts := by
  induction steps generalizing reads attempts with
  | zero =>
    obtain rfl := List.map_eq_nil_iff.mp settled
    exact harmless attempts
  | succ steps ih =>
    cases reads with
    | nil => exact harmless attempts
    | cons read rest =>
      obtain ⟨field, depth⟩ := read
      obtain ⟨first, others⟩ := List.forall_mem_cons.mp room
      have later : ∀ read ∈ rest, steps ≤ read.2 := fun read member =>
        (Nat.le_succ steps).trans (others read member)
      rw [fits_readsThen_cons]
      rw [List.map_cons, Behaviour.pendingAfter] at settled
      split at settled
      · rename_i succeeded
        rw [if_pos succeeded]
        exact ih later settled
      · rename_i failed
        rw [if_neg failed]
        obtain ⟨less, rfl⟩ : ∃ less, depth = less + 1 := Nat.exists_eq_add_one.mpr (by omega)
        rw [printVMXError_succ_readsThen]
        apply ih
        · simp only [List.forall_mem_append, List.forall_mem_map]
          exact ⟨fun _ _ => Nat.le_of_succ_le_succ first, later⟩
        · rw [List.map_append, List.map_map]
          exact settled

/-- A list of reads that fits settles, whatever the room. -/
theorem settles_of_fits {reads : List (VmcsFieldEncoding × ℕ)}
    (fits : Fits behaviour (readsThen next reads) attempts) :
    behaviour.Settles attempts (reads.map Prod.fst) := by
  generalize same : readsThen next reads = program at fits
  -- Each read is a node of the program, so the program bounds how often reads are left.
  induction program generalizing reads attempts with
  | done result =>
    cases reads with
    | nil => exact ⟨0, rfl⟩
    | cons => contradiction
  | issue op resume ih =>
    cases reads with
    | nil => exact ⟨0, rfl⟩
    | cons read rest =>
      obtain ⟨field, depth⟩ := read
      rw [← same, fits_readsThen_cons] at fits
      change Program.issue (Op.vmread field) _ = Program.issue op resume at same
      cases same
      have after : ∀ left, readsThen next left = (if (behaviour.vmread attempts field).1 = .succeed
            then readsThen next rest else printVMXError depth >>= fun _ => readsThen next rest) →
          Fits behaviour (readsThen next left) (attempts + 1) →
            behaviour.Settles (attempts + 1) (left.map Prod.fst) := by
        intro left reached fits
        rw [reached] at fits
        exact ih (behaviour.vmread attempts field) reached fits
      split at fits
      · rename_i succeeded
        obtain ⟨steps, settled⟩ := after rest (if_pos succeeded).symm fits
        exact ⟨steps + 1, by rw [List.map_cons, Behaviour.pendingAfter, if_pos succeeded, settled]⟩
      · rename_i failed
        cases depth with
        | zero => exact absurd fits not_fits_printVMXError_zero
        | succ depth =>
          rw [printVMXError_succ_readsThen] at fits after
          obtain ⟨steps, settled⟩ := after _ (if_neg failed).symm fits
          rw [List.map_append, List.map_map] at settled
          exact ⟨steps + 1, by rw [List.map_cons, Behaviour.pendingAfter, if_neg failed]; exact settled⟩

variable (harmless : Harmless behaviour next)
include harmless

/-- One read ends when nothing is pending after it any more. -/
theorem exists_fits_read_iff (field : VmcsFieldEncoding) :
    (∃ depth, Fits behaviour (readsThen next [(field, depth)]) attempts) ↔
      behaviour.Settles attempts [field] := by
  constructor
  · rintro ⟨depth, fits⟩
    exact settles_of_fits fits
  · rintro ⟨steps, settled⟩
    exact ⟨steps, fits_of_pendingAfter harmless (by simp) settled⟩

/-- So does a call of the printer. -/
theorem exists_fits_printVMXError_iff :
    (∃ depth, Fits behaviour (printVMXError depth >>= fun _ => next) attempts) ↔
      behaviour.Settles attempts Behaviour.printerReads := by
  constructor
  · rintro ⟨_ | depth, fits⟩
    · exact absurd fits not_fits_printVMXError_zero
    · rw [printVMXError_succ_bind] at fits
      exact settles_of_fits fits
  · rintro ⟨steps, settled⟩
    refine ⟨steps + 1, ?_⟩
    rw [printVMXError_succ_bind]
    exact fits_of_pendingAfter harmless (by simp [Behaviour.printerReads]) settled

end Ends

section Calls

/-- A done program overflows nowhere. -/
theorem harmless_pure (behaviour : Behaviour) {α : Type} (result : α) :
    Harmless behaviour (pure result) :=
  fun _ => trivial

/-- Nor does a routine that only has to return. -/
theorem harmless_leave (behaviour : Behaviour) {α : Type} (routine : Routine) (result : α) :
    Harmless behaviour (leave routine >>= fun _ => pure result) :=
  fun _ => ⟨nofun, fun _ _ => trivial⟩

variable {behaviour : Behaviour} {call : Call}

/-- The runs of a call avoid the overflow just when its code fits. -/
theorem ends_iff_fits : Ends behaviour call ↔ ∃ depth, Fits behaviour (call.code depth) 0 := by
  apply exists_congr
  intro depth
  rw [Fits, ensures_iff_legal]
  constructor
  · intro avoided events rest final op path issued overflowed
    exact avoided events rest final path (overflowed ▸ issued)
  · intro legal events rest attempts path issued
    exact legal events rest attempts .overflow path issued rfl

/-- A call that fits on any stack ends, and leaves no read. -/
theorem ends_iff_of_fits (reads : call.reads behaviour = [])
    (fits : Fits behaviour (call.code 0) 0) :
    Ends behaviour call ↔ behaviour.Settles 0 (call.reads behaviour) := by
  rw [ends_iff_fits, reads]
  exact iff_of_true ⟨0, fits⟩ ⟨0, rfl⟩

/-- A call that is one read. -/
theorem ends_iff_of_read (field : VmcsFieldEncoding) (reads : call.reads behaviour = [field])
    (code : ∀ depth, call.code depth = readsThen (pure ()) [(field, depth)]) :
    Ends behaviour call ↔ behaviour.Settles 0 (call.reads behaviour) := by
  rw [ends_iff_fits, reads]
  simp only [code]
  exact exists_fits_read_iff (harmless_pure behaviour ()) field

/-- A call that calls the printer under a condition, and is harmless besides. -/
theorem ends_iff_of_report {α : Type} {next : Code α} (reports : Prop) [Decidable reports]
    (harmless : Harmless behaviour next)
    (reads : call.reads behaviour = if reports then Behaviour.printerReads else [])
    (code : ∀ depth, Fits behaviour (call.code depth) 0 ↔
      (reports → Fits behaviour (printVMXError depth >>= fun _ => next) 0)) :
    Ends behaviour call ↔ behaviour.Settles 0 (call.reads behaviour) := by
  rw [ends_iff_fits, reads]
  simp only [code]
  by_cases reported : reports
  · simp only [reported, true_imp_iff, if_true]
    exact exists_fits_printVMXError_iff harmless
  · simp only [reported, false_imp_iff, if_false]
    exact iff_of_true ⟨0, trivial⟩ ⟨0, rfl⟩

theorem ends_readVMCSField64_iff (encoding : VmcsFieldEncoding) (field : Option (BitVec 64)) :
    Ends behaviour (.readVMCSField64 encoding field) ↔
      behaviour.Settles 0 ((Call.readVMCSField64 encoding field).reads behaviour) := by
  cases field with
  | none => exact ends_iff_of_fits rfl trivial
  | some prior =>
    apply ends_iff_of_read encoding rfl
    intro depth
    rw [Call.code, Model.readVMCSField64, readVMCSField64With_bind]
    rfl

theorem ends_readVMCSFieldGeneric_iff {w : ℕ} (encoding : VmcsFieldEncoding)
    (field : Option (BitVec w)) :
    Ends behaviour (.readVMCSFieldGeneric encoding field) ↔
      behaviour.Settles 0 ((Call.readVMCSFieldGeneric encoding field).reads behaviour) := by
  cases field with
  | none => exact ends_iff_of_fits rfl trivial
  | some prior =>
    apply ends_iff_of_read encoding rfl
    intro depth
    rw [Call.code, Model.readVMCSFieldGeneric, readVMCSFieldGenericWith_bind]
    rfl

theorem ends_printVMXError_iff :
    Ends behaviour .printVMXError ↔ behaviour.Settles 0 (Call.printVMXError.reads behaviour) := by
  rw [ends_iff_fits]
  exact exists_fits_printVMXError_iff (harmless_pure behaviour ())

theorem ends_writeVMCSField64_iff (encoding : VmcsFieldEncoding) (value : BitVec 64) :
    Ends behaviour (.writeVMCSField64 encoding value) ↔
      behaviour.Settles 0 ((Call.writeVMCSField64 encoding value).reads behaviour) := by
  apply ends_iff_of_report (behaviour.vmwrite encoding value ≠ .succeed)
    (harmless_pure behaviour ()) (by simp [Call.reads])
  intro depth
  rw [Call.code, Model.writeVMCSField64, bind_assoc, vmwrite,
    fits_ask_bind (.vmwrite encoding value) _ (fun _ => Iff.rfl) (by nofun)]
  cases behaviour.vmwrite encoding value with
  | succeed => exact iff_of_true trivial fun failed => absurd rfl failed
  | failInvalid => simp [VmxOutcome.operationStatus, Behaviour.environment]
  | failValid => simp [VmxOutcome.operationStatus, Behaviour.environment]

theorem ends_launchGuest_iff :
    Ends behaviour .launchGuest ↔ behaviour.Settles 0 (Call.launchGuest.reads behaviour) := by
  apply ends_iff_of_report (behaviour.vmlaunch ≠ .succeed)
    (harmless_leave behaviour .launchGuest ()) (by simp [Call.reads])
  intro depth
  rw [Call.code, Model.launchGuest, Code.call, bind_assoc, enter,
    fits_ask_bind (.enter .launchGuest) () (fun _ => iff_of_true trivial rfl) (by nofun)]
  simp only [vmlaunch, bind_assoc]
  rw [fits_ask_bind .vmlaunch _ (fun _ => Iff.rfl) (by nofun)]
  cases behaviour.vmlaunch with
  | succeed => exact iff_of_true ⟨nofun, nofun⟩ fun failed => absurd rfl failed
  | failInvalid => simp [VmxOutcome.operationStatus, Behaviour.environment]
  | failValid => simp [VmxOutcome.operationStatus, Behaviour.environment]

theorem ends_clearActiveVMCS_iff :
    Ends behaviour .clearActiveVMCS ↔
      behaviour.Settles 0 (Call.clearActiveVMCS.reads behaviour) := by
  apply ends_iff_of_report (reportsClear behaviour)
    (harmless_leave behaviour .clearActiveVMCS ()) rfl
  intro depth
  rw [Call.code, Model.clearActiveVMCS, Code.call, bind_assoc, enter,
    fits_ask_bind (.enter .clearActiveVMCS) () (fun _ => iff_of_true trivial rfl) (by nofun)]
  simp only [vmptrst, bind_assoc]
  rw [fits_ask_bind .vmptrst _ (fun _ => Iff.rfl) (by nofun)]
  dsimp only [reportsClear]
  generalize (if behaviour.vmptrst.1 = .succeed then behaviour.vmptrst.2 else 0) = stored
  by_cases absent : stored = -1
  · simp [absent, Behaviour.environment]
  · rw [if_neg absent, vmclear, bind_assoc,
      fits_ask_bind (.vmclear stored) _ (fun _ => Iff.rfl) (by nofun)]
    cases behaviour.vmclear stored with
    | succeed => exact iff_of_true ⟨nofun, fun _ _ => trivial⟩ fun reported =>
      (reported.elim absent nofun).elim
    | failInvalid => exact iff_of_true ⟨nofun, fun _ _ => trivial⟩ fun reported =>
      (reported.elim absent nofun).elim
    | failValid => simp [VmxOutcome.operationStatus, Behaviour.environment]

/-- **A call makes finitely many nested calls just when its reads settle**: at some point as many
of the reads it has led to have succeeded as have failed, and those it began with besides. -/
theorem ends_iff (behaviour : Behaviour) (call : Call) :
    Ends behaviour call ↔ behaviour.Settles 0 (call.reads behaviour) := by
  cases call with
  | readVMCSField64 encoding field => exact ends_readVMCSField64_iff encoding field
  | readVMCSFieldGeneric encoding field => exact ends_readVMCSFieldGeneric_iff encoding field
  | printVMXError => exact ends_printVMXError_iff
  | writeVMCSField64 encoding value => exact ends_writeVMCSField64_iff encoding value
  | launchGuest => exact ends_launchGuest_iff
  | clearActiveVMCS => exact ends_clearActiveVMCS_iff

end Calls

section NoCurrentVmcs

/-- A processor with no current VMCS: every access to a field fails. -/
def noCurrentVmcs : Behaviour where
  vmread _ _ := (.failInvalid, 0)
  vmwrite _ _ := .failInvalid
  vmlaunch := .failInvalid
  vmptrst := (.succeed, -1)
  vmclear _ := .succeed

/-- Where every read fails, what is pending only grows. -/
theorem pendingAfter_ne_nil (steps attempts : ℕ) (pending : List VmcsFieldEncoding)
    (some : pending ≠ []) : noCurrentVmcs.pendingAfter steps attempts pending ≠ [] := by
  induction steps generalizing attempts pending with
  | zero => exact some
  | succ steps ih =>
    cases pending with
    | nil => contradiction
    | cons field rest =>
      rw [Behaviour.pendingAfter, if_neg (by simp [noCurrentVmcs])]
      apply ih
      simp [Behaviour.printerReads]

/-- There a failed `VMLAUNCH` is reported without end. -/
theorem not_ends : ¬ ∀ behaviour call, Ends behaviour call := by
  intro ends
  have ended : Ends noCurrentVmcs .launchGuest := ends noCurrentVmcs .launchGuest
  obtain ⟨steps, settled⟩ := ends_launchGuest_iff.mp ended
  exact pendingAfter_ne_nil steps 0 _ (by decide) settled

end NoCurrentVmcs

end Guypervisor.Soundness.ErrorRecursion
