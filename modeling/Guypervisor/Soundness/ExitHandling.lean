import Guypervisor.Model.LaunchState
import Guypervisor.Proofs.Confinement

/-! # What the exit handler resumes

`vmexit_handler` does not look at the launch state, nor at bit 31 of the exit reason: it always
issues `VMRESUME`. That is right only at an exit that left the VMCS launched, and only if the
instruction succeeds, since nothing stands after it.
-/

namespace Guypervisor.Soundness.ExitHandling

open Effects Effects.Program Model Code Proofs

/-- The handler's surroundings at an exit: a `VMREAD` of the exit reason that succeeds gives its
word, and `VMRESUME` has the given outcome. -/
def handling (exit : VmExit) (resumed : VmxOutcome) : Environment interface LaunchState :=
  launchStates.restrict fun _ op response =>
    match op, response with
    | .vmread .kExitReason, (outcome, value) =>
      outcome = .succeed → value = exit.reason.setWidth 64
    | .vmresume, outcome => outcome = resumed
    | _, _ => True

/-- In every run the handler resumes a launched VMCS only, and does not get to its end. -/
def Handled (exit : VmExit) (depth : ℕ) (resumed : VmxOutcome) : Prop :=
  ∀ events rest state,
    Path (handling exit resumed) (vmexitHandler depth) exit.launchState events rest state →
      (rest.head? = some .vmresume → state = .launched) ∧ ∀ result, rest ≠ .done result

section Exits

/-- Reading fields is no entry, and changes no launch state. -/
theorem fieldRead_passes (env : Environment interface LaunchState)
    (follows : env.next = launchStates.next) {entry : Op} (other : ¬ IsFieldRead entry)
    (state : LaunchState) :
    Passes env (fun state op => op = entry → state = .launched) IsFieldRead state where
  issues op read entered := absurd (entered ▸ read) other
  steady op response read _ := by
    rw [follows]
    cases op with
    | vmread | overflow => rfl
    | _ => contradiction

/-- Where the handler resumes, the VMCS is launched. -/
theorem launched_of_enters {depth : ℕ} {start state : LaunchState}
    (enters : Enters (vmexitHandler depth) start state) : state = .launched := by
  have ensured : (vmexitHandler depth).Ensures launchStates
      (fun state op => op = .guest → state = .launched) start fun _ _ => True := by
    apply (confined_readVMCSFieldGeneric depth _ _).ensures_bind
      (fieldRead_passes launchStates rfl id start)
    intro _ _
    apply ensures_ask_bind nofun
    intro outcome succeeds
    cases outcome with
    | succeed => exact ⟨fun _ => succeeds rfl, nofun⟩
    | failInvalid | failValid => trivial
  obtain ⟨rest, ⟨events, path⟩, issued⟩ := enters
  exact ensured.legal_of_path path issued rfl

/-- The only exits with a clear VMCS are those of a `VMLAUNCH` that failed. -/
theorem vmEntryFailure_of_clear (exit : VmExit) (clear : exit.launchState = .clear) :
    exit.reason.vmEntryFailure = 1 := by
  obtain ⟨reason, state, happens⟩ := exit
  cases happens with
  | launchFailed _ failed => exact failed
  | launched => contradiction
  | resumed _ enters =>
    exact absurd ((launched_of_enters enters).symm.trans clear) nofun

end Exits

section Handler

variable (exit : VmExit) (depth : ℕ) (resumed : VmxOutcome)

/-- The handler gets to its `VMRESUME`, whatever the launch state. -/
theorem reaches_vmresume :
    Reaches (handling exit resumed) (vmexitHandler depth) exit.launchState
      (do let _ ← vmresume) exit.launchState := by
  apply Reaches.step (VmxOutcome.succeed, exit.reason.setWidth 64)
  · exact ⟨trivial, fun _ => rfl⟩
  · exact .refl _ _

/-- If the instruction fails, it gets to its end. -/
theorem reaches_end (failed : resumed ≠ .succeed) :
    Reaches (handling exit resumed) (vmexitHandler depth) exit.launchState
      (.done ()) exit.launchState := by
  apply (reaches_vmresume exit depth resumed).trans
  apply Reaches.step resumed
  · exact ⟨fun succeeded => absurd succeeded failed, rfl⟩
  · change Reaches _ ((if resumed = .succeed then guest else pure resumed) >>= fun _ => pure ()) _ _ _
    rw [if_neg failed]
    exact .refl _ _

/-- From a launched VMCS with a `VMRESUME` that succeeds, control stays in the guest. -/
theorem ensures_vmexitHandler (launched : exit.launchState = .launched) :
    (vmexitHandler depth).Ensures (handling exit .succeed)
      (fun state op => op = .vmresume → state = .launched) exit.launchState fun _ _ => False := by
  apply (confined_readVMCSFieldGeneric depth _ _).ensures_bind
    (fieldRead_passes (handling exit .succeed) rfl id exit.launchState)
  intro _ _
  apply ensures_ask_bind fun _ => launched
  rintro outcome ⟨_, succeeded⟩
  obtain rfl : outcome = .succeed := succeeded
  exact ⟨nofun, nofun⟩

/-- **The handler does what it should exactly at an exit that left the VMCS launched, when its
`VMRESUME` succeeds.** -/
theorem handled_iff :
    Handled exit depth resumed ↔ exit.launchState = .launched ∧ resumed = .succeed := by
  constructor
  · intro handled
    constructor
    · obtain ⟨_, path⟩ := reaches_vmresume exit depth resumed
      exact (handled _ _ _ path).1 rfl
    · by_contra failed
      obtain ⟨_, path⟩ := reaches_end exit depth resumed failed
      exact (handled _ _ _ path).2 () rfl
  · rintro ⟨launched, rfl⟩ events rest state path
    have ensured := ensures_vmexitHandler exit depth launched
    constructor
    · intro issued
      exact ensured.legal_of_path path issued rfl
    · rintro result rfl
      exact ensured.post_of_path path

end Handler

section LateFailure

/-- A machine on which every instruction succeeds that can. -/
def launchAnswer (state : LaunchState) : (op : Op) → Option op.Response
  | .vmlaunch => if state = .clear then some VmxOutcome.succeed else none
  | .vmresume => none
  | op => op.plainAnswer

private theorem launchAnswer_allowed (state : LaunchState) (op : Op) (response : op.Response)
    (answered : launchAnswer state op = some response) :
    launchStates.allows state op response := by
  cases op with
  | vmlaunch =>
    intro _
    by_contra launched
    rw [launchAnswer, if_neg launched] at answered
    contradiction
  | vmresume => contradiction
  | _ => trivial

/-- A request to enter VMX on that machine, up to the entry. -/
def launching : List (Event interface) × Code NTSTATUS × LaunchState :=
  drive launchStates launchAnswer 400 (enterVmxHandler 2) .clear

theorem enters_launching : Enters (enterVmxHandler 2) .clear .clear := by
  have path : Path launchStates (enterVmxHandler 2) .clear launching.1 launching.2.1 launching.2.2 :=
    drive_path launchStates launchAnswer launchAnswer_allowed 400 (enterVmxHandler 2) .clear
  have entered : launching.2.1.head? = some .guest := by decide +kernel
  have clear : launching.2.2 = .clear := by decide +kernel
  rw [clear] at path
  exact ⟨launching.2.1, ⟨launching.1, path⟩, entered⟩

/-- A `VMLAUNCH` that failed with invalid guest state, which is reason 33. -/
def invalidGuestState : VmExit where
  reason := 0x80000021
  launchState := .clear
  happens := .launchFailed enters_launching (by decide)

/-- At that exit the handler resumes a VMCS that is not launched. -/
theorem not_handled : ¬ ∀ exit depth resumed, Handled exit depth resumed := by
  intro handled
  obtain ⟨_, path⟩ := reaches_vmresume invalidGuestState 0 .failValid
  have launched : invalidGuestState.launchState = .launched :=
    (handled invalidGuestState 0 .failValid _ _ _ path).1 rfl
  contradiction

end LateFailure

end Guypervisor.Soundness.ExitHandling
