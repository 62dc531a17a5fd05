import Guypervisor.Model.Virtualization
import Guypervisor.Proofs.Rules

/-! # `IA32_FEATURE_CONTROL` over successive entries

The state is the register's value. A `WRMSR` to it while its lock bit is set raises `#GP` and is
never answered; otherwise it stores the operand. `EnterVmxonMode` reads the register, sets the
lock bit and writes the result back without looking at the bit it read, so the first entry works
from an unlocked register only, and a second one never does.
-/

namespace Guypervisor.Soundness.FeatureControl

open Effects Effects.Program Model Code Proofs

/-- The register between instructions; everything else is arbitrary. -/
def register : Environment interface FeatureControlMsr where
  allows value op response :=
    match op, response with
    | .readMsr .kIa32FeatureControl, read => read = value
    | .writeMsr .kIa32FeatureControl _, _ => value.lock = false
    | _, _ => True
  next value op _ :=
    match op with
    | .writeMsr .kIa32FeatureControl written => written
    | _ => value

/-- Successive calls of `EnterVmxonMode` on one processor. -/
def entries : ℕ → Code Unit
  | 0 => pure ()
  | count + 1 => do
    let _ ← enterVmxonMode
    entries count

/-- A `WRMSR` to the register is issued only while the lock bit is clear. -/
def Writable (value : FeatureControlMsr) : Op → Prop
  | .writeMsr .kIa32FeatureControl _ => value.lock = false
  | _ => True

/-- No run of `count` entries from `value` faults on the register. -/
def NeverFaults (count : ℕ) (value : FeatureControlMsr) : Prop :=
  ∀ events rest state op, Path register (entries count) value events rest state →
    rest.head? = some op → Writable state op

/-- What an entry leaves in the register. -/
def enabled (value : FeatureControlMsr) : FeatureControlMsr :=
  value.setLock.setEnableSmx.setEnableVmxon

theorem lock_enabled (value : FeatureControlMsr) : (enabled value).lock = true := by
  simp [enabled]

/-- Every entry gets as far as the `WRMSR`, with the register as it found it. -/
theorem reaches_writeMsr (value : FeatureControlMsr) : ∃ resume,
    Reaches register enterVmxonMode value
      (.issue (.writeMsr .kIa32FeatureControl (enabled value)) resume) value := by
  apply Exists.intro
  iterate 12 refine .step default trivial ?_
  exact .step value rfl (.refl _ _)

/-- From an unlocked register the first entry runs to its end and leaves the register locked. -/
theorem reaches_done (value : FeatureControlMsr) (unlocked : value.lock = false) :
    Reaches register enterVmxonMode value (.done statusSuccess) (enabled value) := by
  iterate 12 refine .step default trivial ?_
  refine .step value rfl ?_
  refine .step () unlocked ?_
  iterate 8 refine .step default trivial ?_
  exact .refl _ _

/-- An entry from an unlocked register issues its `WRMSR` while it may. -/
theorem ensures_enterVmxonMode (value : FeatureControlMsr) (unlocked : value.lock = false) :
    enterVmxonMode.Ensures register Writable value fun _ _ => True := by
  refine ensures_call trivial ?_
  iterate 11 refine ensures_steady_bind trivial (fun _ => rfl) fun _ => ?_
  refine ensures_steady_bind trivial (fun _ => rfl) fun _ => ?_
  refine ensures_ask_bind unlocked fun _ _ => ?_
  iterate 6 refine ensures_steady_bind trivial (fun _ => rfl) fun _ => ?_
  refine ensures_steady_bind trivial (fun _ => rfl) fun outcome => ?_
  cases outcome <;> exact ⟨trivial, trivial⟩

/-- A run that reaches the `WRMSR` on a locked register faults. -/
private theorem faults_of_reaches {count : ℕ} {value state : FeatureControlMsr}
    {resume : Unit → Code Unit} (locked : state.lock = true)
    (reaches : Reaches register (entries count) value
      (.issue (.writeMsr .kIa32FeatureControl (enabled state)) resume) state) :
    ¬ NeverFaults count value := by
  intro never
  obtain ⟨events, path⟩ := reaches
  have unlocked : state.lock = false := never events _ state _ path rfl
  rw [locked] at unlocked
  contradiction

/-- The first entry faults on a register that firmware locked. -/
theorem faults_of_locked (count : ℕ) {value : FeatureControlMsr} (locked : value.lock = true) :
    ¬ NeverFaults (count + 1) value := by
  obtain ⟨resume, reaches⟩ := reaches_writeMsr value
  exact faults_of_reaches locked (reaches.bind fun _ => entries count)

/-- The second entry faults on the register that the first one locked. -/
theorem faults_of_second (count : ℕ) {value : FeatureControlMsr} (unlocked : value.lock = false) :
    ¬ NeverFaults (count + 2) value := by
  obtain ⟨resume, reaches⟩ := reaches_writeMsr (enabled value)
  have second := reaches.bind fun _ => entries count
  exact faults_of_reaches (lock_enabled value) ((reaches_done value unlocked).andThen second)

/-- Exactly when entering never faults: no entry at all, or a single one from an unlocked
register. -/
theorem neverFaults_iff (count : ℕ) (value : FeatureControlMsr) :
    NeverFaults count value ↔ count = 0 ∨ (count = 1 ∧ value.lock = false) := by
  constructor
  · intro never
    rcases count with _ | _ | count
    · exact .inl rfl
    · cases locked : value.lock with
      | false => exact .inr ⟨rfl, rfl⟩
      | true => exact absurd never (faults_of_locked 0 locked)
    · cases locked : value.lock with
      | false => exact absurd never (faults_of_second count locked)
      | true => exact absurd never (faults_of_locked (count + 1) locked)
  · rintro once events rest state op path issued
    have ensured : (entries count).Ensures register Writable value fun _ _ => True := by
      rcases once with rfl | ⟨rfl, unlocked⟩
      · trivial
      · exact (ensures_enterVmxonMode value unlocked).bind fun _ _ _ => trivial
    exact ensured.legal_of_path path issued

/-- Two entries from the reset value of the register: the second one faults. -/
theorem not_neverFaults : ¬ ∀ count value, NeverFaults count value := by
  intro never
  have unlocked : FeatureControlMsr.lock 0 = false := rfl
  exact faults_of_second 0 unlocked (never 2 0)

end Guypervisor.Soundness.FeatureControl
