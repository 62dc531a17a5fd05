import Guypervisor.Model.Guest
import Guypervisor.Soundness.Population

/-! # Guest execution under exits

The handler only reads the VMCS before it resumes the guest, so the guest goes on where the exit
stopped it. An event between two instructions is invisible to it, but after an exit caused by
`CPUID` the guest is resumed at that `CPUID` and attempts it again without end. The rounds refine
native execution exactly where no exit was caused by `CPUID`; the addresses reached alone still are
a prefix of the native ones after one such exit, and no longer after a second.
-/

namespace Guypervisor.Soundness.GuestExecution

open Effects Effects.Program Model Code Proofs Population

/-- What the handler does on the way to the guest. -/
def IsExitWork : Op → Prop
  | .vmread _ | .overflow | .vmresume | .guest => True
  | _ => False

theorem confined_vmexitHandler (depth : ℕ) :
    (vmexitHandler depth).Confined IsExitWork fun _ => True := by
  refine ((confined_readVMCSFieldGeneric depth _ _).mono ?_ (fun _ => id)).bind fun _ _ => ?_
  · intro op read
    cases op <;> trivial
  · refine confined_ask_bind trivial fun outcome => ?_
    cases outcome with
    | succeed => exact ⟨trivial, fun response => response.elim⟩
    | failInvalid => trivial
    | failValid => trivial

/-- The handler resumes the guest with the VMCS as it found it. -/
theorem unchanged_of_reaches {depth : ℕ} {exited after : Vmcs} {resume : Empty → Code Unit}
    (reaches : Reaches activeVmcs (vmexitHandler depth) exited (.issue .guest resume) after) :
    after = exited := by
  obtain ⟨events, path⟩ := reaches
  have passes : Passes activeVmcs (fun vmcs _ => vmcs = exited) IsExitWork exited := by
    refine ⟨fun _ _ => rfl, fun op _ work _ => ?_⟩
    cases op <;> first | rfl | exact work.elim
  exact ((confined_vmexitHandler depth).ensures passes).legal_of_path path rfl

/-- The handler can get the guest resumed. -/
theorem reaches_guest (depth : ℕ) (vmcs : Vmcs) : ∃ resume,
    Reaches activeVmcs (vmexitHandler depth) vmcs (.issue .guest resume) vmcs := by
  apply Exists.intro
  refine .step (VmxOutcome.succeed, vmcs.read .kExitReason) (fun _ => rfl) ?_
  exact .step VmxOutcome.succeed trivial (.refl _ _)

section Native

variable (base : Address)

theorem fetch_cli : fetch guestCode (base - base) = some .cli := by
  rw [BitVec.sub_self]
  decide

theorem fetch_xorRaxRax : fetch guestCode (base + 1 - base) = some .xorRaxRax := by
  rw [BitVec.add_comm, BitVec.add_sub_cancel]
  decide

theorem fetch_cpuid : fetch guestCode (base + 4 - base) = some .cpuid := by
  rw [BitVec.add_comm, BitVec.add_sub_cancel]
  decide

theorem fetch_jmpLoopPls : fetch guestCode (base + 6 - base) = some .jmpLoopPls := by
  rw [BitVec.add_comm, BitVec.add_sub_cancel]
  decide

theorem nativeAddress_one : nativeAddress base 1 = base + 1 := by
  rw [nativeAddress, nativeAddress, fetch_cli]
  rfl

theorem nativeAddress_two : nativeAddress base 2 = base + 4 := by
  rw [nativeAddress, nativeAddress_one, fetch_xorRaxRax]
  exact BitVec.add_assoc base 1 3

/-- Natively `CPUID` is passed: the next address is that of `JMP`. -/
theorem nativeAddress_three : nativeAddress base 3 = base + 6 := by
  rw [nativeAddress, nativeAddress_two, fetch_cpuid]
  exact BitVec.add_assoc base 4 2

/-- From `CPUID` on the guest alternates between `CPUID` and `JMP`. -/
theorem nativeAddress_loop (count : ℕ) :
    nativeAddress base (2 * count + 2) = base + 4 ∧
      nativeAddress base (2 * count + 3) = base + 6 := by
  induction count with
  | zero => exact ⟨nativeAddress_two base, nativeAddress_three base⟩
  | succ count ih =>
    have cpuid : nativeAddress base (2 * count + 4) = base + 4 := by
      rw [nativeAddress, ih.2, fetch_jmpLoopPls]
      rfl
    refine ⟨cpuid, ?_⟩
    change nativeAddress base (2 * count + 5) = base + 6
    rw [nativeAddress, cpuid, fetch_cpuid]
    exact BitVec.add_assoc base 4 2

end Native

/-- The addresses up to the first `CPUID`. -/
def approach (base : Address) : List Address := [base, base + 1, base + 4]

/-- A list of addresses is a prefix of the native sequence. -/
def IsNativePrefix (base : Address) (reached : List Address) : Prop :=
  reached = (List.range reached.length).map (nativeAddress base)

theorem approach_eq (base : Address) : approach base = (List.range 3).map (nativeAddress base) := by
  change approach base = [nativeAddress base 0, nativeAddress base 1, nativeAddress base 2]
  rw [nativeAddress_one, nativeAddress_two]
  rfl

theorem fetch_nativeAddress (base : Address) {count : ℕ} (early : count ≤ 2) :
    fetch guestCode (nativeAddress base count - base) = guestCode[count]? := by
  obtain rfl | rfl | rfl : count = 0 ∨ count = 1 ∨ count = 2 := by omega
  · exact fetch_cli base
  · rw [nativeAddress_one]
    exact fetch_xorRaxRax base
  · rw [nativeAddress_two]
    exact fetch_cpuid base

/-- Reaching one more address of the approach. -/
theorem take_approach (base : Address) {count : ℕ} (early : count ≤ 2) :
    (approach base).take count ++ [nativeAddress base count] = (approach base).take (count + 1) := by
  have there : (approach base)[count]? = some (nativeAddress base count) := by
    rw [approach_eq, List.getElem?_map, List.getElem?_range (by omega)]
    rfl
  rw [List.take_add_one, there, Option.toList_some]

/-- A stretch that begins on the way to the first `CPUID` either stops on the way, or gets there
and exits. -/
theorem reached_of_approach {base rip saved : Address} {reached : List Address} {exit : GuestExit}
    (runs : GuestRuns base rip reached exit saved) {count : ℕ} (early : count ≤ 2)
    (here : rip = nativeAddress base count) :
    (∃ later ≤ 2, exit ≠ .cpuid ∧
      (approach base).take count ++ reached = (approach base).take later ∧
      saved = nativeAddress base later) ∨
    (exit = .cpuid ∧ (approach base).take count ++ reached = approach base ∧
      saved = nativeAddress base 2) := by
  induction runs generalizing count with
  | event rip reason =>
    left
    exact ⟨count, early, by simp, by simp, here⟩
  | cpuid fetched =>
    right
    subst here
    rw [fetch_nativeAddress base early] at fetched
    have last : ∀ count ≤ 2, guestCode[count]? = some .cpuid → count = 2 := by decide
    obtain rfl := last count early fetched
    exact ⟨rfl, take_approach base early, rfl⟩
  | @step _ _ instruction _ _ fetched passed runs ih =>
    subst here
    have arrived : instruction.next base (nativeAddress base count) =
        nativeAddress base (count + 1) := by
      rw [nativeAddress, fetched]
    rw [fetch_nativeAddress base early] at fetched
    have before : count + 1 ≤ 2 := by
      by_contra atCpuid
      obtain rfl : count = 2 := by omega
      exact passed (Option.some.inj fetched).symm
    rcases ih before arrived with ⟨later, bound, other, reached, stopped⟩ | ⟨cpuid, reached, stopped⟩
    · left
      refine ⟨later, bound, other, ?_, stopped⟩
      rw [← List.singleton_append, ← List.append_assoc, take_approach base early]
      exact reached
    · right
      refine ⟨cpuid, ?_, stopped⟩
      rw [← List.singleton_append, ← List.append_assoc, take_approach base early]
      exact reached

/-- A stretch that begins at `CPUID` attempts it, or is stopped before it does. -/
theorem reached_of_cpuid {base saved : Address} {reached : List Address} {exit : GuestExit}
    (runs : GuestRuns base (base + 4) reached exit saved) :
    saved = base + 4 ∧ ((exit ≠ .cpuid ∧ reached = []) ∨ (exit = .cpuid ∧ reached = [base + 4])) := by
  cases runs with
  | event => exact ⟨rfl, .inl ⟨by simp, rfl⟩⟩
  | cpuid => exact ⟨rfl, .inr ⟨rfl, rfl⟩⟩
  | step fetched passed _ =>
    rw [fetch_cpuid] at fetched
    exact absurd (Option.some.inj fetched).symm passed

/-- Where the guest stands after some rounds, by the number of exits that `CPUID` caused. -/
def Progress (base : Address) (reached : List Address) (rip : Address) : ℕ → Prop
  | 0 => ∃ count ≤ 2, reached = (approach base).take count ∧ rip = nativeAddress base count
  | attempts + 1 =>
    reached = approach base ++ List.replicate attempts (base + 4) ∧ rip = base + 4

/-- The handler resumes the guest where the exit stopped it. -/
theorem resumed_of_round {base : Address} {depth : ℕ} {further : List Address} {stop : Stop}
    {before after : Vmcs} (round : Round base depth before further stop after) :
    stop.resumed = stop.saved := by
  obtain ⟨exited, resume, -, saves, reaches, continues⟩ := round
  rw [continues, unchanged_of_reaches reaches, saves.guestRip]

/-- What one round does to the progress. -/
theorem Progress.round {base : Address} {depth attempts : ℕ} {reached further : List Address}
    {stop : Stop} {before after : Vmcs}
    (progress : Progress base reached (before.read .kGuestRip) attempts)
    (round : Round base depth before further stop after) :
    Progress base (reached ++ further) (after.read .kGuestRip)
      (attempts + if stop.exit = .cpuid then 1 else 0) := by
  have stays := resumed_of_round round
  obtain ⟨exited, resume, runs, -, -, continues⟩ := round
  rw [← continues, stays]
  cases attempts with
  | zero =>
    obtain ⟨count, early, rfl, here⟩ := progress
    rcases reached_of_approach runs early here with
      ⟨later, bound, other, reached, stopped⟩ | ⟨cpuid, reached, stopped⟩
    · rw [if_neg other]
      exact ⟨later, bound, reached, stopped⟩
    · rw [if_pos cpuid]
      refine ⟨?_, by rw [stopped, nativeAddress_two]⟩
      simpa using reached
  | succ attempts =>
    obtain ⟨rfl, here⟩ := progress
    rw [here] at runs
    obtain ⟨stopped, ⟨other, rfl⟩ | ⟨cpuid, rfl⟩⟩ := reached_of_cpuid runs
    · rw [if_neg other]
      exact ⟨by simp, stopped⟩
    · rw [if_pos cpuid]
      refine ⟨?_, stopped⟩
      rw [List.append_assoc, ← List.replicate_succ']

/-- How many exits of a run `CPUID` caused. -/
def cpuidExits (stops : List Stop) : ℕ := stops.countP (·.exit = .cpuid)

/-- The progress after any number of rounds. -/
theorem progress_of_rounds {depth : ℕ} {launched after : Vmcs} {reached : List Address}
    {stops : List Stop}
    (rounds : Rounds (launched.read .kGuestRip) depth launched reached stops after) :
    Progress (launched.read .kGuestRip) reached (after.read .kGuestRip) (cpuidExits stops) := by
  generalize based : launched.read .kGuestRip = base at rounds ⊢
  induction rounds with
  | none => exact ⟨0, by omega, rfl, based⟩
  | more rounds round ih =>
    have further := ih.round round
    simpa [cpuidExits, List.countP_singleton] using further

/-- In every round of a run the guest is resumed where it was stopped. -/
theorem resumed_of_rounds {base : Address} {depth : ℕ} {launched after : Vmcs}
    {reached : List Address} {stops : List Stop}
    (rounds : Rounds base depth launched reached stops after) :
    ∀ stop ∈ stops, stop.resumed = stop.saved := by
  induction rounds with
  | none => simp
  | more rounds round ih =>
    rw [List.forall_mem_append, List.forall_mem_singleton]
    exact ⟨ih, resumed_of_round round⟩

theorem isNativePrefix_take (base : Address) (count : ℕ) :
    IsNativePrefix base ((approach base).take count) := by
  rw [IsNativePrefix, approach_eq, ← List.map_take, List.take_range, List.length_map,
    List.length_range]

/-- A second attempt of `CPUID` is no native step. -/
theorem not_isNativePrefix_again (base : Address) (rest : List Address) :
    ¬ IsNativePrefix base (approach base ++ (base + 4) :: rest) := by
  intro native
  have fourth : some (base + 4) = some (nativeAddress base 3) := by
    calc some (base + 4) = (approach base ++ (base + 4) :: rest)[3]? := rfl
      _ = some (nativeAddress base 3) := by
        rw [native, List.getElem?_map, List.getElem?_range (by simp [approach])]
        rfl
  rw [nativeAddress_three] at fourth
  have same : (4 : Address) = 6 := (BitVec.add_right_inj base).mp (Option.some.inj fourth)
  contradiction

/-- The progress is native exactly up to the first attempt of `CPUID`. -/
theorem Progress.isNativePrefix_iff {base rip : Address} {reached : List Address} {attempts : ℕ}
    (progress : Progress base reached rip attempts) :
    IsNativePrefix base reached ↔ attempts ≤ 1 := by
  match attempts, progress with
  | 0, ⟨count, _, here, _⟩ =>
    rw [here]
    simp [isNativePrefix_take base count]
  | 1, ⟨here, _⟩ =>
    have whole : reached = (approach base).take 3 := by simpa [approach] using here
    rw [whole]
    simp [isNativePrefix_take base 3]
  | attempts + 2, ⟨here, _⟩ =>
    rw [here, List.replicate_succ]
    exact iff_of_false (not_isNativePrefix_again base _) (by omega)

/-- The guest reaches a prefix of its native sequence exactly when at most one exit was caused by
`CPUID`. -/
theorem isNativePrefix_iff_of_rounds {depth : ℕ} {launched after : Vmcs} {reached : List Address}
    {stops : List Stop}
    (rounds : Rounds (launched.read .kGuestRip) depth launched reached stops after) :
    IsNativePrefix (launched.read .kGuestRip) reached ↔ cpuidExits stops ≤ 1 :=
  (progress_of_rounds rounds).isNativePrefix_iff

/-- The rounds refine native execution: the guest reaches a prefix of what it reaches natively, and
after each exit caused by `CPUID` it is resumed at the instruction after the `CPUID`. -/
structure RefinesNative (base : Address) (reached : List Address) (stops : List Stop) : Prop where
  reached : IsNativePrefix base reached
  resumed : ∀ stop ∈ stops, stop.exit = .cpuid →
    stop.resumed = stop.saved + GuestInstruction.cpuid.length

/-- They do exactly when no exit was caused by `CPUID`. -/
theorem refinesNative_iff_of_rounds {depth : ℕ} {launched after : Vmcs} {reached : List Address}
    {stops : List Stop}
    (rounds : Rounds (launched.read .kGuestRip) depth launched reached stops after) :
    RefinesNative (launched.read .kGuestRip) reached stops ↔
      ∀ stop ∈ stops, stop.exit ≠ .cpuid := by
  constructor
  · rintro ⟨-, resumed⟩ stop member cpuid
    -- resumed at the `CPUID`, which is not the instruction after it
    have after := resumed stop member cpuid
    rw [resumed_of_rounds rounds stop member] at after
    exact absurd (BitVec.self_eq_add_right.mp after) (by decide)
  · intro none
    have exits : cpuidExits stops = 0 := by simpa [cpuidExits, List.countP_eq_zero] using none
    refine ⟨(isNativePrefix_iff_of_rounds rounds).mpr (by omega), ?_⟩
    intro stop member cpuid
    exact absurd cpuid (none stop member)

/-- `PopulateActiveVMCS` puts the guest at `guest_code`. -/
theorem guestRip_of_path {cpu : ProcessorState} {depth : ℕ} {start final : Vmcs}
    {events : List (Event interface)} {status : NTSTATUS}
    (path : Path cpu.populating (populateActiveVMCS depth) start events (.done status) final) :
    final.read .kGuestRip = cpu.symbols .guestCode := by
  have written : put .kGuestRip (cpu.symbols .guestCode) ∈ populateWrites cpu := by
    simp [populateWrites, contextsWrites]
  rw [read_of_path path written, Vmcs.kept_of_natural (by decide)]

/-- A VMCS with the guest at `0x1000`. -/
def launchedVmcs : Vmcs := Vmcs.write (fun _ => 0) .kGuestRip 0x1000

/-- The VMCS after `CPUID` exited at `0x1004`. -/
def exitedVmcs : Vmcs :=
  ((launchedVmcs.write .kGuestRip 0x1004).write .kExitReason 10).write .kVmExitInstructionLength 2

/-- The VMCS after an event stopped the guest at `0x1001`. -/
def interruptedVmcs : Vmcs := (launchedVmcs.write .kGuestRip 0x1001).write .kExitReason 1

theorem read_launchedVmcs : launchedVmcs.read .kGuestRip = 0x1000 := by decide

/-- An event after the first instruction, which the guest does not notice. -/
private theorem round_event (depth : ℕ) :
    Round 0x1000 depth launchedVmcs [0x1000] ⟨.event 1, 0x1001, 0x1001⟩ interruptedVmcs := by
  obtain ⟨resume, reaches⟩ := reaches_guest depth interruptedVmcs
  refine ⟨interruptedVmcs, resume, ?_, ⟨by decide, by decide, by simp⟩, reaches, by decide⟩
  rw [read_launchedVmcs]
  exact .step (fetch_cli 0x1000) (by decide) (.event 0x1001 1)

/-- From there to the `CPUID`, at which the guest is resumed. -/
private theorem round_cpuid (depth : ℕ) :
    Round 0x1000 depth interruptedVmcs [0x1001, 0x1004] ⟨.cpuid, 0x1004, 0x1004⟩ exitedVmcs := by
  have interrupted : interruptedVmcs.read .kGuestRip = 0x1001 := by decide
  obtain ⟨resume, reaches⟩ := reaches_guest depth exitedVmcs
  refine ⟨exitedVmcs, resume, ?_, ⟨by decide, by decide, fun _ => by decide⟩, reaches, by decide⟩
  rw [interrupted]
  exact .step (fetch_xorRaxRax 0x1000) (by decide) (.cpuid (by decide))

private theorem rounds_event (depth : ℕ) :
    Rounds (launchedVmcs.read .kGuestRip) depth launchedVmcs [0x1000]
      [⟨.event 1, 0x1001, 0x1001⟩] interruptedVmcs := by
  rw [read_launchedVmcs]
  exact .more .none (round_event depth)

private theorem rounds_cpuid (depth : ℕ) :
    Rounds (launchedVmcs.read .kGuestRip) depth launchedVmcs [0x1000, 0x1001, 0x1004]
      [⟨.event 1, 0x1001, 0x1001⟩, ⟨.cpuid, 0x1004, 0x1004⟩] exitedVmcs := by
  rw [read_launchedVmcs]
  exact .more (.more .none (round_event depth)) (round_cpuid depth)

/-- An event alone, and an event with a `CPUID` after it. -/
theorem refinesNative_iff_event_cpuid :
    (RefinesNative (launchedVmcs.read .kGuestRip) [0x1000] [⟨.event 1, 0x1001, 0x1001⟩] ↔
      ∀ stop ∈ [⟨.event 1, 0x1001, 0x1001⟩], Stop.exit stop ≠ .cpuid) ∧
    (RefinesNative (launchedVmcs.read .kGuestRip) [0x1000, 0x1001, 0x1004]
        [⟨.event 1, 0x1001, 0x1001⟩, ⟨.cpuid, 0x1004, 0x1004⟩] ↔
      ∀ stop ∈ [⟨.event 1, 0x1001, 0x1001⟩, ⟨.cpuid, 0x1004, 0x1004⟩], Stop.exit stop ≠ .cpuid) :=
  ⟨refinesNative_iff_of_rounds (rounds_event 0), refinesNative_iff_of_rounds (rounds_cpuid 0)⟩

/-- After the first exit caused by `CPUID` the guest is resumed at the `CPUID` itself. -/
theorem not_refinesNative : ¬ ∀ (depth : ℕ) (launched after : Vmcs) (reached : List Address)
    (stops : List Stop),
    Rounds (launched.read .kGuestRip) depth launched reached stops after →
      RefinesNative (launched.read .kGuestRip) reached stops := by
  intro refines
  obtain ⟨-, resumed⟩ := refines 0 launchedVmcs exitedVmcs _ _ (rounds_cpuid 0)
  have after := resumed ⟨.cpuid, 0x1004, 0x1004⟩ (by simp) rfl
  exact absurd after (by decide)

end Guypervisor.Soundness.GuestExecution
