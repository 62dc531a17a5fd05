import Guypervisor.Effects.Interleaving
import Guypervisor.Model.LogicalProcessor
import Guypervisor.Proofs.Stages

/-! # Ownership of the VMXON and VMCS regions

Logical processors handle requests to enter VMX at the same time, on the one context they share.
Nothing keeps a processor from entering VMX operation while another is in it, and then both use
the same regions. If none does, and the `VMCLEAR` of the current VMCS does not fail, then a VMCS
is active on a processor only while that processor is in VMX operation, and ownership is exclusive
in every interleaving.
-/

namespace Guypervisor.Soundness.RegionOwnership

open Effects Effects.Program Model Code Proofs

section Definitions

variable {ι : Type} (states : ι → LogicalProcessor)

/-- No two processors are in VMX operation on one VMXON region, and no VMCS region is active on
two of them. -/
def Exclusive : Prop :=
  ∀ i j, i ≠ j →
    (∀ region, (states i).vmx.region? = some region → (states j).vmx.region? ≠ some region) ∧
      ∀ region ∈ (states i).active, region ∉ (states j).active

/-- A `VMXON` succeeds only while the other processors are outside VMX operation. -/
def EntersAlone : Guard interface ι LogicalProcessor := fun i states op response =>
  match op, response with
  | .vmxon _, .succeed => ∀ j, j ≠ i → (states j).vmx = .off
  | _, _ => True

/-- At most one processor is in VMX operation. -/
def OneInOperation : Prop :=
  ∀ i j, i ≠ j → (states i).vmx = .off ∨ (states j).vmx = .off

end Definitions

/-- The `VMCLEAR` of the current VMCS succeeds. -/
def ClearsCurrent (processor : LogicalProcessor) (op : Op) (response : op.Response) : Prop :=
  match op, response with
  | .vmclear region, outcome => processor.vmx.current? = some region → outcome = .succeed
  | _, _ => True

/-- The regions active on a processor are its current VMCS. -/
def ActiveIsCurrent (processor : LogicalProcessor) : Prop :=
  processor.active = processor.vmx.current?.toList

/-- In VMX operation with no VMCS, or with a page-aligned one that is current and active. -/
def Inside (processor : LogicalProcessor) : Prop :=
  ∃ region, processor = ⟨.root region none, []⟩ ∨
    ∃ current, current &&& 0xFFF = 0 ∧ processor = ⟨.root region (some current), [current]⟩

theorem Inside.activeIsCurrent {processor : LogicalProcessor} (inside : Inside processor) :
    ActiveIsCurrent processor := by
  obtain ⟨region, rfl | ⟨current, _, rfl⟩⟩ := inside <;> rfl

theorem activeIsCurrent_idle : ActiveIsCurrent .idle := rfl

section Request

variable (shared : SharedContext)

private abbrev clearing := (LogicalProcessor.environment shared).restrict ClearsCurrent

private abbrev Kept (processor : LogicalProcessor) (_ : Op) : Prop := ActiveIsCurrent processor

variable {shared}

/-- What prepares an instruction changes neither the VMX state nor the active regions. -/
theorem preparation_passes {state : LogicalProcessor} (kept : ActiveIsCurrent state) :
    Passes (clearing shared) Kept IsPreparation state where
  issues _ _ := kept
  steady op _ step _ := by
    cases op <;> first | rfl | exact step.elim

/-- Nor does field work. -/
theorem fieldWork_passes {state : LogicalProcessor} (kept : ActiveIsCurrent state) :
    Passes (clearing shared) Kept IsFieldWork state where
  issues _ _ := kept
  steady op _ work _ := by
    cases op <;> first | rfl | exact work.elim

/-- A processor enters VMX operation with no VMCS active, or not at all. -/
theorem clearing_enterVmxonMode :
    enterVmxonMode.Ensures (clearing shared) Kept .idle fun _ final =>
      final = .idle ∨ ∃ region, final = ⟨.root region none, []⟩ := by
  apply ensures_enterVmxonMode (preparation_passes activeIsCurrent_idle)
  refine fun region => ⟨rfl, fun outcome _ => ?_⟩
  cases outcome with
  | succeed => exact ⟨preparation_passes rfl, .inr ⟨region, rfl⟩⟩
  | failInvalid => exact ⟨preparation_passes rfl, .inl rfl⟩
  | failValid => exact ⟨preparation_passes rfl, .inl rfl⟩

/-- The stage after `VMXON` loads one VMCS, loads none, or never gets past its `VMCLEAR`. -/
theorem clearing_initializeVMCS {state : LogicalProcessor}
    (entered : state = .idle ∨ ∃ region, state = ⟨.root region none, []⟩) :
    initializeVMCS.Ensures (clearing shared) Kept state fun _ final => Inside final := by
  have kept : ActiveIsCurrent state := by
    rcases entered with rfl | ⟨region, rfl⟩ <;> rfl
  apply ensures_initializeVMCS (preparation_passes kept)
  refine fun current => ⟨kept, fun cleared allowed => ?_⟩
  rcases entered with rfl | ⟨region, rfl⟩
  · exact absurd rfl allowed.1
  · have unloaded : Inside ⟨.root region none, []⟩ := ⟨region, .inl rfl⟩
    cases cleared with
    | succeed =>
      refine ⟨rfl, fun loaded allowed => ?_⟩
      cases loaded with
      | succeed =>
        have aligned : current &&& 0xFFF = 0 := allowed.1.2 rfl
        exact ⟨preparation_passes rfl, region, .inr ⟨current, aligned, rfl⟩⟩
      | failInvalid => exact ⟨preparation_passes rfl, unloaded⟩
      | failValid => exact ⟨preparation_passes rfl, unloaded⟩
    | failInvalid => exact ⟨preparation_passes rfl, unloaded⟩
    | failValid => exact ⟨preparation_passes rfl, unloaded⟩

theorem clearing_launchGuest (depth : ℕ) {state : LogicalProcessor} (inside : Inside state) :
    (launchGuest depth).Ensures (clearing shared) Kept state fun _ final => final = state := by
  have kept := inside.activeIsCurrent
  apply ensures_launchGuest (preparation_passes kept) depth
  refine ensures_ask_bind kept fun outcome _ => ?_
  cases outcome with
  | succeed => exact ⟨kept, fun response => response.elim⟩
  | failInvalid => exact ⟨fieldWork_passes kept, preparation_passes kept, rfl⟩
  | failValid => exact ⟨fieldWork_passes kept, preparation_passes kept, rfl⟩

/-- The cleanup gives up the VMCS the processor holds, if it holds one. -/
theorem clearing_clearActiveVMCS (depth : ℕ) {state : LogicalProcessor} (inside : Inside state) :
    (clearActiveVMCS depth).Ensures (clearing shared) Kept state fun _ final =>
      ∃ region, final = ⟨.root region none, []⟩ := by
  have kept := inside.activeIsCurrent
  apply ensures_clearActiveVMCS (preparation_passes kept) depth
  refine ⟨kept, fun ⟨outcome, stored⟩ allowed => ?_⟩
  obtain ⟨_, rfl, pointer⟩ := allowed.1
  change (stored = -1 → _) ∧ (stored ≠ -1 → _)
  obtain ⟨region, rfl | ⟨current, aligned, rfl⟩⟩ := inside
  · obtain rfl : stored = -1 := pointer
    constructor
    · exact fun _ => ⟨fieldWork_passes kept, preparation_passes kept, region, rfl⟩
    · exact fun other => absurd rfl other
  · obtain rfl : stored = current := pointer
    constructor
    · rintro rfl
      exact absurd aligned (by decide)
    · refine fun _ => ⟨kept, fun cleared allowed => ?_⟩
      obtain rfl : cleared = .succeed := allowed.2 rfl
      have left := LogicalProcessor.next_vmclear_current region stored
      have cleared : ActiveIsCurrent (LogicalProcessor.next
          ⟨.root region (some stored), [stored]⟩ (.vmclear stored) .succeed) := by
        rw [left]
        rfl
      exact ⟨fun failed => absurd rfl failed, preparation_passes cleared, region, left⟩

/-- A request leaves its processor outside VMX operation with no VMCS active, and at every point
of it the active VMCS is the current one. -/
theorem clearing_enterVmxHandler (depth : ℕ) :
    (enterVmxHandler depth).Ensures (clearing shared) Kept .idle fun _ final =>
      ActiveIsCurrent final := by
  rw [enterVmxHandler_eq]
  apply ensures_call activeIsCurrent_idle
  apply clearing_enterVmxonMode.bind
  intro _ _ entered
  apply (clearing_initializeVMCS entered).bind
  intro _ between inside
  have kept := inside.activeIsCurrent
  apply (confined_populateActiveVMCS depth).ensures_bind (fieldWork_passes kept)
  intro _ _
  apply (clearing_launchGuest depth inside).bind
  rintro status _ rfl
  apply (clearing_clearActiveVMCS depth inside).bind
  rintro _ _ ⟨region, rfl⟩
  exact ensures_ask_bind rfl fun _ _ => ⟨rfl, rfl⟩

theorem clearing_ioctlHandlerIRP (depth : ℕ) :
    (ioctlHandlerIRP depth ioctlEnterVmx).Ensures (clearing shared) Kept .idle fun _ final =>
      ActiveIsCurrent final := by
  have handled : (handleIoControlCode depth ioctlEnterVmx).Ensures (clearing shared) Kept .idle
      fun _ final => ActiveIsCurrent final := by
    rw [handleIoControlCode, if_pos rfl]
    exact clearing_enterVmxHandler depth
  refine handled.bind fun _ final kept => ?_
  refine ensures_steady_bind kept (fun _ => rfl) fun _ => ?_
  exact ensures_steady_bind kept (fun _ => rfl) fun _ => kept

end Request

section Interleavings

variable {ι : Type} [DecidableEq ι] {shared : SharedContext} {depth : ι → ℕ}
  {lasts : ι → Code NTSTATUS} {finals : ι → LogicalProcessor}

/-- While each `VMXON` that succeeds does so alone, at most one processor is in VMX operation. -/
theorem oneInOperation_of_entersAlone {env : Environment interface LogicalProcessor}
    {programs : ι → Code NTSTATUS} {states : ι → LogicalProcessor}
    (acts : env.next = LogicalProcessor.next)
    (run : Interleaves (fun _ => env) EntersAlone programs states lasts finals)
    (initially : OneInOperation states) : OneInOperation finals := by
  refine run.invariant (fun k states op response one _ alone => ?_) initially
  rw [acts]
  have stays : ∀ i j, i ≠ j → j ≠ k →
      (Function.update states k ((states k).next op response) i).vmx = .off ∨
        (states j).vmx = .off := by
    intro i j distinct other
    by_cases moved : i = k
    · subst moved
      rw [Function.update_self]
      rcases one i j distinct with off | off
      · rcases LogicalProcessor.vmx_next_of_off op response off with off | entry
        · exact .inl off
        · obtain ⟨region, same⟩ := entry
          cases same
          exact .inr (alone j other)
      · exact .inr off
    · rw [Function.update_of_ne moved]
      exact one i j distinct
  intro i j distinct
  by_cases moved : j = k
  · subst moved
    have swapped := stays j i distinct.symm distinct
    rw [Function.update_of_ne distinct]
    exact swapped.symm
  · rw [Function.update_of_ne moved]
    exact stays i j distinct moved

/-- Ownership is exclusive in every interleaving in which no processor enters VMX operation while
another is in it and no `VMCLEAR` of a current VMCS fails. -/
theorem exclusive_of_entersAlone
    (run : Interleaves (fun _ => (LogicalProcessor.environment shared).restrict ClearsCurrent)
      EntersAlone (fun i => ioctlHandlerIRP (depth i) ioctlEnterVmx) (fun _ => .idle) lasts finals) :
    Exclusive finals := by
  have one : OneInOperation finals :=
    oneInOperation_of_entersAlone rfl run fun _ _ _ => .inl rfl
  have kept : ∀ i, ActiveIsCurrent (finals i) := fun i =>
    (run.ensures (fun i => clearing_ioctlHandlerIRP (depth i)) i).now
  have nothing : ∀ i, (finals i).vmx = .off → (finals i).active = [] := by
    intro i off
    rw [kept i, off]
    rfl
  intro i j distinct
  rcases one i j distinct with off | off
  · exact ⟨by simp [off, VmxState.region?], by simp [nothing i off]⟩
  · exact ⟨by simp [off, VmxState.region?], by simp [nothing j off]⟩

end Interleavings

/-- The physical address of the one VMXON region. -/
def vmxonRegion (shared : SharedContext) : Address :=
  shared.physicalAddress (shared.field shared.kProcessorContext .vmxonRegion)

/-- Every request gets past its `VMXON` on a processor that is outside VMX operation. -/
theorem visits_root (shared : SharedContext) (depth : ℕ) :
    Visits ((LogicalProcessor.environment shared).restrict ClearsCurrent)
      (ioctlHandlerIRP depth ioctlEnterVmx) .idle ⟨.root (vmxonRegion shared) none, []⟩ := by
  iterate 2 refine .step () ⟨trivial, trivial⟩ ?_
  refine .step _ ⟨rfl, trivial⟩ ?_
  iterate 13 refine .step default ⟨trivial, trivial⟩ ?_
  refine .step _ ⟨rfl, trivial⟩ ?_
  iterate 2 refine .step default ⟨trivial, trivial⟩ ?_
  iterate 2 refine .step _ ⟨rfl, trivial⟩ ?_
  exact .step .succeed ⟨fun on => absurd rfl on, trivial⟩ (.here _ _)

/-- The page every pointer of the context leads to in the two runs below. -/
private def onePage : SharedContext := ⟨0x1000, fun _ _ => 0x2000, id⟩

private abbrev twoRequests : Fin 2 → Code NTSTATUS := fun _ => ioctlHandlerIRP 1 ioctlEnterVmx

/-- Where only `VMLAUNCH` fails, the current VMCS is cleared. -/
private theorem clears_of_launchFails (processor : LogicalProcessor) (op : Op) (response : op.Response)
    (answered : processor.launchFails op = some response) :
    (clearing .paged).allows processor op response := by
  refine ⟨LogicalProcessor.answers_of_launchFails processor op response answered, ?_⟩
  cases op with
  | vmclear =>
    obtain ⟨-, succeeded⟩ := Option.ite_none_left_eq_some.mp answered
    exact fun _ => (Option.some.inj succeeded).symm
  | _ => trivial

/-- A processor's request so far. -/
private def requested (steps : ℕ) : List (Event interface) × Code NTSTATUS × LogicalProcessor :=
  drive (clearing .paged) LogicalProcessor.launchFails steps
    (ioctlHandlerIRP 2 ioctlEnterVmx) .idle

private theorem reaches_requested (steps : ℕ) :
    Reaches (clearing .paged) (ioctlHandlerIRP 2 ioctlEnterVmx) .idle
      (requested steps).2.1 (requested steps).2.2 :=
  ⟨_, drive_path _ _ clears_of_launchFails steps _ _⟩

/-- A request comes back, outside VMX operation. -/
private theorem exists_returned : ∃ rest final,
    Reaches (clearing .paged) (ioctlHandlerIRP 2 ioctlEnterVmx) .idle rest
      final ∧ rest.head? = none ∧ final.vmx = .off :=
  ⟨_, _, reaches_requested 400, by decide +kernel, by decide +kernel⟩

/-- On its way it makes the VMCS current. -/
private theorem exists_loaded : ∃ rest,
    Reaches (clearing .paged) (ioctlHandlerIRP 2 ioctlEnterVmx) .idle rest
      ⟨.root 0x2000 (some 0x3000), [0x3000]⟩ := by
  have loaded : (requested 33).2.2 = ⟨.root 0x2000 (some 0x3000), [0x3000]⟩ := by decide +kernel
  rw [← loaded]
  exact ⟨_, reaches_requested 33⟩

/-- One processor acts while the other is outside VMX operation. -/
private theorem entersAlone_of_off {states : Fin 2 → LogicalProcessor} (i : Fin 2)
    (off : ∀ j ≠ i, (states j).vmx = .off) (state : LogicalProcessor) (op : Op)
    (response : op.Response) : EntersAlone i (Function.update states i state) op response := by
  unfold EntersAlone
  split
  · intro j other
    rw [Function.update_of_ne other]
    exact off j other
  · trivial

/-- The first processor's request has come back, its `VMLAUNCH` failed and its VMCS cleared, when the
second processor makes the same VMCS current. -/
theorem exclusive_of_entersAlone_second : ∃ lasts finals,
    Interleaves
      (fun _ => (LogicalProcessor.environment .paged).restrict ClearsCurrent)
      EntersAlone (fun _ : Fin 2 => ioctlHandlerIRP 2 ioctlEnterVmx) (fun _ => .idle) lasts finals ∧
    (lasts 0).head? = none ∧ finals 1 = ⟨.root 0x2000 (some 0x3000), [0x3000]⟩ ∧
    Exclusive finals := by
  obtain ⟨done, final, returns, returned, off⟩ := exists_returned
  obtain ⟨rest, loads⟩ := exists_loaded
  let programs : Fin 2 → Code NTSTATUS := fun _ => ioctlHandlerIRP 2 ioctlEnterVmx
  let states : Fin 2 → LogicalProcessor := fun _ => .idle
  have first : Interleaves (fun _ => clearing .paged) EntersAlone programs
      states (Function.update programs 0 done) (Function.update states 0 final) :=
    .of_reaches 0 returns fun state op response _ =>
      entersAlone_of_off 0 (fun _ _ => rfl) state op response
  have second : Interleaves (fun _ => clearing .paged) EntersAlone
      (Function.update programs 0 done) (Function.update states 0 final)
      (Function.update (Function.update programs 0 done) 1 rest)
      (Function.update (Function.update states 0 final) 1 ⟨.root 0x2000 (some 0x3000), [0x3000]⟩) := by
    refine .of_reaches 1 loads fun state op response _ =>
      entersAlone_of_off 1 (fun j other => ?_) state op response
    obtain rfl : j = 0 := by omega
    exact off
  have run := first.trans second
  exact ⟨_, _, run, returned, rfl, exclusive_of_entersAlone run⟩

/-- Two requests at the same time bring both processors into VMX operation on the one region. -/
theorem not_exclusive : ¬ ∀ (shared : SharedContext) (depth : Fin 2 → ℕ) (lasts finals),
    Interleaves (fun _ => LogicalProcessor.environment shared) (fun _ _ _ _ => True)
      (fun i => ioctlHandlerIRP (depth i) ioctlEnterVmx) (fun _ => .idle) lasts finals →
      Exclusive finals := by
  intro exclusive
  obtain ⟨rest, reaches⟩ := visits_root onePage 1
  let entered : LogicalProcessor := ⟨.root (vmxonRegion onePage) none, []⟩
  have first : Interleaves (fun _ => LogicalProcessor.environment onePage) (fun _ _ _ _ => True)
      twoRequests (fun _ => .idle) (Function.update twoRequests 0 rest)
      (Function.update (fun _ => .idle) 0 entered) :=
    .of_reaches 0 reaches.of_restrict fun _ _ _ _ => trivial
  have second : Interleaves (fun _ => LogicalProcessor.environment onePage) (fun _ _ _ _ => True)
      (Function.update twoRequests 0 rest) (Function.update (fun _ => .idle) 0 entered)
      (Function.update (Function.update twoRequests 0 rest) 1 rest)
      (Function.update (Function.update (fun _ => .idle) 0 entered) 1 entered) :=
    .of_reaches 1 reaches.of_restrict fun _ _ _ _ => trivial
  exact (exclusive onePage (fun _ => 1) _ _ (first.trans second) 0 1 (by decide)).1 0x2000 rfl rfl

end Guypervisor.Soundness.RegionOwnership
