import Guypervisor.Model.VmxState
import Guypervisor.Proofs.Stages

/-! # The protocol of the VMX instructions over whole runs

A run is any number of successive requests to enter VMX on one processor, from outside VMX
operation, under every outcome of every instruction. A failed `VMXON`, `VMPTRLD` or first
`VMCLEAR` is not recognised and the stages after it run in the wrong VMX state. Once these three
succeed the protocol holds whatever else fails: `VMWRITE`, `VMREAD`, `VMLAUNCH`, and the
`VMPTRST` and `VMCLEAR` of the cleanup.
-/

namespace Guypervisor.Soundness.VmxProtocol

open Effects Effects.Program Model Code Proofs

/-- Every outcome of every instruction and every value read or returned. -/
def anyOutcome : Environment interface VmxState where
  allows _ _ _ := True
  next := VmxState.next

/-- Successive requests, each with the kernel stack it finds. -/
def requests : List ℕ → Code Unit
  | [] => pure ()
  | depth :: later => do
    let _ ← enterVmxHandler depth
    requests later

/-- In every run of the requests each operation is issued in a state where it is legal. -/
def FollowsProtocol (env : Environment interface VmxState) (depths : List ℕ) : Prop :=
  ∀ events rest state op, Path env (requests depths) .off events rest state →
    rest.head? = some op → state.Legal op

/-- `VMXON`, `VMPTRLD`, and every `VMCLEAR` issued while no VMCS is current, succeed. -/
def EntrySucceeds (state : VmxState) (op : Op) (response : op.Response) : Prop :=
  match op, response with
  | .vmxon _, outcome => outcome = .succeed
  | .vmptrld _, outcome => outcome = .succeed
  | .vmclear _, outcome => state.current? = none → outcome = .succeed
  | _, _ => True

private abbrev entering := anyOutcome.restrict EntrySucceeds

section Stages

/-- What prepares an instruction is legal everywhere and changes no VMX state. -/
theorem preparation_passes (state : VmxState) :
    Passes entering VmxState.Legal IsPreparation state where
  issues op step := by
    cases op with
    | leave routine => cases routine <;> trivial
    | _ => trivial
  steady op _ step _ := by
    cases op <;> first | rfl | exact step.elim

/-- Field work is legal while a VMCS is current, and leaves it current. -/
theorem fieldWork_passes (region current : Address) :
    Passes entering VmxState.Legal IsFieldWork (.root region (some current)) where
  issues op work := by
    cases op with
    | vmwrite | vmread => exact Option.some_ne_none current
    | leave routine => cases routine <;> trivial
    | _ => trivial
  steady op _ work _ := by
    cases op <;> first | rfl | exact work.elim

/-- From outside VMX operation, `VMXON` is legal, and enters on the region it was given. -/
theorem entering_enterVmxonMode :
    enterVmxonMode.Ensures entering VmxState.Legal .off fun _ final =>
      ∃ region, final = .root region none := by
  apply ensures_enterVmxonMode (preparation_passes _)
  intro region
  constructor
  · rfl
  · rintro outcome ⟨_, succeeded⟩
    obtain rfl : outcome = .succeed := succeeded
    exact ⟨preparation_passes _, region, rfl⟩

/-- In VMX operation with no current VMCS, `VMCLEAR` and `VMPTRLD` are legal, and the loaded
region is current. -/
theorem entering_initializeVMCS (region : Address) :
    initializeVMCS.Ensures entering VmxState.Legal (.root region none) fun _ final =>
      ∃ current, final = .root region (some current) := by
  apply ensures_initializeVMCS (preparation_passes _)
  intro current
  constructor
  · exact VmxState.noConfusion
  · rintro cleared ⟨_, succeeded⟩
    obtain rfl : cleared = .succeed := succeeded rfl
    refine ⟨VmxState.noConfusion, ?_⟩
    rintro loaded ⟨_, succeeded⟩
    obtain rfl : loaded = .succeed := succeeded
    exact ⟨preparation_passes _, current, rfl⟩

/-- With a current VMCS, `VMLAUNCH` is legal; if control comes back, the VMCS is still current. -/
theorem entering_launchGuest (depth : ℕ) (region current : Address) :
    (launchGuest depth).Ensures entering VmxState.Legal (.root region (some current))
      fun _ final => final = .root region (some current) := by
  apply ensures_launchGuest (preparation_passes _) depth
  refine ensures_ask_bind (Option.some_ne_none current) fun outcome _ => ?_
  cases outcome with
  | succeed => exact ⟨trivial, fun response => response.elim⟩
  | failInvalid => exact ⟨fieldWork_passes _ _, preparation_passes _, rfl⟩
  | failValid => exact ⟨fieldWork_passes _ _, preparation_passes _, rfl⟩

/-- With a current VMCS, `VMPTRST` and `VMCLEAR` are legal, and VMX operation goes on. -/
theorem entering_clearActiveVMCS (depth : ℕ) (region current : Address) :
    (clearActiveVMCS depth).Ensures entering VmxState.Legal (.root region (some current))
      fun _ final => ∃ left, final = .root region left := by
  apply ensures_clearActiveVMCS (preparation_passes _) depth
  refine ⟨VmxState.noConfusion, fun answer _ => ⟨fun _ => ?_, fun _ => ?_⟩⟩
  · exact ⟨fieldWork_passes _ _, preparation_passes _, _, rfl⟩
  · refine ⟨VmxState.noConfusion, fun outcome _ => ⟨fun failed => ?_, preparation_passes _, ?_⟩⟩
    · cases outcome with
      | succeed => contradiction
      | failInvalid => exact fieldWork_passes _ _
      | failValid => exact fieldWork_passes _ _
    · cases outcome with
      | succeed =>
        by_cases same : current = storedAddress answer
        · exact ⟨none, if_pos same⟩
        · exact ⟨some current, if_neg same⟩
      | failInvalid => exact ⟨_, rfl⟩
      | failValid => exact ⟨_, rfl⟩

/-- A request started outside VMX operation ends outside VMX operation. -/
theorem entering_enterVmxHandler (depth : ℕ) :
    (enterVmxHandler depth).Ensures entering VmxState.Legal .off fun _ final => final = .off := by
  rw [enterVmxHandler_eq]
  apply ensures_call trivial
  apply entering_enterVmxonMode.bind
  rintro _ _ ⟨region, rfl⟩
  apply (entering_initializeVMCS region).bind
  rintro _ _ ⟨current, rfl⟩
  apply (confined_populateActiveVMCS depth).ensures_bind (fieldWork_passes region current)
  intro _ _
  apply (entering_launchGuest depth region current).bind
  rintro status _ rfl
  apply (entering_clearActiveVMCS depth region current).bind
  rintro _ _ ⟨left, rfl⟩
  exact ensures_ask_bind VmxState.noConfusion fun _ _ => ⟨rfl, rfl⟩

/-- Any number of requests, one after another, keep to the protocol. -/
theorem entering_requests (depths : List ℕ) :
    (requests depths).Ensures entering VmxState.Legal .off fun _ final => final = .off := by
  induction depths with
  | nil => rfl
  | cons depth later ih =>
    apply (entering_enterVmxHandler depth).bind
    rintro _ _ rfl
    exact ih

end Stages

/-- The protocol holds over all runs in which `VMXON`, `VMPTRLD` and the `VMCLEAR` before it
succeed. -/
theorem followsProtocol_of_entrySucceeds (depths : List ℕ) :
    FollowsProtocol (anyOutcome.restrict EntrySucceeds) depths := by
  intro events rest state op path issued
  exact (entering_requests depths).legal_of_path path issued

/-- Where only `VMLAUNCH` fails, every entry succeeds. -/
theorem entrySucceeds_of_launchFails (state : VmxState) (op : Op) (response : op.Response)
    (answered : op.launchFails = some response) :
    (anyOutcome.restrict EntrySucceeds).allows state op response := by
  refine ⟨trivial, ?_⟩
  cases op with
  | vmxon | vmptrld => exact (Option.some.inj answered).symm
  | vmclear => exact fun _ => (Option.some.inj answered).symm
  | _ => trivial

/-- A request whose `VMLAUNCH` failed returns, and the next one issues `VMXON` legally. -/
theorem followsProtocol_second_vmxon : ∃ events rest state,
    Path (anyOutcome.restrict EntrySucceeds) (requests [2, 2]) .off events rest state ∧
      rest.head? = some (.vmxon 0x2000) ∧ state.Legal (.vmxon 0x2000) := by
  have path := drive_path entering (fun _ => Op.launchFails) entrySucceeds_of_launchFails 332 (requests [2, 2]) .off
  have issued : (drive entering (fun _ => Op.launchFails) 332 (requests [2, 2]) .off).2.1.head? =
      some (.vmxon 0x2000) := by decide +kernel
  exact ⟨_, _, _, path, issued, followsProtocol_of_entrySucceeds [2, 2] _ _ _ _ path issued⟩

/-- A processor on which `VMXON` fails. -/
def vmxonFails (_ : VmxState) : (op : Op) → Option op.Response
  | .vmxon _ => some VmxOutcome.failInvalid
  | op => op.plainAnswer

/-- After a failed `VMXON` the handler goes on to `VMCLEAR` outside VMX operation. -/
theorem not_followsProtocol : ¬ ∀ depths, FollowsProtocol anyOutcome depths := by
  intro follows
  have path := drive_path anyOutcome vmxonFails (fun _ _ _ _ => trivial) 31 (requests [1]) .off
  exact follows [1] _ _ _ (.vmclear 0x3000) path rfl rfl

end Guypervisor.Soundness.VmxProtocol
