import Guypervisor.Effects.BitRange
import Guypervisor.Soundness.Population

/-! # The fixed bits of CR0 and CR4

Each control register has two capability registers: the bits that must be set in VMX operation, and
those that may be. `EnterVmxonMode` clamps both control registers before `VMXON`, and
`PopulateActiveVMCS` the copies that the guest gets. Both bound CR4 by the register for CR0, so they
obey the fixed bits of CR4 as far as the two bounds agree.
-/

namespace Guypervisor.Soundness.FixedBits

open Effects Effects.Program Model Code Proofs Population

/-- `CR4.VMXE`. -/
def vmxe : BitVec 64 := 0x2000

/-- CR0 and CR4. -/
structure ControlRegisters where
  cr0 : BitVec 64
  cr4 : BitVec 64
deriving DecidableEq, Repr

/-- A processor with these registers, which the code may read and write. -/
def controlRegisters (cpu : ProcessorState) : Environment interface ControlRegisters where
  allows registers op response :=
    match op, response with
    | .readCr0, value => value = registers.cr0
    | .readCr4, value => value = registers.cr4
    | .readMsr msr, value => value = cpu.msr msr.address
    | _, _ => True
  next registers op _ :=
    match op with
    | .writeCr0 value => { registers with cr0 := value }
    | .writeCr4 value => { registers with cr4 := value }
    | _ => registers

/-- A register has the bits it must have and none it may not have, and keeps the others, but for
those exempt. -/
structure Obeys (fixed0 fixed1 exempt before after : BitVec 64) : Prop where
  between : Between fixed0 fixed1 after
  kept : AgreeOn (fixed1 &&& ~~~fixed0 &&& ~~~exempt) after before

section

variable (cpu : ProcessorState)

def cr0Fixed0 : BitVec 64 := cpu.msr IntelMsr.kIa32VmxCr0Fixed0.address
def cr0Fixed1 : BitVec 64 := cpu.msr IntelMsr.kIa32VmxCr0Fixed1.address
def cr4Fixed0 : BitVec 64 := cpu.msr IntelMsr.kIa32VmxCr4Fixed0.address
def cr4Fixed1 : BitVec 64 := cpu.msr IntelMsr.kIa32VmxCr4Fixed1.address

/-- The registers that `VMXON` is executed with, given those before the call. -/
structure ObeysAtVmxon (before after : ControlRegisters) : Prop where
  cr0 : Obeys (cr0Fixed0 cpu) (cr0Fixed1 cpu) 0 before.cr0 after.cr0
  cr4 : Obeys (cr4Fixed0 cpu) (cr4Fixed1 cpu) vmxe before.cr4 after.cr4
  vmxe : BitSubset vmxe after.cr4

/-- The registers that are written for the guest. -/
structure ObeysForGuest (log : FieldWrites) : Prop where
  cr0 : ∀ value, (.kGuestCr0, value) ∈ log →
    Obeys (cr0Fixed0 cpu) (cr0Fixed1 cpu) 0 cpu.cr0 value
  cr4 : ∀ value, (.kGuestCr4, value) ∈ log →
    Obeys (cr4Fixed0 cpu) (cr4Fixed1 cpu) vmxe cpu.cr4 value

/-- What `EnterVmxonMode` makes of the registers. -/
def atVmxon (before : ControlRegisters) : ControlRegisters :=
  ⟨(before.cr0 ||| cr0Fixed0 cpu) &&& cr0Fixed1 cpu,
    ((before.cr4 ||| cr4Fixed0 cpu) &&& cr0Fixed1 cpu) ||| vmxe⟩

end

theorem obeys_iff {fixed0 fixed1 exempt before after : BitVec 64} :
    Obeys fixed0 fixed1 exempt before after ↔ ∀ i < 64,
      (fixed0.getLsbD i = true → after.getLsbD i = true) ∧
      (after.getLsbD i = true → fixed1.getLsbD i = true) ∧
      ((fixed1.getLsbD i && !fixed0.getLsbD i && !exempt.getLsbD i) = true →
        after.getLsbD i = before.getLsbD i) := by
  have parts : Obeys fixed0 fixed1 exempt before after ↔
      BitSubset fixed0 after ∧ BitSubset after fixed1 ∧
        AgreeOn (fixed1 &&& ~~~fixed0 &&& ~~~exempt) after before := by
    constructor
    · intro obeys
      exact ⟨obeys.between.lower, obeys.between.upper, obeys.kept⟩
    · rintro ⟨lower, upper, kept⟩
      exact ⟨⟨lower, upper⟩, kept⟩
  rw [parts, bitSubset_iff, bitSubset_iff, agreeOn_iff]
  constructor
  · rintro ⟨lower, upper, kept⟩ i inside
    refine ⟨lower i inside, upper i inside, ?_⟩
    simpa [inside] using kept i inside
  · intro each
    refine ⟨fun i inside => (each i inside).1, fun i inside => (each i inside).2.1, ?_⟩
    intro i inside free
    exact (each i inside).2.2 (by simpa [inside] using free)

/-- One bit of CR4 at `VMXON`. -/
private theorem bit_cr4 {low high bound before exempt : Bool} (room : low = true → high = true)
    (allowed : exempt = true → high = true) :
    (low = true → ((before || low) && bound || exempt) = true) ∧
      (((before || low) && bound || exempt) = true → high = true) ∧
      ((high && !low && !exempt) = true → ((before || low) && bound || exempt) = before) ↔
    (((before || low) && !exempt) = true → bound = high) := by
  cases low <;> cases exempt <;> cases before <;> cases bound <;> simp_all

/-- One bit of the guest's CR4. -/
private theorem bit_guestCr4 {low high bound before exempt : Bool}
    (room : low = true → high = true) (allowed : exempt = true → high = true) :
    (low = true → ((before || low) && bound) = true) ∧
      (((before || low) && bound) = true → high = true) ∧
      ((high && !low && !exempt) = true → ((before || low) && bound) = before) ↔
    (((before || low) && !exempt) = true → bound = high) ∧
      ((low && exempt) = true → bound = true) := by
  cases low <;> cases exempt <;> cases before <;> cases bound <;> simp_all

section Cr4

variable {fixed0 fixed1 bound before : BitVec 64} (room : BitSubset fixed0 fixed1)
  (allowed : BitSubset vmxe fixed1)
include room allowed

/-- The bound of another register does for CR4 at `VMXON` where it agrees with CR4's own on the
bits that come before it, other than VMXE. -/
theorem obeys_cr4_iff :
    Obeys fixed0 fixed1 vmxe before (((before ||| fixed0) &&& bound) ||| vmxe) ↔
      AgreeOn ((before ||| fixed0) &&& ~~~vmxe) bound fixed1 := by
  rw [bitSubset_iff] at room allowed
  rw [obeys_iff, agreeOn_iff]
  apply forall₂_congr
  intro i inside
  simp only [BitVec.getLsbD_or, BitVec.getLsbD_and, BitVec.getLsbD_not, inside, decide_true,
    Bool.true_and]
  exact bit_cr4 (room i inside) (allowed i inside)

/-- The same for the guest, whose VMXE is bounded as well. -/
theorem obeys_guestCr4_iff :
    Obeys fixed0 fixed1 vmxe before ((before ||| fixed0) &&& bound) ↔
      AgreeOn ((before ||| fixed0) &&& ~~~vmxe) bound fixed1 ∧
        BitSubset (fixed0 &&& vmxe) bound := by
  rw [bitSubset_iff] at room allowed
  rw [obeys_iff, agreeOn_iff, bitSubset_iff, ← forall₂_and]
  apply forall₂_congr
  intro i inside
  simp only [BitVec.getLsbD_or, BitVec.getLsbD_and, BitVec.getLsbD_not, inside, decide_true,
    Bool.true_and]
  exact bit_guestCr4 (room i inside) (allowed i inside)

end Cr4

/-- CR0 is bounded by its own register. -/
theorem obeys_cr0 {fixed0 fixed1 before : BitVec 64} (room : BitSubset fixed0 fixed1) :
    Obeys fixed0 fixed1 0 before ((before ||| fixed0) &&& fixed1) := by
  rw [or_and_eq_clamp room]
  have nothing : ~~~(0 : BitVec 64) = BitVec.allOnes 64 := by decide
  refine ⟨between_clamp room before, ?_⟩
  rw [nothing, BitVec.and_allOnes]
  exact agreeOn_clamp fixed0 fixed1 before

/-- Where `VMXON` may be executed. -/
def VmxonWith (expected registers : ControlRegisters) : Op → Prop
  | .vmxon _ => registers = expected
  | _ => True

section Enter

variable {cpu : ProcessorState} {α : Type} {expected registers : ControlRegisters}
  {post : α → ControlRegisters → Prop}

/-- An operation with one answer. -/
private theorem ensures_known_bind {op : Op} {next : op.Response → Code α} (answer : op.Response)
    (issued : VmxonWith expected registers op)
    (known : ∀ response, (controlRegisters cpu).allows registers op response → response = answer)
    (rest : (next answer).Ensures (controlRegisters cpu) (VmxonWith expected)
      ((controlRegisters cpu).next registers op answer) post) :
    Ensures (controlRegisters cpu) (VmxonWith expected) (ask op >>= next) registers post := by
  apply ensures_ask_bind issued
  intro response allowed
  obtain rfl := known response allowed
  exact rest

end Enter

/-- `VMXON` is executed with the clamped registers. -/
theorem ensures_vmxonWith (cpu : ProcessorState) (before : ControlRegisters) :
    enterVmxonMode.Ensures (controlRegisters cpu) (VmxonWith (atVmxon cpu before)) before
      fun _ _ => True := by
  apply ensures_call trivial
  refine ensures_steady_bind trivial (fun _ => rfl) fun context => ?_
  refine ensures_known_bind before.cr0 trivial (fun _ => id) ?_
  refine ensures_known_bind (cr0Fixed0 cpu) trivial (fun _ => id) ?_
  refine ensures_known_bind (cr0Fixed1 cpu) trivial (fun _ => id) ?_
  refine ensures_ask_bind trivial fun _ _ => ?_
  refine ensures_known_bind before.cr4 trivial (fun _ => id) ?_
  refine ensures_known_bind (cr4Fixed0 cpu) trivial (fun _ => id) ?_
  refine ensures_known_bind (cr0Fixed1 cpu) trivial (fun _ => id) ?_
  refine ensures_ask_bind trivial fun _ _ => ?_
  refine ensures_known_bind _ trivial (fun _ => id) ?_
  refine ensures_ask_bind trivial fun _ _ => ?_
  change Ensures _ _ _ (atVmxon cpu before) _
  iterate 4 refine ensures_steady_bind trivial (fun _ => rfl) fun _ => ?_
  simp only [setRevisionIdentifier, bind_assoc]
  iterate 4 refine ensures_steady_bind trivial (fun _ => rfl) fun _ => ?_
  refine ensures_ask_bind rfl fun outcome _ => ?_
  split <;> exact ⟨trivial, trivial⟩

/-- What is written for the guest. -/
theorem mem_guestCr0_iff (cpu : ProcessorState) (value : BitVec 64) :
    (.kGuestCr0, value) ∈ populateWrites cpu ↔
      value = (cpu.cr0 ||| cr0Fixed0 cpu) &&& cr0Fixed1 cpu := by
  have written : put .kGuestCr0 (guestCr0 cpu) ∈ controlRegistersWrites cpu := List.mem_cons_self
  exact mem_populateWrites_iff (by decide) (controlRegistersWrites_subset cpu written) value

theorem mem_guestCr4_iff (cpu : ProcessorState) (value : BitVec 64) :
    (.kGuestCr4, value) ∈ populateWrites cpu ↔
      value = (cpu.cr4 ||| cr4Fixed0 cpu) &&& cr0Fixed1 cpu := by
  have written : put .kGuestCr4 (guestCr4 cpu) ∈ controlRegistersWrites cpu := by
    simp [controlRegistersWrites]
  exact mem_populateWrites_iff (by decide) (controlRegistersWrites_subset cpu written) value

/-- CR4 is bounded by the register for CR0 as by its own, on the bits it has before either function
or must have. -/
structure BoundsAgree (cpu : ProcessorState) (before : ControlRegisters) : Prop where
  atVmxon : AgreeOn ((before.cr4 ||| cr4Fixed0 cpu) &&& ~~~vmxe) (cr0Fixed1 cpu) (cr4Fixed1 cpu)
  forGuest : AgreeOn ((cpu.cr4 ||| cr4Fixed0 cpu) &&& ~~~vmxe) (cr0Fixed1 cpu) (cr4Fixed1 cpu)
  vmxe : BitSubset (cr4Fixed0 cpu &&& vmxe) (cr0Fixed1 cpu)

/-- The exact extent of the defect: both functions obey the fixed bits when the bound for CR0 does
for CR4. -/
theorem obeysFixedBits_iff {cpu : ProcessorState} {depth : ℕ} {before after : ControlRegisters}
    {entering populating : List (Event interface)} {rest : Code NTSTATUS} {region : Address}
    {status : NTSTATUS} (cr0Room : BitSubset (cr0Fixed0 cpu) (cr0Fixed1 cpu))
    (cr4Room : BitSubset (cr4Fixed0 cpu) (cr4Fixed1 cpu))
    (vmxeAllowed : BitSubset vmxe (cr4Fixed1 cpu))
    (path : Path (controlRegisters cpu) enterVmxonMode before entering rest after)
    (issued : rest.head? = some (.vmxon region))
    (populated : Path cpu.running (populateActiveVMCS depth) () populating (.done status) ()) :
    ObeysAtVmxon cpu before after ∧ ObeysForGuest cpu (writesOf populating) ↔
      BoundsAgree cpu before := by
  obtain rfl : after = atVmxon cpu before :=
    (ensures_vmxonWith cpu before).legal_of_path path issued
  rw [(ended_of_path populated).1]
  constructor
  · rintro ⟨vmxon, guest⟩
    have bounded := guest.cr4 _ ((mem_guestCr4_iff cpu _).mpr rfl)
    rw [obeys_guestCr4_iff cr4Room vmxeAllowed] at bounded
    exact ⟨(obeys_cr4_iff cr4Room vmxeAllowed).mp vmxon.cr4, bounded.1, bounded.2⟩
  · intro agree
    constructor
    · constructor
      · exact obeys_cr0 cr0Room
      · exact (obeys_cr4_iff cr4Room vmxeAllowed).mpr agree.atVmxon
      · exact bitSubset_or_right _ vmxe
    · constructor
      · intro value written
        obtain rfl := (mem_guestCr0_iff cpu value).mp written
        exact obeys_cr0 cr0Room
      · intro value written
        obtain rfl := (mem_guestCr4_iff cpu value).mp written
        exact (obeys_guestCr4_iff cr4Room vmxeAllowed).mpr ⟨agree.forGuest, agree.vmxe⟩

/-- A processor whose CR4 has a bit above the low half, where CR0 has none. -/
def wideCpu : ProcessorState :=
  { (default : ProcessorState) with
    cr0 := 0x80050033
    cr4 := 0x100002020
    msr := fun address =>
      if address = IntelMsr.kIa32VmxCr0Fixed0.address then 0x80000021
      else if address = IntelMsr.kIa32VmxCr0Fixed1.address then 0xFFFFFFFF
      else if address = IntelMsr.kIa32VmxCr4Fixed0.address then 0x2000
      else if address = IntelMsr.kIa32VmxCr4Fixed1.address then 0x100FFFFFF
      else 0 }

/-- Its answers to the code that enters VMX operation. -/
def wideAnswer (registers : ControlRegisters) : (op : Op) → Option op.Response
  | .readCr0 => some registers.cr0
  | .readCr4 => some registers.cr4
  | .readMsr msr => some (wideCpu.msr msr.address)
  | op => op.plainAnswer

/-- Its run up to `VMXON`. -/
def wideEntry : List (Event interface) × Code NTSTATUS × ControlRegisters :=
  drive (controlRegisters wideCpu) wideAnswer 20 enterVmxonMode ⟨0x80050033, 0x100000020⟩

/-- Its run of `PopulateActiveVMCS`. -/
def widePopulate : List (Event interface) × Code NTSTATUS × Vmcs := populateRun wideCpu fun _ => 0

private theorem path_wideEntry : Path (controlRegisters wideCpu) enterVmxonMode
    ⟨0x80050033, 0x100000020⟩ wideEntry.1 wideEntry.2.1 wideEntry.2.2 := by
  apply drive_path
  intro registers op response answered
  cases op with
  | readCr0 | readCr4 | readMsr => exact (Option.some.inj answered).symm
  | _ => trivial

private theorem issued_wideEntry : wideEntry.2.1.head? = some (.vmxon 0x2000) := by decide +kernel

private theorem finishes_widePopulate : widePopulate.2.1.head? = none := by decide +kernel

theorem obeysFixedBits_iff_wide :
    ObeysAtVmxon wideCpu ⟨0x80050033, 0x100000020⟩ wideEntry.2.2 ∧
        ObeysForGuest wideCpu (writesOf widePopulate.1) ↔
      BoundsAgree wideCpu ⟨0x80050033, 0x100000020⟩ := by
  obtain ⟨_, path⟩ := path_running_populateRun finishes_widePopulate
  exact obeysFixedBits_iff (by decide) (by decide) (by decide) path_wideEntry
    issued_wideEntry path

/-- On this processor the bit is lost at `VMXON`. -/
theorem not_obeysFixedBits : ¬ ∀ cpu depth before after entering populating rest region status,
    BitSubset (cr0Fixed0 cpu) (cr0Fixed1 cpu) → BitSubset (cr4Fixed0 cpu) (cr4Fixed1 cpu) →
    BitSubset vmxe (cr4Fixed1 cpu) →
    Path (controlRegisters cpu) enterVmxonMode before entering rest after →
    rest.head? = some (.vmxon region) →
    Path cpu.running (populateActiveVMCS depth) () populating (.done status) () →
      ObeysAtVmxon cpu before after ∧ ObeysForGuest cpu (writesOf populating) := by
  intro obeys
  obtain ⟨_, path⟩ := path_running_populateRun finishes_widePopulate
  have vmxon := (obeys wideCpu _ _ _ _ _ _ _ _ (by decide) (by decide) (by decide) path_wideEntry
    issued_wideEntry path).1
  rw [(ensures_vmxonWith wideCpu _).legal_of_path path_wideEntry issued_wideEntry] at vmxon
  have agree := (obeys_cr4_iff (by decide) (by decide)).mp vmxon.cr4
  revert agree
  decide

end Guypervisor.Soundness.FixedBits
