import Guypervisor.Model.Descriptor
import Guypervisor.Soundness.Population
import Guypervisor.Soundness.SelectorTables

/-! # Access rights of usable segments

`LAR` loads the second doubleword of a descriptor under the mask `00FxFF00h`, whose bits 19:16 are
undefined. `ReadGDTEntry` shifts them into bits 11:8 of the access rights and does not clear them,
and it gives no access rights to a selector of privilege level 1.
-/

namespace Guypervisor.Soundness.AccessRights

open Effects Model Population SelectorTables

/-- What `LAR` loads, but for bits 19:16. -/
def LarLoads (second rights : BitVec 32) : Prop := rights &&& 0xFFF0FFFF = second &&& 0x00F0FF00

/-- The descriptors `LAR` accepts: those of code and data, and four kinds of system descriptor. -/
def LarAccepts (system : BitVec 1) (type : BitVec 4) : Prop :=
  system = 1 ∨ type = 2 ∨ type = 9 ∨ type = 0xB ∨ type = 0xC

/-- Where the descriptor a selector names lies: in the GDT or in the LDT. -/
def namedAddress (gdt : DescriptorTableRegister) (ldt : Address) (selector : BitVec 16) : Address :=
  if tableIndicator selector then ldt + 8 * (selector >>> 3).setWidth 64
  else slotAddress gdt selector

/-- A selector that is not null names a descriptor `LAR` accepts, and loads its access rights. -/
structure NamesDescriptor (cpu : ProcessorState) (ldt : Address) (selector : BitVec 16)
    (attributes : DescriptorAttributes) (system : BitVec 1) : Prop where
  nonnull : selector &&& ~~~3 ≠ 0
  accepted : LarAccepts system attributes.type
  stored : ∃ base, cpu.memory.load32 (namedAddress cpu.gdtr ldt selector + 4) =
    attributes.secondDoubleword system base
  loads : LarLoads (cpu.memory.load32 (namedAddress cpu.gdtr ldt selector + 4))
    (cpu.accessRights selector)

/-- Access rights with the bits of a descriptor, and the reserved bits clear. -/
structure Describes (access : BitVec 32) (attributes : DescriptorAttributes) (system : BitVec 1) :
    Prop where
  low : access.extractLsb' 0 8 = attributes.accessByte system
  reserved : access.extractLsb' 8 4 = 0
  flags : access.extractLsb' 12 4 = attributes.flags
  high : access.extractLsb' 17 15 = 0

/-- The field for a segment's access rights. -/
def accessRightsField : SegmentRegister → VmcsFieldEncoding
  | .es => .kGuestEsAccessRights
  | .cs => .kGuestCsAccessRights
  | .ss => .kGuestSsAccessRights
  | .ds => .kGuestDsAccessRights
  | .fs => .kGuestFsAccessRights
  | .gs => .kGuestGsAccessRights
  | .ldtr => .kGuestLdtrAccessRights
  | .tr => .kGuestTrAccessRights

/-- The run writes access rights for the segment that describe it. -/
def WritesDescription (events : List (Event interface)) (register : SegmentRegister)
    (attributes : DescriptorAttributes) (system : BitVec 1) : Prop :=
  ∃ access : BitVec 32, WritesOne events (accessRightsField register) (access.setWidth 64) ∧
    Describes access attributes system

private theorem extractLsb'_ushiftRight {w : ℕ} (value : BitVec w) (shift start length : ℕ) :
    (value >>> shift).extractLsb' start length = value.extractLsb' (shift + start) length := by
  apply BitVec.eq_of_getLsbD_eq
  intro i bound
  simp only [BitVec.getLsbD_extractLsb', BitVec.getLsbD_ushiftRight, Nat.add_assoc]

private theorem extractLsb'_and {w : ℕ} (left right : BitVec w) (start length : ℕ) :
    (left &&& right).extractLsb' start length =
      left.extractLsb' start length &&& right.extractLsb' start length := by
  apply BitVec.eq_of_getLsbD_eq
  intro i bound
  simp [bound]

section Loads

variable {second rights : BitVec 32} (loads : LarLoads second rights)
include loads

/-- The two masks on a range of bits. -/
private theorem LarLoads.extract (start length : ℕ) :
    rights.extractLsb' start length &&& (0xFFF0FFFF#32).extractLsb' start length =
      second.extractLsb' start length &&& (0x00F0FF00#32).extractLsb' start length := by
  rw [← extractLsb'_and, ← extractLsb'_and]
  exact congrArg _ loads

theorem LarLoads.low : rights.extractLsb' 8 8 = second.extractLsb' 8 8 := by
  have masked := loads.extract 8 8
  change _ &&& BitVec.allOnes 8 = _ &&& BitVec.allOnes 8 at masked
  rwa [BitVec.and_allOnes, BitVec.and_allOnes] at masked

theorem LarLoads.flags : rights.extractLsb' 20 4 = second.extractLsb' 20 4 := by
  have masked := loads.extract 20 4
  change _ &&& BitVec.allOnes 4 = _ &&& BitVec.allOnes 4 at masked
  rwa [BitVec.and_allOnes, BitVec.and_allOnes] at masked

theorem LarLoads.high : rights.extractLsb' 25 15 = 0 := by
  apply BitVec.eq_of_getLsbD_eq
  intro i bound
  have masked := congrArg (fun value => value.getLsbD i) (loads.extract 25 15)
  by_cases inside : i < 7
  · have masks : ∀ i < 7, ((0xFFF0FFFF#32).extractLsb' 25 15).getLsbD i = true ∧
        ((0x00F0FF00#32).extractLsb' 25 15).getLsbD i = false := by decide
    obtain ⟨kept, cleared⟩ := masks i inside
    simp only [BitVec.getLsbD_and, kept, cleared, Bool.and_true, Bool.and_false] at masked
    rw [masked]
    simp
  · have past : rights.getLsbD (25 + i) = false := BitVec.getLsbD_of_ge rights _ (by omega)
    simp [past]

end Loads

section Descriptor

variable (attributes : DescriptorAttributes) (system : BitVec 1) (base : BitVec 32)

theorem accessByte_secondDoubleword :
    (attributes.secondDoubleword system base).extractLsb' 8 8 = attributes.accessByte system := by
  simp (disch := omega) only [DescriptorAttributes.secondDoubleword,
    BitVec.extractLsb'_append_eq_of_add_le, BitVec.extractLsb'_append_eq_of_le]
  exact BitVec.extractLsb'_eq_self

theorem flags_secondDoubleword :
    (attributes.secondDoubleword system base).extractLsb' 20 4 = attributes.flags := by
  simp (disch := omega) only [DescriptorAttributes.secondDoubleword,
    BitVec.extractLsb'_append_eq_of_add_le, BitVec.extractLsb'_append_eq_of_le]
  exact BitVec.extractLsb'_eq_self

/-- A descriptor `LAR` accepts has access rights. -/
theorem accessByte_ne_zero (accepted : LarAccepts system attributes.type) :
    attributes.accessByte system ≠ 0 := by
  intro zero
  have noType : attributes.type = 0 := by
    have low := congrArg (BitVec.extractLsb' 0 4) zero
    simp (disch := omega) only [DescriptorAttributes.accessByte,
      BitVec.extractLsb'_append_eq_of_add_le] at low
    rwa [BitVec.extractLsb'_eq_self] at low
  have noSystem : system = 0 := by
    have bit := congrArg (BitVec.extractLsb' 4 1) zero
    simp (disch := omega) only [DescriptorAttributes.accessByte,
      BitVec.extractLsb'_append_eq_of_add_le, BitVec.extractLsb'_append_eq_of_le] at bit
    rwa [BitVec.extractLsb'_eq_self] at bit
  revert accepted
  rw [noType, noSystem, LarAccepts]
  decide

end Descriptor

/-- What `LAR` loads, shifted down, describes the segment when the undefined bits are zero. -/
theorem describes_iff {attributes : DescriptorAttributes} {system : BitVec 1} {base rights : BitVec 32}
    (loads : LarLoads (attributes.secondDoubleword system base) rights) :
    Describes (rights >>> 8) attributes system ↔ rights.extractLsb' 16 4 = 0 := by
  constructor
  · intro describes
    have reserved := describes.reserved
    rwa [extractLsb'_ushiftRight] at reserved
  · intro undefined
    constructor
    · rw [extractLsb'_ushiftRight, loads.low, accessByte_secondDoubleword]
    · rw [extractLsb'_ushiftRight, undefined]
    · rw [extractLsb'_ushiftRight, loads.flags, flags_secondDoubleword]
    · rw [extractLsb'_ushiftRight, loads.high]

/-- The access rights of an entry. -/
theorem access_gdtEntry (cpu : ProcessorState) (selector : BitVec 16) :
    (gdtEntry cpu selector).access =
      if selector &&& 3 = 1 then 0 else accessRightsWord cpu selector := by
  unfold gdtEntry
  split
  · rfl
  · split <;> rfl

/-- The access rights that a finished run writes for a segment. -/
theorem writesOne_accessRights {cpu : ProcessorState} {depth : ℕ} {events : List (Event interface)}
    {status : NTSTATUS}
    (path : Path cpu.running (populateActiveVMCS depth) () events (.done status) ())
    (register : SegmentRegister) :
    WritesOne events (accessRightsField register)
      ((gdtEntry cpu (cpu.selector register)).access.setWidth 64) := by
  apply writesOne_of_path path
  · cases register <;> decide
  · cases register <;> simp [populateWrites, segmentWrites, basedSegmentWrites, gsWrites,
      ldtrWrites, csFields, ssFields, dsFields, esFields, fsFields, trFields, accessRightsField]

/-- Nothing else is written for it. -/
theorem writesDescription_iff_describes {cpu : ProcessorState} {depth : ℕ}
    {events : List (Event interface)} {status : NTSTATUS} {register : SegmentRegister}
    {attributes : DescriptorAttributes} {system : BitVec 1}
    (path : Path cpu.running (populateActiveVMCS depth) () events (.done status) ()) :
    WritesDescription events register attributes system ↔
      Describes (gdtEntry cpu (cpu.selector register)).access attributes system := by
  have written := writesOne_accessRights path register
  constructor
  · rintro ⟨access, writes, describes⟩
    obtain rfl := writes.unique (by omega) written
    exact describes
  · intro describes
    exact ⟨_, written, describes⟩

/-- The exact extent of the defect: the access rights written for a usable segment describe it when
its selector is not of privilege level 1 and `LAR` leaves the undefined bits zero. -/
theorem writesDescription_iff {cpu : ProcessorState} {depth : ℕ} {events : List (Event interface)}
    {status : NTSTATUS} {ldt : Address} {register : SegmentRegister}
    {attributes : DescriptorAttributes} {system : BitVec 1}
    (path : Path cpu.running (populateActiveVMCS depth) () events (.done status) ())
    (names : NamesDescriptor cpu ldt (cpu.selector register) attributes system) :
    WritesDescription events register attributes system ↔
      cpu.selector register &&& 3 ≠ 1 ∧
        (cpu.accessRights (cpu.selector register)).extractLsb' 16 4 = 0 := by
  obtain ⟨base, stored⟩ := names.stored
  have loads := names.loads
  rw [stored] at loads
  rw [writesDescription_iff_describes path, access_gdtEntry, ← describes_iff loads]
  split
  · rename_i refused
    constructor
    · intro describes
      exact absurd describes.low.symm (accessByte_ne_zero attributes system names.accepted)
    · intro levels
      exact absurd refused levels.1
  · rename_i past
    have nonzero : cpu.selector register ≠ 0 := by
      intro zero
      apply names.nonnull
      rw [zero]
      rfl
    rw [accessRightsWord, if_pos nonzero, and_iff_right past]

/-- A processor whose CS names a code descriptor at `0x2008` of an LDT, and whose `LAR` leaves bits
19:16 as they are. -/
def codeCpu : ProcessorState :=
  { (default : ProcessorState) with
    selector := fun register => if register = .cs then 0xC else 0
    memory := fun address =>
      if address = 0x200D then 0x9B else if address = 0x200E then 0xAF else 0
    accessRights := fun _ => 0x00AF9B00 }

def codeAttributes : DescriptorAttributes := ⟨0xF0000, 0xB, 0, 1, 0, 1, 0, 1⟩

/-- `PopulateActiveVMCS` on it, from a VMCS of zeros. -/
def codeRun : List (Event interface) × Code NTSTATUS × Vmcs := populateRun codeCpu fun _ => 0

private theorem path_codeRun : ∃ status,
    Path codeCpu.running (populateActiveVMCS 2) () codeRun.1 (.done status) () := by
  have finished : codeRun.2.1.head? = none := by decide +kernel
  exact path_running_populateRun finished

private theorem names_codeCpu :
    NamesDescriptor codeCpu 0x2000 (codeCpu.selector .cs) codeAttributes 1 where
  nonnull := by decide
  accepted := .inl rfl
  stored := ⟨0, by decide +kernel⟩
  loads := by
    unfold LarLoads
    decide +kernel

theorem writesDescription_iff_codeRun :
    WritesDescription codeRun.1 .cs codeAttributes 1 ↔
      codeCpu.selector .cs &&& 3 ≠ 1 ∧
        (codeCpu.accessRights (codeCpu.selector .cs)).extractLsb' 16 4 = 0 := by
  obtain ⟨status, path⟩ := path_codeRun
  exact writesDescription_iff path names_codeCpu

/-- The undefined bits of `LAR` reach the reserved bits of the access rights. -/
theorem not_writesDescription : ¬ ∀ (cpu : ProcessorState) (depth : ℕ)
    (events : List (Event interface)) (status : NTSTATUS) (ldt : Address)
    (register : SegmentRegister) (attributes : DescriptorAttributes) (system : BitVec 1),
    Path cpu.running (populateActiveVMCS depth) () events (.done status) () →
    NamesDescriptor cpu ldt (cpu.selector register) attributes system →
      WritesDescription events register attributes system := by
  intro described
  obtain ⟨status, path⟩ := path_codeRun
  have writes := described codeCpu 2 _ status 0x2000 .cs codeAttributes 1 path names_codeCpu
  have reserved := ((writesDescription_iff_describes path).mp writes).reserved
  revert reserved
  decide +kernel

end Guypervisor.Soundness.AccessRights
