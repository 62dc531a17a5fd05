import Guypervisor.Soundness.Population

/-! # The host state a VM exit loads

In 64-bit mode the FS and GS bases are model-specific registers, and the TR base is the 64-bit
base of the descriptor TR names. `PopulateActiveVMCS` takes the GS base from its register, as
hardware does, but the FS base from the descriptor FS names, and a descriptor's base without its
upper half when the descriptor is not marked as a system descriptor. The state a VM exit loads is
then the state the function ran in exactly when these agree.
-/

namespace Guypervisor.Soundness.HostReturn

open Effects Effects.Program Model Code Proofs Population

/-- The registers a VM exit loads from the host-state area. -/
structure HostState where
  cr0 : BitVec 64
  cr3 : BitVec 64
  cr4 : BitVec 64
  fsBase : BitVec 64
  gsBase : BitVec 64
  trBase : BitVec 64
  gdtrBase : BitVec 64
  idtrBase : BitVec 64
  sysenterCs : BitVec 64
  sysenterEsp : BitVec 64
  sysenterEip : BitVec 64
deriving DecidableEq, Repr

/-- What a VM exit loads. -/
def loaded (vmcs : Vmcs) : HostState where
  cr0 := vmcs.read .kHostCr0
  cr3 := vmcs.read .kHostCr3
  cr4 := vmcs.read .kHostCr4
  fsBase := vmcs.read .kHostFsBase
  gsBase := vmcs.read .kHostGsBase
  trBase := vmcs.read .kHostTrBase
  gdtrBase := vmcs.read .kHostGdtrBase
  idtrBase := vmcs.read .kHostIdtrBase
  sysenterCs := vmcs.read .kHostIa32SysenterCs
  sysenterEsp := vmcs.read .kHostIa32SysenterEsp
  sysenterEip := vmcs.read .kHostIa32SysenterEip

section Descriptor

variable (memory : Memory) (address : Address)

/-- The base of the descriptor at an address: bytes 7, 4, 3 and 2. -/
def segmentBase : BitVec 32 :=
  memory (address + 7) ++ memory (address + 4) ++ (memory (address + 3) ++ memory (address + 2))

/-- The 64-bit base of a system descriptor, whose upper half is bytes 8 to 11. -/
def systemBase : BitVec 64 := memory.load32 (address + 8) ++ segmentBase memory address

/-- The descriptor's S bit, bit 4 of byte 5, is clear. -/
def IsSystem : Prop := (memory (address + 5)).extractLsb' 4 1 = 0

instance : Decidable (IsSystem memory address) := inferInstanceAs (Decidable (_ = _))

theorem base0_load64 :
    GdtEntry.base0 (memory.load64 address) = memory (address + 3) ++ memory (address + 2) := by
  simp (disch := omega) only [GdtEntry.base0, Memory.load64, Memory.load32,
    BitVec.extractLsb'_append_eq_of_add_le, BitVec.extractLsb'_append_eq_of_le]
  exact BitVec.extractLsb'_eq_self

theorem base1_load64 : GdtEntry.base1 (memory.load64 address) = memory (address + 4) := by
  simp (disch := omega) only [GdtEntry.base1, Memory.load64,
    BitVec.extractLsb'_append_eq_of_add_le, BitVec.extractLsb'_append_eq_of_le]
  exact BitVec.extractLsb'_eq_self

theorem base2_load64 : GdtEntry.base2 (memory.load64 address) = memory (address + 7) := by
  simp (disch := omega) only [GdtEntry.base2, Memory.load64,
    BitVec.extractLsb'_append_eq_of_le]
  exact BitVec.extractLsb'_eq_self

theorem system_load64 :
    GdtEntry.system (memory.load64 address) = 0 ↔ IsSystem memory address := by
  simp (disch := omega) only [GdtEntry.system, IsSystem, Memory.load64,
    BitVec.extractLsb'_append_eq_of_add_le, BitVec.extractLsb'_append_eq_of_le]

theorem lowBase_load64 :
    GdtEntry.lowBase (memory.load64 address) = (segmentBase memory address).setWidth 64 := by
  have joined : (segmentBase memory address).setWidth 32 = _ :=
    BitVec.setWidth_append_append_eq_shiftLeft_setWidth_or
  rw [BitVec.setWidth_eq] at joined
  rw [GdtEntry.lowBase, base0_load64, base1_load64, base2_load64, joined]

theorem lowBase_or_upper :
    (segmentBase memory address).setWidth 64 |||
      ((memory.load32 (address + 8)).setWidth 64 <<< 32) = systemBase memory address := by
  have joined : (systemBase memory address).setWidth 64 = _ :=
    BitVec.setWidth_append_eq_shiftLeft_setWidth_or
  rw [BitVec.setWidth_eq] at joined
  rw [joined, BitVec.or_comm]

end Descriptor

/-- Where the descriptor a selector names lies in the GDT. -/
def descriptorAddress (cpu : ProcessorState) (selector : BitVec 16) : Address :=
  cpu.gdtr.base + (selector &&& ~~~7).setWidth 64

/-- The selector's TI bit is clear: it names a descriptor of the GDT. -/
def NamesGdt (selector : BitVec 16) : Prop := selector &&& 4 = 0

instance (selector : BitVec 16) : Decidable (NamesGdt selector) := inferInstanceAs (Decidable (_ = _))

/-- Clearing the RPL of such a selector leaves the offset of its descriptor. -/
theorem NamesGdt.clear_rpl {selector : BitVec 16} (names : NamesGdt selector) :
    selector &&& ~~~kRplMask = selector &&& ~~~7 := by
  have split : ~~~kRplMask = ~~~7 ||| 4 := by decide
  rw [split, BitVec.and_or_distrib_left, names]
  exact BitVec.or_zero

/-- The registers a VM exit is to give back. -/
def registers (cpu : ProcessorState) : HostState where
  cr0 := cpu.cr0
  cr3 := cpu.cr3
  cr4 := cpu.cr4
  fsBase := cpu.msr IntelMsr.kIa32FsBase.address
  gsBase := cpu.msr IntelMsr.kIa32GsBase.address
  trBase := systemBase cpu.memory (descriptorAddress cpu (cpu.selector .tr))
  gdtrBase := cpu.gdtr.base
  idtrBase := cpu.idtr.base
  sysenterCs := cpu.msr IntelMsr.kIa32SysenterCs.address
  sysenterEsp := cpu.msr IntelMsr.kIa32SysenterEsp.address
  sysenterEip := cpu.msr IntelMsr.kIa32SysenterEip.address

/-- `IA32_FS_BASE` is the base in the descriptor FS names: its 64-bit base if it is a system
descriptor, its 32-bit base otherwise, and zero for a selector of privilege level 1. -/
def FsBaseInDescriptor (cpu : ProcessorState) : Prop :=
  cpu.msr IntelMsr.kIa32FsBase.address =
    if cpu.selector .fs &&& 3 = 1 then 0
    else if IsSystem cpu.memory (descriptorAddress cpu (cpu.selector .fs)) then
      systemBase cpu.memory (descriptorAddress cpu (cpu.selector .fs))
    else (segmentBase cpu.memory (descriptorAddress cpu (cpu.selector .fs))).setWidth 64

/-- The descriptor TR names is a system descriptor or has no upper half; for a selector of
privilege level 1, its base is zero. -/
def TrBaseRead (cpu : ProcessorState) : Prop :=
  if cpu.selector .tr &&& 3 = 1 then
    systemBase cpu.memory (descriptorAddress cpu (cpu.selector .tr)) = 0
  else IsSystem cpu.memory (descriptorAddress cpu (cpu.selector .tr)) ∨
    cpu.memory.load32 (descriptorAddress cpu (cpu.selector .tr) + 8) = 0

/-- `IA32_SYSENTER_CS` is a doubleword. -/
def SysenterCsFits (cpu : ProcessorState) : Prop :=
  (cpu.msr IntelMsr.kIa32SysenterCs.address).toNat < 2 ^ 32

/-- The base `ReadGDTEntry` finds. -/
theorem base_gdtEntry (cpu : ProcessorState) {selector : BitVec 16} (names : NamesGdt selector) :
    (gdtEntry cpu selector).base =
      if selector &&& 3 = 1 then 0
      else if IsSystem cpu.memory (descriptorAddress cpu selector) then
        systemBase cpu.memory (descriptorAddress cpu selector)
      else (segmentBase cpu.memory (descriptorAddress cpu selector)).setWidth 64 := by
  unfold gdtEntry descriptor upperBase
  rw [names.clear_rpl]
  change (if _ then _ else if GdtEntry.system (cpu.memory.load64 (descriptorAddress cpu selector)) = 0
    then _ else _ : VmxGdtEntry).base = _
  split
  · rfl
  · by_cases system : IsSystem cpu.memory (descriptorAddress cpu selector)
    · rw [if_pos ((system_load64 _ _).mpr system), if_pos system, ← lowBase_or_upper,
        ← lowBase_load64]
      rfl
    · rw [if_neg (mt (system_load64 _ _).mp system), if_neg system, ← lowBase_load64]
      rfl

/-- What a VM exit loads after a finished run. -/
theorem loaded_of_path {cpu : ProcessorState} {depth : ℕ} {start final : Vmcs}
    {events : List (Event interface)} {status : NTSTATUS}
    (path : Path cpu.populating (populateActiveVMCS depth) start events (.done status) final) :
    loaded final =
      { registers cpu with
        fsBase := (gdtEntry cpu (cpu.selector .fs)).base
        trBase := (gdtEntry cpu (cpu.selector .tr)).base
        sysenterCs :=
          ((cpu.msr IntelMsr.kIa32SysenterCs.address).setWidth 32).setWidth 64 } := by
  have natural (field : VmcsFieldEncoding) (value : BitVec 64)
      (width : fieldBits field.encoding = 64) (written : put field value ∈ populateWrites cpu) :
      final.read field = value := by
    rw [read_of_path path written, Vmcs.kept_of_natural width]
  have cr0 := natural .kHostCr0 cpu.cr0 (by decide)
    (by simp [populateWrites, controlRegistersWrites])
  have cr3 := natural .kHostCr3 cpu.cr3 (by decide)
    (by simp [populateWrites, controlRegistersWrites])
  have cr4 := natural .kHostCr4 cpu.cr4 (by decide)
    (by simp [populateWrites, controlRegistersWrites])
  have fs := natural .kHostFsBase (gdtEntry cpu (cpu.selector .fs)).base (by decide)
    (by simp [populateWrites, basedSegmentWrites])
  have gs := natural .kHostGsBase (cpu.msr IntelMsr.kIa32GsBase.address) (by decide)
    (by simp [populateWrites, gsWrites])
  have tr := natural .kHostTrBase (gdtEntry cpu (cpu.selector .tr)).base (by decide)
    (by simp [populateWrites, basedSegmentWrites])
  have gdtr := natural .kHostGdtrBase cpu.gdtr.base (by decide)
    (by simp [populateWrites, descriptorTablesWrites])
  have idtr := natural .kHostIdtrBase cpu.idtr.base (by decide)
    (by simp [populateWrites, descriptorTablesWrites])
  have esp := natural .kHostIa32SysenterEsp (cpu.msr IntelMsr.kIa32SysenterEsp.address) (by decide)
    (by simp [populateWrites, sysenterWrites])
  have eip := natural .kHostIa32SysenterEip (cpu.msr IntelMsr.kIa32SysenterEip.address) (by decide)
    (by simp [populateWrites, sysenterWrites])
  have cs : final.read .kHostIa32SysenterCs =
      ((cpu.msr IntelMsr.kIa32SysenterCs.address).setWidth 32).setWidth 64 := by
    have written : put .kHostIa32SysenterCs
        (((cpu.msr IntelMsr.kIa32SysenterCs.address).setWidth 32).setWidth 64) ∈
        populateWrites cpu := by
      simp [populateWrites, sysenterWrites]
    rw [read_of_path path written]
    simp [Vmcs.kept, fieldBits, VmcsFieldEncoding.encoding]
  simp only [loaded, registers, cr0, cr3, cr4, fs, gs, tr, gdtr, idtr, cs, esp, eip]

/-- The base taken for TR is the base TR has exactly when the whole of it is read. -/
theorem base_tr_iff (cpu : ProcessorState) (names : NamesGdt (cpu.selector .tr)) :
    (gdtEntry cpu (cpu.selector .tr)).base =
      systemBase cpu.memory (descriptorAddress cpu (cpu.selector .tr)) ↔ TrBaseRead cpu := by
  rw [base_gdtEntry cpu names, TrBaseRead]
  split
  · exact eq_comm
  · split
    · rename_i system
      simp [system]
    · rename_i code
      have widened : ∀ value : BitVec 32, value.setWidth 64 = (0 : BitVec 32) ++ value := by
        intro value
        exact BitVec.setWidth_eq_append (by omega)
      rw [widened, systemBase, BitVec.append_left_inj, eq_comm]
      simp [code]

/-- A doubleword survives the 32-bit field. -/
theorem sysenterCs_iff (cpu : ProcessorState) :
    ((cpu.msr IntelMsr.kIa32SysenterCs.address).setWidth 32).setWidth 64 =
      cpu.msr IntelMsr.kIa32SysenterCs.address ↔ SysenterCsFits cpu := by
  rw [SysenterCsFits, ← BitVec.toNat_inj, BitVec.toNat_setWidth, BitVec.toNat_setWidth]
  omega

/-- A VM exit gives back the registers exactly when the FS base is the one in FS's descriptor,
the TR base is read whole, and `IA32_SYSENTER_CS` fits its field. -/
theorem loaded_eq_registers_iff {cpu : ProcessorState} {depth : ℕ} {start final : Vmcs}
    {events : List (Event interface)} {status : NTSTATUS}
    (fsNames : NamesGdt (cpu.selector .fs)) (trNames : NamesGdt (cpu.selector .tr))
    (path : Path cpu.populating (populateActiveVMCS depth) start events (.done status) final) :
    loaded final = registers cpu ↔
      FsBaseInDescriptor cpu ∧ TrBaseRead cpu ∧ SysenterCsFits cpu := by
  rw [loaded_of_path path, FsBaseInDescriptor, ← base_gdtEntry cpu fsNames,
    ← base_tr_iff cpu trNames, ← sysenterCs_iff cpu, eq_comm (a := cpu.msr _)]
  simp [registers]

/-- A processor whose thread has an FS base of its own: FS names a flat data descriptor at
`0x1050`, and TR a system descriptor at `0x1040`. -/
def threadCpu : ProcessorState :=
  { (default : ProcessorState) with
    msr := fun address => if address = IntelMsr.kIa32FsBase.address then 0x7FFE0000 else 0
    selector := fun register =>
      match register with
      | .fs => 0x53
      | .tr => 0x40
      | _ => 0x10
    gdtr := ⟨0x5F, 0x1000⟩
    memory := fun address =>
      if address = 0x1055 then 0xF3 else if address = 0x1045 then 0x8B else 0 }

/-- `PopulateActiveVMCS` on it, from a VMCS of zeros. -/
def threadRun : List (Event interface) × Code NTSTATUS × Vmcs := populateRun threadCpu fun _ => 0

private theorem finishes_threadRun : threadRun.2.1.head? = none := by decide +kernel

theorem loaded_eq_registers_iff_threadRun :
    loaded threadRun.2.2 = registers threadCpu ↔
      FsBaseInDescriptor threadCpu ∧ TrBaseRead threadCpu ∧ SysenterCsFits threadCpu := by
  obtain ⟨_, path⟩ := path_populateRun finishes_threadRun
  have fsNames : NamesGdt (threadCpu.selector .fs) := by decide
  have trNames : NamesGdt (threadCpu.selector .tr) := by decide
  exact loaded_eq_registers_iff fsNames trNames path

/-- The host's FS base is lost. -/
theorem not_loaded_eq_registers : ¬ ∀ (cpu : ProcessorState) (depth : ℕ) (start final : Vmcs)
    (events : List (Event interface)) (status : NTSTATUS),
    (∀ register, NamesGdt (cpu.selector register)) →
    Path cpu.populating (populateActiveVMCS depth) start events (.done status) final →
      loaded final = registers cpu := by
  intro returned
  obtain ⟨status, path⟩ := path_populateRun finishes_threadRun
  have names : ∀ register, NamesGdt (threadCpu.selector register) := by
    intro register
    cases register <;> decide
  have same := returned threadCpu 2 _ _ _ status names path
  have fsBase := congrArg HostState.fsBase same
  rw [loaded_of_path path] at fsBase
  revert fsBase
  decide +kernel

end Guypervisor.Soundness.HostReturn
