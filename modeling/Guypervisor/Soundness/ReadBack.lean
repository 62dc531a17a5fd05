import Guypervisor.Proofs.Dump
import Guypervisor.Soundness.Population

/-! # Fields read back as they were computed

`computed` gives, for each field of the guest area that `PopulateActiveVMCS` fills, the value it
computes for the field at the type it computes it at. Neither the writer nor the field nor the
variable `DumpVmcsGuestArea` reads the field into is narrower than that type.
-/

namespace Guypervisor.Soundness.ReadBack

open Effects Effects.Program Model Code Proofs Population

/-- An unsigned value of one of C's integer types. -/
abbrev Computed : Type := (w : ℕ) × BitVec w

/-- What is computed for a field. -/
abbrev Entries : Type := List (VmcsFieldEncoding × Computed)

/-- The writes that store computed values. -/
def stores (entries : Entries) : FieldWrites :=
  entries.map fun entry => put entry.1 (entry.2.2.setWidth 64)

section Sections

variable (cpu : ProcessorState)

def computedControls : Entries :=
  [(.kGuestVmcsLinkPtrFull, ⟨64, -1⟩),
   (.kGuestActivityState, ⟨32, 0⟩),
   (.kGuestInterruptibilityState, ⟨32, 0⟩)]

def computedSegment (fields : SegmentFields) (selector : BitVec 16) : Entries :=
  [(fields.guestSelector, ⟨16, selector⟩),
   (fields.guestLimit, ⟨32, (gdtEntry cpu selector).limit⟩),
   (fields.guestAccessRights, ⟨32, (gdtEntry cpu selector).access⟩),
   (fields.guestBase, ⟨64, (gdtEntry cpu selector).base⟩)]

def computedGs (selector : BitVec 16) : Entries :=
  [(.kGuestGsSelector, ⟨16, selector⟩),
   (.kGuestGsLimit, ⟨32, (gdtEntry cpu selector).limit⟩),
   (.kGuestGsAccessRights, ⟨32, (gdtEntry cpu selector).access⟩),
   (.kGuestGsBase, ⟨64, cpu.msr IntelMsr.kIa32GsBase.address⟩)]

def computedLdtr (selector : BitVec 16) : Entries :=
  [(.kGuestLdtrSelector, ⟨16, selector⟩),
   (.kGuestLdtrLimit, ⟨32, (gdtEntry cpu selector).limit⟩),
   (.kGuestLdtrAccessRights, ⟨32, (gdtEntry cpu selector).access⟩),
   (.kGuestLdtrBase, ⟨64, (gdtEntry cpu selector).base⟩)]

def computedDescriptorTables : Entries :=
  [(.kGuestGdtrLimit, ⟨16, cpu.gdtr.limit⟩),
   (.kGuestGdtrBase, ⟨64, cpu.gdtr.base⟩),
   (.kGuestIdtrLimit, ⟨16, cpu.idtr.limit⟩),
   (.kGuestIdtrBase, ⟨64, cpu.idtr.base⟩)]

def computedControlRegisters : Entries :=
  [(.kGuestCr0, ⟨64, guestCr0 cpu⟩),
   (.kGuestCr3, ⟨64, cpu.cr3⟩),
   (.kGuestCr4, ⟨64, guestCr4 cpu⟩),
   (.kGuestDr7, ⟨64, cpu.dr7⟩)]

def computedContexts : Entries :=
  [(.kGuestRsp, ⟨64, cpu.arrays .guestStack + 4096 - 8⟩),
   (.kGuestRip, ⟨64, cpu.symbols .guestCode⟩),
   (.kGuestRFlags, ⟨64, cpu.rflags⟩)]

def computedSysenter : Entries :=
  -- The source casts the register to `UINT32` itself, before any writer is called.
  [(.kGuestIa32SysenterCs, ⟨32, (cpu.msr IntelMsr.kIa32SysenterCs.address).setWidth 32⟩),
   (.kGuestIa32SysenterEsp, ⟨64, cpu.msr IntelMsr.kIa32SysenterEsp.address⟩),
   (.kGuestIa32SysenterEip, ⟨64, cpu.msr IntelMsr.kIa32SysenterEip.address⟩)]

/-- What is computed from the processor's state for the fields that are dumped. -/
def computed : Entries :=
  computedControls ++ [(.kGuestPendingDebugExceptions, ⟨64, 0⟩)] ++
    computedSegment cpu csFields (cpu.selector .cs) ++
    computedSegment cpu ssFields (cpu.selector .ss) ++
    computedSegment cpu dsFields (cpu.selector .ds) ++
    computedSegment cpu esFields (cpu.selector .es) ++
    computedSegment cpu fsFields (cpu.selector .fs) ++ computedGs cpu (cpu.selector .gs) ++
    computedSegment cpu trFields (cpu.selector .tr) ++ computedLdtr cpu (cpu.selector .ldtr) ++
    computedDescriptorTables cpu ++ computedControlRegisters cpu ++ computedContexts cpu ++
    computedSysenter cpu

theorem stores_segment (fields : SegmentFields) (selector : BitVec 16) :
    stores (computedSegment cpu fields selector) ⊆ segmentWrites cpu fields selector := by
  simp [stores, computedSegment, segmentWrites]

theorem stores_basedSegment (fields : SegmentFields) (hostBase : VmcsFieldEncoding)
    (selector : BitVec 16) :
    stores (computedSegment cpu fields selector) ⊆
      basedSegmentWrites cpu fields hostBase selector := by
  simp [stores, computedSegment, basedSegmentWrites]

theorem stores_descriptorTables :
    stores (computedDescriptorTables cpu) ⊆ descriptorTablesWrites cpu := by
  have widened (limit : BitVec 16) : (limit.setWidth 32).setWidth 64 = limit.setWidth 64 := by
    apply BitVec.eq_of_toNat_eq
    simp only [BitVec.toNat_setWidth]
    omega
  simp [stores, computedDescriptorTables, descriptorTablesWrites, widened]

omit cpu in
private theorem stores_append {first second : Entries} {left right : FieldWrites}
    (one : stores first ⊆ left) (other : stores second ⊆ right) :
    stores (first ++ second) ⊆ left ++ right := by
  rw [stores, List.map_append, List.append_subset]
  constructor
  · exact List.subset_append_of_subset_left _ one
  · exact List.subset_append_of_subset_right _ other

/-- What is computed is written. -/
theorem stores_computed : stores (computed cpu) ⊆ populateWrites cpu := by
  have controls : stores computedControls ⊆ controlsWrites cpu := by
    simp [stores, computedControls, controlsWrites]
  have gs : stores (computedGs cpu (cpu.selector .gs)) ⊆ gsWrites cpu (cpu.selector .gs) := by
    simp [stores, computedGs, gsWrites]
  have ldtr : stores (computedLdtr cpu (cpu.selector .ldtr)) ⊆
      ldtrWrites cpu (cpu.selector .ldtr) := by
    simp [stores, computedLdtr, ldtrWrites]
  have controlRegisters :
      stores (computedControlRegisters cpu) ⊆ controlRegistersWrites cpu := by
    simp [stores, computedControlRegisters, controlRegistersWrites]
  have contexts : stores (computedContexts cpu) ⊆ contextsWrites cpu := by
    simp [stores, computedContexts, contextsWrites]
  have sysenter : stores (computedSysenter cpu) ⊆ sysenterWrites cpu := by
    simp [stores, computedSysenter, sysenterWrites]
  refine stores_append ?_ sysenter
  refine stores_append ?_ contexts
  refine stores_append ?_ controlRegisters
  refine stores_append ?_ (stores_descriptorTables cpu)
  refine stores_append ?_ ldtr
  refine stores_append ?_ (stores_basedSegment cpu trFields .kHostTrBase _)
  refine stores_append ?_ gs
  refine stores_append ?_ (stores_basedSegment cpu fsFields .kHostFsBase _)
  iterate 4 refine stores_append ?_ (stores_segment cpu _ _)
  exact stores_append controls (List.Subset.refl _)

end Sections

variable {cpu : ProcessorState}

/-- The fields, and the types of their values, are the same on every processor. -/
theorem types_computed (cpu other : ProcessorState) :
    (computed cpu).map (fun entry => (entry.1, entry.2.1)) =
      (computed other).map fun entry => (entry.1, entry.2.1) := by
  simp only [computed, computedControls, computedSegment, computedGs, computedLdtr,
    computedDescriptorTables, computedControlRegisters, computedContexts, computedSysenter,
    List.map_append, List.map_cons, List.map_nil]

/-- No value is wider than its field, nor than the variable its field is dumped into. -/
theorem fits_computed {field : VmcsFieldEncoding} {value : Computed}
    (computes : (field, value) ∈ computed cpu) :
    value.1 ≤ fieldBits field.encoding ∧
      ∀ destination, (field, destination) ∈ dumpReads → value.1 ≤ destination.bits := by
  have widths : ∀ entry ∈ (computed default).map fun entry => (entry.1, entry.2.1),
      entry.2 ≤ fieldBits entry.1.encoding ∧
        ∀ read ∈ dumpReads, read.1 = entry.1 → entry.2 ≤ read.2.bits := by
    decide +kernel
  have member : (field, value.1) ∈ (computed cpu).map fun entry => (entry.1, entry.2.1) :=
    List.mem_map.mpr ⟨_, computes, rfl⟩
  rw [types_computed cpu default] at member
  obtain ⟨fits, reads⟩ := widths _ member
  refine ⟨fits, ?_⟩
  intro destination dumped
  exact reads _ dumped rfl

/-- Every field that is written and dumped is accounted for. -/
theorem computed_of_dumped {field : VmcsFieldEncoding} {destination : DumpVariable}
    (dumped : (field, destination) ∈ dumpReads) (written : field ∈ (populateWrites cpu).keys) :
    ∃ value, (field, value) ∈ computed cpu := by
  have accounted : ∀ read ∈ dumpReads, read.1 ∈ (populateWrites default).keys →
      ∃ entry ∈ (computed default).map fun entry => (entry.1, entry.2.1), entry.1 = read.1 := by
    decide +kernel
  rw [keys_populateWrites cpu default] at written
  obtain ⟨entry, member, rfl⟩ := accounted _ dumped written
  rw [types_computed default cpu] at member
  obtain ⟨⟨field, value⟩, computes, rfl⟩ := List.mem_map.mp member
  exact ⟨value, computes⟩

/-- A VMCS that stays current, and whose fields can be read. -/
def readable : Environment interface Vmcs :=
  activeVmcs.restrict fun _ op response =>
    match op, response with
    | .vmread _, (outcome, _) => outcome = .succeed
    | _, _ => True

/-- `ReadVMCSFieldGeneric` ends with a success and a value, and with nothing else. -/
def ReadsBack (vmcs : Vmcs) (depth : ℕ) {w : ℕ} (field : VmcsFieldEncoding) (prior value : BitVec w) :
    Prop :=
  ∀ result final,
    Reaches readable (readVMCSFieldGeneric depth field (some prior)) vmcs (.done result) final ↔
      result = (statusSuccess, some value) ∧ final = vmcs

theorem readsBack_read (vmcs : Vmcs) (depth : ℕ) {w : ℕ} (field : VmcsFieldEncoding)
    (prior : BitVec w) : ReadsBack vmcs depth field prior ((vmcs.read field).setWidth w) := by
  intro result final
  constructor
  · rintro ⟨events, path⟩
    obtain ⟨⟨outcome, value⟩, later, rfl, allowed, rest⟩ := path_ask_bind path
    obtain ⟨agrees, rfl⟩ : (outcome = .succeed → value = vmcs.read field) ∧ outcome = .succeed :=
      allowed
    obtain rfl := agrees rfl
    obtain ⟨-, same, rfl⟩ := rest.of_done
    exact ⟨Program.done.inj same, rfl⟩
  · rintro ⟨rfl, rfl⟩
    have allowed : readable.allows final (.vmread field) (.succeed, final.read field) :=
      ⟨fun _ => rfl, rfl⟩
    exact Reaches.step (P := interface) _ allowed (Reaches.refl _ _)

/-- After a finished run a field holds what was computed for it. -/
theorem read_of_computed {depth : ℕ} {start final : Vmcs} {events : List (Event interface)}
    {status : NTSTATUS} {field : VmcsFieldEncoding} {value : Computed}
    (path : Path cpu.populating (populateActiveVMCS depth) start events (.done status) final)
    (computes : (field, value) ∈ computed cpu) : final.read field = value.2.setWidth 64 := by
  have stored : put field (value.2.setWidth 64) ∈ stores (computed cpu) :=
    List.mem_map.mpr ⟨_, computes, rfl⟩
  rw [read_of_path path (stores_computed cpu stored), Vmcs.kept_of_fits (fits_computed computes).1]

/-- A field that is written and dumped reads back as it was computed, at the type of the dump. -/
theorem readsBack_of_path {depth : ℕ} {start final : Vmcs} {events : List (Event interface)}
    {status : NTSTATUS} {field : VmcsFieldEncoding} {destination : DumpVariable}
    (path : Path cpu.populating (populateActiveVMCS depth) start events (.done status) final)
    (dumped : (field, destination) ∈ dumpReads) (written : field ∈ (writesOf events).keys) :
    (∃ value, (field, value) ∈ computed cpu) ∧
      ∀ value, (field, value) ∈ computed cpu →
        ∀ (room : ℕ) (prior : BitVec destination.bits), ∃ result : BitVec destination.bits,
          ReadsBack final room field prior result ∧ result.toNat = value.2.toNat := by
  obtain ⟨running, -, -⟩ := replayed path
  rw [(ended_of_path running).1] at written
  refine ⟨computed_of_dumped dumped written, ?_⟩
  intro value computes room prior
  obtain ⟨-, reads⟩ := fits_computed computes
  have narrow := reads destination dumped
  refine ⟨_, readsBack_read final room field prior, ?_⟩
  rw [read_of_computed path computes, BitVec.toNat_setWidth, BitVec.toNat_setWidth]
  have bound := value.2.isLt
  have wide : (2 : ℕ) ^ value.1 ≤ 2 ^ destination.bits := Nat.pow_le_pow_right (by omega) narrow
  have whole : (2 : ℕ) ^ destination.bits ≤ 2 ^ 64 := by
    apply Nat.pow_le_pow_right (by omega)
    cases destination <;> decide
  rw [Nat.mod_eq_of_lt (by omega), Nat.mod_eq_of_lt (by omega)]

/-- A processor with a code descriptor at `0x1008` whose registers use all 64 bits. -/
def wideCpu : ProcessorState :=
  { (default : ProcessorState) with
    cr3 := 0xFEDCBA9876543210
    msr := fun _ => -1
    selector := fun _ => 8
    gdtr := ⟨0xFFFF, 0x1000⟩
    memory := fun _ => 0xFF }

def wideRun : List (Event interface) × Code NTSTATUS × Vmcs := populateRun wideCpu fun _ => 0

theorem readsBack_wideRun :
    (∃ value, (.kGuestCr3, value) ∈ computed wideCpu) ∧
      ∀ value, (.kGuestCr3, value) ∈ computed wideCpu →
        ∀ (room : ℕ) (prior : BitVec 64), ∃ result : BitVec 64,
          ReadsBack wideRun.2.2 room .kGuestCr3 prior result ∧ result.toNat = value.2.toNat := by
  have finished : wideRun.2.1.head? = none := by decide +kernel
  have written : .kGuestCr3 ∈ (writesOf wideRun.1).keys := by decide +kernel
  have dumped : (.kGuestCr3, .value64) ∈ dumpReads := by decide
  obtain ⟨status, path⟩ := path_populateRun finished
  exact readsBack_of_path path dumped written

end Guypervisor.Soundness.ReadBack
