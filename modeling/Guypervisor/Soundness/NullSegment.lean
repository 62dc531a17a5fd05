import Guypervisor.Soundness.SegmentBase

/-! # Null selectors

A null selector names slot 0 of the GDT, at any privilege level. `ReadGDTEntry` tests the whole
selector and so takes one with a privilege level for a selector of a segment; and the null
descriptor, whose S bit is clear, is decoded as a system descriptor that reaches into slot 1.
-/

namespace Guypervisor.Soundness.NullSegment

open Effects Model Population SelectorTables SegmentBase

/-- The selector names slot 0 of the GDT. -/
def IsNull (selector : BitVec 16) : Prop := selector >>> 3 = 0 ∧ tableIndicator selector = false

instance (selector : BitVec 16) : Decidable (IsNull selector) := inferInstanceAs (Decidable (_ ∧ _))

/-- `ReadGDTEntry` returns the entry of a segment that is not usable: bit 16 alone of the access
rights is set, and the base is zero. -/
def ReturnsUnusable (cpu : ProcessorState) (selector : BitVec 16) : Prop :=
  ∃ entry, Returns cpu selector entry ∧ entry.access = 0x10000 ∧ entry.base = 0

variable {cpu : ProcessorState} {selector : BitVec 16}

/-- The null descriptor lies at the base of the GDT. -/
theorem IsNull.offset (null : IsNull selector) : (selector &&& ~~~kRplMask).setWidth 64 = 0#64 := by
  rw [address_of_clear null.2, null.1]
  rfl

/-- The access rights: `LAR` is consulted unless the selector is zero. -/
theorem access_eq_unusable_iff :
    accessRightsWord cpu selector = 0x10000 ↔
      selector = 0 ∨ cpu.accessRights selector >>> 8 = 0x10000 := by
  unfold accessRightsWord
  split
  · rename_i nonzero
    rw [or_iff_right nonzero]
  · rename_i zero
    simp [not_not.mp zero]

private theorem upper_eq_zero_iff (value : BitVec 32) :
    value.setWidth 64 <<< 32 = 0#64 ↔ value = 0 := by
  rw [← BitVec.toNat_inj, ← BitVec.toNat_inj, BitVec.toNat_shiftLeft, BitVec.toNat_setWidth,
    Nat.shiftLeft_eq]
  have bound := value.isLt
  change _ = 0 ↔ value.toNat = 0
  omega

/-- What is read for a null selector when slot 0 is all zero. -/
theorem gdtEntry_of_null (null : IsNull selector) (level : selector &&& 3 ≠ 1)
    (slot : cpu.memory.load64 cpu.gdtr.base = 0) :
    gdtEntry cpu selector =
      ⟨cpu.segmentLimit selector, (cpu.memory.load32 (cpu.gdtr.base + 8)).setWidth 64 <<< 32,
        accessRightsWord cpu selector⟩ := by
  have word : descriptor cpu selector = 0 := by
    rw [descriptor, null.offset, BitVec.add_zero, slot]
  have upper : upperBase cpu selector = cpu.memory.load32 (cpu.gdtr.base + 8) := by
    rw [upperBase, null.offset, BitVec.add_zero]
  have system : GdtEntry.system 0 = 0 := by decide
  have base : GdtEntry.lowBase 0 = 0 := by decide
  rw [gdtEntry, if_neg level, word, upper, if_pos system, base]
  simp

/-- The exact extent of the defect: a null selector gives an unusable segment when slot 1 begins
with a zero doubleword and either the selector is zero or `LAR` leaves just the unusable bit. -/
theorem returnsUnusable_iff (cpu : ProcessorState) (selector : BitVec 16) (null : IsNull selector)
    (level : selector &&& 3 ≠ 1) (slot : cpu.memory.load64 cpu.gdtr.base = 0) :
    ReturnsUnusable cpu selector ↔
      cpu.memory.load32 (cpu.gdtr.base + 8) = 0 ∧
        (selector = 0 ∨ cpu.accessRights selector >>> 8 = 0x10000) := by
  rw [← access_eq_unusable_iff, ← upper_eq_zero_iff]
  constructor
  · rintro ⟨entry, returns, access, base⟩
    obtain rfl := returns.eq
    rw [gdtEntry_of_null null level slot] at access base
    exact ⟨base, access⟩
  · rintro ⟨base, access⟩
    refine ⟨gdtEntry cpu selector, returns_gdtEntry cpu selector, ?_⟩
    rw [gdtEntry_of_null null level slot]
    exact ⟨access, base⟩

/-- A GDT at `0x1000` with a null descriptor and a flat code descriptor. -/
def flatCpu : ProcessorState :=
  { (default : ProcessorState) with
    gdtr := ⟨0xF, 0x1000⟩
    memory := fun address =>
      if address - 0x1000 < 8 then 0
      else (0x00CF9A000000FFFF : BitVec 64).extractLsb' (8 * (address % 8).toNat) 8 }

theorem returnsUnusable_iff_flatCpu :
    ReturnsUnusable flatCpu 3 ↔
      flatCpu.memory.load32 (flatCpu.gdtr.base + 8) = 0 ∧
        ((3 : BitVec 16) = 0 ∨ flatCpu.accessRights 3 >>> 8 = 0x10000) :=
  returnsUnusable_iff flatCpu 3 (by decide) (by decide) (by decide +kernel)

/-- The base of the zero selector has the first doubleword of the code descriptor in it. -/
theorem not_returnsUnusable : ¬ ∀ (cpu : ProcessorState) (selector : BitVec 16),
    IsNull selector → selector &&& 3 ≠ 1 → cpu.memory.load64 cpu.gdtr.base = 0 →
      ReturnsUnusable cpu selector := by
  intro unusable
  obtain ⟨entry, returns, -, base⟩ :=
    unusable flatCpu 0 (by decide) (by decide) (by decide +kernel)
  obtain rfl := returns.eq
  revert base
  decide +kernel

end Guypervisor.Soundness.NullSegment
