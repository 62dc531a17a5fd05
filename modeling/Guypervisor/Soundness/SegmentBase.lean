import Guypervisor.Model.Descriptor
import Guypervisor.Soundness.Population
import Guypervisor.Soundness.SelectorTables

/-! # Segment bases

On a processor in a fixed state `ReadGDTEntry` returns one entry. The base in it is the base
encoded in the descriptor the selector names: 32 bits of a code or data descriptor, whatever
follows the descriptor, and 64 bits of a system descriptor.
-/

namespace Guypervisor.Soundness.SegmentBase

open Effects Effects.Program Model Code Proofs Population SelectorTables

/-- `ReadGDTEntry` ends, and always with this entry. -/
def Returns (cpu : ProcessorState) (selector : BitVec 16) (entry : VmxGdtEntry) : Prop :=
  ∀ other, Reaches cpu.running (readGDTEntry cpu.gdtr selector) () (.done other) () ↔ other = entry

variable {cpu : ProcessorState} {selector : BitVec 16}

/-- An operation that reads the processor's state is answered. -/
private theorem reaches_answer {α : Type} {op : Op} {next : op.Response → Code α} {rest : Code α}
    (answer : op.Response) (answered : cpu.reading op = some answer)
    (tail : Reaches cpu.running (next answer) () rest ()) :
    Reaches cpu.running (ask op >>= next) () rest () := by
  have allowed : cpu.running.allows () op answer := by
    intro expected given
    rw [answered] at given
    exact Option.some.inj given
  exact tail.step answer allowed

private theorem reaches_readAccessRights :
    Reaches cpu.running (readAccessRights selector) () (.done (accessRightsWord cpu selector))
      () := by
  unfold readAccessRights accessRightsWord
  split
  · apply reaches_answer _ rfl
    exact Reaches.refl _ _
  · exact Reaches.refl _ _

private theorem reaches_readGDTEntry :
    Reaches cpu.running (readGDTEntry cpu.gdtr selector) () (.done (gdtEntry cpu selector)) () := by
  unfold readGDTEntry gdtEntry
  split
  · exact Reaches.refl _ _
  · apply reaches_answer _ rfl
    apply Reaches.andThen reaches_readAccessRights
    apply reaches_answer _ rfl
    change Reaches _ (if (descriptor cpu selector).system = 0 then _ else _) _ _ _
    split
    · apply reaches_answer _ rfl
      exact Reaches.refl _ _
    · exact Reaches.refl _ _

theorem returns_gdtEntry (cpu : ProcessorState) (selector : BitVec 16) :
    Returns cpu selector (gdtEntry cpu selector) := by
  intro other
  constructor
  · rintro ⟨events, path⟩
    obtain ⟨final, gives, -⟩ := followed (ensures_readGDTEntry cpu ⟨[], [], []⟩ selector) path
    exact gives.1
  · rintro rfl
    exact reaches_readGDTEntry

/-- The entry returned is unique. -/
theorem Returns.eq {entry : VmxGdtEntry} (returns : Returns cpu selector entry) :
    entry = gdtEntry cpu selector :=
  (returns_gdtEntry cpu selector entry).mp ((returns entry).mpr rfl)

/-- The descriptor decoded is the one in the slot the selector names. -/
theorem descriptor_of_clear (clear : tableIndicator selector = false) :
    descriptor cpu selector = cpu.memory.load64 (slotAddress cpu.gdtr selector) := by
  rw [descriptor, address_of_clear clear]
  rfl

theorem upperBase_of_clear (clear : tableIndicator selector = false) :
    upperBase cpu selector = cpu.memory.load32 (slotAddress cpu.gdtr selector + 8) := by
  rw [upperBase, address_of_clear clear]
  rfl

/-- Past a code or data descriptor nothing is read. -/
theorem base_of_holdsSegment (clear : tableIndicator selector = false) (level : selector &&& 3 ≠ 1)
    {base : BitVec 32}
    (holds : cpu.memory.HoldsSegment (slotAddress cpu.gdtr selector) base) :
    (gdtEntry cpu selector).base = base.setWidth 64 := by
  obtain ⟨attributes, word⟩ := holds
  rw [← descriptor_of_clear clear] at word
  rw [gdtEntry, if_neg level]
  simp [word]

theorem base_of_holdsSystem (clear : tableIndicator selector = false) (level : selector &&& 3 ≠ 1)
    {base : BitVec 64} (holds : cpu.memory.HoldsSystem (slotAddress cpu.gdtr selector) base) :
    (gdtEntry cpu selector).base = base := by
  obtain ⟨attributes, word, upper⟩ := holds
  rw [← descriptor_of_clear clear] at word
  rw [← upperBase_of_clear clear] at upper
  have joined : (base.extractLsb' 32 32 ++ base.extractLsb' 0 32).setWidth 64 = _ :=
    BitVec.setWidth_append_eq_shiftLeft_setWidth_or
  rw [BitVec.extractLsb'_append_extractLsb'_eq_extractLsb' (by rfl), BitVec.extractLsb'_eq_self]
    at joined
  rw [BitVec.setWidth_eq, BitVec.or_comm] at joined
  rw [gdtEntry, if_neg level]
  simp [word, upper, ← joined]

/-- Decoding undoes encoding, for selectors of the GDT that are not refused. -/
theorem base_of_readGDTEntry (cpu : ProcessorState) (selector : BitVec 16)
    (clear : tableIndicator selector = false) (level : selector &&& 3 ≠ 1) :
    ∃ entry, Returns cpu selector entry ∧
      (∀ base : BitVec 32, cpu.memory.HoldsSegment (slotAddress cpu.gdtr selector) base →
        entry.base = base.setWidth 64) ∧
      ∀ base : BitVec 64, cpu.memory.HoldsSystem (slotAddress cpu.gdtr selector) base →
        entry.base = base := by
  refine ⟨gdtEntry cpu selector, returns_gdtEntry cpu selector, ?_, ?_⟩
  · intro base holds
    exact base_of_holdsSegment clear level holds
  · intro base holds
    exact base_of_holdsSystem clear level holds

/-- Attributes with all bits set. -/
def fullAttributes : DescriptorAttributes := ⟨-1, -1, -1, -1, -1, -1, -1, -1⟩

/-- Slot 1 at `0x1008` holds a code segment, and slots 2 and 3 a system segment. -/
def tableCpu : ProcessorState :=
  { (default : ProcessorState) with
    gdtr := ⟨0x1F, 0x1000⟩
    memory := fun address =>
      let words : List (BitVec 64) := [0, fullAttributes.encode 1 0x80001234,
        fullAttributes.encode 0 0x80005678, 0xFFFFF800]
      (words.getD ((address - 0x1000) / 8).toNat 0).extractLsb' (8 * (address % 8).toNat) 8 }

theorem base_of_readGDTEntry_tableCpu :
    (∃ entry, Returns tableCpu 0x8 entry ∧ entry.base = 0x80001234) ∧
      ∃ entry, Returns tableCpu 0x13 entry ∧ entry.base = 0xFFFFF80080005678 := by
  constructor
  · obtain ⟨entry, returns, segment, -⟩ :=
      base_of_readGDTEntry tableCpu 0x8 (by decide) (by decide)
    have holds : tableCpu.memory.HoldsSegment (slotAddress tableCpu.gdtr 0x8) 0x80001234 := by
      exact ⟨fullAttributes, by decide +kernel⟩
    exact ⟨entry, returns, segment _ holds⟩
  · obtain ⟨entry, returns, -, system⟩ :=
      base_of_readGDTEntry tableCpu 0x13 (by decide) (by decide)
    have holds : tableCpu.memory.HoldsSystem (slotAddress tableCpu.gdtr 0x13)
        0xFFFFF80080005678 := by
      exact ⟨fullAttributes, by decide +kernel, by decide +kernel⟩
    exact ⟨entry, returns, system _ holds⟩

end Guypervisor.Soundness.SegmentBase
