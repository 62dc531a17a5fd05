import Guypervisor.Soundness.FailureReporting

/-! # Selectors of the GDT and of an LDT

Bit 2 of a selector says which table it indexes, bits 1:0 are the privilege level it requests, and
the rest is the index. `ReadGDTEntry` is to refuse the selectors of an LDT, and to decode those of
the GDT at eight times their index. Its test looks at the privilege level instead.
-/

namespace Guypervisor.Soundness.SelectorTables

open Effects Model Code Proofs FailureReporting

/-- The selector indexes an LDT. -/
def tableIndicator (selector : BitVec 16) : Bool := selector.getLsbD 2

/-- Where the GDT has the descriptor a selector names. -/
def slotAddress (gdt : DescriptorTableRegister) (selector : BitVec 16) : Address :=
  gdt.base + 8 * (selector >>> 3).setWidth 64

/-- The exit for selectors of an LDT: nothing is read, and all fields are zero. -/
def LdtExit (events : List (Event interface)) (entry : VmxGdtEntry) : Prop :=
  events = [] ∧ entry = ⟨0, 0, 0⟩

/-- Where descriptors are read. -/
def descriptorReads (events : List (Event interface)) : List Address :=
  events.filterMap fun event =>
    match event with
    | ⟨.load64 address, _⟩ => some address
    | _ => none

/-- Whatever the table, the memory and the processor hold, the function treats the selector as the
processor does. -/
def FollowsTableIndicator (gdt : DescriptorTableRegister) (selector : BitVec 16) : Prop :=
  ∀ events entry, Path anyOutcome (readGDTEntry gdt selector) () events (.done entry) () →
    (LdtExit events entry ↔ tableIndicator selector = true) ∧
      (tableIndicator selector = false → descriptorReads events = [slotAddress gdt selector])

/-- Loading access rights reads no descriptor. -/
private theorem descriptorReads_readAccessRights {selector : BitVec 16}
    {events : List (Event interface)} {access : BitVec 32}
    (path : Path anyOutcome (readAccessRights selector) () events (.done access) ()) :
    descriptorReads events = [] := by
  unfold readAccessRights at path
  split at path
  · obtain ⟨rights, later, rfl, -, rest⟩ := path_ask_bind path
    obtain ⟨rfl, -, -⟩ := rest.of_done
    rfl
  · obtain ⟨rfl, -, -⟩ := path.of_done
    rfl

/-- Past the test one descriptor is read, at the selector without its two low bits. -/
theorem descriptorReads_of_path {gdt : DescriptorTableRegister} {selector : BitVec 16}
    {events : List (Event interface)} {entry : VmxGdtEntry} (past : selector &&& 3 ≠ 1)
    (path : Path anyOutcome (readGDTEntry gdt selector) () events (.done entry) ()) :
    descriptorReads events = [gdt.base + (selector &&& ~~~kRplMask).setWidth 64] := by
  unfold readGDTEntry at path
  rw [if_neg past] at path
  obtain ⟨limit, _, rfl, -, path⟩ := path_ask_bind path
  obtain ⟨access, _, first, second, rfl, left, path⟩ := path.of_bind_done
  obtain ⟨word, _, rfl, -, path⟩ := path_ask_bind path
  have unread : descriptorReads first = [] := descriptorReads_readAccessRights left
  have last : ∀ {rest}, descriptorReads rest = [] →
      descriptorReads (⟨.segmentLimit selector, limit⟩ :: (first ++ ⟨.load64 _, word⟩ :: rest)) =
        [gdt.base + (selector &&& ~~~kRplMask).setWidth 64] := by
    intro rest done
    simp only [descriptorReads, List.filterMap_cons, List.filterMap_append] at unread done ⊢
    rw [unread, done, List.nil_append]
  apply last
  dsimp only at path
  split at path
  · obtain ⟨upper, _, rfl, -, path⟩ := path_ask_bind path
    obtain ⟨rfl, -, -⟩ := path.of_done
    rfl
  · obtain ⟨rfl, -, -⟩ := path.of_done
    rfl

/-- A selector of privilege level 1 is refused. -/
theorem ldtExit_of_path {gdt : DescriptorTableRegister} {selector : BitVec 16}
    {events : List (Event interface)} {entry : VmxGdtEntry} (refused : selector &&& 3 = 1)
    (path : Path anyOutcome (readGDTEntry gdt selector) () events (.done entry) ()) :
    LdtExit events entry := by
  unfold readGDTEntry at path
  rw [if_pos refused] at path
  obtain ⟨rfl, same, -⟩ := path.of_done
  exact ⟨rfl, Program.done.inj same⟩

/-- Some run of the function returns. -/
theorem exists_path (gdt : DescriptorTableRegister) (selector : BitVec 16) :
    ∃ events entry, Path anyOutcome (readGDTEntry gdt selector) () events (.done entry) () := by
  unfold readGDTEntry readAccessRights
  split
  · exact ⟨_, _, .nil _ _⟩
  · split
    · exact ⟨_, _, .cons (0 : BitVec 32) trivial (.cons (0 : BitVec 32) trivial
        (.cons (0 : BitVec 64) trivial (.cons (0 : BitVec 32) trivial (.nil _ _))))⟩
    · exact ⟨_, _, .cons (0 : BitVec 32) trivial (.cons (0 : BitVec 64) trivial
        (.cons (0 : BitVec 32) trivial (.nil _ _)))⟩

theorem getLsbD_kRplMask (i : ℕ) : kRplMask.getLsbD i = decide (i < 2) := by
  rw [show kRplMask = BitVec.ofNat 16 (2 ^ 2 - 1) from rfl, BitVec.getLsbD_ofNat,
    Nat.testBit_two_pow_sub_one]
  grind

/-- Without the table indicator, clearing the privilege level leaves the index alone. -/
private theorem cleared_selector {selector : BitVec 16} (clear : tableIndicator selector = false) :
    selector &&& ~~~kRplMask = (selector >>> 3) <<< 3 := by
  apply BitVec.eq_of_getLsbD_eq
  intro i bound
  rw [BitVec.getLsbD_and, BitVec.getLsbD_not, BitVec.getLsbD_shiftLeft,
    BitVec.getLsbD_ushiftRight, getLsbD_kRplMask]
  have position : i < 2 ∨ i = 2 ∨ 3 ≤ i := by omega
  rcases position with low | rfl | high
  · have shifted : i < 3 := by omega
    simp [low, shifted]
  · simpa [tableIndicator] using clear
  · have past : ¬ i < 2 := by omega
    have shifted : ¬ i < 3 := by omega
    simp [bound, past, shifted, Nat.add_sub_cancel' high]

/-- So the address read is the slot's. -/
theorem address_of_clear {selector : BitVec 16} (clear : tableIndicator selector = false) :
    (selector &&& ~~~kRplMask).setWidth 64 = (8 : BitVec 64) * (selector >>> 3).setWidth 64 := by
  rw [cleared_selector clear]
  apply BitVec.eq_of_toNat_eq
  have bound := selector.isLt
  have eight : (8 : BitVec 64).toNat = 8 := rfl
  simp only [BitVec.toNat_setWidth, BitVec.toNat_shiftLeft, BitVec.toNat_ushiftRight,
    BitVec.toNat_mul, eight, Nat.shiftRight_eq_div_pow, Nat.shiftLeft_eq]
  omega

/-- The exact extent of the defect: a selector is treated as the processor treats it when its
privilege level is 1 just if it is one of an LDT. -/
theorem followsTableIndicator_iff (gdt : DescriptorTableRegister) (selector : BitVec 16) :
    FollowsTableIndicator gdt selector ↔
      (selector &&& 3 = 1 ↔ tableIndicator selector = true) := by
  constructor
  · intro follows
    obtain ⟨events, entry, path⟩ := exists_path gdt selector
    rw [← (follows events entry path).1]
    constructor
    · intro refused
      exact ldtExit_of_path refused path
    · intro exited
      by_contra past
      have read := descriptorReads_of_path past path
      rw [exited.1] at read
      contradiction
  · intro levels events entry path
    by_cases refused : selector &&& 3 = 1
    · have indicated := levels.mp refused
      simp [indicated, ldtExit_of_path refused path]
    · have clear : tableIndicator selector = false := by
        rw [← Bool.not_eq_true, ← levels]
        exact refused
      have read := descriptorReads_of_path refused path
      rw [address_of_clear clear] at read
      refine ⟨?_, fun _ => read⟩
      constructor
      · intro exited
        rw [exited.1] at read
        contradiction
      · intro indicated
        rw [clear] at indicated
        contradiction

/-- Slot 1 of the GDT at privilege level 1 is taken for a selector of an LDT. -/
theorem not_followsTableIndicator : ¬ ∀ gdt selector, FollowsTableIndicator gdt selector := by
  intro follows
  obtain ⟨events, entry, path⟩ := exists_path ⟨0xFF, 0x1000⟩ 9
  have exited : LdtExit events entry := ldtExit_of_path (by decide) path
  have indicated : tableIndicator 9 = true := (follows _ _ events entry path).1.mp exited
  contradiction

end Guypervisor.Soundness.SelectorTables
