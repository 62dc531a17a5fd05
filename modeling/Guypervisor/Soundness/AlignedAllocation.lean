import Guypervisor.Model.KernelMemory
import Guypervisor.Proofs.Rules

/-! # Aligned allocation

`AllocateContingiousPhysicalMemoryAligned` asks for a block longer by one alignment unit, clears all
of it and rounds its address up. Where the block does not run past the end of the address space, the
rounded range lies in it; a null answer is handed on.
-/

namespace Guypervisor.Soundness.AlignedAllocation

open Effects Effects.Program Model Code Proofs

/-- An answer of the contiguous allocator. -/
def blockAnswer : Event interface → Option Address
  | ⟨.allocateContiguousMemory _ _, base⟩ => some base
  | _ => none

/-- The answers of the contiguous allocator in a run. -/
def blockAnswers (events : List (Event interface)) : List Address := events.filterMap blockAnswer

/-- The least aligned address of a block, with the bytes from there on inside the block and clear,
and memory outside the block as it was. -/
structure Serves (size alignmentSize base result : Address) (before after : Memory) : Prop where
  least : IsLeast {multiple : ℕ | alignmentSize.toNat ∣ multiple ∧ base.toNat ≤ multiple}
    result.toNat
  within : base.toNat ≤ result.toNat ∧
    result.toNat + size.toNat ≤ base.toNat + size.toNat + alignmentSize.toNat
  zero : ∀ address : Address, result.toNat ≤ address.toNat →
    address.toNat < result.toNat + size.toNat → after address = 0
  outside : ∀ address : Address, (address.toNat < base.toNat ∨
    base.toNat + size.toNat + alignmentSize.toNat ≤ address.toNat) → after address = before address

variable {size alignmentSize base : Address} {exponent : ℕ}

/-- Rounding up and clearing serve the request. -/
theorem serves_alignUp (power : alignmentSize.toNat = 2 ^ exponent) (nonzero : base ≠ 0)
    (fits : base.toNat + size.toNat + alignmentSize.toNat ≤ 2 ^ 64) (memory : Memory) :
    Serves size alignmentSize base (alignUp base alignmentSize) memory
      (memory.clear base (size + alignmentSize).toNat) := by
  have positive : 0 < base.toNat := by bv_omega
  have unit : 0 < alignmentSize.toNat := power ▸ Nat.two_pow_pos exponent
  have mask : (alignmentSize - 1).toNat = alignmentSize.toNat - 1 := by bv_omega
  have length : (size + alignmentSize).toNat = size.toNat + alignmentSize.toNat := by bv_omega
  have low : (alignmentSize - 1).toNat = 2 ^ exponent - 1 := by rw [mask, power]
  have room : base.toNat + (alignmentSize - 1).toNat < 2 ^ 64 := by omega
  have rounded := roundUp_add_mod low room
  have least := isLeast_roundUp low room
  rw [← alignUp_eq_roundUp] at rounded least
  have above := least.1.2
  constructor
  · rw [power]
    exact least
  · exact ⟨above, by omega⟩
  · intro address first last
    have inside : (address - base).toNat < (size + alignmentSize).toNat := by bv_omega
    exact if_pos inside
  · intro address outside
    apply Memory.write_of_not_lt
    bv_omega

/-- A null answer is handed on and changes nothing; any other, of a block that does not run past the
end of the address space, serves the request. -/
theorem serves_of_path {before after : Memory} {events : List (Event interface)} {result : Address}
    (power : alignmentSize.toNat = 2 ^ exponent)
    (path : Path Memory.environment (allocateContingiousPhysicalMemoryAligned size alignmentSize)
      before events (.done result) after) :
    ∃ base, blockAnswers events = [base] ∧
      (base = 0 → result = 0 ∧ after = before) ∧
      (base ≠ 0 → base.toNat + size.toNat + alignmentSize.toNat ≤ 2 ^ 64 →
        Serves size alignmentSize base result before after) := by
  obtain ⟨cpu, _, rfl, -, path⟩ := path_ask_bind path
  obtain ⟨base, _, rfl, -, path⟩ := path_ask_bind path
  split at path
  · rename_i null
    obtain ⟨rfl, same, rfl⟩ := path.of_done
    refine ⟨base, rfl, fun _ => ⟨Program.done.inj same, rfl⟩, fun nonzero => absurd null nonzero⟩
  · rename_i nonzero
    obtain ⟨_, _, rfl, -, path⟩ := path_ask_bind path
    obtain ⟨rfl, same, rfl⟩ := path.of_done
    refine ⟨base, rfl, fun null => absurd null nonzero, fun _ fits => ?_⟩
    rw [Program.done.inj same]
    exact serves_alignUp power nonzero fits before

/-- A machine whose contiguous blocks begin 16 bytes into a page. -/
def unalignedBlock : (op : Op) → Option op.Response
  | .allocateContiguousMemory _ _ => some (0x20010 : Address)
  | op => op.plainAnswer

/-- A request for a VMCS region there, in memory without a zero byte. -/
def regionRun : List (Event interface) × Code Address × Memory :=
  drive Memory.environment (fun _ => unalignedBlock) 4
    (allocateContingiousPhysicalMemoryAligned sizeofVMCS kAlignmentSize) fun _ => 0xFF

theorem serves_regionRun : ∃ base, blockAnswers regionRun.1 = [base] ∧
    (base = 0 → (0x21000 : Address) = 0 ∧ regionRun.2.2 = fun _ => 0xFF) ∧
    (base ≠ 0 → base.toNat + sizeofVMCS.toNat + kAlignmentSize.toNat ≤ 2 ^ 64 →
      Serves sizeofVMCS kAlignmentSize base 0x21000 (fun _ => 0xFF) regionRun.2.2) := by
  have power : kAlignmentSize.toNat = 2 ^ 12 := by decide
  have finished : regionRun.2.1.result? = some 0x21000 := by decide +kernel
  have path : Path Memory.environment
      (allocateContingiousPhysicalMemoryAligned sizeofVMCS kAlignmentSize) (fun _ => 0xFF)
      regionRun.1 (.done 0x21000) regionRun.2.2 := by
    rw [← done_of_result? finished]
    exact drive_path _ _ (fun _ _ _ _ => trivial) 4 _ _
  exact serves_of_path power path

end Guypervisor.Soundness.AlignedAllocation
