import Guypervisor.Effects.Block
import Guypervisor.Model.Operation
import Mathlib.Tactic.IntervalCases

/-! # Bytes of memory

Memory is a map from addresses to bytes; words are little endian.
-/

namespace Guypervisor.Model

open Effects

abbrev Memory : Type := Address → BitVec 8

namespace Memory

def load32 (memory : Memory) (address : Address) : BitVec 32 :=
  memory (address + 3) ++ memory (address + 2) ++ memory (address + 1) ++ memory address

def load64 (memory : Memory) (address : Address) : BitVec 64 :=
  (memory (address + 7) ++ memory (address + 6) ++ memory (address + 5) ++ memory (address + 4)) ++
    memory.load32 address

/-- A word of four bytes is its bytes. -/
theorem load32_of_bytes {memory : Memory} {address : Address} {value : BitVec 32}
    (stored : ∀ offset < 4, memory (address + BitVec.ofNat 64 offset) =
      value.extractLsb' (8 * offset) 8) : memory.load32 address = value := by
  have byte0 : memory address = value.extractLsb' 0 8 := by simpa using stored 0 (by omega)
  have byte1 : memory (address + 1) = value.extractLsb' 8 8 := stored 1 (by omega)
  have byte2 : memory (address + 2) = value.extractLsb' 16 8 := stored 2 (by omega)
  have byte3 : memory (address + 3) = value.extractLsb' 24 8 := stored 3 (by omega)
  rw [Memory.load32, byte0, byte1, byte2, byte3]
  iterate 3 rw [BitVec.extractLsb'_append_extractLsb'_eq_extractLsb' (by rfl)]
  exact BitVec.extractLsb'_eq_self

/-- A word is found again where its bytes are. -/
theorem load32_congr {memory other : Memory} {address : Address}
    (same : ∀ offset < 4, memory (address + BitVec.ofNat 64 offset) =
      other (address + BitVec.ofNat 64 offset)) :
    memory.load32 address = other.load32 address := by
  have byte0 : memory address = other address := by simpa using same 0 (by omega)
  have byte1 : memory (address + 1) = other (address + 1) := same 1 (by omega)
  have byte2 : memory (address + 2) = other (address + 2) := same 2 (by omega)
  have byte3 : memory (address + 3) = other (address + 3) := same 3 (by omega)
  rw [load32, load32, byte0, byte1, byte2, byte3]

/-- A word is its bytes. -/
theorem load64_of_bytes {memory : Memory} {address : Address} {value : BitVec 64}
    (stored : ∀ offset < 8, memory (address + BitVec.ofNat 64 offset) =
      value.extractLsb' (8 * offset) 8) : memory.load64 address = value := by
  have byte0 : memory address = value.extractLsb' 0 8 := by simpa using stored 0 (by omega)
  have byte1 : memory (address + 1) = value.extractLsb' 8 8 := stored 1 (by omega)
  have byte2 : memory (address + 2) = value.extractLsb' 16 8 := stored 2 (by omega)
  have byte3 : memory (address + 3) = value.extractLsb' 24 8 := stored 3 (by omega)
  have byte4 : memory (address + 4) = value.extractLsb' 32 8 := stored 4 (by omega)
  have byte5 : memory (address + 5) = value.extractLsb' 40 8 := stored 5 (by omega)
  have byte6 : memory (address + 6) = value.extractLsb' 48 8 := stored 6 (by omega)
  have byte7 : memory (address + 7) = value.extractLsb' 56 8 := stored 7 (by omega)
  rw [Memory.load64, Memory.load32, byte0, byte1, byte2, byte3, byte4, byte5, byte6, byte7]
  iterate 7 rw [BitVec.extractLsb'_append_extractLsb'_eq_extractLsb' (by rfl)]
  exact BitVec.extractLsb'_eq_self

/-- The bytes of a word. -/
theorem extractLsb'_load64 (memory : Memory) (address : Address) {offset : ℕ}
    (bound : offset < 8) :
    (memory.load64 address).extractLsb' (8 * offset) 8 =
      memory (address + BitVec.ofNat 64 offset) := by
  apply BitVec.eq_of_getLsbD_eq
  intro i inside
  interval_cases offset <;>
    simp (disch := omega) only [load64, load32, BitVec.getLsbD_extractLsb', BitVec.getLsbD_append,
      inside, decide_true, Bool.true_and, if_pos, if_neg, BitVec.add_zero] <;>
    exact congrArg _ (by omega)

/-- Words are the same when their bytes are. -/
theorem load64_eq_iff {memory other : Memory} {address : Address} :
    memory.load64 address = other.load64 address ↔ ∀ offset < 8,
      memory (address + BitVec.ofNat 64 offset) = other (address + BitVec.ofNat 64 offset) := by
  constructor
  · intro same offset bound
    rw [← extractLsb'_load64 memory address bound, same, extractLsb'_load64 other address bound]
  · intro same
    apply load64_of_bytes
    intro offset bound
    rw [same offset bound, extractLsb'_load64 other address bound]

/-- Memory with some bytes written from an address on. -/
def write (memory : Memory) (address : Address) (count : ℕ) (byte : ℕ → BitVec 8) : Memory :=
  fun target =>
    if (target - address).toNat < count then byte (target - address).toNat else memory target

/-- Memory with a word of four bytes stored. -/
def store32 (memory : Memory) (address : Address) (value : BitVec 32) : Memory :=
  memory.write address 4 fun offset => value.extractLsb' (8 * offset) 8

/-- Memory with a word stored. -/
def store64 (memory : Memory) (address : Address) (value : BitVec 64) : Memory :=
  memory.write address 8 fun offset => value.extractLsb' (8 * offset) 8

/-- Memory with some bytes cleared. -/
def clear (memory : Memory) (address : Address) (count : ℕ) : Memory :=
  memory.write address count fun _ => 0

section Write

variable {memory : Memory} {address target : Address} {count offset : ℕ} {byte : ℕ → BitVec 8}

/-- What is found at an offset from where bytes were written. -/
theorem write_add (bound : offset < 2 ^ 64) :
    memory.write address count byte (address + BitVec.ofNat 64 offset) =
      if offset < count then byte offset else memory (address + BitVec.ofNat 64 offset) := by
  have distance : (address + BitVec.ofNat 64 offset - address).toNat = offset := by
    rw [add_sub_cancel_left, BitVec.toNat_ofNat, Nat.mod_eq_of_lt bound]
  rw [write, distance]

/-- Elsewhere memory is as it was. -/
theorem write_of_not_lt (outside : ¬ (target - address).toNat < count) :
    memory.write address count byte target = memory target := if_neg outside

/-- What was zero stays zero when bytes are cleared. -/
theorem clear_eq_zero (zero : memory target = 0) : memory.clear address count target = 0 := by
  unfold clear write
  split
  · rfl
  · exact zero

/-- A stored word of four bytes is found again. -/
theorem load32_store32 (memory : Memory) (address : Address) (value : BitVec 32) :
    (memory.store32 address value).load32 address = value := by
  apply load32_of_bytes
  intro offset bound
  rw [store32, write_add (by omega), if_pos bound]

/-- A stored word is found again. -/
theorem load64_store64 (value : BitVec 64) :
    (memory.store64 address value).load64 address = value := by
  apply load64_of_bytes
  intro offset bound
  rw [store64, write_add (by omega), if_pos bound]

/-- Of two words stored in one place the second stays. -/
theorem store64_store64 (first second : BitVec 64) :
    (memory.store64 address first).store64 address second = memory.store64 address second := by
  funext target
  unfold store64 write
  split <;> rfl

end Write

/-- The four bytes of a word. -/
def wordAt (address : Address) : Block 64 := ⟨address, 4⟩

/-- A word apart from the one that is stored stays as it is. -/
theorem load32_store32_of_apart (memory : Memory) {address other : Address}
    (fits : address.toNat + 4 ≤ 2 ^ 64) (otherFits : other.toNat + 4 ≤ 2 ^ 64)
    (apart : (wordAt address).Apart (wordAt other)) (value : BitVec 32) :
    (memory.store32 other value).load32 address = memory.load32 address := by
  apply load32_congr
  intro offset bound
  apply write_of_not_lt
  intro near
  have inside : (wordAt address).Contains (address + BitVec.ofNat 64 offset) :=
    Block.contains_add fits bound
  exact apart.not_contains inside (Block.contains_of_sub_lt otherFits near)

end Memory

end Guypervisor.Model
