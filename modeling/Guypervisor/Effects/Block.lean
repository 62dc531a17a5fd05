import Mathlib.Data.BitVec
import Mathlib.Order.Bounds.Basic

/-! # Blocks of an address space

A block is a run of consecutive bytes. An allocator hands out a block that fits into the address
space, does not begin at the null address, and lies apart from the blocks already in use, so that
no address inside it is the beginning of another. Rounding an address up to a power of two stays
inside a block that has one alignment unit to spare.
-/

namespace Effects

variable {w : ℕ}

/-- Where a block begins and how many bytes it has. -/
structure Block (w : ℕ) where
  base : BitVec w
  bytes : BitVec w
deriving DecidableEq, Repr

namespace Block

/-- The address of one of the block's bytes. -/
def Contains (block : Block w) (address : BitVec w) : Prop :=
  block.base ≤ address ∧ address.toNat < block.base.toNat + block.bytes.toNat

/-- One block ends before the other begins. -/
def Apart (block other : Block w) : Prop :=
  block.base.toNat + block.bytes.toNat ≤ other.base.toNat ∨
    other.base.toNat + other.bytes.toNat ≤ block.base.toNat

/-- What an allocator may return beside the blocks in use. -/
structure Fresh (used : List (Block w)) (block : Block w) : Prop where
  nonzero : block.base ≠ 0
  fits : block.base.toNat + block.bytes.toNat ≤ 2 ^ w
  apart : ∀ other ∈ used, block.Apart other

/-- All bytes of one block are bytes of the other. -/
def Within (block other : Block w) : Prop :=
  other.base ≤ block.base ∧
    block.base.toNat + block.bytes.toNat ≤ other.base.toNat + other.bytes.toNat

instance (block other : Block w) : Decidable (block.Apart other) :=
  inferInstanceAs (Decidable (_ ∨ _))

instance (used : List (Block w)) (block : Block w) : Decidable (block.Fresh used) :=
  decidable_of_iff (block.base ≠ 0 ∧ block.base.toNat + block.bytes.toNat ≤ 2 ^ w ∧
      ∀ other ∈ used, block.Apart other)
    ⟨fun parts => ⟨parts.1, parts.2.1, parts.2.2⟩,
      fun fresh => ⟨fresh.nonzero, fresh.fits, fresh.apart⟩⟩

/-- What is fresh beside some blocks is fresh beside fewer. -/
theorem Fresh.anti {used fewer : List (Block w)} {block : Block w} (fresh : block.Fresh used)
    (subset : fewer ⊆ used) : block.Fresh fewer :=
  ⟨fresh.nonzero, fresh.fits, fun other member => fresh.apart other (subset member)⟩

/-- No address in one block is where a block apart from it, and not empty, begins. -/
theorem Apart.base_ne {block other : Block w} (apart : block.Apart other)
    (nonempty : 0 < other.bytes.toNat) {address : BitVec w} (inside : block.Contains address) :
    other.base ≠ address := by
  rintro rfl
  obtain ⟨low, high⟩ := inside
  rw [BitVec.le_def] at low
  rcases apart with before | after <;> omega

/-- What lies in blocks that are apart is apart. -/
theorem Apart.of_within {block other first second : Block w} (apart : block.Apart other)
    (left : first.Within block) (right : second.Within other) : first.Apart second := by
  obtain ⟨leftLow, leftHigh⟩ := left
  obtain ⟨rightLow, rightHigh⟩ := right
  rw [BitVec.le_def] at leftLow rightLow
  unfold Apart at *
  omega

/-- What is contained in a block is contained in one around it. -/
theorem Within.contains {block other : Block w} (within : block.Within other)
    {address : BitVec w} (inside : block.Contains address) : other.Contains address := by
  obtain ⟨low, high⟩ := within
  obtain ⟨lowInside, highInside⟩ := inside
  rw [BitVec.le_def] at low lowInside
  constructor
  · rw [BitVec.le_def]
    omega
  · omega

/-- The address is fewer bytes past the beginning of the block than the block has. -/
def Spans (block : Block w) (address : BitVec w) : Prop :=
  (address - block.base).toNat < block.bytes.toNat

instance (block : Block w) (address : BitVec w) : Decidable (block.Spans address) :=
  inferInstanceAs (Decidable (_ < _))

/-- What a block spans is spanned by one around it. -/
theorem Within.spans {block other : Block w} (within : block.Within other) {address : BitVec w}
    (spanned : block.Spans address) : other.Spans address := by
  obtain ⟨low, high⟩ := within
  have apart : (block.base - other.base).toNat = block.base.toNat - other.base.toNat :=
    BitVec.toNat_sub_of_le low
  have split : address - other.base = (address - block.base) + (block.base - other.base) := by
    rw [BitVec.sub_eq_add_neg, BitVec.sub_eq_add_neg, BitVec.sub_eq_add_neg, ← BitVec.add_assoc,
      BitVec.add_assoc address, BitVec.add_comm (-block.base), BitVec.add_right_neg, BitVec.add_zero]
  have size := other.bytes.isLt
  rw [BitVec.le_def] at low
  unfold Spans at *
  rw [split, BitVec.toNat_add, apart, Nat.mod_eq_of_lt (by omega)]
  omega

instance : @Std.Symm (Block w) Apart := ⟨fun _ _ apart => Or.symm apart⟩

/-- No address lies in two blocks that are apart. -/
theorem Apart.not_contains {block other : Block w} (apart : block.Apart other)
    {address : BitVec w} (inside : block.Contains address) : ¬ other.Contains address := by
  rintro ⟨otherLow, otherHigh⟩
  obtain ⟨low, high⟩ := inside
  rw [BitVec.le_def] at low otherLow
  rcases apart with before | after <;> omega

/-- The distance of a block's byte from the beginning is below the length. -/
theorem Contains.sub_lt {block : Block w} {address : BitVec w} (inside : block.Contains address) :
    (address - block.base).toNat < block.bytes.toNat := by
  obtain ⟨low, high⟩ := inside
  rw [BitVec.toNat_sub_of_le low]
  rw [BitVec.le_def] at low
  omega

section Offsets

variable {block : Block w} (fits : block.base.toNat + block.bytes.toNat ≤ 2 ^ w)
include fits

/-- The bytes of a block are found at the offsets below its length. -/
theorem contains_add {offset : ℕ} (inside : offset < block.bytes.toNat) :
    block.Contains (block.base + BitVec.ofNat w offset) := by
  have sum : (block.base + BitVec.ofNat w offset).toNat = block.base.toNat + offset := by
    rw [BitVec.toNat_add, BitVec.toNat_ofNat, Nat.add_mod_mod, Nat.mod_eq_of_lt (by omega)]
  constructor
  · rw [BitVec.le_def]
    omega
  · omega

/-- An address whose distance from the beginning is below the length lies in the block. -/
theorem contains_of_sub_lt {address : BitVec w}
    (near : (address - block.base).toNat < block.bytes.toNat) : block.Contains address := by
  have same : block.base + BitVec.ofNat w (address - block.base).toNat = address := by
    rw [BitVec.ofNat_toNat, BitVec.setWidth_eq, BitVec.add_comm, BitVec.sub_add_cancel]
  rw [← same]
  exact contains_add fits near

end Offsets

end Block

/-- The address rounded up past the bits of a mask: the usual alignment idiom. -/
def roundUp (address mask : BitVec w) : BitVec w := (address + mask) &&& ~~~mask

/-- The bits outside a mask and those inside it make up an address. -/
theorem split_mask (address mask : BitVec w) :
    (address &&& ~~~mask).toNat + (address &&& mask).toNat = address.toNat := by
  have apart : (address &&& ~~~mask) &&& (address &&& mask) = 0 := by
    ext i bound
    simp
    cases mask[i] <;> simp
  have joined : (address &&& ~~~mask) ||| (address &&& mask) = address := by
    ext i bound
    simp
    cases mask[i] <;> simp
  rw [← BitVec.toNat_add_of_and_eq_zero apart, BitVec.add_eq_or_of_and_eq_zero _ _ apart, joined]

/-- An address rounded up has no bit of the mask. -/
theorem roundUp_and_mask (address mask : BitVec w) : roundUp address mask &&& mask = 0 := by
  rw [roundUp, BitVec.and_assoc]
  ext i bound
  simp

/-- The null address is rounded to itself. -/
@[simp] theorem roundUp_zero (mask : BitVec w) : roundUp 0 mask = 0 := by
  ext i bound
  simp [roundUp]

/-- Rounding up leaves exactly the addresses that have no bit of the mask. -/
theorem roundUp_eq_self_iff (address mask : BitVec w) :
    roundUp address mask = address ↔ address &&& mask = 0 := by
  constructor
  · intro same
    rw [← same]
    exact roundUp_and_mask address mask
  · intro aligned
    rw [roundUp, BitVec.add_eq_or_of_and_eq_zero _ _ aligned]
    ext i bound
    have bit := congrArg (fun value : BitVec w => value[i]) aligned
    simp at bit
    simp
    grind

/-- What rounding up removes are the bits of the mask. -/
theorem roundUp_toNat {address mask : BitVec w} (fits : address.toNat + mask.toNat < 2 ^ w) :
    (roundUp address mask).toNat + ((address + mask) &&& mask).toNat =
      address.toNat + mask.toNat := by
  rw [roundUp, split_mask, BitVec.toNat_add, Nat.mod_eq_of_lt fits]

/-- Rounding down to a power of two leaves exactly its multiples. -/
theorem and_not_eq_self_iff {address mask : BitVec w} {exponent : ℕ}
    (low : mask.toNat = 2 ^ exponent - 1) :
    address &&& ~~~mask = address ↔ 2 ^ exponent ∣ address.toNat := by
  have removed : (address &&& mask).toNat = address.toNat % 2 ^ exponent := by
    rw [BitVec.toNat_and, low]
    exact Nat.and_two_pow_sub_one_eq_mod _ exponent
  have parts := split_mask address mask
  rw [removed] at parts
  rw [← BitVec.toNat_inj, Nat.dvd_iff_mod_eq_zero]
  omega

section PowerOfTwo

variable {address mask : BitVec w} {exponent : ℕ} (low : mask.toNat = 2 ^ exponent - 1)
  (fits : address.toNat + mask.toNat < 2 ^ w)
include low fits

/-- With a mask of low bits, what rounding up removes is a remainder. -/
theorem roundUp_add_mod :
    (roundUp address mask).toNat + (address.toNat + mask.toNat) % 2 ^ exponent =
      address.toNat + mask.toNat := by
  have removed : ((address + mask) &&& mask).toNat =
      (address.toNat + mask.toNat) % 2 ^ exponent := by
    rw [BitVec.toNat_and, BitVec.toNat_add, Nat.mod_eq_of_lt fits, low]
    exact Nat.and_two_pow_sub_one_eq_mod _ exponent
  rw [← removed]
  exact roundUp_toNat fits

/-- Rounding up gives the least multiple of the power of two that is not below the address. -/
theorem isLeast_roundUp :
    IsLeast {multiple : ℕ | 2 ^ exponent ∣ multiple ∧ address.toNat ≤ multiple}
      (roundUp address mask).toNat := by
  have parts := roundUp_add_mod low fits
  have positive : 0 < 2 ^ exponent := Nat.two_pow_pos exponent
  have rest := Nat.mod_lt (address.toNat + mask.toNat) positive
  have quotient := Nat.div_add_mod (address.toNat + mask.toNat) (2 ^ exponent)
  have rounded : (roundUp address mask).toNat =
      2 ^ exponent * ((address.toNat + mask.toNat) / 2 ^ exponent) := by omega
  constructor
  · constructor
    · rw [rounded]
      exact Nat.dvd_mul_right _ _
    · omega
  · rintro _ ⟨⟨factor, rfl⟩, above⟩
    rw [rounded]
    apply Nat.mul_le_mul_left
    apply Nat.le_of_lt_succ
    apply Nat.div_lt_of_lt_mul
    rw [Nat.mul_succ]
    omega

end PowerOfTwo

/-- A block with room for the mask contains its rounded-up beginning. -/
theorem Block.Fresh.contains_roundUp {used : List (Block w)} {block : Block w}
    (fresh : block.Fresh used) {mask : BitVec w} (room : mask.toNat < block.bytes.toNat) :
    block.Contains (roundUp block.base mask) := by
  have fits := fresh.fits
  have parts := roundUp_toNat (show block.base.toNat + mask.toNat < 2 ^ w by omega)
  have low : ((block.base + mask) &&& mask).toNat ≤ mask.toNat := by
    rw [BitVec.toNat_and]
    exact Nat.and_le_right
  constructor
  · rw [BitVec.le_def]
    omega
  · omega

/-- Rounding up keeps the beginning of such a block from becoming null. -/
theorem Block.Fresh.roundUp_ne_zero {used : List (Block w)} {block : Block w}
    (fresh : block.Fresh used) {mask : BitVec w} (room : mask.toNat < block.bytes.toNat) :
    roundUp block.base mask ≠ 0 := by
  intro null
  have above : block.base ≤ roundUp block.base mask := (fresh.contains_roundUp room).1
  rw [null] at above
  exact absurd (BitVec.le_zero_iff.mp above) fresh.nonzero

end Effects
