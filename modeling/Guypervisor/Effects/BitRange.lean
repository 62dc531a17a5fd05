import Mathlib.Data.BitVec

/-! # Words between two masks

A capability is given by two words: the bits that must be set, and the bits that may be. A word
lies between them when it has all of the first and none but those of the second. Clamping brings
any word between them and changes only what they prescribe.
-/

namespace Effects

variable {w : ℕ}

/-- Every bit of the word is one of the mask's. -/
def BitSubset (word mask : BitVec w) : Prop := word &&& mask = word

instance (word mask : BitVec w) : Decidable (BitSubset word mask) :=
  inferInstanceAs (Decidable (_ = _))

theorem bitSubset_iff {word mask : BitVec w} :
    BitSubset word mask ↔ ∀ i < w, word.getLsbD i = true → mask.getLsbD i = true := by
  constructor
  · intro subset i _ set
    rw [← subset, BitVec.getLsbD_and, Bool.and_eq_true] at set
    exact set.2
  · intro each
    apply BitVec.eq_of_getLsbD_eq
    intro i bound
    rw [BitVec.getLsbD_and]
    have bit := each i bound
    grind

theorem bitSubset_or_right (word mask : BitVec w) : BitSubset mask (word ||| mask) := by
  rw [bitSubset_iff]
  intro i _ set
  rw [BitVec.getLsbD_or, set, Bool.or_true]

/-- Both words have the same bits where the mask has any. -/
def AgreeOn (mask first second : BitVec w) : Prop := first &&& mask = second &&& mask

instance (mask first second : BitVec w) : Decidable (AgreeOn mask first second) :=
  inferInstanceAs (Decidable (_ = _))

theorem agreeOn_iff {mask first second : BitVec w} :
    AgreeOn mask first second ↔
      ∀ i < w, mask.getLsbD i = true → first.getLsbD i = second.getLsbD i := by
  constructor
  · intro agree i _ set
    have bit := congrArg (·.getLsbD i) agree
    simpa [set] using bit
  · intro each
    apply BitVec.eq_of_getLsbD_eq
    intro i bound
    rw [BitVec.getLsbD_and, BitVec.getLsbD_and]
    have bit := each i bound
    grind

/-- All bits of one mask, and none outside the other. -/
structure Between (low high word : BitVec w) : Prop where
  lower : BitSubset low word
  upper : BitSubset word high

/-- The word with what must be set, and without what may not be. -/
def clamp (low high word : BitVec w) : BitVec w := (word &&& high) ||| low

theorem getLsbD_clamp (low high word : BitVec w) (i : ℕ) :
    (clamp low high word).getLsbD i = (word.getLsbD i && high.getLsbD i || low.getLsbD i) := by
  rw [clamp, BitVec.getLsbD_or, BitVec.getLsbD_and]

/-- Clamping brings every word between masks that leave room. -/
theorem between_clamp {low high : BitVec w} (room : BitSubset low high) (word : BitVec w) :
    Between low high (clamp low high word) := by
  rw [bitSubset_iff] at room
  constructor
  · rw [bitSubset_iff]
    intro i _ set
    rw [getLsbD_clamp, set, Bool.or_true]
  · rw [bitSubset_iff]
    intro i bound
    rw [getLsbD_clamp]
    have bit := room i bound
    grind

/-- Bits that may be either way stay as they are. -/
theorem agreeOn_clamp (low high word : BitVec w) :
    AgreeOn (high &&& ~~~low) (clamp low high word) word := by
  rw [agreeOn_iff]
  intro i _ set
  rw [BitVec.getLsbD_and, BitVec.getLsbD_not] at set
  rw [getLsbD_clamp]
  grind

/-- A word between the masks stays as it is. -/
theorem clamp_of_between {low high word : BitVec w} (between : Between low high word) :
    clamp low high word = word := by
  have lower := bitSubset_iff.mp between.lower
  have upper := bitSubset_iff.mp between.upper
  apply BitVec.eq_of_getLsbD_eq
  intro i bound
  rw [getLsbD_clamp]
  have least := lower i bound
  have most := upper i bound
  grind

/-- Where the masks leave room, it does not matter which is applied first. -/
theorem or_and_eq_clamp {low high : BitVec w} (room : BitSubset low high) (word : BitVec w) :
    (word ||| low) &&& high = clamp low high word := by
  rw [BitVec.and_or_distrib_right, room]
  rfl

end Effects
