import Mathlib.Data.Nat.Bitwise
import FaultyFlash.Proofs.Completion

/-!
# Pinned blocks

The word of a bad bit is a position of 31 bits and a tag. Where every position of a block fits, a
position that is written without the tag is never taken for a pinned one, and one that is written
with it is read back. Bytes that are exchanged leave the pin of a block as it is.

## Main definitions

* `Block.pinned?`, `Slots.pin`: the position that is pinned on a block, at an address
* `Geometry.Narrow`: the positions of a block fit next to the tag

## Main results

* `Block.isPinned_iff`, `Block.badBitPos_eq`: the tag and the position of a word
* `Block.pinned?_pin`, `Block.pinned?_drawn`: a position that was pinned, one that was drawn
* `Flash.pinned?_landed`: what lands of an update leaves the pin
-/

namespace FaultyFlash

/-- The positions of a block fit into a word next to the tag. -/
def Geometry.Narrow (g : Geometry) : Prop := g.blockBits ≤ 2 ^ 31

namespace Block

/-- The position of the bad bit, if it is pinned. -/
def pinned? (b : Block) : Option Nat := if b.isPinned then some b.badBitPos else none

/-- The tag is the top bit of the word. -/
theorem isPinned_iff {b : Block} : b.isPinned ↔ 2 ^ 31 ≤ b.badBit.toNat := by
  have tag : (b.badBit &&& pin).toNat = (b.badBit.toNat.testBit 31).toNat * 2 ^ 31 := by
    rw [UInt32.toNat_and]
    exact Nat.and_two_pow b.badBit.toNat 31
  rw [isPinned, bne_iff_ne, ne_eq, ← UInt32.toNat_inj, tag]
  by_cases low : b.badBit.toNat < 2 ^ 31
  · rw [Nat.testBit_lt_two_pow low]
    simpa using low
  · have high : b.badBit.toNat.testBit 31 = true :=
      Nat.testBit_of_two_pow_le_and_two_pow_add_one_gt (Nat.le_of_not_lt low) b.badBit.toNat_lt
    rw [high]
    simpa using low

/-- The position is the rest of the word, wrapped into the block. -/
theorem badBitPos_eq (b : Block) : b.badBitPos = b.badBit.toNat % 2 ^ 31 % b.bits := by
  have mask : (~~~pin).toNat = 2 ^ 31 - 1 := by decide
  rw [badBitPos, UInt32.toNat_and, mask, Nat.and_two_pow_sub_one_eq_mod]

/-- A position that fits next to the tag is the word written for it. -/
theorem toNat_word {bit : Nat} (small : bit < 2 ^ 31) : bit.toUInt32.toNat = bit :=
  Nat.mod_eq_of_lt (Nat.lt_trans small (by decide))

/-- Whether and where a block is pinned depends on its word and on its size. -/
theorem pinned?_congr {b c : Block} (word : c.badBit = b.badBit)
    (size : c.data.length = b.data.length) : c.pinned? = b.pinned? := by
  rw [pinned?, pinned?, isPinned, isPinned, badBitPos_congr word size, word]

/-- A position that was pinned is read back. -/
theorem pinned?_pin {b : Block} {bit : Nat} (word : b.badBit = pin ||| bit.toUInt32)
    (inside : bit < b.bits) (narrow : b.bits ≤ 2 ^ 31) : b.pinned? = some bit := by
  have small : bit < 2 ^ 31 := by omega
  have sum : b.badBit.toNat = 2 ^ 31 + bit := by
    rw [word, UInt32.toNat_or, toNat_word small]
    exact (Nat.two_pow_add_eq_or_of_lt small 1).symm
  have tagged : b.isPinned := isPinned_iff.2 (by omega)
  rw [pinned?, if_pos tagged, badBitPos_eq, sum, Nat.add_mod_left, Nat.mod_eq_of_lt small,
    Nat.mod_eq_of_lt inside]

/-- A position that was drawn is not pinned. -/
theorem pinned?_drawn {b : Block} {bit : Nat} (word : b.badBit = bit.toUInt32)
    (small : bit < 2 ^ 31) : b.pinned? = none := by
  have position : b.badBit.toNat = bit := by rw [word, toNat_word small]
  rw [pinned?, if_neg]
  intro tagged
  have high := isPinned_iff.1 tagged
  omega

/-- A position that was drawn is read back. -/
theorem badBitPos_drawn {b : Block} {bit : Nat} (word : b.badBit = bit.toUInt32)
    (small : bit < 2 ^ 31) (inside : bit < b.bits) : b.badBitPos = bit := by
  have position : b.badBit.toNat = bit := by rw [word, toNat_word small]
  rw [badBitPos_eq, position, Nat.mod_eq_of_lt small, Nat.mod_eq_of_lt inside]

theorem pinned?_eq_none {b : Block} : b.pinned? = none ↔ b.isPinned = false := by
  unfold pinned?
  cases b.isPinned <;> simp

theorem pinned?_flip {b c : Block} {bit : Nat} (h : b.flip bit = .ok c) :
    c.pinned? = b.pinned? := by
  obtain ⟨same, -⟩ := flip?_of_flip h
  exact pinned?_congr (by rw [same]) (length_flip h)

end Block

namespace Flash

variable {cfg : Config} {u : Update} {off len : Nat} {b c : Block}

/-- An erase that draws nothing leaves the bad bit. -/
theorem pinned?_erased_none : (erased cfg none b).pinned? = b.pinned? :=
  Block.pinned?_congr rfl (length_erased cfg none b)

/-- What lands are bytes of the block. -/
theorem pinned?_landed (h : landed cfg u off len b = .ok c) :
    off + len ≤ b.data.length ∧ c.pinned? = b.pinned? := by
  have size := length_landed h
  unfold landed at h
  cases hr : b.region off len with
  | error d =>
    rw [hr] at h
    cases h
  | ok old =>
    rw [hr] at h
    exact ⟨(Block.region_ok hr).2, Block.pinned?_congr (by rw [Block.overwrite_ok h]) size⟩

end Flash

/-- The position that is pinned at an address. -/
def Slots.pin (slots : Slots Block) (block : Nat) : Option Nat :=
  slots[block]?.join.bind Block.pinned?

end FaultyFlash
