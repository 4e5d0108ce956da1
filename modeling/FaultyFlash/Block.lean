import FaultyFlash.Bytes
import FaultyFlash.Failure

/-!
# Blocks

A stored erase block: its bytes, its wear, and the position of its bad bit. The bad bit is kept as
a word whose top bit says that the position is pinned, so positions are read through a mask and
wrap into the block.

## Main definitions

* `Block.fresh`: a block as first allocated
* `Block.badBitPos`, `Block.isPinned`, `Block.covers`: the bad bit
* `Block.region`, `Block.overwrite`, `Block.flip`: reading and changing the bytes

## Main results

* `Block.region_of_le`, `Block.overwrite_of_le`, `Block.flip_of_lt`: what is in range is answered
* `Block.length_overwrite`, `Block.length_flip`: changes keep the size
-/

namespace FaultyFlash

/-- A stored erase block. -/
structure Block where
  /-- The erases it has gone through. -/
  wear : UInt32
  /-- Do reads of the bad bit answer either value? -/
  metastable : Bool
  /-- The position of the bad bit, tagged by `Block.pin` if it is pinned. -/
  badBit : UInt32
  data : Bytes
  deriving DecidableEq, Repr

namespace Block

/-- The tag of a pinned position. -/
def pin : UInt32 := 0x80000000

/-- A block of `size` bytes as first allocated. -/
def fresh (size : Nat) (fill : UInt8) (badBit : UInt32) : Block :=
  ⟨0, false, badBit, List.replicate size fill⟩

/-- The number of bits of the block. -/
def bits (b : Block) : Nat := b.data.length * 8

/-- Was the position of the bad bit pinned? -/
def isPinned (b : Block) : Bool := b.badBit &&& pin != 0

/-- The position of the bad bit. -/
def badBitPos (b : Block) : Nat := (b.badBit &&& ~~~pin).toNat % b.bits

/-- Does the region hold the byte of the bad bit? -/
def covers (b : Block) (off len : Nat) : Bool :=
  off ≤ b.badBitPos / 8 && b.badBitPos / 8 < off + len

/-- The bytes of a region of the block. -/
def region (b : Block) (off len : Nat) : Except Defect Bytes :=
  match b.data.slice? off len with
  | some bs => .ok bs
  | none => .error (.region off len)

/-- The block with a region replaced. -/
def overwrite (b : Block) (off : Nat) (new : Bytes) : Except Defect Block :=
  match b.data.splice? off new with
  | some bs => .ok { b with data := bs }
  | none => .error (.region off new.length)

/-- The block with one bit inverted. -/
def flip (b : Block) (bit : Nat) : Except Defect Block :=
  match b.data.flip? bit with
  | some bs => .ok { b with data := bs }
  | none => .error (.position bit)

/-- A region that the block holds is read. -/
theorem region_of_le {b : Block} {off len : Nat} (h : off + len ≤ b.data.length) :
    b.region off len = .ok ((b.data.drop off).take len) := by
  rw [region, Bytes.slice?, if_pos h]

/-- A region that the block holds is replaced. -/
theorem overwrite_of_le {b : Block} {off : Nat} {new : Bytes}
    (h : off + new.length ≤ b.data.length) :
    b.overwrite off new =
      .ok { b with data := b.data.take off ++ new ++ b.data.drop (off + new.length) } := by
  rw [overwrite, Bytes.splice?, if_pos h]

/-- A bit that the block holds is inverted. -/
theorem flip_of_lt {b : Block} {bit : Nat} (h : bit / 8 < b.data.length) :
    b.flip bit =
      .ok { b with data := b.data.modify (bit / 8) (· ^^^ Bytes.mask (bit % 8)) } := by
  rw [flip, Bytes.flip?, if_pos h]

theorem length_overwrite {b c : Block} {off : Nat} {new : Bytes} (h : b.overwrite off new = .ok c) :
    c.data.length = b.data.length := by
  unfold overwrite at h
  split at h
  · next bs hs =>
    cases h
    exact Bytes.length_of_splice? hs
  · cases h

theorem length_flip {b c : Block} {bit : Nat} (h : b.flip bit = .ok c) :
    c.data.length = b.data.length := by
  unfold flip at h
  split at h
  · next bs hs =>
    cases h
    exact Bytes.length_of_flip? hs
  · cases h

end Block

end FaultyFlash
