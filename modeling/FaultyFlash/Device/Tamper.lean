import FaultyFlash.Device

/-!
# Tampering with a device

What a test may do to a block behind the back of its user: set its wear, move its bad bit, invert
a bit. None of it counts down to a loss of power.

## Main definitions

* `Flash.setWear`, `Flash.markBad`, `Flash.markGood`: wear
* `Flash.setBadBit`, `Flash.randomizeBadBit`: the bad bit, pinned or drawn
* `Flash.flipBit`: a bit inverted
-/

namespace FaultyFlash

namespace Flash

variable {S R : Type} [BlockStore S R]

/-- Sets the wear of a block. -/
def setWear (cfg : Config) (block : Nat) (wear : UInt32) : FlashM S R Unit := do
  contract (cfg.geometry.checkBlock .setWear block)
  amend cfg block fun b => .ok { b with wear := wear }

/-- Wears a block out. -/
def markBad (cfg : Config) (block : Nat) : FlashM S R Unit :=
  setWear cfg block cfg.wornOut

/-- Makes a block as good as new. -/
def markGood (cfg : Config) (block : Nat) : FlashM S R Unit :=
  setWear cfg block 0

/-- Pins the bad bit of a block. -/
def setBadBit (cfg : Config) (block bit : Nat) : FlashM S R Unit := do
  contract (cfg.geometry.checkBlock .setBadBit block)
  contract (if bit < cfg.geometry.blockBits then .ok () else .error (.badBitOutside bit))
  amend cfg block fun b => .ok { b with badBit := Block.pin ||| bit.toUInt32 }

/-- Draws the bad bit of a block, and unpins it. -/
def randomizeBadBit (cfg : Config) (block : Nat) : FlashM S R Unit := do
  contract (cfg.geometry.checkBlock .randomizeBadBit block)
  let bit ← drawBelow cfg.geometry.blockBits
  amend cfg block fun b => .ok { b with badBit := bit.toUInt32 }

/-- Inverts a stored bit. -/
def flipBit (cfg : Config) (block bit : Nat) : FlashM S R Unit := do
  contract (cfg.geometry.checkBlock .flipBit block)
  contract (if bit < cfg.geometry.blockBits then .ok () else .error (.flipOutside bit))
  amend cfg block fun b => b.flip bit
  save cfg block (bit / 8) 1

end Flash

end FaultyFlash
