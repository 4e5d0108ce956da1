import FaultyFlash.Checksum
import FaultyFlash.Device

/-!
# Looking at a device

Questions that change nothing: the wear, the bad bit and the checksum of a block, how many hold
it, and a fingerprint of the whole device.

## Main definitions

* `Flash.isWorn`: is a block worn out
* `Flash.wear`, `Flash.isBad`, `Flash.badBit`, `Flash.isMetastable`, `Flash.blockRefs`,
  `Flash.crc`: questions about a block of the device
* `Flash.fingerprint`: the checksum of the blocks' checksums
-/

namespace FaultyFlash

namespace Flash

variable {S R : Type} [BlockStore S R]

/-- Is the block at an address worn out? -/
def isWorn (cfg : Config) (block : Nat) : FlashM S R Bool := do
  return (← fetch block).elim false fun b => cfg.isWorn b.wear

/-- The erases a block has gone through. -/
def wear (cfg : Config) (block : Nat) : FlashM S R UInt32 := do
  contract (cfg.geometry.checkBlock .wear block)
  return (← fetch block).elim 0 Block.wear

/-- Is a block bad? -/
def isBad (cfg : Config) (block : Nat) : FlashM S R Bool := do
  contract (cfg.geometry.checkBlock .isBad block)
  isWorn cfg block

/-- The position of the bad bit of a block, if the block was ever written. -/
def badBit (cfg : Config) (block : Nat) : FlashM S R (Option Nat) := do
  contract (cfg.geometry.checkBlock .badBit block)
  return (← fetch block).map Block.badBitPos

/-- Does a bit of a block answer either value? -/
def isMetastable (cfg : Config) (block : Nat) : FlashM S R Bool := do
  contract (cfg.geometry.checkBlock .isMetastable block)
  return (← fetch block).elim false Block.metastable

/-- How many hold the block at an address; none if it was never written. -/
def blockRefs (cfg : Config) (block : Nat) : FlashM S R Nat := do
  contract (cfg.geometry.checkBlock .blockRefs block)
  match ← slot block with
  | some r => return BlockStore.refs (← get).store r
  | none => return 0

/-- The checksum of a block. -/
def crc (cfg : Config) (block : Nat) : FlashM S R UInt32 := do
  contract (cfg.geometry.checkBlock .crc block)
  match ← fetch block with
  | some b => return Checksum.crc b.data
  | none => return Checksum.crc (List.replicate cfg.geometry.blockSize cfg.fill)

/-- The checksum of the checksums of all blocks, each as four bytes, least significant first. -/
def fingerprint (cfg : Config) : FlashM S R UInt32 :=
  (List.range cfg.geometry.blockCount).foldlM
    (fun c block => do return Checksum.append c (Bytes.ofWord (← crc cfg block))) 0

end Flash

end FaultyFlash
