import FaultyFlash.Device.Inspect

/-!
# Reading

A read answers the stored bytes, or what unwritten flash reads as. If the block is metastable and
the region holds the byte of its bad bit, one word is drawn, and the bad bit is answered inverted
if the word is odd.

## Main definitions

* `Flash.read`: the bytes of a region
-/

namespace FaultyFlash

namespace Flash

variable {S R : Type} [BlockStore S R]

/-- The stored bytes of a region as they are answered this time. -/
def sense (b : Block) (off len : Nat) : FlashM S R Bytes := do
  let stored ← sound (b.region off len)
  if b.metastable && b.covers off len then
    if (← draw) &&& 1 = 1 then
      -- the stored bit stays as it is
      let bit := b.badBitPos - off * 8
      match stored.flip? bit with
      | some answered => return answered
      | none => throw (.defect (.position bit))
  return stored

/-- The bytes of a region of a block. -/
def read (cfg : Config) (block off len : Nat) : FlashM S R Bytes := do
  contract (cfg.geometry.checkRegion .read cfg.geometry.readSize block off len)
  let answered ← match ← fetch block with
    | none => pure (List.replicate len cfg.fill)
    | some b =>
      if cfg.isWorn b.wear && cfg.worn = .readError then
        throw (.fault (.corrupt block))
      sense b off len
  modifyDevice fun d => { d with bytesRead := d.bytesRead + len.toUInt64 }
  return answered

end Flash

end FaultyFlash
