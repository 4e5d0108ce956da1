import FaultyFlash.Device.Update

/-!
# Losing power

What an update leaves behind when power is lost in the middle of it, by the crash behaviour of
the device. A sync marks the state to which out-of-order devices return.

## Main definitions

* `Flash.sync`: marks the present state
* `Flash.tearBit`, `Flash.tear`: a bit of an update, part of an update
* `Flash.rollBack`: every other block returned to the last sync
* `Flash.crash`: the whole effect of losing power during an update
* `Flash.restore`: back to where the update was interrupted

## Main results

* `Flash.length_landed`: what lands keeps the size of a block
-/

namespace FaultyFlash

namespace Flash

variable {S R : Type} [BlockStore S R]

/-- Marks the present state as synced, where a crash may return to it. -/
def sync : FlashM S R Unit := do
  match (← get).device.synced with
  | none => return
  | some old =>
    let slots := (← get).device.slots
    -- retained first, as a block may be in both tables
    modifyStore (BlockStore.retainAll · slots)
    modifyStore (BlockStore.releaseAll · old)
    modifyDevice fun d => { d with synced := some slots }

/-- A block after an update of the region `off`, `len`, apart from what an update does to wear and
bad bits. -/
def landed (cfg : Config) (u : Update) (off len : Nat) (b : Block) : Except Defect Block := do
  b.overwrite off (u.outcome cfg (← b.region off len))

theorem length_landed {cfg : Config} {u : Update} {off len : Nat} {b c : Block}
    (h : landed cfg u off len b = .ok c) : c.data.length = b.data.length := by
  unfold landed at h
  cases hr : b.region off len with
  | ok old =>
    rw [hr] at h
    exact Block.length_overwrite h
  | error d =>
    rw [hr] at h
    cases h

/-- Leaves one of the bits that an update changes in its region, if it changes any. -/
def tearBit (cfg : Config) (u : Update) (off len : Nat) : FlashM S R Unit := do
  let b ← own cfg u.block
  let old ← sound (b.region off len)
  let changed := Bytes.diff old (u.outcome cfg old)
  if !changed.isEmpty then
    let n ← drawBelow changed.length
    match changed[n]? with
    | some bit => put u.block (← sound (b.flip (off * 8 + bit)))
    | none => return

/-- Leaves part of an update on its block. An update of no bytes leaves nothing. -/
def tear (cfg : Config) (u : Update) : FlashM S R Unit := do
  let (off, len) := u.region cfg
  if len = 0 then
    return
  match cfg.crash with
  | .noop => return
  | .someBits => tearBit cfg u off len
  | .mostBits =>
    -- all of it lands, but one bit comes out inverted
    let bit ← drawBelow (len * 8)
    amend cfg u.block fun b => do (← landed cfg u off len b).flip (off * 8 + bit)
  | .outOfOrder =>
    amend cfg u.block (landed cfg u off len)
  | .metastable =>
    -- all of it lands, and reads of one bit are left to chance
    let bit ← drawBelow (len * 8)
    amend cfg u.block fun b => do
      let b ← landed cfg u off len b
      return { b with
        metastable := true
        badBit := if b.isPinned then b.badBit else (off * 8 + bit).toUInt32 }

/-- Returns every block but one to the last sync. -/
def rollBack (synced : Slots R) (block : Nat) : FlashM S R Unit := do
  let slots := (← get).device.slots
  if synced.length ≠ slots.length then
    throw (.defect (.slotTable synced.length))
  -- what landed on the interrupted block stays
  adopt (synced.set block (← slot block))

/-- Returns to a table and a generator that were set aside, and brings the image file up to date.
The table is taken over from who held it. -/
def restore (cfg : Config) (slots : Slots R) (generator : Generator) : FlashM S R Unit := do
  let old := (← get).device.slots
  -- the table is held already, by who set it aside
  modifyStore (BlockStore.releaseAll · old)
  modifyDevice fun d => { d with slots := slots, generator := generator }
  saveAll cfg

/-- Loses power during an update. -/
def crash (cfg : Config) (u : Update) : FlashM S R Unit := do
  tear cfg u
  match (← get).device.synced with
  | some synced =>
    -- any block may have changed by the return
    rollBack synced u.block
    saveAll cfg
  | none => save cfg u.block 0 cfg.geometry.blockSize

end Flash

end FaultyFlash
