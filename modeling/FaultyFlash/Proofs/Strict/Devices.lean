import FaultyFlash.Proofs.Strict.Agreement
import FaultyFlash.Proofs.Strict.Blocks

/-!
# Devices, with numbers that must fit

The operations on a device once more, step by step, with numbers that are words of 64 bits, as in
`Strict.word`. Only the counters of bytes are left to wrap. Requests that count nothing are taken
over as they are.

## Main definitions

* `StrictM`, `Strict.plain`, `Strict.value`: strict operations on a device
* `Strict.read`, `Strict.start`, `Strict.complete`, `Strict.crash`, `Strict.restore`, …: what is
  done to a device, strictly
* `Strict.effect`: what a request does that is one operation on the device
-/

namespace FaultyFlash

/-- Strict operations on a device. -/
abbrev StrictM (S R : Type) := EStateM Slip (Flash S R)

namespace Strict

variable {S R α β : Type}

/-- An operation in which no number can fail to fit. -/
abbrev plain (op : FlashM S R α) : StrictM S R α := widen .failed op

/-- The answer of a strict computation. -/
def value : Except Slip α → StrictM S R α
  | .ok a => pure a
  | .error e => throw e

/-- What is left of a region as it is answered this time. -/
def sense (b : Block) (off len : Nat) : StrictM S R Bytes := do
  let stored ← value (region b off len)
  if b.metastable then
    if ← value (covers b off len) then
      if (← plain Flash.draw) &&& 1 = 1 then
        let bit ← value (do minus (← badBitPos b) (← word (off * 8)))
        match stored.flip? bit with
        | some answered => return answered
        | none => throw (.defect (.position bit))
      else return stored
    else return stored
  else return stored

/-- Counts an update towards the loss of power; says whether this one loses it. -/
def tick : StrictM S R Bool := do
  let left := (← get).device.countdown
  if left = 0 then
    return false
  let less ← value (minus left.toNat 1)
  plain (Flash.modifyDevice fun d => { d with countdown := less.toUInt32 })
  return left = 1

variable [BlockStore S R]

/-- The bytes of a region of a block. -/
def read (cfg : Config) (block off len : Nat) : StrictM S R Bytes := do
  value (checkRegion cfg.geometry .read cfg.geometry.readSize block off len)
  let answered ← match ← plain (Flash.fetch block) with
    | none => pure (List.replicate len cfg.fill)
    | some b =>
      if cfg.isWorn b.wear && cfg.worn = .readError then
        throw (.failed (.fault (.corrupt block)))
      else
        sense b off len
  plain (Flash.modifyDevice fun d => { d with bytesRead := d.bytesRead + len.toUInt64 })
  return answered

/-- The position of the bad bit of a block, if the block was ever written. -/
def badBit (cfg : Config) (block : Nat) : StrictM S R (Option Nat) := do
  plain (Flash.contract (cfg.geometry.checkBlock .badBit block))
  match ← plain (Flash.fetch block) with
  | none => return none
  | some b => return some (← value (badBitPos b))

/-- Allocates a block at an address where nothing was ever written. -/
def allocate (cfg : Config) (block : Nat) : StrictM S R Block := do
  let bit ← plain (Flash.drawBelow (← value (blockBits cfg.geometry)))
  if Config.allocationLimit ≤ cfg.geometry.blockSize then
    throw (.failed (.fault .noMemory))
  else
    let b := Block.fresh cfg.geometry.blockSize cfg.fill bit.toUInt32
    plain (Flash.setSlot block (← plain (Flash.alloc b)))
    return b

/-- Makes the block at an address the device's own. -/
def own (cfg : Config) (block : Nat) : StrictM S R Block := do
  match ← plain (Flash.slot block) with
  | none => allocate cfg block
  | some r =>
    let b ← plain (Flash.deref block r)
    if BlockStore.refs (← get).store r = 1 then
      return b
    else
      plain (Flash.duplicate block r b)
      return b

/-- Changes the block at an address, which becomes the device's own. -/
def amend (cfg : Config) (block : Nat) (change : Block → Except Slip Block) :
    StrictM S R Unit := do
  let b ← own cfg block
  plain (Flash.put block (← value (change b)))

/-- Writes a region of a block out to the image file. -/
def save (cfg : Config) (block off len : Nat) : StrictM S R Unit := do
  match (← get).image with
  | none => return
  | some image =>
    let data ← match ← plain (Flash.fetch block) with
      | some b => value (region b off len)
      | none => pure (List.replicate len cfg.fill)
    let start ← value (word (block * cfg.geometry.blockSize))
    let pos ← value (word (start + off))
    plain (Flash.writeOut cfg (image.writeAt pos data))

/-- Writes every block out to the image file. -/
def saveAll (cfg : Config) : StrictM S R Unit := do
  if (← get).image.isSome then
    (List.range cfg.geometry.blockCount).forM fun block => save cfg block 0 cfg.geometry.blockSize

/-! ## Updates -/

/-- Where erases are simulated, a region to program must be erased. -/
def checkErased (cfg : Config) (block off len : Nat) : StrictM S R Unit := do
  match cfg.eraseValue, ← plain (Flash.fetch block) with
  | some erased, some b =>
    let old ← value (region b off len)
    if !old.all (· == erased) then
      throw (.misuse (.notErased block off))
  | _, _ => return

/-- Refuses an update or lets it through. -/
def permit (cfg : Config) : Update → StrictM S R (Option Bool)
  | .prog block off data => do
    value (checkRegion cfg.geometry .prog cfg.geometry.progSize block off data.length)
    let worn ← plain (Flash.isWorn cfg block)
    if worn && cfg.worn = .progError then
      throw (.failed (.fault (.corrupt block)))
    else if worn && cfg.worn = .progNoop then
      return none
    else if worn then
      return some worn
    else
      checkErased cfg block off data.length
      return some worn
  | .erase block => plain (Flash.permit cfg (.erase block))

/-- Starts an update. -/
def start (cfg : Config) (u : Update) : StrictM S R Start := do
  match ← permit cfg u with
  | none => return .ignored
  | some worn => if ← tick then return .powerLost worn else return .proceed worn

/-- Completes an update that started on a block that was `worn` out. -/
def complete (cfg : Config) (worn : Bool) : Update → StrictM S R Unit
  | .prog block off data => do
    amend cfg block (programmed cfg worn off data)
    save cfg block off data.length
    plain (Flash.modifyDevice fun d =>
      { d with bytesProgrammed := d.bytesProgrammed + data.length.toUInt64 })
  | .erase block => do
    let pinned := (← plain (Flash.fetch block)).elim false Block.isPinned
    let bit ← if pinned then pure none
      else some <$> do plain (Flash.drawBelow (← value (blockBits cfg.geometry)))
    amend cfg block fun b => .ok (Flash.erased cfg bit b)
    save cfg block 0 cfg.geometry.blockSize
    plain (Flash.modifyDevice fun d =>
      { d with bytesErased := d.bytesErased + cfg.geometry.blockSize.toUInt64 })

/-! ## Losing power -/

/-- Leaves one of the bits that an update changes in its region, if it changes any. -/
def tearBit (cfg : Config) (u : Update) (off len : Nat) : StrictM S R Unit := do
  let b ← own cfg u.block
  let old ← value (region b off len)
  let changed ← value ((Bytes.diff old (u.outcome cfg old)).mapM word)
  if changed.isEmpty then
    return
  else
    let n ← plain (Flash.drawBelow changed.length)
    match changed[n]? with
    | some bit => plain (Flash.put u.block (← value (do flip b (← position off bit))))
    | none => return

/-- Leaves part of an update on its block. -/
def tear (cfg : Config) (u : Update) : StrictM S R Unit := do
  let (off, len) := u.region cfg
  if len = 0 then
    return
  match cfg.crash with
  | .noop => return
  | .someBits => tearBit cfg u off len
  | .mostBits =>
    let bit ← plain (Flash.drawBelow (← value (word (len * 8))))
    amend cfg u.block fun b => do flip (← landed cfg u off len b) (← position off bit)
  | .outOfOrder =>
    amend cfg u.block (landed cfg u off len)
  | .metastable =>
    let bit ← plain (Flash.drawBelow (← value (word (len * 8))))
    amend cfg u.block fun b => do
      let b ← landed cfg u off len b
      let bit ← if b.isPinned then pure b.badBit else Nat.toUInt32 <$> position off bit
      return { b with metastable := true, badBit := bit }

/-- Loses power during an update. -/
def crash (cfg : Config) (u : Update) : StrictM S R Unit := do
  tear cfg u
  match (← get).device.synced with
  | some synced =>
    plain (Flash.rollBack synced u.block)
    saveAll cfg
  | none => save cfg u.block 0 cfg.geometry.blockSize

/-- Returns to a table and a generator that were set aside. -/
def restore (cfg : Config) (slots : Slots R) (generator : Generator) : StrictM S R Unit := do
  let old := (← get).device.slots
  plain (Flash.modifyStore (BlockStore.releaseAll · old))
  plain (Flash.modifyDevice fun d => { d with slots := slots, generator := generator })
  saveAll cfg

/-! ## Tampering -/

/-- Sets the wear of a block. -/
def setWear (cfg : Config) (block : Nat) (wear : UInt32) : StrictM S R Unit := do
  plain (Flash.contract (cfg.geometry.checkBlock .setWear block))
  amend cfg block fun b => .ok { b with wear := wear }

/-- Pins the bad bit of a block. -/
def setBadBit (cfg : Config) (block bit : Nat) : StrictM S R Unit := do
  plain (Flash.contract (cfg.geometry.checkBlock .setBadBit block))
  let bits ← value (blockBits cfg.geometry)
  plain (Flash.contract (if bit < bits then .ok () else .error (.badBitOutside bit)))
  amend cfg block fun b => .ok { b with badBit := Block.pin ||| bit.toUInt32 }

/-- Draws the bad bit of a block, and unpins it. -/
def randomizeBadBit (cfg : Config) (block : Nat) : StrictM S R Unit := do
  plain (Flash.contract (cfg.geometry.checkBlock .randomizeBadBit block))
  let bit ← plain (Flash.drawBelow (← value (blockBits cfg.geometry)))
  amend cfg block fun b => .ok { b with badBit := bit.toUInt32 }

/-- Inverts a stored bit. -/
def flipBit (cfg : Config) (block bit : Nat) : StrictM S R Unit := do
  plain (Flash.contract (cfg.geometry.checkBlock .flipBit block))
  let bits ← value (blockBits cfg.geometry)
  plain (Flash.contract (if bit < bits then .ok () else .error (.flipOutside bit)))
  amend cfg block (flip · bit)
  save cfg block (bit / 8) 1

/-- What a request does that is one operation on the device. All requests that are not named look
at the device, or set a part of it, without counting anything. -/
def effect : (r : Request) → Config → StrictM S R r.Answer
  | .read block off len => (read · block off len)
  | .badBit block => (badBit · block)
  | .setWear block wear => (setWear · block wear)
  | .markBad block => fun cfg => setWear cfg block cfg.wornOut
  | .markGood block => (setWear · block 0)
  | .setBadBit block bit => (setBadBit · block bit)
  | .randomizeBadBit block => (randomizeBadBit · block)
  | .flipBit block bit => (flipBit · block bit)
  | r => fun cfg => plain (r.effect cfg)

end Strict

end FaultyFlash
