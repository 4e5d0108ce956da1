import FaultyFlash.Device.Inspect

/-!
# Programs and erases

The two operations that change flash, progs and erases, are updates. An update first starts: it is
refused, ignored, or counted towards the loss of power. Then, unless power is lost for good, it is
completed.

## Main definitions

* `Update`, `Update.block`, `Update.region`, `Update.outcome`: what an update changes, and into what
* `Flash.permit`, `Flash.start`, `Start`: how an update starts
* `Flash.complete`: the whole effect of an update

## Main results

* `Flash.length_programmed`, `Flash.length_erased`: updates keep the size of a block
-/

namespace FaultyFlash

/-- An operation that changes flash. -/
inductive Update where
  | prog (block off : Nat) (data : Bytes)
  | erase (block : Nat)
  deriving DecidableEq, Repr

namespace Update

/-- The block an update changes. -/
def block : Update → Nat
  | prog block _ _ => block
  | erase block => block

/-- The offset and the length of the region an update changes. -/
def region (cfg : Config) : Update → Nat × Nat
  | prog _ off data => (off, data.length)
  | erase _ => (0, cfg.geometry.blockSize)

/-- What the bytes of its region become by an update. -/
def outcome (cfg : Config) (old : Bytes) : Update → Bytes
  | prog _ _ data => data
  | erase _ => match cfg.eraseValue with
    | some value => List.replicate old.length value
    | none => old

end Update

/-- How an update starts, once it is not refused. -/
inductive Start where
  /-- The block is worn out and the update does nothing. -/
  | ignored
  /-- The update goes on; was the block worn out? -/
  | proceed (worn : Bool)
  /-- Power is lost during the update; was the block worn out? -/
  | powerLost (worn : Bool)
  deriving DecidableEq, Repr

namespace Flash

open EStateM (run_bind run_get)

variable {S R : Type}

/-- Counts an update towards the loss of power; says whether this one loses it. -/
def tick : FlashM S R Bool := do
  let left := (← get).device.countdown
  if left = 0 then
    return false
  modifyDevice fun d => { d with countdown := left - 1 }
  return left = 1

/-- Counts an update towards the loss of power. -/
def countDown (worn : Bool) : FlashM S R Start := do
  if ← tick then return .powerLost worn else return .proceed worn

theorem run_tick (f : Flash S R) :
    tick.run f =
      if f.device.countdown = 0 then .ok false f
      else .ok (f.device.countdown = 1)
        { f with device := { f.device with countdown := f.device.countdown - 1 } } := by
  simp only [tick, run_bind, run_get]
  split <;> rfl

variable [BlockStore S R]

/-- Where erases are simulated, a region to program must be erased. -/
def checkErased (cfg : Config) (block off len : Nat) : FlashM S R Unit := do
  match cfg.eraseValue, ← fetch block with
  | some value, some b =>
    let old ← sound (b.region off len)
    if !old.all (· == value) then
      throw (.misuse (.notErased block off))
  | _, _ => return

/-- Refuses an update or lets it through. Answers whether the block is worn out, or nothing if the
update is to be ignored. -/
def permit (cfg : Config) : Update → FlashM S R (Option Bool)
  | .prog block off data => do
    contract (cfg.geometry.checkRegion .prog cfg.geometry.progSize block off data.length)
    let worn ← isWorn cfg block
    if worn && cfg.worn = .progError then
      throw (.fault (.corrupt block))
    if worn && cfg.worn = .progNoop then
      return none
    -- a worn block takes whatever is programmed
    if !worn then
      checkErased cfg block off data.length
    return some worn
  | .erase block => do
    contract (cfg.geometry.checkBlock .erase block)
    let worn ← isWorn cfg block
    if worn && cfg.worn = .eraseError then
      throw (.fault (.corrupt block))
    if worn && cfg.worn = .eraseNoop then
      return none
    return some worn

/-- Starts an update. -/
def start (cfg : Config) (u : Update) : FlashM S R Start := do
  match ← permit cfg u with
  | none => return .ignored
  | some worn => countDown worn

/-- A block after a prog; on a worn block the bad bit may come out inverted, or turn
metastable. -/
def programmed (cfg : Config) (worn : Bool) (off : Nat) (data : Bytes) (b : Block) :
    Except Defect Block := do
  let b := { ← b.overwrite off data with metastable := worn && cfg.worn = .readFlip }
  if worn && cfg.worn = .progFlip && b.covers off data.length then b.flip b.badBitPos else pure b

/-- A block after an erase, with its new bad bit unless that is pinned. -/
def erased (cfg : Config) (badBit : Option Nat) (b : Block) : Block where
  wear := Config.successor b.wear
  metastable := false
  badBit := badBit.elim b.badBit Nat.toUInt32
  data := cfg.eraseValue.elim b.data (List.replicate b.data.length)

theorem length_programmed {cfg : Config} {worn : Bool} {off : Nat} {data : Bytes} {b c : Block}
    (h : programmed cfg worn off data b = .ok c) : c.data.length = b.data.length := by
  unfold programmed at h
  cases hw : b.overwrite off data with
  | error d =>
    rw [hw] at h
    cases h
  | ok written =>
    rw [hw] at h
    have size := Block.length_overwrite hw
    simp only [bind, Except.bind] at h
    split at h
    · exact (Block.length_flip h).trans size
    · cases h
      exact size

@[simp] theorem length_erased (cfg : Config) (bit : Option Nat) (b : Block) :
    (erased cfg bit b).data.length = b.data.length := by
  cases h : cfg.eraseValue <;> simp [erased, h]

/-- Completes an update that started on a block that was `worn` out. -/
def complete (cfg : Config) (worn : Bool) : Update → FlashM S R Unit
  | .prog block off data => do
    amend cfg block (programmed cfg worn off data)
    save cfg block off data.length
    modifyDevice fun d => { d with bytesProgrammed := d.bytesProgrammed + data.length.toUInt64 }
  | .erase block => do
    -- a pinned bad bit stays, and then nothing is drawn for it
    let pinned := (← fetch block).elim false Block.isPinned
    let bit ← if pinned then pure none else some <$> drawBelow cfg.geometry.blockBits
    amend cfg block fun b => .ok (erased cfg bit b)
    save cfg block 0 cfg.geometry.blockSize
    modifyDevice fun d =>
      { d with bytesErased := d.bytesErased + cfg.geometry.blockSize.toUInt64 }

end Flash

end FaultyFlash
