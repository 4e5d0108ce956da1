import FaultyFlash.Config
import FaultyFlash.Generator
import FaultyFlash.Image
import FaultyFlash.Store

/-!
# Devices

A device is a table of references to stored blocks, together with its counters, its generator and
the countdown to the next loss of power. A device with its store and its image file is a `Flash`;
operations on it are programs of the monad `FlashM`, which keeps the state when an operation fails.

## Main definitions

* `Device`, `Device.fresh`: devices, and a device on which nothing was written
* `Flash`, `FlashM`: a device with its surroundings, and the operations on it
* `Flash.block?`: the view of a device, the block stored at an address
* `Flash.own`, `Flash.put`: a block made the device's own, and changed
* `Flash.adopt`: the whole table exchanged
* `Flash.writeOut`: a write to the image file, which may fail
* `Flash.save`, `Flash.saveAll`: the image file brought up to date

## Main results

* `Flash.run_draw`, `Flash.run_slot`, `Flash.run_deref`, …: the primitive operations as functions
  of the state
* `Flash.run_fetch`: fetching a block is looking at it
-/

namespace FaultyFlash

/-- A device whose blocks are kept in a store with references `R`. -/
structure Device (R : Type) where
  /-- The blocks by address; `none` where nothing was ever written. -/
  slots : Slots R
  /-- The blocks as of the last sync, kept only where a crash returns to it. -/
  synced : Option (Slots R)
  bytesRead : UInt64
  bytesProgrammed : UInt64
  bytesErased : UInt64
  generator : Generator
  /-- The progs and erases left until power is lost; zero if it never is. -/
  countdown : UInt32

/-- A device on which nothing was written. -/
def Device.fresh (R : Type) (cfg : Config) : Device R where
  slots := List.replicate cfg.geometry.blockCount none
  synced :=
    if cfg.crash = .outOfOrder then some (List.replicate cfg.geometry.blockCount none) else none
  bytesRead := 0
  bytesProgrammed := 0
  bytesErased := 0
  generator := ⟨cfg.seed⟩
  countdown := cfg.countdown

/-- The number of addresses at which something was written. -/
def Device.allocated {R : Type} (d : Device R) : Nat :=
  (d.slots.filter Option.isSome).length

/-- A device with the store that keeps its blocks and the image file it writes to. -/
structure Flash (S R : Type) where
  store : S
  image : Option Image
  device : Device R

/-- Operations on a device. -/
abbrev FlashM (S R : Type) := EStateM Failure (Flash S R)

namespace Flash

open EStateM (run_bind run_get)

variable {S R : Type}

/-- Fails with a misuse if the contract is broken. -/
def contract {α : Type} : Except Misuse α → FlashM S R α
  | .ok a => pure a
  | .error m => throw (.misuse m)

/-- Fails with a defect if an invariant is broken. -/
def sound {α : Type} : Except Defect α → FlashM S R α
  | .ok a => pure a
  | .error d => throw (.defect d)

/-- Changes the device and nothing around it. -/
def modifyDevice (f : Device R → Device R) : FlashM S R Unit :=
  modify fun s => { s with device := f s.device }

@[simp] theorem run_contract {α : Type} (x : Except Misuse α) (f : Flash S R) :
    (contract x).run f = match x with
      | .ok a => .ok a f
      | .error m => .error (.misuse m) f := by
  cases x <;> rfl

@[simp] theorem run_sound {α : Type} (x : Except Defect α) (f : Flash S R) :
    (sound x).run f = match x with
      | .ok a => .ok a f
      | .error d => .error (.defect d) f := by
  cases x <;> rfl

@[simp] theorem run_modifyDevice (g : Device R → Device R) (f : Flash S R) :
    (modifyDevice g).run f = .ok () { f with device := g f.device } := rfl

/-! ## Draws -/

/-- Draws a word. -/
def draw : FlashM S R UInt32 := do
  let (w, g) := (← get).device.generator.next
  modifyDevice fun d => { d with generator := g }
  return w

/-- Draws a value below `n`. -/
def drawBelow (n : Nat) : FlashM S R Nat := do
  let (v, g) ← sound ((← get).device.generator.below n)
  modifyDevice fun d => { d with generator := g }
  return v

/-- Draws `n` bytes. -/
def drawBytes (n : Nat) : FlashM S R Bytes := do
  let (bs, g) := Generator.fill n (← get).device.generator
  modifyDevice fun d => { d with generator := g }
  return bs

@[simp] theorem run_draw (f : Flash S R) :
    draw.run f = .ok f.device.generator.next.1
      { f with device := { f.device with generator := f.device.generator.next.2 } } := rfl

theorem run_drawBelow {n : Nat} (h : n ≠ 0) (f : Flash S R) :
    (drawBelow n).run f = .ok (f.device.generator.next.1.toNat % n)
      { f with device := { f.device with generator := f.device.generator.next.2 } } := by
  simp only [drawBelow, run_bind, run_get, Generator.below_of_ne_zero _ h]
  rfl

@[simp] theorem run_drawBytes (n : Nat) (f : Flash S R) :
    (drawBytes n).run f = .ok (Generator.fill n f.device.generator).1
      { f with device :=
        { f.device with generator := (Generator.fill n f.device.generator).2 } } := rfl

/-! ## Slots -/

/-- The slot of an address. -/
def slot (block : Nat) : FlashM S R (Option R) := do
  match (← get).device.slots[block]? with
  | some r => return r
  | none => throw (.defect (.slotTable block))

/-- Lets the slot of an address refer to a block. -/
def setSlot (block : Nat) (r : R) : FlashM S R Unit :=
  modifyDevice fun d => { d with slots := d.slots.set block (some r) }

theorem run_slot (block : Nat) (f : Flash S R) :
    (slot block).run f = match f.device.slots[block]? with
      | some r => .ok r f
      | none => .error (.defect (.slotTable block)) f := by
  simp only [slot, run_bind, run_get]
  cases f.device.slots[block]? <;> rfl

@[simp] theorem run_setSlot (block : Nat) (r : R) (f : Flash S R) :
    (setSlot block r).run f =
      .ok () { f with device := { f.device with slots := f.device.slots.set block (some r) } } :=
  rfl

/-! ## Writes to the image file -/

/-- Lets the image file hold an image, if it takes it. -/
def writeOut (cfg : Config) (image : Image) : FlashM S R Unit :=
  if cfg.image = .sealed then
    throw (.fault (.io none))
  else
    modify fun s => { s with image := some image }

theorem run_writeOut {cfg : Config} (h : cfg.image ≠ .sealed) (image : Image) (f : Flash S R) :
    (writeOut cfg image).run f = .ok () { f with image := some image } := by
  rw [writeOut, if_neg h]
  rfl

variable [BlockStore S R]

/-- The block stored at an address. -/
def block? (f : Flash S R) (block : Nat) : Option Block :=
  f.device.slots[block]?.join.bind (BlockStore.contents f.store)

/-- Changes the store and nothing else. -/
def modifyStore (f : S → S) : FlashM S R Unit :=
  modify fun s => { s with store := f s.store }

/-- Keeps a new block. -/
def alloc (b : Block) : FlashM S R R := do
  let (r, store) := BlockStore.alloc (← get).store b
  modifyStore fun _ => store
  return r

/-- The block a slot refers to. -/
def deref (block : Nat) (r : R) : FlashM S R Block := do
  match BlockStore.contents (← get).store r with
  | some b => return b
  | none => throw (.defect (.dangling block))

/-- The block stored at an address, `none` if nothing was ever written there. -/
def fetch (block : Nat) : FlashM S R (Option Block) := do
  match ← slot block with
  | some r => return some (← deref block r)
  | none => return none

@[simp] theorem run_alloc (b : Block) (f : Flash S R) :
    (alloc b).run f = .ok (BlockStore.alloc f.store b).1
      { f with store := (BlockStore.alloc f.store b).2 } := rfl

theorem run_deref (block : Nat) (r : R) (f : Flash S R) :
    (deref block r).run f = match BlockStore.contents f.store r with
      | some b => .ok b f
      | none => .error (.defect (.dangling block)) f := by
  simp only [deref, run_bind, run_get]
  cases BlockStore.contents f.store r <;> rfl

/-- Where the table reaches and no slot dangles, fetching a block is looking at it. -/
theorem run_fetch {block : Nat} {f : Flash S R} (h : block < f.device.slots.length)
    (sound : ∀ r, f.device.slots[block]? = some (some r) →
      (BlockStore.contents f.store r).isSome) :
    (fetch block).run f = .ok (f.block? block) f := by
  simp only [fetch, run_bind, run_slot, block?, List.getElem?_eq_getElem h] at sound ⊢
  cases stored : f.device.slots[block] with
  | none => rfl
  | some r =>
    obtain ⟨b, contents⟩ := Option.isSome_iff_exists.1 (sound r (by rw [stored]))
    simp only [run_bind, run_deref, contents, Option.join_some, Option.bind_some]
    rfl

/-- Allocates a block at an address where nothing was ever written. Its bad bit is drawn before its
memory is asked for. -/
def allocate (cfg : Config) (block : Nat) : FlashM S R Block := do
  let bit ← drawBelow cfg.geometry.blockBits
  if Config.allocationLimit ≤ cfg.geometry.blockSize then
    throw (.fault .noMemory)
  else
    let b := Block.fresh cfg.geometry.blockSize cfg.fill bit.toUInt32
    setSlot block (← alloc b)
    return b

/-- Lets the slot of an address refer to a duplicate of the block `b` that it refers to by `r`. -/
def duplicate (block : Nat) (r : R) (b : Block) : FlashM S R Unit := do
  let twin ← alloc b
  modifyStore (BlockStore.release · r)
  setSlot block twin

/-- Makes the block at an address the device's own, so that it may be changed: a missing block is
allocated, a shared one is duplicated. -/
def own (cfg : Config) (block : Nat) : FlashM S R Block := do
  match ← slot block with
  | none => allocate cfg block
  | some r =>
    let b ← deref block r
    if BlockStore.refs (← get).store r = 1 then
      return b
    else
      -- the others keep the block, and the device goes on with the twin
      duplicate block r b
      return b

/-- Replaces the block at an address that is the device's own. -/
def put (block : Nat) (b : Block) : FlashM S R Unit := do
  match ← slot block with
  | some r =>
    -- the reference may be another one now, where a reference is the block itself
    let (r, store) := BlockStore.replace (← get).store r b
    modifyStore fun _ => store
    setSlot block r
  | none => throw (.defect (.vanished block))

/-- Changes the block at an address, which becomes the device's own. -/
def amend (cfg : Config) (block : Nat) (f : Block → Except Defect Block) : FlashM S R Unit := do
  let b ← own cfg block
  put block (← sound (f b))

/-- Exchanges the whole table of the device for one that it shares with another holder. -/
def adopt (slots : Slots R) : FlashM S R Unit := do
  let old := (← get).device.slots
  -- a block in both tables must not lose its last holder in between
  modifyStore (BlockStore.retainAll · slots)
  modifyStore (BlockStore.releaseAll · old)
  modifyDevice fun d => { d with slots := slots }

/-! ## The image file -/

/-- Writes a region of a block out to the image file. -/
def save (cfg : Config) (block off len : Nat) : FlashM S R Unit := do
  match (← get).image with
  | none => return
  | some image =>
    let data ← match ← fetch block with
      | some b => sound (b.region off len)
      | none => pure (List.replicate len cfg.fill)
    writeOut cfg (image.write cfg.geometry.blockSize block off data)

/-- Writes every block out to the image file. -/
def saveAll (cfg : Config) : FlashM S R Unit := do
  if (← get).image.isSome then
    (List.range cfg.geometry.blockCount).forM fun block => save cfg block 0 cfg.geometry.blockSize

end Flash

end FaultyFlash
