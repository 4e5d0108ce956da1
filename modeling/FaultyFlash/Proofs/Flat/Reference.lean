import FaultyFlash.Proofs.Interplay
import Mathlib.Logic.Function.Basic

/-!
# Flat devices

A flat device holds all of its blocks from the start, each with its wear and its bytes, and a copy
of all of them as of the last sync. It draws nothing, it shares nothing, and no block of it is ever
missing. It is what a device is meant to look like, as long as no bit is left to chance.

Trials use devices in the ways that flat devices know. They are run on the devices of a bench, and
on flat devices.

## Main definitions

* `Flat`, `Flat.Cell`, `Flat.fresh`: flat devices and their blocks, and one as it is made
* `Flat.read`, `Flat.update`, `Flat.sync`, …: what is done to a flat device
* `Flat.Order`, `Flat.obey`: what is asked of a flat device
* `Trial`, `Trial.interplay`, `Trial.onFlats`: trials, and their runs on benches and on flat devices
-/

namespace FaultyFlash

/-- A block of a flat device. -/
structure Flat.Cell where
  wear : UInt32
  data : Bytes

/-- A device that holds all of its blocks from the start. -/
structure Flat where
  /-- The blocks by address. -/
  cells : Nat → Flat.Cell
  /-- The blocks as of the last sync. -/
  synced : Nat → Flat.Cell
  counters : Counter → UInt64
  /-- The progs and erases left until power is lost; zero if it never is. -/
  countdown : UInt32

/-- Operations on a flat device. -/
abbrev FlatM := EStateM Failure Flat

namespace Flat

variable {α : Type}

/-- A flat device on which nothing was written. -/
def fresh (cfg : Config) : Flat where
  cells _ := ⟨0, List.replicate cfg.geometry.blockSize cfg.fill⟩
  synced _ := ⟨0, List.replicate cfg.geometry.blockSize cfg.fill⟩
  counters _ := 0
  countdown := cfg.countdown

/-- Fails with a misuse if the contract is broken. -/
def demand : Except Misuse Unit → FlatM Unit
  | .ok _ => pure ()
  | .error m => throw (.misuse m)

/-- The block at an address. -/
def cell (block : Nat) : FlatM Cell := do
  return (← get).cells block

/-- Changes the block at an address. -/
def change (block : Nat) (f : Cell → Cell) : FlatM Unit :=
  modify fun F => { F with cells := Function.update F.cells block (f (F.cells block)) }

/-- Sets a counter by its value. -/
def recount (c : Counter) (f : UInt64 → UInt64) : FlatM Unit :=
  modify fun F => { F with counters := Function.update F.counters c (f (F.counters c)) }

theorem run_cell (block : Nat) (F : Flat) : (cell block).run F = .ok (F.cells block) F := rfl

/-! ## Reads and updates -/

/-- The bytes of a region. -/
def region (c : Cell) (off len : Nat) : Bytes := (c.data.drop off).take len

/-- The bytes of a region of a block, unless it is worn out. -/
def read (cfg : Config) (block off len : Nat) : FlatM Bytes := do
  demand (cfg.geometry.checkRegion .read cfg.geometry.readSize block off len)
  let c ← cell block
  if cfg.isWorn c.wear && cfg.worn = .readError then
    throw (.fault (.corrupt block))
  recount .bytesRead (· + len.toUInt64)
  return region c off len

/-- Are these bytes erased? Where erases are not simulated, all bytes are. -/
def isErased (cfg : Config) (bs : Bytes) : Bool :=
  cfg.eraseValue.all fun v => bs.all (· == v)

/-- Refuses an update, or says whether it is done at all. -/
def permit (cfg : Config) : Update → FlatM Bool
  | .prog block off data => do
    demand (cfg.geometry.checkRegion .prog cfg.geometry.progSize block off data.length)
    let c ← cell block
    if cfg.isWorn c.wear then
      if cfg.worn = .progError then
        throw (.fault (.corrupt block))
      return cfg.worn ≠ .progNoop
    if !isErased cfg (region c off data.length) then
      throw (.misuse (.notErased block off))
    return true
  | .erase block => do
    demand (cfg.geometry.checkBlock .erase block)
    let c ← cell block
    if cfg.isWorn c.wear then
      if cfg.worn = .eraseError then
        throw (.fault (.corrupt block))
      return cfg.worn ≠ .eraseNoop
    return true

/-- Sets the countdown. -/
def rearm (countdown : UInt32) : FlatM Unit :=
  modify fun F => { F with countdown := countdown }

/-- Counts an update towards the loss of power; says whether this one loses it. -/
def tick : FlatM Bool := do
  let left := (← get).countdown
  if left = 0 then
    return false
  rearm (left - 1)
  return left = 1

/-- The bytes of a block after an update. -/
def after (cfg : Config) (old : Bytes) : Update → Bytes
  | .prog _ off data => old.take off ++ data ++ old.drop (off + data.length)
  | .erase _ => cfg.eraseValue.elim old (List.replicate cfg.geometry.blockSize)

/-- Does an update. -/
def complete (cfg : Config) : Update → FlatM Unit
  | .prog block off data => do
    change block fun c => { c with data := after cfg c.data (.prog block off data) }
    recount .bytesProgrammed (· + data.length.toUInt64)
  | .erase block => do
    change block fun c => ⟨Config.successor c.wear, after cfg c.data (.erase block)⟩
    recount .bytesErased (· + cfg.geometry.blockSize.toUInt64)

/-- Loses power during an update. If updates are out of order, its bytes land, and all other blocks
are as they were synced; else nothing happens. -/
def lose (cfg : Config) (u : Update) : FlatM Unit := do
  if cfg.crash = .outOfOrder then
    change u.block fun c => { c with data := after cfg c.data u }
    modify fun F => { F with cells := Function.update F.synced u.block (F.cells u.block) }

/-- Performs an update. -/
def update (cfg : Config) (u : Update) : FlatM Unit := do
  if ← permit cfg u then
    if ← tick then
      lose cfg u
      throw (.fault .powerLoss)
    complete cfg u

/-- Copies all blocks, for the next loss of power. -/
def sync : FlatM Unit :=
  modify fun F => { F with synced := F.cells }

/-! ## Tampering and questions -/

/-- Sets the wear of a block. -/
def setWear (cfg : Config) (block : Nat) (wear : UInt32) : FlatM Unit := do
  demand (cfg.geometry.checkBlock .setWear block)
  change block fun c => { c with wear := wear }

/-- Inverts a bit of a block. -/
def flipBit (cfg : Config) (block bit : Nat) : FlatM Unit := do
  demand (cfg.geometry.checkBlock .flipBit block)
  demand (if bit < cfg.geometry.blockBits then .ok () else .error (.flipOutside bit))
  change block fun c => { c with data := c.data.modify (bit / 8) (· ^^^ Bytes.mask (bit % 8)) }

/-- A question about a block. -/
def inspect {α : Type} (cfg : Config) (op : Operation) (block : Nat) (f : Cell → α) : FlatM α := do
  demand (cfg.geometry.checkBlock op block)
  return f (← cell block)

/-- The checksum of the checksums of all blocks. -/
def fingerprint (cfg : Config) : FlatM UInt32 := do
  let F ← get
  return (List.range cfg.geometry.blockCount).foldl
    (fun c block => Checksum.append c (Bytes.ofWord (Checksum.crc (F.cells block).data))) 0

/-! ## Orders -/

/-- What can be asked of a flat device. -/
inductive Order where
  | read (block off len : Nat)
  | update (u : Update)
  | sync
  | flipBit (block bit : Nat)
  | setWear (block : Nat) (value : UInt32)
  | markBad (block : Nat)
  | markGood (block : Nat)
  | wear (block : Nat)
  | isBad (block : Nat)
  | crc (block : Nat)
  | fingerprint
  | counter (c : Counter)
  | setCounter (c : Counter) (value : UInt64)
  | countdown
  | setCountdown (value : UInt32)

/-- An order as it is asked of a device of a bench. -/
def Order.request : Order → Request
  | read block off len => .read block off len
  | update u => .update u
  | sync => .sync
  | flipBit block bit => .flipBit block bit
  | setWear block value => .setWear block value
  | markBad block => .markBad block
  | markGood block => .markGood block
  | wear block => .wear block
  | isBad block => .isBad block
  | crc block => .crc block
  | fingerprint => .fingerprint
  | counter c => .counter c
  | setCounter c value => .setCounter c value
  | countdown => .countdown
  | setCountdown value => .setCountdown value

/-- The type of the answer to an order. -/
abbrev Order.Answer (o : Order) : Type := o.request.Answer

/-- What a flat device does when it is given an order. -/
def obey (cfg : Config) : (o : Order) → FlatM o.Answer
  | .read block off len => read cfg block off len
  | .update u => update cfg u
  | .sync => sync
  | .flipBit block bit => flipBit cfg block bit
  | .setWear block value => setWear cfg block value
  | .markBad block => setWear cfg block cfg.wornOut
  | .markGood block => setWear cfg block 0
  | .wear block => inspect cfg .wear block Cell.wear
  | .isBad block => inspect cfg .isBad block fun c => cfg.isWorn c.wear
  | .crc block => inspect cfg .crc block fun c => Checksum.crc c.data
  | .fingerprint => fingerprint cfg
  | .counter c => do return (← get).counters c
  | .setCounter c value => recount c fun _ => value
  | .countdown => do return (← get).countdown
  | .setCountdown value => rearm value

end Flat

/-! ## Several flat devices -/

/-- Operations on flat devices, which are named by their places. -/
abbrev FlatsM := EStateM Halt (List Flat)

namespace FlatsM

variable {α : Type}

/-- Runs an operation on one of the devices, and answers with what came of it. -/
def on (d : Handle) (op : FlatM α) : FlatsM (Except Failure α) := fun W =>
  match W[d]? with
  | none => .error (.noDevice d) W
  | some F =>
    match op F with
    | .ok a G => .ok (.ok a) (W.set d G)
    | .error e G => .ok (.error e) (W.set d G)

/-- Copies one of the devices, and gives the handle of the copy. -/
def copy (d : Handle) : FlatsM Handle := fun W =>
  match W[d]? with
  | none => .error (.noDevice d) W
  | some F => .ok W.length (W ++ [F])

theorem run_on (d : Handle) (op : FlatM α) (W : List Flat) :
    (on d op).run W = match W[d]? with
      | none => .error (.noDevice d) W
      | some F => match op.run F with
        | .ok a G => .ok (.ok a) (W.set d G)
        | .error e G => .ok (.error e) (W.set d G) := rfl

theorem run_copy (d : Handle) (W : List Flat) :
    (copy d).run W = match W[d]? with
      | none => .error (.noDevice d) W
      | some F => .ok W.length (W ++ [F]) := rfl

end FlatsM

/-- What is done to devices that are meant to look flat. What comes next may depend on all answers
so far. -/
inductive Trial (α : Type) : Type where
  /-- Ends with a result. -/
  | done (a : α)
  /-- Gives an order to a device. -/
  | order (d : Handle) (o : Flat.Order) (next : Except Failure o.Answer → Trial α)
  /-- Copies a device, and is told the handle of the copy. -/
  | copy (d : Handle) (next : Handle → Trial α)

namespace Trial

variable {κ μ α : Type}

/-- A trial on the devices of a bench. -/
def interplay : Trial α → Interplay κ μ α
  | .done a => .done a
  | .order d o next => .ask d o.request fun x => (next x).interplay
  | .copy d next => .copy d fun e => (next e).interplay

/-- A trial on flat devices. -/
def onFlats (cfg : Config) : Trial α → FlatsM α
  | .done a => pure a
  | .order d o next => do (next (← FlatsM.on d (Flat.obey cfg o))).onFlats cfg
  | .copy d next => do (next (← FlatsM.copy d)).onFlats cfg

end Trial

end FaultyFlash
