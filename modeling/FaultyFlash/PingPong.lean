import FaultyFlash.Program
import FaultyFlash.Scenario.Strategy

/-!
# The ping-pong counter

The smallest file system that survives a loss of power: a counter kept in two blocks, which hold
alternating records of its latest values. A commit erases the older record and writes the new one
over it, so the newer record is untouched while it is the only good one. Records carry a checksum,
so a torn record is not taken for a good one.

## Main definitions

* `PingPong.Record`, `PingPong.Record.encode`, `PingPong.Record.decode`: records and their bytes
* `PingPong.mount`: the newest good record
* `PingPong.commit`: the next record
* `PingPong.countTo`, `PingPong.CountError`: the counter driven to a target, and how that fails

## Main results

* `PingPong.Record.decode_encode`: a record reads back
-/

namespace FaultyFlash

namespace PingPong

/-- A record: how many commits came before, and the value of the counter. -/
structure Record where
  revision : UInt32
  value : UInt32
  deriving DecidableEq, Repr

/-- A word with its bits moved up in a circle. -/
def rotateLeft (w n : UInt32) : UInt32 := (w <<< n) ||| (w >>> (32 - n))

namespace Record

/-- The word every record starts with. -/
def magic : UInt32 := 0x504f4e47

/-- The number of bytes of a record. -/
def size : Nat := 16

/-- The checksum of a record. -/
def checksum (r : Record) : UInt32 :=
  magic ^^^ rotateLeft r.revision 7 ^^^ rotateLeft r.value 19 ^^^ 0x9e3779b9

/-- The bytes of a record: the magic word, the revision, the value, the checksum. -/
def encode (r : Record) : Bytes :=
  Bytes.ofWord magic ++ Bytes.ofWord r.revision ++ Bytes.ofWord r.value ++ Bytes.ofWord r.checksum

/-- The record in some bytes, if its magic word and its checksum are right. -/
def decode (bs : Bytes) : Option Record :=
  let r : Record := ⟨bs.word 4, bs.word 8⟩
  if bs.word 0 = magic ∧ bs.word 12 = r.checksum then some r else none

/-- The record of a counter that was never committed. -/
def blank : Record := ⟨0, 0⟩

/-- The newer of two records; the first of records of one revision. -/
def newer (best next : Option Record) : Option Record :=
  match best, next with
  | some b, some n => if n.revision > b.revision then some n else some b
  | some b, none => some b
  | none, n => n

end Record

variable {κ μ : Type}

/-- Finds the newest good record. -/
def mount : Task κ μ Record := do
  let first ← Task.ask (.read 0 0 Record.size)
  let second ← Task.ask (.read 1 0 Record.size)
  return (Record.newer (Record.decode first) (Record.decode second)).getD Record.blank

/-- Writes the record after `r`, with a new value, over the older block. -/
def commit (r : Record) (value : UInt32) : Task κ μ Record := do
  let next : Record := ⟨r.revision + 1, value⟩
  -- the newest record is in the other block
  let block := (next.revision % 2).toNat
  Task.ask (.update (.erase block))
  Task.ask (.update (.prog block 0 next.encode))
  Task.ask .sync
  return next

/-- Counts up by `n`, one commit at a time. -/
def climb : Nat → Record → Task κ μ Record
  | 0, r => return r
  | n + 1, r => do climb n (← commit r (r.value + 1))

/-- What is wrong with a counter that should be driven to a target. -/
inductive Miscount where
  /-- It stands past the target already. -/
  | past (target value : UInt32)
  /-- It does not stand at the target in the end. -/
  | short (value target : UInt32)
  deriving DecidableEq, Repr

/-- The text of a miscount. -/
def Miscount.message : Miscount → String
  | past target value => s!"counted past {target}: {value}"
  | short value target =>
    s!"assertion \x60left == right\x60 failed\n  left: {value}\n right: {target}"

/-- Why a counter could not be driven to a target. -/
inductive CountError where
  | device (f : Failure)
  | miscount (m : Miscount)
  deriving DecidableEq, Repr

instance : PowerLossAware CountError where
  ofFailure := .device
  isPowerLoss
    | .device f => f.isPowerLoss
    | .miscount _ => false

/-- Counts up to a target from whatever is mounted, and checks the counter after a new mount. -/
def countTo (target : UInt32) : ExceptT CountError (Program κ μ) Unit := do
  let start ← ExceptT.adapt CountError.device mount
  if start.value > target then
    throw (.miscount (.past target start.value))
  else
    let steps := target.toNat - start.value.toNat
    let _ ← ExceptT.adapt CountError.device (climb steps start)
    let reached ← ExceptT.adapt CountError.device mount
    if reached.value ≠ target then
      throw (.miscount (.short reached.value target))

theorem Record.length_encode (r : Record) : r.encode.length = Record.size := rfl

/-- A record reads back from its bytes. -/
theorem Record.decode_encode (r : Record) : Record.decode r.encode = some r := by
  have magic : r.encode.word 0 = Record.magic := Bytes.word_ofWord Record.magic
  have revision : r.encode.word 4 = r.revision := Bytes.word_ofWord r.revision
  have value : r.encode.word 8 = r.value := Bytes.word_ofWord r.value
  have checksum : r.encode.word 12 = r.checksum := Bytes.word_ofWord r.checksum
  simp [Record.decode, magic, revision, value, checksum]

end PingPong

end FaultyFlash
