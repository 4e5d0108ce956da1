import FaultyFlash.Script.Command

/-!
# What a script shows

After each step of a script are shown its outcome, the state of the device, a block that is
watched, and the callbacks that ran during it.

## Main definitions

* `Status`, `BlockView`, `Dump`: what is shown of a device
* `Value`, `StepAnswer`, `CrashRecord`, `RunRecord`: what is shown of steps, callbacks and runs
* `Memory`: what a script remembers while it runs
* `Status.take`, `BlockView.take`, `Dump.take`: looking at the device at hand
-/

namespace FaultyFlash

/-- The state of a device as it is shown. -/
structure Status where
  bytesRead : UInt64
  bytesProgrammed : UInt64
  bytesErased : UInt64
  countdown : UInt32
  /-- The word the generator would give next. -/
  next : UInt32
  /-- The fingerprint of the device, unless its blocks are too large. -/
  fingerprint : Option UInt32
  deriving DecidableEq, Repr

/-- A block as it is shown. -/
structure BlockView where
  refs : Nat
  wear : UInt32
  isBad : Bool
  badBit : Option Nat
  isMetastable : Bool
  /-- The checksum of the block, unless blocks are too large. -/
  crc : Option UInt32
  deriving DecidableEq, Repr

/-- The blocks that were written, with their addresses. -/
abbrev Dump := List (Nat × BlockView)

/-- What a command answers. -/
inductive Value where
  | nothing
  | bytes (bs : Bytes)
  | number (n : Nat)
  | flag (b : Bool)
  | position (p : Option Nat)
  | text (s : String)
  | geometry (g : Geometry)
  | config (c : Config)
  | dump (d : Dump)
  | image (i : Option Image)
  deriving DecidableEq, Repr

/-- The answer to a request as it is shown. -/
def Value.ofAnswer : (r : Request) → r.Answer → Value
  | .read .., bs => bytes bs
  | .drawBytes _, bs => bytes bs
  | .wear _, w => number w.toNat
  | .crc _, c => number c.toNat
  | .fingerprint, c => number c.toNat
  | .blockRefs _, n => number n
  | .counter _, v => number v.toNat
  | .countdown, n => number n.toNat
  | .generator, g => number g.state.toNat
  | .allocated, n => number n
  | .isBad _, b => flag b
  | .isMetastable _, b => flag b
  | .badBit _, p => position p
  | .config, c => config c
  | .image, i => image i
  | .copy, _ => nothing
  | .update _, _ => nothing
  | .sync, _ => nothing
  | .setWear .., _ => nothing
  | .markBad _, _ => nothing
  | .markGood _, _ => nothing
  | .setBadBit .., _ => nothing
  | .randomizeBadBit _, _ => nothing
  | .flipBit .., _ => nothing
  | .setCounter .., _ => nothing
  | .setCountdown _, _ => nothing

/-- A call of a callback as it is shown: the device when it began, and what its steps answered. -/
structure CrashRecord (α : Type) where
  entry : Status
  steps : List α

/-- What a step answers, and what is shown after it. -/
structure StepAnswer where
  outcome : Except ScriptError Value
  status : Status
  watched : Option BlockView
  /-- The calls of callbacks during the step, but for those during steps of these calls. -/
  crashes : List (CrashRecord StepAnswer)

/-- A run of a body as it is shown. -/
structure RunRecord where
  start : Status
  dump : Option Dump
  steps : List StepAnswer
  /-- How the run ended, and the device then; `none` if it ended the whole test. -/
  ending : Option (Except ScriptError Unit × Status)

/-- What a script remembers while it runs. -/
structure Memory where
  /-- The calls of callbacks during the present step. -/
  crashes : List (CrashRecord StepAnswer) := []
  runs : List RunRecord := []

/-- Tasks of a script. -/
abbrev ScriptTask := Task Callback Memory

/-- The block size up to which checksums are shown. -/
def checksumLimit : Nat := 1048576

/-- A checksum, unless blocks are too large. -/
def checksum? (r : ScriptTask UInt32) : ScriptTask (Option UInt32) := do
  if (← Task.ask .config).geometry.blockSize ≤ checksumLimit then
    return some (← r)
  else
    return none

/-- The state of the device at hand. -/
def Status.take : ScriptTask Status := do
  return {
    bytesRead := ← Task.ask (.counter .bytesRead)
    bytesProgrammed := ← Task.ask (.counter .bytesProgrammed)
    bytesErased := ← Task.ask (.counter .bytesErased)
    countdown := ← Task.ask .countdown
    next := (← Task.ask .generator).next.1
    fingerprint := ← checksum? (Task.ask .fingerprint) }

/-- A block of the device at hand. -/
def BlockView.take (block : Nat) : ScriptTask BlockView := do
  return {
    refs := ← Task.ask (.blockRefs block)
    wear := ← Task.ask (.wear block)
    isBad := ← Task.ask (.isBad block)
    badBit := ← Task.ask (.badBit block)
    isMetastable := ← Task.ask (.isMetastable block)
    crc := ← checksum? (Task.ask (.crc block)) }

/-- The blocks of the device at hand that were written. -/
def Dump.take : ScriptTask Dump := do
  let count := (← Task.ask .config).geometry.blockCount
  (List.range count).filterMapM fun block => do
    if (← Task.ask (.blockRefs block)) = 0 then return none
    return some (block, ← BlockView.take block)

end FaultyFlash
