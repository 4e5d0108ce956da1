import FaultyFlash.Bench
import FaultyFlash.Device.Read
import FaultyFlash.Device.Tamper

/-!
# Requests

What can be asked of a device on a bench, and the type of each answer.

## Main definitions

* `Request`, `Request.Answer`: the requests and the types of their answers
* `Bench.update`, `Bench.interrupt`, `Bench.conclude`: updates, through a loss of power and the
  verdict of its callback
* `Bench.perform`: a request performed

## Main results

* `Counter.get_set`, `Counter.slots_set`, …: what is left when a counter is set
-/

namespace FaultyFlash

/-- The byte counters of a device. -/
inductive Counter where
  | bytesRead
  | bytesProgrammed
  | bytesErased
  deriving DecidableEq, Repr

namespace Counter

/-- The value of a counter. -/
def get {R : Type} (d : Device R) : Counter → UInt64
  | bytesRead => d.bytesRead
  | bytesProgrammed => d.bytesProgrammed
  | bytesErased => d.bytesErased

/-- A device with a counter set. -/
def set {R : Type} (v : UInt64) (d : Device R) : Counter → Device R
  | bytesRead => { d with bytesRead := v }
  | bytesProgrammed => { d with bytesProgrammed := v }
  | bytesErased => { d with bytesErased := v }

/-- Nothing but the counts matters to a counter. -/
theorem get_congr {R R' : Type} {D : Device R} {E : Device R'} (c : Counter)
    (read : D.bytesRead = E.bytesRead) (programmed : D.bytesProgrammed = E.bytesProgrammed)
    (erased : D.bytesErased = E.bytesErased) : c.get D = c.get E := by
  cases c <;> assumption

variable {R : Type} (c : Counter) (v : UInt64) (D : Device R)

@[simp] theorem get_set : c.get (c.set v D) = v := by
  cases c <;> rfl

theorem get_set_of_ne {e : Counter} (h : e ≠ c) : e.get (c.set v D) = e.get D := by
  cases c <;> cases e <;> first | rfl | exact absurd rfl h

@[simp] theorem slots_set : (c.set v D).slots = D.slots := by
  cases c <;> rfl

@[simp] theorem synced_set : (c.set v D).synced = D.synced := by
  cases c <;> rfl

@[simp] theorem countdown_set : (c.set v D).countdown = D.countdown := by
  cases c <;> rfl

end Counter

/-- What can be asked of a device. -/
inductive Request where
  | read (block off len : Nat)
  | update (u : Update)
  | sync
  | wear (block : Nat)
  | isBad (block : Nat)
  | badBit (block : Nat)
  | isMetastable (block : Nat)
  | blockRefs (block : Nat)
  | crc (block : Nat)
  | fingerprint
  | setWear (block : Nat) (wear : UInt32)
  | markBad (block : Nat)
  | markGood (block : Nat)
  | setBadBit (block bit : Nat)
  | randomizeBadBit (block : Nat)
  | flipBit (block bit : Nat)
  | drawBytes (len : Nat)
  | counter (c : Counter)
  | setCounter (c : Counter) (value : UInt64)
  | countdown
  | setCountdown (value : UInt32)
  | generator
  | allocated
  | config
  | image
  /-- Makes a copy, which lives on without the one who asks. -/
  | copy
  deriving DecidableEq, Repr

/-- The type of the answer to a request. -/
@[reducible] def Request.Answer : Request → Type
  | read .. => Bytes
  | update _ => Unit
  | sync => Unit
  | wear _ => UInt32
  | isBad _ => Bool
  | badBit _ => Option Nat
  | isMetastable _ => Bool
  | blockRefs _ => Nat
  | crc _ => UInt32
  | fingerprint => UInt32
  | setWear .. => Unit
  | markBad _ => Unit
  | markGood _ => Unit
  | setBadBit .. => Unit
  | randomizeBadBit _ => Unit
  | flipBit .. => Unit
  | drawBytes _ => Bytes
  | counter _ => UInt64
  | setCounter .. => Unit
  | countdown => UInt32
  | setCountdown _ => Unit
  | generator => Generator
  | allocated => Nat
  | config => Config
  | image => Option Image
  | copy => Unit

/-- Answers to losses of power, by the handler of the device that lost it. -/
abbrev Responder (S R κ μ : Type) := Handler κ → Handle → BenchM S R κ μ (Except Failure Verdict)

namespace Bench

variable {S R κ μ : Type} [BlockStore S R]

/-- Asks a question about the device itself. -/
def query {α : Type} (d : Handle) (f : Device R → α) : BenchM S R κ μ (Except Failure α) :=
  on d fun _ => do return f (← get).device

/-- What a verdict does to a device whose state was set aside. -/
def conclude (d : Handle) : Except Failure Verdict → BenchM S R κ μ (Except Failure Unit)
  | .ok .resume => resume d
  | .ok .abort => do
    discard
    return .error (.fault .powerLoss)
  | .error e => do
    discard
    return .error e

/-- Loses power during an update of a device. Without a callback the update fails. Otherwise the
state is set aside, power is lost, and `respond` gives the verdict of the callback; the update goes
on only if it resumes. -/
def interrupt (respond : Responder S R κ μ) (d : Handle) (u : Update) :
    BenchM S R κ μ (Except Failure Unit) := do
  match (← rig d).callback with
  | none =>
    match ← on d (Flash.crash · u) with
    | .ok () => return .error (.fault .powerLoss)
    | .error e => return .error e
  | some handler =>
    -- the state must be set aside before the crash changes it
    suspend d
    match ← on d (Flash.crash · u) with
    | .ok () => conclude d (← respond handler d)
    | .error e => conclude d (.error e)

/-- Performs an update of a device. -/
def update (respond : Responder S R κ μ) (d : Handle) (u : Update) :
    BenchM S R κ μ (Except Failure Unit) := do
  match ← on d (Flash.start · u) with
  | .error e => return .error e
  | .ok .ignored => return .ok ()
  | .ok (.proceed worn) => on d (Flash.complete · worn u)
  | .ok (.powerLost worn) =>
    -- an update that is resumed completes, whatever happened to the device meanwhile
    match ← interrupt respond d u with
    | .error e => return .error e
    | .ok () => on d (Flash.complete · worn u)

/-- Performs a request on a device; `respond` answers losses of power. -/
def perform (respond : Responder S R κ μ) (d : Handle) :
    (r : Request) → BenchM S R κ μ (Except Failure r.Answer)
  | .read block off len => on d (Flash.read · block off len)
  | .update u => update respond d u
  | .sync => on d fun _ => Flash.sync
  | .wear block => on d (Flash.wear · block)
  | .isBad block => on d (Flash.isBad · block)
  | .badBit block => on d (Flash.badBit · block)
  | .isMetastable block => on d (Flash.isMetastable · block)
  | .blockRefs block => on d (Flash.blockRefs · block)
  | .crc block => on d (Flash.crc · block)
  | .fingerprint => on d Flash.fingerprint
  | .setWear block wear => on d (Flash.setWear · block wear)
  | .markBad block => on d (Flash.markBad · block)
  | .markGood block => on d (Flash.markGood · block)
  | .setBadBit block bit => on d (Flash.setBadBit · block bit)
  | .randomizeBadBit block => on d (Flash.randomizeBadBit · block)
  | .flipBit block bit => on d (Flash.flipBit · block bit)
  | .drawBytes len => on d fun _ => Flash.drawBytes len
  | .counter c => query d c.get
  | .setCounter c value => on d fun _ => Flash.modifyDevice (c.set value)
  | .countdown => query d Device.countdown
  | .setCountdown value =>
    on d fun _ => Flash.modifyDevice fun dev => { dev with countdown := value }
  | .generator => query d Device.generator
  | .allocated => query d Device.allocated
  | .config => on d fun cfg => pure cfg
  | .image => on d fun _ => do return (← get).image
  | .copy => do
    let _ ← copy d
    return .ok ()

end Bench

end FaultyFlash
