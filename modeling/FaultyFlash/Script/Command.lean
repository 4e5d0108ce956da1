import FaultyFlash.PingPong

/-!
# Commands of a script

What a test given as data says: steps that each do one thing to the device at hand, and callbacks
that play lists of steps when the device loses power.

## Main definitions

* `ScriptError`: how a step fails
* `Command`, `Step`: what is done, and how often
* `Call`, `Callback`: what a callback plays
-/

namespace FaultyFlash

/-- How a step of a script fails. -/
inductive ScriptError where
  | device (f : Failure)
  | counter (m : PingPong.Miscount)
  /-- An error of the test itself. -/
  | custom (text : String)
  /-- An error of the test itself that counts as a loss of power. -/
  | customPowerLoss
  deriving DecidableEq, Repr

namespace ScriptError

instance : PowerLossAware ScriptError where
  ofFailure := device
  isPowerLoss
    | device f => f.isPowerLoss
    | counter _ => false
    | custom _ => false
    | customPowerLoss => true

/-- Does the error end a test, rather than a step of it? -/
def isFatal : ScriptError → Bool
  | device (.misuse _) => true
  | device (.defect _) => true
  | counter _ => true
  | _ => false

/-- The error of a step that drives the counter. -/
def ofCounter : PingPong.CountError → ScriptError
  | .device f => device f
  | .miscount m => counter m

end ScriptError

/-- What a step does; callbacks have type `κ`. -/
inductive Command (κ : Type) where
  /-- Makes a request. -/
  | ask (r : Request)
  /-- Asks for the geometry. -/
  | geometry
  /-- Asks for a text that describes the device. -/
  | describe
  /-- Asks for all blocks that were written. -/
  | dump
  /-- Installs or removes the callback of the device. -/
  | install (callback : Option κ)
  /-- Mounts the counter and asks for its value. -/
  | mount
  /-- Mounts the counter and commits a value. -/
  | commit (value : UInt32)
  /-- Drives the counter to a target. -/
  | countTo (target : UInt32)
  /-- Fails. -/
  | fail (e : ScriptError)

/-- A step of a script. -/
structure Step (κ : Type) where
  command : Command κ
  /-- A block shown after the step, if the device has it. -/
  watch : Option Nat := none
  /-- How often the step is performed. -/
  times : Nat := 1

/-- The steps, each as often as it is performed. -/
def Step.expand {κ : Type} (steps : List (Step κ)) : List (Step κ) :=
  steps.flatMap fun s => List.replicate s.times s

/-- How a callback ends. -/
inductive Ending where
  | verdict (v : Verdict)
  | fail (f : Fault)
  deriving DecidableEq, Repr

/-- One call of a callback. -/
structure Call (κ : Type) where
  steps : List (Step κ)
  ending : Ending

/-- A callback plays its calls one after another, and the last of them from then on. -/
inductive Callback where
  | mk (calls : List (Call Callback))

end FaultyFlash
