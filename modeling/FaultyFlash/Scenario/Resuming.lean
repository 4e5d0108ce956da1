import FaultyFlash.Bench
import FaultyFlash.Scenario.Strategy

/-!
# Resuming scenarios

The body of a test is run on a device; when it fails because power was lost, it is run again on
the device as the crash left it, with the countdown that the schedule names next.

## Main definitions

* `Scenario.Body`: bodies of tests
* `Scenario.Progress`, `Scenario.Turn`: what a scenario went through so far, and how a run ends
* `Scenario.turn`, `Scenario.resuming`: one run of the body, and all of them
-/

namespace FaultyFlash

namespace Scenario

variable {S R κ μ ε : Type}

/-- Bodies of tests: `body n d` is the `n`-th run, counted from one, on the device of handle `d`. -/
abbrev Body (S R κ μ ε : Type) := Nat → Handle → BenchM S R κ μ (Except ε Unit)

/-- What a resuming scenario has gone through so far, and the countdowns armed so far. -/
structure Progress where
  report : Report
  trail : List UInt32
  deriving DecidableEq, Repr

/-- How a run of the body ends under a resuming strategy. -/
inductive Turn (ε : Type) where
  /-- Power was lost, and the body is to be run again. -/
  | again (p : Progress)
  | finished (r : Report)
  | failed (e : ε)

/-- Arms the countdown of a device. -/
def arm (d : Handle) (countdown : UInt32) : BenchM S R κ μ (Except Failure Unit) :=
  Bench.on d fun _ => Flash.modifyDevice fun dev => { dev with countdown := countdown }

variable [PowerLossAware ε]

/-- Runs the body once on a device. -/
def turn (schedule : Nat → UInt32) (body : Body S R κ μ ε) (d : Handle) (p : Progress) :
    BenchM S R κ μ (Turn ε) := do
  let report := p.report.addRun
  match ← body report.runs d with
  | .ok () => return .finished report
  | .error e =>
    if PowerLossAware.isPowerLoss e then
      -- the countdowns armed so far led here, and the next is armed for the run to come
      let report := report.addLoss p.trail
      let countdown := schedule report.powerLosses
      match ← arm d countdown with
      | .ok () => return .again ⟨report, p.trail ++ [countdown]⟩
      | .error f => return .failed (PowerLossAware.ofFailure f)
    else
      return .failed e

/-- Runs the body on a device until it succeeds or fails otherwise, at most `limit` times. -/
def resuming (schedule : Nat → UInt32) (body : Body S R κ μ ε) (d : Handle) :
    (limit : Nat) → Progress → BenchM S R κ μ (Except ε Report)
  | 0, _ => throw .exhausted
  | limit + 1, p => do
    match ← turn schedule body d p with
    | .again p => resuming schedule body d limit p
    | .finished r => return .ok r
    | .failed e => return .error e

end Scenario

end FaultyFlash
