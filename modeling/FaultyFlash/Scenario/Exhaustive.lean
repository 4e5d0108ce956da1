import FaultyFlash.Scenario.Resuming

/-!
# Exhaustive scenarios

The body of a test is run on a device that is copied at every update, as power is lost there and
comes back. Then the copies are explored one after another in the same way, and their copies in
turn, down to a bounded number of losses of power in a row; there the body just runs.

## Main definitions

* `Scenario.visit`: one run of the body, and the copies taken on the way
* `Scenario.explore`: copies explored one after another
* `Scenario.layer`: a run of the body and the exploration of its copies
-/

namespace FaultyFlash

namespace Scenario

variable {S R κ μ ε : Type} [BlockStore S R] [PowerLossAware ε]

/-- Gives up several devices. -/
def dropAll (ds : List Handle) : BenchM S R κ μ Unit := ds.forM Bench.drop

/-- Runs the body once, as run `n`, on a device with a handler and a countdown, then gives the
device up. Answers with the copies taken on the way; after a failure they are given up, too. -/
def visit (body : Body S R κ μ ε) (handler : Handler κ) (countdown : UInt32) (n : Nat)
    (d : Handle) : BenchM S R κ μ (Except ε (List Handle)) := do
  Bench.install d (some handler)
  match ← arm d countdown with
  | .error f => return .error (PowerLossAware.ofFailure f)
  | .ok () =>
    let outcome ← body n d
    -- the copies were noted on the bench by the handler
    Bench.drop d
    let forks := (← get).forks
    modify fun w => { w with forks := [] }
    match outcome with
    | .ok () => return .ok forks
    | .error e =>
      dropAll forks
      return .error e

/-- Explores copies in turn by `layer`, which is given a device, its trail, and the report so far.
The trail of a copy ends with its place among the copies, counted from one; `i` were explored
before. The scenario breaks off at a place that does not fit in a word. After a failure the copies
left over are given up. -/
def explore (layer : Handle → List UInt32 → Report → BenchM S R κ μ (Except ε Report))
    (trail : List UInt32) : List Handle → (i : Nat) → Report → BenchM S R κ μ (Except ε Report)
  | [], _, report => return .ok report
  | d :: ds, i, report => do
    if UInt32.size ≤ i + 1 then
      throw .exhausted
    -- the loss is reported before the copy is explored, so a trail precedes its extensions
    let there := trail ++ [(i + 1).toUInt32]
    match ← layer d there (report.addLoss there) with
    | .ok report => explore layer trail ds (i + 1) report
    | .error e =>
      dropAll ds
      return .error e

/-- Runs the body on a device and explores the copies taken on the way, for at most `depth` losses
of power in a row. A body that arms a countdown of its own at the bottom rides through it. -/
def layer (body : Body S R κ μ ε) :
    (depth : Nat) → Handle → List UInt32 → Report → BenchM S R κ μ (Except ε Report)
  | 0, d, _, report => do
    let report := report.addRun
    match ← visit body .ride 0 report.runs d with
    | .ok _ => return .ok report
    | .error e => return .error e
  | depth + 1, d, trail, report => do
    let report := report.addRun
    match ← visit body .fork 1 report.runs d with
    | .ok forks => explore (layer body depth) trail forks 0 report
    | .error e => return .error e

end Scenario

end FaultyFlash
