import FaultyFlash.Program.Run
import FaultyFlash.Scenario.Exhaustive

/-!
# Scenarios

A scenario makes a device and runs the body of a test on it again and again, losing power on the
way as a strategy says.

## Main definitions

* `Scenario.configFor`: the configuration of the device
* `Scenario.drive`: a scenario on a bench
* `Scenario.Outcome`, `Scenario.runBody`, `Scenario.run`: a scenario from the making of its device
  on
-/

namespace FaultyFlash

namespace Scenario

variable {S R κ μ ε : Type} [BlockStore S R] [PowerLossAware ε]

/-- The configuration of the device of a scenario: its countdown is the strategy's. -/
def configFor (strategy : Strategy) (cfg : Config) : Config :=
  { cfg with countdown := strategy.schedule 0 }

/-- Runs a scenario on a bench with one new device, made for the strategy. Under a resuming
strategy the body is run at most `limit` times. -/
def drive (strategy : Strategy) (body : Body S R κ μ ε) (limit : Nat) :
    BenchM S R κ μ (Except ε Report) :=
  match strategy with
  | .exhaustive depth => layer body depth 0 [] {}
  | strategy => resuming strategy.schedule body 0 limit ⟨{}, [strategy.schedule 0]⟩

/-- How a scenario ends, and the bench it leaves, unless the device could not be made. -/
structure Outcome (S R κ μ ε : Type) where
  result : Except ε Report
  bench : Option (Bench S R κ μ)

/-- Runs a scenario from the making of its device on. -/
def runBody (strategy : Strategy) (cfg : Config) (memory : μ) (body : Body S R κ μ ε)
    (limit : Nat) : Except Halt (Outcome S R κ μ ε) :=
  match Bench.create (configFor strategy cfg) memory with
  | .error f => .ok ⟨.error (PowerLossAware.ofFailure f), none⟩
  | .ok w =>
    match drive strategy body limit w with
    | .ok result w => .ok ⟨result, some w⟩
    | .error h _ => .error h

/-- Runs a scenario whose body is given by programs: `body n` is the `n`-th run, counted from
one. -/
def run (callbacks : Callbacks κ μ) (nesting limit : Nat) (strategy : Strategy) (cfg : Config)
    (memory : μ) (body : Nat → Program κ μ (Except ε Unit)) :
    Except Halt (Outcome S R κ μ ε) :=
  runBody strategy cfg memory (fun n d => (body n).execute callbacks nesting d) limit

end Scenario

end FaultyFlash
