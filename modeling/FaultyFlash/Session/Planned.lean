import FaultyFlash.Scenario
import FaultyFlash.Session

/-!
# Planned sessions

A scenario whose body is a list of steps. The runs of the body are recorded: the device before and
after each, and what its steps showed.

## Main definitions

* `Session.BodyStep`, `Session.Plan`: the steps of a body, and a plan
* `Session.runBody`, `Session.body`: a run of the body, with its record
* `Session.Planned`, `Session.planned`: what a session shows, and a session played
-/

namespace FaultyFlash

namespace Session

/-- A step of a body, performed only in the runs between two bounds, if they are given. -/
structure BodyStep where
  step : Step Callback
  runs : Option (Nat × Nat) := none

/-- Is the step performed in the `n`-th run? -/
def BodyStep.applies (s : BodyStep) (n : Nat) : Bool :=
  s.runs.elim true fun (first, last) => first ≤ n && n ≤ last

/-- A plan of a scenario. -/
structure Plan where
  strategy : Strategy
  body : List BodyStep
  /-- The runs after which the body refuses to run. -/
  maxRuns : Nat := 100
  /-- Are the answers of the steps shown? -/
  showSteps : Bool := false
  /-- Are the blocks shown before each run? -/
  showDump : Bool := false

/-- What a planned session shows: how the scenario ended, the runs of the body, and the image file
at the end. -/
structure Planned where
  result : Except ScriptError Report
  runs : List RunRecord
  image : Option Image

/-- Performs steps until one fails. Answers with what is shown of them, the latest first and on top
of `shown`, which leaves out a step that ends the whole test, and with the error. -/
def performAll (shown : List StepAnswer) :
    List (Step Callback) → ScriptTask (List StepAnswer × Except ScriptError Unit)
  | [] => return (shown, .ok ())
  | s :: rest => do
    let a ← s.perform
    match a.outcome with
    | .error e => return (if e.isFatal then shown else a :: shown, .error e)
    | .ok _ => performAll (a :: shown) rest

/-- The `n`-th run of a body, and its record. -/
def runBody (p : Plan) (n : Nat) : ScriptTask (Except ScriptError Unit) := do
  if p.maxRuns < n then return .error (.custom "run limit")
  let start ← Status.take
  let dump ← if p.showDump then some <$> Dump.take else pure none
  let steps := Step.expand ((p.body.filter (·.applies n)).map BodyStep.step)
  let (shown, outcome) ← performAll [] steps
  let fatal := match outcome with
    | .error e => e.isFatal
    | .ok () => false
  let ending ← if fatal then pure none else do pure (some (outcome, ← Status.take))
  let record : RunRecord := ⟨start, dump, if p.showSteps then shown.reverse else [], ending⟩
  ExceptT.lift (Program.updateMemory fun m => { m with runs := m.runs ++ [record] })
  return outcome

/-- The body of a planned session as a program. -/
def body (p : Plan) (n : Nat) : Program Callback Memory (Except ScriptError Unit) := do
  match ← (runBody p n).run with
  | .ok outcome => return outcome
  | .error f => return .error (.device f)

/-- Plays a plan on a new device. The body refuses to run past its limit, so one run more than
that ends every scenario. -/
def planned (cfg : Config) (p : Plan) : Except Halt Planned := do
  let outcome : Scenario.Outcome Counted Nat Callback Memory ScriptError ←
    Scenario.run callbacks nesting (p.maxRuns + 1) p.strategy cfg {} (body p)
  return {
    result := outcome.result
    runs := outcome.bench.elim [] fun w => w.memory.runs
    image := outcome.bench.bind Bench.image }

end Session

end FaultyFlash
