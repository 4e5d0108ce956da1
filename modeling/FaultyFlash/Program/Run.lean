import FaultyFlash.Program

/-!
# Running programs

A program runs on a device of a bench, node by node. Callbacks are programs too: they run on the
device that lost power, while the update that lost it waits, and may lose power in their turn.

## Main definitions

* `Program.run`: a program run on a device
* `Bench.fork`, `Bench.respondBy`, `Bench.respond`: the answer of a handler to a loss of power
* `Program.execute`: a program run with its callbacks

## Main results

* `Program.run_bind`: one program after another runs as one program, then the other
-/

namespace FaultyFlash

variable {S R κ μ α β : Type} [BlockStore S R]

/-- Runs a program on the device of a handle; `respond` answers losses of power. -/
def Program.run (respond : Responder S R κ μ) (d : Handle) :
    Program κ μ α → BenchM S R κ μ α
  | .done a => pure a
  | .ask r next => do (next (← Bench.perform respond d r)).run respond d
  | .install callback next => do
    Bench.install d (callback.map (Handler.custom · 0))
    next.run respond d
  | .getMemory next => do (next (← get).memory).run respond d
  | .setMemory m next => do
    modify fun w => { w with memory := m }
    next.run respond d

theorem Program.run_bind (respond : Responder S R κ μ) (d : Handle) (p : Program κ μ α)
    (f : α → Program κ μ β) :
    (p.bind f).run respond d = (do (f (← p.run respond d)).run respond d) := by
  induction p with
  | done a => simp [bind, run]
  | ask r next ih => simp [bind, run, ih]
  | install callback next ih => simp [bind, run, ih]
  | getMemory next ih => simp [bind, run, ih]
  | setMemory m next ih => simp [bind, run, ih]

/-- Copies a device for later, so that the next update loses power, too, and resumes. -/
def Bench.fork (d : Handle) : BenchM S R κ μ (Except Failure Verdict) := do
  let handle ← copy d
  modify fun w => { w with forks := w.forks ++ [handle] }
  match ← on d fun _ => Flash.modifyDevice fun dev => { dev with countdown := 1 } with
  | .ok () => return .ok .resume
  | .error e => return .error e

/-- Answers losses of power by the handlers of the devices. A call of a callback runs by `call`,
which is given the responder for the calls nested in it; calls nest at most `depth` deep. -/
def Bench.respondBy
    (call : Responder S R κ μ → κ → Nat → Handle → BenchM S R κ μ (Except Failure Verdict))
    (depth : Nat) : Responder S R κ μ := fun handler d => do
  match handler with
  | .ride => return .ok .resume
  | .fork => fork d
  | .custom code calls =>
    match depth with
    | 0 => throw .exhausted
    | depth + 1 =>
      -- counted before the call, as calls may nest
      install d (some (.custom code (calls + 1)))
      call (respondBy call depth) code calls d

/-- Answers losses of power by callbacks that are programs; they nest at most `depth` deep. -/
def Bench.respond (callbacks : Callbacks κ μ) (depth : Nat) : Responder S R κ μ :=
  respondBy (fun respond code calls d => (callbacks code calls).run respond d) depth

/-- Runs a program on the device of a handle, with callbacks nested at most `depth` deep. -/
def Program.execute (callbacks : Callbacks κ μ) (depth : Nat) (d : Handle)
    (p : Program κ μ α) : BenchM S R κ μ α :=
  p.run (Bench.respond callbacks depth) d

end FaultyFlash
