import FaultyFlash.Proofs.Coupling
import FaultyFlash.Scenario

/-!
# Journals of scenarios

A body can be made to write down each of its runs: the bench on which the run starts, and what it
comes to. Nothing that a scenario does depends on what is written down, so the journal tells of the
scenario of the body itself, also where it does not end well.

Under a resuming strategy the journal goes on for as long as runs end in a loss of power and are
followed by another.

## Main definitions

* `Scenario.Entry`: one run of a body
* `Scenario.recorded`: a body that writes down its runs
* `Scenario.journal`: the runs of a scenario
* `Scenario.entries`: the runs of a resuming scenario, by recursion

## Main results

* `Scenario.resuming_recorded`: writing down makes no difference, and the journal is `entries`
-/

namespace FaultyFlash

variable {σ σ' α S R κ μ ν ε : Type}

/-- A bench on which the test remembers something else. -/
def Bench.remember (w : Bench S R κ μ) (m : ν) : Bench S R κ ν := { w with memory := m }

/-- A result whose state is seen by a function. -/
def seenBy (f : σ → σ') : EStateM.Result ε σ α → EStateM.Result ε σ' α
  | .ok a s => .ok a (f s)
  | .error e s => .error e (f s)

namespace Scenario

/-- A run of a body: its number, its device, the bench on which it starts, and what it comes to. -/
structure Entry (S R κ μ ε : Type) where
  number : Nat
  device : Handle
  start : Bench S R κ μ
  outcome : EStateM.Result Halt (Bench S R κ μ) (Except ε Unit)

/-- A bench on which the test keeps a journal, besides what it remembers. -/
def keeping (w : Bench S R κ μ) (es : List (Entry S R κ μ ε)) :
    Bench S R κ (μ × List (Entry S R κ μ ε)) :=
  w.remember (w.memory, es)

/-- The entry of a run. -/
def Entry.of (body : Body S R κ μ ε) (n : Nat) (d : Handle) (w : Bench S R κ μ) :
    Entry S R κ μ ε :=
  ⟨n, d, w, (body n d).run w⟩

/-- A body that writes down its runs. -/
def recorded (body : Body S R κ μ ε) : Body S R κ (μ × List (Entry S R κ μ ε)) ε := fun n d w =>
  let entry := Entry.of body n d (w.remember w.memory.1)
  seenBy (keeping · (w.memory.2 ++ [entry])) entry.outcome

/-- The runs of a scenario on a bench, the first one first. -/
def journal [BlockStore S R] [PowerLossAware ε] (strategy : Strategy) (body : Body S R κ μ ε)
    (limit : Nat) (w : Bench S R κ μ) : List (Entry S R κ μ ε) :=
  match (drive strategy (recorded body) limit).run (keeping w []) with
  | .ok _ v => v.memory.2
  | .error _ v => v.memory.2

variable {body : Body S R κ μ ε} {d : Handle} {w : Bench S R κ μ} {es : List (Entry S R κ μ ε)}

theorem run_recorded (n : Nat) : (recorded body n d).run (keeping w es) =
    seenBy (keeping · (es ++ [.of body n d w])) ((body n d).run w) :=
  rfl

/-- Operations on a device do not look at what the test remembers. -/
theorem run_on_keeping (op : Config → FlashM S R α) : (Bench.on d op).run (keeping w es) =
    seenBy (keeping · es) ((Bench.on d op).run w) := by
  have same : (keeping w es).rig? d = w.rig? d := rfl
  rw [Bench.run_on, Bench.run_on, same]
  rcases w.rig? d with _ | r
  · rfl
  · have flash : (keeping w es).flash r = w.flash r := rfl
    have config : (keeping w es).config = w.config := rfl
    simp only [flash, config]
    rcases (op w.config).run (w.flash r) with ⟨a, f⟩ | ⟨e, f⟩ <;> rfl

/-! ## Resuming scenarios -/

variable [PowerLossAware ε] {schedule : Nat → UInt32}

theorem turn_recorded (p : Progress) : (turn schedule (recorded body) d p).run (keeping w es) =
    seenBy (keeping · (es ++ [.of body p.report.addRun.runs d w]))
      ((turn schedule body d p).run w) := by
  simp only [turn, EStateM.run_bind, run_recorded]
  rcases (body p.report.addRun.runs d).run w with ⟨_ | x, v⟩ | ⟨h, v⟩
  · -- after a loss of power the next countdown is armed, which no journal sees
    simp only [seenBy]
    split
    · simp only [EStateM.run_bind, arm, run_on_keeping]
      rcases (Bench.on d _).run v with ⟨_ | _, t⟩ | ⟨h, t⟩ <;> rfl
    · rfl
  · rfl
  · rfl

/-- The runs of a resuming scenario. -/
def entries (schedule : Nat → UInt32) (body : Body S R κ μ ε) (d : Handle) :
    (limit : Nat) → Progress → Bench S R κ μ → List (Entry S R κ μ ε)
  | 0, _, _ => []
  | limit + 1, p, w => .of body p.report.addRun.runs d w ::
    match (turn schedule body d p).run w with
    | .ok (.again q) v => entries schedule body d limit q v
    | _ => []

/-- Writing down the runs of a resuming scenario makes no difference to it. -/
theorem resuming_recorded (limit : Nat) (p : Progress) :
    (resuming schedule (recorded body) d limit p).run (keeping w es) =
      seenBy (keeping · (es ++ entries schedule body d limit p w))
        ((resuming schedule body d limit p).run w) := by
  -- the journal grows by one entry a turn, so the induction is for every journal so far
  induction limit generalizing p w es with
  | zero => rw [entries, List.append_nil]; rfl
  | succ limit ih =>
    simp only [resuming, EStateM.run_bind, turn_recorded, entries]
    rcases (turn schedule body d p).run w with ⟨q | r | x, v⟩ | ⟨h, v⟩
    · simp only [seenBy]
      rw [ih, List.append_assoc]
      rfl
    · rfl
    · rfl
    · rfl

end Scenario

end FaultyFlash
