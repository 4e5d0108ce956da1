import FaultyFlash.Proofs.Scenario.Layers

/-!
# Replays

Where nothing is shared, a scenario that follows a schedule of countdowns goes through the states to
which they lead, and ends as the body does by itself on the last of them.

## Main results

* `Scenario.turn_again`, `Scenario.turn_last`: a run that a countdown breaks off, and the last run
* `Scenario.resuming_runs`: a scenario that follows countdowns
-/

namespace FaultyFlash

open Device (Clocked)
open Bench (Tracks Noted)

variable {κ μ ε : Type} [PowerLossAware ε] {cfg : Config} {imaged : Bool} {d : Handle}
  {X Y : Flash Plain Block} {v w : Bench Plain Block κ μ} {n : UInt32}
  {callbacks : Callbacks κ μ} {nesting : Nat} {p : Program κ μ (Except ε Unit)}
  {note : Device Block → μ → μ} {m : μ}

namespace Scenario

/-- The body is run on a device that counts down, and notes it. -/
theorem noted_runs (able : cfg.Able) (hp : p.WellBehaved)
    (h : Tracks cfg imaged (Clocked cfg n) (· = none) d X v) (k : Nat) :
    ∃ x w, (noted note callbacks nesting p k d).run v = .ok x w ∧ Noted note [X] v w ∧
      match Trail.hit n (p.crashes cfg m X) with
      | some Y => (∃ e, x = .error e ∧ PowerLossAware.isPowerLoss e = true) ∧
          Tracks cfg imaged (Clocked cfg 0) (· = none) d Y w
      | none => x = (p.solo cfg m X).result := by
  obtain ⟨x, w, run, uses, ends⟩ :=
    (h.noting note).timed able hp.asks hp.blind hp.heeds (Bench.respond callbacks nesting) m
  rw [run_noted]
  exact ⟨x, w, run, (h.noted note).congr rfl uses.memory, ends⟩

/-- A run that a countdown breaks off is followed by another, with the next countdown armed. -/
theorem turn_again (able : cfg.Able) (hp : p.WellBehaved)
    (h : Tracks cfg imaged (Clocked cfg n) (· = none) d X v)
    (hits : Trail.hit n (p.crashes cfg m X) = some Y) (schedule : Nat → UInt32) (q : Progress) :
    ∃ w, (turn schedule (noted note callbacks nesting p) d q).run v =
        .ok (.again ⟨q.report.addRun.addLoss q.trail,
          q.trail ++ [schedule (q.report.powerLosses + 1)]⟩) w ∧
      Tracks cfg imaged (Clocked cfg (schedule (q.report.powerLosses + 1))) (· = none) d Y w ∧
      Noted note [X] v w := by
  obtain ⟨x, t, run, ran, ends⟩ := noted_runs able hp h q.report.addRun.runs
  rw [hits] at ends
  obtain ⟨⟨e, rfl, lost⟩, tracks⟩ := ends
  obtain ⟨w, arm, armed, uses⟩ := tracks.arm (schedule (q.report.powerLosses + 1))
  refine ⟨w, run_bind_eq_ok.2 ⟨_, t, run, ?_⟩, armed, ?_⟩
  · simp only [lost, if_true]
    exact run_bind_eq_ok.2 ⟨_, w, arm, rfl⟩
  · exact ran.congr rfl uses.memory

/-- A run that no countdown breaks off is the last. -/
theorem turn_last (able : cfg.Able) (hp : p.WellBehaved)
    (h : Tracks cfg imaged (Clocked cfg n) (· = none) d X v)
    (misses : Trail.hit n (p.crashes cfg m X) = none) (schedule : Nat → UInt32) (q : Progress) :
    ∃ w, (turn schedule (noted note callbacks nesting p) d q).run v =
        .ok (match (p.solo cfg m X).result with
          | .ok () => .finished q.report.addRun
          | .error e => .failed e) w ∧ Noted note [X] v w := by
  obtain ⟨x, w, run, ran, ends⟩ := noted_runs able hp h q.report.addRun.runs
  rw [misses] at ends
  subst ends
  refine ⟨w, run_bind_eq_ok.2 ⟨_, w, run, ?_⟩, ran⟩
  cases result : (p.solo cfg m X).result with
  | ok _ => rfl
  | error e =>
    have other := Program.not_powerLoss hp.asks hp.heeds m X result
    simp only [other]
    rfl

variable (callbacks nesting note m) in
/-- A scenario that follows countdowns goes through the states to which they lead, and ends as the
body does by itself on the last of them. -/
theorem resuming_runs (able : cfg.Able) (hp : p.WellBehaved) {schedule : Nat → UInt32}
    {t : List UInt32} {limit : Nat} (enough : (Trail.visited (p.crashes cfg m) X t).length ≤ limit)
    {q : Progress}
    (follows : ∀ j, schedule (q.report.powerLosses + j) = t[j]?.getD 0)
    (h : Tracks cfg imaged (Clocked cfg (schedule q.report.powerLosses)) (· = none) d X v) :
    ∃ last result w,
      (resuming schedule (noted note callbacks nesting p) d limit q).run v = .ok result w ∧
      Noted note (Trail.visited (p.crashes cfg m) X t) v w ∧
      (Trail.visited (p.crashes cfg m) X t).getLast? = some last ∧
      match (p.solo cfg m last).result with
      | .ok () => ∃ r, result = .ok r ∧
          r.powerLosses + 1 = q.report.powerLosses + (Trail.visited (p.crashes cfg m) X t).length
      | .error e => result = .error e := by
  induction limit generalizing X v t q with
  | zero => exact absurd (List.length_eq_zero_iff.1 (Nat.le_zero.1 enough)) (Trail.visited_ne_nil t)
  | succ limit ih =>
    have now : schedule q.report.powerLosses = t.head?.getD 0 := by
      rw [List.head?_eq_getElem?]
      exact follows 0
    cases hits : Trail.hit (schedule q.report.powerLosses) (p.crashes cfg m X) with
    | none =>
      -- no countdown hits from here on: this run is the last
      obtain ⟨w, run, ran⟩ := turn_last able hp h hits schedule q
      rw [now] at hits
      rw [Trail.visited_of_not_hit hits]
      cases result : (p.solo cfg m X).result with
      | ok _ =>
        rw [result] at run
        refine ⟨X, .ok q.report.addRun, w, run_bind_eq_ok.2 ⟨_, w, run, rfl⟩, ran, rfl, ?_⟩
        rw [result]
        exact ⟨_, rfl, rfl⟩
      | error e =>
        rw [result] at run
        refine ⟨X, .error e, w, run_bind_eq_ok.2 ⟨_, w, run, rfl⟩, ran, rfl, ?_⟩
        rw [result]
    | some Y =>
      -- the countdown hits, and the rest of the list is followed from the state it leads to
      obtain ⟨u, run, tracks, ran⟩ := turn_again able hp h hits schedule q
      rw [now] at hits
      cases t with
      | nil => cases hits
      | cons c t =>
        have there : Trail.hit c (p.crashes cfg m X) = some Y := hits
        rw [Trail.visited_cons_of_hit there] at enough ⊢
        obtain ⟨last, result, w, rest, ran', final, ends⟩ :=
          ih (q := ⟨q.report.addRun.addLoss q.trail, _⟩) (Nat.le_of_succ_le_succ enough)
            (fun j => (congrArg schedule (Nat.add_right_comm _ 1 j)).trans (follows (j + 1))) tracks
        refine ⟨last, result, w, run_bind_eq_ok.2 ⟨_, u, run, rest⟩, ran.trans ran', ?_, ?_⟩
        · rw [List.getLast?_cons, final]
          rfl
        · cases ended : (p.solo cfg m last).result with
          | error e =>
            rw [ended] at ends
            exact ends
          | ok _ =>
            rw [ended] at ends
            obtain ⟨r, same, losses⟩ := ends
            refine ⟨r, same, losses.trans ?_⟩
            rw [List.length_cons]
            exact Nat.add_right_comm _ 1 _

end Scenario

end FaultyFlash
