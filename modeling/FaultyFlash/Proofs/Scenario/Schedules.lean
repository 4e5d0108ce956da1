import FaultyFlash.Proofs.Scenario.Drives
import FaultyFlash.Proofs.Scenario.Journals
import FaultyFlash.Proofs.Sharing.Benches

/-!
# Schedules

A resuming scenario loses power for the `i`-th time with the first `i + 1` countdowns of its
schedule behind it. These are the trail of that loss, so to follow the trail as a schedule is to go
through the same runs until then.

## Main definitions

* `Strategy.Resumes`: strategies that follow a schedule
* `Scenario.trailAt`, `Scenario.Progress.after`: what is reported after some losses of power
* `Scenario.Entry.LosesPower`: runs that end in a loss of power

## Main results

* `Scenario.entries_replay`: schedules that agree lead through the same runs
* `Scenario.trails_replay`: so does the trail of a loss of power, for as long as it reaches
-/

namespace FaultyFlash

variable {S R κ μ ε : Type}

/-- Does a strategy follow a schedule of countdowns? -/
def Strategy.Resumes : Strategy → Prop
  | .exhaustive _ => False
  | _ => True

namespace Scenario

open Bench

/-- The countdowns armed until power is lost after `i` losses. -/
def trailAt (schedule : Nat → UInt32) (i : Nat) : List UInt32 :=
  (List.range (i + 1)).map schedule

/-- What a scenario that follows a schedule has gone through after `i` losses of power. -/
def Progress.after (schedule : Nat → UInt32) (i : Nat) : Progress :=
  ⟨⟨i, i, (List.range i).map (trailAt schedule)⟩, trailAt schedule i⟩

/-- A run that ends in a loss of power. -/
def Entry.LosesPower [PowerLossAware ε] (e : Entry S R κ μ ε) : Prop :=
  ∃ x v, e.outcome = .ok (.error x) v ∧ PowerLossAware.isPowerLoss x = true

variable {s s' : Nat → UInt32} {i j k limit limit' : Nat}

theorem trailAt_congr (h : ∀ j ≤ i, s' j = s j) : trailAt s' i = trailAt s i := by
  refine List.map_congr_left fun j hj => h j ?_
  exact Nat.le_of_lt_succ (List.mem_range.1 hj)

namespace Progress

theorem after_succ (s : Nat → UInt32) (i : Nat) :
    after s (i + 1) = ⟨(after s i).report.addRun.addLoss (after s i).trail,
      (after s i).trail ++ [s (i + 1)]⟩ := by
  simp only [after, Report.addRun, Report.addLoss, trailAt, List.range_succ, List.map_append,
    List.map_singleton]

end Progress

variable [PowerLossAware ε] {body : Body S R κ μ ε} {d : Handle} {w v t : Bench S R κ μ}
  {r : Report} {n m : UInt32}

/-! ## Arming -/

omit [PowerLossAware ε] in
theorem run_arm_eq_ok {x : Except Failure Unit} : (arm d n).run w = .ok x v ↔
    ∃ r, w.rig? d = some r ∧ .ok () = x ∧ w.settle d r ((w.flash r).rearm n) = v :=
  run_on_eq_ok

omit [PowerLossAware ε] in
/-- Only what was armed last counts. -/
theorem run_arm_of_armed {x : Except Failure Unit} (h : (arm d n).run w = .ok x v)
    (h' : (arm d m).run w = .ok x t) : (arm d m).run v = .ok x t := by
  obtain ⟨r, hr, rfl, rfl⟩ := run_arm_eq_ok.1 h
  obtain ⟨s, hs, -, rfl⟩ := run_arm_eq_ok.1 h'
  cases hr.symm.trans hs
  refine run_arm_eq_ok.2 ⟨_, rig?_settle hr _, rfl, ?_⟩
  simp only [settle, Bench.flash, Flash.rearm, List.set_set]

omit [PowerLossAware ε] in
theorem countdown_of_armed {x : Except Failure Unit} (h : (arm d n).run w = .ok x v) :
    (v.rig? d).map (fun r => r.device.countdown) = some n := by
  obtain ⟨r, hr, -, rfl⟩ := run_arm_eq_ok.1 h
  rw [rig?_settle hr]
  rfl

/-! ## One run -/

/-- A run that is followed by another ends in a loss of power, and the next countdown is armed. -/
theorem turn_again_iff {q : Progress} :
    (turn s body d (.after s i)).run w = .ok (.again q) v ↔ q = .after s (i + 1) ∧
      ∃ x u, (body (i + 1) d).run w = .ok (.error x) u ∧ PowerLossAware.isPowerLoss x = true ∧
        (arm d (s (i + 1))).run u = .ok (.ok ()) v := by
  rw [Progress.after_succ, turn, run_bind_eq_ok]
  constructor
  · rintro ⟨x, u, ran, rest⟩
    rcases x with x | _
    · by_cases lost : PowerLossAware.isPowerLoss x
      · simp only [lost, if_true] at rest
        obtain ⟨y, _, armed, rest⟩ := run_bind_eq_ok.1 rest
        rcases y with f | _
        · cases rest
        · cases rest
          exact ⟨rfl, x, u, ran, lost, armed⟩
      · simp only [lost] at rest
        cases rest
    · cases rest
  · rintro ⟨rfl, x, u, ran, lost, armed⟩
    refine ⟨_, u, ran, ?_⟩
    simp only [lost, if_true]
    exact run_bind_eq_ok.2 ⟨_, v, armed, rfl⟩

/-- The entry of a run that is followed by another. -/
theorem losesPower_of_again {u : Bench S R κ μ} {q : Progress}
    (turned : (turn s body d (.after s i)).run w = .ok (.again q) u) :
    (Entry.of body (i + 1) d w).LosesPower := by
  obtain ⟨-, x, t, ran, lost, -⟩ := turn_again_iff.1 turned
  exact ⟨x, t, ran, lost⟩

/-- A run that ends well finishes the scenario. -/
theorem turn_finished {p : Progress} (h : (turn s body d p).run w = .ok (.finished r) v) :
    r = p.report.addRun ∧ (body r.runs d).run w = .ok (.ok ()) v := by
  obtain ⟨x, u, ran, rest⟩ := run_bind_eq_ok.1 h
  rcases x with x | _
  · by_cases lost : PowerLossAware.isPowerLoss x
    · simp only [lost, if_true] at rest
      obtain ⟨y, _, -, rest⟩ := run_bind_eq_ok.1 rest
      rcases y with f | _ <;> cases rest
    · simp only [lost] at rest
      cases rest
  · cases rest
    exact ⟨rfl, ran⟩

/-! ## All runs -/

/-- In a scenario that ends well all runs lose power but the last, which ends well, too. The losses
of power are reported, and one run more. -/
theorem resuming_succeeds
    (h : (resuming s body d limit (.after s i)).run w = .ok (.ok r) v) :
    ∃ front last, entries s body d limit (.after s i) w = front ++ [last] ∧
      (∀ e ∈ front, e.LosesPower) ∧ last.outcome = .ok (.ok ()) v ∧
      r = (Progress.after s (i + front.length)).report.addRun := by
  -- each turn starts with the progress after so many losses, the invariant of the loop
  induction limit generalizing i w with
  | zero => cases h
  | succ limit ih =>
    obtain ⟨how, u, turned, rest⟩ := run_bind_eq_ok.1 h
    rw [entries, turned]
    rcases how with q | r' | x
    · have lost := losesPower_of_again turned
      obtain ⟨rfl, -⟩ := turn_again_iff.1 turned
      obtain ⟨front, last, split, losses, ends, rfl⟩ := ih rest
      refine ⟨_ :: front, last, congrArg _ split, ?_, ends, ?_⟩
      · intro e he
        rcases List.mem_cons.1 he with rfl | he
        · exact lost
        · exact losses e he
      · rw [List.length_cons, Nat.add_right_comm, Nat.add_assoc]
    · cases rest
      obtain ⟨rfl, ran⟩ := turn_finished turned
      exact ⟨[], _, rfl, fun e he => absurd he List.not_mem_nil, ran, rfl⟩
    · cases rest

/-- A scenario that ends well reports its losses of power, and one run more. -/
theorem resuming_reports
    (h : (resuming s body d limit (.after s i)).run w = .ok (.ok r) v) :
    ∃ j, r = (Progress.after s (i + j)).report.addRun ∧
      (entries s body d limit (.after s i) w).length = j + 1 := by
  obtain ⟨front, last, split, -, -, rfl⟩ := resuming_succeeds h
  refine ⟨front.length, rfl, ?_⟩
  rw [split, List.length_append, List.length_singleton]

/-- A scenario that reports more losses of power goes on. -/
theorem exists_again (ran : (resuming s body d limit (.after s i)).run w = .ok (.ok r) v)
    (far : i < r.powerLosses) : ∃ rest u, limit = rest + 1 ∧
      (turn s body d (.after s i)).run w = .ok (.again (.after s (i + 1))) u ∧
      (resuming s body d rest (.after s (i + 1))).run u = .ok (.ok r) v := by
  cases limit with
  | zero => cases ran
  | succ rest =>
    obtain ⟨how, u, turned, ran⟩ := run_bind_eq_ok.1 ran
    rcases how with q | r' | x
    · obtain ⟨rfl, -⟩ := turn_again_iff.1 turned
      exact ⟨rest, u, rfl, turned, ran⟩
    · cases ran
      rw [(turn_finished turned).1] at far
      exact absurd far (Nat.lt_irrefl i)
    · cases ran

/-- Another schedule leads on from the same loss of power, with its own countdown. -/
theorem turn_congr (s' : Nat → UInt32) {u : Bench S R κ μ}
    (turned : (turn s body d (.after s i)).run w = .ok (.again (.after s (i + 1))) u) :
    ∃ u', (turn s' body d (.after s' i)).run w = .ok (.again (.after s' (i + 1))) u' ∧
      (arm d (s' (i + 1))).run u = .ok (.ok ()) u' ∧ (s' (i + 1) = s (i + 1) → u' = u) := by
  obtain ⟨-, x, t, ran, lost, armed⟩ := turn_again_iff.1 turned
  obtain ⟨u', armed'⟩ : ∃ u', (arm d (s' (i + 1))).run t = .ok (.ok ()) u' := by
    obtain ⟨r, hr, -⟩ := run_arm_eq_ok.1 armed
    exact ⟨_, run_arm_eq_ok.2 ⟨r, hr, rfl, rfl⟩⟩
  refine ⟨u', turn_again_iff.2 ⟨rfl, x, t, ran, lost, armed'⟩, run_arm_of_armed armed armed',
    fun same => ?_⟩
  rw [same] at armed'
  cases armed.symm.trans armed'
  rfl

/-- Schedules that agree on the countdowns of the first losses of power lead through the same runs
until then. In the run after them only the countdown may differ. -/
theorem entries_replay (agree : ∀ j ≤ i + k, s' j = s j)
    (ran : (resuming s body d limit (.after s i)).run w = .ok (.ok r) v)
    (far : i + k < r.powerLosses) (long : k + 1 < limit') :
    let original := entries s body d limit (.after s i) w
    let replay := entries s' body d limit' (.after s' i) w
    replay.take (k + 1) = original.take (k + 1) ∧
      (∀ e ∈ original.take (k + 1), e.LosesPower) ∧
      ∃ a b, replay[k + 1]? = some a ∧ original[k + 1]? = some b ∧ a.number = b.number ∧
        (arm d (s' (i + k + 1))).run b.start = .ok (.ok ()) a.start := by
  -- by induction on the losses still to come; the bench is the same on both sides until the last
  induction k generalizing i w limit limit' with
  | zero =>
    obtain ⟨limit', rfl⟩ : ∃ n, limit' = n + 2 := ⟨limit' - 2, by omega⟩
    obtain ⟨rest, u, rfl, turned, ran⟩ := exists_again ran far
    obtain ⟨u', turned', armed, -⟩ := turn_congr s' turned
    simp only [entries, turned, turned']
    -- both sides go on, each with its own countdown
    cases rest with
    | zero => cases ran
    | succ rest =>
      refine ⟨rfl, fun e he => ?_, _, _, rfl, rfl, rfl, armed⟩
      obtain rfl := List.mem_singleton.1 he
      exact losesPower_of_again turned
  | succ k ih =>
    obtain ⟨limit', rfl⟩ : ∃ n, limit' = n + 1 := ⟨limit' - 1, by omega⟩
    obtain ⟨rest, u, rfl, turned, ran⟩ := exists_again ran (by omega)
    obtain ⟨u', turned', -, same⟩ := turn_congr s' turned
    -- the next countdowns agree, so the replay goes on from the very same bench
    obtain rfl := same (agree (i + 1) (by omega))
    have shorter : k + 1 < limit' := by omega
    obtain ⟨taken, lost, next⟩ := ih (i := i + 1) (fun j hj => agree j (by omega)) ran (by omega)
      shorter
    rw [Nat.add_right_comm i 1 k] at next
    simp only [entries, turned, turned', List.take_succ_cons, List.getElem?_cons_succ]
    refine ⟨congrArg _ taken, fun e he => ?_, next⟩
    rcases List.mem_cons.1 he with rfl | he
    · exact losesPower_of_again turned
    · exact lost e he

/-! ## Strategies -/

variable [BlockStore S R] {strategy : Strategy} {cfg : Config} {memory : μ}

/-- A strategy that follows a schedule does so from the start. -/
theorem drive_eq_resuming (h : strategy.Resumes) (body : Body S R κ μ ε) (limit : Nat) :
    drive strategy body limit =
      resuming strategy.schedule body 0 limit (.after strategy.schedule 0) := by
  cases strategy with
  | exhaustive depth => exact h.elim
  | none | linear | log | explicit => rfl

theorem journal_eq_entries (h : strategy.Resumes) (body : Body S R κ μ ε) (limit : Nat)
    (w : Bench S R κ μ) : journal strategy body limit w =
      entries strategy.schedule body 0 limit (.after strategy.schedule 0) w := by
  rw [journal, drive_eq_resuming h, resuming_recorded]
  rcases (resuming strategy.schedule body 0 limit (.after strategy.schedule 0)).run w with
    ⟨x, v⟩ | ⟨e, v⟩ <;> rfl

/-- Writing down the runs makes no difference to what comes of a scenario. -/
theorem drive_recorded (h : strategy.Resumes) (body : Body S R κ μ ε) (limit : Nat)
    (w : Bench S R κ μ) : (drive strategy (recorded body) limit).run (keeping w []) =
      seenBy (keeping · (journal strategy body limit w)) ((drive strategy body limit).run w) := by
  rw [journal_eq_entries h, drive_eq_resuming h, drive_eq_resuming h, resuming_recorded]
  rfl

/-- A trail followed as a schedule agrees with the schedule that it was a trail of, and ends. -/
theorem schedule_trailAt (s : Nat → UInt32) (k : Nat) :
    (∀ j ≤ k, (Strategy.explicit (trailAt s k)).schedule j = s j) ∧
      (Strategy.explicit (trailAt s k)).schedule (k + 1) = 0 := by
  constructor
  · intro j hj
    have inside : j < k + 1 := Nat.lt_succ_of_le hj
    simp [Strategy.schedule, trailAt, inside]
  · simp [Strategy.schedule, trailAt]

/-- What a scenario that ends well reports under a schedule, and how often it runs the body. -/
theorem drive_reports (h : strategy.Resumes) {body : Body S R κ μ ε}
    (ran : (drive strategy body limit).run w = .ok (.ok r) v) :
    ∃ j, r.powerLosses = j ∧ r.trails = (List.range j).map (trailAt strategy.schedule) ∧
      (journal strategy body limit w).length = j + 1 := by
  rw [drive_eq_resuming h] at ran
  obtain ⟨j, rfl, length⟩ := resuming_reports ran
  rw [Nat.zero_add, journal_eq_entries h]
  exact ⟨j, rfl, rfl, length⟩

/-- Strategies that agree on the countdowns of the first losses of power lead through the same runs
until then. -/
theorem journal_replay {strategy' : Strategy} (h : strategy.Resumes) (h' : strategy'.Resumes)
    (agree : ∀ j ≤ k, strategy'.schedule j = strategy.schedule j) {body : Body S R κ μ ε}
    (drove : (drive strategy body limit).run w = .ok (.ok r) v) (far : k < r.powerLosses)
    (long : k + 1 < limit') :
    let original := journal strategy body limit w
    let replay := journal strategy' body limit' w
    replay.take (k + 1) = original.take (k + 1) ∧
      (∀ e ∈ original.take (k + 1), e.LosesPower) ∧
      ∃ a b, replay[k + 1]? = some a ∧ original[k + 1]? = some b ∧ a.number = b.number ∧
        (arm 0 (strategy'.schedule (k + 1))).run b.start = .ok (.ok ()) a.start := by
  rw [drive_eq_resuming h] at drove
  rw [journal_eq_entries h, journal_eq_entries h']
  rw [← Nat.zero_add k] at agree far
  have replays := entries_replay agree drove far long
  rwa [Nat.zero_add] at replays

/-- Trails replay.

Let a scenario that follows a schedule end well and report the trail `t` for its loss of power `k`,
counted from zero. Then `t` followed as a schedule starts from the same bench and leads through the
same runs of the body up to that loss, whatever the body does; each of them ends in a loss of power,
and they leave the same trails. The next run is there on both sides, and on the side of `t` it
starts from the same bench but for the countdown, which is off. -/
theorem trails_replay (h : strategy.Resumes) {body : Body S R κ μ ε} {report : Report}
    {b : Option (Bench S R κ μ)} {t : List UInt32}
    (ran : runBody strategy cfg memory body limit = .ok ⟨.ok report, b⟩)
    (told : report.trails[k]? = some t) :
    ∃ w, create (configFor strategy cfg) memory = .ok w ∧
      create (configFor (.explicit t) cfg) memory = .ok w ∧
      ∀ limit', k + 1 < limit' →
        let original := journal strategy body limit w
        let replay := journal (.explicit t) body limit' w
        (replay.take (k + 1) = original.take (k + 1) ∧ (replay.take (k + 1)).length = k + 1 ∧
          ∀ e ∈ replay.take (k + 1), e.LosesPower) ∧
        (∃ a b, replay[k + 1]? = some a ∧ original[k + 1]? = some b ∧ a.number = b.number ∧
          (arm 0 0).run b.start = .ok (.ok ()) a.start ∧
          (a.start.rig? 0).map (fun r => r.device.countdown) = some 0) ∧
        ∀ report' b', runBody (.explicit t) cfg memory body limit' = .ok ⟨.ok report', b'⟩ →
          report'.trails.take (k + 1) = report.trails.take (k + 1) := by
  obtain ⟨w, v, -, made, drove⟩ := exists_bench_of_ok ran
  obtain ⟨_, rfl, trails, count⟩ := drive_reports h drove
  rw [trails, List.getElem?_map, Option.map_eq_some_iff] at told
  obtain ⟨_, place, rfl⟩ := told
  obtain ⟨far, rfl⟩ := List.getElem?_eq_some_iff.1 place
  rw [List.length_range] at far
  simp only [List.getElem_range] at *
  obtain ⟨agree, off⟩ := schedule_trailAt strategy.schedule k
  have follows : (Strategy.explicit (trailAt strategy.schedule k)).Resumes := trivial
  -- both devices start with the same countdown
  have same : configFor (.explicit (trailAt strategy.schedule k)) cfg = configFor strategy cfg := by
    rw [configFor, configFor, agree 0 (Nat.zero_le k)]
  refine ⟨w, made, by rw [same]; exact made, fun limit' long => ?_⟩
  obtain ⟨taken, lost, a, e, ha, he, number, armed⟩ :=
    journal_replay h follows agree drove far long
  rw [off] at armed
  have long' := (List.getElem?_eq_some_iff.1 ha).1
  refine ⟨⟨taken, ?_, ?_⟩, ⟨a, e, ha, he, number, armed, countdown_of_armed armed⟩, ?_⟩
  · rw [List.length_take]
    omega
  · rw [taken]
    exact lost
  · -- the replay has lost power as often, if it gets to report
    intro report' b' ran'
    obtain ⟨w', v', -, made', drove'⟩ := exists_bench_of_ok ran'
    rw [same, made] at made'
    cases made'
    obtain ⟨j, -, trails', count'⟩ := drive_reports follows drove'
    rw [trails', trails, ← List.map_take, ← List.map_take, List.take_range, List.take_range,
      Nat.min_eq_left (by omega), Nat.min_eq_left (by omega)]
    refine List.map_congr_left fun i hi => trailAt_congr fun l hl => agree l ?_
    exact Nat.le_trans hl (Nat.le_of_lt_succ (List.mem_range.1 hi))

/-- A pair of blocks where lost power leaves one bit of an update. -/
def frayedPair : Config where
  geometry := ⟨1, 1, 2, 2⟩
  eraseValue := some 0xff
  crash := .someBits

/-- Erases the first block and programs it. -/
def rewriteFirst : Program Unit Unit (Except Failure Unit) :=
  .ask (.update (.erase 0)) fun x => match x with
    | .error e => .done (.error e)
    | .ok () => .ask (.update (.prog 0 0 [1, 2])) .done

/-- Rewrites the first block, and has no callbacks. -/
def rewriting : Body Counted Nat Unit Unit Failure :=
  fun _ d => rewriteFirst.execute (fun _ _ => .done (.ok .resume)) 0 d

theorem trails_replay_rewriting :
    ∃ b, runBody .linear frayedPair () rewriting 3 = .ok ⟨.ok ⟨3, 2, [[1], [1, 2]]⟩, b⟩ ∧
      ∃ w, create (configFor (.explicit [1, 2]) frayedPair) () = .ok w ∧
        (journal (.explicit [1, 2]) rewriting 3 w).take 2 = (journal .linear rewriting 3 w).take 2 ∧
        ∃ a, (journal (.explicit [1, 2]) rewriting 3 w)[2]? = some a ∧
          (a.start.rig? 0).map (fun r => r.device.countdown) = some 0 := by
  have ends : ended (runBody .linear frayedPair () rewriting 3) =
      some (.ok ⟨3, 2, [[1], [1, 2]]⟩) := by
    decide +kernel
  obtain ⟨v, ran⟩ := ended_eq_some.1 ends
  have follows : Strategy.linear.Resumes := trivial
  obtain ⟨w, -, made, replays⟩ := trails_replay (k := 1) follows ran rfl
  obtain ⟨⟨taken, -⟩, ⟨a, -, ha, -, -, -, off⟩, -⟩ := replays 3 (by decide)
  exact ⟨some v, ran, w, made, taken, a, ha, off⟩

end Scenario

end FaultyFlash
