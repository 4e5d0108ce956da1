import FaultyFlash.Proofs.Scenario.Schedules

/-!
# What is handed from run to run

A resuming scenario that ends well consists of runs that lose power and a last one that does not.
The first run gets a new device, with the first countdown of the schedule. Each of the others gets
the device of the run before it: the bench is the one that this run left, and only the countdown of
the device was armed anew.

## Main definitions

* `Bench.rearmed`: a bench on which the countdown of a device is changed, and nothing else
* `Scenario.Entry.HandsOver`: runs of which one starts where the other lost power

## Main results

* `Scenario.entries_hand_over`: any two runs in a row hand over
* `Scenario.starts_of_keeps`: what is kept from run to run holds wherever a run starts
* `Scenario.handed_over`: what a resuming scenario that ends well reports and hands from run to run
-/

namespace FaultyFlash

variable {S R κ μ ε : Type}

/-- The bench with another countdown of the device of a handle, which is `r`. -/
def Bench.rearmed (w : Bench S R κ μ) (d : Handle) (r : Rig R κ) (countdown : UInt32) :
    Bench S R κ μ :=
  { w with
    rack := w.rack.set d (some { r with device := { r.device with countdown := countdown } }) }

namespace Scenario

open Bench

variable [PowerLossAware ε] {body : Body S R κ μ ε} {d : Handle} {w v : Bench S R κ μ}
  {s : Nat → UInt32} {i k limit : Nat} {a b e : Entry S R κ μ ε} {report : Report}

/-- A run `b` starts on the bench on which the run `a` lost power, with another countdown. -/
def Entry.HandsOver (countdown : UInt32) (a b : Entry S R κ μ ε) : Prop :=
  ∃ x v r, a.outcome = .ok (.error x) v ∧ PowerLossAware.isPowerLoss x = true ∧
    v.rig? a.device = some r ∧ b.device = a.device ∧ b.number = a.number + 1 ∧
    b.start = v.rearmed a.device r countdown

omit [PowerLossAware ε] in
/-- To arm a countdown is to change it, and nothing else. -/
theorem rearmed_of_armed {n : UInt32} (armed : (arm d n).run w = .ok (.ok ()) v) :
    ∃ r, w.rig? d = some r ∧ v = w.rearmed d r n := by
  obtain ⟨r, hr, -, rfl⟩ := run_arm_eq_ok.1 armed
  exact ⟨r, hr, rfl⟩

/-- A run that is followed by another hands over to it. -/
theorem handsOver_of_again {q : Progress}
    (turned : (turn s body d (.after s i)).run w = .ok (.again q) v) :
    (Entry.of body (i + 1) d w).HandsOver (s (i + 1)) (.of body (i + 2) d v) := by
  obtain ⟨-, x, u, ran, lost, armed⟩ := turn_again_iff.1 turned
  obtain ⟨r, hr, rfl⟩ := rearmed_of_armed armed
  exact ⟨x, u, r, ran, lost, hr, rfl, rfl, rfl⟩

/-- The first run of a scenario starts where the scenario does. -/
theorem entries_head (h : (entries s body d limit (.after s i) w)[0]? = some e) :
    e = .of body (i + 1) d w := by
  cases limit with
  | zero => cases h
  | succ limit =>
    rw [entries] at h
    cases h
    rfl

/-- Any two runs in a row hand over. -/
theorem entries_hand_over
    (ha : (entries s body d limit (.after s i) w)[k]? = some a)
    (hb : (entries s body d limit (.after s i) w)[k + 1]? = some b) :
    a.HandsOver (s (i + k + 1)) b := by
  -- the runs after the first are those of a scenario that has lost power once more
  induction limit generalizing i k w with
  | zero => cases ha
  | succ limit ih =>
    simp only [entries] at ha hb
    rw [List.getElem?_cons_succ] at hb
    split at hb
    · next q v turned =>
      obtain ⟨rfl, -⟩ := turn_again_iff.1 turned
      cases k with
      | zero =>
        cases ha
        rw [entries_head hb]
        exact handsOver_of_again turned
      | succ k =>
        simp only [turned, List.getElem?_cons_succ] at ha
        have later := ih ha hb
        rwa [Nat.add_right_comm i 1 k] at later
    · cases hb

/-- The number of a run is its place, counted from one. -/
theorem entries_numbered (he : (entries s body d limit (.after s i) w)[k]? = some e) :
    ∃ v, e = .of body (i + k + 1) d v := by
  induction limit generalizing i k w with
  | zero => cases he
  | succ limit ih =>
    cases k with
    | zero => exact ⟨w, entries_head he⟩
    | succ k =>
      rw [entries, List.getElem?_cons_succ] at he
      split at he
      · next q v turned =>
        obtain ⟨rfl, -⟩ := turn_again_iff.1 turned
        rw [← Nat.add_assoc, Nat.add_right_comm i k 1]
        exact ih he
      · cases he

/-- What runs of the body keep, and arming does, too, holds wherever a run starts. -/
theorem starts_of_keeps {I : Bench S R κ μ → Prop}
    (runs : ∀ n w x v, I w → (body n d).run w = .ok x v → I v)
    (arms : ∀ n w x v, I w → (arm d n).run w = .ok x v → I v) (h : I w)
    (he : (entries s body d limit (.after s i) w)[k]? = some e) : I e.start := by
  induction limit generalizing i k w with
  | zero => cases he
  | succ limit ih =>
    cases k with
    | zero =>
      rw [entries_head he]
      exact h
    | succ k =>
      rw [entries, List.getElem?_cons_succ] at he
      split at he
      · next q v turned =>
        obtain ⟨rfl, x, u, ran, -, armed⟩ := turn_again_iff.1 turned
        exact ih (arms _ _ _ _ (runs _ _ _ _ h ran) armed) he
      · cases he

/-- A run that was handed over to starts with the countdown that was armed for it. -/
theorem Entry.HandsOver.countdown {n : UInt32} (h : a.HandsOver n b) :
    (b.start.rig? b.device).map (fun r => r.device.countdown) = some n := by
  obtain ⟨x, v, r, -, -, hr, device, -, start⟩ := h
  rw [start, device, rearmed, rig?, rig?_set hr]
  rfl

/-- A run starts with the countdown that was armed for it. -/
theorem starts_armed (armed : (w.rig? d).map (fun r => r.device.countdown) = some (s i))
    (he : (entries s body d limit (.after s i) w)[k]? = some e) :
    ∃ v, e = .of body (i + k + 1) d v ∧
      (v.rig? d).map (fun r => r.device.countdown) = some (s (i + k)) := by
  cases k with
  | zero => exact ⟨w, entries_head he, armed⟩
  | succ k =>
    -- whatever a run does to the countdown, it is armed anew before the next
    obtain ⟨v, rfl⟩ := entries_numbered he
    have earlier := Nat.lt_of_succ_lt (List.getElem?_eq_some_iff.1 he).1
    exact ⟨v, rfl, (entries_hand_over (List.getElem?_eq_getElem earlier) he).countdown⟩

/-! ## Strategies -/

variable [BlockStore S R] {strategy : Strategy} {cfg : Config} {memory : μ}

/-- What a report says of the runs of a scenario that follows a schedule: those before the last,
which lost power, and the last one, which ended well. -/
structure Accounts (schedule : Nat → UInt32) (report : Report) (front : List (Entry S R κ μ ε))
    (last : Entry S R κ μ ε) : Prop where
  losses : ∀ e ∈ front, e.LosesPower
  success : ∃ v, last.outcome = .ok (.ok ()) v
  runs : report.runs = (front ++ [last]).length
  powerLosses : report.powerLosses = front.length
  trails : report.trails.length = report.powerLosses
  trail : ∀ k < report.powerLosses,
    report.trails[k]? = some ((List.range (k + 1)).map schedule)

omit [BlockStore S R] in
theorem accounts_after {front : List (Entry S R κ μ ε)} {last : Entry S R κ μ ε}
    (losses : ∀ e ∈ front, e.LosesPower) (success : last.outcome = .ok (.ok ()) v) :
    Accounts s (Progress.after s front.length).report.addRun front last where
  losses := losses
  success := ⟨v, success⟩
  runs := by
    rw [List.length_append, List.length_singleton]
    rfl
  powerLosses := rfl
  trails := by simp [Progress.after, Report.addRun]
  trail k inside := by
    have inside : k < front.length := inside
    simp [Progress.after, Report.addRun, trailAt, inside]

/-- What a resuming scenario hands from run to run.

Let a scenario that follows a schedule end well. Then all runs of its body lost power but the last,
and the report says so: it counts the runs and the losses of power, of which there is one less, and
tells for each loss the countdowns armed until then. What countdown the configuration asked for is
of no matter. The first run starts on the new bench, whose device has the first countdown of the
schedule. Each of the others starts on the very bench that the run before it left, on which nothing
was changed but the countdown of the device, to the next of the schedule. What the body remembers
from run to run is on the bench, too, so it may do so as it likes. -/
theorem handed_over (h : strategy.Resumes) {body : Body S R κ μ ε}
    {out : Option (Bench S R κ μ)}
    (ran : runBody strategy cfg memory body limit = .ok ⟨.ok report, out⟩) :
    (∀ n, runBody strategy { cfg with countdown := n } memory body limit =
      .ok ⟨.ok report, out⟩) ∧
    ∃ w front last, create (configFor strategy cfg) memory = .ok w ∧
      journal strategy body limit w = front ++ [last] ∧
      Accounts strategy.schedule report front last ∧
      (w.rack = [some { device := Device.fresh R (configFor strategy cfg) }] ∧
        (Device.fresh R (configFor strategy cfg)).countdown = strategy.schedule 0 ∧
        (front ++ [last])[0]? = some (.of body 1 0 w)) ∧
      (∀ k a b, (front ++ [last])[k]? = some a → (front ++ [last])[k + 1]? = some b →
        a.HandsOver (strategy.schedule (k + 1)) b) ∧
      (∀ k e, (front ++ [last])[k]? = some e → e = Entry.of body (k + 1) 0 e.start) ∧
      ∃ v, last.outcome = .ok (.ok ()) v ∧ out = some v := by
  refine ⟨fun n => ran, ?_⟩
  obtain ⟨w, v, rfl, made, drove⟩ := exists_bench_of_ok ran
  rw [drive_eq_resuming h] at drove
  obtain ⟨front, last, split, losses, success, rfl⟩ := resuming_succeeds drove
  rw [Nat.zero_add]
  refine ⟨w, front, last, made, (journal_eq_entries h body limit w).trans split,
    accounts_after losses success, ⟨?_, rfl, ?_⟩, ?_, ?_, v, success, rfl⟩
  · obtain ⟨-, image, -, rfl⟩ := create_eq_ok.1 made
    rfl
  · rw [← split]
    cases limit with
    | zero => cases drove
    | succ limit => rfl
  · intro k a b ha hb
    rw [← split] at ha hb
    have hands := entries_hand_over ha hb
    rwa [Nat.zero_add] at hands
  · intro k e he
    rw [← split] at he
    obtain ⟨u, rfl⟩ := entries_numbered he
    rw [Nat.zero_add]
    rfl

theorem handed_over_rewriting :
    ∃ out, runBody .linear frayedPair () rewriting 3 = .ok ⟨.ok ⟨3, 2, [[1], [1, 2]]⟩, out⟩ ∧
      ∃ w, create (configFor .linear frayedPair) () = .ok w ∧
        (journal .linear rewriting 3 w).length = 3 ∧
        ∃ a b, (journal .linear rewriting 3 w)[1]? = some a ∧
          (journal .linear rewriting 3 w)[2]? = some b ∧ a.HandsOver 3 b := by
  have ends : ended (runBody .linear frayedPair () rewriting 3) =
      some (.ok ⟨3, 2, [[1], [1, 2]]⟩) := by
    decide +kernel
  obtain ⟨v, ran⟩ := ended_eq_some.1 ends
  have follows : Strategy.linear.Resumes := trivial
  obtain ⟨-, w, front, last, made, split, accounts, -, hands, -⟩ := handed_over follows ran
  have length : (front ++ [last]).length = 3 := accounts.runs.symm
  have first : 1 < (front ++ [last]).length := by omega
  have second : 2 < (front ++ [last]).length := by omega
  rw [← split] at *
  have ha := List.getElem?_eq_getElem first
  have hb := List.getElem?_eq_getElem second
  exact ⟨some v, ran, w, made, length, _, _, ha, hb, hands 1 _ _ ha hb⟩

end Scenario

end FaultyFlash
