import FaultyFlash.Proofs.Scenario.Handover
import FaultyFlash.Proofs.Scenario.Tame
import FaultyFlash.Proofs.Tracking

/-!
# How resuming scenarios end

All runs of a resuming scenario but the last end in a loss of power, and what the last one comes to
the scenario comes to. So it ends as soon as the schedule switches the countdown off, if the body
does not lose power then.

## Main definitions

* `Scenario.Entry.concludes`: what a scenario comes to whose last run is given
* `Scenario.Spared`, `Scenario.Quiet`: no loss of power; bodies that report none while the countdown
  is off

## Main results

* `Scenario.resuming_ends`: how a resuming scenario ends
-/

namespace FaultyFlash

variable {S R κ μ α ε : Type}

namespace Scenario

open Bench

/-- What a scenario comes to with its last run. -/
def Entry.concludes (e : Entry S R κ μ ε) (report : Report) :
    EStateM.Result Halt (Bench S R κ μ) (Except ε Report) :=
  match e.outcome with
  | .ok x v => .ok (x.map fun _ => report) v
  | .error h v => .error h v

variable [PowerLossAware ε] {body : Body S R κ μ ε} {d : Handle} {w v : Bench S R κ μ}
  {s : Nat → UInt32} {limit i : Nat} {e : Entry S R κ μ ε}

/-- A run that is not followed by another concludes the scenario. -/
theorem resuming_last (last : ¬ (Entry.of body (i + 1) d w).LosesPower) :
    (resuming s body d (limit + 1) (.after s i)).run w =
      (Entry.of body (i + 1) d w).concludes (Progress.after s i).report.addRun := by
  have number : (Progress.after s i).report.addRun.runs = i + 1 := rfl
  simp only [resuming, turn, EStateM.run_bind, Entry.of, Entry.concludes, number]
  cases ran : (body (i + 1) d).run w with
  | error h v => rfl
  | ok x v =>
    cases x with
    | ok _ => rfl
    | error x =>
      have spared : ¬ PowerLossAware.isPowerLoss x = true := fun lost => last ⟨x, v, ran, lost⟩
      simp only [spared]
      rfl

theorem entries_last (last : ¬ (Entry.of body (i + 1) d w).LosesPower) :
    entries s body d (limit + 1) (.after s i) w = [Entry.of body (i + 1) d w] := by
  rw [entries]
  split
  · next q v turned =>
    obtain ⟨rfl, -⟩ := turn_again_iff.1 turned
    exact absurd (losesPower_of_again turned) last
  · rfl

/-- A run that loses power is followed by another, on a device that is there. -/
theorem again_of_losesPower (tame : Tame body) (live : w.isLive d)
    (lost : (Entry.of body (i + 1) d w).LosesPower) :
    ∃ v, (turn s body d (.after s i)).run w = .ok (.again (.after s (i + 1))) v ∧ v.isLive d := by
  obtain ⟨x, u, ran, lost⟩ := lost
  obtain ⟨r, hr⟩ := isLive_iff.1 ((tame _ _ _ _ _ ran).live live)
  have armed : (arm d (s (i + 1))).run u =
      .ok (.ok ()) (u.settle d r ((u.flash r).rearm (s (i + 1)))) :=
    run_arm_eq_ok.2 ⟨r, hr, rfl, rfl⟩
  exact ⟨_, turn_again_iff.2 ⟨rfl, x, u, ran, lost, armed⟩, isLive_of_rig? (rig?_settle hr _)⟩

/-- Either the bound on the number of runs is reached, and all runs lost power; or all but the last
one did, and that concludes the scenario. -/
theorem resuming_ends (tame : Tame body) (limit : Nat) (live : w.isLive d) :
    let es := entries s body d limit (.after s i) w
    (es.length = limit ∧ (∀ e ∈ es, e.LosesPower) ∧
      ∃ v, (resuming s body d limit (.after s i)).run w = .error .exhausted v) ∨
    ∃ front last, es = front ++ [last] ∧ (∀ e ∈ front, e.LosesPower) ∧ ¬ last.LosesPower ∧
      (resuming s body d limit (.after s i)).run w =
        last.concludes (Progress.after s (i + front.length)).report.addRun := by
  -- a run that loses power leaves the device there, so that it can be armed for the next one
  induction limit generalizing i w with
  | zero =>
    simp only [entries]
    exact .inl ⟨rfl, fun _ he => absurd he List.not_mem_nil, w, rfl⟩
  | succ limit ih =>
    by_cases lost : (Entry.of body (i + 1) d w).LosesPower
    · obtain ⟨v, turned, live'⟩ := again_of_losesPower (s := s) tame live lost
      have goesOn : (resuming s body d (limit + 1) (.after s i)).run w =
          (resuming s body d limit (.after s (i + 1))).run v := by
        simp only [resuming, EStateM.run_bind, turned]
      have first (e : Entry S R κ μ ε) {es : List (Entry S R κ μ ε)}
          (rest : ∀ e ∈ es, e.LosesPower) (he : e ∈ Entry.of body (i + 1) d w :: es) :
          e.LosesPower := by
        rcases List.mem_cons.1 he with rfl | he
        · exact lost
        · exact rest e he
      simp only [entries, turned, goesOn]
      rcases ih (i := i + 1) live' with
        ⟨length, rest, v', out⟩ | ⟨front, last, split, rest, ends, out⟩
      · exact .inl ⟨congrArg (· + 1) length, fun e => first e rest, v', out⟩
      · refine .inr ⟨_ :: front, last, congrArg _ split, fun e => first e rest, ends, ?_⟩
        rw [out, List.length_cons, Nat.add_right_comm, Nat.add_assoc]
    · have none (e : Entry S R κ μ ε) (he : e ∈ []) : e.LosesPower := absurd he List.not_mem_nil
      exact .inr ⟨[], _, entries_last lost, none, lost, resuming_last lost⟩

/-! ## Bodies that lose no power by themselves -/

/-- A result that is no loss of power. -/
def Spared (x : Except ε Unit) : Prop := ∀ e, x = .error e → PowerLossAware.isPowerLoss e = false

/-- A body does not report a loss of power when it starts with the countdown of its device off. -/
def Quiet (body : Body S R κ μ ε) : Prop :=
  ∀ n d w x v, (w.rig? d).map (fun r => r.device.countdown) = some 0 →
    (body n d).run w = .ok x v → Spared x

/-- Where the schedule switches the countdown off, the last run starts at the latest. -/
theorem entries_of_off (tame : Tame body) (quiet : Quiet body)
    (armed : (w.rig? d).map (fun r => r.device.countdown) = some (s i)) {k : Nat}
    (off : s (i + k) = 0) (long : k < limit) :
    ∃ front last, entries s body d limit (.after s i) w = front ++ [last] ∧ front.length ≤ k ∧
      (resuming s body d limit (.after s i)).run w =
        last.concludes (Progress.after s (i + front.length)).report.addRun := by
  have live : w.isLive d := by
    obtain ⟨r, hr, -⟩ := Option.map_eq_some_iff.1 armed
    exact isLive_of_rig? hr
  -- the run that starts with the countdown off does not lose power
  have calm (e : Entry S R κ μ ε) (he : (entries s body d limit (.after s i) w)[k]? = some e) :
      ¬ e.LosesPower := by
    obtain ⟨v, rfl, start⟩ := starts_armed armed he
    rintro ⟨x, u, ran, lost⟩
    rw [off] at start
    rw [quiet _ _ _ _ _ start ran x rfl] at lost
    cases lost
  rcases resuming_ends (s := s) (i := i) tame limit live with
    ⟨length, lost, -⟩ | ⟨front, last, split, lost, -, ends⟩
  · -- the bound is not reached: not all of so many runs lose power
    have inside := List.getElem?_eq_getElem (l := entries s body d limit (.after s i) w) (i := k)
      (by omega)
    exact absurd (lost _ (List.mem_of_getElem? inside)) (calm _ inside)
  · refine ⟨front, last, split, Nat.not_lt.1 fun far => ?_, ends⟩
    have inside : (entries s body d limit (.after s i) w)[k]? = some front[k] := by
      rw [split, List.getElem?_append_left far, List.getElem?_eq_getElem far]
    exact calm _ inside (lost _ (List.getElem_mem far))

end Scenario

/-! ## Programs that lose no power by themselves -/

/-- Does a request switch the countdown on? -/
def Request.arms : Request → Bool
  | .setCountdown n => n != 0
  | _ => false

/-- A program that never switches the countdown on, and ends in a loss of power only if told of
one. -/
def Program.Calm [PowerLossAware ε] (p : Program κ μ (Except ε Unit)) : Prop :=
  p.Abides (fun r => r.arms = false) (fun _ => True) (· ≠ .fault .powerLoss) Scenario.Spared

namespace Bench

open Flash (answered)

variable [BlockStore S R] {d : Handle}

/-- The countdown of a device is off. -/
abbrev Off (d : Handle) : Bench S R κ μ → Prop := Carries d fun r => r.device.countdown = 0

omit [BlockStore S R] in
/-- What leaves the countdown and never reports a loss of power. -/
theorem upholds_off {op : Config → FlashM S R α}
    (leaves : ∀ cfg, Flash.Leaves Device.countdown (op cfg))
    (powered : ∀ cfg, Flash.Powered (op cfg)) :
    Upholds (Off (κ := κ) (μ := μ) d) (on d op) (FailsBy (· ≠ .fault .powerLoss)) := by
  refine (Lasts.of_leaves (fun r D same off => ?_) leaves fun cfg f => (powered cfg).failsBy f).on d
  exact same.trans off

/-- While the countdown is off, an update does not start by a loss of power. -/
theorem upholds_off_start (u : Update) :
    Upholds (Off (κ := κ) (μ := μ) d) (on d (Flash.start (S := S) (R := R) · u)) fun x =>
      FailsBy (· ≠ .fault .powerLoss) x ∧ ∀ worn, x ≠ .ok (.powerLost worn) := by
  refine Lasts.on (fun cfg r f same off => ?_) d
  have powered := (Flash.Powered.start cfg u).failsBy f
  -- what is checked before leaves the countdown, so it is still off when the update counts down
  have off : (answered (Flash.permit cfg u) f).2.device.countdown = 0 := by
    have leaves : Flash.Leaves Device.countdown (Flash.permit cfg u : FlashM S R _) :=
      .permit cfg u
    rw [leaves f, same, off]
  rw [Flash.answered_start_eq, off] at powered ⊢
  refine ⟨?_, powered, ?_⟩
  · show Flash.left 0 _ = 0
    unfold Flash.left
    split <;> rfl
  · intro worn lost
    revert lost
    rcases (answered (Flash.permit cfg u) f).1 with e | _ | worn' <;> exact nofun

/-- While the countdown of a device is off, no request reports a loss of power of it. -/
theorem upholds_off_perform (respond : Responder S R κ μ) {r : Request} (h : r.arms = false) :
    Upholds (Off d) (perform respond d r) (FailsBy (· ≠ .fault .powerLoss)) := by
  by_cases direct : r.isDirect
  · rw [perform_direct respond d direct]
    -- the only request that touches the countdown may at most switch it off
    by_cases timed : ∃ n, r = .setCountdown n
    · obtain ⟨n, rfl⟩ := timed
      refine Lasts.on (fun cfg r f same off => ⟨?_, .ok ()⟩) d
      exact (bne_eq_false_iff_eq.1 h)
    · refine upholds_off (fun cfg => .remote cfg (fun _ _ _ => rfl) fun n same => ?_) fun cfg =>
        .effect cfg r
      exact absurd ⟨n, same⟩ timed
  cases r with
  | update u =>
    refine (upholds_off_start u).bind fun how started => ?_
    rcases how with e | _ | worn | worn
    · exact .pure (.error (started.1 e rfl))
    · exact .pure (.ok ())
    · exact upholds_off (fun cfg => .complete cfg worn u) fun cfg => .complete cfg worn u
    · exact absurd rfl (started.2 worn)
  | copy => exact (Carries.copy d).bind fun _ _ => .pure (.ok ())
  | _ => exact absurd rfl direct

end Bench

namespace Scenario

open Bench

variable [BlockStore S R] [PowerLossAware ε]

/-- Bodies that are calm programs are quiet. -/
theorem quiet_execute (callbacks : Callbacks κ μ) (nesting : Nat)
    {p : Nat → Program κ μ (Except ε Unit)} (calm : ∀ n, (p n).Calm) :
    Quiet (S := S) (R := R) fun n d => (p n).execute callbacks nesting d := by
  intro n d w x v off run
  obtain ⟨r, hr, off⟩ := Option.map_eq_some_iff.1 off
  have installs (c : Option κ) (_ : True) : Upholds (Off (S := S) (R := R) (κ := κ) (μ := μ) d)
      (install d (c.map (Handler.custom · 0))) fun _ => True := by
    rintro w x v ⟨r, hr, off⟩ run
    rw [run_install, hr] at run
    cases run
    exact ⟨⟨_, rig?_set hr _, off⟩, trivial⟩
  have kept := Program.upholds (fun r => upholds_off_perform (respond callbacks nesting))
    installs (fun _ _ h => h) (calm n)
  exact (kept w x v ⟨r, hr, off⟩ run).2

/-! ## Strategies that switch the countdown off -/

variable {body : Body S R κ μ ε} {strategy : Strategy} {cfg : Config} {memory : μ}
  {w : Bench S R κ μ} {limit k : Nat}

/-- A new bench starts with the countdown of its strategy. -/
theorem countdown_create (made : create (configFor strategy cfg) memory = .ok w) :
    (w.rig? 0).map (fun r => r.device.countdown) = some (strategy.schedule 0) := by
  obtain ⟨-, image, -, rfl⟩ := create_eq_ok.1 made
  rfl

/-- The device of a new bench is there. -/
theorem isLive_create (made : create (configFor strategy cfg) memory = .ok w) : w.isLive 0 := by
  obtain ⟨-, image, -, rfl⟩ := create_eq_ok.1 made
  rfl

/-- A strategy that switches the countdown off after some losses of power comes to an end then. -/
theorem journal_of_off (h : strategy.Resumes) (tame : Tame body) (quiet : Quiet body)
    (made : create (configFor strategy cfg) memory = .ok w) (off : strategy.schedule k = 0)
    (long : k < limit) :
    ∃ front last report, journal strategy body limit w = front ++ [last] ∧ front.length ≤ k ∧
      report.runs = front.length + 1 ∧
      (drive strategy body limit).run w = last.concludes report := by
  rw [← Nat.zero_add k] at off
  obtain ⟨front, last, split, short, ends⟩ :=
    entries_of_off tame quiet (countdown_create made) off long
  rw [journal_eq_entries h, drive_eq_resuming h]
  refine ⟨front, last, _, split, short, ?_, ends⟩
  show 0 + front.length + 1 = _
  rw [Nat.zero_add]

/-- A list of countdowns is followed up to its first zero, and no further than to its end. -/
theorem schedule_takeWhile (schedule : List UInt32) :
    (Strategy.explicit schedule).schedule (schedule.takeWhile (· ≠ 0)).length = 0 := by
  induction schedule with
  | nil => rfl
  | cons n schedule ih =>
    by_cases zero : n = 0
    · simp [Strategy.schedule, zero]
    · simpa [Strategy.schedule, zero] using ih

/-- A run with the countdown off is the last one.

Programs that never switch the countdown on, and end in a loss of power only if told of one, are
quiet, and tame as all programs are. If a body is quiet and tame, a scenario that never loses power
runs it once, and one that follows a list of countdowns runs it at most once for each of them up to
the first that is zero, and once more. How often it may be run at most does not matter then, and
what the scenario comes to is what the last run comes to. -/
theorem last_run (cfg : Config) (memory : μ) :
    (∀ (callbacks : Callbacks κ μ) (nesting : Nat) (p : Nat → Program κ μ (Except ε Unit)),
      (∀ n, (p n).Calm) → Quiet (S := S) (R := R) (fun n d => (p n).execute callbacks nesting d) ∧
        Tame (S := S) (R := R) fun n d => (p n).execute callbacks nesting d) ∧
    ∀ (body : Body S R κ μ ε), Quiet body → Tame body →
      (∀ (w : Bench S R κ μ) (limit : Nat),
        create (configFor .none cfg) memory = .ok w → 0 < limit →
          ∃ last report, journal .none body limit w = [last] ∧ report.runs = 1 ∧
            (drive .none body limit).run w = last.concludes report) ∧
      ∀ (schedule : List UInt32) (w : Bench S R κ μ) (limit : Nat),
        create (configFor (.explicit schedule) cfg) memory = .ok w → schedule.length < limit →
          ∃ front last report, journal (.explicit schedule) body limit w = front ++ [last] ∧
            front.length ≤ (schedule.takeWhile (· ≠ 0)).length ∧ front.length ≤ schedule.length ∧
            report.runs = front.length + 1 ∧
            (drive (.explicit schedule) body limit).run w = last.concludes report := by
  refine ⟨fun callbacks nesting p calm => ⟨quiet_execute callbacks nesting calm,
    tame_execute callbacks nesting p⟩, fun body quiet tame => ⟨?_, ?_⟩⟩
  · intro w limit made long
    have follows : Strategy.none.Resumes := trivial
    obtain ⟨front, last, report, split, short, runs, ends⟩ :=
      journal_of_off follows tame quiet made (k := 0) rfl long
    obtain rfl := List.length_eq_zero_iff.1 (Nat.le_zero.1 short)
    exact ⟨last, report, split, runs, ends⟩
  · intro schedule w limit made long
    have follows : (Strategy.explicit schedule).Resumes := trivial
    have bound : (schedule.takeWhile (· ≠ 0)).length ≤ schedule.length :=
      (List.takeWhile_sublist _).length_le
    obtain ⟨front, last, report, split, short, runs, ends⟩ := journal_of_off follows tame quiet made
      (schedule_takeWhile schedule) (Nat.lt_of_le_of_lt bound long)
    exact ⟨front, last, report, split, short, Nat.le_trans short bound, runs, ends⟩

/-- A failure of a device that is no loss of power. -/
theorem spared_of_failsBy {x : Except Failure Unit} (h : FailsBy (· ≠ .fault .powerLoss) x) :
    Spared x := by
  intro e same
  have other := h e same
  rcases e with f | m | d
  · cases f with
    | powerLoss => exact absurd rfl other
    | corrupt | noMemory | io => rfl
  · rfl
  · rfl

theorem calm_rewriteFirst : rewriteFirst.Calm := by
  refine ⟨rfl, fun x hx => ?_⟩
  rcases x with e | _
  · exact spared_of_failsBy hx
  · exact ⟨rfl, fun y hy => spared_of_failsBy hy⟩

theorem last_run_rewriting :
    ∃ (w : Bench Counted Nat Unit Unit) (front : List (Entry Counted Nat Unit Unit Failure))
      (last : Entry Counted Nat Unit Unit Failure) (report : Report),
      create (configFor (.explicit [1, 0, 2]) frayedPair) () = .ok w ∧
      journal (.explicit [1, 0, 2]) rewriting 4 w = front ++ [last] ∧ front.length ≤ 1 ∧
      report.runs = front.length + 1 ∧
      (drive (.explicit [1, 0, 2]) rewriting 4).run w = last.concludes report := by
  obtain ⟨programs, bodies⟩ :=
    last_run (S := Counted) (R := Nat) (κ := Unit) (μ := Unit) (ε := Failure) frayedPair ()
  obtain ⟨quiet, tame⟩ := programs (fun _ _ => .done (.ok .resume)) 0 (fun _ => rewriteFirst)
    fun _ => calm_rewriteFirst
  obtain ⟨w, made⟩ : ∃ w : Bench Counted Nat Unit Unit,
      create (configFor (.explicit [1, 0, 2]) frayedPair) () = .ok w := ⟨_, rfl⟩
  obtain ⟨front, last, report, split, short, -, runs, ends⟩ :=
    (bodies rewriting quiet tame).2 [1, 0, 2] w 4 made (by decide)
  exact ⟨w, front, last, report, made, split, short, runs, ends⟩

/-- Switches the countdown on in its first run, and rewrites the first block. -/
def armingOnce : Body Counted Nat Unit Unit Failure := fun n d =>
  if n = 1 then
    let armed : Program Unit Unit (Except Failure Unit) :=
      .ask (.setCountdown 1) fun _ => rewriteFirst
    armed.execute (fun _ _ => .done (.ok .resume)) 0 d
  else rewriting n d

/-- A body that loses power by itself is run again, although power is never to be lost. -/
theorem last_run_armed : ∃ b, runBody .none frayedPair () armingOnce 2 =
    .ok ⟨.ok ⟨2, 1, [[0]]⟩, b⟩ := by
  have ends : ended (runBody .none frayedPair () armingOnce 2) = some (.ok ⟨2, 1, [[0]]⟩) := by
    decide +kernel
  obtain ⟨v, ran⟩ := ended_eq_some.1 ends
  exact ⟨some v, ran⟩

end Scenario

end FaultyFlash
