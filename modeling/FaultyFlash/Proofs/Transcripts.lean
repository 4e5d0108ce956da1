import FaultyFlash.Proofs.Unattended

/-!
# What programs ask

What a program asks of its device depends on what it is answered, and so on the bench on which it
runs. On a device without a callback, a program that leaves the countdown alone is told of a loss of
power only if it asks as many updates that count as are left; and if it does, it is told, unless the
image file refuses to be written.

## Main definitions

* `Asked`: a request on a bench, and the answer to it
* `Program.transcript`: what a program asks, the first request first
* `Program.Untimed`: programs that leave the countdown and the callback of their device alone
* `Bench.Ready`: benches on which such programs run

## Main results

* `Bench.Ready.perform`: what a request takes of the countdown, and when power is lost
* `Program.Untimed.run`: so it is with all requests of a program
-/

namespace FaultyFlash

variable {S R κ μ α : Type}

/-- What was asked of a device: the bench on which it was asked, the request, and the answer. -/
structure Asked (S R κ μ : Type) where
  bench : Bench S R κ μ
  request : Request
  answer : Except Failure request.Answer

namespace Asked

/-- Was it told that power was lost? -/
def lostPower (a : Asked S R κ μ) : Bool :=
  match a.answer with
  | .ok _ => false
  | .error e => e.isPowerLoss

theorem lostPower_iff {a : Asked S R κ μ} :
    a.lostPower ↔ a.answer = .error (.fault .powerLoss) := by
  unfold lostPower
  rcases a.answer with (_ | _ | _) | _
  case error.fault f => cases f <;> simp [Failure.isPowerLoss, Fault.isPowerLoss]
  all_goals simp [Failure.isPowerLoss]

variable [BlockStore S R]

/-- Was it an update of the device that was let through, so that it counts? -/
def counts (d : Handle) (a : Asked S R κ μ) : Bool := a.bench.admits d a.request

/-- A request adds one to those that counted if it was let through. -/
theorem countP_counts_cons {d : Handle} (w : Bench S R κ μ) {r : Request}
    (x : Except Failure r.Answer) (as : List (Asked S R κ μ)) :
    (⟨w, r, x⟩ :: as).countP (counts d) = as.countP (counts d) + (w.admits d r).toNat := by
  have first : counts d ⟨w, r, x⟩ = w.admits d r := rfl
  rw [List.countP_cons, first]
  cases w.admits d r <;> rfl

end Asked

/-- A program that touches neither the countdown nor the callback of its device. -/
def Program.Untimed (p : Program κ μ α) : Prop :=
  p.Abides (fun r => ∀ n, r ≠ .setCountdown n) (fun _ => False) (fun _ => True) fun _ => True

/-- What a program asks of the device of a handle, on a bench. -/
def Program.transcript [BlockStore S R] (respond : Responder S R κ μ) (d : Handle) :
    Program κ μ α → Bench S R κ μ → List (Asked S R κ μ)
  | .done _, _ => []
  | .ask r next, w =>
    match (Bench.perform respond d r).run w with
    | .ok x v => ⟨w, r, x⟩ :: (next x).transcript respond d v
    | .error .. => []
  | .install callback next, w =>
    match (Bench.install d (callback.map (Handler.custom · 0))).run w with
    | .ok _ v => next.transcript respond d v
    | .error .. => []
  | .getMemory next, w => (next w.memory).transcript respond d w
  | .setMemory m next, w => next.transcript respond d { w with memory := m }

namespace Bench

variable {cfg : Config} {d : Handle} {w v : Bench Counted Nat κ μ}

/-- A well-formed bench of a configuration, with a device that has no callback. -/
structure Ready (cfg : Config) (d : Handle) (w : Bench Counted Nat κ μ) : Prop where
  wellFormed : w.WellFormed
  config : w.config = cfg
  bare : Bare d w

/-- What is asked of a device without a callback leaves the bench well formed. -/
theorem WellFormed.perform (h : w.WellFormed) (bare : Bare d w)
    {respond : Responder Counted Nat κ μ} {r : Request} {x : Except Failure r.Answer}
    (run : (perform respond d r).run w = .ok x v) : v.WellFormed := by
  -- it does not matter who would answer, so it may as well be an interplay that asks
  let single : Interplay κ μ (Except Failure r.Answer) := .ask d r .done
  have ran : (single.execute (fun _ _ _ => .done (.ok .resume)) 0).run w = .ok x v := by
    refine run_bind_eq_ok.2 ⟨x, v, ?_, rfl⟩
    rw [← run]
    exact bare.perform_congr _ _ r
  exact h.execute ran

theorem Ready.remember (h : Ready cfg d w) (m : μ) : Ready cfg d { w with memory := m } where
  wellFormed :=
    ⟨h.wellFormed.geometry, ⟨rfl, h.wellFormed.seen.counts⟩, h.wellFormed.devices,
      h.wellFormed.tables⟩
  config := h.config
  bare := h.bare

/-- What a request takes of the countdown: one if it is an update that counts, as long as there is
something left. Only the one that takes the last loses power, and it does. -/
theorem Ready.perform (limit : cfg.geometry.blockSize < Config.allocationLimit) (h : Ready cfg d w)
    (respond : Responder Counted Nat κ μ) {r : Request} (untimed : ∀ n, r ≠ .setCountdown n) :
    ∃ x v, (Bench.perform respond d r).run w = .ok x v ∧ Ready cfg d v ∧
      v.left d = w.left d - (w.admits d r).toNat ∧
      (x = .error (.fault .powerLoss) → w.admits d r ∧ w.left d = 1) ∧
      (w.admits d r → w.left d = 1 → x = .error w.lossReport) := by
  obtain ⟨x, v, run, bare, config, left, last⟩ := h.bare.perform respond untimed
  have ready : Ready cfg d v := ⟨h.wellFormed.perform h.bare run, config.trans h.config, bare⟩
  refine ⟨x, v, run, ready, left, last, fun counts one => ?_⟩
  cases r with
  | update u =>
    obtain ⟨s, hs, none⟩ := h.bare
    rw [left_of_rig? hs] at one
    have fits : w.config.geometry.blockSize < Config.allocationLimit := by rwa [h.config]
    obtain ⟨_, _, _, lost, -⟩ :=
      perform_last h.wellFormed fits hs none counts (UInt32.toNat_inj.1 one) respond
    rw [run] at lost
    cases lost
    rfl
  | _ => cases counts

end Bench

open Bench

/-- An untimed program does not get stuck. If it is told of a loss of power, at least as many of its
requests count as were left of the countdown, and something was left; if it is told of none, fewer
do, unless nothing was left, or the image file refuses to be written. -/
theorem Program.Untimed.run {cfg : Config} {d : Handle} {w : Bench Counted Nat κ μ}
    {p : Program κ μ α} (untimed : p.Untimed)
    (limit : cfg.geometry.blockSize < Config.allocationLimit) (h : Ready cfg d w)
    (respond : Responder Counted Nat κ μ) :
    ∃ a v, (p.run respond d).run w = .ok a v ∧ Ready cfg d v ∧
      let asked := p.transcript respond d w
      (asked.any Asked.lostPower →
        0 < w.left d ∧ w.left d ≤ asked.countP (Asked.counts d)) ∧
      (cfg.image ≠ .sealed → ¬ asked.any Asked.lostPower →
        w.left d = 0 ∨ asked.countP (Asked.counts d) < w.left d) := by
  -- by induction on the program; a request takes of the countdown what it adds to the count
  induction p generalizing w with
  | done a =>
    refine ⟨a, w, rfl, h, nofun, fun _ _ => ?_⟩
    exact Nat.eq_zero_or_pos (w.left d)
  | ask r next ih =>
    obtain ⟨x, u, performed, ready, left, only, last⟩ := h.perform limit respond untimed.1
    obtain ⟨a, v, ran, ready', told, spared⟩ := ih x (untimed.2 x fun _ _ => trivial) ready
    rw [left] at told spared
    refine ⟨a, v, run_bind_eq_ok.2 ⟨x, u, performed, ran⟩, ready', ?_⟩
    simp only [transcript, performed, List.any_cons, Asked.countP_counts_cons,
      Bool.or_eq_true, not_or]
    refine ⟨fun lost => ?_, fun taken ⟨goesOn, later⟩ => ?_⟩
    · rcases lost with now | later
      · obtain ⟨counts, one⟩ := only (Asked.lostPower_iff.1 now)
        rw [counts, Bool.toNat_true]
        omega
      · have rest := told later
        omega
    · have rest := spared taken later
      by_cases counts : w.admits d r
      · have more : w.left d ≠ 1 := by
          intro one
          have reported := last counts one
          rw [lossReport_of_takes (refuses_of_ne (h.config ▸ taken))] at reported
          exact goesOn (Asked.lostPower_iff.2 reported)
        rw [counts, Bool.toNat_true] at rest ⊢
        omega
      · rw [Bool.not_eq_true] at counts
        rw [counts, Bool.toNat_false] at rest ⊢
        exact rest
  | install callback next ih => exact untimed.1.elim
  | getMemory next ih => exact ih w.memory (untimed w.memory) h
  | setMemory m next ih =>
    exact ih untimed (h.remember m)

end FaultyFlash
