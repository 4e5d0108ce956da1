import Mathlib.Data.List.Forall2
import FaultyFlash.Proofs.Powered
import FaultyFlash.Proofs.Scenario.Losses
import FaultyFlash.Proofs.Scenario.Trails

/-!
# Bodies of tests

A well-behaved body only asks, does not look at or touch the countdown, and ends with a loss of
power as soon as it is told of one, and only then. What it does by itself decides what it does on a
bench: where a countdown breaks it off, what it leaves there, and which copies are taken of the
device.

## Main definitions

* `Program.Heeds`: a program ends with a loss of power as soon as it is told of one, and only then
* `Program.WellBehaved`: well-behaved bodies

## Main results

* `Program.not_powerLoss`: a body that does not lose power does not tell of a loss of it
* `Bench.Tracks.timed`: a body on a device that counts down
* `Bench.Tracks.forking`: a body on a device that is copied at every update
-/

namespace FaultyFlash

open Flash (answered AlikeBy)
open Device (Clocked)

variable {κ μ α ε : Type} [PowerLossAware ε] {cfg : Config} {n : UInt32}

/-! ## Well-behaved bodies -/

/-- A program ends with a loss of power as soon as it is told of one, and only then. -/
def Program.Heeds : Program κ μ (Except ε α) → Prop
  | .done x => ∀ e, x = .error e → PowerLossAware.isPowerLoss e = false
  | .ask _ next =>
    (∃ e, next (.error (.fault .powerLoss)) = .done (.error e) ∧
      PowerLossAware.isPowerLoss e = true) ∧
    ∀ x, x ≠ .error (.fault .powerLoss) → (next x).Heeds
  | .install _ next => next.Heeds
  | .getMemory next => ∀ m, (next m).Heeds
  | .setMemory _ next => next.Heeds

/-- A body only asks, neither looks at nor touches the countdown and the callback, looks neither at
the sharing of blocks nor at the image file, and heeds losses of power. -/
structure Program.WellBehaved (p : Program κ μ (Except ε Unit)) : Prop where
  asks : p.Asks fun r => r.isUntimed
  blind : p.Blind Request.steady
  heeds : p.Heeds

/-- As long as power is not lost, no answer that is seen tells of a loss of it. -/
theorem Request.steady_ne (r : Request) (X : Flash Plain Block) :
    steady r (answered (r.effect cfg) X).1 ≠ .error (.fault .powerLoss) := by
  intro lost
  have told : (answered (r.effect cfg) X).1 = .error (.fault .powerLoss) := by
    cases h : (answered (r.effect cfg) X).1 with
    | ok a =>
      rw [h] at lost
      cases r <;> cases lost
    | error e =>
      rw [h] at lost
      cases r <;> exact lost
  have run := (Flash.answered_eq_error (g := (answered (r.effect cfg) X).2)).1 (Prod.ext told rfl)
  exact Flash.Powered.effect cfg r X _ _ run rfl

/-- A body that does not lose power does not tell of a loss of it. -/
theorem Program.not_powerLoss {ok : Request → Prop} {p : Program κ μ (Except ε α)}
    (asks : p.Asks ok) (heeds : p.Heeds) (m : μ) (X : Flash Plain Block) {e : ε}
    (h : (p.alone Request.steady cfg m X).result = .error e) :
    PowerLossAware.isPowerLoss e = false := by
  induction p generalizing X with
  | done x => exact heeds e h
  | ask r next ih => exact ih _ (asks.2 _) (heeds.2 _ (r.steady_ne X)) _ h
  | install | getMemory | setMemory => exact asks.elim

/-! ## Bodies on a device that counts down -/

namespace Bench

variable {P : Option (Handler κ) → Prop} {imaged : Bool} {d : Handle} {X : Flash Plain Block}
  {v : Bench Plain Block κ μ}

namespace Tracks

theorem sound (h : Tracks cfg imaged (Clocked cfg n) P d X v) : X.device.Sound cfg := by
  obtain ⟨r, -, clocked, -⟩ := h.rig
  exact clocked.2

/-- A body on a device that counts down ends as by itself, unless the countdown hits: then it ends
with a loss of power, and leaves what that loss would leave by itself. -/
theorem timed (able : cfg.Able) {p : Program κ μ (Except ε α)} (asks : p.Asks fun r => r.isUntimed)
    (blind : p.Blind Request.steady) (heeds : p.Heeds)
    (h : Tracks cfg imaged (Clocked cfg n) (· = none) d X v) (respond : Responder Plain Block κ μ)
    (m : μ) :
    ∃ x w, (p.run respond d).run v = .ok x w ∧ Uses d v w ∧
      match Trail.hit n (p.alone Request.steady cfg m X).crashes with
      | some Y => (∃ e, x = .error e ∧ PowerLossAware.isPowerLoss e = true) ∧
          Tracks cfg imaged (Clocked cfg 0) (· = none) d Y w
      | none => x = (p.alone Request.steady cfg m X).result := by
  induction p generalizing X v n with
  | done a =>
    refine ⟨a, v, rfl, .refl d v, ?_⟩
    rw [Program.alone, Trail.hit_nil]
  | ask r next ih =>
    -- after a request that does not lose power, the rest of the body goes on
    have goesOn (calm : r.Calm cfg n X) :
        ∃ x w, ((Program.ask r next).run respond d).run v = .ok x w ∧ Uses d v w ∧
        match Trail.hit (r.left cfg n X)
            ((next (r.steady (answered (r.effect cfg) X).1)).alone Request.steady cfg m
              (answered (r.effect cfg) X).2).crashes with
        | some Y => (∃ e, x = .error e ∧ PowerLossAware.isPowerLoss e = true) ∧
            Tracks cfg imaged (Clocked cfg 0) (· = none) d Y w
        | none => x = ((Program.ask r next).alone Request.steady cfg m X).result := by
      obtain ⟨y, t, asked, same, tracks, uses⟩ :=
        h.request (Request.agrees_clocked cfg n asks.1) calm respond
      obtain ⟨x, w, run, uses', ends⟩ :=
        ih _ (asks.2 _) (blind.2 _) (heeds.2 _ (r.steady_ne X)) tracks
      refine ⟨x, w, run_bind_eq_ok.2 ⟨y, t, asked, ?_⟩, uses.trans uses', ends⟩
      rw [blind.1 y, same]
      exact run
    rcases r.torn_cases able h.sound with ⟨none, calm⟩ | ⟨u, worn, Y, Z, rfl, torn, tears⟩
    · -- the request does not count
      obtain ⟨x, w, run, uses, ends⟩ := goesOn (calm n).1
      refine ⟨x, w, run, uses, ?_⟩
      rw [(calm n).2] at ends
      rw [Program.alone, none]
      exact ends
    · rw [Program.alone, Request.torn, torn, List.singleton_append, Trail.hit_cons]
      by_cases now : n = 1
      · -- power is lost, and the body heeds it
        subst now
        obtain ⟨⟨e, ends, lost⟩, -⟩ := heeds
        obtain ⟨w, run, tracks, uses⟩ := h.fired tears respond
        refine ⟨.error e, w, run_bind_eq_ok.2 ⟨_, w, run, ?_⟩, uses, ⟨e, rfl, lost⟩, tracks⟩
        rw [ends]
        rfl
      · -- the update counts, and the countdown hits one place later in the rest
        obtain ⟨x, w, run, uses, ends⟩ := goesOn fun _ _ => now
        refine ⟨x, w, run, uses, ?_⟩
        have left : (Request.update u).left cfg n X = if n = 0 then 0 else n - 1 := by
          rw [Request.left, tears.permitted, Flash.left]
        rw [left] at ends
        rw [if_neg now]
        exact ends
  | install | getMemory | setMemory => exact asks.elim

/-- A body on a device that is copied at every update ends as by itself, and the copies are what the
losses of power in turn would leave. -/
theorem forking (able : cfg.Able) {p : Program κ μ α} (asks : p.Asks fun r => r.isUntimed)
    (blind : p.Blind Request.steady)
    (h : Tracks cfg imaged (Clocked cfg 1) (· = some .fork) d X v)
    {respond : Responder Plain Block κ μ} (forks : respond .fork d = Bench.fork d) (m : μ) :
    ∃ hs w, (p.run respond d).run v = .ok (p.alone Request.steady cfg m X).result w ∧
      Tracks cfg imaged (Clocked cfg 1) (· = some .fork) d
        (p.alone Request.steady cfg m X).device w ∧ Forks d hs v w ∧
      List.Forall₂ (fun e Z => Tracks cfg imaged (Clocked cfg 0) (· = none) e Z w) hs
        (p.alone Request.steady cfg m X).crashes := by
  induction p generalizing X v with
  | done a => exact ⟨[], v, rfl, h, (Uses.refl d v).forking, .nil⟩
  | ask r next ih =>
    rcases r.torn_cases able h.sound with ⟨none, calm⟩ | ⟨u, worn, Y, Z, rfl, torn, tears⟩
    · obtain ⟨x, t, asked, same, tracks, uses⟩ :=
        h.request (Request.agrees_clocked cfg 1 asks.1) (calm 1).1 respond
      rw [(calm 1).2] at tracks
      obtain ⟨hs, w, run, tracks', forked, copies⟩ := ih _ (asks.2 _) (blind.2 _) tracks
      refine ⟨hs, w, run_bind_eq_ok.2 ⟨x, t, asked, ?_⟩, tracks', uses.forking.trans forked, ?_⟩
      · rw [blind.1 x, same]
        exact run
      · rw [Program.alone, none]
        exact copies
    · obtain ⟨e, t, asked, tracks, copy, made⟩ := h.forked tears able forks
      obtain ⟨hs, w, run, tracks', forked, copies⟩ := ih _ (asks.2 _) (blind.2 _) tracks
      -- the copy is not used by the rest of the body
      have apart : e ∉ [d] := h.not_mem_of_le (made.fresh List.mem_cons_self).1
      refine ⟨e :: hs, w, run_bind_eq_ok.2 ⟨_, t, asked, run⟩, tracks', made.trans forked, ?_⟩
      rw [Program.alone, Request.torn, torn]
      exact .cons (copy.of_spares forked.toSpares apart) copies
  | install | getMemory | setMemory => exact asks.elim

end Tracks

end Bench

end FaultyFlash
