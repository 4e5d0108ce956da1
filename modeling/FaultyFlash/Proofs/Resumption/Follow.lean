import FaultyFlash.Proofs.Resumption.Interrupt

/-!
# Programs that are interrupted

A program on a device that carries a resuming callback is compared with the same program on a device
by itself, on which power is never lost; and so is the program on a device whose countdown is off.

## Main definitions

* `Request.isTraceless`: requests that tell of blocks and draws
* `Bench.Follows`: a device that may be interrupted resembles a device by itself
* `Bench.Rests`: a device whose countdown is off is otherwise a device by itself

## Main results

* `Bench.Follows.program`, `Bench.Rests.program`: either way a program runs as on the device by
  itself
-/

namespace FaultyFlash

open Flash (answered AlikeBy)
open Device (Clocked)

variable {κ μ α : Type}

/-- Is a request answered from blocks and draws, or an update? -/
def Request.isTraceless : Request → Bool
  | .update _ | .allocated => true
  | r => r.isBasic

/-- Devices that are alike answer such requests alike. -/
theorem Likeness.agrees {cfg : Config} {R : Device Block → Device Block → Prop}
    (h : Likeness cfg R) {imaged : Bool} {seen : Seen} {r : Request} (hr : r.isTraceless) :
    r.Agrees seen cfg (AlikeBy R imaged) := by
  by_cases basic : r.isBasic
  · exact Request.agrees_of_preserves (h.lockstep.basic basic)
  cases r with
  | update u => exact Request.agrees_of_preserves (h.lockstep.uninterrupted u)
  | allocated =>
    refine Request.agrees_of_preserves fun f g hfg => ⟨?_, hfg⟩
    simp only [Device.allocated, h.slots hfg.1]
  | _ => cases basic hr

/-! ## Programs that are interrupted -/

/-- How an update would start if power were not lost. -/
def Start.ridden : Start → Start
  | .powerLost worn => .proceed worn
  | s => s

/-- How an update starts that was let through or not, if power is not lost. -/
def Start.through : Option Bool → Start
  | none => .ignored
  | some worn => .proceed worn

theorem Start.ridden_of (n : UInt32) (permitted : Option Bool) :
    (Start.of n permitted).ridden = Start.through permitted := by
  cases permitted with
  | none => rfl
  | some worn =>
    simp only [of]
    split <;> rfl

/-- Starts that would go on alike do so, or are interrupted. -/
theorem Start.cases_of_ridden {started : Except Failure Start}
    {permitted : Except Failure (Option Bool)}
    (same : started.map ridden = permitted.map through) :
    (∃ e, started = .error e ∧ permitted = .error e) ∨
      (started = .ok .ignored ∧ permitted = .ok none) ∨
      ∃ worn, permitted = .ok (some worn) ∧
        (started = .ok (.proceed worn) ∨ started = .ok (.powerLost worn)) := by
  rcases permitted with e | _ | worn <;> rcases started with e' | _ | worn' | worn' <;> cases same
  · exact .inl ⟨e, rfl, rfl⟩
  · exact .inr (.inl ⟨rfl, rfl⟩)
  · exact .inr (.inr ⟨worn, rfl, .inl rfl⟩)
  · exact .inr (.inr ⟨worn, rfl, .inr rfl⟩)

/-- The countdown does not tell devices apart that resemble each other. -/
theorem Device.Resembles.rearm {C : Counter → Prop} {D : Device Block} {f : Flash Plain Block}
    (h : D.Resembles C f.device) (n : UInt32) : D.Resembles C (f.rearm n).device where
  slots := h.slots
  generator := h.generator
  counters {c} hc := by
    have same := h.counters hc
    cases c <;> exact same

/-- On devices that resemble each other, updates start alike but for losses of power. -/
theorem Flash.answered_start_ridden {cfg : Config} {imaged : Bool} {C : Counter → Prop}
    {X f : Flash Plain Block} (h : AlikeBy (Device.Resembles C) imaged X f) (u : Update) :
    (answered (start cfg u) f).1.map Start.ridden =
        (answered (permit cfg u) X).1.map Start.through ∧
      AlikeBy (Device.Resembles C) imaged (answered (permit cfg u) X).2
        (answered (start cfg u) f).2 := by
  have permitted : Preserves (AlikeBy (Device.Resembles C) imaged) (permit cfg u) (permit cfg u) :=
    (resemblance cfg C).lockstep.permit u
  obtain ⟨same, alike, images⟩ := answered_of_preserves permitted h
  rw [answered_start_eq, same]
  refine ⟨?_, alike.rearm _, images⟩
  cases (answered (permit cfg u) f).1 with
  | error e => rfl
  | ok permitted => exact congrArg Except.ok (Start.ridden_of _ permitted)

namespace Bench

variable {cfg : Config} {imaged : Bool} {d : Handle} {code : κ} {aside : List (Suspension Block)}
  {w v : Bench Counted Nat κ μ} {X Y : Flash Plain Block} {C : Counter → Prop}

/-- On a sound bench a device that carries the callback `code` resembles a device by itself. -/
structure Follows (cfg : Config) (imaged : Bool) (C : Counter → Prop) (d : Handle) (code : κ)
    (aside : List (Suspension Block)) (X : Flash Plain Block) (w : Bench Counted Nat κ μ) :
    Prop where
  attended : Attended cfg imaged d code aside w
  tracks : Tracks cfg imaged (Device.Resembles C) (fun _ => True) d X w.plain

namespace Follows

/-- An operation is performed as on the device by itself. -/
theorem on {op : Config → FlashM Counted Nat α} {op' : Config → FlashM Plain Block α}
    (h : Follows cfg imaged C d code aside X w)
    (alike : Alike (κ := κ) (μ := μ) (Bench.on d op) (Bench.on d op'))
    (kept : Keeps
      (Through (StaysSound (κ := κ) (μ := μ) cfg imaged (fun e => e = d) (IsCall code) aside))
      (Bench.on d op) (Bench.on d op)) {Q : Except Failure α → Prop}
    (ha : ∀ f, AlikeBy (Device.Resembles C) imaged X f → Q (answered (op' cfg) f).1 ∧
      AlikeBy (Device.Resembles C) imaged Y (answered (op' cfg) f).2)
    {x : Except Failure α} (run : (Bench.on d op).run w = .ok x v) :
    Q x ∧ Follows cfg imaged C d code aside Y v := by
  obtain ⟨y, t, run', answer, tracks, -⟩ := h.tracks.on op' ha
  -- the bench as it is seen takes the same step
  obtain ⟨plain, -⟩ := alike.run_plain h.attended.seen run
  rw [run'] at plain
  simp only [EStateM.Result.ok.injEq] at plain
  obtain ⟨rfl, rfl⟩ := plain
  have attended := kept w w h.attended
  rw [run] at attended
  exact ⟨answer, attended.2, tracks⟩

/-- The rest of an update is performed as on the device by itself. -/
theorem complete (h : Follows cfg imaged C d code aside X w) {worn : Bool} {u : Update}
    {x : Except Failure Unit} (run : (Bench.on d (Flash.complete · worn u)).run w = .ok x v) :
    x = (answered (Flash.complete cfg worn u) X).1 ∧
      Follows cfg imaged C d code aside (answered (Flash.complete cfg worn u) X).2 v := by
  refine h.on (Q := fun x => x = (answered (Flash.complete cfg worn u) X).1)
    (SeenAs.lockstep.complete (i := ()) rfl worn u)
    ((attended_lockstep cfg imaged d code).complete ⟨rfl, rfl⟩ worn u) (fun f hf => ?_) run
  have kept : Preserves (AlikeBy (Device.Resembles C) imaged) (Flash.complete cfg worn u)
      (Flash.complete cfg worn u) :=
    (resemblance cfg C).lockstep.complete worn u
  exact (Flash.answered_of_preserves kept hf).imp Eq.symm id

/-- An update is performed as on the device by itself, whether it is interrupted or not. -/
theorem update (h : Follows cfg imaged C d code aside X w) (able : cfg.Able)
    {callbacks : Callbacks κ μ} (hc : callbacks.Resume code) {depth : Nat}
    (hC : ∀ c, C c → Uncounted callbacks depth code d c) {u : Update}
    {x : Except Failure Unit} (run : (update (respond callbacks depth) d u).run w = .ok x v) :
    x = (answered (Flash.uninterrupted cfg u) X).1 ∧
      Follows cfg imaged C d code aside (answered (Flash.uninterrupted cfg u) X).2 v := by
  obtain ⟨started, w1, startRun, rest⟩ := run_bind_eq_ok.1 run
  obtain ⟨same, h1⟩ := h.on
    (Q := fun x => x.map Start.ridden = (answered (Flash.permit cfg u) X).1.map Start.through)
    (SeenAs.lockstep.start (i := ()) rfl u)
    ((attended_lockstep cfg imaged d code).start ⟨rfl, rfl⟩ u)
    (fun f hf => Flash.answered_start_ridden hf u) startRun
  have fits {worn : Bool} (h : (answered (Flash.permit cfg u) X).1 = .ok (some worn)) :
      u.Fits cfg :=
    Flash.fits_of_permit (Flash.answered_eq_ok.1 (Prod.ext h rfl))
  simp only [Flash.uninterrupted, Flash.answered_bind]
  generalize answered (Flash.permit cfg u) X = a at same h1 fits ⊢
  obtain ⟨permitted, Y⟩ := a
  rcases Start.cases_of_ridden same with ⟨e, rfl, rfl⟩ | ⟨rfl, rfl⟩ | ⟨worn, rfl, rfl | rfl⟩
  · -- the update is refused
    cases rest
    exact ⟨rfl, h1⟩
  · -- the update is ignored
    cases rest
    exact ⟨rfl, h1⟩
  · exact h1.complete rest
  · -- power is lost, and the callback brings the device back
    obtain ⟨r, hr, alike, -⟩ := h1.tracks.rig
    obtain ⟨y, w2, interruptRun, rest⟩ := run_bind_eq_ok.1 rest
    obtain ⟨rfl, attended, s, hs, back⟩ :=
      interrupt_resumes h1.attended able (fits rfl) hc hr interruptRun
    have resembles : Y.device.Resembles C s.device :=
      alike.trans ⟨back.slots, back.generator, fun hc => back.counters (hC _ hc)⟩
    have h2 : Follows cfg imaged C d code aside Y w2 :=
      ⟨attended, attended.holds.config, ⟨h1.tracks.image.1, attended.holds.image⟩, s, hs,
        resembles, trivial⟩
    exact h2.complete rest

/-- A request is performed as on the device by itself. -/
theorem request (h : Follows cfg imaged C d code aside X w) (able : cfg.Able)
    {callbacks : Callbacks κ μ} (hc : callbacks.Resume code) {depth : Nat}
    (hC : ∀ c, C c → Uncounted callbacks depth code d c) {r : Request} (hr : r.isTraceless)
    {x : Except Failure r.Answer}
    (run : (perform (respond callbacks depth) d r).run w = .ok x v) :
    x = (answered (r.effect cfg) X).1 ∧
      Follows cfg imaged C d code aside (answered (r.effect cfg) X).2 v := by
  by_cases direct : r.isDirect
  · have plainly : ∀ x, r.apartRefs x = x := by
      intro x
      cases r <;> first | rfl | cases hr
    have alike := Alike.direct (κ := κ) (μ := μ) d direct (respond callbacks depth)
      (respond callbacks depth)
    have kept := (attended_lockstep (κ := κ) (μ := μ) cfg imaged d code).direct (i := aside)
      ⟨rfl, rfl⟩ direct (respond callbacks depth) (respond callbacks depth)
    simp only [funext plainly, id_map', perform_direct _ d direct] at alike kept run
    refine h.on (Q := fun x => x = (answered (r.effect cfg) X).1) alike kept ?_ run
    have agrees : r.Agrees (fun _ x => x) cfg (AlikeBy (Device.Resembles C) imaged) :=
      (resemblance cfg C).agrees hr
    exact agrees X
  · cases r with
    | update u => exact h.update able hc hC run
    | copy => cases hr
    | _ => cases direct rfl

/-- A program runs as on the device by itself. -/
theorem program (able : cfg.Able) {callbacks : Callbacks κ μ} (hc : callbacks.Resume code)
    {depth : Nat} (hC : ∀ c, C c → Uncounted callbacks depth code d c) {p : Program κ μ α}
    (hp : p.Asks fun r => r.isTraceless) (h : Follows cfg imaged C d code aside X w) (m : μ) {a : α}
    (run : (p.run (respond callbacks depth) d).run w = .ok a v) :
    a = (p.alone (fun _ x => x) cfg m X).result ∧
      Follows cfg imaged C d code aside (p.alone (fun _ x => x) cfg m X).device v := by
  induction p generalizing X w with
  | done b =>
    cases run
    exact ⟨rfl, h⟩
  | ask r next ih =>
    obtain ⟨x, t, asked, rest⟩ := run_bind_eq_ok.1 run
    obtain ⟨rfl, followed⟩ := h.request able hc hC hp.1 asked
    exact ih _ (hp.2 _) followed rest
  | install | getMemory | setMemory => exact hp.elim

end Follows

/-! ## Programs that are not interrupted -/

/-- On a bench a device whose countdown is off is otherwise a device by itself. -/
structure Rests (cfg : Config) (imaged : Bool) (d : Handle) (X : Flash Plain Block)
    (w : Bench Counted Nat κ μ) : Prop where
  seen : SeenAs w w.plain
  tracks : Tracks cfg imaged (Clocked cfg 0) (fun _ => True) d X w.plain

namespace Rests

theorem update (h : Rests cfg imaged d X w) (u : Update) (respond : Responder Counted Nat κ μ) :
    ∃ v, (update respond d u).run w = .ok (answered (Flash.uninterrupted cfg u) X).1 v ∧
      Rests cfg imaged d (answered (Flash.uninterrupted cfg u) X).2 v := by
  have started : Alike (κ := κ) (μ := μ) (on d (Flash.start · u)) (on d (Flash.start · u)) :=
    SeenAs.lockstep.start (i := ()) rfl u
  obtain ⟨_, seenRun, tracks, -⟩ := h.tracks.start u
  obtain ⟨v, run, seen, rfl⟩ := started.run_seen h.seen seenRun
  clear seenRun
  simp only [Flash.uninterrupted, Flash.answered_bind]
  rw [Flash.left_zero] at tracks
  generalize answered (Flash.permit cfg u) X = a at run tracks ⊢
  obtain ⟨x, Y⟩ := a
  cases x with
  | error e => exact ⟨v, run_bind_eq_ok.2 ⟨_, v, run, rfl⟩, seen, tracks⟩
  | ok permitted =>
    cases permitted with
    | none => exact ⟨v, run_bind_eq_ok.2 ⟨_, v, run, rfl⟩, seen, tracks⟩
    | some worn =>
      have completed : Alike (κ := κ) (μ := μ) (on d (Flash.complete · worn u))
          (on d (Flash.complete · worn u)) :=
        SeenAs.lockstep.complete (i := ()) rfl worn u
      obtain ⟨_, seenRun, tracks', -⟩ := tracks.untimed (Flash.complete · worn u)
        ((clockedLikeness cfg 0).lockstep.complete worn u)
      obtain ⟨t, run', seen', rfl⟩ := completed.run_seen seen seenRun
      have never : (0 : UInt32) ≠ 1 := by decide
      simp only [Except.map, Start.of, if_neg never] at run
      exact ⟨t, run_bind_eq_ok.2 ⟨_, v, run, run'⟩, seen', tracks'⟩

theorem request (h : Rests cfg imaged d X w) {r : Request} (hr : r.isTraceless)
    (respond : Responder Counted Nat κ μ) :
    ∃ v, (perform respond d r).run w = .ok (answered (r.effect cfg) X).1 v ∧
      Rests cfg imaged d (answered (r.effect cfg) X).2 v := by
  by_cases direct : r.isDirect
  · have plainly : ∀ x, r.apartRefs x = x := by
      intro x
      cases r <;> first | rfl | cases hr
    have alike := Alike.direct (κ := κ) (μ := μ) d direct respond fun _ _ => throw .exhausted
    simp only [funext plainly, id_map'] at alike
    have agrees : r.Agrees (fun _ x => x) cfg (AlikeBy (Clocked cfg 0) imaged) :=
      (clockedLikeness cfg 0).agrees hr
    obtain ⟨_, _, seenRun, rfl, tracks, -⟩ :=
      h.tracks.direct direct agrees fun _ _ => throw .exhausted
    obtain ⟨v, run, seen, rfl⟩ := alike.run_seen h.seen seenRun
    exact ⟨v, run, seen, tracks⟩
  · cases r with
    | update u => exact h.update u respond
    | copy => cases hr
    | _ => cases direct rfl

theorem program (respond : Responder Counted Nat κ μ) {p : Program κ μ α}
    (hp : p.Asks fun r => r.isTraceless) (h : Rests cfg imaged d X w) (m : μ) :
    ∃ v, (p.run respond d).run w = .ok (p.alone (fun _ x => x) cfg m X).result v ∧
      Rests cfg imaged d (p.alone (fun _ x => x) cfg m X).device v := by
  induction p generalizing X w with
  | done a => exact ⟨w, rfl, h⟩
  | ask r next ih =>
    obtain ⟨t, asked, rests⟩ := h.request hp.1 respond
    obtain ⟨v, run, rests⟩ := ih _ (hp.2 _) rests
    exact ⟨v, run_bind_eq_ok.2 ⟨_, t, asked, run⟩, rests⟩
  | install | getMemory | setMemory => exact hp.elim

end Rests

end Bench

end FaultyFlash
