import FaultyFlash.Proofs.Scenario.Bounds
import FaultyFlash.Proofs.Scenario.Layers

/-!
# Scenarios whose image file refuses to be written

Where the image file refuses to be written, an update that loses power fails as the file is to show
what is left, before anybody is asked what to do. So no device is copied for later, and nobody is
told of a loss of power: a scenario with a well-behaved body runs it once.

## Main definitions

* `Bench.Refusing m`: the image file refuses to be written, and no device was copied for later

## Main results

* `Bench.Refusing.upholds_perform`: no request is told of a loss of power
* `Scenario.exhaustive_refusing`: an exhaustive scenario that ends well ran the body once
* `Scenario.explicit_refusing`: a scenario that follows countdowns never loses power
-/

namespace FaultyFlash

open Flash (answered)

variable {S R κ μ α ε : Type}

/-! ## Benches -/

namespace Bench

/-- The image file refuses to be written, there is a block, no device was copied for later, and the
test remembers `m`. -/
structure Refusing (m : μ) (w : Bench S R κ μ) : Prop where
  refuses : w.refuses
  block : 0 < w.config.geometry.blockCount
  forks : w.forks = []
  memory : w.memory = m

namespace Refusing

variable [BlockStore S R] {m : μ} {d : Handle}

omit [BlockStore S R] in
theorem aside : Aside (Refusing (S := S) (R := R) (κ := κ) m) :=
  fun _ _ _ h => ⟨h.refuses, h.block, h.forks, h.memory⟩

omit [BlockStore S R] in
theorem install (callback : Option (Handler κ)) :
    Upholds (Refusing (S := S) (R := R) m) (Bench.install d callback) fun _ => True := by
  intro w x v h run
  obtain ⟨r, -, rfl⟩ := run_install_eq_ok.1 run
  exact ⟨⟨h.refuses, h.block, h.forks, h.memory⟩, trivial⟩

omit [BlockStore S R] in
/-- What neither makes nor removes an image file leaves it refusing. -/
theorem on {op : Config → FlashM S R α} {Q : Except Failure α → Prop}
    (imaged : ∀ cfg f, (answered (op cfg) f).2.image.isSome = f.image.isSome)
    (answers : ∀ cfg f, 0 < cfg.geometry.blockCount → f.refuses cfg → Q (answered (op cfg) f).1) :
    Upholds (Refusing (κ := κ) m) (Bench.on d op) Q := by
  intro w x v h run
  obtain ⟨r, -, rfl, rfl⟩ := run_on_eq_ok.1 run
  refine ⟨⟨?_, h.block, h.forks, h.memory⟩, answers w.config (w.flash r) h.block h.refuses⟩
  have same : (w.settle d r (answered (op w.config) (w.flash r)).2).image.isSome = w.image.isSome :=
    imaged w.config (w.flash r)
  rw [Bench.refuses, same]
  exact h.refuses

omit [BlockStore S R] in
theorem on_preserves {op : Config → FlashM S R α}
    (kept : ∀ imaged cfg, Preserves (Diagonal (Flash.HasImage imaged)) (op cfg) (op cfg))
    (powered : ∀ cfg, Flash.Powered (op cfg)) :
    Upholds (Refusing (κ := κ) m) (Bench.on d op) (FailsBy (· ≠ .fault .powerLoss)) :=
  on (fun cfg => Flash.image_of_preserves (kept · cfg)) fun cfg f _ _ => (powered cfg).failsBy f

/-- Losing power fails, but not by a loss of power. -/
theorem on_crash (u : Update) :
    Upholds (Refusing (κ := κ) m) (Bench.on d (Flash.crash (S := S) (R := R) · u)) fun x =>
      ∃ e, x = .error e ∧ e ≠ .fault .powerLoss := by
  refine on (fun cfg => Flash.image_of_preserves fun imaged =>
    (Flash.imagedLockstep imaged cfg).crash u) fun cfg f block refuses => ?_
  have powered := (Flash.Powered.crash cfg u).failsBy f
  cases crashed : (answered (Flash.crash cfg u) f).1 with
  | ok a =>
    have takes := Flash.takes_of_crash block (Flash.answered_eq_ok.1 (Prod.ext crashed rfl))
    rw [refuses] at takes
    cases takes
  | error e => exact ⟨e, rfl, powered e crashed⟩

/-- An update that loses power fails before anybody is asked, and not by a loss of power. -/
theorem interrupt (respond : Responder S R κ μ) (d : Handle) (u : Update) :
    Upholds (Refusing m) (interrupt respond d u) (FailsBy (· ≠ .fault .powerLoss)) := by
  intro w x v h run
  obtain ⟨r, _, looked, run⟩ := run_bind_eq_ok.1 run
  obtain ⟨-, rfl⟩ := run_rig_eq_ok.1 looked
  cases hc : r.callback with
  | none =>
    rw [hc] at run
    refine ((on_crash u).bind fun y failed => ?_) w x v h run
    obtain ⟨e, rfl, other⟩ := failed
    exact .pure (.error other)
  | some handler =>
    -- the crash fails, so the callback is never asked
    rw [hc] at run
    refine (aside.suspend.bind fun _ _ => (on_crash u).bind fun y failed => ?_) w x v h run
    obtain ⟨e, rfl, other⟩ := failed
    exact aside.discard.bind fun _ _ => .pure (.error other)

/-- No request is told of a loss of power. -/
theorem upholds_perform (respond : Responder S R κ μ) (d : Handle) (r : Request) :
    Upholds (Refusing m) (perform respond d r) (FailsBy (· ≠ .fault .powerLoss)) := by
  by_cases direct : r.isDirect
  · rw [perform_direct respond d direct]
    exact on (fun cfg => Flash.image_effect r) fun cfg f _ _ =>
      (Flash.Powered.effect cfg r).failsBy f
  cases r with
  | update u =>
    refine (on_preserves (fun imaged cfg => (Flash.imagedLockstep imaged cfg).start u) fun cfg =>
      .start cfg u).bind fun how started => ?_
    have completes (worn : Bool) : Upholds (Refusing (κ := κ) m)
        (Bench.on d (Flash.complete (S := S) (R := R) · worn u)) _ :=
      on_preserves (fun imaged cfg => (Flash.imagedLockstep imaged cfg).complete worn u) fun cfg =>
        .complete cfg worn u
    rcases how with e | _ | worn | worn
    · exact .pure (.error (started e rfl))
    · exact .pure (.ok ())
    · exact completes worn
    · refine (interrupt respond d u).bind fun y failed => ?_
      rcases y with e | _
      · exact .pure (.error (failed e rfl))
      · exact completes worn
  | copy =>
    intro w x v h run
    obtain ⟨_, _, copied, answer⟩ := run_bind_eq_ok.1 run
    obtain ⟨_, -, -, rfl⟩ := run_copy_eq_ok.1 copied
    cases answer
    exact ⟨⟨h.refuses, h.block, h.forks, h.memory⟩, .ok ()⟩
  | _ => exact absurd rfl direct

variable [PowerLossAware ε]

/-- A body that only asks, and heeds losses of power, does not end in one. -/
theorem upholds_run {ok : Request → Prop} {p : Program κ μ (Except ε Unit)} (asks : p.Asks ok)
    (heeds : p.Heeds) (respond : Responder S R κ μ) (d : Handle) :
    Upholds (Refusing m) (p.run respond d) Scenario.Spared := by
  induction p with
  | done x => exact .pure heeds
  | ask r next ih =>
    refine (upholds_perform respond d r).bind fun x hx => ih x (asks.2 x) (heeds.2 x fun lost => ?_)
    exact hx _ lost rfl
  | install | getMemory | setMemory => exact asks.elim

end Refusing

end Bench

/-- A well-behaved body is untimed. -/
theorem Program.WellBehaved.untimed [PowerLossAware ε] {p : Program κ μ (Except ε Unit)}
    (h : p.WellBehaved) : p.Untimed := by
  have asks := h.asks
  clear h
  induction p with
  | done x => exact trivial
  | ask r next ih =>
    refine ⟨fun n timed => ?_, fun x _ => ih x (asks.2 x)⟩
    have untimed := asks.1
    rw [timed] at untimed
    cases untimed
  | install | getMemory | setMemory => exact asks.elim

/-! ## Scenarios -/

namespace Scenario

open Bench

variable [PowerLossAware ε] {callbacks : Callbacks κ μ} {nesting : Nat}
  {p : Program κ μ (Except ε Unit)} {note : Device Block → μ → μ} {m : μ} {d : Handle}

section

variable [BlockStore S R] {v w : Bench S R κ μ}

/-- A well-behaved body notes its device, and does not end in a loss of power. -/
theorem noted_refusing (hp : p.WellBehaved) (h : Refusing m w) (live : w.isLive d) {i : Nat}
    {x : Except ε Unit} (run : (noted note callbacks nesting p i d).run w = .ok x v) :
    Spared x ∧ ∃ D, Refusing (note D m) v := by
  obtain ⟨r, hr⟩ := isLive_iff.1 live
  have start : Refusing (note (r.device.plain w.store) m)
      { w with memory := (w.view d).elim w.memory (note · w.memory) } := by
    refine ⟨h.refuses, h.block, h.forks, ?_⟩
    rw [view, hr, h.memory]
    rfl
  obtain ⟨h', spared⟩ :=
    Refusing.upholds_run hp.asks hp.heeds (respond callbacks nesting) d _ _ _ start run
  exact ⟨spared, _, h'⟩

/-- A visit that ends well left no copies. -/
theorem visit_refusing (hp : p.WellBehaved) (h : Refusing m w) {handler : Handler κ} {n : UInt32}
    {i : Nat} {hs : List Handle}
    (run : (visit (noted note callbacks nesting p) handler n i d).run w = .ok (.ok hs) v) :
    hs = [] ∧ ∃ D, v.memory = note D m := by
  -- the device is prepared, and handed to the body
  obtain ⟨_, v1, installed, run⟩ := run_bind_eq_ok.1 run
  obtain ⟨h1, -⟩ := Refusing.install _ _ _ _ h installed
  obtain ⟨x, v2, armed, run⟩ := run_bind_eq_ok.1 run
  obtain ⟨h2, -⟩ := Refusing.on (Q := fun _ => True) (fun _ _ => rfl) (fun _ _ _ _ => trivial) _ _ _
    h1 armed
  obtain ⟨r, hr, rfl, same⟩ := run_arm_eq_ok.1 armed
  have live : v2.isLive d := same ▸ isLive_of_rig? (rig?_settle hr _)
  obtain ⟨outcome, v3, ran, run⟩ := run_bind_eq_ok.1 run
  obtain ⟨-, D, h3⟩ := noted_refusing hp h2 live ran
  -- it is given up, and no copies of it are there
  obtain ⟨_, v4, dropped, run⟩ := run_bind_eq_ok.1 run
  obtain ⟨_, -, rfl⟩ := run_drop_eq_ok.1 dropped
  obtain ⟨_, _, got, run⟩ := run_bind_eq_ok.1 run
  cases got
  obtain ⟨_, _, emptied, run⟩ := run_bind_eq_ok.1 run
  cases emptied
  cases outcome with
  | error e =>
    obtain ⟨_, _, -, failed⟩ := run_bind_eq_ok.1 run
    cases failed
  | ok _ =>
    cases run
    exact ⟨h3.forks, D, h3.memory⟩

/-- A layer that ends well ran the body once. -/
theorem layer_refusing (hp : p.WellBehaved) (h : Refusing m w) {depth : Nat} {trail : List UInt32}
    {report report' : Report}
    (run : (layer (noted note callbacks nesting p) depth d trail report).run w =
      .ok (.ok report') v) :
    report' = report.addRun ∧ ∃ D, v.memory = note D m := by
  cases depth with
  | zero =>
    obtain ⟨x, u, visited, run⟩ := run_bind_eq_ok.1 run
    cases x with
    | error e => cases run
    | ok hs =>
      cases run
      exact ⟨rfl, (visit_refusing hp h visited).2⟩
  | succ depth =>
    obtain ⟨x, u, visited, run⟩ := run_bind_eq_ok.1 run
    cases x with
    | error e => cases run
    | ok hs =>
      obtain ⟨rfl, noted⟩ := visit_refusing hp h visited
      cases run
      exact ⟨rfl, noted⟩

end

variable {cfg : Config} {limit : Nat} {w : Bench Counted Nat κ μ}

omit [PowerLossAware ε] in
theorem refusing_create {strategy : Strategy}
    (made : create (configFor strategy cfg) m = .ok w) (refuses : cfg.image = .sealed) :
    Refusing m w := by
  obtain ⟨geometry, image, first, rfl⟩ := create_eq_ok.1 made
  have sealed : (configFor strategy cfg).image = .sealed := refuses
  refine ⟨?_, Nat.pos_of_ne_zero (Geometry.of_check geometry).2.2.2, rfl, rfl⟩
  rw [Config.firstImage, sealed] at first
  cases first
  simp [Bench.refuses, sealed]

/-- An exhaustive scenario that ends well found no trails. -/
theorem exhaustive_refusing (hp : p.WellBehaved) (refuses : cfg.image = .sealed) {depth limit : Nat}
    {report : Report}
    (run : runBody (.exhaustive depth) cfg m (noted note callbacks nesting p) limit =
      .ok ⟨.ok report, some w⟩) :
    report = Report.addRun {} ∧ ∃ D, w.memory = note D m := by
  obtain ⟨u, made, drove⟩ := runBody_eq_ok.1 run
  exact layer_refusing hp (refusing_create made refuses) drove

/-- A scenario that follows countdowns comes to an end, and never loses power. -/
theorem explicit_refusing (callbacks : Callbacks κ μ) (nesting : Nat) (note : Device Block → μ → μ)
    (m : μ) (hp : p.WellBehaved) (size : cfg.geometry.blockSize < Config.allocationLimit)
    (geometry : cfg.geometry.check = .ok ()) {image : Option Image}
    (first : cfg.firstImage = some image) (refuses : cfg.image = .sealed) (t : List UInt32)
    {limit : Nat} (enough : 0 < limit) :
    ∃ result, ∃ w : Bench Counted Nat κ μ,
      runBody (.explicit t) cfg m (noted note callbacks nesting p) limit = .ok ⟨result, some w⟩ ∧
      ∀ r, result = .ok r → r.powerLosses = 0 := by
  obtain ⟨u, made⟩ : ∃ u, create (S := Counted) (κ := κ) (configFor (.explicit t) cfg) m = .ok u :=
    ⟨_, create_eq_ok.2 ⟨geometry, image, first, rfl⟩⟩
  have blocks : (configFor (.explicit t) cfg).geometry.blockSize < Config.allocationLimit := size
  obtain ⟨x, v, ran, -⟩ := hp.untimed.run blocks
    ((ready_create made).remember ((u.view 0).elim u.memory (note · u.memory)))
    (respond callbacks nesting)
  obtain ⟨spared, -⟩ := noted_refusing (i := 1) hp (refusing_create made refuses)
    (isLive_create made) ran
  -- the first run does not lose power, and so it is the last
  have outcome : (Entry.of (noted note callbacks nesting p) 1 0 u).outcome = .ok x v := ran
  have last : ¬ (Entry.of (noted note callbacks nesting p) 1 0 u).LosesPower := by
    rintro ⟨e, _, ended, lost⟩
    cases outcome.symm.trans ended
    rw [spared e rfl] at lost
    cases lost
  obtain ⟨limit, rfl⟩ := Nat.exists_eq_succ_of_ne_zero (Nat.ne_of_gt enough)
  refine ⟨x.map fun _ => Report.addRun {}, v, runBody_eq_ok.2 ⟨u, made, ?_⟩, fun r ended => ?_⟩
  · have follows : (Strategy.explicit t).Resumes := trivial
    rw [drive_eq_resuming follows]
    refine (resuming_last last).trans ?_
    rw [Entry.concludes, outcome]
    rfl
  · cases x with
    | error e => cases ended
    | ok _ =>
      cases ended
      rfl

end Scenario

end FaultyFlash
