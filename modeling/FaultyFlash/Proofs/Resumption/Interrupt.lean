import FaultyFlash.Proofs.Sharing.Sound
import FaultyFlash.Proofs.Tracking

/-!
# Interruptions that are resumed

A callback that always resumes may do what it likes with the crashed device, and lose power in its
turn. Once it has answered, the device has the blocks and the generator that it had before power was
lost.

## Main definitions

* `Program.Returns Q p`: a program ends with results that have the property `Q`
* `Device.Resembles C`: devices with equal blocks, generators and counters `C`
* `Callbacks.Resume`: a callback that always resumes
* `Bench.Attended`: a sound bench on which a device carries a callback
* `Bench.Uncounted`: byte counters that a callback leaves alone

## Main results

* `Bench.interrupt_resumes`: an interruption brings blocks and generator back
-/

namespace FaultyFlash

open Flash (answered)
open Device (Clocked)

variable {κ μ α : Type}

namespace Program

/-- A program ends with results that have the property `Q`. -/
def Returns (Q : α → Prop) : Program κ μ α → Prop
  | .done a => Q a
  | .ask _ next => ∀ x, (next x).Returns Q
  | .install _ next => next.Returns Q
  | .getMemory next => ∀ m, (next m).Returns Q
  | .setMemory _ next => next.Returns Q

theorem Returns.of_run {S R : Type} [BlockStore S R] {Q : α → Prop} {p : Program κ μ α}
    (h : p.Returns Q) {respond : Responder S R κ μ} {d : Handle} {w v : Bench S R κ μ} {a : α}
    (run : (p.run respond d).run w = .ok a v) : Q a := by
  induction p generalizing w with
  | done b =>
    cases run
    exact h
  | ask r next ih =>
    obtain ⟨x, u, -, rest⟩ := run_bind_eq_ok.1 run
    exact ih x (h x) rest
  | install callback next ih =>
    obtain ⟨_, u, -, rest⟩ := run_bind_eq_ok.1 run
    exact ih h rest
  | getMemory next ih =>
    obtain ⟨u, _, -, rest⟩ := run_bind_eq_ok.1 run
    exact ih _ (h _) rest
  | setMemory m next ih =>
    obtain ⟨_, u, -, rest⟩ := run_bind_eq_ok.1 run
    exact ih h rest

theorem Installs.mono {A B : Option κ → Prop} {p : Program κ μ α} (h : p.Installs A)
    (hAB : ∀ c, A c → B c) : p.Installs B := by
  induction p with
  | done a => exact trivial
  | ask r next ih => exact fun x => ih x (h x)
  | install callback next ih => exact ⟨hAB _ h.1, ih h.2⟩
  | getMemory next ih => exact fun m => ih m (h m)
  | setMemory m next ih => exact ih h

end Program

/-- Devices with equal blocks, equal generators, and equal values of the counters `C`. -/
structure Device.Resembles (C : Counter → Prop) (D E : Device Block) : Prop where
  slots : D.slots = E.slots
  generator : D.generator = E.generator
  counters {c : Counter} (h : C c) : c.get D = c.get E

theorem Device.Resembles.refl (C : Counter → Prop) (D : Device Block) : D.Resembles C D :=
  ⟨rfl, rfl, fun _ => rfl⟩

theorem Device.Resembles.trans {C : Counter → Prop} {D E F : Device Block} (h : D.Resembles C E)
    (h' : E.Resembles C F) : D.Resembles C F :=
  ⟨h.slots.trans h'.slots, h.generator.trans h'.generator,
    fun hc => (h.counters hc).trans (h'.counters hc)⟩

/-- The countdown does not tell devices apart. -/
theorem Device.Clocked.resembles {cfg : Config} {n : UInt32} {D E : Device Block}
    (h : Clocked cfg n D E) (C : Counter → Prop) : E.Resembles C D := by
  obtain ⟨rfl, -⟩ := h
  exact ⟨rfl, rfl, fun {c} _ => c.get_congr rfl rfl rfl⟩

theorem resemblance (cfg : Config) (C : Counter → Prop) : Likeness cfg (Device.Resembles C) where
  slots h := h.slots
  generator h := h.generator
  set _ _ h _ := ⟨by simp only [h.slots], h.generator, fun {c} hc => by
    have same := h.counters hc
    cases c <;> exact same⟩
  reseed _ h := ⟨h.slots, rfl, fun {c} hc => by
    have same := h.counters hc
    cases c <;> exact same⟩
  tally {D E} c n h := by
    refine ⟨?_, ?_, fun {c'} hc => ?_⟩
    · cases c <;> exact h.slots
    · cases c <;> exact h.generator
    · have same := h.counters hc
      cases c <;> cases c' <;> first | exact same | exact congrArg (· + n) same
  sync h := ⟨h.slots, h.generator, fun {c} hc => by
    have same := h.counters hc
    cases c <;> exact same⟩

/-- A callback always resumes, and leaves itself in its place. -/
structure Callbacks.Resume (callbacks : Callbacks κ μ) (code : κ) : Prop where
  resumes (calls : Nat) : (callbacks code calls).Returns fun x => x = .ok .resume
  stays (calls : Nat) : (callbacks code calls).Installs fun _ => False

namespace Bench

/-- The callback `code`, however often it was called. -/
def IsCall (code : κ) (callback : Option (Handler κ)) : Prop :=
  ∃ calls, callback = some (.custom code calls)

/-- A sound bench on which a device carries the callback `code`. -/
abbrev Attended (cfg : Config) (imaged : Bool) (d : Handle) (code : κ)
    (aside : List (Suspension Block)) (w : Bench Counted Nat κ μ) : Prop :=
  Through (StaysSound cfg imaged (fun e => e = d) (IsCall code) aside) w w

variable {cfg : Config} {imaged : Bool} {d : Handle} {code : κ} {aside : List (Suspension Block)}
  {w v : Bench Counted Nat κ μ} {X Y : Flash Plain Block}

theorem attended_lockstep (cfg : Config) (imaged : Bool) (d : Handle) (code : κ) :
    Lockstep SetAside (fun a b => a = b ∧ a = d) (IsCall code) (fun _ x => x) fun aside =>
      Through (StaysSound (μ := μ) cfg imaged (fun e => e = d) (IsCall code) aside) := by
  refine (StaysSound.lockstep (fun e he => .inl he) ?_).through
  rintro _ calls ⟨_, same⟩
  cases same
  exact ⟨calls + 1, rfl⟩

theorem attended_respond {callbacks : Callbacks κ μ} (hc : callbacks.Resume code) (depth : Nat) :
    Respond (fun a b => a = b ∧ a = d) (IsCall code)
      (fun aside => Through (StaysSound cfg imaged (fun e => e = d) (IsCall code) aside))
      (respond callbacks depth) (respond callbacks depth) := by
  refine (attended_lockstep cfg imaged d code).callbacks (fun _ calls same => ?_) depth
  obtain ⟨_, same⟩ := same
  cases same
  exact ⟨Program.blind_id _, (hc.stays calls).mono fun _ => False.elim⟩

/-- The callback resumes. -/
theorem respond_resumes {callbacks : Callbacks κ μ} (hc : callbacks.Resume code) {depth calls : Nat}
    {x : Except Failure Verdict}
    (run : (respond callbacks depth (.custom code calls) d).run w = .ok x v) :
    x = .ok .resume := by
  cases depth with
  | zero => cases run
  | succ depth =>
    obtain ⟨_, u, -, rest⟩ := run_bind_eq_ok.1 run
    exact (hc.resumes calls).of_run rest

/-- The crash of an interrupted update does not fail, and it counts no bytes. -/
theorem run_crash (h : Attended cfg imaged d code aside w) (able : cfg.Able) {u : Update}
    (fits : u.Fits cfg) {x : Except Failure Unit}
    (run : (on d (Flash.crash · u)).run w = .ok x v) {r : Rig Block κ}
    (hr : w.plain.rig? d = some r) :
    x = .ok () ∧ ∃ s, v.plain.rig? d = some s ∧ ∀ c : Counter, c.get s.device = c.get r.device := by
  have alike : Alike (μ := μ) (κ := κ) (on d (Flash.crash · u)) (on d (Flash.crash · u)) :=
    SeenAs.lockstep.crash (i := ()) rfl u
  obtain ⟨run', -⟩ := alike.run_plain h.seen run
  obtain ⟨f, hf, -, rest⟩ :=
    Flash.succeeds_crash (f := w.plain.flash r) able fits (h.holds.devices hr)
  rw [run_on_of_rig? hr, show w.plain.config = cfg from h.holds.config, hf] at run'
  simp only [EStateM.Result.ok.injEq] at run'
  obtain ⟨rfl, settled⟩ := run'
  rw [← settled]
  refine ⟨rfl, _, rig?_settle hr f, fun c => ?_⟩
  have same := congrArg c.get rest
  cases c <;> exact same

/-- The return to the state that was set aside last does not fail. -/
theorem run_resume_attended {s : Suspension Block}
    (h : Attended cfg imaged d code (s :: aside) w) (able : cfg.Able) {x : Except Failure Unit}
    (run : (resume d).run w = .ok x v) {r : Rig Block κ} (hr : w.plain.rig? d = some r) :
    x = .ok () ∧ ∃ t, v.plain.rig? d = some t ∧
      t.device = { r.device with slots := s.slots, generator := s.generator } := by
  obtain ⟨run', -⟩ := (Alike.resume d).run_plain h.seen run
  obtain rfl : w.plain.config = cfg := h.holds.config
  have sound : s.slots.Sound w.plain.config := h.holds.tables List.mem_cons_self
  let before : Bench Plain Block κ μ := { w.plain with suspended := aside }
  have hr' : before.rig? d = some r := hr
  obtain ⟨f, hf, same⟩ := Flash.succeeds_restore (f := before.flash r) able sound s.generator
    (h.holds.devices hr)
  rw [run_resume, h.holds.suspended] at run'
  have restored : (on d fun cfg => Flash.restore cfg s.slots s.generator).run before =
      .ok x v.plain := run'
  rw [run_on_of_rig? hr', show before.config = w.plain.config from rfl, hf] at restored
  simp only [EStateM.Result.ok.injEq] at restored
  obtain ⟨rfl, settled⟩ := restored
  rw [← settled]
  exact ⟨rfl, _, rig?_settle hr' f, same⟩

/-- No call of a callback changes a byte counter of the device that it is called for. -/
def Uncounted (callbacks : Callbacks κ μ) (depth : Nat) (code : κ) (d : Handle) (c : Counter) :
    Prop :=
  ∀ (calls : Nat) (x : Except Failure Verdict) (w v : Bench Counted Nat κ μ) (D E : Device Block),
    (respond callbacks depth (.custom code calls) d).run w = .ok x v → w.view d = some D →
      v.view d = some E → c.get E = c.get D

/-- An interrupted update goes on with the blocks and the generator that there were before, if the
callback resumes. -/
theorem interrupt_resumes (h : Attended cfg imaged d code aside w) (able : cfg.Able) {u : Update}
    (fits : u.Fits cfg) {callbacks : Callbacks κ μ} (hc : callbacks.Resume code) {depth : Nat}
    {r : Rig Block κ} (hr : w.plain.rig? d = some r) {x : Except Failure Unit}
    (run : (interrupt (respond callbacks depth) d u).run w = .ok x v) :
    x = .ok () ∧ Attended cfg imaged d code aside v ∧ ∃ s, v.plain.rig? d = some s ∧
      r.device.Resembles (Uncounted callbacks depth code d) s.device := by
  have L := attended_lockstep (μ := μ) cfg imaged d code
  obtain ⟨rig, hrig, rfl⟩ : ∃ rig, w.rig? d = some rig ∧ rig.plain w.store = r := by
    rw [rig?_plain] at hr
    exact Option.map_eq_some_iff.1 hr
  -- the callback of the device is a call of `code`, as on any bench that is attended
  obtain ⟨calls, call⟩ : IsCall code rig.callback := by
    obtain ⟨_, same, call⟩ := h.holds.watched rfl
    cases hr.symm.trans same
    exact call
  obtain ⟨_, w0, rigRun, rest⟩ := run_bind_eq_ok.1 run
  rw [run_rig, hrig] at rigRun
  cases rigRun
  simp only [call] at rest
  -- the state is set aside
  obtain ⟨_, w1, suspendRun, rest⟩ := run_bind_eq_ok.1 rest
  have kept := L.suspend ⟨rfl, rfl⟩ w w h
  rw [suspendRun] at kept
  obtain ⟨-, _, ⟨s, rfl⟩, h1⟩ := kept
  obtain ⟨suspended, -⟩ := (Alike.suspend d).run_plain h.seen suspendRun
  rw [run_suspend, hr] at suspended
  simp only [EStateM.Result.ok.injEq] at suspended
  have hr1 : w1.plain.rig? d = some (rig.plain w.store) := by
    rw [← suspended.2]
    exact hr
  have hs : s = ⟨(rig.plain w.store).device.slots, (rig.plain w.store).device.generator⟩ := by
    have aside := h1.holds.suspended
    rw [← suspended.2] at aside
    exact (List.cons.inj aside).1.symm
  -- power is lost
  obtain ⟨_, w2, crashRun, rest⟩ := run_bind_eq_ok.1 rest
  have kept := L.crash ⟨rfl, rfl⟩ u w1 w1 h1
  rw [crashRun] at kept
  obtain ⟨rfl, r2, hr2, counters2⟩ := run_crash h1 able fits crashRun hr1
  -- the callback does what it likes, and resumes
  obtain ⟨_, w3, respondRun, rest⟩ := run_bind_eq_ok.1 rest
  obtain rfl := respond_resumes hc respondRun
  have kept := attended_respond hc depth (s :: aside) _ d d ⟨rfl, rfl⟩ ⟨calls, rfl⟩ w2 w2 kept.2
  rw [respondRun] at kept
  have h3 := kept.2
  obtain ⟨r3, hr3, -⟩ := h3.holds.watched rfl
  -- the state is taken up again
  have resumed : (resume d).run w3 = .ok x v := rest
  have kept := L.resume ⟨rfl, rfl⟩ ⟨s, rfl⟩ w3 w3 h3
  rw [resumed] at kept
  obtain ⟨rfl, t, ht, back⟩ := run_resume_attended h3 able resumed hr3
  refine ⟨rfl, kept.2, t, ht, by rw [back, hs], by rw [back, hs], fun {c} hC => ?_⟩
  -- counters are not set aside, so each step must leave them
  have called : c.get r3.device = c.get r2.device :=
    hC calls _ w2 w3 _ _ respondRun (by rw [view_eq, hr2]; rfl) (by rw [view_eq, hr3]; rfl)
  calc c.get (rig.plain w.store).device
      _ = c.get r2.device := (counters2 c).symm
      _ = c.get r3.device := called.symm
      _ = c.get t.device := by rw [back]; cases c <;> rfl

end Bench

end FaultyFlash
