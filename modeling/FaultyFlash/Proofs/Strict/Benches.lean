import FaultyFlash.Proofs.Outcomes.Resumed
import FaultyFlash.Proofs.Outcomes.Unbroken
import FaultyFlash.Proofs.Strict.Sized

/-!
# Benches, with numbers that must fit

Benches whose devices are operated strictly. Where an operation on a device finds an invariant
broken, or slips, the whole bench stops, and no caller is told. On sound benches neither happens:
strict benches do what benches do.

## Main definitions

* `Stop`, `StrictBenchM`: strict operations on a bench, and why they stop
* `Strict.on`, `Strict.perform`, `Strict.respondBy`: operations, requests and losses of power
* `Interplay.executeStrict`: an interplay on a strict bench

## Main results

* `Strict.agrees_perform`: on a sound bench a request neither slips nor finds an invariant broken
* `Strict.agrees_execute`: nor does an interplay, with the callbacks that it calls for
-/

namespace FaultyFlash

open Flash (answered)

variable {S R κ μ α : Type}

/-- Why a strict bench stops working. -/
inductive Stop where
  | halt (h : Halt)
  /-- An invariant of a device was found broken. -/
  | defect (x : Defect)
  /-- A number did not fit in its word, or there was a division by zero. -/
  | arithmetic
  deriving DecidableEq, Repr

/-- Strict operations on a bench. -/
abbrev StrictBenchM (S R κ μ : Type) := EStateM Stop (Bench S R κ μ)

/-- Answers to losses of power on a strict bench. -/
abbrev StrictResponder (S R κ μ : Type) :=
  Handler κ → Handle → StrictBenchM S R κ μ (Except Failure Verdict)

namespace Strict

/-- An operation on a bench that runs nothing on a device but what cannot slip. -/
abbrev lifted (m : BenchM S R κ μ α) : StrictBenchM S R κ μ α := widen .halt m

/-- Runs an operation on the device of a handle, and answers with what came of it. A broken
invariant or a slip stops the bench. -/
def on (d : Handle) (op : Config → StrictM S R α) : StrictBenchM S R κ μ (Except Failure α) :=
  fun w => match w.rig? d with
  | none => .error (.halt (.noDevice d)) w
  | some r => match op w.config (w.flash r) with
    | .ok a f => .ok (.ok a) (w.settle d r f)
    | .error (.failed (.defect x)) f => .error (.defect x) (w.settle d r f)
    | .error (.failed e) f => .ok (.error e) (w.settle d r f)
    | .error .arithmetic f => .error .arithmetic (w.settle d r f)

variable [BlockStore S R]

/-- Returns a device to the state that was set aside last. -/
def resume (d : Handle) : StrictBenchM S R κ μ (Except Failure Unit) := do
  match (← get).suspended with
  | [] => throw (.defect .notSuspended)
  | s :: rest =>
    modify fun w => { w with suspended := rest }
    on d fun cfg => restore cfg s.slots s.generator

/-- What a verdict does to a device whose state was set aside. -/
def conclude (d : Handle) : Except Failure Verdict → StrictBenchM S R κ μ (Except Failure Unit)
  | .ok .resume => resume d
  | .ok .abort => do
    lifted Bench.discard
    return .error (.fault .powerLoss)
  | .error e => do
    lifted Bench.discard
    return .error e

/-- Loses power during an update of a device. -/
def interrupt (respond : StrictResponder S R κ μ) (d : Handle) (u : Update) :
    StrictBenchM S R κ μ (Except Failure Unit) := do
  match (← lifted (Bench.rig d)).callback with
  | none =>
    match ← on d (crash · u) with
    | .ok () => return .error (.fault .powerLoss)
    | .error e => return .error e
  | some handler =>
    lifted (Bench.suspend d)
    match ← on d (crash · u) with
    | .ok () => conclude d (← respond handler d)
    | .error e => conclude d (.error e)

/-- Performs an update of a device. -/
def update (respond : StrictResponder S R κ μ) (d : Handle) (u : Update) :
    StrictBenchM S R κ μ (Except Failure Unit) := do
  match ← on d (start · u) with
  | .error e => return .error e
  | .ok .ignored => return .ok ()
  | .ok (.proceed worn) => on d (complete · worn u)
  | .ok (.powerLost worn) =>
    match ← interrupt respond d u with
    | .error e => return .error e
    | .ok () => on d (complete · worn u)

/-- Performs a request on a device; `respond` answers losses of power. -/
def perform (respond : StrictResponder S R κ μ) (d : Handle) :
    (r : Request) → StrictBenchM S R κ μ (Except Failure r.Answer)
  | .update u => update respond d u
  | .copy => lifted do
    let _ ← Bench.copy d
    return .ok ()
  | r => on d (effect r)

/-- Answers losses of power by the handlers of the devices, as `Bench.respondBy` does. -/
def respondBy
    (call : StrictResponder S R κ μ → κ → Nat → Handle →
      StrictBenchM S R κ μ (Except Failure Verdict))
    (depth : Nat) : StrictResponder S R κ μ := fun handler d => do
  match handler with
  | .ride => return .ok .resume
  | .fork => lifted (Bench.fork d)
  | .custom code calls =>
    match depth with
    | 0 => throw (.halt .exhausted)
    | depth + 1 =>
      lifted (Bench.install d (some (.custom code (calls + 1))))
      call (respondBy call depth) code calls d

end Strict

namespace Interplay

variable [BlockStore S R]

/-- Runs an interplay on a strict bench; `respond` answers losses of power. -/
def runStrict (respond : StrictResponder S R κ μ) : Interplay κ μ α → StrictBenchM S R κ μ α
  | .done a => pure a
  | .ask d r next => do (next (← Strict.perform respond d r)).runStrict respond
  | .copy d next => do (next (← Strict.lifted (Bench.copy d))).runStrict respond
  | .drop d next => do
    Strict.lifted (Bench.drop d)
    next.runStrict respond
  | .install d callback next => do
    Strict.lifted (Bench.install d (callback.map (Handler.custom · 0)))
    next.runStrict respond
  | .getMemory next => do (next (← get).memory).runStrict respond
  | .setMemory m next => do
    modify fun w => { w with memory := m }
    next.runStrict respond

/-- Runs an interplay on a strict bench with callbacks nested at most `depth` deep. -/
def executeStrict (reactions : Reactions κ μ) (depth : Nat) (p : Interplay κ μ α) :
    StrictBenchM S R κ μ α :=
  p.runStrict (Strict.respondBy
    (fun respond code calls d => (reactions code calls d).runStrict respond) depth)

end Interplay

/-- The numbers of a configuration are usable and fit in their words. -/
structure Config.Bounded (cfg : Config) (imaged : Bool) : Prop where
  geometry : cfg.geometry.check = .ok ()
  room : cfg.Roomy
  addressed : cfg.Addressed imaged

namespace Strict

open Bench (Staying StaysSound SetAside)
open Flash (HasImage Sized)

/-- An operation that does not slip on a device, and finds no invariant broken, does on a strict
bench what it does on others. -/
theorem run_on_eq {d : Handle} {op : Config → StrictM S R α} {op' : Config → FlashM S R α}
    {w : Bench S R κ μ}
    (same : ∀ r, w.rig? d = some r →
      (op w.config).run (w.flash r) = (plain (op' w.config)).run (w.flash r))
    (unbroken : ∀ r, w.rig? d = some r → Unbroken (answered (op' w.config) (w.flash r)).1) :
    (on d op).run w = (lifted (Bench.on d op')).run w := by
  rw [run_widen, Bench.run_on]
  show on d op w = _
  unfold on
  cases hr : w.rig? d with
  | none => rfl
  | some r =>
    have ran := same r hr
    have whole := unbroken r hr
    rw [run_widen] at ran
    simp only [answered] at whole
    dsimp only
    rw [show op w.config (w.flash r) = _ from ran]
    cases ran' : (op' w.config).run (w.flash r) with
    | ok a f => rfl
    | error e f =>
      rw [ran'] at whole
      cases e with
      | defect x => exact absurd rfl (whole x)
      | fault | misuse => rfl

/-- A bench that stays sound, as it is seen, where the states `aside` are set aside. -/
abbrev Stays (cfg : Config) (imaged : Bool) (aside : List (Suspension Block))
    (w : Bench Counted Nat κ μ) : Prop := Staying cfg imaged aside w w

variable {cfg : Config} {imaged : Bool} {aside inner : List (Suspension Block)} {d : Handle}
  {u : Update}

/-- What keeps benches sound leaves them sound. -/
theorem agrees_lifted {m : BenchM Counted Nat κ μ α}
    (h : Bench.Keeps (Staying cfg imaged aside) m m) :
    Agrees .halt (Stays cfg imaged aside) (lifted m) m fun _ => Stays cfg imaged aside :=
  .same fun _ hw _ _ run => h.after hw run

/-- On a sound bench the devices have stored blocks of the configured size. -/
theorem sized_of_wellFormed {w : Bench Counted Nat κ μ} (h : w.WellFormed) {r : Rig Nat κ}
    (hr : w.rig? d = some r) : (w.flash r).Sized w.config := by
  intro block b g fetched
  have looked := (Flash.Sharing.lockstep w.config _ _).toLooking.look block (h.seen.flash hr)
  rw [fetched, Flash.run_fetch_plain] at looked
  have sound : (r.device.plain w.store).Sound w.config := h.devices (Bench.plain_of_rig? hr)
  cases hx : (w.plain.flash (r.plain w.store)).device.slots[block]? with
  | none =>
    rw [hx] at looked
    exact looked.elim
  | some x =>
    rw [hx] at looked
    obtain rfl := looked.1
    exact sound.slots.size (List.mem_of_getElem? hx)

section

variable (bounded : cfg.Bounded imaged)

include bounded

/-! ## Operations on devices -/

/-- An operation that does not slip on sized devices, and finds no invariant broken on well-formed
benches, does on a sound bench what it does on others. -/
theorem agrees_on {op : Config → StrictM Counted Nat α} {op' : Config → FlashM Counted Nat α}
    {post : α → Flash Counted Nat → Prop}
    (same : Agrees .failed (fun f => HasImage imaged f ∧ f.Sized cfg) (op cfg) (op' cfg) post)
    (unbroken : ∀ {w : Bench Counted Nat κ μ}, w.WellFormed → w.config = cfg →
      ∀ {r}, w.rig? d = some r → Unbroken (answered (op' w.config) (w.flash r)).1)
    (kept : Bench.Keeps (Staying (κ := κ) (μ := μ) cfg imaged aside) (Bench.on d op')
      (Bench.on d op')) :
    Agrees .halt (Stays cfg imaged aside) (on d op) (Bench.on d op')
      fun _ => Stays (κ := κ) (μ := μ) cfg imaged aside := by
  intro w h
  have wellFormed := Bench.wellFormed_of_through bounded.geometry h
  obtain rfl : w.config = cfg := h.holds.config
  refine ⟨run_on_eq (fun r hr => ?_) fun r => unbroken wellFormed rfl, fun _ _ run =>
    kept.after h run⟩
  have image : (w.flash r).image.isSome = imaged := h.holds.image
  exact (same (w.flash r) ⟨image, sized_of_wellFormed wellFormed hr⟩).1

/-- Updates start without a slip, and what starts fits. -/
theorem agrees_start (u : Update) :
    Agrees .halt (Stays cfg imaged aside) (on d (start · u)) (Bench.on d (Flash.start · u))
      fun x w => Stays (κ := κ) (μ := μ) cfg imaged aside w ∧
        ∀ how, x = .ok how → how ≠ .ignored → u.Fits cfg := by
  have kept := (Bench.Through.lockstep (κ := κ) (μ := μ) cfg imaged).start (i := aside)
    (d := d) ⟨rfl, trivial⟩ u
  have same : Agrees .failed (fun f => HasImage imaged f ∧ f.Sized cfg)
      (start cfg u : StrictM Counted Nat Start) (Flash.start cfg u) fun _ _ => True :=
    agrees_of_eq (start_eq bounded.room bounded.geometry u)
  have starts : Agrees .halt (Stays cfg imaged aside) (on d (start · u))
      (Bench.on d (Flash.start · u)) fun _ => Stays (κ := κ) (μ := μ) cfg imaged aside :=
    agrees_on bounded same (fun h _ _ hr => h.unbroken_start hr u) kept
  refine fun w h => ⟨(starts w h).1, fun x v run => ⟨(starts w h).2 x v run, ?_⟩⟩
  rintro how rfl heeded
  obtain ⟨r, hr, -⟩ := Bench.run_on_eq_ok.1 run
  obtain ⟨g, started, -⟩ := Bench.on_ok hr run
  have config : w.config = cfg := h.holds.config
  exact config ▸ Flash.fits_of_start started heeded

/-- An update that fits is completed without a slip. -/
theorem agrees_on_complete (fits : u.Fits cfg) (worn : Bool) :
    Agrees .halt (Stays cfg imaged aside) (on d (complete · worn u))
      (Bench.on d (Flash.complete · worn u))
      fun _ => Stays (κ := κ) (μ := μ) cfg imaged aside := by
  refine agrees_on bounded (agrees_complete bounded.room bounded.addressed fits worn)
    (fun {w} h config {r} hr => ?_)
    ((Bench.Through.lockstep cfg imaged).complete ⟨rfl, trivial⟩ worn u)
  subst config
  exact unbroken_of_written (h.completes hr bounded.room.limit fits worn)

/-- Nor does losing power slip during one. -/
theorem agrees_on_crash (fits : u.Fits cfg) :
    Agrees .halt (Stays cfg imaged aside) (on d (crash · u)) (Bench.on d (Flash.crash · u))
      fun _ => Stays (κ := κ) (μ := μ) cfg imaged aside := by
  refine agrees_on bounded
    ((agrees_crash bounded.room bounded.addressed fits).mono (fun _ hf => hf.1) fun _ _ => id)
    (fun {w} h config {r} hr => ?_) ((Bench.Through.lockstep cfg imaged).crash ⟨rfl, trivial⟩ u)
  subst config
  exact unbroken_of_written (h.crashes hr bounded.room.limit fits)

/-- Nor does a request that is one operation on a device. -/
theorem agrees_on_effect {r : Request} (direct : r.isDirect) :
    Agrees .halt (Stays cfg imaged aside) (on d (effect r)) (Bench.on d r.effect)
      fun _ => Stays (κ := κ) (μ := μ) cfg imaged aside := by
  have kept := (Bench.Through.lockstep (κ := κ) (μ := μ) cfg imaged).direct (i := aside)
    (d := d) ⟨rfl, trivial⟩ direct (fun _ _ => throw .exhausted) fun _ _ => throw .exhausted
  rw [id_map', Bench.perform_direct _ d direct] at kept
  refine agrees_on bounded (agrees_effect bounded.room bounded.addressed bounded.geometry direct)
    (fun {w} h config {r} hr => ?_) kept
  subst config
  exact h.unbroken_effect hr bounded.room.limit direct

/-! ## Losing power -/

/-- A device returns to a state that was set aside without a slip. -/
theorem agrees_resume (set : SetAside aside inner) :
    Agrees .halt (Stays cfg imaged inner) (resume d) (Bench.resume d)
      fun _ => Stays (κ := κ) (μ := μ) cfg imaged aside := by
  have kept := (Bench.Through.lockstep (κ := κ) (μ := μ) cfg imaged).resume (d := d)
    ⟨rfl, trivial⟩ set
  refine fun w h => ⟨?_, fun _ _ run => kept.after h run⟩
  obtain ⟨s, rfl⟩ := set
  have wellFormed := Bench.wellFormed_of_through bounded.geometry h
  obtain rfl : w.config = cfg := h.holds.config
  have there : w.suspended.map (Suspension.plain w.store) = s :: aside := h.holds.suspended
  obtain ⟨t, rest, top, -⟩ := List.map_eq_cons_iff.1 there
  have strictly : (resume d).run w =
      (on d fun cfg => restore cfg t.slots t.generator).run { w with suspended := rest } := by
    simp only [resume, EStateM.run_bind, EStateM.run_get, top]
    rfl
  rw [strictly, run_widen, Bench.run_resume, top]
  refine Eq.trans (run_on_eq (fun r hr => ?_) fun r hr => ?_) (run_widen ..)
  · have image : (w.flash r).image.isSome = imaged := h.holds.image
    exact (agrees_restore bounded.room bounded.addressed t.slots t.generator (w.flash r) image).1
  · exact unbroken_of_written (wellFormed.resumes hr top)

theorem agrees_conclude (set : SetAside aside inner) (x : Except Failure Verdict) :
    Agrees .halt (Stays cfg imaged inner) (conclude d x) (Bench.conclude d x)
      fun _ => Stays (κ := κ) (μ := μ) cfg imaged aside := by
  have discarded : Agrees .halt (Stays cfg imaged inner) (lifted Bench.discard) Bench.discard
      fun _ => Stays (κ := κ) (μ := μ) cfg imaged aside :=
    .same fun w hw a v run => ((Bench.Through.lockstep cfg imaged).discard set).after hw run
  rcases x with e | _ | _
  · exact discarded.bind fun _ => .answer _ fun _ => id
  · exact agrees_resume bounded set
  · exact discarded.bind fun _ => .answer _ fun _ => id

/-- Responders that do the same on sound benches, and leave them sound. -/
abbrev Respond (cfg : Config) (imaged : Bool) (respond : StrictResponder Counted Nat κ μ)
    (respond' : Responder Counted Nat κ μ) : Prop :=
  ∀ aside handler d, Agrees .halt (Stays cfg imaged aside) (respond handler d) (respond' handler d)
    fun _ => Stays cfg imaged aside

variable {respond : StrictResponder Counted Nat κ μ} {respond' : Responder Counted Nat κ μ}
  (hr : Respond cfg imaged respond respond')

include hr

theorem agrees_interrupt (fits : u.Fits cfg) :
    Agrees .halt (Stays cfg imaged aside) (interrupt respond d u) (Bench.interrupt respond' d u)
      fun _ => Stays cfg imaged aside := by
  have found : Agrees .halt (Stays cfg imaged aside) (lifted (Bench.rig d)) (Bench.rig d)
      fun _ => Stays (κ := κ) (μ := μ) cfg imaged aside := by
    refine .same fun w hw r v run => ?_
    obtain ⟨-, rfl⟩ := Bench.run_rig_eq_ok.1 run
    exact hw
  refine found.bind fun r => ?_
  cases r.callback with
  | none =>
    refine (agrees_on_crash bounded fits).bind fun x => ?_
    cases x <;> exact .answer _ fun _ => id
  | some handler =>
    -- what is set aside now is set aside until the verdict
    have suspended : Agrees .halt (Stays cfg imaged aside) (lifted (Bench.suspend d))
        (Bench.suspend d) fun _ (w : Bench Counted Nat κ μ) =>
          ∃ inner, SetAside aside inner ∧ Stays cfg imaged inner w :=
      .same fun w hw a v run =>
        ((Bench.Through.lockstep cfg imaged).suspend ⟨rfl, trivial⟩).after hw run
    refine suspended.bind fun _ w ⟨inner, set, hw⟩ => ?_
    refine ((agrees_on_crash bounded fits).bind fun x => ?_) w hw
    cases x with
    | error e => exact agrees_conclude bounded set _
    | ok _ => exact (hr inner handler d).bind (agrees_conclude bounded set)

theorem agrees_update (u : Update) :
    Agrees .halt (Stays cfg imaged aside) (update respond d u) (Bench.update respond' d u)
      fun _ => Stays cfg imaged aside := by
  refine (agrees_start bounded u).bind fun x w ⟨hw, starts⟩ => ?_
  suffices rest : Agrees Stop.halt (Stays cfg imaged aside) _ _ fun _ => Stays cfg imaged aside from
    rest w hw
  cases x with
  | error e => exact .answer _ fun _ => id
  | ok how =>
    cases how with
    | ignored => exact .answer _ fun _ => id
    | proceed worn => exact agrees_on_complete bounded (starts _ rfl nofun) worn
    | powerLost worn =>
      have fits := starts _ rfl nofun
      refine (agrees_interrupt bounded hr fits).bind fun y => ?_
      cases y with
      | error e => exact .answer _ fun _ => id
      | ok _ => exact agrees_on_complete bounded fits worn

/-! ## Requests and interplays -/

/-- On a sound bench a request neither slips nor finds an invariant broken. -/
theorem agrees_perform (r : Request) :
    Agrees .halt (Stays cfg imaged aside) (perform respond d r) (Bench.perform respond' d r)
      fun _ => Stays cfg imaged aside := by
  by_cases direct : r.isDirect
  · have same : perform respond d r = on d (effect r) := by
      cases r <;> first | rfl | cases direct
    rw [same, Bench.perform_direct respond' d direct]
    exact agrees_on_effect bounded direct
  · cases r with
    | update u => exact agrees_update bounded hr u
    | copy =>
      exact agrees_lifted ((Bench.Through.copy d).bind fun _ => .answer _)
    | _ => cases direct rfl

/-- An interplay does on a strict bench what it does on others, if losses of power are answered
alike. -/
theorem agrees_interplay (p : Interplay κ μ α) :
    Agrees .halt (Stays cfg imaged aside) (p.runStrict respond) (p.run respond')
      fun _ => Stays cfg imaged aside := by
  have L := Bench.Through.lockstep (κ := κ) (μ := μ) cfg imaged
  induction p with
  | done a => exact .answer a fun _ => id
  | ask d r next ih => exact (agrees_perform bounded hr r).bind ih
  | copy d next ih => exact (agrees_lifted (Bench.Through.copy d)).bind ih
  | drop d next ih => exact (agrees_lifted (Bench.Through.drop d)).bind fun _ => ih
  | install d callback next ih =>
    exact (agrees_lifted (L.install ⟨rfl, trivial⟩ trivial)).bind fun _ => ih
  | getMemory next ih =>
    exact Agrees.get_bind fun w hw => (ih w.memory).mono (fun _ same => same ▸ hw) fun _ _ => id
  | setMemory m next ih => exact (agrees_lifted (L.setMemory m)).bind fun _ => ih

end

section

variable (bounded : cfg.Bounded imaged)

include bounded

/-- Callbacks that are interplays answer losses of power alike. -/
theorem agrees_respondBy (reactions : Reactions κ μ) (depth : Nat) :
    Respond cfg imaged
      (respondBy (fun respond code calls d => (reactions code calls d).runStrict respond) depth)
      (Bench.respondBy (fun respond code calls d => (reactions code calls d).run respond)
        depth) := by
  have L := Bench.Through.lockstep (κ := κ) (μ := μ) cfg imaged
  induction depth with
  | zero =>
    intro aside handler d
    cases handler with
    | ride => exact .answer _ fun _ => id
    | fork => exact agrees_lifted (L.fork ⟨rfl, trivial⟩)
    | custom code calls => exact .raise (f := Stop.halt) Halt.exhausted
  | succ depth ih =>
    intro aside handler d
    cases handler with
    | ride => exact .answer _ fun _ => id
    | fork => exact agrees_lifted (L.fork ⟨rfl, trivial⟩)
    | custom code calls =>
      exact (agrees_lifted (L.install ⟨rfl, trivial⟩ trivial)).bind fun _ =>
        agrees_interplay bounded ih (reactions code calls d)

/-- So an interplay, with the callbacks that it calls for, does the same on a strict bench. -/
theorem agrees_execute (reactions : Reactions κ μ) (depth : Nat) (p : Interplay κ μ α) :
    Agrees .halt (Stays cfg imaged aside) (p.executeStrict reactions depth)
      (p.execute reactions depth) fun _ => Stays cfg imaged aside :=
  agrees_interplay bounded (agrees_respondBy bounded reactions depth) p

end

end Strict

end FaultyFlash
