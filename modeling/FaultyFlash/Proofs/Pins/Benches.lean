import FaultyFlash.Proofs.Containment.Histories
import FaultyFlash.Proofs.Outcomes.Resumed
import FaultyFlash.Proofs.Pins.Devices
import FaultyFlash.Proofs.Upkeep

/-!
# Pins of the devices on a bench

What is pinned on a block of a device is changed by no act but a pin or a draw for that very block.
A device that resumes is given back the blocks that it had, with their pins; so whatever interplays
and their callbacks do, a pin stands until they ask for another one.

## Main definitions

* `Bench.Held`: what is pinned on a block of a device
* `Act.Spares`, `Interplay.Spares`: acts and interplays that leave a pin alone

## Main results

* `Bench.Held.act`: every act that leaves a pin alone keeps it
* `Bench.Sparing.execute`: so do interplays, through losses of power and their callbacks
-/

namespace FaultyFlash

open Flash (answered KeepsPin)

variable {κ μ α β : Type} {cfg : Config} {d e : Handle} {block : Nat} {x : Option Nat}

/-- An act leaves alone what is pinned on a block of a device. -/
def Act.Spares (d : Handle) (block : Nat) (x : Option Nat) : Act κ μ → Prop
  | ask e r _ => e = d → r.Spares block x
  | resume e => e ≠ d
  | _ => True

/-- An interplay asks only what is allowed. -/
def Interplay.Asks (ok : Handle → Request → Prop) : Interplay κ μ α → Prop
  | .done _ => True
  | .ask d r next => ok d r ∧ ∀ x, (next x).Asks ok
  | .copy _ next => ∀ d, (next d).Asks ok
  | .drop _ next => next.Asks ok
  | .install _ _ next => next.Asks ok
  | .getMemory next => ∀ m, (next m).Asks ok
  | .setMemory _ next => next.Asks ok

/-- An interplay leaves alone what is pinned on a block of a device. -/
abbrev Interplay.Spares (d : Handle) (block : Nat) (x : Option Nat) (p : Interplay κ μ α) : Prop :=
  p.Asks fun e r => e = d → r.Spares block x

namespace Bench

/-- What is pinned on a block of a device, if the device is still there, is `x`. -/
structure Held (cfg : Config) (d : Handle) (block : Nat) (x : Option Nat)
    (v : Bench Plain Block κ μ) : Prop where
  config : v.config = cfg
  /-- No copy comes to have the handle. -/
  made : d < v.rack.length
  pinned {r : Rig Block κ} (h : v.rig? d = some r) : r.device.Pinned block x

namespace Held

variable {v v' : Bench Plain Block κ μ}

/-- A device may be exchanged for another one that is pinned alike, or given up. -/
theorem set (h : Held cfg d block x v) {y : Option (Rig Block κ)}
    (hy : e = d → ∀ r, y = some r → r.device.Pinned block x) (config : v'.config = v.config)
    (rack : v'.rack = v.rack.set e y) : Held cfg d block x v' := by
  refine ⟨config.trans h.config, by rw [rack, List.length_set]; exact h.made, fun {r} hr => ?_⟩
  rw [rig?_eq_some, rack, List.getElem?_set] at hr
  split at hr
  · next same =>
    split at hr
    · exact hy same r (Option.some.inj hr)
    · cases hr
  · exact h.pinned (rig?_eq_some.2 hr)

/-- An operation on a device keeps a pin if it keeps it on that device. -/
theorem on (h : Held cfg d block x v)
    (sound : ∀ {e r}, v.rig? e = some r → r.device.Sound v.config)
    {op : Config → FlashM Plain Block α} (keeps : e = d → KeepsPin cfg block x (op cfg))
    {y : Except Failure α} (run : (Bench.on e op).run v = .ok y v') : Held cfg d block x v' := by
  obtain ⟨r, hr, -, rfl⟩ := run_on_eq_ok.1 run
  refine h.set (fun same s hs => ?_) rfl rfl
  cases hs
  have config := h.config
  subst config same
  exact (Flash.answered_of_preserves (keeps rfl) ⟨rfl, sound hr, h.pinned hr⟩).2.2.pinned

/-- A device is copied apart from itself. -/
theorem copy (h : Held cfg d block x v) {n : Handle} (run : (Bench.copy e).run v = .ok n v') :
    Held cfg d block x v' := by
  obtain ⟨r, -, -, rfl⟩ := run_copy_eq_ok.1 run
  refine ⟨h.config, ?_, fun {s} hs => ?_⟩
  · simp only [List.length_append]
    exact Nat.lt_of_lt_of_le h.made (Nat.le_add_right ..)
  · rw [rig?_eq_some] at hs
    simp only [List.getElem?_append_left h.made] at hs
    exact h.pinned (rig?_eq_some.2 hs)

/-- Every act that leaves a pin alone keeps it. -/
theorem act (narrow : cfg.geometry.Narrow) (h : Held cfg d block x v)
    (sound : ∀ {e r}, v.rig? e = some r → r.device.Sound v.config) {a : Act κ μ}
    (spares : a.Spares d block x) (run : a.perform.run v = .ok () v') : Held cfg d block x v' := by
  cases a with
  | start e u =>
    obtain ⟨y, run, -⟩ := run_map_eq_ok.1 run
    exact h.on sound (fun _ => KeepsPin.start u) run
  | complete e worn u =>
    obtain ⟨y, run, -⟩ := run_map_eq_ok.1 run
    exact h.on sound (fun _ => KeepsPin.complete narrow worn u) run
  | crash e u =>
    obtain ⟨y, run, -⟩ := run_map_eq_ok.1 run
    exact h.on sound (fun _ => KeepsPin.crash narrow u) run
  | ask e r direct =>
    -- only here the device may be told to pin or to draw
    obtain ⟨y, run, -⟩ := run_map_eq_ok.1 run
    exact h.on sound (fun same => KeepsPin.effect narrow direct (spares same)) run
  | copy e =>
    obtain ⟨y, run, -⟩ := run_map_eq_ok.1 run
    exact h.copy run
  | drop e =>
    obtain ⟨r, -, rfl⟩ := run_drop_eq_ok.1 run
    exact h.set (y := none) (fun _ _ hr => by cases hr) rfl rfl
  | install e callback =>
    obtain ⟨r, hr, rfl⟩ := run_install_eq_ok.1 run
    refine h.set (fun same s hs => ?_) rfl rfl
    cases hs
    subst same
    exact h.pinned (r := r) hr
  | suspend e =>
    obtain ⟨r, -, rfl⟩ := run_suspend_eq_ok.1 run
    exact ⟨h.config, h.made, h.pinned⟩
  | resume e =>
    obtain ⟨y, run, -⟩ := run_map_eq_ok.1 run
    rw [run_resume] at run
    rcases hs : v.suspended with _ | ⟨s, rest⟩
    · rw [hs] at run
      cases run
      exact h
    · rw [hs] at run
      have taken : Held cfg d block x { v with suspended := rest } := ⟨h.config, h.made, h.pinned⟩
      exact taken.on sound (fun same => absurd same spares) run
  | discard =>
    rw [Act.perform, run_discard] at run
    cases run
    rcases v.suspended with _ | ⟨s, rest⟩ <;> exact ⟨h.config, h.made, h.pinned⟩
  | note e =>
    cases run
    exact ⟨h.config, h.made, h.pinned⟩
  | remember m =>
    cases run
    exact ⟨h.config, h.made, h.pinned⟩

/-- A device that returns to blocks that were pinned alike is pinned alike. -/
theorem resume (h : Held cfg d block x v) {s : Suspension Block} {rest : List (Suspension Block)}
    (hs : v.suspended = s :: rest) (pinned : s.slots.pin block = x) {y : Except Failure Unit}
    (run : (Bench.resume d).run v = .ok y v') : Held cfg d block x v' := by
  rw [run_resume, hs] at run
  obtain ⟨r, hr, -, rfl⟩ := run_on_eq_ok.1 run
  have taken : Held cfg d block x { v with suspended := rest } := ⟨h.config, h.made, h.pinned⟩
  refine taken.set (fun _ t ht => ?_) rfl rfl
  cases ht
  -- whether or not the image file could be written, the device has the table
  have device := Flash.device_restore v.config s.slots s.generator
    ({ v with suspended := rest }.flash r)
  refine ⟨?_, fun {before} hb => ?_⟩
  · rw [device]
    exact pinned
  · rw [device] at hb
    exact (h.pinned hr).synced hb

end Held

/-! ## Interplays -/

/-- An operation keeps benches well formed, and what is pinned on a block of a device. -/
abbrev Sparing (cfg : Config) (d : Handle) (block : Nat) (x : Option Nat)
    (op : BenchM Counted Nat κ μ α) : Prop :=
  Upholds (fun w => w.WellFormed ∧ Held cfg d block x w.plain) op fun _ => True

namespace Sparing

variable (narrow : cfg.geometry.Narrow)

include narrow

theorem act (a : Act κ μ) (spares : a.Spares d block x) : Sparing cfg d block x a.perform := by
  rintro w _ v ⟨wellFormed, held⟩ run
  obtain ⟨run', -⟩ := (History.alike_act a).run_plain wellFormed.seen run
  exact ⟨⟨History.wellFormed_act a wellFormed run,
    held.act narrow wellFormed.devices spares run'⟩, trivial⟩

/-- An operation that is such an act. -/
theorem of_act (a : Act κ μ) (spares : a.Spares d block x) {op : BenchM Counted Nat κ μ α}
    (same : a.perform = (fun _ => ()) <$> op) : Sparing cfg d block x op := by
  intro w y v hw run
  refine act narrow a spares w () v hw ?_
  rw [same]
  exact run_map_eq_ok.2 ⟨y, run, rfl⟩

/-- A loss of power that is over keeps a pin. A device that resumes has the pin of the blocks that
are given back to it. -/
theorem conclude {w v : Bench Counted Nat κ μ} (wellFormed : w.WellFormed)
    (held : Held cfg d block x w.plain) {s : Suspension Block} {rest : List (Suspension Block)}
    (hs : w.plain.suspended = s :: rest) (pinned : e = d → s.slots.pin block = x)
    {z : Except Failure Verdict} {y : Except Failure Unit}
    (run : (Bench.conclude e z).run w = .ok y v) :
    v.WellFormed ∧ Held cfg d block x v.plain := by
  have given (f : Failure) : Sparing cfg d block x (do
      Bench.discard (S := Counted) (κ := κ) (μ := μ)
      return (.error f : Except Failure Unit)) :=
    (act narrow .discard trivial).bind fun _ _ => .pure trivial
  rcases z with f | _ | _
  · exact (given f w y v ⟨wellFormed, held⟩ run).1
  · by_cases same : e = d
    · refine ⟨History.wellFormed_act (.resume e) wellFormed (run_map_eq_ok.2 ⟨y, run, rfl⟩), ?_⟩
      subst same
      exact held.resume hs (pinned rfl) ((Alike.resume e).run_plain wellFormed.seen run).1
    · exact (of_act narrow (.resume e) same rfl w y v ⟨wellFormed, held⟩ run).1
  · exact (given _ w y v ⟨wellFormed, held⟩ run).1

variable {respond : Responder Counted Nat κ μ} (steady : Steady respond)
  (sparing : ∀ handler e, Sparing cfg d block x (respond handler e))

include steady sparing

/-- A loss of power keeps a pin, if the callback does. -/
theorem interrupt (e : Handle) (u : Update) :
    Sparing cfg d block x (Bench.interrupt respond e u) := by
  rintro w y v ⟨wellFormed, held⟩ run
  have L := Through.lockstep (κ := κ) (μ := μ) w.config w.image.isSome
  have crashes : Sparing (κ := κ) (μ := μ) cfg d block x (on e (Flash.crash · u)) :=
    of_act narrow (.crash e u) trivial rfl
  obtain ⟨q, _, found, rest⟩ := run_bind_eq_ok.1 run
  obtain ⟨hq, rfl⟩ := run_rig_eq_ok.1 found
  cases hc : q.callback with
  | none =>
    rw [hc] at rest
    obtain ⟨z, w₁, crashed, answered⟩ := run_bind_eq_ok.1 rest
    have kept := (crashes w z w₁ ⟨wellFormed, held⟩ crashed).1
    cases z <;> cases answered <;> exact ⟨kept, trivial⟩
  | some handler =>
    rw [hc] at rest
    obtain ⟨_, w₁, suspended, rest⟩ := run_bind_eq_ok.1 rest
    obtain ⟨z, w₂, crashed, rest⟩ := run_bind_eq_ok.1 rest
    have kept₁ := (act narrow (.suspend e) trivial w () w₁ ⟨wellFormed, held⟩ suspended).1
    have kept₂ := (crashes w₁ z w₂ kept₁ crashed).1
    -- what is set aside until the verdict is what the device has now
    have there := plain_of_rig? hq
    have h₁ := suspend_ok (wellFormed.through fun _ => False.elim) there suspended
    have h₂ := (L.crash ⟨rfl, trivial⟩ u).after h₁ crashed
    have pinned (same : e = d) : (q.plain w.store).device.slots.pin block = x := by
      subst same
      exact (held.pinned there).slots
    cases z with
    | error f => exact ⟨conclude narrow kept₂.1 kept₂.2 h₂.holds.suspended pinned rest, trivial⟩
    | ok _ =>
      obtain ⟨z, w₃, responded, concluded⟩ := run_bind_eq_ok.1 rest
      have h₃ := (steady _ _ _ handler e e ⟨rfl, trivial⟩ trivial).after h₂ responded
      have kept₃ := (sparing handler e w₂ z w₃ kept₂ responded).1
      exact ⟨conclude narrow kept₃.1 kept₃.2 h₃.holds.suspended pinned concluded, trivial⟩

theorem update (e : Handle) (u : Update) : Sparing cfg d block x (Bench.update respond e u) := by
  have completes (worn : Bool) :
      Sparing (κ := κ) (μ := μ) cfg d block x (on e (Flash.complete · worn u)) :=
    of_act narrow (.complete e worn u) trivial rfl
  refine (of_act narrow (.start e u) trivial rfl).bind fun how _ => ?_
  rcases how with f | _ | worn | worn
  · exact .pure trivial
  · exact .pure trivial
  · exact completes worn
  · refine (interrupt narrow steady sparing e u).bind fun z _ => ?_
    cases z with
    | error f => exact .pure trivial
    | ok _ => exact completes worn

theorem perform {r : Request} (spares : e = d → r.Spares block x) :
    Sparing cfg d block x (Bench.perform respond e r) := by
  by_cases direct : r.isDirect
  · rw [perform_direct respond e direct]
    exact of_act narrow (.ask e r direct) spares rfl
  cases r with
  | update u => exact update narrow steady sparing e u
  | copy => exact (of_act narrow (.copy e) trivial rfl).bind fun _ _ => .pure trivial
  | _ => exact absurd rfl direct

/-- An interplay keeps a pin if it asks nothing else. -/
theorem interplay {p : Interplay κ μ α} (asks : p.Spares d block x) :
    Sparing cfg d block x (p.run respond) := by
  induction p with
  | done a => exact .pure trivial
  | ask e r next ih =>
    exact (perform narrow steady sparing asks.1).bind fun y _ => ih y (asks.2 y)
  | copy e next ih =>
    exact (of_act narrow (.copy e) trivial rfl).bind fun n _ => ih n (asks n)
  | drop e next ih => exact (act narrow (.drop e) trivial).bind fun _ _ => ih asks
  | install e callback next ih =>
    exact (act narrow (.install e _) trivial).bind fun _ _ => ih asks
  | getMemory next ih => exact .get_bind fun w => ih w.memory (asks w.memory)
  | setMemory m next ih => exact (act narrow (.remember m) trivial).bind fun _ _ => ih asks

omit steady sparing

/-- So do callbacks that ask nothing else. -/
theorem responds {reactions : Reactions κ μ}
    (asks : ∀ code calls e, (reactions code calls e).Spares d block x)
    (depth : Nat) (handler : Handler κ) (e : Handle) :
    Sparing cfg d block x (respondBy
      (fun respond code calls e => (reactions code calls e).run respond) depth handler e) := by
  have forks (e : Handle) : Sparing cfg d block x (fork (S := Counted) (κ := κ) (μ := μ) e) := by
    refine (of_act narrow (.copy e) trivial rfl).bind fun n _ =>
      (act narrow (.note n) trivial).bind fun _ _ =>
        (of_act narrow (.ask e (.setCountdown 1) rfl) (fun _ => trivial) rfl).bind fun z _ => ?_
    cases z <;> exact .pure trivial
  -- by induction on how deeply callbacks may be interrupted by callbacks
  induction depth generalizing handler e with
  | zero =>
    cases handler with
    | ride => exact .pure trivial
    | fork => exact forks e
    | custom code calls => exact .raise _
  | succ depth ih =>
    cases handler with
    | ride => exact .pure trivial
    | fork => exact forks e
    | custom code calls =>
      exact (act narrow (.install e _) trivial).bind fun _ _ =>
        interplay narrow (steady_respondBy reactions depth) ih (asks code calls e)

theorem execute {reactions : Reactions κ μ} {p : Interplay κ μ α} (asks : p.Spares d block x)
    (responses : ∀ code calls e, (reactions code calls e).Spares d block x) (depth : Nat) :
    Sparing cfg d block x (p.execute reactions depth) :=
  interplay narrow (steady_respondBy reactions depth) (responds narrow responses depth) asks

end Sparing

end Bench

end FaultyFlash
