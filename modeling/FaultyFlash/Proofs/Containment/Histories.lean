import Mathlib.Logic.Function.Basic
import FaultyFlash.Proofs.Interplay
import FaultyFlash.Proofs.Likeness
import FaultyFlash.Proofs.Frames
import FaultyFlash.Proofs.Sharing.Sound

/-!
# Histories of a bench

Whatever programs and callbacks do to the devices of a bench, they do by acts: updates start, are
completed or lose power, states are set aside and taken up, devices are asked, copied and given up.
A history is any sequence of acts from a new bench on. With it goes a ledger, kept from the outside:
the table that each device had, as it is seen, when it was last synced.

## Main definitions

* `Act`, `Act.perform`: what is done to a bench, step by step
* `Ledger`, `Act.record`: what was synced last, and how an act changes it
* `Bench.History`: a bench that some acts led to, with its ledger

## Main results

* `Bench.History.execute`: interplays go through histories
* `Bench.History.wellFormed`: whatever happened to a bench, it is well formed
* `Bench.History.synced`, `Bench.History.unsynced`: a device that returns to its last sync when it
  loses power remembers the table of the ledger, and no other device remembers any
-/

namespace FaultyFlash

open Flash (answered KeepsSync)

variable {S R κ μ α β : Type}

/-- What a device remembers whose table was `slots` at its last sync. -/
def Config.syncPoint (cfg : Config) (slots : Slots Block) : Option (Slots Block) :=
  if cfg.crash = .outOfOrder then some slots else none

theorem Config.map_syncPoint (cfg : Config) (old new : Slots Block) :
    (cfg.syncPoint old).map (fun _ => new) = cfg.syncPoint new := by
  by_cases outOfOrder : cfg.crash = .outOfOrder <;> simp [syncPoint, outOfOrder]

/-! ## Acts -/

/-- What is done to a bench in one step. -/
inductive Act (κ μ : Type) where
  | start (d : Handle) (u : Update)
  | complete (d : Handle) (worn : Bool) (u : Update)
  | crash (d : Handle) (u : Update)
  /-- Asks what is performed by one operation. -/
  | ask (d : Handle) (r : Request) (direct : r.isDirect = true)
  | copy (d : Handle)
  | drop (d : Handle)
  | install (d : Handle) (callback : Option (Handler κ))
  | suspend (d : Handle)
  | resume (d : Handle)
  | discard
  /-- Notes a device that was copied for later. -/
  | note (d : Handle)
  | remember (m : μ)

/-- For each device the table as it was seen at its last sync. -/
abbrev Ledger := Handle → Slots Block

namespace Act

variable [BlockStore S R]

/-- Performs an act, whatever it answers. -/
def perform : Act κ μ → BenchM S R κ μ Unit
  | start d u => mute <| Bench.on d (Flash.start · u)
  | complete d worn u => mute <| Bench.on d (Flash.complete · worn u)
  | crash d u => mute <| Bench.on d (Flash.crash · u)
  | ask d r _ => mute <| Bench.on d r.effect
  | copy d => mute <| Bench.copy d
  | drop d => Bench.drop d
  | install d callback => Bench.install d callback
  | suspend d => Bench.suspend d
  | resume d => mute <| Bench.resume d
  | .discard => Bench.discard
  | note d => modify fun w => { w with forks := w.forks ++ [d] }
  | remember m => modify fun w => { w with memory := m }
where
  /-- An operation without its answer. -/
  mute {α : Type} (m : BenchM S R κ μ α) : BenchM S R κ μ Unit := (fun _ => ()) <$> m

/-- The ledger after an act on a bench: a sync enters the table of its device, and a copy inherits
what its source had synced. -/
def record (w : Bench S R κ μ) (ledger : Ledger) : Act κ μ → Ledger
  | ask d .sync _ => Function.update ledger d ((w.view d).elim [] Device.slots)
  | copy d => Function.update ledger w.rack.length (ledger d)
  | _ => ledger

end Act

namespace Bench

variable [BlockStore S R]

/-- A bench that some acts led to from its making on, with the ledger of what was synced last. -/
inductive History (cfg : Config) (m : μ) : Bench S R κ μ → Ledger → Prop where
  /-- On a new device nothing is written, and it counts as synced. -/
  | create {w : Bench S R κ μ} (made : create cfg m = .ok w) :
    History cfg m w fun _ => List.replicate cfg.geometry.blockCount none
  | act {w v : Bench S R κ μ} {ledger : Ledger} (before : History cfg m w ledger) (a : Act κ μ)
    (run : a.perform.run w = .ok () v) : History cfg m v (a.record w ledger)

namespace History

variable {cfg : Config} {m : μ}

/-- Benches with a history, compared with themselves. -/
def Has (cfg : Config) (m : μ) (v w : Bench S R κ μ) : Prop :=
  v = w ∧ ∃ ledger, History cfg m w ledger

/-- An operation that is an act goes on with a history. -/
theorem has_act (a : Act κ μ) {op : BenchM S R κ μ α}
    (same : a.perform = (fun _ => ()) <$> op) : Keeps (Has cfg m) op op := by
  rintro w _ ⟨rfl, ledger, h⟩
  cases run : op.run w with
  | error e v => exact ⟨rfl, trivial⟩
  | ok x v =>
    refine ⟨rfl, rfl, _, h.act a ?_⟩
    rw [same]
    exact run_map_eq_ok.2 ⟨x, run, rfl⟩

theorem has_direct (d : Handle) {r : Request} (hr : r.isDirect)
    (respond respond' : Responder S R κ μ) :
    Keeps (Has cfg m) (Bench.perform respond d r) (Bench.perform respond' d r) := by
  rw [perform_direct respond d hr, perform_direct respond' d hr]
  exact has_act (.ask d r hr) rfl

theorem has_copy (d : Handle) : Keeps (Has (κ := κ) (S := S) cfg m) (copy d) (copy d) :=
  has_act (.copy d) rfl

theorem has_drop (d : Handle) : Keeps (Has (κ := κ) (S := S) cfg m) (drop d) (drop d) :=
  has_act (.drop d) (id_map _).symm

/-- A copy for later is a copy, a note of it, and the countdown set to one. -/
theorem has_fork (d : Handle) : Keeps (Has (κ := κ) (S := S) cfg m) (fork d) (fork d) := by
  refine (has_copy d).bind fun handle => Coupled.bind (has_act (.note handle) rfl) fun _ => ?_
  have armed : Keeps (Has (κ := κ) (S := S) cfg m) (on d fun _ => Flash.modifyDevice fun dev =>
      { dev with countdown := 1 }) _ := has_act (.ask d (.setCountdown 1) rfl) rfl
  refine armed.bind fun x => ?_
  rcases x with e | _ <;> exact .answer _

/-- Whatever is done to devices goes on with a history. -/
theorem lockstep : Lockstep (fun _ _ => True) Eq (fun _ => True) (fun _ x => x)
    fun _ : Unit => Has (S := S) (κ := κ) cfg m where
  start {_ d _} := by
    rintro rfl u
    exact has_act (.start d u) rfl
  complete {_ d _} := by
    rintro rfl worn u
    exact has_act (.complete d worn u) rfl
  crash {_ d _} := by
    rintro rfl u
    exact has_act (.crash d u) rfl
  direct {_ d _} := by
    rintro rfl r hr respond respond'
    exact Coupled.map _ (has_direct d hr respond respond')
  callback := by
    rintro _ w _ d _ rfl ⟨rfl, -⟩
    rfl
  allowed _ _ _ := trivial
  next _ := trivial
  missing h _ _ := h
  install {_ d _} := by
    rintro rfl callback -
    exact has_act (.install d callback) (id_map _).symm
  copy {_ d _} := by
    rintro rfl respond respond'
    exact (has_copy d).bind fun _ => .answer _
  fork {_ d _} := by
    rintro rfl
    exact has_fork d
  suspend {_ d _} := by
    rintro rfl
    refine (has_act (.suspend d) (id_map _).symm).mono (fun _ _ => id) ?_ fun _ _ => id
    exact fun _ w v h => ⟨(), trivial, h⟩
  discard _ := has_act .discard (id_map _).symm
  resume {_ _ d _} := by
    rintro rfl -
    exact has_act (.resume d) rfl
  memory := by
    rintro _ w _ ⟨rfl, -⟩
    rfl
  setMemory m' := has_act (.remember m') (id_map _).symm

/-- An interplay goes on with a history, and so do its callbacks. -/
theorem execute {w v : Bench S R κ μ} {ledger : Ledger} (h : History cfg m w ledger)
    {reactions : Reactions κ μ} {depth : Nat} {p : Interplay κ μ α} {a : α}
    (run : (p.execute reactions depth).run w = .ok a v) : ∃ ledger', History cfg m v ledger' := by
  have L : Lockstep (fun _ _ => True) Eq (fun _ => True) (fun _ x => x)
      fun _ : Unit => Has (S := S) (κ := κ) cfg m := lockstep
  have kept := L.executeInterplay (i := ()) (fun _ _ => Iff.rfl)
    (fun _ => has_copy) (fun _ => has_drop) (fun code calls d => (reactions code calls d).blind_id)
    depth p.blind_id w w ⟨rfl, ledger, h⟩
  rw [run] at kept
  exact kept.2.2

/-! ## Histories as they are seen -/

/-- An act does to a bench what it does to the bench as it is seen. -/
theorem alike_act (a : Act κ μ) : Alike a.perform a.perform := by
  have L := SeenAs.lockstep (κ := κ) (μ := μ)
  rcases a with ⟨d, u⟩ | ⟨d, worn, u⟩ | ⟨d, u⟩ | ⟨d, r, direct⟩ | d | d | ⟨d, callback⟩ | d | d |
    _ | d | m
  · exact Coupled.map _ (L.start (i := ()) rfl u)
  · exact Coupled.map _ (L.complete (i := ()) rfl worn u)
  · exact Coupled.map _ (L.crash (i := ()) rfl u)
  · -- an answer that tells who shares a block may differ, but it is not looked at
    have alike := Alike.direct (κ := κ) (μ := μ) d direct (fun _ _ => throw .exhausted)
      fun _ _ => throw .exhausted
    rw [perform_direct _ d direct, perform_direct _ d direct] at alike
    have muted := Coupled.map (fun _ => ()) alike
    simp only [Functor.map_map] at muted
    exact muted
  · exact Coupled.map _ (Alike.copy d)
  · exact Alike.drop d
  · exact Alike.install d callback
  · exact Alike.suspend d
  · exact Coupled.map _ (Alike.resume d)
  · exact Alike.discard
  · exact fun w v h => ⟨rfl, by rw [h.seen]; rfl, h.counts⟩
  · exact fun w v h => ⟨rfl, by rw [h.seen]; rfl, h.counts⟩

/-- The ledger of a bench is kept by what is seen of it. -/
theorem record_plain (a : Act κ μ) (w : Bench Counted Nat κ μ) (ledger : Ledger) :
    a.record w.plain ledger = a.record w ledger := by
  rcases a with _ | _ | _ | ⟨d, r, _⟩ | d | _ | _ | _ | _ | _ | _ | _
  case ask => cases r <;> simp only [Act.record, view_plain]
  case copy => simp only [Act.record, plain, List.length_map]
  all_goals rfl

/-- A history is also one of the bench as it is seen. -/
theorem plain {w : Bench Counted Nat κ μ} {ledger : Ledger} (h : History cfg m w ledger) :
    SeenAs w w.plain ∧ History cfg m w.plain ledger := by
  induction h with
  | create made =>
    obtain ⟨seen, plain⟩ := plain_create made
    exact ⟨seen, .create plain⟩
  | act before a run ih =>
    obtain ⟨seen, history⟩ := ih
    obtain ⟨run', seen'⟩ := (alike_act a).run_plain seen run
    rw [← record_plain]
    exact ⟨seen', history.act a run'⟩

/-! ## Histories of well-formed benches -/

section

variable {w v : Bench Counted Nat κ μ} {aside inner : List (Suspension Block)}

/-- A bench that stays sound as it is seen, compared with itself. -/
abbrev StaysWell (cfg : Config) (imaged : Bool) (aside : List (Suspension Block)) :
    Bench Counted Nat κ μ → Bench Counted Nat κ μ → Prop :=
  Through (StaysSound cfg imaged (fun _ => False) (fun _ => True) aside)

/-- What keeps a bench sound leaves it well formed. -/
theorem wellFormed_of_keeps {op : BenchM Counted Nat κ μ α}
    (keeps : Coupled (StaysWell w.config w.image.isSome w.plain.suspended) op op
      (fun _ u v => ∃ inner, StaysWell w.config w.image.isSome inner u v) fun _ _ => True)
    (h : w.WellFormed) {x : α} (run : op.run w = .ok x v) : v.WellFormed := by
  have kept := keeps w w (h.through fun _ => False.elim)
  rw [run] at kept
  obtain ⟨-, inner, stays⟩ := kept
  exact wellFormed_of_through h.geometry stays

/-- Every act leaves a bench well formed. -/
theorem wellFormed_act (a : Act κ μ) (h : w.WellFormed) (run : a.perform.run w = .ok () v) :
    v.WellFormed := by
  have L := Through.lockstep (κ := κ) (μ := μ) w.config w.image.isSome
  have alone {d : Handle} : d = d ∧ True := ⟨rfl, trivial⟩
  -- most acts leave what is set aside
  have kept {op : BenchM Counted Nat κ μ Unit}
      (keeps : Keeps (StaysWell w.config w.image.isSome w.plain.suspended) op op)
      (run : op.run w = .ok () v) : v.WellFormed :=
    wellFormed_of_keeps (keeps.mono (fun _ _ => id) (fun _ _ _ h => ⟨_, h⟩) fun _ _ => id) h run
  cases a with
  | start d u => exact kept (Coupled.map _ (L.start alone u)) run
  | complete d worn u => exact kept (Coupled.map _ (L.complete alone worn u)) run
  | crash d u => exact kept (Coupled.map _ (L.crash alone u)) run
  | ask d r direct =>
    have keeps := L.direct (i := w.plain.suspended) (alone (d := d)) direct
      (fun _ _ => throw .exhausted) fun _ _ => throw .exhausted
    rw [id_map', perform_direct _ d direct] at keeps
    exact kept (Coupled.map _ keeps) run
  | copy d => exact kept (Coupled.map _ (Through.copy d)) run
  | drop d => exact kept (Through.drop d) run
  | install d callback => exact kept (L.install alone trivial) run
  | suspend d =>
    refine wellFormed_of_keeps ((L.suspend alone).mono (fun _ _ => id) ?_ fun _ _ => id) h run
    rintro _ u v ⟨inner, -, stays⟩
    exact ⟨inner, stays⟩
  | resume d =>
    cases hs : w.plain.suspended with
    | nil =>
      -- there is nothing to return to
      obtain ⟨x, resumed, -⟩ := run_map_eq_ok.1 run
      rw [run_resume, List.map_eq_nil_iff.1 hs] at resumed
      cases resumed
      exact h
    | cons s rest =>
      refine wellFormed_of_keeps ((Coupled.map _ (L.resume (alone (d := d)) ⟨s, rfl⟩)).mono ?_
        (fun _ _ _ stays => ⟨rest, stays⟩) fun _ _ => id) h run
      rw [hs]
      exact fun _ _ => id
  | discard =>
    cases hs : w.plain.suspended with
    | nil =>
      rw [Act.perform, run_discard, List.map_eq_nil_iff.1 hs] at run
      cases run
      exact h
    | cons s rest =>
      refine wellFormed_of_keeps ((L.discard ⟨s, rfl⟩).mono ?_
        (fun _ _ _ stays => ⟨rest, stays⟩) fun _ _ => id) h run
      rw [hs]
      exact fun _ _ => id
  | note d =>
    cases run
    exact ⟨h.geometry, ⟨rfl, h.seen.counts⟩, h.devices, h.tables⟩
  | remember m => exact kept (L.setMemory m) run

/-- Whatever happened to a bench, it is well formed. -/
theorem wellFormed {ledger : Ledger} (h : History cfg m w ledger) : w.WellFormed := by
  induction h with
  | create made => exact wellFormed_create made
  | act before a run ih => exact wellFormed_act a ih run

end

/-! ## What is synced -/

/-- The devices of a bench remember the tables of a ledger as their last syncs. -/
def Agrees (cfg : Config) (v : Bench Plain Block κ μ) (ledger : Ledger) : Prop :=
  v.config = cfg ∧ ∀ d r, v.rig? d = some r → r.device.synced = some (ledger d)

/-- The devices of a bench remember the tables of a ledger as far as they remember any. -/
def Remembers (cfg : Config) (v : Bench Plain Block κ μ) (ledger : Ledger) : Prop :=
  v.config = cfg ∧ ∀ d r, v.rig? d = some r → r.device.synced = cfg.syncPoint (ledger d)

variable {v w : Bench Plain Block κ μ} {ledger : Ledger}

/-- An operation on a device that leaves its sync point leaves all of them. -/
theorem Remembers.on (h : Remembers cfg v ledger) {d : Handle} {op : Config → FlashM Plain Block α}
    (keeps : KeepsSync (op cfg)) {x : Except Failure α} (run : (Bench.on d op).run v = .ok x w) :
    Remembers cfg w ledger := by
  obtain ⟨rfl, synced⟩ := h
  obtain ⟨r, hr, -, rfl⟩ := run_on_eq_ok.1 run
  refine ⟨rfl, fun e s hs => ?_⟩
  by_cases same : d = e
  · subst same
    rw [rig?_settle hr] at hs
    cases hs
    exact (keeps (v.flash r)).trans (synced d r hr)
  · rw [rig?_settle_ne v same] at hs
    exact synced e s hs

/-- A sync enters the table of its device. -/
theorem Remembers.sync (h : Remembers cfg v ledger) {d : Handle} {x : Except Failure Unit}
    (run : (Bench.on d fun _ => Flash.sync).run v = .ok x w) :
    Remembers cfg w (Function.update ledger d ((v.view d).elim [] Device.slots)) := by
  obtain ⟨rfl, synced⟩ := h
  obtain ⟨r, hr, -⟩ := run_on_eq_ok.1 run
  rw [run_on_of_rig? hr, Flash.run_sync_plain] at run
  cases run
  refine ⟨rfl, fun e s hs => ?_⟩
  by_cases same : d = e
  · subst same
    rw [rig?_settle hr] at hs
    cases hs
    have before : (v.flash r).device.synced = v.config.syncPoint (ledger d) := synced d r hr
    rw [Function.update_self, view, hr, before, Config.map_syncPoint]
    simp [Bench.flash]
  · rw [rig?_settle_ne v same] at hs
    rw [Function.update_of_ne (Ne.symm same)]
    exact synced e s hs

theorem Remembers.copy (h : Remembers cfg v ledger) {d e : Handle}
    (run : (copy d).run v = .ok e w) :
    Remembers cfg w (Function.update ledger v.rack.length (ledger d)) := by
  obtain ⟨rfl, synced⟩ := h
  obtain ⟨r, hr, rfl, rfl⟩ := run_copy_eq_ok.1 run
  refine ⟨rfl, fun c s hs => ?_⟩
  rw [rig?_eq_some] at hs
  by_cases same : c = v.rack.length
  · subst same
    rw [List.getElem?_append_right (Nat.le_refl _), Nat.sub_self] at hs
    cases hs
    rw [Function.update_self]
    exact synced d r hr
  · have old : c < v.rack.length := by
      have inside := (List.getElem?_eq_some_iff.1 hs).1
      rw [List.length_append, List.length_singleton] at inside
      exact Nat.lt_of_le_of_ne (Nat.le_of_lt_succ inside) same
    rw [List.getElem?_append_left old] at hs
    rw [Function.update_of_ne same]
    exact synced c s (rig?_eq_some.2 hs)

/-- Where a device is exchanged for one with the same sync point or given up, the ledger agrees. -/
theorem Remembers.set (h : Remembers cfg v ledger) {d : Handle} {x : Option (Rig Block κ)}
    (hx : ∀ r, x = some r → r.device.synced = cfg.syncPoint (ledger d))
    (config : w.config = v.config) (rack : w.rack = v.rack.set d x) :
    Remembers cfg w ledger := by
  obtain ⟨rfl, synced⟩ := h
  refine ⟨config, fun e s hs => ?_⟩
  rw [rig?_eq_some, rack, List.getElem?_set] at hs
  split at hs
  · next same =>
    subst same
    split at hs
    · exact hx s (Option.some.inj hs)
    · cases hs
  · exact synced e s (rig?_eq_some.2 hs)

/-- Every act keeps the ledger in agreement with the sync points. -/
theorem Remembers.act (h : Remembers cfg v ledger) (a : Act κ μ)
    (run : a.perform.run v = .ok () w) : Remembers cfg w (a.record v ledger) := by
  have same := h.1
  subst same
  cases a with
  | start d u =>
    obtain ⟨x, run, -⟩ := run_map_eq_ok.1 run
    exact h.on (Flash.Leaves.start _ u) run
  | complete d worn u =>
    obtain ⟨x, run, -⟩ := run_map_eq_ok.1 run
    exact h.on (Flash.Leaves.complete _ worn u) run
  | crash d u =>
    obtain ⟨x, run, -⟩ := run_map_eq_ok.1 run
    exact h.on (Flash.Leaves.crash _ u) run
  | ask d r direct =>
    obtain ⟨x, run, -⟩ := run_map_eq_ok.1 run
    by_cases sync : r = .sync
    · subst sync
      exact h.sync run
    · have kept := h.on (Flash.Leaves.effect _ sync) run
      cases r <;> first | exact kept | exact absurd rfl sync
  | copy d =>
    obtain ⟨x, run, -⟩ := run_map_eq_ok.1 run
    exact h.copy run
  | drop d =>
    obtain ⟨r, -, rfl⟩ := run_drop_eq_ok.1 run
    exact h.set (x := none) (fun _ hr => by cases hr) rfl rfl
  | install d callback =>
    obtain ⟨r, hr, rfl⟩ := run_install_eq_ok.1 run
    refine h.set (fun s hs => ?_) rfl rfl
    cases hs
    exact h.2 d r hr
  | suspend d =>
    obtain ⟨r, -, rfl⟩ := run_suspend_eq_ok.1 run
    exact h
  | resume d =>
    obtain ⟨x, run, -⟩ := run_map_eq_ok.1 run
    rw [run_resume] at run
    rcases hs : v.suspended with _ | ⟨s, rest⟩
    · rw [hs] at run
      cases run
      exact h
    · rw [hs] at run
      have taken : Remembers v.config { v with suspended := rest } ledger := h
      exact taken.on (Flash.Leaves.restore _ s.slots s.generator) run
  | discard =>
    rw [Act.perform, run_discard] at run
    cases run
    rcases v.suspended with _ | ⟨s, rest⟩ <;> exact h
  | note d =>
    cases run
    exact h
  | remember m =>
    cases run
    exact h

/-- What a device remembers is the table of the ledger, or nothing. -/
theorem remembers (h : History cfg m v ledger) : Remembers cfg v ledger := by
  induction h with
  | create made =>
    obtain ⟨-, image, -, rfl⟩ := create_eq_ok.1 made
    refine ⟨rfl, fun d r hr => ?_⟩
    rw [rig?_eq_some] at hr
    obtain rfl := Option.some.inj (List.mem_singleton.1 (List.mem_of_getElem? hr))
    rfl
  | act before a run ih => exact ih.act a run

/-- What a device that returns to its last sync remembers is the table of the ledger. -/
theorem synced (outOfOrder : cfg.crash = .outOfOrder) (h : History cfg m v ledger) :
    Agrees cfg v ledger := by
  obtain ⟨config, remembered⟩ := h.remembers
  refine ⟨config, fun d r hr => ?_⟩
  rw [remembered d r hr, Config.syncPoint, if_pos outOfOrder]

/-- A device that does not return to its last sync remembers none. -/
theorem unsynced (inOrder : cfg.crash ≠ .outOfOrder) (h : History cfg m v ledger) {d : Handle}
    {r : Rig Block κ} (hr : v.rig? d = some r) : r.device.synced = none := by
  rw [h.remembers.2 d r hr, Config.syncPoint, if_neg inOrder]

end History

end Bench

end FaultyFlash
