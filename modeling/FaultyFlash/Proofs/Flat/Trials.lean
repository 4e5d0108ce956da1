import FaultyFlash.Proofs.Flat.Devices
import FaultyFlash.Proofs.Sharing.Sound

/-!
# Devices cannot be told from flat ones

Blocks are stored when they are first changed, copies and syncs share them until one side changes
them, and a loss of power may take a device back to tables that it has long left. None of it can be
noticed where nothing is left to chance: a trial of the devices of a bench comes to what it comes to
on flat devices, whatever it does and whatever it asks.

## Main definitions

* `Bench.LookFlat`: the devices of a bench show what flat devices hold
* `Bench.ActFlat`: they do so without a callback, where nothing is shared

## Main results

* `Bench.ActFlat.perform`, `Bench.ActFlat.copy`: the steps of a trial come to the same
* `Bench.ActFlat.trial`: so do trials, where nothing is shared
* `Trial.answers_flat`: so do trials on a new bench
-/

namespace FaultyFlash

open EStateM (run_bind)
open Flash (answered)

variable {S R κ μ α : Type} {cfg : Config}

namespace Bench

/-- The devices of a bench show what flat devices hold, device by device. -/
def LookFlat [BlockStore S R] (cfg : Config) (w : Bench S R κ μ) (W : List Flat) : Prop :=
  ∀ d : Handle, Option.Rel (Device.LooksFlat cfg) (w.view d) W[d]?

/-- The devices of a bench act like flat devices, and none of them has a callback. -/
structure ActFlat (cfg : Config) (w : Bench Plain Block κ μ) (W : List Flat) : Prop where
  config : w.config = cfg
  image : w.image = none
  length : w.rack.length = W.length
  devices {d : Handle} {F : Flat} (h : W[d]? = some F) :
    ∃ r, w.rig? d = some r ∧ r.callback = none ∧ r.device.ActsFlat cfg F

namespace ActFlat

variable {w : Bench Plain Block κ μ} {W : List Flat}

/-- A handle is that of a device on both sides, or on neither. -/
theorem rig_eq_none (h : w.ActFlat cfg W) {d : Handle} (hF : W[d]? = none) :
    w.rig? d = none := by
  rw [List.getElem?_eq_none_iff, ← h.length, ← List.getElem?_eq_none_iff] at hF
  rw [rig?, hF, Option.join_none]

theorem settle (h : w.ActFlat cfg W) {d : Handle} {r : Rig Block κ} (hr : w.rig? d = some r)
    (bare : r.callback = none) {f : Flash Plain Block} {F : Flat} (acts : f.ActsFlat cfg F) :
    (w.settle d r f).ActFlat cfg (W.set d F) where
  config := h.config
  image := acts.image
  length := by
    simp only [Bench.settle, List.length_set, h.length]
  devices {e G} he := by
    by_cases this : d = e
    · subst this
      obtain ⟨inside, -⟩ := List.getElem?_eq_some_iff.1 he
      rw [List.length_set] at inside
      rw [List.getElem?_set_self inside] at he
      cases he
      exact ⟨_, rig?_settle hr f, bare, acts.device⟩
    · rw [List.getElem?_set_ne this] at he
      rw [rig?_settle_ne w this]
      exact h.devices he

/-- What is done alike to devices is done alike to benches and flat devices. -/
theorem on (d : Handle) {op : Config → FlashM Plain Block α} {op' : FlatM α}
    (alike : Preserves (Flash.ActsFlat cfg) (op cfg) op') :
    Preserves (ActFlat (κ := κ) (μ := μ) cfg) (Bench.on d op) (FlatsM.on d op') := by
  intro w W h
  cases hF : W[d]? with
  | none =>
    rw [run_on, h.rig_eq_none hF, FlatsM.run_on, hF]
    exact ⟨rfl, h⟩
  | some F =>
    obtain ⟨r, hr, bare, acts⟩ := h.devices hF
    have agree := alike (w.flash r) F ⟨acts, h.image⟩
    rw [run_on_of_rig? hr, h.config, FlatsM.run_on, hF]
    cases run : (op cfg).run (w.flash r) with
    | ok a f =>
      rw [run] at agree
      obtain ⟨G, run', acts⟩ := agree.ok_left
      simp only [run']
      exact ⟨rfl, h.settle hr bare acts⟩
    | error e f =>
      rw [run] at agree
      obtain ⟨G, run', acts⟩ := agree.error_left
      simp only [run']
      exact ⟨rfl, h.settle hr bare acts⟩

/-- An order is answered alike. -/
theorem perform (steady : cfg.Steady) (respond : Responder Plain Block κ μ) (d : Handle)
    (o : Flat.Order) :
    Preserves (ActFlat cfg) (Bench.perform respond d o.request)
      (FlatsM.on d (Flat.obey cfg o)) := by
  have ordered : Preserves (ActFlat (κ := κ) (μ := μ) cfg) (Bench.on d o.effect)
      (FlatsM.on d (Flat.obey cfg o)) := on d (Flash.ActsFlat.obey steady o)
  cases o with
  | update u =>
    intro w W h
    cases hF : W[d]? with
    | none =>
      have lost : (Bench.update respond d u).run w = .error (.noDevice d) w := by
        rw [update, run_bind, run_on, h.rig_eq_none hF]
      show ResultsAgree _ _ ((Bench.update respond d u).run w) _
      rw [lost, FlatsM.run_on, hF]
      exact ⟨rfl, h⟩
    | some F =>
      obtain ⟨r, hr, bare, -⟩ := h.devices hF
      have unattended := update_unattended hr bare respond u
      show ResultsAgree _ _ ((Bench.update respond d u).run w) _
      rw [unattended]
      exact ordered w W h
  | _ => exact ordered

/-- A copy of a device acts like a copy of the flat device. -/
theorem copy (d : Handle) :
    Preserves (ActFlat (κ := κ) (μ := μ) cfg) (Bench.copy d) (FlatsM.copy d) := by
  intro w W h
  rw [run_copy, FlatsM.run_copy]
  cases hF : W[d]? with
  | none =>
    rw [h.rig_eq_none hF]
    exact ⟨rfl, h⟩
  | some F =>
    obtain ⟨r, hr, -, acts⟩ := h.devices hF
    rw [hr]
    refine ⟨h.length, h.config, h.image, ?_, fun {e G} he => ?_⟩
    · simp only [List.length_append, h.length, List.length_singleton]
    · by_cases this : e < W.length
      · rw [List.getElem?_append_left this] at he
        obtain ⟨s, hs, rest⟩ := h.devices he
        exact ⟨s, rig?_append hs _, rest⟩
      · -- the copy is the only device after the others
        have inside := (List.getElem?_eq_some_iff.1 he).1
        rw [List.length_append, List.length_singleton] at inside
        obtain rfl : e = W.length :=
          Nat.le_antisymm (Nat.lt_succ_iff.1 inside) (Nat.not_lt.1 this)
        rw [List.getElem?_concat_length] at he
        cases he
        refine ⟨{ device := r.device }, ?_, rfl, acts⟩
        rw [rig?, ← h.length, List.getElem?_concat_length, Option.join_some]

/-- What is shown where nothing is shared is what flat devices hold. -/
theorem look (h : w.ActFlat cfg W) : w.LookFlat cfg W := by
  intro d
  cases hF : W[d]? with
  | none =>
    rw [view, h.rig_eq_none hF]
    exact .none
  | some F =>
    obtain ⟨r, hr, -, acts⟩ := h.devices hF
    rw [view, hr, Option.map_some, Device.plain_plain]
    exact .some acts.toLooksFlat

/-- Trials come to the same where nothing is shared. -/
theorem trial (steady : cfg.Steady) (respond : Responder Plain Block κ μ) (p : Trial α) :
    Preserves (ActFlat cfg) (p.interplay.run respond) (p.onFlats cfg) := by
  induction p with
  | done a => exact .answer a
  | order d o next ih => exact (perform steady respond d o).bind ih
  | copy d next ih => exact (copy d).bind ih

end ActFlat

/-- A new bench acts like a flat device. -/
theorem ActFlat.create (memory : μ) (geometry : cfg.geometry.check = .ok ())
    (image : cfg.image = .absent) :
    ∃ w : Bench Counted Nat κ μ, create cfg memory = .ok w ∧ SeenAs w w.plain ∧
      w.plain.ActFlat cfg [Flat.fresh cfg] := by
  have made : Bench.create cfg memory = .ok (⟨cfg, BlockStore.empty, none,
      [some { device := Device.fresh Nat cfg }], [], [], memory⟩ : Bench Counted Nat κ μ) :=
    create_eq_ok.2 ⟨geometry, none, by rw [Config.firstImage, image], rfl⟩
  obtain ⟨seen, plain⟩ := plain_create made
  obtain ⟨-, _, image', same⟩ := create_eq_ok.1 plain
  rw [Config.firstImage, image] at image'
  cases image'
  refine ⟨_, made, seen, ?_⟩
  rw [same]
  refine ⟨rfl, rfl, rfl, fun {d F} hF => ?_⟩
  rcases d with _ | d
  · cases hF
    exact ⟨{ device := Device.fresh Block cfg }, rfl, rfl, Device.ActsFlat.fresh cfg⟩
  · cases hF

/-- What is shown of a bench is shown of the bench as it is seen. -/
theorem SeenAs.lookFlat {w : Bench Counted Nat κ μ} {v : Bench Plain Block κ μ} {W : List Flat}
    (h : SeenAs w v) (acts : v.ActFlat cfg W) : w.LookFlat cfg W := by
  intro d
  have look := acts.look d
  rwa [h.seen, view_plain] at look

end Bench

open Bench (ActFlat SeenAs Alike)

namespace Trial

/-- Trials see no holders. -/
theorem blind (p : Trial α) : (p.interplay : Interplay κ μ α).Blind Request.apartRefs := by
  induction p with
  | done a => exact trivial
  | order d o next ih =>
    refine ⟨fun x => ?_, ih⟩
    cases o <;> rfl
  | copy d next ih => exact ih

/-- Where neither crashes nor worn blocks leave a bit to chance, and there are no callbacks and no
image file, a device that stores only what was changed cannot be told from a flat device. Every
trial of it and of its copies gets the answers of the flat device, refusals and losses of power and
breaches of the contract among them, and it leaves the same contents and wear in every block, the
same counters and the same countdown. A trial may end after any of its steps, and the questions
about wear, bad blocks and checksums are steps, too: so all of this holds after every step. -/
theorem answers_flat (geometry : cfg.geometry.check = .ok ())
    (size : cfg.geometry.blockSize < Config.allocationLimit)
    (crash : cfg.crash = .noop ∨ cfg.crash = .outOfOrder)
    (worn : cfg.worn ≠ .progFlip ∧ cfg.worn ≠ .readFlip) (image : cfg.image = .absent)
    (memory : μ) :
    ∃ w : Bench Counted Nat Empty μ, Bench.create cfg memory = .ok w ∧
      w.LookFlat cfg [Flat.fresh cfg] ∧
      ∀ (p : Trial α) (reactions : Reactions Empty μ) (depth : Nat),
        ResultsAgree (fun _ v W => v.LookFlat cfg W) (fun _ _ => True)
          ((p.interplay.execute reactions depth).run w) ((p.onFlats cfg).run [Flat.fresh cfg]) := by
  obtain ⟨w, made, seen, acts⟩ := ActFlat.create (κ := Empty) memory geometry image
  have room := (Bench.wellFormed_create made).roomy
  rw [show w.config = cfg from acts.config] at room
  have steady : cfg.Steady := ⟨room size, crash, worn⟩
  refine ⟨w, made, seen.lookFlat acts, fun p reactions depth => ?_⟩
  have blind (code : Empty) (calls : Nat) (d : Handle) :
      (reactions code calls d).Blind Request.apartRefs := code.elim
  have shared := SeenAs.lockstep.executeInterplay (i := ()) (fun _ _ => Iff.rfl)
    (fun _ d => Alike.copy d) (fun _ d => Alike.drop d) blind depth p.blind w w.plain seen
  refine (shared.trans (ActFlat.trial steady _ p w.plain _ acts)).mono ?_ fun _ _ _ => trivial
  rintro _ v W ⟨u, seen, acts⟩
  exact seen.lookFlat acts

/-- Two blocks of two bytes that are worn out by their second erase. Lost power takes unsynced
updates back. -/
def wornSoon : Config where
  geometry := ⟨1, 1, 2, 2⟩
  eraseValue := some 0xff
  endurance := 1
  crash := .outOfOrder

/-- How an update failed. -/
def failure : Except Failure Unit → Option Failure
  | .ok _ => none
  | .error e => some e

/-- Programs a block that is not erased, loses power as it erases one after a sync and a copy, and
wears one out. -/
def ordeal : Trial (List (Option Failure) × List (Option Bytes)) :=
  .order 0 (.update (.prog 0 0 [1, 2])) fun _ => .order 0 .sync fun _ => .copy 0 fun e =>
    .order 0 (.update (.prog 0 1 [3])) fun unerased =>
      .order 0 (.update (.prog 1 0 [5, 6])) fun _ =>
        .order 0 (.setCountdown 1) fun _ => .order 0 (.update (.erase 0)) fun lost =>
          .order 0 (.read 1 0 2) fun returned => .order e (.read 0 0 2) fun kept =>
            .order 0 (.markBad 0) fun _ => .order 0 (.update (.prog 0 0 [4])) fun refused =>
              .done ([unerased, lost, refused].map failure, [returned, kept].map Except.toOption)

/-- What an ordeal is answered. -/
def ordealAnswers : List (Option Failure) × List (Option Bytes) :=
  ([some (.misuse (.notErased 0 1)), some (.fault .powerLoss), some (.fault (.corrupt 0))],
    [some [0xff, 0xff], some [1, 2]])

/-- What becomes of programs, copies and losses of power is what becomes of them on flat devices. -/
theorem answers_flat_ordeal :
    ∃ (w v : Bench Counted Nat Empty Unit) (W : List Flat), Bench.create wornSoon () = .ok w ∧
      (ordeal.interplay.execute nofun 0).run w = .ok ordealAnswers v ∧
      (ordeal.onFlats wornSoon).run [Flat.fresh wornSoon] = .ok ordealAnswers W ∧
      v.LookFlat wornSoon W := by
  obtain ⟨w, made, -, all⟩ := answers_flat (rfl : wornSoon.geometry.check = .ok ()) (by decide)
    (.inr rfl) ⟨nofun, nofun⟩ rfl ()
  have agree := all ordeal nofun 0
  have answers : (match (ordeal.onFlats wornSoon).run [Flat.fresh wornSoon] with
    | .ok a _ => decide (a = ordealAnswers)
    | .error .. => false) = true := by decide +kernel
  cases ran : (ordeal.onFlats wornSoon).run [Flat.fresh wornSoon] with
  | error h W =>
    rw [ran] at answers
    cases answers
  | ok a W =>
    rw [ran] at answers agree
    obtain rfl := of_decide_eq_true answers
    obtain ⟨v, same, look⟩ := agree.ok_right
    exact ⟨w, v, W, made, same, rfl, look⟩

end Trial

end FaultyFlash
