import FaultyFlash.Proofs.Landing
import FaultyFlash.Proofs.Powered
import FaultyFlash.Proofs.Tracking
import FaultyFlash.Proofs.Containment.Histories

/-!
# Out-of-order losses of power are contained

An out-of-order device that loses power during an update goes back to its last sync everywhere but
on the block of the update. There the update landed. However long ago the sync was, whatever
happened since, and whoever shares the blocks, neither side is torn.

## Main definitions

* `Device.Contained`: a loss of power that touched one block and returned the others

## Main results

* `Flash.contained_of_crash`: where nothing is shared, one loss of power is contained
* `Bench.containment`: so is every loss of power in every history of a bench
-/

namespace FaultyFlash

open Flash (answered)

variable {S R κ μ α : Type} {cfg : Config} {u : Update} {before : Slots Block}

/-- A device `D` came to `E` by losing power during an update: the update landed on its block, and
every other block is as in the table of the last sync. -/
structure Device.Contained (cfg : Config) (u : Update) (before : Slots Block) (D E : Device Block) :
    Prop where
  others {i : Nat} (h : i ≠ u.block) : E.slots[i]? = before[i]?
  landed : E.slots.stored cfg u.block = u.onto cfg (D.slots.stored cfg u.block)
  /-- Apart from its bytes, a block that was there is as before. -/
  block {b : Block} (h : D.slots[u.block]? = some (some b)) :
    ∃ bs, E.slots[u.block]? = some (some { b with data := bs })
  bytesRead : E.bytesRead = D.bytesRead
  bytesProgrammed : E.bytesProgrammed = D.bytesProgrammed
  bytesErased : E.bytesErased = D.bytesErased
  synced : D.synced = some before ∧ E.synced = some before

namespace Flash

variable {f g : Flash Plain Block}

/-- Where nothing is shared, a loss of power is contained. -/
theorem contained_of_crash (outOfOrder : cfg.crash = .outOfOrder)
    (synced : f.device.synced = some before) (h : (crash cfg u).run f = .ok () g) :
    Device.Contained cfg u before f.device g.device := by
  obtain ⟨r, wrecked, same⟩ := crash_ok h
  obtain ⟨t, torn, -, -, returns⟩ := wreck_ok wrecked
  obtain ⟨x, hx, inside, device⟩ := returns before synced
  rw [same, device]
  -- the block of the update stays as the tear left it
  have there : (before.set u.block x)[u.block]? = some x := List.getElem?_set_self inside
  have others {i : Nat} (hi : i ≠ u.block) : (before.set u.block x)[i]? = before[i]? :=
    List.getElem?_set_ne (Ne.symm hi)
  have certain : cfg.crash ≠ .metastable := by simp [outOfOrder]
  rcases tear_ok certain torn with ⟨rfl, same⟩ | ⟨b, _, y, owns, left, rfl⟩
  · refine ⟨others, ?_, fun {b} hb => ⟨b.data, ?_⟩, rfl, rfl, rfl, synced, synced⟩
    · rw [outOfOrder] at same
      rw [← same, Slots.stored, Slots.stored, there, hx]
    · rw [there, ← hx, hb]
  · rw [outOfOrder] at left
    obtain rfl := left
    have landed : (f.placed u.block { b with data := u.onto cfg b.data } y).device.slots[u.block]? =
        some (some { b with data := u.onto cfg b.data }) := List.getElem?_set_self owns.lt_length
    obtain rfl := Option.some.inj (landed.symm.trans hx)
    refine ⟨others, ?_, fun {c} hc => ⟨u.onto cfg b.data, ?_⟩, rfl, rfl, rfl, synced, synced⟩
    · rw [Slots.stored, there, owns.stored]
      rfl
    · rw [there, owns.eq_of_slot hc]

/-- An update that starts only counts. -/
theorem start_ok {how : Start} (h : (start cfg u).run f = .ok how g) :
    ∃ n, g.device = { f.device with countdown := n } := by
  have started := answered_start_eq cfg u f
  rw [answered_eq_ok.2 h] at started
  have leaves : Leaves id (permit cfg u : FlashM Plain Block _) := .permit cfg u
  have same : (answered (permit cfg u) f).2.device = f.device := leaves f
  have counted := congrArg (fun x => x.2.device) started
  refine ⟨left (answered (permit cfg u) f).2.device.countdown (answered (permit cfg u) f).1, ?_⟩
  rw [← same]
  exact counted

end Flash

namespace Bench

/-- Without a callback, an update that reports a loss of power started and crashed. -/
theorem update_lost [BlockStore S R] {w w' : Bench S R κ μ} {d : Handle} {r : Rig R κ}
    (hr : w.rig? d = some r) (bare : r.callback = none) {respond : Responder S R κ μ}
    (lost : (update respond d u).run w = .ok (.error (.fault .powerLoss)) w') :
    ∃ worn v, (on d (Flash.start · u)).run w = .ok (.ok (.powerLost worn)) v ∧
      (on d (Flash.crash · u)).run v = .ok (.ok ()) w' := by
  obtain ⟨how, v, started, lost⟩ := run_bind_eq_ok.1 lost
  rcases how with e | how
  · -- an update that is refused does not report a loss of power
    obtain ⟨f, ran, -⟩ := on_failed hr started
    cases lost
    exact absurd rfl (Flash.Powered.start w.config u _ _ _ ran)
  obtain ⟨f, -, rfl⟩ := on_ok hr started
  have there : (w.settle d r f).rig? d = some { r with device := f.device } := rig?_settle hr f
  rcases how with _ | worn | worn
  · cases lost
  · obtain ⟨g, done, -⟩ := on_failed there lost
    exact absurd rfl (Flash.Powered.complete _ worn u _ _ _ done)
  · refine ⟨worn, _, started, ?_⟩
    obtain ⟨y, t, interrupted, lost⟩ := run_bind_eq_ok.1 lost
    obtain ⟨_, _, looked, interrupted⟩ := run_bind_eq_ok.1 interrupted
    obtain ⟨same, rfl⟩ := run_rig_eq_ok.1 looked
    cases there.symm.trans same
    simp only [bare] at interrupted
    obtain ⟨z, t, crashed, answered⟩ := run_bind_eq_ok.1 interrupted
    rcases z with e | _
    · cases answered
      cases lost
      obtain ⟨g, done, -⟩ := on_failed there crashed
      exact absurd rfl (Flash.Powered.crash _ u _ _ _ done)
    · cases answered
      cases lost
      exact crashed

/-- A device on a bench is seen as the device of its handle where nothing is shared. -/
theorem view_of_plain {w : Bench Counted Nat κ μ} {d : Handle} {r : Rig Block κ}
    (h : w.plain.rig? d = some r) : w.view d = some r.device := by
  rw [view_eq, h]
  rfl

/-- Where nothing is shared, an update that reports a loss of power is contained. -/
theorem contained_of_lost (outOfOrder : cfg.crash = .outOfOrder) {v v' : Bench Plain Block κ μ}
    {ledger : Ledger} (agrees : History.Agrees cfg v ledger) {d : Handle} {r : Rig Block κ}
    (hr : v.rig? d = some r) {worn : Bool} {t : Bench Plain Block κ μ}
    (started : (on d (Flash.start · u)).run v = .ok (.ok (.powerLost worn)) t)
    (crashed : (on d (Flash.crash · u)).run t = .ok (.ok ()) v') :
    ∃ s, v'.rig? d = some s ∧ Device.Contained cfg u (ledger d) r.device s.device := by
  obtain ⟨rfl, synced⟩ := agrees
  obtain ⟨f, ran, rfl⟩ := on_ok hr started
  have there : (v.settle d r f).rig? d = some { r with device := f.device } := rig?_settle hr f
  obtain ⟨g, done, rfl⟩ := on_ok there crashed
  have done : (Flash.crash v.config u).run f = .ok () g := done
  obtain ⟨n, counted⟩ := Flash.start_ok ran
  -- until it crashed the device only counted
  have device : f.device = { r.device with countdown := n } := counted
  have before : f.device.synced = some (ledger d) := by
    rw [device]
    exact synced d r hr
  obtain ⟨others, landed, block, read, programmed, erased, kept⟩ :=
    Flash.contained_of_crash outOfOrder before done
  refine ⟨_, rig?_settle there g, ?_⟩
  rw [device] at landed block read programmed erased kept
  exact ⟨others, landed, block, read, programmed, erased, kept⟩

/-- Losses of power of out-of-order devices are contained.

Whatever interplays and their callbacks do to a new bench, they go through a history, and all
histories that lead to a bench tell the same of what its devices synced last. On a bench with a
history, let an update of a device without a callback report a loss of power. Then every other block
of the device is seen as it was at the last sync, or at the making of the device if there was none;
the block of the update is seen with its region exchanged, and otherwise as before if it was there;
the byte counters and the last sync are as before. -/
theorem containment (outOfOrder : cfg.crash = .outOfOrder) (m : μ) :
    (∀ (reactions : Reactions κ μ) (depth : Nat) (p : Interplay κ μ α)
      (w w' : Bench Counted Nat κ μ) (a : α), create cfg m = .ok w →
        (p.execute reactions depth).run w = .ok a w' → ∃ ledger, History cfg m w' ledger) ∧
    (∀ (w : Bench Counted Nat κ μ) (ledger ledger' : Ledger) (d : Handle),
      History cfg m w ledger → History cfg m w ledger' → w.isLive d → ledger d = ledger' d) ∧
    ∀ (w w' : Bench Counted Nat κ μ) (ledger : Ledger) (d : Handle) (u : Update)
      (respond : Responder Counted Nat κ μ), History cfg m w ledger →
        (w.rig? d).map Rig.callback = some none →
        (perform respond d (.update u)).run w = .ok (.error (.fault .powerLoss)) w' →
        ∃ D E, w.view d = some D ∧ w'.view d = some E ∧
          Device.Contained cfg u (ledger d) D E := by
  refine ⟨fun reactions depth p w w' a made run => ?_, fun w ledger ledger' d h h' live => ?_, ?_⟩
  · exact (History.create made).execute run
  · obtain ⟨r, hr⟩ := Option.isSome_iff_exists.1 ((isLive_plain w d).trans live)
    have told := (History.synced outOfOrder h.plain.2).2 d r hr
    have told' := (History.synced outOfOrder h'.plain.2).2 d r hr
    exact Option.some.inj (told.symm.trans told')
  · intro w w' ledger d u respond h bare lost
    obtain ⟨r, hr, callback⟩ := Option.map_eq_some_iff.1 bare
    obtain ⟨worn, v, started, crashed⟩ := update_lost hr callback lost
    -- the update starts and crashes as where nothing is shared
    obtain ⟨seen, history⟩ := h.plain
    have L := SeenAs.lockstep (κ := κ) (μ := μ)
    obtain ⟨started, seen⟩ := Alike.run_plain (L.start (i := ()) rfl u) seen started
    obtain ⟨crashed, seen⟩ := Alike.run_plain (L.crash (i := ()) rfl u) seen crashed
    have there : w.plain.rig? d = some (r.plain w.store) := by
      rw [rig?_plain, hr]
      rfl
    obtain ⟨s, hs, contained⟩ := contained_of_lost outOfOrder
      (History.synced outOfOrder history) there started crashed
    exact ⟨_, _, view_of_plain there, view_of_plain hs, contained⟩

/-- An out-of-order device of two blocks of two bytes, which loses power at its third update. -/
def scattered : Config where
  geometry := ⟨1, 1, 2, 2⟩
  eraseValue := some 0xff
  countdown := 3
  crash := .outOfOrder

/-- Programs the first block, syncs, and programs the second. -/
def progSyncProg : Interplay Unit Unit Unit :=
  .ask 0 (.update (.prog 0 0 [1, 2])) fun _ => .ask 0 .sync fun _ =>
    .ask 0 (.update (.prog 1 0 [3, 4])) fun _ => .done ()

/-- Then power is lost at an erase of the first block. Answers with the blocks before and after. -/
def thenErase : BenchM Counted Nat Unit Unit (Slots Block × Slots Block) := do
  progSyncProg.execute (fun _ _ _ => .done (.ok .resume)) 0
  match (← get).rig? 0 with
  | some { callback := none, .. } =>
    let before := (← get).view 0
    match ← perform (fun _ _ => throw .exhausted) 0 (.update (.erase 0)) with
    | .error (.fault .powerLoss) =>
      return (before.elim [] Device.slots, ((← get).view 0).elim [] Device.slots)
    | _ => throw .exhausted
  | _ => throw .exhausted

theorem containment_thenErase : ∃ (w w' : Bench Counted Nat Unit Unit) (ledger : Ledger)
    (D E : Device Block), History scattered () w ledger ∧
      (perform (fun _ _ => throw .exhausted) 0 (.update (.erase 0))).run w =
        .ok (.error (.fault .powerLoss)) w' ∧
      w.view 0 = some D ∧ w'.view 0 = some E ∧
      Device.Contained scattered (.erase 0) (ledger 0) D E ∧
      D.slots = [some ⟨0, false, 15, [1, 2]⟩, some ⟨0, false, 15, [3, 4]⟩] ∧
      E.slots = [some ⟨0, false, 15, [0xff, 0xff]⟩, none] := by
  obtain ⟨w₀, made⟩ : ∃ w : Bench Counted Nat Unit Unit, create scattered () = .ok w := ⟨_, rfl⟩
  have ends : (match (create scattered () : Except Failure (Bench Counted Nat Unit Unit)) with
    | .ok w => match thenErase.run w with
      | .ok x _ => decide (x = ([some ⟨0, false, 15, [1, 2]⟩, some ⟨0, false, 15, [3, 4]⟩],
          [some ⟨0, false, 15, [0xff, 0xff]⟩, none]))
      | .error .. => false
    | .error _ => false) = true := by decide +kernel
  simp only [made] at ends
  rcases ran : thenErase.run w₀ with ⟨x, w'⟩ | ⟨e, w'⟩
  case error =>
    rw [ran] at ends
    cases ends
  rw [ran] at ends
  obtain ⟨_, w, played, rest⟩ := run_bind_eq_ok.1 ran
  obtain ⟨_, _, got, rest⟩ := run_bind_eq_ok.1 rest
  cases got
  split at rest
  case h_2 => cases rest
  next device hr =>
  obtain ⟨_, _, got, rest⟩ := run_bind_eq_ok.1 rest
  cases got
  obtain ⟨lost, _, asked, rest⟩ := run_bind_eq_ok.1 rest
  split at rest
  case h_2 => cases rest
  obtain ⟨_, _, got, rest⟩ := run_bind_eq_ok.1 rest
  cases got
  cases rest
  have outOfOrder : scattered.crash = .outOfOrder := rfl
  obtain ⟨histories, -, contained⟩ := containment (κ := Unit) (α := Unit) outOfOrder ()
  obtain ⟨ledger, history⟩ := histories _ _ progSyncProg w₀ w () made played
  obtain ⟨D, E, hD, hE, inside⟩ := contained w w' ledger 0 (.erase 0) _ history
    (by rw [hr]; rfl) asked
  obtain ⟨before, after⟩ := Prod.mk.inj (of_decide_eq_true ends)
  rw [hD] at before
  rw [hE] at after
  exact ⟨w, w', ledger, D, E, history, asked, hD, hE, inside, before, after⟩

end Bench

end FaultyFlash
