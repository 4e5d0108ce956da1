import FaultyFlash.Proofs.Containment.Aborted
import FaultyFlash.Proofs.Outcomes.Resumed

/-!
# What a prog stores

A prog that is done has its data stored, unless a worn block ignored it, or inverted the bad bit of
it. That is so whether or not power was lost on the way, and whatever the callback did that resumed
the prog. All else of the device is as it was when the prog started.

## Main definitions

* `Device.Stores`: what a prog leaves of a device

## Main results

* `Update.Completes.stores`: a prog that is completed stores its data
* `Bench.progs_store`: so does every prog that is done, on every bench that can be reached
-/

namespace FaultyFlash

variable {κ μ β : Type} {cfg : Config} {block off : Nat} {data : Bytes} {D E : Device Block}

/-- The bad bit of the block at an address comes out inverted by a prog of a region. -/
def Device.Flips (cfg : Config) (D : Device Block) (block off len : Nat) (b : Block) : Prop :=
  D.slots[block]?.join = some b ∧ b.Flips cfg (cfg.isWorn b.wear) off len

/-- A device `D` came to `E` by a prog of a block. -/
structure Device.Stores (cfg : Config) (block off : Nat) (data : Bytes) (D E : Device Block) :
    Prop where
  stored (h : ∀ b, ¬ D.Flips cfg block off data.length b) :
    (E.slots.stored cfg block).region off data.length = data
  /-- The bad bit that a worn block inverts is the only bit that differs. -/
  flipped {b : Block} (h : D.Flips cfg block off data.length b) :
    Bytes.DifferAt (b.badBitPos - off * 8) data
      ((E.slots.stored cfg block).region off data.length)
  outside {k : Nat} (h : k < off ∨ off + data.length ≤ k) :
    (E.slots.stored cfg block)[k]? = (D.slots.stored cfg block)[k]?
  size : (E.slots.stored cfg block).length = (D.slots.stored cfg block).length
  others {i : Nat} (h : i ≠ block) : E.slots[i]? = D.slots[i]?
  wear : E.slots.wear block = D.slots.wear block
  metastable : E.slots.metastable block ↔
    cfg.isBad D.slots[block]?.join ∧ cfg.worn = .readFlip
  badBit {b : Block} (h : D.slots[block]? = some (some b)) :
    ∃ c, E.slots[block]? = some (some c) ∧ c.badBit = b.badBit

/-- A block that was never written is not worn out. So if the bad bit of the block that a prog
changes comes out inverted, the block was there. -/
theorem Device.Owns.flips {b : Block} {len : Nat} (owns : D.Owns cfg block b)
    (h : b.Flips cfg (cfg.isBad D.slots[block]?.join) off len) : D.Flips cfg block off len b := by
  rcases owns with there | ⟨unwritten, -⟩
  · rw [there] at h
    exact ⟨by rw [there, Option.join_some], h⟩
  · rw [unwritten] at h
    exact absurd h.1 Bool.false_ne_true

/-- A prog that is completed on the blocks of a device stores its data. -/
theorem Update.Completes.stores
    (h : (Update.prog block off data).Completes cfg (cfg.isBad D.slots[block]?.join) D E) :
    D.Stores cfg block off data E := by
  obtain ⟨f, g, slots, -, completed, rfl⟩ := h
  obtain ⟨b, c, owns, changed, left⟩ := Flash.complete_prog_ok completed
  have owns : D.Owns cfg block b := by rwa [Device.Owns, slots] at owns
  rw [slots] at left
  have prog := Flash.programmed_ok changed
  have there : g.device.slots[block]? = some (some c) := by
    rw [left]
    exact List.getElem?_set_self owns.lt_length
  have bytes : g.device.slots.stored cfg block = c.data := Slots.stored_of_slot there
  constructor
  case stored =>
    intro spared
    rw [bytes]
    exact prog.stored fun flips => spared b (owns.flips flips)
  case flipped =>
    rintro b' ⟨found, flips⟩
    obtain rfl := owns.eq_of_slot (Option.join_eq_some_iff.1 found)
    rw [bytes]
    refine prog.flipped ?_
    rwa [found]
  case outside =>
    intro k hk
    rw [bytes, owns.stored]
    exact prog.outside hk
  case size => rw [bytes, owns.stored, prog.length]
  case others =>
    intro i hi
    rw [left]
    exact List.getElem?_set_ne hi.symm
  case wear =>
    rw [owns.wear, Slots.wear, there]
    exact prog.wear
  case metastable =>
    rw [Slots.metastable, there]
    exact prog.metastable
  case badBit =>
    intro b' found
    obtain rfl := owns.eq_of_slot found
    exact ⟨c, there, prog.badBit⟩

namespace Bench

/-- A prog that is done stores its data.

Benches are well formed all along every run from the making of a bench on, also where callbacks
run. On a well-formed bench, let a prog of a device be done, be it that no power was lost or that
callbacks resumed it. Then the block was worn out and ignored the prog, and nothing at all has
changed, or the prog left its data on the device as it was when the prog started. What the device
remembers of its last sync is as it was, too, if the prog was not the last of the countdown. -/
theorem progs_store :
    (∀ (cfg : Config) (memory : μ) (w : Bench Counted Nat κ μ)
      (probe : BenchM Counted Nat κ μ Unit),
      create cfg memory = .ok w → Passes WellFormed probe → w.WellFormed ∧
        ∀ (reactions : Reactions κ μ) (depth : Nat) (p : Interplay κ μ β),
          ResultsAgree (fun _ v u => u = v ∧ v.WellFormed) (fun _ _ => True)
            ((p.execute reactions depth).run w) ((p.executeProbed probe reactions depth).run w)) ∧
    ∀ (w v : Bench Counted Nat κ μ) (d : Handle) (D : Device Block) (block off : Nat)
      (data : Bytes) (reactions : Reactions κ μ) (depth : Nat),
      w.WellFormed → w.view d = some D →
      (perform (respondBy (fun respond code calls d => (reactions code calls d).run respond) depth)
        d (.update (.prog block off data))).run w = .ok (.ok ()) v →
      let ignored := w.config.isBad D.slots[block]?.join ∧ w.config.worn = .progNoop
      (ignored ∧ v = w) ∨
        (¬ ignored ∧ ∃ E, v.view d = some E ∧ D.Stores w.config block off data E ∧
          (w.left d ≠ 1 → E.synced = D.synced)) := by
  refine ⟨fun cfg memory w probe made passes => ?_, fun w v d D block off data reactions depth
    wellFormed view run => ?_⟩
  · have new := wellFormed_create made
    exact ⟨new, new.executeProbed passes⟩
  · obtain ⟨s, hs, rfl⟩ := Option.map_eq_some_iff.1 view
    intro ignored
    have noop : Request.Ignored w.config
        (s.device.plain w.store).slots[block]?.join (.update (.prog block off data)) ↔ ignored :=
      and_congr_right fun _ => Option.some_inj.trans eq_comm
    rcases wellFormed.update_ok hs (steady_respondBy reactions depth) run with
      ⟨voided, same⟩ | ⟨goes, E, left, completes, synced⟩
    · exact .inl ⟨noop.1 voided, same⟩
    · refine .inr ⟨fun voided => goes (noop.2 voided), E, left, completes.stores, fun more => ?_⟩
      refine synced fun last => more ?_
      rw [left_of_rig? hs, last]
      rfl

/-- A device of one block of two bytes, whose worn blocks invert their bad bits and whose first
update loses power. -/
def warped : Config where
  geometry := ⟨1, 1, 2, 1⟩
  eraseValue := some 0xff
  endurance := 1
  worn := .progFlip
  countdown := 1
  crash := .mostBits

/-- Wears the block out, pins its bad bit, and installs a callback. -/
def wearAndPin : Interplay Unit Unit Unit :=
  .ask 0 (.markBad 0) fun _ => .ask 0 (.setBadBit 0 3) fun _ => .install 0 (some ()) (.done ())

/-- Programs the block; a callback resumes. -/
def progAndResume : BenchM Counted Nat Unit Unit (Except Failure Unit) :=
  perform (respondBy (fun respond _ _ _ => (Interplay.done (.ok .resume)).run respond) 1) 0
    (.update (.prog 0 0 [1, 2]))

/-- What is seen before the prog, and whether it is done. -/
def seenAndDone :
    BenchM Counted Nat Unit Unit (Config × Option (Slots Block) × Nat × Option Unit) := do
  wearAndPin.execute (fun _ _ _ => .done (.ok .resume)) 0
  let w ← get
  return (w.config, (w.view 0).map Device.slots, w.left 0, (← progAndResume).toOption)

theorem progs_store_warped : ∃ (w v : Bench Counted Nat Unit Unit) (E : Device Block),
    (w.view 0).map Device.slots = some [some ⟨2, false, 0x80000003, [0xff, 0xff]⟩] ∧ w.left 0 = 1 ∧
    progAndResume.run w = .ok (.ok ()) v ∧ v.view 0 = some E ∧
    Bytes.DifferAt 3 [1, 2] ((E.slots.stored warped 0).region 0 2) := by
  have runs : onNew warped seenAndDone =
      some (warped, some [some ⟨2, false, 0x80000003, [0xff, 0xff]⟩], 1, some ()) := by
    decide +kernel
  obtain ⟨w₀, _, made, ran⟩ := onNew_eq_some.1 runs
  obtain ⟨_, w, worn, ran⟩ := run_bind_eq_ok.1 ran
  obtain ⟨_, _, got, ran⟩ := run_bind_eq_ok.1 ran
  cases got
  obtain ⟨answer, v, ran, told⟩ := run_bind_eq_ok.1 ran
  simp only [EStateM.run_pure, EStateM.Result.ok.injEq, Prod.mk.injEq] at told
  obtain ⟨⟨config, slots, left, done⟩, rfl⟩ := told
  obtain rfl := toOption_eq_some.1 done
  obtain ⟨D, view, hD⟩ := Option.map_eq_some_iff.1 slots
  obtain ⟨reached, stores⟩ := progs_store (κ := Unit) (μ := Unit) (β := Unit)
  have wellFormed : w.WellFormed := by
    have agree := (reached warped () w₀ (pure ()) made fun _ _ => rfl).2
      (fun _ _ _ => .done (.ok .resume)) 0 wearAndPin
    rw [worn] at agree
    obtain ⟨_, _, h⟩ := agree.ok_left
    exact h.2
  rcases stores w v 0 D 0 0 [1, 2] (fun _ _ _ => .done (.ok .resume)) 1 wellFormed view ran with
    ⟨ignored, -⟩ | ⟨-, E, after, stored, -⟩
  · rw [config] at ignored
    cases ignored.2
  · refine ⟨w, v, E, slots, left, ran, after, ?_⟩
    rw [config] at stored
    have flips : D.Flips warped 0 0 2 ⟨2, false, 0x80000003, [0xff, 0xff]⟩ :=
      ⟨by rw [hD]; rfl, by decide, rfl, by decide⟩
    exact stored.flipped flips

end Bench

end FaultyFlash
