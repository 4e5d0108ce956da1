import FaultyFlash.Proofs.Containment.Histories
import FaultyFlash.Proofs.Sharing.Places
import FaultyFlash.Proofs.Strict.Benches

/-!
# The representation of devices

What is in the tables of a bench, as the devices keep them: a slot for every block, and in each of
them nothing or a reference to a block of the configured size whose bad bit is one of its bits. A
device remembers the table of its last sync just if it returns to it when it loses power. All of
this is so on every bench with a history. Therefore no request slips there, and none finds an
invariant broken.

## Main definitions

* `Slots.Represents`, `Bench.Represented`: tables, and benches, as they are kept

## Main results

* `Bench.History.represented`: whatever happened to a bench, its tables are kept
* `Bench.never_slips`: so strict benches do what benches do
-/

namespace FaultyFlash

open BlockStore (contents refs)

variable {κ μ α : Type} {cfg : Config}

/-- A table has a slot for every block, and refers to stored blocks of the configured size, whose
bad bits are among their bits. -/
structure Slots.Represents (cfg : Config) (s : Counted) (slots : Slots Nat) : Prop where
  length : slots.length = cfg.geometry.blockCount
  stored {r : Nat} (h : some r ∈ slots) : ∃ b, contents s r = some b ∧
    b.data.length = cfg.geometry.blockSize ∧ b.badBitPos < cfg.geometry.blockBits

/-- A table is kept if it is seen to be sound and refers to no block that is not stored. -/
theorem Slots.Sound.represents {s : Counted} {slots : Slots Nat}
    (sound : Slots.Sound cfg (BlockStore.look s slots)) (bits : cfg.geometry.blockBits ≠ 0)
    (held : ∀ r, some r ∈ slots → 0 < refs s r) : slots.Represents cfg s where
  length := (BlockStore.length_look s slots).symm.trans sound.length
  stored {r} hr := by
    obtain ⟨b, kept⟩ := Option.isSome_iff_exists.1 (Counted.isSome_contents (held r hr))
    have seen : some b ∈ BlockStore.look s slots :=
      List.mem_map.2 ⟨some r, hr, kept⟩
    have size := sound.size seen
    have same : b.bits = cfg.geometry.blockBits := congrArg (· * 8) size
    refine ⟨b, kept, size, ?_⟩
    rw [Block.badBitPos, same]
    exact Nat.mod_lt _ (Nat.pos_of_ne_zero bits)

namespace Bench

/-- All tables of a bench are kept, and its devices remember their last syncs just if they return to
them when they lose power. -/
structure Represented (cfg : Config) (w : Bench Counted Nat κ μ) : Prop where
  tables {slots : Slots Nat} (h : w.HasTable slots) : slots.Represents cfg w.store
  synced {d : Handle} {r : Rig Nat κ} (hr : w.rig? d = some r) :
    r.device.synced.isSome ↔ cfg.crash = .outOfOrder

variable {w : Bench Counted Nat κ μ} {ledger : Ledger} {m : μ}

/-- The blocks that a table of a bench refers to are held. -/
theorem held_pos {slots : Slots Nat} (h : w.HasTable slots) {r : Nat} (hr : some r ∈ slots) :
    0 < w.held r := by
  rcases h with ⟨d, rig, hd, rfl | synced⟩ | ⟨s, hs, rfl⟩
  · rw [held_eq hd]
    exact Nat.add_pos_left (Device.holds_pos hr) _
  · rw [held_eq hd]
    exact Nat.add_pos_left (Device.holds_synced_pos synced hr) _
  · refine Nat.add_pos_right _ (List.sum_pos_iff_exists_pos_nat.2 ?_)
    exact ⟨_, List.mem_map_of_mem hs, List.count_pos_iff.2 hr⟩

/-- The tables of a well-formed bench are sound, as they are seen. -/
theorem WellFormed.sound_look (h : w.WellFormed) {slots : Slots Nat} (table : w.HasTable slots) :
    Slots.Sound w.config (BlockStore.look w.store slots) := by
  rcases table with ⟨d, r, hr, rfl | synced⟩ | ⟨s, hs, rfl⟩
  · exact (h.devices (plain_of_rig? hr)).slots
  · refine (h.devices (plain_of_rig? hr)).synced ?_
    show r.device.synced.map _ = _
    rw [synced, Option.map_some]
  · exact h.tables (List.mem_map_of_mem hs)

/-- Whatever happened to a bench, its tables are kept. -/
theorem History.represented (h : History cfg m w ledger) : w.Represented cfg := by
  have wellFormed := h.wellFormed
  have remembers := h.plain.2.remembers
  obtain rfl : w.config = cfg := remembers.1
  constructor
  case tables =>
    intro slots table
    have bits : w.config.geometry.blockBits ≠ 0 :=
      Nat.mul_ne_zero (Geometry.of_check wellFormed.geometry).2.2.1 (by decide)
    refine (wellFormed.sound_look table).represents bits fun r hr => ?_
    rw [wellFormed.seen.counts]
    exact held_pos table hr
  case synced =>
    intro d r hr
    have point : r.device.synced.map (BlockStore.look w.store) = w.config.syncPoint (ledger d) :=
      remembers.2 d _ (plain_of_rig? hr)
    rw [← Option.isSome_map, point, Config.syncPoint]
    split <;> simp [*]

/-- A bench with a history stays sound, as it is seen. -/
theorem History.stays (h : History cfg m w ledger) :
    Strict.Stays cfg w.image.isSome w.plain.suspended w := by
  obtain rfl : w.config = cfg := h.plain.2.remembers.1
  exact h.wellFormed.through fun _ => False.elim

/-- Devices keep their representation, and operations on them neither slip nor find an invariant
broken.

Whatever interplays and their callbacks do to a bench with a history, such as a new one, goes on
with it. On a bench with a history every table, be it that of a device, that of a last sync or that
of a state set aside, has a slot for every block and refers to stored blocks of the configured size,
whose bad bits are among their bits; and a device remembers a last sync just if it returns to it
when it loses power. No probe between the steps of an interplay and of its callbacks, whatever
became of them, notices anything else.

Let moreover blocks be so small that they can be allocated, and the image file, if there is one, so
small that it is addressed by words of 64 bits with a sign. Then every interplay, with the callbacks
that it calls for, does on the strict bench what it does on the bench itself. So it stops only where
the bench does, for a device that is not there or for callbacks that nest too deep: no number but
the counters of bytes outgrows its word, no difference is negative, nothing is divided by zero, and
no invariant is found broken. -/
theorem never_slips :
    (∀ (cfg : Config) (m : μ) (w v : Bench Counted Nat κ μ) (ledger : Ledger)
      (reactions : Reactions κ μ) (depth : Nat) (p : Interplay κ μ α) (a : α),
      History cfg m w ledger → (p.execute reactions depth).run w = .ok a v →
        ∃ ledger', History cfg m v ledger') ∧
    ∀ (cfg : Config) (m : μ) (w : Bench Counted Nat κ μ) (ledger : Ledger), History cfg m w ledger →
      w.Represented cfg ∧
      ∀ (reactions : Reactions κ μ) (depth : Nat) (p : Interplay κ μ α),
        (∀ probe, Passes (Represented cfg) probe →
          ResultsAgree (fun _ v u => u = v ∧ v.Represented cfg) (fun _ _ => True)
            ((p.execute reactions depth).run w)
            ((p.executeProbed probe reactions depth).run w)) ∧
        (cfg.geometry.blockSize < Config.allocationLimit → cfg.Addressed w.image.isSome →
          (p.executeStrict reactions depth).run w =
              (Strict.lifted (p.execute reactions depth)).run w ∧
            ∀ stop v, (p.executeStrict reactions depth).run w = .error stop v →
              ∃ halt, stop = .halt halt) := by
  refine ⟨fun cfg m w v ledger reactions depth p a h run => h.execute run,
    fun cfg m w ledger h => ⟨h.represented, fun reactions depth p => ⟨fun probe passes => ?_,
      fun limit addressed => ?_⟩⟩⟩
  · have L : Lockstep (fun _ _ => True) Eq (fun _ => True) (fun _ x => x)
        fun _ : Unit => History.Has (S := Counted) (κ := κ) cfg m := History.lockstep
    have passes' (i : Unit) (u v : Bench Counted Nat κ μ) (h : History.Has cfg m u v) :
        probe.run v = .ok () v := by
      obtain ⟨rfl, _, history⟩ := h
      exact passes u history.represented
    refine (L.executeInterplayProbed (i := ()) passes' (fun _ _ => Iff.rfl)
      (fun _ => History.has_copy) (fun _ => History.has_drop) reactions depth p w w
      ⟨rfl, ledger, h⟩).mono ?_ fun _ _ => id
    rintro _ v _ ⟨rfl, _, history⟩
    exact ⟨rfl, history.represented⟩
  · have wellFormed := h.wellFormed
    obtain rfl : w.config = cfg := h.plain.2.remembers.1
    have bounded : w.config.Bounded w.image.isSome :=
      ⟨wellFormed.geometry, wellFormed.roomy limit, addressed⟩
    have same := (Strict.agrees_execute bounded reactions depth p w h.stays).1
    refine ⟨same, fun stop v stopped => ?_⟩
    rw [same, run_widen] at stopped
    split at stopped
    · cases stopped
    · next halt _ _ =>
      cases stopped
      exact ⟨halt, rfl⟩

/-- Two blocks of two bytes, with an image file. The second update loses power, which takes unsynced
updates back. -/
def imagedBlocks : Config where
  geometry := ⟨1, 1, 2, 2⟩
  eraseValue := some 0xff
  crash := .outOfOrder
  image := .writable
  countdown := 2

/-- Pins a bad bit, programs a block after a callback was installed, and loses power as it erases
the block. -/
def pinProgErase : Interplay Unit Unit (Except Failure Unit) :=
  .ask 0 (.setBadBit 1 3) fun _ => .install 0 (some ()) <|
    .ask 0 (.update (.prog 0 0 [1, 2])) fun _ => .ask 0 .sync fun _ =>
      .ask 0 (.update (.erase 0)) .done

/-- Copies the device that lost power, programs the copy, and resumes. -/
def copyProgResume : Reactions Unit Unit := fun _ _ d =>
  .copy d fun e => .ask e (.update (.prog 1 0 [3])) fun _ => .done (.ok .resume)

/-- What an interplay answers, and how many devices there are then. -/
def pinProgEraseOnce : BenchM Counted Nat Unit Unit (Option Unit × Nat) := do
  let x ← pinProgErase.execute copyProgResume 1
  return (x.toOption, (← get).rack.length)

theorem never_slips_pinProgErase : ∃ w v : Bench Counted Nat Unit Unit,
    create imagedBlocks () = .ok w ∧
      (pinProgErase.executeStrict copyProgResume 1).run w = .ok (.ok ()) v ∧
      (pinProgErase.executeProbed
        (insist (fun u => ∀ r, u.rig? 0 = some r → r.device.slots.length = 2) .exhausted)
        copyProgResume 1).run w = .ok (.ok ()) v ∧
      v.rack.length = 2 ∧ v.Represented imagedBlocks := by
  have runs : onNew imagedBlocks pinProgEraseOnce = some (some (), 2) := by decide +kernel
  obtain ⟨w, _, made, ran⟩ := onNew_eq_some.1 runs
  obtain ⟨x, v, ran, told⟩ := run_bind_eq_ok.1 ran
  obtain ⟨_, _, got, told⟩ := run_bind_eq_ok.1 told
  cases got
  simp only [EStateM.run_pure, EStateM.Result.ok.injEq, Prod.mk.injEq] at told
  obtain ⟨⟨done, two⟩, rfl⟩ := told
  obtain rfl := toOption_eq_some.1 done
  obtain ⟨goes, kept⟩ := never_slips (κ := Unit) (μ := Unit) (α := Except Failure Unit)
  have new : History imagedBlocks () w _ := .create made
  obtain ⟨ledger, later⟩ := goes _ _ w v _ _ _ _ _ new ran
  obtain ⟨probed, strictly⟩ := (kept imagedBlocks () w _ new).2 copyProgResume 1 pinProgErase
  have represented := (kept imagedBlocks () v ledger later).1
  have agree := probed
    (insist (fun u => ∀ r, u.rig? 0 = some r → r.device.slots.length = 2) .exhausted) fun u hu =>
      passes_insist _ _ u fun r hr => (hu.tables (.inl ⟨0, r, hr, .inl rfl⟩)).length
  rw [ran] at agree
  obtain ⟨u, checked, rfl, -⟩ := agree.ok_left
  have same := (strictly (by decide) fun _ => by decide).1
  rw [run_widen, ran] at same
  exact ⟨w, u, made, same, checked, two, represented⟩

end Bench

end FaultyFlash
