import FaultyFlash.Proofs.Containment.Aborted
import FaultyFlash.Proofs.Outcomes.Requests
import FaultyFlash.Proofs.PingPong.Records
import FaultyFlash.Proofs.Reads.Pieces
import FaultyFlash.Proofs.Wear.Blocks

/-!
# Torn records

A record reads back, what reads as a record is its bytes, and a record of which one bit is inverted
reads as none. So a prog of a record to erased flash that loses power leaves no record behind, where
the loss leaves one bit of the update, or all but one: the first is erased flash but for a bit, and
the second is the record but for a bit.

## Main definitions

* `Device.LeftTorn`: what a device holds at the start of a block reads as no record
* `Bench.NoRecord`: so does what a device of a bench holds there, and what is read there

## Main results

* `PingPong.Record.decode_of_differAt`: a record of which one bit is inverted reads as none
* `PingPong.Record.decode_of_breaks`: neither does what a loss of power leaves of a record
* `Flash.leftTorn_of_wreck`: where nothing is shared, a loss of power leaves no record
* `Bench.torn_records`: torn records are not taken for records, on all benches with a history
-/

namespace FaultyFlash

open Flash (answered)
open PingPong (Record)

variable {κ μ α : Type} {cfg : Config}

/-- Buffers that differ in one bit differ in one byte. -/
theorem Bytes.DifferAt.near {bs cs : Bytes} {k : Nat} (h : Bytes.DifferAt k bs cs) :
    Bytes.Near bs cs := by
  obtain ⟨length, differ⟩ := h
  refine ⟨length, k / 8, fun i hi => ?_⟩
  by_cases inside : i < bs.length
  · have inside' : i < cs.length := length ▸ inside
    rw [List.getElem?_eq_getElem inside, List.getElem?_eq_getElem inside']
    refine congrArg some (eq_of_byteDiff (List.filter_eq_nil_iff.2 fun j hj differs => hi ?_))
    -- a bit in which the bytes differ is the one in which the buffers differ
    have small := List.mem_range.1 hj
    have byte : (8 * i + j) / 8 = i := by omega
    have place : (8 * i + j) % 8 = j := by omega
    have here : 8 * i + j = k := by
      refine (differ _).1 ?_
      rw [bit, bit, byte, place, List.getElem?_eq_getElem inside, List.getElem?_eq_getElem inside',
        Option.getD_some, Option.getD_some]
      rw [UInt8.toNat_xor, Nat.testBit_xor] at differs
      exact bne_iff_ne.1 differs
    omega
  · rw [List.getElem?_eq_none (Nat.not_lt.1 inside),
      List.getElem?_eq_none (length ▸ Nat.not_lt.1 inside)]

namespace PingPong.Record

variable {r : Record} {bs : Bytes} {k : Nat}

/-- A record of which one bit is inverted reads as none. -/
theorem decode_of_differAt (h : Bytes.DifferAt k r.encode bs) : decode bs = none := by
  rcases hs : decode bs with _ | s
  · rfl
  -- it could only read as the record, and then it would be its bytes
  obtain rfl := decode_of_near h.near hs
  have same := eq_encode hs (h.1.trans s.length_encode)
  exact absurd (congrArg (Bytes.bit · k) same) ((h.2 k).2 rfl)

/-- What a loss of power leaves of a record on erased flash reads as none, if it leaves one bit or
all but one. -/
theorem decode_of_breaks {crash : CrashBehavior} {v : UInt8}
    (tears : crash = .someBits ∨ crash = .mostBits)
    (h : crash.Breaks (List.replicate size v) r.encode bs) : decode bs = none := by
  have erased {cs : Bytes} (near : Bytes.Near (List.replicate size v) cs) : decode cs = none :=
    decode_near_replicate near (by decide)
  rcases tears with rfl | rfl
  · have other : List.replicate size v ≠ r.encode := by
      intro same
      have read := erased (.refl _)
      rw [same, decode_encode] at read
      cases read
    obtain ⟨k, differ, -⟩ := h.2 other
    exact erased differ.near
  · obtain ⟨k, differ⟩ := h.2 (List.ne_nil_of_length_pos (by rw [length_encode]; decide))
    exact decode_of_differAt differ

end PingPong.Record

/-- What a device `E` that was `D` holds at the start of a block reads as no record. The block is
worn as it was, and its reads are as certain as they were. -/
structure Device.LeftTorn (cfg : Config) (block : Nat) (D E : Device Block) : Prop where
  inside : block < cfg.geometry.blockCount
  stored : Record.decode ((E.slots.stored cfg block).region 0 Record.size) = none
  wear : E.slots.wear block = D.slots.wear block
  metastable : E.slots.metastable block = D.slots.metastable block

/-- A prog of a record to erased flash that loses power leaves no record behind. -/
theorem Flash.leftTorn_of_wreck {f g : Flash Plain Block} {block : Nat} {x : UInt8} {r : Record}
    (tears : cfg.crash = .someBits ∨ cfg.crash = .mostBits) (sound : f.device.Sound cfg)
    (room : Record.size ≤ cfg.geometry.blockSize)
    (erased : (f.device.slots.stored cfg block).region 0 Record.size =
      List.replicate Record.size x)
    (h : (wreck cfg (.prog block 0 r.encode)).run f = .ok () g) :
    f.device.LeftTorn cfg block g.device := by
  have lands : cfg.crash ≠ .noop := by rcases tears with h | h <;> rw [h] <;> decide
  have certain : cfg.crash ≠ .metastable := by rcases tears with h | h <;> rw [h] <;> decide
  have some : ((Update.prog block 0 r.encode).region cfg).2 ≠ 0 := by
    show r.encode.length ≠ 0
    rw [r.length_encode]
    decide
  obtain ⟨t, torn, stays⟩ := torn_of_wreck h
  rcases torn_of_tear torn with ⟨-, none | noop⟩ | ⟨-, b, c, y, owns, breaks, rfl⟩
  · exact absurd none some
  · exact absurd noop lands
  have owns : f.device.Owns cfg block b := owns
  have there : g.device.slots[block]? = .some (.some c) :=
    stays.trans (List.getElem?_set_self owns.lt_length)
  have held : 0 + r.encode.length ≤ b.data.length := by
    rw [← owns.stored, sound.slots.length_stored, r.length_encode, Nat.zero_add]
    exact room
  obtain ⟨wear, metastable, -⟩ := breaks.marks
  obtain ⟨-, breaks⟩ := breaks.breaks some held
  refine ⟨sound.slots.length ▸ owns.lt_length, ?_, ?_, ?_⟩
  · rw [Slots.stored_of_slot there]
    refine Record.decode_of_breaks tears (r := r) (v := x) ?_
    rw [← erased, owns.stored]
    exact breaks
  · rw [owns.wear, Slots.wear, there]
    exact wear
  · rw [owns.metastable, Slots.metastable, there]
    exact metastable certain

/-- Only the blocks matter to what is left torn. -/
theorem Device.LeftTorn.congr {D D' E : Device Block} {block : Nat} (h : D.LeftTorn cfg block E)
    (slots : D'.slots = D.slots) : D'.LeftTorn cfg block E :=
  ⟨h.inside, h.stored, slots ▸ h.wear, slots ▸ h.metastable⟩

namespace Bench

/-- A device that was `D` holds no record at the start of a block, and reads as none, unless reads
of the block are left to chance. -/
structure NoRecord (cfg : Config) (respond : Responder Counted Nat κ μ) (d : Handle) (block : Nat)
    (D : Device Block) (v : Bench Counted Nat κ μ) : Prop where
  stored : ∃ E, v.view d = some E ∧
    Record.decode ((E.slots.stored cfg block).region 0 Record.size) = none
  read (certain : D.slots.metastable block = false) : ∃ bs t,
    (perform respond d (.read block 0 Record.size)).run v = .ok (.ok bs) t ∧
      Record.decode bs = none

variable {d : Handle} {w v : Bench Counted Nat κ μ} {ledger : Ledger} {m : μ} {D : Device Block}
  {u : Update} {block : Nat} {x : UInt8} {r : Record}

section

variable (h : History cfg m w ledger) (view : w.view d = some D)

include h view

/-- An update that starts only counts. -/
theorem History.start_ok {how : Start} (run : (on d (Flash.start · u)).run w = .ok (.ok how) v) :
    ∃ n, v.view d = some { D with countdown := n } := by
  obtain ⟨q, -, rfl, there⟩ := rig?_of_view view
  have config : w.plain.config = cfg := h.plain.2.remembers.1
  obtain ⟨g, started, same⟩ := on_ok there
    (Alike.run_plain (SeenAs.lockstep.start (i := ()) rfl u) h.wellFormed.seen run).1
  obtain ⟨n, device⟩ := Flash.start_ok started
  refine ⟨n, ?_⟩
  rw [view_eq, same, rig?_settle there, Option.map_some, device]
  rfl

/-- A crash during a prog of a record to erased flash leaves no record behind. -/
theorem History.torn_record (tears : cfg.crash = .someBits ∨ cfg.crash = .mostBits)
    (room : Record.size ≤ cfg.geometry.blockSize)
    (erased : (D.slots.stored cfg block).region 0 Record.size = List.replicate Record.size x)
    (run : (on d (Flash.crash · (.prog block 0 r.encode))).run w = .ok (.ok ()) v) :
    ∃ E, v.view d = some E ∧ D.LeftTorn cfg block E := by
  obtain ⟨sound, -⟩ := h.sound view
  obtain ⟨q, -, rfl, there⟩ := rig?_of_view view
  have config : w.plain.config = cfg := h.plain.2.remembers.1
  obtain ⟨g, crashed, same⟩ := on_ok there
    (Alike.run_plain (SeenAs.lockstep.crash (i := ()) rfl _) h.wellFormed.seen run).1
  rw [config] at crashed
  obtain ⟨t, wrecked, left⟩ := Flash.crash_ok crashed
  refine ⟨g.device, ?_, ?_⟩
  · rw [view_eq, same, rig?_settle there]
    rfl
  · rw [left]
    exact Flash.leftTorn_of_wreck tears sound room erased wrecked

/-- Likewise if the prog is over and reports the loss. -/
theorem History.torn_record_of_lost (tears : cfg.crash = .someBits ∨ cfg.crash = .mostBits)
    (room : Record.size ≤ cfg.geometry.blockSize)
    (erased : (D.slots.stored cfg block).region 0 Record.size = List.replicate Record.size x)
    (bare : (w.rig? d).map Rig.callback = some none) {respond : Responder Counted Nat κ μ}
    (lost : (perform respond d (.update (.prog block 0 r.encode))).run w =
      .ok (.error (.fault .powerLoss)) v) :
    ∃ E ledger', History cfg m v ledger' ∧ v.view d = some E ∧ D.LeftTorn cfg block E := by
  obtain ⟨q, hq, callback⟩ := Option.map_eq_some_iff.1 bare
  obtain ⟨worn, t, started, crashed⟩ := update_lost hq callback lost
  obtain ⟨n, view'⟩ := h.start_ok view started
  -- the prog started and crashed, which are two acts of the history
  have start : (Act.start d (.prog block 0 r.encode)).perform.run w = .ok () t :=
    run_map_eq_ok.2 ⟨_, started, rfl⟩
  have crash : (Act.crash d (.prog block 0 r.encode)).perform.run t = .ok () v :=
    run_map_eq_ok.2 ⟨_, crashed, rfl⟩
  obtain ⟨E, after, torn⟩ := (h.act _ start).torn_record view' tears room erased crashed
  exact ⟨E, _, (h.act _ start).act _ crash, after, torn.congr rfl⟩

/-- What is left torn on a good block is read as no record, unless reads of it are left to
chance. -/
theorem History.read_torn {D₀ : Device Block} (torn : D₀.LeftTorn cfg block D)
    (room : Record.size ≤ cfg.geometry.blockSize)
    (aligned : Record.size % cfg.geometry.readSize = 0)
    (good : cfg.isBad D₀.slots[block]?.join = false) (certain : D₀.slots.metastable block = false)
    (respond : Responder Counted Nat κ μ) :
    ∃ bs t, (perform respond d (.read block 0 Record.size)).run w = .ok (.ok bs) t ∧
      Record.decode bs = none := by
  have allowed : cfg.geometry.Allows cfg.geometry.readSize block 0 Record.size :=
    ⟨torn.inside, ⟨Nat.zero_mod _, aligned⟩, by rwa [Nat.zero_add]⟩
  have spared : ¬ Request.Fails cfg D.slots[block]?.join (.read block 0 Record.size) := by
    rintro ⟨bad, -⟩
    rw [Slots.isBad_eq, torn.wear, ← Slots.isBad_eq, good] at bad
    cases bad
  obtain ⟨q, bs, y, -, run, sensed⟩ := h.read view respond allowed spared
  refine ⟨bs, _, run, ?_⟩
  rw [(sensed.steady fun b found wavers => ?_).1]
  · exact torn.stored
  · have metastable := torn.metastable.trans certain
    rw [Slots.metastable, found] at metastable
    exact Bool.false_ne_true (metastable.symm.trans wavers.1)

/-- So the device holds no record there. -/
theorem History.noRecord {D₀ : Device Block} (torn : D₀.LeftTorn cfg block D)
    (room : Record.size ≤ cfg.geometry.blockSize)
    (aligned : Record.size % cfg.geometry.readSize = 0)
    (good : cfg.isBad D₀.slots[block]?.join = false) (respond : Responder Counted Nat κ μ) :
    NoRecord cfg respond d block D₀ w :=
  ⟨⟨D, view, torn.stored⟩, fun certain =>
    h.read_torn view torn room aligned good certain respond⟩

/-- A prog of a record to erased flash loses power where it takes the last of the countdown. -/
theorem History.loses (limit : cfg.geometry.blockSize < Config.allocationLimit)
    (tears : cfg.crash = .someBits ∨ cfg.crash = .mostBits)
    (room : Record.size ≤ cfg.geometry.blockSize) (inside : block < cfg.geometry.blockCount)
    (aligned : Record.size % cfg.geometry.progSize = 0) (value : cfg.eraseValue = some x)
    (erased : (D.slots.stored cfg block).region 0 Record.size = List.replicate Record.size x)
    (good : cfg.isBad D.slots[block]?.join = false)
    (bare : (w.rig? d).map Rig.callback = some none) (last : w.left d = 1) (r : Record)
    (respond : Responder Counted Nat κ μ) :
    ∃ v E ledger', (perform respond d (.update (.prog block 0 r.encode))).run w =
        .ok (.error w.lossReport) v ∧
      History cfg m v ledger' ∧ v.view d = some E ∧ D.LeftTorn cfg block E := by
  obtain ⟨sound, -⟩ := h.sound view
  obtain ⟨q, hq, callback⟩ := Option.map_eq_some_iff.1 bare
  obtain rfl : w.config = cfg := h.plain.2.remembers.1
  rw [Bench.view, hq] at view
  cases view
  have lawful : Request.Lawful w.config (q.device.plain w.store).slots[block]?.join
      (.update (.prog block 0 r.encode)) := by
    refine ⟨⟨inside, ⟨Nat.zero_mod _, aligned⟩, by rwa [r.length_encode, Nat.zero_add]⟩, ?_⟩
    rintro ⟨value', b, same, found, -, byte, mem, other⟩
    cases value.symm.trans same
    rw [Slots.stored, found] at erased
    exact other (List.eq_of_mem_replicate (erased ▸ mem))
  have counts : w.admits d (.update (.prog block 0 r.encode)) :=
    h.wellFormed.admits hq rfl lawful
      (fun fails => Bool.false_ne_true (good.symm.trans fails.1))
      fun ignored => Bool.false_ne_true (good.symm.trans ignored.1)
  rw [left_of_rig? hq] at last
  obtain ⟨v, s, g, lost, after, -, device, wrecked⟩ :=
    perform_last h.wellFormed limit hq callback counts (UInt32.toNat_inj.1 last) respond
  have there : s.device.slots = (q.device.plain w.store).slots := by rw [device]
  have torn : s.device.LeftTorn w.config block g.device :=
    Flash.leftTorn_of_wreck tears (sound.congr there (by rw [device])) room
      (there ▸ erased) wrecked
  -- nobody is asked about the loss, so this is what an interplay does, too
  have performed := lost
  rw [Bare.perform_congr ⟨q, hq, callback⟩ respond (respondBy
    (fun respond code calls e => (Interplay.done (.ok .resume)).run respond) 0)] at performed
  have run : (Interplay.execute (fun _ _ _ => .done (.ok .resume)) 0
      (.ask d (.update (.prog block 0 r.encode)) fun _ => .done ())).run w = .ok () v :=
    run_bind_eq_ok.2 ⟨_, v, performed, rfl⟩
  obtain ⟨ledger', history⟩ := h.execute run
  exact ⟨v, g.device, ledger', lost, history, after, torn.congr there.symm⟩

end

/-- Torn records are not taken for records.

A record reads back from its bytes, sixteen bytes that read as a record are its bytes, and a record
of which one bit is inverted reads as none. Whatever interplays and their callbacks do to a bench
with a history, such as a new one, goes on with it. On a bench with a history, let a loss of power
leave one bit of an update, or all but one, and let a good block be erased where records are kept,
whatever erased flash reads as. Then a prog of a record loses power if it takes the last of the
countdown, and reports that, or that the image file could not be written. Whenever a device crashes
during such a prog, be it that a callback is asked next or that the prog is over and reports the
loss, the sixteen bytes that are left read as no record; and if reads of the block are not left to
chance, they are read so. -/
theorem torn_records (cfg : Config) (m : μ) :
    (∀ r : Record, Record.decode r.encode = some r) ∧
    (∀ (bs : Bytes) (r : Record), bs.length = Record.size → Record.decode bs = some r →
      bs = r.encode) ∧
    (∀ (r : Record) (i : Nat), i < Record.size * 8 →
      ∃ bs, r.encode.flip? i = some bs ∧ Record.decode bs = none) ∧
    (∀ (reactions : Reactions κ μ) (depth : Nat) (p : Interplay κ μ α)
      (w v : Bench Counted Nat κ μ) (ledger : Ledger) (a : α), History cfg m w ledger →
        (p.execute reactions depth).run w = .ok a v → ∃ ledger, History cfg m v ledger) ∧
    ∀ (w : Bench Counted Nat κ μ) (ledger : Ledger) (d : Handle) (D : Device Block) (block : Nat)
      (x : UInt8) (r : Record) (respond : Responder Counted Nat κ μ),
      History cfg m w ledger → w.view d = some D →
      cfg.crash = .someBits ∨ cfg.crash = .mostBits → cfg.eraseValue = some x →
      Record.size ≤ cfg.geometry.blockSize → Record.size % cfg.geometry.readSize = 0 →
      Record.size % cfg.geometry.progSize = 0 →
      (D.slots.stored cfg block).region 0 Record.size = List.replicate Record.size x →
      cfg.isBad D.slots[block]?.join = false →
      (cfg.geometry.blockSize < Config.allocationLimit → block < cfg.geometry.blockCount →
        (w.rig? d).map Rig.callback = some none → w.left d = 1 →
        ∃ v, (perform respond d (.update (.prog block 0 r.encode))).run w =
          .ok (.error w.lossReport) v ∧ NoRecord cfg respond d block D v) ∧
      ∀ v, ((on d (Flash.crash · (.prog block 0 r.encode))).run w = .ok (.ok ()) v ∨
          (w.rig? d).map Rig.callback = some none ∧
          (perform respond d (.update (.prog block 0 r.encode))).run w =
            .ok (.error (.fault .powerLoss)) v) →
        NoRecord cfg respond d block D v := by
  refine ⟨Record.decode_encode, fun bs r length read => Record.eq_encode read length,
    fun r i hi => ?_, fun reactions depth p w v ledger a h run => h.execute run,
    fun w ledger d D block x r respond h view tears value room reads progs erased good => ?_⟩
  · obtain ⟨bs, flipped⟩ := Bytes.exists_flip? r.encode (i := i)
      (by rw [r.length_encode]; omega)
    exact ⟨bs, flipped, Record.decode_of_differAt (Bytes.differAt_of_flip? flipped)⟩
  refine ⟨fun limit inside bare last => ?_, fun v run => ?_⟩
  · obtain ⟨v, E, _, lost, h', after, torn⟩ := h.loses view limit tears room inside progs value
      erased good bare last r respond
    exact ⟨v, lost, h'.noRecord after torn room reads good respond⟩
  obtain ⟨E, ledger', h', after, torn⟩ : ∃ E ledger', History cfg m v ledger' ∧
      v.view d = some E ∧ D.LeftTorn cfg block E := by
    rcases run with crashed | ⟨bare, lost⟩
    · have crash : (Act.crash d (.prog block 0 r.encode)).perform.run w = .ok () v :=
        run_map_eq_ok.2 ⟨_, crashed, rfl⟩
      obtain ⟨E, after, torn⟩ := h.torn_record view tears room erased crashed
      exact ⟨E, _, h.act _ crash, after, torn⟩
    · exact h.torn_record_of_lost view tears room erased bare lost
  exact h'.noRecord after torn room reads good respond

/-- A device of one block that holds a record, which loses power at its second update. All but one
bit of the update stay. -/
def blotting : Config where
  geometry := ⟨16, 8, 16, 1⟩
  eraseValue := some 0x47
  countdown := 2
  crash := .mostBits

/-- Erases the block. -/
def eraseBlot : Interplay Unit Unit Unit := .ask 0 (.update (.erase 0)) fun _ => .done ()

/-- Erases the block, and answers how it is seen then, whether the device has a callback, and what
is left of the countdown. -/
def eraseAndLook : BenchM Counted Nat Unit Unit (Option (Slots Block) × Option Bool × Nat) := do
  eraseBlot.execute resumes 0
  let w ← get
  return ((w.view 0).map Device.slots, (w.rig? 0).map fun r => r.callback.isNone, w.left 0)

theorem torn_records_blotting : ∃ (w v t : Bench Counted Nat Unit Unit) (bs : Bytes),
    (w.view 0).map Device.slots = some [some ⟨1, false, 31, List.replicate 16 0x47⟩] ∧
      (perform (fun _ _ => throw .exhausted) 0
        (.update (.prog 0 0 (Record.mk 7 42).encode))).run w = .ok (.error (.fault .powerLoss)) v ∧
      (perform (fun _ _ => throw .exhausted) 0 (.read 0 0 16)).run v = .ok (.ok bs) t ∧
      Record.decode bs = none ∧ Record.decode (Record.mk 7 42).encode = some ⟨7, 42⟩ := by
  have comes : onNew blotting eraseAndLook =
      some (some [some ⟨1, false, 31, List.replicate 16 0x47⟩], some true, 1) := by
    decide +kernel
  obtain ⟨w₀, _, made, ran⟩ := onNew_eq_some.1 comes
  obtain ⟨_, w, erased, ran⟩ := run_bind_eq_ok.1 ran
  obtain ⟨_, _, got, told⟩ := run_bind_eq_ok.1 ran
  cases got
  simp only [EStateM.run_pure, EStateM.Result.ok.injEq, Prod.mk.injEq] at told
  obtain ⟨⟨slots, bare, last⟩, rfl⟩ := told
  obtain ⟨D, view, hD⟩ := Option.map_eq_some_iff.1 slots
  have bare : (w.rig? 0).map Rig.callback = some none := by
    obtain ⟨r, hr, none⟩ := Option.map_eq_some_iff.1 bare
    rw [hr, Option.map_some, Option.isNone_iff_eq_none.1 none]
  obtain ⟨reads, -, -, reach, torn⟩ := torn_records (α := Unit) blotting ()
  obtain ⟨_, h⟩ := reach resumes 0 eraseBlot w₀ w _ () (.create made) erased
  obtain ⟨loses, left⟩ := torn w _ 0 D 0 0x47 ⟨7, 42⟩ (fun _ _ => throw .exhausted) h view
    (.inr rfl) rfl (by decide) (by decide) (by decide) (by rw [hD]; decide) (by rw [hD]; decide)
  obtain ⟨v, lost, -⟩ := loses (by decide) (by decide) bare last
  have config : w.config = blotting := h.plain.2.remembers.1
  rw [lossReport_of_takes (refuses_of_ne (by rw [config]; decide))] at lost
  obtain ⟨bs, t, read, none⟩ := (left v (.inr ⟨bare, lost⟩)).read (by rw [hD]; rfl)
  exact ⟨w, v, t, bs, slots, lost, read, none, reads ⟨7, 42⟩⟩

end Bench

end FaultyFlash
