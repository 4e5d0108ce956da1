import FaultyFlash.Proofs.Fingerprint.Checksums
import FaultyFlash.Proofs.Outcomes.Requests
import FaultyFlash.Proofs.Pins.Standing

/-!
# The fingerprint of a device

A device answers the checksum of the bytes that are stored at an address, and the checksum of the
checksums of all blocks. Both depend on the contents alone, and asking for them changes nothing.
Devices whose contents differ in one block, and there only in four bytes next to each other, have
different checksums of that block and different fingerprints. So inverting one bit always shows.

## Main definitions

* `DamagedAt`: contents that differ in one block, and there in four bytes next to each other

## Main results

* `Checksum.digest_range_ne`: damaged contents have another checksum of checksums
* `Bench.History.crc`, `Bench.History.fingerprint`: what a device answers
* `Bench.fingerprints`: damage to one block of a device shows
-/

namespace FaultyFlash

open Flash (answered)

variable {κ μ α : Type} {cfg cfg' : Config} {block p : Nat}

/-- The contents of `count` blocks, by their addresses, differ in one block, and there only in the
four bytes from offset `p` on. -/
structure DamagedAt (count block p : Nat) (xs ys : Nat → Bytes) : Prop where
  inside : block < count
  damaged : Bytes.DamagedFrom p (xs block) (ys block)
  others {i : Nat} (h : i < count) (ne : i ≠ block) : ys i = xs i

/-- Damaged contents have another checksum of checksums. -/
theorem Checksum.digest_range_ne {count : Nat} {xs ys : Nat → Bytes}
    (h : DamagedAt count block p xs ys) :
    digest ((List.range count).map xs) ≠ digest ((List.range count).map ys) := by
  -- the addresses before the damaged block, that block, and those after it
  have split : List.range count =
      List.range block ++ block :: (List.range (count - block - 1)).map (block + 1 + ·) := by
    have count_eq : count = block + (1 + (count - block - 1)) := by
      have := h.inside
      omega
    conv_lhs => rw [count_eq, List.range_add, List.range_add]
    simp [Function.comp_def, Nat.add_assoc]
  have before : (List.range block).map ys = (List.range block).map xs := by
    refine List.map_congr_left fun i hi => ?_
    have := List.mem_range.1 hi
    exact h.others (by have := h.inside; omega) (by omega)
  have after : ((List.range (count - block - 1)).map (block + 1 + ·)).map ys =
      ((List.range (count - block - 1)).map (block + 1 + ·)).map xs := by
    refine List.map_congr_left fun i hi => ?_
    obtain ⟨j, hj, rfl⟩ := List.mem_map.1 hi
    have := List.mem_range.1 hj
    exact h.others (by omega) (by omega)
  rw [split, List.map_append, List.map_append, List.map_cons, List.map_cons, before, after]
  exact digest_ne _ _ h.damaged

namespace Flash

variable {S R : Type} [BlockStore S R] {f : Flash S R}

theorem Finds.crc {x : Option Block} (h : Finds cfg block x f)
    (inside : block < cfg.geometry.blockCount) :
    answered (Flash.crc cfg block) f = (.ok (Checksum.crc
      (x.elim (List.replicate cfg.geometry.blockSize cfg.fill) Block.data)), f) := by
  rw [Flash.crc, answered_contract_ok (Geometry.checkBlock_of_lt inside), answered_bind,
    h.found inside]
  cases x <;> rfl

/-- Where blocks `slots` are found, the fingerprint is the checksum of their checksums. -/
theorem answered_fingerprint {slots : Slots Block}
    (finds : ∀ block, Finds cfg block slots[block]?.join f) :
    answered (fingerprint cfg) f = (.ok (Checksum.digest
      ((List.range cfg.geometry.blockCount).map (slots.stored cfg))), f) := by
  rw [Checksum.digest_eq_foldl, List.foldl_map]
  -- the blocks are looked at one after another, and all of them are there
  suffices all : ∀ (blocks : List Nat) (c : UInt32), (∀ b ∈ blocks, b < cfg.geometry.blockCount) →
      answered (blocks.foldlM (fun c block => do
        return Checksum.append c (Bytes.ofWord (← Flash.crc cfg block))) c) f =
      (.ok (blocks.foldl (fun c block =>
        Checksum.append c (Bytes.ofWord (Checksum.crc (slots.stored cfg block)))) c), f) from
    all _ 0 fun b => List.mem_range.1
  intro blocks
  induction blocks with
  | nil => exact fun c _ => rfl
  | cons b blocks ih =>
    intro c inside
    have first := (finds b).crc (inside b List.mem_cons_self)
    rw [List.foldlM_cons, bind_assoc, answered_bind, first, List.foldl_cons]
    exact ih _ fun b hb => inside b (List.mem_cons_of_mem _ hb)

/-- An inverted bit is inverted in the bytes at its address, and nowhere else, even if the image
file does not come to show it. -/
theorem damagedAt_of_flipBit {f : Flash Plain Block} {bit : Nat}
    (h : carriedOut (answered (flipBit cfg block bit) f).1) :
    DamagedAt cfg.geometry.blockCount block (bit / 8) (f.device.slots.stored cfg)
      ((answered (flipBit cfg block bit) f).2.device.slots.stored cfg) := by
  unfold flipBit at h ⊢
  obtain ⟨_, _, checked, first⟩ := (Dry.contract _).reached h
  rw [first] at h ⊢
  obtain ⟨_, _, within, second⟩ := (Dry.contract _).reached h
  rw [second] at h ⊢
  obtain ⟨_, t, changed, saved⟩ := (Dry.amend cfg block _).reached h
  rw [saved]
  rw [run_contract] at checked within
  split at checked
  case h_2 => cases checked
  next inside =>
  cases checked
  split at within
  case h_2 => cases within
  cases within
  have leaves : Leaves id (save cfg block (bit / 8) 1 : FlashM Plain Block Unit) :=
    .save cfg block _ _
  have device : (answered (save cfg block (bit / 8) 1) t).2.device = t.device := leaves t
  obtain ⟨b, c, x, owns, flipped, rfl⟩ := amend_ok changed
  rw [device]
  refine ⟨Geometry.of_checkBlock inside, ?_, fun {i} _ ne => ?_⟩
  · rw [owns.stored, placed, Slots.stored_set owns.lt_length]
    exact Bytes.damagedFrom_of_flip? (Block.flip?_of_flip flipped).2
  · exact Slots.stored_set_ne ne _

end Flash

namespace Bench

variable {d : Handle} {w v : Bench Counted Nat κ μ} {ledger : Ledger} {m : μ} {D : Device Block}

section

variable (h : History cfg m w ledger) (view : w.view d = some D)
  (respond : Responder Counted Nat κ μ)

include h view

/-- A device answers the checksum of the bytes at an address, and stays as it is. -/
theorem History.crc (inside : block < cfg.geometry.blockCount) :
    (perform respond d (.crc block)).run w =
      .ok (.ok (Checksum.crc (D.slots.stored cfg block))) w := by
  obtain ⟨r, hr, rfl, -⟩ := rig?_of_view view
  obtain rfl : w.config = cfg := h.plain.2.remembers.1
  have found := (h.wellFormed.finds hr block).crc inside
  refine (run_on_answered hr (Flash.crc · block)).trans ?_
  rw [found, settle_flash hr]
  rfl

/-- A device answers the checksum of the checksums of its blocks, and stays as it is. -/
theorem History.fingerprint :
    (perform respond d .fingerprint).run w =
      .ok (.ok (Checksum.digest
        ((List.range cfg.geometry.blockCount).map (D.slots.stored cfg)))) w := by
  obtain ⟨r, hr, rfl, -⟩ := rig?_of_view view
  obtain rfl : w.config = cfg := h.plain.2.remembers.1
  have found := Flash.answered_fingerprint (h.wellFormed.finds hr)
  refine (run_on_answered hr Flash.fingerprint).trans ?_
  rw [found, settle_flash hr]

/-- A bit that is inverted damages its block and no other. -/
theorem History.flipBit {bit : Nat} {answer : Except Failure Unit}
    (run : (perform respond d (.flipBit block bit)).run w = .ok answer v)
    (flips : carriedOut answer) :
    ∃ E, v.view d = some E ∧ DamagedAt cfg.geometry.blockCount block (bit / 8)
      (D.slots.stored cfg) (E.slots.stored cfg) := by
  obtain ⟨r, -, rfl, there⟩ := rig?_of_view view
  have config : w.plain.config = cfg := h.plain.2.remembers.1
  have alike := Alike.on (κ := κ) (μ := μ) d fun cfg others kept =>
    (Flash.Sharing.lockstep cfg others kept).flipBit block bit
  obtain ⟨s, hs, rfl, same⟩ := run_on_eq_ok.1 (alike.run_plain h.wellFormed.seen run).1
  cases there.symm.trans hs
  rw [config] at flips same
  refine ⟨_, ?_, Flash.damagedAt_of_flipBit flips⟩
  rw [view_eq, ← same, rig?_settle there]
  rfl

/-- A bit of a block is inverted, if the block can be allocated. -/
theorem History.flips (limit : cfg.geometry.blockSize < Config.allocationLimit)
    (inside : block < cfg.geometry.blockCount) {bit : Nat} (within : bit < cfg.geometry.blockBits) :
    ∃ v, (perform respond d (.flipBit block bit)).run w = .ok w.written v := by
  obtain ⟨r, hr, -, -⟩ := rig?_of_view view
  obtain rfl : w.config = cfg := h.plain.2.remembers.1
  rw [← h.wellFormed.flips limit hr inside within]
  exact ⟨_, run_on_answered hr (Flash.flipBit · block bit)⟩

end

/-- Two devices answer different checksums of a block and different fingerprints, and stay as they
are. -/
structure ToldApart (respond : Responder Counted Nat κ μ) (d e : Handle) (block : Nat)
    (w v : Bench Counted Nat κ μ) : Prop where
  crc : ∃ x y, (perform respond d (.crc block)).run w = .ok (.ok x) w ∧
    (perform respond e (.crc block)).run v = .ok (.ok y) v ∧ x ≠ y
  fingerprint : ∃ x y, (perform respond d .fingerprint).run w = .ok (.ok x) w ∧
    (perform respond e .fingerprint).run v = .ok (.ok y) v ∧ x ≠ y

/-- Damage to one block tells devices apart. -/
theorem History.toldApart {ledger' : Ledger} {m' : μ} {e : Handle} {E : Device Block}
    (h : History cfg m w ledger) (view : w.view d = some D) (h' : History cfg' m' v ledger')
    (view' : v.view e = some E) (geometry : cfg'.geometry = cfg.geometry)
    (damaged : DamagedAt cfg.geometry.blockCount block p
      (D.slots.stored cfg) (E.slots.stored cfg'))
    (respond : Responder Counted Nat κ μ) : ToldApart respond d e block w v where
  crc := ⟨_, _, h.crc view respond damaged.inside,
    h'.crc view' respond (geometry ▸ damaged.inside), Checksum.crc_ne damaged.damaged⟩
  fingerprint := by
    have answers' := h'.fingerprint view' respond
    rw [geometry] at answers'
    exact ⟨_, _, h.fingerprint view respond, answers', Checksum.digest_range_ne damaged⟩

/-- The checksums of a device tell its contents, and damage to one block shows.

Whatever interplays and their callbacks do to a bench with a history, such as a new one, goes on
with it. On a bench with a history a device answers, for every block that it has, the checksum of
what is stored there, or of as many bytes of unwritten flash; its fingerprint is the checksum of all
of these, each as four bytes, least significant first. Neither changes anything. Any two devices of
one geometry whose contents differ in one block, and there only in four bytes next to each other,
have different checksums of that block and different fingerprints. So have a device and what it
becomes when a bit of it is inverted. That is done for every bit of every block, provided that
blocks can be allocated, even if the image file refuses to show it. -/
theorem fingerprints (cfg : Config) (m : μ) :
    (∀ (reactions : Reactions κ μ) (depth : Nat) (p : Interplay κ μ α)
      (w v : Bench Counted Nat κ μ) (ledger : Ledger) (a : α), History cfg m w ledger →
        (p.execute reactions depth).run w = .ok a v → ∃ ledger, History cfg m v ledger) ∧
    ∀ (w : Bench Counted Nat κ μ) (ledger : Ledger) (d : Handle) (D : Device Block)
      (respond : Responder Counted Nat κ μ), History cfg m w ledger → w.view d = some D →
      (∀ block < cfg.geometry.blockCount, (perform respond d (.crc block)).run w =
        .ok (.ok (Checksum.crc (D.slots.stored cfg block))) w) ∧
      (perform respond d .fingerprint).run w =
        .ok (.ok (Checksum.crc ((List.range cfg.geometry.blockCount).flatMap fun block =>
          Bytes.ofWord (Checksum.crc (D.slots.stored cfg block))))) w ∧
      (∀ (cfg' : Config) (m' : μ) (v : Bench Counted Nat κ μ) (ledger' : Ledger) (e : Handle)
        (E : Device Block) (block p : Nat), cfg'.geometry = cfg.geometry →
        History cfg' m' v ledger' → v.view e = some E →
        DamagedAt cfg.geometry.blockCount block p (D.slots.stored cfg) (E.slots.stored cfg') →
          ToldApart respond d e block w v) ∧
      (∀ block < cfg.geometry.blockCount, ∀ bit < cfg.geometry.blockBits,
        cfg.geometry.blockSize < Config.allocationLimit →
          ∃ v, (perform respond d (.flipBit block bit)).run w = .ok w.written v ∧
            ToldApart respond d d block w v) ∧
      ∀ block bit v, (perform respond d (.flipBit block bit)).run w = .ok (.ok ()) v →
        ToldApart respond d d block w v := by
  refine ⟨fun reactions depth p w v ledger a h run => h.execute run,
    fun w ledger d D respond h view => ?_⟩
  have flips {block bit : Nat} {answer : Except Failure Unit} {v : Bench Counted Nat κ μ}
      (run : (perform respond d (.flipBit block bit)).run w = .ok answer v)
      (flips : carriedOut answer) : ToldApart respond d d block w v := by
    obtain ⟨E, view', damaged⟩ := h.flipBit view respond run flips
    have history : (Act.ask d (.flipBit block bit) rfl).perform.run w = .ok () v :=
      run_map_eq_ok.2 ⟨_, run, rfl⟩
    exact h.toldApart view (h.act _ history) view' rfl damaged respond
  refine ⟨fun block inside => h.crc view respond inside, ?_,
    fun cfg' m' v ledger' e E block p geometry h' view' damaged =>
      h.toldApart view h' view' geometry damaged respond,
    fun block inside bit within limit => ?_, fun block bit v run => flips run rfl⟩
  · rw [h.fingerprint view respond, Checksum.digest, List.flatMap_map]
  · obtain ⟨v, run⟩ := h.flips view respond limit inside within
    exact ⟨v, run, flips run w.carriedOut_written⟩

/-- A device of two blocks of eight bytes. -/
def printed : Config where
  geometry := ⟨1, 1, 8, 2⟩
  eraseValue := some 0xff

/-- Programs three bytes of the second block. -/
def progThree : BenchM Counted Nat Unit Unit (Except Failure Unit) :=
  perform (respondBy (fun respond code calls e => (resumes code calls e).run respond) 0) 0
    (.update (.prog 1 2 [1, 2, 3]))

/-- Programs the second block, looks at the device, and inverts a bit of the first block. -/
def progAndFlip : BenchM Counted Nat Unit Unit (Option Unit × Option (Slots Block) × Option Unit) :=
    do
  let programmed ← progThree
  let slots := ((← get).view 0).map Device.slots
  let flipped ← perform (fun _ _ => throw .exhausted) 0 (.flipBit 0 63)
  return (programmed.toOption, slots, flipped.toOption)

theorem fingerprints_printed : ∃ w₀ w v : Bench Counted Nat Unit Unit,
    create printed () = .ok w₀ ∧ progThree.run w₀ = .ok (.ok ()) w ∧
      ToldApart (fun _ _ => throw .exhausted) 0 0 1 w₀ w ∧
      (perform (fun _ _ => throw .exhausted) 0 (.flipBit 0 63)).run w = .ok (.ok ()) v ∧
      ToldApart (fun _ _ => throw .exhausted) 0 0 0 w v := by
  have comes : onNew printed progAndFlip = some (some (),
      some [none, some ⟨0, false, 31, [0xff, 0xff, 1, 2, 3, 0xff, 0xff, 0xff]⟩], some ()) := by
    decide +kernel
  obtain ⟨w₀, _, made, ran⟩ := onNew_eq_some.1 comes
  obtain ⟨x, w, programmed, ran⟩ := run_bind_eq_ok.1 ran
  obtain ⟨_, _, got, ran⟩ := run_bind_eq_ok.1 ran
  cases got
  obtain ⟨y, v, flipped, told⟩ := run_bind_eq_ok.1 ran
  simp only [EStateM.run_pure, EStateM.Result.ok.injEq, Prod.mk.injEq] at told
  obtain ⟨⟨hx, slots, hy⟩, rfl⟩ := told
  obtain rfl := toOption_eq_some.1 hx
  obtain rfl := toOption_eq_some.1 hy
  obtain ⟨D, view, hD⟩ := Option.map_eq_some_iff.1 slots
  obtain ⟨D₀, view₀, hD₀⟩ : ∃ D₀, w₀.view 0 = some D₀ ∧ D₀.slots = [none, none] := by
    obtain ⟨-, image, -, rfl⟩ := create_eq_ok.1 made
    exact ⟨_, rfl, rfl⟩
  obtain ⟨reach, tells⟩ := fingerprints (α := Except Failure Unit) printed ()
  have h₀ : History printed () w₀ _ := .create made
  obtain ⟨_, h⟩ := reach resumes 0
    (.ask 0 (.update (.prog 1 2 [1, 2, 3])) .done) w₀ w _ _ h₀
    (run_bind_eq_ok.2 ⟨_, w, programmed, rfl⟩)
  obtain ⟨-, -, apart, -⟩ := tells w₀ _ 0 D₀ (fun _ _ => throw .exhausted) h₀ view₀
  obtain ⟨-, -, -, -, flips⟩ := tells w _ 0 D (fun _ _ => throw .exhausted) h view
  have damaged : DamagedAt 2 1 2 (D₀.slots.stored printed) (D.slots.stored printed) := by
    rw [hD₀, hD]
    refine ⟨by decide, ⟨by decide, by decide, fun {i} h => ?_⟩, fun {i} h ne => ?_⟩
    · rcases h with low | high
      · have : i = 0 ∨ i = 1 := by omega
        rcases this with rfl | rfl <;> rfl
      · have : i = 6 ∨ i = 7 ∨ 8 ≤ i := by omega
        rcases this with rfl | rfl | beyond
        · rfl
        · rfl
        · rw [List.getElem?_eq_none beyond, List.getElem?_eq_none beyond]
    · obtain rfl : i = 0 := by omega
      rfl
  exact ⟨w₀, w, v, made, programmed, apart printed () w _ 0 D 1 2 rfl h view damaged, flipped,
    flips 0 63 v flipped⟩

end Bench

end FaultyFlash
