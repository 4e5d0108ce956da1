import FaultyFlash.Proofs.Pins.Standing
import FaultyFlash.Proofs.Reads.Sensing

/-!
# Reads in pieces

On a bench, a read changes nothing but the generator of its device and the count of the bytes it
read. So a range may as well be read in pieces: put together, they are what a read of the whole
range answers, but for the bad bit of a metastable block.

## Main definitions

* `readPieces`: reads a range piece by piece

## Main results

* `Bench.History.read`, `Bench.History.readPieces`: a read, and reads in pieces
* `Bench.reads_answer`: what reads answer and leave, on all benches with a history
-/

namespace FaultyFlash

open Flash (answered)

variable {κ μ α : Type} {cfg : Config} {block off len : Nat}

/-- Reads a range of a block in pieces of the given lengths, and puts them together. -/
def readPieces (block : Nat) : Nat → List Nat → Task κ μ Bytes
  | _, [] => return []
  | off, len :: lens => do
    let first ← Task.ask (.read block off len)
    return first ++ (← readPieces block (off + len) lens)

namespace Bench

/-- The bench after a read: the generator of the device and the count of the bytes it read have
moved, and nothing else. -/
def afterRead (w : Bench Counted Nat κ μ) (d : Handle) (r : Rig Nat κ) (len : Nat)
    (x : Generator) : Bench Counted Nat κ μ :=
  { w with rack := w.rack.set d (some { r with device := { r.device with
      generator := x
      bytesRead := r.device.bytesRead + len.toUInt64 } }) }

variable {d : Handle} {w v : Bench Counted Nat κ μ} {ledger : Ledger} {m : μ} {D : Device Block}

section

variable (h : History cfg m w ledger) (view : w.view d = some D)
  (respond : Responder Counted Nat κ μ)

include h view

/-- A read that keeps to its contract is answered, unless the block is worn out and fails it. -/
theorem History.read (allowed : cfg.geometry.Allows cfg.geometry.readSize block off len)
    (spared : ¬ Request.Fails cfg D.slots[block]?.join (.read block off len)) :
    ∃ r bs x, w.rig? d = some r ∧
      (perform respond d (.read block off len)).run w = .ok (.ok bs) (w.afterRead d r len x) ∧
      Sensed D.slots[block]?.join (D.slots.stored cfg block) off len D.generator bs x := by
  obtain ⟨r, hr, rfl, -⟩ := rig?_of_view view
  obtain rfl : w.config = cfg := h.plain.2.remembers.1
  obtain ⟨bs, x, answer, sensed⟩ := (h.wellFormed.finds hr block).read allowed spared
  refine ⟨r, bs, x, hr, (run_on_answered hr (Flash.read · block off len)).trans ?_, sensed⟩
  rw [answer]
  rfl

/-- A read that is answered kept to its contract, and was not failed by a worn block. -/
theorem History.read_ok {bs : Bytes}
    (run : (perform respond d (.read block off len)).run w = .ok (.ok bs) v) :
    cfg.geometry.Allows cfg.geometry.readSize block off len ∧
      ¬ Request.Fails cfg D.slots[block]?.join (.read block off len) := by
  obtain ⟨r, hr, rfl, -⟩ := rig?_of_view view
  obtain rfl : w.config = cfg := h.plain.2.remembers.1
  have reads : (on d (Flash.read · block off len)).run w = .ok (.ok bs) v := run
  obtain ⟨g, ran, -⟩ := on_ok hr reads
  exact (h.wellFormed.finds hr block).read_ok (Flash.answered_eq_ok.2 ran)

end

/-- After a read the device holds the blocks that it held. -/
theorem view_afterRead {r : Rig Nat κ} (hr : w.rig? d = some r) (view : w.view d = some D)
    (len : Nat) (x : Generator) :
    ∃ E, (w.afterRead d r len x).view d = some E ∧ E.slots = D.slots := by
  have settled := rig?_settle hr (((w.flash r).reseed x).tally .bytesRead len.toUInt64)
  rw [Bench.view, hr] at view
  cases view
  exact ⟨_, congrArg (Option.map fun s : Rig Nat κ => s.device.plain w.store) settled, rfl⟩

/-- Reads in pieces are answered where a read of the whole range is, and differ from what is stored
in the bad bit of a metastable block at most. -/
theorem History.readPieces (h : History cfg m w ledger) (view : w.view d = some D)
    (respond : Responder Counted Nat κ μ) {lens : List Nat}
    (allowed : cfg.geometry.Allows cfg.geometry.readSize block off lens.sum)
    (aligned : ∀ n ∈ lens, n % cfg.geometry.readSize = 0)
    (spared : ¬ Request.Fails cfg D.slots[block]?.join (.read block off len)) :
    ∃ cs v, ((FaultyFlash.readPieces block off lens).run.run respond d).run w = .ok (.ok cs) v ∧
      Bytes.DifferWithin (MayDiffer D.slots[block]?.join off)
        ((D.slots.stored cfg block).region off lens.sum) cs := by
  -- by induction on the pieces; each read leaves the blocks to the next
  induction lens generalizing w ledger D off with
  | nil => exact ⟨[], w, rfl, .refl _ _⟩
  | cons n lens ih =>
    rw [List.sum_cons] at allowed ⊢
    obtain ⟨inside, ⟨start, whole⟩, region⟩ := allowed
    have here : n % cfg.geometry.readSize = 0 := aligned n List.mem_cons_self
    obtain ⟨r, bs, x, hr, run, sensed⟩ :=
      h.read view respond ⟨inside, ⟨start, here⟩, by omega⟩ spared
    have history : (Act.ask d (.read block off n) rfl).perform.run w =
        .ok () (w.afterRead d r n x) := run_map_eq_ok.2 ⟨_, run, rfl⟩
    obtain ⟨E, view', slots⟩ := view_afterRead hr view n x
    have later : cfg.geometry.Allows cfg.geometry.readSize block (off + n) lens.sum := by
      refine ⟨inside, ⟨?_, ?_⟩, by omega⟩
      · rw [Nat.add_mod, start, here, Nat.zero_mod]
      · rw [Nat.add_mod, here, Nat.zero_add, Nat.mod_mod] at whole
        exact whole
    obtain ⟨cs, v, ran, rest⟩ := ih (h.act _ history) view' later
      (fun n hn => aligned n (List.mem_cons_of_mem _ hn)) (by rwa [slots])
    rw [slots] at rest
    refine ⟨bs ++ cs, v, run_bind_eq_ok.2 ⟨_, _, run, ?_⟩, ?_⟩
    · show (Program.run respond d ((FaultyFlash.readPieces block (off + n) lens).run.bind
        (ExceptT.bindCont fun rest => return bs ++ rest))).run _ = _
      rw [Program.run_bind]
      exact run_bind_eq_ok.2 ⟨_, v, ran, rfl⟩
    · rw [Bytes.region_add]
      refine sensed.within.append rest (fun _ => id) ?_
      rintro k ⟨b, hb, metastable, place⟩
      refine ⟨b, hb, metastable, ?_⟩
      have size : ((D.slots.stored cfg block).region off n).length = n := by
        refine Bytes.length_region ?_
        rw [(h.sound view).1.slots.length_stored]
        omega
      omega

/-- Reads tell what is stored, up to the bad bit of a metastable block.

Whatever interplays and their callbacks do to a bench with a history, such as a new one, goes on
with it. On a bench with a history, let a read of a range be answered. Then nothing has changed but
the generator of the device and the count of the bytes it read; the answer is what is stored in the
range, or as many bytes of unwritten flash, with the bad bit inverted if the block is metastable,
the range holds the byte of that bit, and the word that is drawn then is odd; and nothing is drawn
otherwise. So wherever the same block is found, on the same device or on another one, before or
after that read, the range can be read in any aligned pieces. Put together they are the answer of
the one read, unless the block is metastable, and then they differ from it in the bad bit at
most. -/
theorem reads_answer (cfg : Config) (m : μ) :
    (∀ (reactions : Reactions κ μ) (depth : Nat) (p : Interplay κ μ α)
      (w v : Bench Counted Nat κ μ) (ledger : Ledger) (a : α), History cfg m w ledger →
        (p.execute reactions depth).run w = .ok a v → ∃ ledger, History cfg m v ledger) ∧
    ∀ (w v : Bench Counted Nat κ μ) (ledger : Ledger) (d : Handle) (D : Device Block)
      (block off len : Nat) (respond : Responder Counted Nat κ μ) (bs : Bytes),
      History cfg m w ledger → w.view d = some D →
      (perform respond d (.read block off len)).run w = .ok (.ok bs) v →
      (∃ r x, w.rig? d = some r ∧ v = w.afterRead d r len x ∧
        Sensed D.slots[block]?.join (D.slots.stored cfg block) off len D.generator bs x) ∧
      ∀ (m' : μ) (u : Bench Counted Nat κ μ) (ledger' : Ledger) (e : Handle) (E : Device Block)
        (lens : List Nat), History cfg m' u ledger' → u.view e = some E →
        E.slots[block]?.join = D.slots[block]?.join → lens.sum = len →
        (∀ n ∈ lens, n % cfg.geometry.readSize = 0) →
        ∃ cs u', ((readPieces block off lens).run.run respond e).run u = .ok (.ok cs) u' ∧
          Bytes.DifferWithin (MayDiffer D.slots[block]?.join off) bs cs ∧
          ((∀ b, D.slots[block]?.join = some b → b.metastable = false) → cs = bs) := by
  refine ⟨fun reactions depth p w v ledger a h run => h.execute run,
    fun w v ledger d D block off len respond bs h view run => ?_⟩
  obtain ⟨allowed, spared⟩ := h.read_ok view respond run
  obtain ⟨r, bs', x, hr, run', sensed⟩ := h.read view respond allowed spared
  cases run.symm.trans run'
  refine ⟨⟨r, x, hr, rfl, sensed⟩, ?_⟩
  rintro m' u ledger' e E lens h' view' same rfl aligned
  obtain ⟨cs, u', ran, within⟩ := h'.readPieces view' respond allowed aligned (by rwa [same])
  have stored : E.slots.stored cfg block = D.slots.stored cfg block := by
    rw [Slots.stored, same, Slots.stored]
  rw [same, stored] at within
  have differ := sensed.within.of_common within
  refine ⟨cs, u', ran, differ, fun steady => differ.eq ?_⟩
  rintro k ⟨b, hb, metastable, -⟩
  exact Bool.false_ne_true ((steady b hb).symm.trans metastable)

/-- A device of one block of four bytes that is read by twos, where a loss of power leaves reads to
chance. -/
def wavering : Config where
  geometry := ⟨2, 1, 4, 1⟩
  eraseValue := some 0xff
  crash := .metastable

/-- Programs the block, and loses power when it erases it. -/
def loseErase : Interplay Unit Unit Unit :=
  .ask 0 (.update (.prog 0 0 [1, 2, 3, 4])) fun _ => .ask 0 (.setCountdown 1) fun _ =>
    .ask 0 (.update (.erase 0)) fun _ => .done ()

/-- Reads the block that a loss of power left metastable. -/
def readWhole : BenchM Counted Nat Unit Unit (Option (Slots Block) × Option Bytes) := do
  loseErase.execute resumes 0
  let slots := ((← get).view 0).map Device.slots
  let answer ← perform (fun _ _ => throw .exhausted) 0 (.read 0 0 4)
  return (slots, answer.toOption)

theorem reads_answer_wavering : ∃ (w v u : Bench Counted Nat Unit Unit) (D : Device Block)
    (r : Rig Nat Unit) (cs : Bytes), w.view 0 = some D ∧
      D.slots = [some ⟨0, true, 31, [0xff, 0xff, 0xff, 0xff]⟩] ∧
      (perform (fun _ _ => throw .exhausted) 0 (.read 0 0 4)).run w =
        .ok (.ok [0xff, 0xff, 0xff, 0x7f]) v ∧
      v = w.afterRead 0 r 4 D.generator.next.2 ∧
      Bytes.DifferAt 31 [0xff, 0xff, 0xff, 0xff] [0xff, 0xff, 0xff, 0x7f] ∧
      ((readPieces 0 0 [2, 2]).run.run (fun _ _ => throw .exhausted) 0).run v = .ok (.ok cs) u ∧
      Bytes.DifferWithin (· = 31) [0xff, 0xff, 0xff, 0x7f] cs := by
  have comes : onNew wavering readWhole = some
      (some [some ⟨0, true, 31, [0xff, 0xff, 0xff, 0xff]⟩], some [0xff, 0xff, 0xff, 0x7f]) := by
    decide +kernel
  obtain ⟨w₀, _, made, ran⟩ := onNew_eq_some.1 comes
  obtain ⟨_, w, lost, ran⟩ := run_bind_eq_ok.1 ran
  obtain ⟨_, _, got, ran⟩ := run_bind_eq_ok.1 ran
  cases got
  obtain ⟨answer, v, read, told⟩ := run_bind_eq_ok.1 ran
  simp only [EStateM.run_pure, EStateM.Result.ok.injEq, Prod.mk.injEq] at told
  obtain ⟨⟨slots, done⟩, rfl⟩ := told
  obtain rfl := toOption_eq_some.1 done
  obtain ⟨D, view, hD⟩ := Option.map_eq_some_iff.1 slots
  obtain ⟨reach, answers⟩ := reads_answer (α := Unit) wavering ()
  have h₀ : History wavering () w₀ _ := .create made
  obtain ⟨_, h⟩ := reach resumes 0 loseErase w₀ w _ _ h₀ lost
  obtain ⟨⟨r, x, hr, left, sensed⟩, pieces⟩ :=
    answers w v _ 0 D 0 0 4 (fun _ _ => throw .exhausted) _ h view read
  have found : D.slots[0]?.join = some ⟨0, true, 31, [0xff, 0xff, 0xff, 0xff]⟩ := by rw [hD]; rfl
  have wavers : Block.Wavers ⟨0, true, 31, [0xff, 0xff, 0xff, 0xff]⟩ 0 4 := ⟨rfl, by decide⟩
  have stored : (D.slots.stored wavering 0).region 0 4 = [0xff, 0xff, 0xff, 0xff] := by rw [hD]; rfl
  -- the answer is not what is stored, so the word was odd
  have odd : D.generator.next.1 &&& 1 = 1 := by
    by_cases odd : D.generator.next.1 &&& 1 = 1
    · exact odd
    · have kept := sensed.kept found wavers odd
      rw [stored] at kept
      exact absurd kept (by decide)
  have flipped := sensed.flipped found wavers odd
  rw [stored] at flipped
  obtain ⟨_, h'⟩ := reach resumes 0 (.ask 0 (.read 0 0 4) fun _ => .done ()) w v _ () h
    (run_bind_eq_ok.2 ⟨_, v, read, rfl⟩)
  obtain ⟨E, view', same⟩ := view_afterRead hr view 4 x
  rw [← left] at view'
  obtain ⟨cs, u, ran, within, -⟩ :=
    pieces () v _ 0 E [2, 2] h' view' (by rw [same]) rfl (by decide)
  refine ⟨w, v, u, D, r, cs, view, hD, read, ?_, flipped, ran, within.1, fun k differs => ?_⟩
  · rw [left, sensed.drawn found wavers]
  · obtain ⟨b, hb, -, place⟩ := within.2 k differs
    cases found.symm.trans hb
    have : Block.badBitPos ⟨0, true, 31, [0xff, 0xff, 0xff, 0xff]⟩ = 31 := by decide
    omega

end Bench

end FaultyFlash
