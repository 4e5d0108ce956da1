import FaultyFlash.Proofs.Completion
import FaultyFlash.Proofs.Outcomes.Contracts

/-!
# What becomes of a request

Every request that names a block ends in one of four ways: it breaks its contract, a worn block
fails it, it loses power, or it is done. Which of them is told by the block that is found, the
configuration and what is left of the countdown, and nothing else can go wrong on a device that can
be reached and whose image file takes what is written to it. Whatever is refused or ignored leaves
the whole bench as it is.

## Main definitions

* `Request.Outcome`: what becomes of a request

## Main results

* `Flash.succeeds_effect`: a request that keeps to its contract is done, unless a worn block fails
  it
* `Bench.outcomes`: what becomes of every request that names a block
-/

namespace FaultyFlash

open Flash (answered)

variable {κ μ α β : Type} {cfg : Config} {r : Request} {block off len : Nat} {x : Option Block}

/-- Is a request an update that counts towards the loss of power, unless it is refused? -/
def Request.Counts (cfg : Config) (x : Option Block) (r : Request) : Prop :=
  (∃ u, r = .update u) ∧ ¬ r.Ignored cfg x

/-- What becomes of a request that names a block, where `x` is found at the address and `n` is left
of the countdown. -/
structure Request.Outcome (cfg : Config) (n : Nat) (block : Nat) (x : Option Block) (r : Request)
    (answer : Except Failure r.Answer) : Prop where
  misused : (∃ m, answer = .error (.misuse m)) ↔ ¬ r.Lawful cfg x
  corrupt : answer = .error (.fault (.corrupt block)) ↔ r.Lawful cfg x ∧ r.Fails cfg x
  powerLoss : answer = .error (.fault .powerLoss) ↔
    r.Lawful cfg x ∧ ¬ r.Fails cfg x ∧ r.Counts cfg x ∧ n = 1
  done : (∃ a, answer = .ok a) ↔ r.Lawful cfg x ∧ ¬ r.Fails cfg x ∧ ¬ (r.Counts cfg x ∧ n = 1)

namespace Request.Outcome

variable {n : Nat}

theorem of_misused (broken : ¬ r.Lawful cfg x) (m : Misuse) :
    r.Outcome cfg n block x (.error (.misuse m)) := by
  constructor <;> simp [broken]

theorem of_corrupt (lawful : r.Lawful cfg x) (fails : r.Fails cfg x) :
    r.Outcome cfg n block x (.error (.fault (.corrupt block))) := by
  constructor <;> simp [lawful, fails]

theorem of_powerLoss (lawful : r.Lawful cfg x) (spared : ¬ r.Fails cfg x) (counts : r.Counts cfg x)
    (last : n = 1) : r.Outcome cfg n block x (.error (.fault .powerLoss)) := by
  constructor <;> simp [lawful, spared, counts, last]

theorem of_done (lawful : r.Lawful cfg x) (spared : ¬ r.Fails cfg x)
    (powered : ¬ (r.Counts cfg x ∧ n = 1)) (a : r.Answer) : r.Outcome cfg n block x (.ok a) := by
  have powered' : ¬ (r.Lawful cfg x ∧ ¬ r.Fails cfg x ∧ r.Counts cfg x ∧ n = 1) :=
    fun h => powered h.2.2
  constructor
  · simp [lawful]
  · simp [spared]
  · simpa using powered'
  · exact ⟨fun _ => ⟨lawful, spared, powered⟩, fun _ => ⟨a, rfl⟩⟩

end Request.Outcome

namespace Flash

variable {f z : Flash Plain Block} {D : Device Block}

theorem succeeds_contract {S R : Type} {c : Except Misuse Unit} (h : c = .ok ())
    {pre : Flash S R → Prop} : Succeeds pre (contract c) fun _ => pre := by
  subst h
  exact fun f hf => ⟨(), f, rfl, hf⟩

/-- A region of a sound block is read, whatever is left to chance. -/
theorem succeeds_sense {b : Block} (size : b.data.length = cfg.geometry.blockSize)
    (fits : off + len ≤ cfg.geometry.blockSize) :
    Succeeds (fun _ : Flash Plain Block => True) (sense b off len) fun _ _ => True := by
  obtain ⟨stored, held, length⟩ := region_of_length size fits
  refine (Succeeds.sound held).bind fun bs => ?_
  rintro f ⟨rfl, -⟩
  by_cases chance : (b.metastable && b.covers off len) = true
  · -- the bad bit is one of the bits of the region
    obtain ⟨-, within⟩ := Block.bit_of_covers (Bool.and_eq_true_iff.1 chance).2
    have inside : (b.badBitPos - off * 8) / 8 < bs.length := by omega
    simp only [chance, if_true, EStateM.run_bind, run_draw, Bytes.flip?, if_pos inside]
    split <;> exact ⟨_, _, rfl, trivial⟩
  · rw [if_neg chance]
    exact ⟨bs, f, rfl, trivial⟩

/-- A read that keeps to its contract is answered, unless the block is worn out and fails it. -/
theorem succeeds_read (sound : D.Sound cfg) (hx : D.slots[block]? = some x)
    (allowed : cfg.geometry.Allows cfg.geometry.readSize block off len)
    (spared : ¬ Request.Fails cfg x (.read block off len)) :
    Succeeds (HasDevice D) (read cfg block off len) fun _ _ => True := by
  refine (succeeds_contract (allowed.check .read)).bind fun _ => ?_
  rintro f rfl
  obtain ⟨_, found, size⟩ := sound.slot allowed.block
  obtain rfl := Option.some.inj (hx.symm.trans found)
  have looked := run_fetch_plain f block
  rw [hx] at looked
  cases x with
  | none => exact ⟨_, _, run_bind_eq_ok.2 ⟨none, f, looked, rfl⟩, trivial⟩
  | some b =>
    have good : ¬ (cfg.isWorn b.wear && decide (cfg.worn = .readError)) = true := by
      intro worn
      obtain ⟨bad, behavior⟩ := Bool.and_eq_true_iff.1 worn
      exact spared ⟨bad, congrArg some (of_decide_eq_true behavior).symm⟩
    obtain ⟨bs, g, sensed, -⟩ := succeeds_sense (size b rfl) allowed.region f trivial
    refine ⟨bs, g.tally .bytesRead len.toUInt64, run_bind_eq_ok.2 ⟨some b, f, looked, ?_⟩, trivial⟩
    simp only [good]
    exact run_bind_eq_ok.2 ⟨bs, g, sensed, rfl⟩

/-- What only looks at a block is answered. -/
theorem succeeds_look (sound : D.Sound cfg) (inside : block < cfg.geometry.blockCount)
    (op : Operation) {k : Option Block → FlashM Plain Block α}
    (answers : ∀ x f, ∃ a g, (k x).run f = .ok a g) :
    Succeeds (HasDevice D) (do
      contract (cfg.geometry.checkBlock op block)
      k (← fetch block)) fun _ _ => True := by
  refine (succeeds_contract (Geometry.checkBlock_of_lt inside)).bind fun _ => ?_
  refine (succeeds_fetch sound inside).bind fun x f _ => ?_
  obtain ⟨a, g, ran⟩ := answers x f
  exact ⟨a, g, ran, trivial⟩

/-- What changes a block and leaves its size is done. -/
theorem succeeds_change (room : cfg.Roomy) (inside : block < cfg.geometry.blockCount)
    (change : Block → Block) (size : ∀ b, (change b).data.length = b.data.length) :
    Succeeds (IsSound cfg z) (amend cfg block fun b => .ok (change b)) fun _ => IsSound cfg z :=
  succeeds_amend room inside fun b hb => ⟨_, rfl, (size b).trans hb⟩

/-- A bit of a block is inverted, unless the image file refuses to show it. -/
theorem answered_flipBit (room : cfg.Roomy) (sound : f.device.Sound cfg)
    (inside : block < cfg.geometry.blockCount) {bit : Nat} (within : bit < cfg.geometry.blockBits) :
    (answered (flipBit cfg block bit) f).1 = f.written cfg := by
  have byte : bit / 8 < cfg.geometry.blockSize := by
    unfold Geometry.blockBits at within
    omega
  rw [flipBit, answered_contract_ok (Geometry.checkBlock_of_lt inside),
    answered_contract_ok (if_pos within)]
  exact answered_amend_save room sound inside byte fun b size => flip_of_length size byte

/-- A request that keeps to its contract is done, unless the block is worn out and fails it, or the
image file refuses to show a bit that it inverts. -/
theorem succeeds_effect (room : cfg.Roomy) (sound : f.device.Sound cfg)
    (takes : ∀ i bit, r = .flipBit i bit → f.refuses cfg = false)
    (hx : f.device.slots[block]? = some x) (names : r.block? = some block) (direct : r.isDirect)
    (lawful : r.Lawful cfg x) (spared : ¬ r.Fails cfg x) :
    Succeeds (fun g => g = f) (r.effect cfg) fun _ _ => True := by
  have looked {α : Type} {m : FlashM Plain Block α}
      (h : Succeeds (HasDevice f.device) m fun _ _ => True) :
      Succeeds (fun g => g = f) m fun _ _ => True :=
    h.mono (fun _ => congrArg Flash.device) fun _ _ => id
  have held : ∀ g, g = f → IsSound cfg f.rest g := by
    rintro _ rfl
    exact ⟨sound, rfl⟩
  have done {α : Type} {m : FlashM Plain Block α}
      (h : Succeeds (IsSound cfg f.rest) m fun _ => IsSound cfg f.rest) :
      Succeeds (fun g => g = f) m fun _ _ => True := h.mono held fun _ _ _ => trivial
  cases r with
  | read block off len =>
    cases names
    exact looked (succeeds_read sound hx lawful spared)
  | wear | isBad | badBit | isMetastable =>
    cases names
    exact looked (succeeds_look sound (lawful block rfl) _ fun _ _ => ⟨_, _, rfl⟩)
  | crc =>
    cases names
    exact looked
      (succeeds_look sound (lawful block rfl) .crc fun x _ => by cases x <;> exact ⟨_, _, rfl⟩)
  | blockRefs =>
    cases names
    refine (succeeds_contract (Geometry.checkBlock_of_lt (lawful block rfl))).bind fun _ => ?_
    rintro f rfl
    refine ⟨if x.isSome then 1 else 0, f, ?_, trivial⟩
    rw [EStateM.run_bind, run_slot, hx]
    cases x <;> rfl
  | setWear | markBad | markGood =>
    cases names
    refine done
      ((succeeds_contract (Geometry.checkBlock_of_lt (lawful block rfl))).bind fun _ => ?_)
    exact succeeds_change room (lawful block rfl) _ fun _ => rfl
  | setBadBit block bit =>
    cases names
    obtain ⟨inside, within⟩ := lawful
    refine done ((succeeds_contract (Geometry.checkBlock_of_lt inside)).bind fun _ => ?_)
    refine (succeeds_contract (if_pos within)).bind fun _ => ?_
    exact succeeds_change room inside _ fun _ => rfl
  | randomizeBadBit =>
    cases names
    refine done
      ((succeeds_contract (Geometry.checkBlock_of_lt (lawful block rfl))).bind fun _ => ?_)
    refine (succeeds_drawBelow room.bits fun f x hf => hf.reseed x).bind fun bit f hf => ?_
    exact succeeds_change room (lawful block rfl) (fun b => { b with badBit := bit.toUInt32 })
      (fun _ => rfl) f hf.2
  | flipBit block bit =>
    cases names
    obtain ⟨inside, within⟩ := lawful
    rintro _ rfl
    have answer := answered_flipBit room sound inside within
    rw [written_eq_ok (takes block bit rfl)] at answer
    exact ⟨(), _, answered_eq_ok.1 (Prod.ext answer rfl), trivial⟩
  | update u => cases direct
  | _ => cases names

end Flash

namespace Bench

variable {w : Bench Counted Nat κ μ} {d : Handle} {s : Rig Nat κ} {D : Device Block}

/-- The answer to a request that is not refused is not changed by what is told of holders. -/
theorem ok_of_apartRefs {y : Except Failure r.Answer} {a : r.Answer}
    (h : r.apartRefs y = r.apartRefs (.ok a)) : ∃ a', y = .ok a' := by
  cases y with
  | ok a' => exact ⟨a', rfl⟩
  | error e => cases r <;> cases h

/-- A bit of a block is inverted, unless the image file refuses to show it. -/
theorem WellFormed.flips (h : w.WellFormed)
    (limit : w.config.geometry.blockSize < Config.allocationLimit) (hs : w.rig? d = some s)
    (inside : block < w.config.geometry.blockCount) {bit : Nat}
    (within : bit < w.config.geometry.blockBits) :
    (answered (Flash.flipBit w.config block bit) (w.flash s)).1 = w.written := by
  have alike := Flash.answered_of_preserves
    ((Flash.Sharing.lockstep w.config _ _).flipBit block bit) (h.seen.flash hs)
  exact alike.1.trans (Flash.answered_flipBit (f := w.plain.flash (s.plain w.store))
    (h.roomy limit) (h.devices (plain_of_rig? hs)) inside within)

/-- A request that is one operation on a device is done, unless it is refused. -/
theorem WellFormed.done (h : w.WellFormed)
    (limit : w.config.geometry.blockSize < Config.allocationLimit)
    (takes : ∀ i bit, r = .flipBit i bit → w.refuses = false) (hs : w.rig? d = some s)
    (hx : (s.device.plain w.store).slots[block]?.join = x) (names : r.block? = some block)
    (direct : r.isDirect) (lawful : r.Lawful w.config x) (spared : ¬ r.Fails w.config x) :
    ∃ a, (answered (r.effect w.config) (w.flash s)).1 = .ok a := by
  have there := plain_of_rig? hs
  have sound : (s.device.plain w.store).Sound w.config := h.devices there
  obtain ⟨slot, hslot, -⟩ := sound.slot (lawful.inside names)
  rw [hslot, Option.join_some] at hx
  subst hx
  -- where nothing is shared the request is done, and it is answered alike but for the holders
  obtain ⟨a, g, ran, -⟩ := Flash.succeeds_effect (f := w.plain.flash (s.plain w.store))
    (h.roomy limit) sound takes hslot names direct lawful spared _ rfl
  have alike := Alike.direct (κ := κ) (μ := μ) d direct (fun _ _ => throw .exhausted)
    (fun _ _ => throw .exhausted) w w.plain h.seen
  rw [map_eq_pure_bind, map_eq_pure_bind, EStateM.run_bind, EStateM.run_bind,
    perform_direct _ d direct, perform_direct _ d direct, run_on_answered hs,
    run_on_answered there] at alike
  have answer : (answered (r.effect w.plain.config) (w.plain.flash (s.plain w.store))).1 = .ok a :=
    congrArg Prod.fst (Flash.answered_eq_ok.2 ran)
  rw [answer] at alike
  exact ok_of_apartRefs alike.1

/-- What becomes of a request that is one operation on a device. -/
theorem WellFormed.direct (h : w.WellFormed)
    (limit : w.config.geometry.blockSize < Config.allocationLimit) (hs : w.rig? d = some s)
    (names : r.block? = some block) (direct : r.isDirect) (n : Nat)
    (respond : Responder Counted Nat κ μ)
    (hx : (s.device.plain w.store).slots[block]?.join = x) :
    ∃ answer v, (perform respond d r).run w = .ok answer v ∧
      ((∀ i bit, r = .flipBit i bit → w.refuses = false) →
        r.Outcome w.config n block x answer) ∧
      (¬ r.Lawful w.config x ∨ r.Fails w.config x ∨ r.Ignored w.config x → v = w) := by
  have finds := h.finds hs block
  rw [hx] at finds
  have there := plain_of_rig? hs
  have passed : ¬ r.Counts w.config x := by
    rintro ⟨⟨u, rfl⟩, -⟩
    cases direct
  rw [perform_direct respond d direct, run_on_answered hs]
  refine ⟨_, _, rfl, ?_⟩
  by_cases lawful : r.Lawful w.config x
  · by_cases fails : r.Fails w.config x
    · rw [finds.effect_fails names direct lawful fails, settle_flash hs]
      exact ⟨fun _ => .of_corrupt lawful fails, fun _ => rfl⟩
    · refine ⟨fun takes => ?_, ?_⟩
      · obtain ⟨a, done⟩ := h.done limit takes hs hx names direct lawful fails
        rw [done]
        exact .of_done lawful fails (fun last => passed last.1) a
      rintro (broken | failed | ⟨-, voids⟩)
      · exact absurd lawful broken
      · exact absurd failed fails
      · cases r <;> first | cases voids | cases direct
  · obtain ⟨m, refused⟩ := Flash.effect_misused names direct lawful (w.flash s)
    rw [refused, settle_flash hs]
    exact ⟨fun _ => .of_misused lawful m, fun _ => rfl⟩

/-- An update of a device without a callback is done, if it is let through and does not take the
last of the countdown. -/
theorem WellFormed.updates (h : w.WellFormed)
    (limit : w.config.geometry.blockSize < Config.allocationLimit) (takes : w.refuses = false)
    (hs : w.rig? d = some s) {u : Update} (counts : (w.flash s).admits w.config u)
    (goesOn : s.device.countdown ≠ 1) :
    (answered (Flash.unattended w.config u) (w.flash s)).1 = .ok () := by
  have there := plain_of_rig? hs
  have L := Flash.Sharing.lockstep w.config
  -- where nothing is shared the update is completed
  have counts' : (w.plain.flash (s.plain w.store)).admits w.config u := by
    rw [(L _ _).toLooking.admits (h.seen.flash hs)]
    exact counts
  obtain ⟨worn, g, permitted, same, imaged⟩ := Flash.exists_permit counts'
  have fits : u.Fits w.config := Flash.fits_of_permit (Flash.answered_eq_ok.1 permitted)
  have sound : g.device.Sound w.config := same ▸ h.devices there
  have more : ¬ g.device.countdown = 1 := same ▸ goesOn
  let rearmed := g.rearm (Flash.left g.device.countdown (.ok (some worn)))
  have ready : rearmed.device.Sound w.config := sound.congr rfl rfl
  obtain ⟨t, completed⟩ := Flash.succeeds_complete (h.roomy limit) fits worn ready
    ((Flash.refuses_congr imaged).trans takes)
  have done := Flash.answered_unattended permitted
  rw [if_neg more, Flash.answered_eq_ok.2 completed] at done
  have alike := Flash.answered_of_preserves ((L _ _).unattended u) (h.seen.flash hs)
  exact alike.1.trans (congrArg Prod.fst done)

/-- An update is let through that keeps to its contract, unless a worn block fails or ignores it. -/
theorem WellFormed.admits (h : w.WellFormed) (hs : w.rig? d = some s) {u : Update}
    (hx : (s.device.plain w.store).slots[u.block]?.join = x)
    (lawful : Request.Lawful w.config x (.update u))
    (spared : ¬ Request.Fails w.config x (.update u))
    (heeded : ¬ Request.Ignored w.config x (.update u)) : w.admits d (.update u) := by
  have finds := h.finds hs u.block
  rw [hx] at finds
  rw [Bench.admits, hs, Option.elim_some, Flash.admits,
    (finds.permit_lawful lawful).2.2 spared heeded]

/-- What becomes of an update of a device without a callback. -/
theorem WellFormed.updated (h : w.WellFormed)
    (limit : w.config.geometry.blockSize < Config.allocationLimit) (hs : w.rig? d = some s)
    (bare : s.callback = none) (u : Update) (respond : Responder Counted Nat κ μ)
    (hx : (s.device.plain w.store).slots[u.block]?.join = x) :
    ∃ answer v, (perform respond d (.update u)).run w = .ok answer v ∧
      (w.refuses = false → Request.Outcome w.config (w.left d) u.block x (.update u) answer) ∧
      (¬ Request.Lawful w.config x (.update u) ∨ Request.Fails w.config x (.update u) ∨
        Request.Ignored w.config x (.update u) → v = w) := by
  have finds := h.finds hs u.block
  rw [hx] at finds
  have run : (perform respond d (.update u)).run w = _ :=
    (update_unattended hs bare respond u).trans (run_on_answered hs (Flash.unattended · u))
  rw [left_of_rig? hs]
  by_cases lawful : Request.Lawful w.config x (.update u)
  case neg =>
    obtain ⟨m, refused⟩ := finds.permit_misused lawful
    rw [Flash.answered_unattended_of_error refused, settle_flash hs] at run
    exact ⟨_, w, run, fun _ => .of_misused lawful m, fun _ => rfl⟩
  obtain ⟨failed, voided, -⟩ := finds.permit_lawful lawful
  by_cases fails : Request.Fails w.config x (.update u)
  · rw [Flash.answered_unattended_of_error (failed fails), settle_flash hs] at run
    exact ⟨_, w, run, fun _ => .of_corrupt lawful fails, fun _ => rfl⟩
  by_cases ignored : Request.Ignored w.config x (.update u)
  · rw [Flash.answered_unattended_of_ignored (voided ignored), settle_flash hs] at run
    refine ⟨_, w, run, fun _ => ?_, fun _ => rfl⟩
    exact .of_done lawful fails (fun last => last.1.2 ignored) ()
  -- what is left is an update that is let through, and nothing is unchanged
  have changes : ¬ (¬ Request.Lawful w.config x (.update u) ∨
      Request.Fails w.config x (.update u) ∨ Request.Ignored w.config x (.update u)) := by
    simp [lawful, fails, ignored]
  have counts : w.admits d (.update u) := h.admits hs hx lawful fails ignored
  by_cases last : s.device.countdown = 1
  · obtain ⟨v, _, _, lost, -⟩ := perform_last h limit hs bare counts last respond
    refine ⟨_, v, lost, fun takes => ?_, fun h => absurd h changes⟩
    rw [lossReport_of_takes takes]
    exact .of_powerLoss lawful fails ⟨⟨u, rfl⟩, ignored⟩ (congrArg UInt32.toNat last)
  · rw [Bench.admits, hs] at counts
    refine ⟨_, _, run, fun takes => ?_, fun h => absurd h changes⟩
    rw [h.updates limit takes hs counts last]
    refine .of_done lawful fails (fun now => last ?_) ()
    exact UInt32.toNat_inj.1 now.2

/-- What becomes of every request that names a block.

Benches are well formed all along every run from the making of a bench on, also where callbacks
run. On a well-formed bench whose blocks can be allocated, let a device have no callback, and let
`x` be the block that is seen at an address of it. Then every request that names the address is
answered. Unless the image file refuses what is written to it, the answer is told by the contract of
the request, by how a worn block misbehaves, and by what is left of the countdown. Whatever the file
takes, what breaks its contract, is failed by a worn block, or is ignored by it leaves the whole
bench as it is, with its store and its image file. -/
theorem outcomes :
    (∀ (cfg : Config) (memory : μ) (w : Bench Counted Nat κ μ)
      (probe : BenchM Counted Nat κ μ Unit),
      create cfg memory = .ok w → Passes WellFormed probe → w.WellFormed ∧
        ∀ (reactions : Reactions κ μ) (depth : Nat) (p : Interplay κ μ β),
          ResultsAgree (fun _ v u => u = v ∧ v.WellFormed) (fun _ _ => True)
            ((p.execute reactions depth).run w) ((p.executeProbed probe reactions depth).run w)) ∧
    ∀ (w : Bench Counted Nat κ μ) (d : Handle) (D : Device Block) (r : Request) (block : Nat)
      (x : Option Block) (respond : Responder Counted Nat κ μ),
      w.WellFormed → w.config.geometry.blockSize < Config.allocationLimit →
      (w.rig? d).map Rig.callback = some none → w.view d = some D →
      r.block? = some block → D.slots[block]?.join = x →
        ∃ answer v, (perform respond d r).run w = .ok answer v ∧
          (w.refuses = false → r.Outcome w.config (w.left d) block x answer) ∧
          (¬ r.Lawful w.config x ∨ r.Fails w.config x ∨ r.Ignored w.config x → v = w) := by
  refine ⟨fun cfg memory w probe made passes => ?_, fun w d D r block x respond wellFormed limit
    callback view names hx => ?_⟩
  · have new := wellFormed_create made
    exact ⟨new, new.executeProbed passes⟩
  · obtain ⟨s, hs, bare⟩ := Option.map_eq_some_iff.1 callback
    rw [Bench.view, hs] at view
    cases view
    by_cases direct : r.isDirect
    · obtain ⟨answer, v, run, outcome, kept⟩ :=
        wellFormed.direct limit hs names direct (w.left d) respond hx
      exact ⟨answer, v, run, fun takes => outcome fun _ _ _ => takes, kept⟩
    cases r with
    | update u =>
      cases names
      exact wellFormed.updated limit hs bare u respond hx
    | copy => cases names
    | _ => exact absurd rfl direct

/-- A device of one block of two bytes, whose worn blocks fail erases and whose first update loses
power. -/
def frail : Config where
  geometry := ⟨1, 1, 2, 1⟩
  eraseValue := some 0xff
  endurance := 1
  worn := .eraseError
  countdown := 1

/-- Wears the block out. -/
def wearOut : Interplay Unit Unit Unit := .ask 0 (.markBad 0) fun _ => .done ()

theorem outcomes_frail : ∃ w : Bench Counted Nat Unit Unit,
    (w.view 0).map Device.slots = some [some ⟨2, false, 15, [0xff, 0xff]⟩] ∧ w.left 0 = 1 ∧
    (perform (fun _ _ => throw .exhausted) 0 (.update (.erase 0))).run w =
      .ok (.error (.fault (.corrupt 0))) w ∧
    ∃ v, (perform (fun _ _ => throw .exhausted) 0 (.update (.prog 0 0 [1, 2]))).run w =
      .ok (.error (.fault .powerLoss)) v := by
  obtain ⟨w₀, w, made, worn, limit, bare, slots, left, config⟩ :
      ∃ w₀ w : Bench Counted Nat Unit Unit, create frail () = .ok w₀ ∧
        (wearOut.execute (fun _ _ _ => .done (.ok .resume)) 0).run w₀ = .ok () w ∧
        w.config.geometry.blockSize < Config.allocationLimit ∧
        (w.rig? 0).map Rig.callback = some none ∧
        (w.view 0).map Device.slots = some [some ⟨2, false, 15, [0xff, 0xff]⟩] ∧ w.left 0 = 1 ∧
        w.config = frail :=
    ⟨_, _, rfl, rfl, by decide, rfl, by decide +kernel, by decide +kernel, rfl⟩
  obtain ⟨D, view, hD⟩ := Option.map_eq_some_iff.1 slots
  obtain ⟨reached, outcome⟩ := outcomes (κ := Unit) (μ := Unit) (β := Unit)
  have wellFormed : w.WellFormed := by
    have agree := (reached frail () w₀ (pure ()) made fun _ _ => rfl).2
      (fun _ _ _ => .done (.ok .resume)) 0 wearOut
    rw [worn] at agree
    obtain ⟨_, _, h⟩ := agree.ok_left
    exact h.2
  have takes : w.refuses = false := refuses_of_ne (by rw [config]; decide)
  have found : D.slots[0]?.join = some ⟨2, false, 15, [0xff, 0xff]⟩ := by rw [hD]; rfl
  have told (u : Update) (block : u.block = 0) := outcome w 0 D (.update u) 0 _
    (fun _ _ => throw .exhausted) wellFormed limit bare view (congrArg some block) found
  refine ⟨w, slots, left, ?_, ?_⟩
  · obtain ⟨answer, v, ran, becomes, same⟩ := told (.erase 0) rfl
    have lawful : Request.Lawful w.config (some ⟨2, false, 15, [0xff, 0xff]⟩)
        (.update (.erase 0)) := by
      rintro _ ⟨⟩
      rw [config]
      decide
    have fails : Request.Fails w.config (some ⟨2, false, 15, [0xff, 0xff]⟩)
        (.update (.erase 0)) := by
      rw [config]
      exact ⟨rfl, rfl⟩
    rw [ran, (becomes takes).corrupt.2 ⟨lawful, fails⟩, same (.inr (.inl fails))]
  · obtain ⟨answer, v, ran, becomes, -⟩ := told (.prog 0 0 [1, 2]) rfl
    refine ⟨v, ?_⟩
    rw [ran, (becomes takes).powerLoss.2 ?_]
    rw [config, left]
    refine ⟨⟨⟨by decide, by decide, by decide⟩, ?_⟩, nofun, ⟨⟨_, rfl⟩, nofun⟩, rfl⟩
    rintro ⟨_, _, -, ⟨⟩, good, -⟩
    cases good

end Bench

end FaultyFlash
