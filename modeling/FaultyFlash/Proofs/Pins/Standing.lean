import FaultyFlash.Proofs.Containment.OutOfOrder
import FaultyFlash.Proofs.Pins.Benches
import FaultyFlash.Proofs.Sharing.Isolation

/-!
# Pins stand

Where the positions of a block fit next to the tag, a bad bit that was pinned stays where it is
until it is pinned or drawn again. One that was not pinned is redrawn by every erase, and a loss of
power that leaves reads to chance places it in the region of the update. In larger blocks the tag
collides with the positions.

## Main results

* `Bench.pins_stand`: pins, draws and losses of power on all benches with a history
-/

namespace FaultyFlash

open Flash (answered)

variable {κ μ α : Type} {cfg : Config} {d : Handle} {block : Nat} {x : Option Nat}

namespace Bench

/-- A device on a bench, as it is seen, where nothing is shared. -/
theorem rig?_of_view {w : Bench Counted Nat κ μ} {D : Device Block} (h : w.view d = some D) :
    ∃ r, w.rig? d = some r ∧ D = r.device.plain w.store ∧
      w.plain.rig? d = some (r.plain w.store) := by
  obtain ⟨r, hr, rfl⟩ := Option.map_eq_some_iff.1 h
  exact ⟨r, hr, rfl, plain_of_rig? hr⟩

/-- What is pinned on a block of a device that is seen. -/
theorem History.held {w : Bench Counted Nat κ μ} {ledger : Ledger} {m : μ} {D : Device Block}
    (h : History cfg m w ledger) (view : w.view d = some D) (pinned : D.Pinned block x) :
    w.WellFormed ∧ Held cfg d block x w.plain := by
  obtain ⟨r, hr, rfl, there⟩ := rig?_of_view view
  refine ⟨h.wellFormed, h.plain.2.remembers.1, ?_, fun {s} hs => ?_⟩
  · exact (List.getElem?_eq_some_iff.1 (rig?_eq_some.1 there)).1
  · cases there.symm.trans hs
    exact pinned

theorem Held.of_view {v : Bench Counted Nat κ μ} (h : Held cfg d block x v.plain) {E : Device Block}
    (view : v.view d = some E) : E.Pinned block x := by
  obtain ⟨r, -, rfl, there⟩ := rig?_of_view view
  exact h.pinned there

/-- On a new device nothing is pinned. -/
theorem pinned_create {w : Bench Counted Nat κ μ} {m : μ} {D : Device Block}
    (made : create cfg m = .ok w) (view : w.view 0 = some D) : D.Pinned block none := by
  obtain ⟨r, -, rfl, there⟩ := rig?_of_view view
  obtain ⟨-, image, -, plain⟩ := create_eq_ok.1 (plain_create made).2
  rw [plain, rig?_eq_some] at there
  have fresh := Option.some.inj (List.mem_singleton.1 (List.mem_of_getElem? there))
  rw [show r.device.plain w.store = Device.fresh Block cfg from congrArg Rig.device fresh]
  exact Device.pinned_fresh cfg block

section

variable {w v : Bench Counted Nat κ μ} {ledger : Ledger} {m : μ} {D : Device Block}
  (h : History cfg m w ledger) (view : w.view d = some D)

include h view

/-- A device of a bench with a history is sound, and remembers a last sync only if it is an
out-of-order device. -/
theorem History.sound : D.Sound cfg ∧ (cfg.crash ≠ .outOfOrder → D.synced = none) := by
  obtain ⟨r, -, rfl, there⟩ := rig?_of_view view
  obtain ⟨config, -⟩ := h.plain.2.remembers
  have sound := h.wellFormed.devices there
  rw [show w.config = cfg from config] at sound
  exact ⟨sound, fun inOrder => h.plain.2.unsynced inOrder there⟩

/-- Where devices do not return to their last sync, what is pinned now is all that is pinned. -/
theorem History.pinned (inOrder : cfg.crash ≠ .outOfOrder) (slots : D.slots.pin block = x) :
    D.Pinned block x :=
  Device.pinned_of_unsynced ((h.sound view).2 inOrder) slots

/-- What is pinned on a block is read back. -/
theorem History.setBadBit (narrow : cfg.geometry.Narrow) {bit : Nat}
    (run : (on d (Flash.setBadBit · block bit)).run w = .ok (.ok ()) v) :
    ∃ E, v.view d = some E ∧ E.slots.pin block = some bit ∧ E.synced = D.synced := by
  obtain ⟨sound, -⟩ := h.sound view
  obtain ⟨r, -, rfl, there⟩ := rig?_of_view view
  have config : w.plain.config = cfg := h.plain.2.remembers.1
  have alike := Alike.on (κ := κ) (μ := μ) d fun cfg others kept =>
    (Flash.Sharing.lockstep cfg others kept).setBadBit block bit
  obtain ⟨g, changed, same⟩ := on_ok there (alike.run_plain h.wellFormed.seen run).1
  rw [config] at changed
  obtain ⟨pinned, synced⟩ := Flash.setBadBit_ok narrow sound changed
  refine ⟨g.device, ?_, pinned, synced⟩
  rw [view_eq, same, rig?_settle there]
  rfl

/-- A bad bit that is pinned is answered. -/
theorem History.badBit {bit : Nat} (pinned : D.slots.pin block = some bit) :
    (on d (Flash.badBit · block)).run w = .ok (.ok (some bit)) w := by
  obtain ⟨sound, -⟩ := h.sound view
  obtain ⟨r, hr, rfl, there⟩ := rig?_of_view view
  have config : w.config = cfg := h.plain.2.remembers.1
  have inside : block < w.config.geometry.blockCount := by
    rw [config, ← sound.slots.length]
    exact Slots.lt_of_pin pinned
  rw [run_on_answered hr, (h.wellFormed.finds hr block).badBit inside,
    Slots.badBitPos_of_pin pinned, settle_flash hr]

/-- An erase that is done, and was not ignored, redraws the bad bit of a block that is not
pinned. -/
theorem History.redraws (narrow : cfg.geometry.Narrow) (unpinned : D.slots.pin block = none)
    (worn : ¬ (cfg.isBad D.slots[block]?.join ∧ cfg.worn = .eraseNoop))
    {reactions : Reactions κ μ} {depth : Nat}
    (run : (update (respondBy (fun respond code calls e => (reactions code calls e).run respond)
      depth) d (.erase block)).run w = .ok (.ok ()) v) :
    ∃ E c, v.view d = some E ∧ E.slots[block]? = some (some c) ∧ c.pinned? = none ∧
      c.badBitPos = D.generator.next.1.toNat % cfg.geometry.blockBits := by
  obtain ⟨sound, -⟩ := h.sound view
  obtain ⟨r, hr, rfl, there⟩ := rig?_of_view view
  obtain rfl : w.config = cfg := h.plain.2.remembers.1
  have limit : w.config.geometry.blockSize < Config.allocationLimit := by
    have narrow : w.config.geometry.blockSize * 8 ≤ 2 ^ 31 := narrow
    have large : 2 ^ 31 < Config.allocationLimit := by decide
    omega
  rcases h.wellFormed.update_ok hr (steady_respondBy reactions depth) run with
    ⟨ignored, -⟩ | ⟨-, E, after, ⟨f, g, slots, generator, completed, rfl⟩, -⟩
  · exact absurd (ignored.imp id fun h => (Option.some.inj h).symm) worn
  · obtain ⟨c, stored, free, position⟩ := Flash.redrawn_ok narrow (h.wellFormed.roomy limit) sound
      unpinned slots generator completed
    exact ⟨_, c, after, stored, free, position⟩

/-- A loss of power that leaves reads to chance places the bad bit of a block that is not pinned in
the region of the update. -/
theorem History.places (narrow : cfg.geometry.Narrow) {u : Update}
    (chance : cfg.crash = .metastable) (unpinned : D.slots.pin u.block = none)
    (some : (u.region cfg).2 ≠ 0) (run : (on d (Flash.crash · u)).run w = .ok (.ok ()) v) :
    ∃ E, v.view d = .some E ∧ E.Placed cfg u := by
  have pinned := h.pinned view (by rw [chance]; decide) unpinned
  obtain ⟨sound, -⟩ := h.sound view
  obtain ⟨r, -, rfl, there⟩ := rig?_of_view view
  have config : w.plain.config = cfg := h.plain.2.remembers.1
  obtain ⟨g, crashed, same⟩ := on_ok there
    (Alike.run_plain (SeenAs.lockstep.crash (i := ()) rfl u) h.wellFormed.seen run).1
  rw [config] at crashed
  have placed := Flash.placed_of_crash narrow chance some ⟨sound, pinned⟩ crashed
  refine ⟨g.device, ?_, placed⟩
  rw [view_eq, same, rig?_settle there]
  rfl

/-- So does an update that reports a loss of power. -/
theorem History.places_of_lost (narrow : cfg.geometry.Narrow) {u : Update}
    (chance : cfg.crash = .metastable) (unpinned : D.slots.pin u.block = none)
    (some : (u.region cfg).2 ≠ 0) (bare : (w.rig? d).map Rig.callback = .some none)
    {respond : Responder Counted Nat κ μ}
    (lost : (perform respond d (.update u)).run w = .ok (.error (.fault .powerLoss)) v) :
    ∃ E, v.view d = .some E ∧ E.Placed cfg u := by
  obtain ⟨r, hr, callback⟩ := Option.map_eq_some_iff.1 bare
  obtain ⟨worn, t, started, crashed⟩ := update_lost hr callback lost
  -- the update started, which is an act of the history, and crashed
  have run : (Act.start d u).perform.run w = .ok () t := run_map_eq_ok.2 ⟨_, started, rfl⟩
  have held := h.held view (h.pinned view (by rw [chance]; decide) unpinned)
  have kept := (Sparing.act narrow (.start d u) trivial w () t held run).1.2
  obtain ⟨f, -, rfl⟩ := on_ok hr started
  have view' := congrArg (Option.map fun s => s.device.plain f.store) (rig?_settle hr f)
  exact (h.act (.start d u) run).places view' narrow chance (kept.of_view view').slots some crashed

end

/-- Where the positions of a block fit next to the tag, pins and positions are never taken for each
other.

Whatever interplays and their callbacks do to a bench with a history, such as a new one, goes on
with it. On a new device nothing is pinned. On a bench with a history, a copy of a device is seen as
the device is. A bad bit that was pinned is answered for as long as it is pinned, and what is pinned
on a block of a device, be it a position or none, stays so: no act changes it but a pin or a draw
for that very block, or a return to other blocks, and neither does any interplay that asks for none
of these, through losses of power that its callbacks abort or resume. Devices that return to their
last sync are to have been pinned alike at that time. An erase that is done, and was not ignored by
a worn block, redraws the bad bit of a block that is not pinned. A loss of power that leaves reads
to chance places it in the region of the update, unless that is empty: so it does whenever a device
crashes, and when the update is over and reports the loss. -/
theorem pins_stand (narrow : cfg.geometry.Narrow) (m : μ) :
    (∀ (reactions : Reactions κ μ) (depth : Nat) (p : Interplay κ μ α)
      (w v : Bench Counted Nat κ μ) (ledger : Ledger) (a : α), History cfg m w ledger →
        (p.execute reactions depth).run w = .ok a v → ∃ ledger, History cfg m v ledger) ∧
    (∀ (w : Bench Counted Nat κ μ) (D : Device Block) (block : Nat),
      create cfg m = .ok w → w.view 0 = some D → D.Pinned block none) ∧
    ∀ (w v : Bench Counted Nat κ μ) (ledger : Ledger) (d : Handle) (D : Device Block)
      (block : Nat), History cfg m w ledger → w.view d = some D →
      (∀ e, (copy d).run w = .ok e v → v.view e = some D) ∧
      (∀ bit respond, (perform respond d (.setBadBit block bit)).run w = .ok (.ok ()) v →
        ∃ E, v.view d = some E ∧ E.slots.pin block = some bit ∧
          (cfg.crash ≠ .outOfOrder → E.Pinned block (some bit))) ∧
      (∀ bit respond, D.slots.pin block = some bit →
        (perform respond d (.badBit block)).run w = .ok (.ok (some bit)) w) ∧
      (∀ (a : Act κ μ) x E, D.Pinned block x → a.Spares d block x →
        a.perform.run w = .ok () v → v.view d = some E → E.Pinned block x) ∧
      (∀ (reactions : Reactions κ μ) depth (p : Interplay κ μ α) a x E, D.Pinned block x →
        p.Spares d block x → (∀ code calls e, (reactions code calls e).Spares d block x) →
        (p.execute reactions depth).run w = .ok a v → v.view d = some E → E.Pinned block x) ∧
      (∀ (reactions : Reactions κ μ) depth, D.slots.pin block = none →
        ¬ (cfg.isBad D.slots[block]?.join ∧ cfg.worn = .eraseNoop) →
        (perform (respondBy (fun respond code calls e => (reactions code calls e).run respond)
          depth) d (.update (.erase block))).run w = .ok (.ok ()) v →
        ∃ E c, v.view d = some E ∧ E.slots[block]? = some (some c) ∧ c.pinned? = none ∧
          c.badBitPos = D.generator.next.1.toNat % cfg.geometry.blockBits) ∧
      ∀ u : Update, cfg.crash = .metastable → D.slots.pin u.block = none →
        (u.region cfg).2 ≠ 0 →
        ((on d (Flash.crash · u)).run w = .ok (.ok ()) v →
          ∃ E, v.view d = some E ∧ E.Placed cfg u) ∧
        ∀ respond, (w.rig? d).map Rig.callback = some none →
          (perform respond d (.update u)).run w = .ok (.error (.fault .powerLoss)) v →
          ∃ E, v.view d = some E ∧ E.Placed cfg u := by
  refine ⟨fun reactions depth p w v ledger a h run => h.execute run,
    fun w D block => pinned_create, fun w v ledger d D block h view => ?_⟩
  refine ⟨fun e run => ?_, fun bit respond run => ?_, fun bit respond => h.badBit view,
    fun a x E pinned spares run after => ?_,
    fun reactions depth p a x E pinned asks responses run after => ?_,
    fun reactions depth unpinned worn run => h.redraws view narrow unpinned worn run,
    fun u chance unpinned some => ⟨h.places view narrow chance unpinned some,
      fun respond bare => h.places_of_lost view narrow chance unpinned some bare⟩⟩
  · rw [(view_copy h.wellFormed.seen run).1, view]
  · obtain ⟨E, after, pinned, synced⟩ := h.setBadBit view narrow run
    exact ⟨E, after, pinned, fun inOrder =>
      Device.pinned_of_unsynced (synced.trans ((h.sound view).2 inOrder)) pinned⟩
  · exact (Sparing.act narrow a spares w () v (h.held view pinned) run).1.2.of_view after
  · exact (Sparing.execute narrow asks responses depth w a v (h.held view pinned) run).1.2.of_view
      after

/-- A device of two blocks of two bytes, where a loss of power leaves reads to chance. -/
def chancy : Config where
  geometry := ⟨1, 1, 2, 2⟩
  eraseValue := some 0xff
  crash := .metastable

/-- Programs and erases the first block, and answers what comes of another erase that loses
power. -/
def loseFirst : Interplay Unit Unit (Except Failure Unit) :=
  .ask 0 (.update (.prog 0 0 [1, 2])) fun _ => .ask 0 (.update (.erase 0)) fun _ =>
    .ask 0 (.setCountdown 1) fun _ => .ask 0 (.update (.erase 0)) .done

/-- Callbacks that resume. -/
def resumes : Reactions Unit Unit := fun _ _ _ => .done (.ok .resume)

/-- Erases the second block. -/
def eraseSecond : BenchM Counted Nat Unit Unit (Except Failure Unit) :=
  perform (respondBy (fun respond code calls e => (resumes code calls e).run respond) 0) 0
    (.update (.erase 1))

/-- Pins a bit of the first block, and loses power there; then erases the second block, and loses
power at a prog of its second byte. Answers what comes of it, and whether the device was there. -/
def pinAndLose :
    BenchM Counted Nat Unit Unit (Option Unit × Bool × Option Unit × Option Unit) := do
  let pinned ← perform (fun _ _ => throw .exhausted) 0 (.setBadBit 0 3)
  match ← loseFirst.execute resumes 0 with
  | .error (.fault .powerLoss) =>
    let live := (← get).isLive 0
    let erased ← eraseSecond
    let lost ← on 0 (Flash.crash · (.prog 1 1 [5]))
    return (pinned.toOption, live, erased.toOption, lost.toOption)
  | _ => throw .exhausted

theorem pins_stand_chancy : ∃ (w₀ w₁ w₂ w₃ w₄ : Bench Counted Nat Unit Unit) (E F : Device Block)
    (b c : Block), create chancy () = .ok w₀ ∧
      (perform (fun _ _ => throw .exhausted) 0 (.setBadBit 0 3)).run w₀ = .ok (.ok ()) w₁ ∧
      (loseFirst.execute resumes 0).run w₁ =
        .ok (.error (.fault .powerLoss)) w₂ ∧
      (perform (fun _ _ => throw .exhausted) 0 (.badBit 0)).run w₂ = .ok (.ok (some 3)) w₂ ∧
      eraseSecond.run w₂ = .ok (.ok ()) w₃ ∧ w₃.view 0 = some E ∧
      E.slots[1]? = some (some b) ∧ b.pinned? = none ∧
      (on 0 (Flash.crash · (.prog 1 1 [5]))).run w₃ = .ok (.ok ()) w₄ ∧ w₄.view 0 = some F ∧
      F.slots[1]? = some (some c) ∧ c.pinned? = none ∧ 8 ≤ c.badBitPos ∧ c.badBitPos < 16 := by
  have comes : onNew chancy pinAndLose = some (some (), true, some (), some ()) := by
    decide +kernel
  obtain ⟨w₀, v, made, ran⟩ := onNew_eq_some.1 comes
  obtain ⟨x, w₁, pinned, ran⟩ := run_bind_eq_ok.1 ran
  obtain ⟨y, w₂, lost, ran⟩ := run_bind_eq_ok.1 ran
  split at ran
  case h_2 => cases ran
  obtain ⟨_, _, got, ran⟩ := run_bind_eq_ok.1 ran
  cases got
  obtain ⟨z, w₃, erased, ran⟩ := run_bind_eq_ok.1 ran
  obtain ⟨t, w₄, crashed, told⟩ := run_bind_eq_ok.1 ran
  simp only [EStateM.run_pure, EStateM.Result.ok.injEq, Prod.mk.injEq] at told
  obtain ⟨⟨hx, live, hz, ht⟩, rfl⟩ := told
  obtain rfl := toOption_eq_some.1 hx
  obtain rfl := toOption_eq_some.1 hz
  obtain rfl := toOption_eq_some.1 ht
  have narrow : chancy.geometry.Narrow := by
    unfold Geometry.Narrow
    decide
  have inOrder : chancy.crash ≠ .outOfOrder := by decide
  obtain ⟨reach, fresh, pins⟩ := pins_stand (κ := Unit) (α := Except Failure Unit) narrow ()
  obtain ⟨D, view⟩ : ∃ D, w₀.view 0 = some D := by
    obtain ⟨-, image, -, rfl⟩ := create_eq_ok.1 made
    exact ⟨_, rfl⟩
  obtain ⟨D₂, view₂⟩ : ∃ D, w₂.view 0 = some D := by
    obtain ⟨r, hr⟩ := Option.isSome_iff_exists.1 live
    exact ⟨_, congrArg (Option.map _) hr⟩
  have h₀ : History chancy () w₀ _ := .create made
  -- the first block is pinned, and stays so
  obtain ⟨-, sets, -⟩ := pins w₀ w₁ _ 0 D 0 h₀ view
  obtain ⟨D₁, view₁, -, first⟩ := sets 3 _ pinned
  obtain ⟨_, h₁⟩ := reach resumes 0 (.ask 0 (.setBadBit 0 3) .done) w₀ w₁ _ _ h₀
    (run_bind_eq_ok.2 ⟨_, w₁, pinned, rfl⟩)
  obtain ⟨_, h₂⟩ := reach resumes 0 loseFirst w₁ w₂ _ _ h₁ lost
  have spares (block : Nat) (x : Option Nat) : loseFirst.Spares 0 block x :=
    ⟨fun _ => trivial, fun _ => ⟨fun _ => trivial, fun _ => ⟨fun _ => trivial, fun _ =>
      ⟨fun _ => trivial, fun _ => trivial⟩⟩⟩⟩
  obtain ⟨-, -, -, -, stays, -⟩ := pins w₁ w₂ _ 0 D₁ 0 h₁ view₁
  have stayed := stays resumes 0 loseFirst _ _ D₂ (first inOrder) (spares 0 _)
    (fun _ _ _ => trivial) lost view₂
  obtain ⟨-, -, answers, -⟩ := pins w₂ w₂ _ 0 D₂ 0 h₂ view₂
  have answer := answers 3 (fun _ _ => throw .exhausted) stayed.slots
  -- the second block is not pinned
  obtain ⟨-, -, -, -, stays, -⟩ := pins w₀ w₂ _ 0 D 1 h₀ view
  have free := stays resumes 0 (.ask 0 (.setBadBit 0 3) fun _ => loseFirst) _ none D₂
    (fresh w₀ D 1 made view) ⟨fun _ => Nat.zero_ne_one, fun _ => spares 1 none⟩
    (fun _ _ _ => trivial) (run_bind_eq_ok.2 ⟨_, w₁, pinned, lost⟩) view₂
  obtain ⟨-, -, -, -, -, redraws, -⟩ := pins w₂ w₃ _ 0 D₂ 1 h₂ view₂
  obtain ⟨E, b, view₃, hb, unpinned, -⟩ :=
    redraws resumes 0 free.slots (fun worn => absurd worn.2 (by decide)) erased
  obtain ⟨_, h₃⟩ := reach resumes 0 (.ask 0 (.update (.erase 1)) .done) w₂ w₃ _ _ h₂
    (run_bind_eq_ok.2 ⟨_, w₃, erased, rfl⟩)
  have still : E.slots.pin 1 = none := (Slots.pin_of_slot hb).trans unpinned
  obtain ⟨-, -, -, -, -, -, places⟩ := pins w₃ w₄ _ 0 E 1 h₃ view₃
  obtain ⟨F, view₄, c, hc, -, left, low, high⟩ :=
    (places (.prog 1 1 [5]) rfl still (by decide)).1 crashed
  exact ⟨w₀, w₁, w₂, w₃, w₄, E, F, b, c, made, pinned, lost, answer, erased, view₃, hb, unpinned,
    crashed, view₄, hc, left, low, high⟩

/-- A device of one block that is one byte too large for its positions to fit next to the tag. -/
def wide : Config where
  geometry := ⟨1, 1, 2 ^ 28 + 1, 1⟩

/-- There a position that is pinned is taken for another one. -/
theorem pins_stand_wide : wide.geometry.blockSize < Config.allocationLimit ∧
    ∃ w v : Bench Counted Nat Unit Unit, create wide () = .ok w ∧
      (perform (fun _ _ => throw .exhausted) 0 (.setBadBit 0 (2 ^ 31))).run w = .ok (.ok ()) v ∧
      (perform (fun _ _ => throw .exhausted) 0 (.badBit 0)).run v = .ok (.ok (some 0)) v := by
  -- the block is not looked at byte by byte: all that matters is the word
  obtain ⟨w, v, b, made, pinned, word, answered⟩ :
      ∃ (w v : Bench Counted Nat Unit Unit) (b : Block), create wide () = .ok w ∧
        (perform (fun _ _ => throw .exhausted) 0 (.setBadBit 0 (2 ^ 31))).run w = .ok (.ok ()) v ∧
        b.badBit = Block.pin ∧
        (perform (fun _ _ => throw .exhausted) 0 (.badBit 0)).run v =
          .ok (.ok (some b.badBitPos)) v :=
    ⟨_, _, _, rfl, rfl, rfl, rfl⟩
  have position : b.badBitPos = 0 := by
    rw [Block.badBitPos_eq, word, show Block.pin.toNat % 2 ^ 31 = 0 by decide, Nat.zero_mod]
  rw [position] at answered
  exact ⟨by decide, w, v, made, pinned, answered⟩

end Bench

end FaultyFlash
