import FaultyFlash.Proofs.Invariants
import FaultyFlash.Proofs.Pins.Blocks

/-!
# Pins of a device

Where the positions of a block fit next to the tag, nothing but a pin or a draw for its bad bit
changes whether and where a block is pinned. Draws of new blocks and of erases are never taken for
pins, and a loss of power may place the bad bit of a block only if it is not pinned.

## Main definitions

* `Device.Pinned`: what is pinned on a block, now and at the last sync
* `Flash.Holding`, `Flash.KeepsPin`: sound devices with a pin, and operations that keep it
* `Request.Spares`: requests that leave a pin alone
* `Device.Placed`: the bad bit is in the region of an update

## Main results

* `Flash.KeepsPin.complete`, `Flash.KeepsPin.crash`, `Flash.KeepsPin.effect`: updates, losses of
  power and requests keep pins
* `Flash.setBadBit_ok`: a position that is pinned is read back
* `Flash.redrawn_ok`, `Flash.placed_of_crash`: where erases and losses of power leave the bad bit
-/

namespace FaultyFlash

variable {cfg : Config} {block i : Nat} {x y : Option Nat}

namespace Slots

variable {slots : Slots Block}

theorem pin_of_slot {b : Option Block} (h : slots[i]? = some b) :
    slots.pin i = b.bind Block.pinned? := by
  rw [pin, h, Option.join_some]

theorem pin_set (h : i < slots.length) (b : Option Block) :
    Slots.pin (slots.set i b) block =
      if i = block then b.bind Block.pinned? else slots.pin block := by
  unfold pin
  by_cases same : i = block
  · rw [if_pos same, ← same, List.getElem?_set_self h, Option.join_some]
  · rw [if_neg same, List.getElem?_set_ne same]

/-- The bad bit of a block that is pinned is the one that is pinned. -/
theorem badBitPos_of_pin {bit : Nat} (h : slots.pin i = some bit) :
    slots[i]?.join.map Block.badBitPos = some bit := by
  unfold pin at h
  obtain ⟨b, there, word⟩ := Option.bind_eq_some_iff.1 h
  unfold Block.pinned? at word
  split at word
  · rw [there, Option.map_some, word]
  · cases word

theorem lt_of_pin {bit : Nat} (h : slots.pin i = some bit) : i < slots.length := by
  unfold pin at h
  obtain ⟨b, there, -⟩ := Option.bind_eq_some_iff.1 h
  exact (List.getElem?_eq_some_iff.1 (Option.join_eq_some_iff.1 there)).1

end Slots

/-- What is pinned on a block is `x`, now and at the last sync. -/
structure Device.Pinned (block : Nat) (x : Option Nat) (D : Device Block) : Prop where
  slots : D.slots.pin block = x
  synced {before : Slots Block} (h : D.synced = some before) : before.pin block = x

/-- Where no sync is remembered, what is pinned now is all that is pinned. -/
theorem Device.pinned_of_unsynced {D : Device Block} (unsynced : D.synced = none)
    (slots : D.slots.pin block = x) : D.Pinned block x := by
  refine ⟨slots, fun {before} hb => ?_⟩
  rw [unsynced] at hb
  cases hb

/-- A request leaves alone what is pinned on a block. A draw leaves a block alone that is not
pinned. -/
def Request.Spares (block : Nat) (x : Option Nat) : Request → Prop
  | .setBadBit i _ => i ≠ block
  | .randomizeBadBit i => i ≠ block ∨ x = none
  | _ => True

/-- The bad bit of the block of an update is not pinned, and lies in the region of the update. -/
def Device.Placed (cfg : Config) (u : Update) (D : Device Block) : Prop :=
  ∃ c, D.slots[u.block]? = some (some c) ∧ c.metastable ∧ c.pinned? = none ∧
    (u.region cfg).1 * 8 ≤ c.badBitPos ∧
    c.badBitPos < ((u.region cfg).1 + (u.region cfg).2) * 8

/-- On a new device nothing is pinned. -/
theorem Device.pinned_fresh (cfg : Config) (block : Nat) :
    (Device.fresh Block cfg).Pinned block none := by
  have empty : Slots.pin (List.replicate cfg.geometry.blockCount none) block = none := by
    unfold Slots.pin
    rw [List.getElem?_replicate]
    split <;> rfl
  refine ⟨empty, fun {before} hb => ?_⟩
  simp only [fresh] at hb
  split at hb
  · cases hb
    exact empty
  · cases hb

namespace Flash

/-- The device is sound, and what is pinned on a block is `x`. -/
structure Holding (cfg : Config) (block : Nat) (x : Option Nat) (f : Flash Plain Block) : Prop where
  sound : f.device.Sound cfg
  pinned : f.device.Pinned block x

/-- The operation keeps devices sound, and what is pinned on a block. -/
abbrev KeepsPin {α : Type} (cfg : Config) (block : Nat) (x : Option Nat)
    (op : FlashM Plain Block α) : Prop :=
  Preserves (Diagonal (Holding cfg block x)) op op

variable {α : Type} {f : Flash Plain Block}

theorem Holding.congr {g : Flash Plain Block} (h : Holding cfg block x f)
    (slots : g.device.slots = f.device.slots) (synced : g.device.synced = f.device.synced) :
    Holding cfg block x g :=
  ⟨h.sound.congr slots synced, slots ▸ h.pinned.slots, fun hs => h.pinned.synced (synced ▸ hs)⟩

/-- A block may be put where it is pinned alike. -/
theorem Holding.put {b : Block} {s : Generator} (h : Holding cfg block x f)
    (inside : i < f.device.slots.length) (size : b.data.length = cfg.geometry.blockSize)
    (same : i = block → b.pinned? = x) : Holding cfg block x (f.placed i b s) := by
  refine ⟨⟨h.sound.slots.set i ?_, h.sound.synced⟩, ?_, h.pinned.synced⟩
  · rintro _ ⟨⟩
    exact size
  · show Slots.pin (f.device.slots.set i (some b)) block = x
    rw [Slots.pin_set inside]
    split
    · next here => exact same here
    · exact h.pinned.slots

/-! ## Changes of a block -/

/-- A value that is drawn is below the bound. -/
theorem ends_drawBelow {P : Flash Plain Block → Prop} (reseed : ∀ f x, P f → P (f.reseed x))
    (n : Nat) : Ends P (drawBelow n) (fun v f => v < n ∧ P f) P := by
  apply Ends.of_run
  intro f hf
  by_cases none : n = 0
  · subst none
    exact hf
  · rw [run_drawBelow none]
    exact ⟨Nat.mod_lt _ (Nat.pos_of_ne_zero none), reseed f _ hf⟩

variable (narrow : cfg.geometry.Narrow)

include narrow

/-- A block that becomes the device's own is pinned as before: a new one is not. -/
theorem ends_own : Ends (fun f => Holding cfg block x f ∧ f.device.slots.pin i = y) (own cfg i)
    (fun b f => Holding cfg block x f ∧ f.device.slots[i]? = some (some b) ∧ b.pinned? = y)
    (Holding cfg block x) := by
  apply Ends.of_run
  rintro f ⟨h, hy⟩
  rw [run_own_plain]
  rcases there : f.device.slots[i]? with _ | _ | b
  · exact h
  · -- nothing is pinned where there is no block, nor on the block that is allocated for it
    have inside : i < f.device.slots.length := (List.getElem?_eq_some_iff.1 there).1
    have unpinned : y = none := hy.symm.trans (Slots.pin_of_slot there)
    simp only [run_allocate_plain]
    by_cases none : cfg.geometry.blockBits = 0
    · rw [if_pos none]
      exact h
    rw [if_neg none]
    by_cases large : Config.allocationLimit ≤ cfg.geometry.blockSize
    · rw [if_pos large]
      exact h.congr rfl rfl
    rw [if_neg large]
    let bit := f.device.generator.next.1.toNat % cfg.geometry.blockBits
    have small : bit < 2 ^ 31 :=
      Nat.lt_of_lt_of_le (Nat.mod_lt _ (Nat.pos_of_ne_zero none)) narrow
    have fresh : (Block.fresh cfg.geometry.blockSize cfg.fill bit.toUInt32).pinned? = .none :=
      Block.pinned?_drawn rfl small
    refine ⟨h.put inside (by simp [Block.fresh]) fun here => ?_, List.getElem?_set_self inside, ?_⟩
    · subst here
      rw [fresh, ← unpinned, ← hy, h.pinned.slots]
    · rw [fresh, unpinned]
  · exact ⟨h, there, (Slots.pin_of_slot there).symm.trans hy⟩

omit narrow in
/-- A block is put in the place of one that is pinned alike. -/
theorem ends_put {b c : Block} (size : c.data.length = b.data.length)
    (same : i = block → c.pinned? = x) :
    Ends (fun f => Holding cfg block x f ∧ f.device.slots[i]? = some (some b) ∧ b.pinned? = y)
      (put i c) (fun _ => Holding cfg block x) (Holding cfg block x) := by
  apply Ends.of_run
  rintro f ⟨h, there, -⟩
  rw [run_put_plain, there]
  have length := h.sound.slots.size (List.mem_of_getElem? there)
  exact h.put (s := f.device.generator) (List.getElem?_eq_some_iff.1 there).1
    (size.trans length) same

/-- A change of a block that is pinned at `y` keeps a pin if the pin is on another block, or on the
changed block, too. -/
theorem ends_amend {change : Block → Except Defect Block}
    (kept : ∀ b c, b.data.length = cfg.geometry.blockSize → b.pinned? = y → change b = .ok c →
      c.data.length = b.data.length ∧ (i = block → y = x → c.pinned? = x)) :
    Ends (fun f => Holding cfg block x f ∧ f.device.slots.pin i = y) (amend cfg i change)
      (fun _ => Holding cfg block x) (Holding cfg block x) := by
  intro f g hfg
  refine ((ends_own narrow).bind fun b => ?_) f g hfg
  rintro _ g ⟨rfl, h, there, hb⟩
  have length := h.sound.slots.size (List.mem_of_getElem? there)
  cases changed : change b with
  | error d => exact ⟨rfl, rfl, h⟩
  | ok c =>
    obtain ⟨size, same⟩ := kept b c length hb changed
    refine ends_put size (fun here => same here ?_) g g ⟨rfl, h, there, hb⟩
    rw [← hb, ← h.pinned.slots, ← here, Slots.pin_of_slot there]
    rfl

/-- A change keeps pins if it keeps the pin of the block. -/
theorem KeepsPin.amend {change : Block → Except Defect Block}
    (kept : ∀ b c, b.data.length = cfg.geometry.blockSize → change b = .ok c →
      c.data.length = b.data.length ∧ c.pinned? = b.pinned?) :
    KeepsPin cfg block x (Flash.amend cfg i change) := by
  rintro f g ⟨rfl, h⟩
  refine ends_amend narrow (fun b c length hb changed => ?_) g g ⟨rfl, h, rfl⟩
  obtain ⟨size, same⟩ := kept b c length changed
  exact ⟨size, fun _ hx => same.trans (hb.trans hx)⟩

namespace KeepsPin

omit narrow in
theorem looking : Looking (Diagonal (Holding cfg block x)) :=
  looking_diagonal (fun _ _ h => h.congr rfl rfl)
    fun _ c _ h => h.congr (c.slots_set ..) (c.synced_set ..)

omit narrow in
/-- What leaves the device as it is keeps pins. -/
theorem of_leaves {op : FlashM Plain Block α} (leaves : Leaves id op) :
    KeepsPin cfg block x op := by
  apply Ends.of_run
  intro f hf
  have same := leaves f
  unfold answered at same
  cases hr : op.run f with
  | ok a g =>
    rw [hr] at same
    exact hf.congr (congrArg Device.slots same) (congrArg Device.synced same)
  | error e g =>
    rw [hr] at same
    exact hf.congr (congrArg Device.slots same) (congrArg Device.synced same)

/-! ## Updates -/

omit narrow in
/-- An update writes its block out and counts its bytes after it changed the block. -/
theorem saveAndCount (off len : Nat) (c : Counter) (n : UInt64) :
    KeepsPin cfg block x (do
      Flash.save cfg i off len
      modifyDevice fun d => c.set (c.get d + n) d) :=
  (of_leaves (.save cfg i off len)).bind fun _ => looking.count c n

/-- An erase keeps a pin if the word that it writes does. -/
theorem ends_eraseTo {bit : Option Nat}
    (kept : ∀ b : Block, b.pinned? = y → (erased cfg bit b).pinned? = y) :
    Ends (fun f => Holding cfg block x f ∧ f.device.slots.pin i = y) (eraseTo cfg i bit)
      (fun _ => Holding cfg block x) (Holding cfg block x) := by
  refine Coupled.bind (ends_amend narrow fun b c _ hb changed => ?_) fun _ =>
    saveAndCount 0 cfg.geometry.blockSize .bytesErased cfg.geometry.blockSize.toUInt64
  cases changed
  exact ⟨length_erased .., fun _ hx => (kept b hb).trans hx⟩

/-- An erase leaves a pinned bad bit, and what it draws for another is not taken for a pin. -/
theorem erase (worn : Bool) : KeepsPin cfg block x (Flash.complete cfg worn (.erase i)) := by
  rintro f g ⟨rfl, h⟩
  -- the draw comes before the block is changed, so what is pinned on it is kept in mind as `y`
  let y := g.device.slots.pin i
  let Stored (f : Flash Plain Block) := Holding cfg block x f ∧ f.device.slots.pin i = y
  have fetched : Ends Stored (fetch i) (fun b f => Stored f ∧ b.bind Block.pinned? = y)
      (Holding cfg block x) := by
    apply Ends.of_run
    rintro f ⟨h, hy⟩
    rw [run_fetch_plain]
    rcases there : f.device.slots[i]? with _ | b
    · exact h
    · exact ⟨⟨h, hy⟩, (Slots.pin_of_slot there).symm.trans hy⟩
  refine (fetched.bind fun b => ?_) g g ⟨rfl, h, rfl⟩
  rintro _ g ⟨rfl, stored, hb⟩
  by_cases pinned : b.elim false Block.isPinned = true
  · simp only [pinned, if_true]
    exact ends_eraseTo narrow (fun b hb => pinned?_erased_none.trans hb) g g ⟨rfl, stored⟩
  · have unpinned : y = none := by
      rw [← hb]
      cases b with
      | none => rfl
      | some b => exact Block.pinned?_eq_none.2 (Bool.eq_false_of_not_eq_true pinned)
    simp only [pinned, Bool.false_eq_true, if_false, map_eq_pure_bind, bind_assoc, pure_bind]
    refine (Coupled.bind ((ends_drawBelow (P := Stored) (fun f _ h => ⟨h.1.congr rfl rfl, h.2⟩)
      cfg.geometry.blockBits).mono (fun _ _ => id) (fun _ _ _ => id) fun _ _ h => ⟨h.1, h.2.1⟩)
        fun bit => ?_) g g ⟨rfl, stored⟩
    rintro _ g ⟨rfl, inside, stored⟩
    refine ends_eraseTo narrow (fun b _ => ?_) g g ⟨rfl, stored⟩
    rw [unpinned]
    exact Block.pinned?_drawn rfl (Nat.lt_of_lt_of_le inside narrow)

theorem complete (worn : Bool) (u : Update) :
    KeepsPin cfg block x (Flash.complete cfg worn u) := by
  cases u with
  | prog i off data =>
    refine Coupled.bind (KeepsPin.amend narrow fun b c _ changed => ?_) fun _ =>
      saveAndCount off data.length .bytesProgrammed _
    have prog := programmed_ok changed
    exact ⟨prog.length, Block.pinned?_congr prog.badBit prog.length⟩
  | erase i => exact erase narrow worn

/-! ## Losing power -/

/-- What is changed after an update landed changes pins alone. -/
theorem landing {u : Update} {off len : Nat} {change : Block → Except Defect Block}
    (kept : ∀ b c, off + len ≤ cfg.geometry.blockSize → change b = .ok c →
      c.data.length = b.data.length ∧ c.pinned? = b.pinned?) :
    KeepsPin cfg block x (Flash.amend cfg i fun b => do change (← landed cfg u off len b)) := by
  refine KeepsPin.amend narrow fun b c length changed => ?_
  rcases landing : landed cfg u off len b with d | l
  · rw [landing] at changed
    cases changed
  · rw [landing] at changed
    obtain ⟨held, same⟩ := pinned?_landed landing
    obtain ⟨size, pinned⟩ := kept l c (length ▸ held) changed
    exact ⟨size.trans (length_landed landing), pinned.trans same⟩

/-- A bit that is inverted leaves the pin of the block. -/
theorem tearBit (u : Update) (off len : Nat) :
    KeepsPin cfg block x (Flash.tearBit cfg u off len) := by
  rintro f g ⟨rfl, h⟩
  refine ((ends_own narrow).bind fun b => ?_) g g ⟨rfl, h, rfl⟩
  let Owned (f : Flash Plain Block) := Holding cfg block x f ∧
    f.device.slots[u.block]? = some (some b) ∧ b.pinned? = g.device.slots.pin u.block
  have owned (f g : Flash Plain Block) (h : Diagonal Owned f g) :
      Diagonal (Holding cfg block x) f g := ⟨h.1, h.2.1⟩
  show Ends Owned _ (fun _ => Holding cfg block x) (Holding cfg block x)
  cases b.region off len with
  | error d => exact Coupled.raise _ owned
  | ok old =>
    show Coupled _ (if _ then _ else _) (if _ then _ else _) _ _
    split
    · have drawn (n : Nat) :
          Ends Owned (drawBelow n) (fun _ => Owned) (Holding cfg block x) :=
        (ends_drawBelow (fun _ _ h => ⟨h.1.congr rfl rfl, h.2⟩) n).mono (fun _ _ => id)
          (fun _ _ _ h => ⟨h.1, h.2.2⟩) owned
      refine Coupled.bind (drawn _) fun n => ?_
      cases (Bytes.diff old (u.outcome cfg old))[n]? with
      | none => exact Coupled.pure _ owned
      | some bit =>
        cases flipped : b.flip (off * 8 + bit) with
        | error d =>
          simp only [flipped]
          exact Coupled.raise _ owned
        | ok c =>
          simp only [flipped]
          rintro _ t ⟨rfl, ht, there, hb⟩
          have pinned : u.block = block → c.pinned? = x := by
            rintro rfl
            rw [Block.pinned?_flip flipped, ← ht.pinned.slots, Slots.pin_of_slot there]
            rfl
          exact ends_put (Block.length_flip flipped) pinned t t ⟨rfl, ht, there, hb⟩
    · exact Coupled.pure _ owned

/-- A loss of power draws the bad bit of a block only if it is not pinned, and from its region. -/
theorem tear (u : Update) : KeepsPin cfg block x (Flash.tear cfg u) := by
  unfold Flash.tear
  dsimp only
  split
  · exact Coupled.pure _ fun _ _ => id
  cases cfg.crash with
  | noop => exact Coupled.pure _ fun _ _ => id
  | someBits => exact tearBit narrow u _ _
  | mostBits =>
    exact (looking.drawBelow _).bind fun bit => landing narrow fun b c _ flipped =>
      ⟨Block.length_flip flipped, Block.pinned?_flip flipped⟩
  | outOfOrder =>
    exact KeepsPin.amend narrow fun b c _ landed =>
      ⟨length_landed landed, (pinned?_landed landed).2⟩
  | metastable =>
    -- the bit is drawn for the region, which lies in the block, so it fits next to the tag
    refine Coupled.bind (ends_drawBelow (fun _ _ h => h.congr rfl rfl) _) fun bit => ?_
    rintro f g ⟨same, inside, h⟩
    refine landing narrow (fun b c held changed => ?_) f g ⟨same, h⟩
    cases changed
    refine ⟨rfl, ?_⟩
    by_cases pinned : b.isPinned = true
    · exact Block.pinned?_congr (if_pos pinned) rfl
    · rw [Block.pinned?_eq_none.2 (Bool.eq_false_of_not_eq_true pinned)]
      refine Block.pinned?_drawn (if_neg pinned) (Nat.lt_of_lt_of_le ?_ narrow)
      unfold Geometry.blockBits
      omega

omit narrow in
/-- The last sync tells of a pin what the device does. -/
theorem rollBack {before : Slots Block} :
    Ends (fun f => Holding cfg block x f ∧ before.Sound cfg ∧ before.pin block = x)
      (Flash.rollBack before i) (fun _ => Holding cfg block x) (Holding cfg block x) := by
  apply Ends.of_run
  rintro f ⟨h, sound, pinned⟩
  rw [run_rollBack_plain]
  by_cases length : before.length ≠ f.device.slots.length
  · rw [if_pos length]
    exact h
  rw [if_neg length]
  rcases there : f.device.slots[i]? with _ | b
  · exact h
  have inside : i < before.length := by
    rw [Decidable.not_not.1 length]
    exact (List.getElem?_eq_some_iff.1 there).1
  refine ⟨⟨sound.set i fun c hc => ?_, h.sound.synced⟩, ?_, h.pinned.synced⟩
  · subst hc
    exact h.sound.slots.size (List.mem_of_getElem? there)
  · show Slots.pin (before.set i b) block = x
    rw [Slots.pin_set inside]
    split
    · next here => rw [← Slots.pin_of_slot there, here, h.pinned.slots]
    · exact pinned

theorem crash (u : Update) : KeepsPin cfg block x (Flash.crash cfg u) := by
  refine (tear narrow u).bind fun _ => Coupled.get_bind ?_
  rintro _ f ⟨rfl, hf⟩
  -- the last sync is part of what is pinned, so a device may return to it
  rcases hs : f.device.synced with _ | before
  · exact (of_leaves (.save cfg u.block 0 _)).mono (fun _ _ h => h.2.2) (fun _ _ _ => id)
      fun _ _ => id
  · refine Coupled.bind (rollBack.mono ?_ (fun _ _ _ => id) fun _ _ => id) fun _ =>
      of_leaves (.saveAll cfg)
    rintro _ g ⟨rfl, rfl, _, hg⟩
    exact ⟨rfl, hg, hg.sound.synced hs, hg.pinned.synced hs⟩

/-! ## Requests -/

omit narrow in
theorem start (u : Update) : KeepsPin cfg block x (Flash.start cfg u) := by
  refine looking.start ?_ ?_ u
  · rintro f _ ⟨rfl, -⟩
    rfl
  · rintro f _ n ⟨rfl, h⟩
    exact ⟨rfl, h.congr rfl rfl⟩

omit narrow in
theorem sync : KeepsPin cfg block x Flash.sync := by
  apply Ends.of_run
  intro f h
  rw [run_sync_plain]
  refine ⟨⟨h.sound.slots, fun {before} hb => ?_⟩, h.pinned.slots, fun {before} hb => ?_⟩ <;>
    obtain ⟨_, -, rfl⟩ := Option.map_eq_some_iff.1 hb
  · exact h.sound.slots
  · exact h.pinned.slots

theorem setWear (wear : UInt32) : KeepsPin cfg block x (Flash.setWear cfg i wear) :=
  (preserves_contract _).bind fun _ => KeepsPin.amend narrow fun b c _ changed => by
    cases changed
    exact ⟨rfl, Block.pinned?_congr rfl rfl⟩

theorem flipBit (bit : Nat) : KeepsPin cfg block x (Flash.flipBit cfg i bit) :=
  (preserves_contract _).bind fun _ => (preserves_contract _).bind fun _ =>
    (KeepsPin.amend narrow fun _ _ _ flipped =>
      ⟨Block.length_flip flipped, Block.pinned?_flip flipped⟩).bind fun _ =>
        of_leaves (.save cfg i _ 1)

/-- A pin on another block is of no concern. -/
theorem setBadBit {bit : Nat} (other : i ≠ block) :
    KeepsPin cfg block x (Flash.setBadBit cfg i bit) := by
  refine (preserves_contract _).bind fun _ => (preserves_contract _).bind fun _ => ?_
  rintro f g ⟨rfl, h⟩
  refine ends_amend narrow (fun b c _ _ changed => ?_) g g ⟨rfl, h, rfl⟩
  cases changed
  exact ⟨rfl, fun here => absurd here other⟩

/-- A draw is not taken for a pin. -/
theorem randomizeBadBit (other : i ≠ block ∨ x = none) :
    KeepsPin cfg block x (Flash.randomizeBadBit cfg i) := by
  refine (preserves_contract _).bind fun _ =>
    Coupled.bind (ends_drawBelow (fun _ _ h => h.congr rfl rfl) _) fun bit => ?_
  rintro f g ⟨rfl, inside, h⟩
  refine ends_amend narrow (fun b c _ _ changed => ?_) g g ⟨rfl, h, rfl⟩
  cases changed
  refine ⟨rfl, fun here _ => ?_⟩
  rw [other.resolve_left fun differ => differ here]
  exact Block.pinned?_drawn rfl (Nat.lt_of_lt_of_le inside narrow)

/-- A request keeps the pins that it spares. -/
theorem effect {r : Request} (direct : r.isDirect) (spares : r.Spares block x) :
    KeepsPin cfg block x (r.effect cfg) := by
  by_cases looks : r.onlyLooks
  · exact looking.looks looks
  cases r with
  | sync => exact sync
  | setWear i wear => exact setWear narrow wear
  | markBad i => exact setWear narrow cfg.wornOut
  | markGood i => exact setWear narrow 0
  | setBadBit i bit => exact setBadBit narrow spares
  | randomizeBadBit i => exact randomizeBadBit narrow spares
  | flipBit i bit => exact flipBit narrow bit
  | blockRefs i => exact preserves_of_answered (answered_blockRefs cfg i)
  | setCounter c value =>
    apply Coupled.modify
    rintro f _ ⟨rfl, h⟩
    exact ⟨rfl, h.congr (c.slots_set ..) (c.synced_set ..)⟩
  | setCountdown value =>
    apply Coupled.modify
    rintro f _ ⟨rfl, h⟩
    exact ⟨rfl, h.congr rfl rfl⟩
  | counter | countdown | allocated | image => exact preserves_of_answered fun _ => rfl
  | update | copy => cases direct
  | _ => exact absurd rfl looks

end KeepsPin

/-! ## Where the bad bit is -/

variable {g : Flash Plain Block}

/-- A position that is pinned is read back. -/
theorem setBadBit_ok {bit : Nat} (sound : f.device.Sound cfg)
    (h : (setBadBit cfg i bit).run f = .ok () g) :
    g.device.slots.pin i = some bit ∧ g.device.synced = f.device.synced := by
  unfold setBadBit at h
  -- both contracts were kept, so the position is inside the block
  obtain ⟨_, _, checked, h⟩ := run_bind_eq_ok.1 h
  obtain ⟨_, _, within, h⟩ := run_bind_eq_ok.1 h
  rw [run_contract] at checked within
  split at checked
  case h_2 => cases checked
  cases checked
  split at within
  case h_2 => cases within
  next inside =>
  cases within
  by_cases small : bit < cfg.geometry.blockBits
  case neg =>
    rw [if_neg small] at inside
    cases inside
  obtain ⟨b, c, y, owns, changed, rfl⟩ := amend_ok h
  cases changed
  refine ⟨?_, rfl⟩
  have size : b.data.length = cfg.geometry.blockSize := by
    rw [← owns.stored, sound.slots.length_stored]
  have bits : b.bits = cfg.geometry.blockBits := congrArg (· * 8) size
  show Slots.pin (f.device.slots.set i _) i = _
  rw [Slots.pin_set owns.lt_length, if_pos rfl]
  exact Block.pinned?_pin rfl (Nat.lt_of_lt_of_eq small bits.symm)
    (Nat.le_trans (Nat.le_of_eq bits) narrow)

/-- An erase that is completed redraws the bad bit of a block that is not pinned. -/
theorem redrawn_ok {D : Device Block} {worn : Bool} (room : cfg.Roomy) (sound : D.Sound cfg)
    (unpinned : D.slots.pin i = none) (slots : f.device.slots = D.slots)
    (generator : f.device.generator = D.generator)
    (h : (Flash.complete cfg worn (.erase i)).run f = .ok () g) :
    ∃ c, g.device.slots[i]? = some (some c) ∧ c.pinned? = none ∧
      c.badBitPos = D.generator.next.1.toNat % cfg.geometry.blockBits := by
  obtain ⟨b, owns, left⟩ := complete_erase_ok room h
  have owns : D.Owns cfg i b := by rwa [Device.Owns, slots] at owns
  have size : b.data.length = cfg.geometry.blockSize := by
    rw [← owns.stored, sound.slots.length_stored]
  have drawn : redrawn cfg f.device i =
      some (D.generator.next.1.toNat % cfg.geometry.blockBits) := by
    unfold redrawn
    rw [slots, generator, if_neg]
    intro pinned
    unfold Slots.pin at unpinned
    cases there : D.slots[i]?.join with
    | none => simp [there] at pinned
    | some b =>
      rw [there, Option.bind_some] at unpinned
      rw [there, Option.elim_some, Block.pinned?_eq_none.1 unpinned] at pinned
      cases pinned
  have inside : D.generator.next.1.toNat % cfg.geometry.blockBits < cfg.geometry.blockBits :=
    Nat.mod_lt _ (Nat.pos_of_ne_zero room.bits)
  have small := Nat.lt_of_lt_of_le inside narrow
  rw [left, slots, drawn]
  refine ⟨_, List.getElem?_set_self owns.lt_length, Block.pinned?_drawn rfl small,
    Block.badBitPos_drawn rfl small ?_⟩
  rw [Block.bits, length_erased, size]
  exact inside

omit narrow in
/-- A loss of power leaves the block of the update as it was torn. -/
theorem torn_of_wreck {u : Update} (h : (wreck cfg u).run f = .ok () g) :
    ∃ t, (Flash.tear cfg u).run f = .ok () t ∧
      g.device.slots[u.block]? = t.device.slots[u.block]? := by
  obtain ⟨t, torn, -, stays, returns⟩ := wreck_ok h
  refine ⟨t, torn, ?_⟩
  cases synced : f.device.synced with
  | none => rw [stays synced]
  | some before =>
    obtain ⟨x, there, inside, device⟩ := returns before synced
    rw [device, there]
    exact List.getElem?_set_self inside

omit narrow in
/-- A loss of power that leaves reads to chance draws a bit of the region. -/
theorem chance_of_tear {u : Update} (chance : cfg.crash = .metastable)
    (some : (u.region cfg).2 ≠ 0) (h : (Flash.tear cfg u).run f = .ok () g) :
    ∃ l c : Block, g.device.slots[u.block]? = .some (.some c) ∧
      (u.region cfg).1 + (u.region cfg).2 ≤ c.data.length ∧ c.metastable ∧
      ∃ bit < (u.region cfg).2 * 8,
        c.badBit = if l.isPinned then l.badBit else ((u.region cfg).1 * 8 + bit).toUInt32 := by
  unfold tear at h
  dsimp only at h
  rw [if_neg some, chance] at h
  obtain ⟨bit, t, drawn, h⟩ := run_bind_eq_ok.1 h
  rw [run_drawBelow (by omega)] at drawn
  cases drawn
  obtain ⟨b, c, y, owns, lands, rfl⟩ := amend_ok h
  rcases landing : landed cfg u (u.region cfg).1 (u.region cfg).2 b with d | l
  · rw [landing] at lands
    cases lands
  rw [landing] at lands
  cases lands
  have held := (pinned?_landed landing).1
  rw [← length_landed landing] at held
  exact ⟨l, _, List.getElem?_set_self owns.lt_length, held, rfl, _, Nat.mod_lt _ (by omega), rfl⟩

/-- A loss of power that leaves reads to chance places the bad bit of a block that is not pinned in
the region of the update. -/
theorem placed_of_crash {u : Update} (chance : cfg.crash = .metastable)
    (some : (u.region cfg).2 ≠ 0) (hf : Holding cfg u.block none f)
    (h : (Flash.crash cfg u).run f = .ok () g) : g.device.Placed cfg u := by
  have kept := ((KeepsPin.crash narrow u).after ⟨rfl, hf⟩ h).2
  obtain ⟨r, wrecked, left⟩ := crash_ok h
  obtain ⟨t, torn, same⟩ := torn_of_wreck wrecked
  rw [← left] at same
  obtain ⟨l, c, there, held, metastable, bit, within, word⟩ := chance_of_tear chance some torn
  rw [there] at same
  have unpinned : c.pinned? = none := (Slots.pin_of_slot same).symm.trans kept.pinned.slots
  have length : c.data.length = cfg.geometry.blockSize :=
    kept.sound.slots.size (List.mem_of_getElem? same)
  -- if the block had been pinned, it would be now
  have free : ¬ l.isPinned := by
    intro pinned
    have tagged := Block.pinned?_eq_none.1 unpinned
    rw [Block.isPinned, word, if_pos pinned, ← Block.isPinned, pinned] at tagged
    cases tagged
  have small : (u.region cfg).1 * 8 + bit < 2 ^ 31 := by
    have narrow : cfg.geometry.blockSize * 8 ≤ 2 ^ 31 := narrow
    omega
  have position : c.badBitPos = (u.region cfg).1 * 8 + bit :=
    Block.badBitPos_drawn (word.trans (if_neg free)) small (by unfold Block.bits; omega)
  exact ⟨c, same, metastable, unpinned, by omega, by omega⟩

end Flash

end FaultyFlash
