import FaultyFlash.Proofs.Lockstep
import FaultyFlash.Store.Plain

/-!
# Alike devices

Where nothing is shared, devices are compared by themselves, without their stores. A likeness is a
relation between devices with equal blocks and generators that is kept when the same is done to
both.

## Main definitions

* `Device.Fits`: blocks of the right size for an address
* `Likeness cfg R`: a relation kept by what is done to blocks, draws and counters
* `CrashLikeness cfg R`: a relation kept by rollbacks, too
* `TimedLikeness cfg R`: a relation kept by countdowns, too
* `SavedLikeness cfg R`: a relation kept by the return to a state set aside, too

## Main results

* `Likeness.lockstep`, `CrashLikeness.lockstep`, `TimedLikeness.lockstep`: devices that are alike
  are in lockstep
* `timedLikeness_eq`, `savedLikeness_eq`: equality is such a relation
-/

namespace FaultyFlash

/-- A block fits an address if it is as long as the block there, or of the size of a new one. -/
def Device.Fits (cfg : Config) (D : Device Block) (block : Nat) (c : Block) : Prop :=
  c.data.length = (D.slots[block]?.join).elim cfg.geometry.blockSize fun b => b.data.length

/-- A relation between devices that is kept when the same is done to both. -/
structure Likeness (cfg : Config) (R : Device Block → Device Block → Prop) : Prop where
  slots {D E : Device Block} (h : R D E) : D.slots = E.slots
  generator {D E : Device Block} (h : R D E) : D.generator = E.generator
  set {D E : Device Block} (block : Nat) {c : Block} (h : R D E) (fits : D.Fits cfg block c) :
    R { D with slots := D.slots.set block (some c) } { E with slots := E.slots.set block (some c) }
  reseed {D E : Device Block} (x : Generator) (h : R D E) :
    R { D with generator := x } { E with generator := x }
  tally {D E : Device Block} (c : Counter) (n : UInt64) (h : R D E) :
    R (c.set (c.get D + n) D) (c.set (c.get E + n) E)
  sync {D E : Device Block} (h : R D E) :
    R { D with synced := D.synced.map fun _ => D.slots }
      { E with synced := E.synced.map fun _ => E.slots }

/-- A relation between devices that is also kept when power is lost on both. -/
structure CrashLikeness (cfg : Config) (R : Device Block → Device Block → Prop) : Prop
    extends Likeness cfg R where
  synced {D E : Device Block} (h : R D E) : D.synced = E.synced
  rollBack {D E : Device Block} {before : Slots Block} {block : Nat} {x : Option Block} (h : R D E)
    (hs : D.synced = some before) (hx : D.slots[block]? = some x)
    (size : before.length = D.slots.length) :
    R { D with slots := before.set block x } { E with slots := before.set block x }

/-- A relation between devices that is also kept when both count down. -/
structure TimedLikeness (cfg : Config) (R : Device Block → Device Block → Prop) : Prop
    extends CrashLikeness cfg R where
  countdown {D E : Device Block} (h : R D E) : D.countdown = E.countdown
  rearm {D E : Device Block} (n : UInt32) (h : R D E) :
    R { D with countdown := n } { E with countdown := n }

/-- A relation between devices that is also kept when both return to one state set aside. -/
structure SavedLikeness (cfg : Config) (R : Device Block → Device Block → Prop) : Prop
    extends TimedLikeness cfg R where
  restore {D E : Device Block} (slots : Slots Block) (x : Generator) (h : R D E) :
    R { D with slots := slots, generator := x } { E with slots := slots, generator := x }

namespace Flash

/-- Devices that are alike, with image files both or neither, as `imaged` says. -/
def AlikeBy (R : Device Block → Device Block → Prop) (imaged : Bool) (f g : Flash Plain Block) :
    Prop :=
  R f.device g.device ∧ f.image.isSome = imaged ∧ g.image.isSome = imaged

/-- Devices that are alike and hold the block `b` at an address. -/
def OwnedBy (R : Device Block → Device Block → Prop) (imaged : Bool) (block : Nat) (b : Block)
    (f g : Flash Plain Block) : Prop :=
  AlikeBy R imaged f g ∧ f.device.slots[block]? = some (some b)

/-! ## The primitive operations where nothing is shared -/

variable (f : Flash Plain Block) (block : Nat)

theorem run_fetch_plain :
    (fetch block).run f = match f.device.slots[block]? with
      | some x => .ok x f
      | none => .error (.defect (.slotTable block)) f := by
  simp only [fetch, EStateM.run_bind, run_slot]
  cases f.device.slots[block]? with
  | none => rfl
  | some x => cases x <;> rfl

theorem run_own_plain (cfg : Config) :
    (own cfg block).run f = match f.device.slots[block]? with
      | some (some b) => .ok b f
      | some none => (allocate cfg block).run f
      | none => .error (.defect (.slotTable block)) f := by
  simp only [own, EStateM.run_bind, run_slot]
  cases f.device.slots[block]? with
  | none => rfl
  | some x => cases x <;> rfl

theorem run_allocate_plain (cfg : Config) :
    (allocate cfg block).run f =
      if cfg.geometry.blockBits = 0 then .error (.defect .emptyRange) f
      else if Config.allocationLimit ≤ cfg.geometry.blockSize then
        .error (.fault .noMemory) (f.reseed f.device.generator.next.2)
      else
        let b := Block.fresh cfg.geometry.blockSize cfg.fill
          (f.device.generator.next.1.toNat % cfg.geometry.blockBits).toUInt32
        .ok b { f with device := { f.device with
          generator := f.device.generator.next.2
          slots := f.device.slots.set block (some b) } } := by
  by_cases bits : cfg.geometry.blockBits = 0
  · rw [if_pos bits]
    simp only [allocate, drawBelow, bits]
    rfl
  · rw [if_neg bits]
    simp only [allocate, EStateM.run_bind, run_drawBelow bits]
    split <;> rfl

/-- Nothing is shared, so who holds a block is known from the table. -/
theorem preserves_blockRefs {I : Flash Plain Block → Flash Plain Block → Prop}
    (slots : ∀ f g, I f g → f.device.slots = g.device.slots) (cfg : Config) (block : Nat) :
    Preserves I (blockRefs cfg block) (blockRefs cfg block) := by
  refine (preserves_contract _).bind fun _ => Coupled.bind (?_ : Preserves I _ _) fun x => ?_
  · intro f g hfg
    rw [run_slot, run_slot, slots f g hfg]
    cases g.device.slots[block]? <;> exact ⟨rfl, hfg⟩
  · cases x with
    | none => exact .answer _
    | some b => exact fun f g hfg => ⟨rfl, hfg⟩

theorem run_put_plain (c : Block) :
    (put block c).run f = match f.device.slots[block]? with
      | some (some _) => .ok ()
          { f with device := { f.device with slots := f.device.slots.set block (some c) } }
      | some none => .error (.defect (.vanished block)) f
      | none => .error (.defect (.slotTable block)) f := by
  simp only [put, EStateM.run_bind, run_slot]
  cases f.device.slots[block]? with
  | none => rfl
  | some x => cases x <;> rfl

theorem run_sync_plain :
    sync.run f = .ok ()
      { f with device := { f.device with
        synced := f.device.synced.map fun _ => f.device.slots } } := by
  cases h : f.device.synced with
  | none =>
    simp only [sync, EStateM.run_bind, EStateM.run_get, h, Option.map_none]
    rw [← h]
    rfl
  | some old =>
    simp only [sync, EStateM.run_bind, EStateM.run_get, h, Option.map_some]
    rfl

theorem run_rollBack_plain (before : Slots Block) :
    (rollBack before block).run f =
      if before.length ≠ f.device.slots.length then
        .error (.defect (.slotTable before.length)) f
      else match f.device.slots[block]? with
        | some x => .ok () { f with device := { f.device with slots := before.set block x } }
        | none => .error (.defect (.slotTable block)) f := by
  simp only [rollBack, EStateM.run_bind, EStateM.run_get]
  split
  · rfl
  · simp only [EStateM.run_bind, run_slot]
    cases f.device.slots[block]? <;> rfl

end Flash

/-! ## Likenesses -/

open Flash (AlikeBy OwnedBy)

variable {cfg : Config} {R : Device Block → Device Block → Prop} {imaged : Bool}

namespace Likeness

variable (h : Likeness cfg R)

include h

theorem own (block : Nat) :
    Coupled (AlikeBy R imaged) (Flash.own cfg block) (Flash.own cfg block)
      (OwnedBy R imaged block) (AlikeBy R imaged) := by
  intro f g hfg
  have slots := h.slots hfg.1
  rw [Flash.run_own_plain, Flash.run_own_plain, ← slots]
  cases hx : f.device.slots[block]? with
  | none => exact ⟨rfl, hfg⟩
  | some x =>
    cases x with
    | some b => exact ⟨rfl, hfg, hx⟩
    | none =>
      simp only [Flash.run_allocate_plain, ← slots, ← h.generator hfg.1]
      split
      · exact ⟨rfl, hfg⟩
      split
      · exact ⟨rfl, h.reseed _ hfg.1, hfg.2⟩
      · refine ⟨rfl, ⟨?_, hfg.2⟩, ?_⟩
        · -- the new block fits, as it has the configured size
          have set := h.set block (h.reseed f.device.generator.next.2 hfg.1)
            (c := Block.fresh cfg.geometry.blockSize cfg.fill
              (f.device.generator.next.1.toNat % cfg.geometry.blockBits).toUInt32)
            (by simp [Device.Fits, hx, Block.fresh])
          simp only [← slots] at set
          exact set
        · exact List.getElem?_set_self (List.getElem?_eq_some_iff.1 hx).1

theorem put (block : Nat) {b c : Block} (size : c.data.length = b.data.length) :
    Coupled (OwnedBy R imaged block b) (Flash.put block c) (Flash.put block c)
      (fun _ => AlikeBy R imaged) (AlikeBy R imaged) := by
  rintro f g ⟨hfg, hx⟩
  have slots := h.slots hfg.1
  rw [Flash.run_put_plain, Flash.run_put_plain, ← slots, hx]
  refine ⟨rfl, ?_, hfg.2⟩
  have set := h.set block hfg.1 (c := c) (by simp [Device.Fits, hx, size])
  simp only [← slots] at set
  exact set

/-- Devices that are alike are in lockstep. -/
theorem lockstep : Flash.Lockstep cfg (AlikeBy R imaged) (OwnedBy R imaged) where
  look {f g} block hfg := by
    rw [Flash.run_fetch_plain, Flash.run_fetch_plain, ← h.slots hfg.1]
    cases f.device.slots[block]? <;> exact ⟨rfl, rfl, rfl⟩
  own := h.own
  put := h.put
  of_owned hfg := hfg.1
  generator hfg := h.generator hfg.1
  reseed x hfg := ⟨h.reseed x hfg.1, hfg.2⟩
  reseed_owned x hfg := ⟨⟨h.reseed x hfg.1.1, hfg.1.2⟩, hfg.2⟩
  image hfg := hfg.2.1.trans hfg.2.2.symm
  write _ _ _ _ hfg hi hj := ⟨hfg.1, hfg.2.1 ▸ hi ▸ rfl, hfg.2.2 ▸ hj ▸ rfl⟩
  tally c n hfg := ⟨h.tally c n hfg.1, hfg.2⟩
  sync f g hfg := by
    rw [Flash.run_sync_plain, Flash.run_sync_plain]
    exact ⟨rfl, h.sync hfg.1, hfg.2⟩

end Likeness

/-- Devices that are alike are in lockstep when power is lost, too. -/
theorem CrashLikeness.lockstep (h : CrashLikeness cfg R) :
    Flash.CrashLockstep cfg (AlikeBy R imaged) (OwnedBy R imaged) where
  toLockstep := h.toLikeness.lockstep
  synced hfg := by rw [h.synced hfg.1]
  rollBack {f g s t} block hfg hs ht := by
    obtain rfl : s = t := Option.some.inj (hs.symm.trans ((h.synced hfg.1).trans ht))
    rw [Flash.run_rollBack_plain, Flash.run_rollBack_plain, ← h.slots hfg.1]
    split
    · exact ⟨rfl, hfg⟩
    · next size =>
      cases hx : f.device.slots[block]? with
      | none => exact ⟨rfl, hfg⟩
      | some x => exact ⟨rfl, h.rollBack hfg.1 hs hx (Decidable.not_not.1 size), hfg.2⟩

/-- Devices that are alike count down in lockstep. -/
theorem TimedLikeness.lockstep (h : TimedLikeness cfg R) :
    Flash.TimedLockstep cfg (AlikeBy R imaged) (OwnedBy R imaged) where
  toCrashLockstep := h.toCrashLikeness.lockstep
  countdown hfg := h.countdown hfg.1
  rearm n hfg := ⟨h.rearm n hfg.1, hfg.2⟩

/-! ## One device -/

namespace Flash

variable {α : Type}

/-- An operation keeps what the relation says of a device and itself. -/
def Maintains (R : Device Block → Device Block → Prop) (imaged : Bool) (op : FlashM Plain Block α) :
    Prop :=
  ∀ f, AlikeBy R imaged f f → AlikeBy R imaged (answered op f).2 (answered op f).2

theorem maintains_of_preserves {op : FlashM Plain Block α}
    (h : Preserves (AlikeBy R imaged) op op) : Maintains R imaged op :=
  fun _ hf => (answered_of_preserves h hf).2

theorem Maintains.bind {β : Type} {op : FlashM Plain Block α} {k : α → FlashM Plain Block β}
    (h : Maintains R imaged op) (hk : ∀ a, Maintains R imaged (k a)) :
    Maintains R imaged (op >>= k) := by
  intro f hf
  have kept := h f hf
  rw [answered_bind]
  generalize answered op f = x at kept ⊢
  obtain ⟨x, g⟩ := x
  cases x with
  | error e => exact kept
  | ok a => exact hk a g kept

end Flash

/-- Every request keeps what a likeness says of a device and itself. -/
theorem TimedLikeness.maintains (h : TimedLikeness cfg R)
    (counters : ∀ (D : Device Block) (c : Counter) (n : UInt64), R D D → R (c.set n D) (c.set n D))
    (r : Request) : Flash.Maintains R imaged (r.effect cfg) := by
  have L : Flash.TimedLockstep cfg (AlikeBy R imaged) (OwnedBy R imaged) := h.lockstep
  by_cases basic : r.isBasic
  · exact Flash.maintains_of_preserves (L.basic basic)
  cases r with
  | blockRefs block =>
    refine .bind (Flash.maintains_of_preserves (Flash.preserves_contract _)) fun _ =>
      .bind (fun f hf => ?_) fun x => ?_
    · rw [Flash.answered, Flash.run_slot]
      cases f.device.slots[block]? <;> exact hf
    · cases x <;> exact fun f hf => hf
  | update u => exact Flash.maintains_of_preserves (L.uninterrupted u)
  | setCounter c n => exact fun f hf => ⟨counters _ c n hf.1, hf.2⟩
  | setCountdown n => exact fun f hf => ⟨h.rearm n hf.1, hf.2⟩
  | copy | counter | countdown | allocated | image => exact fun f hf => hf
  | _ => cases basic rfl

theorem timedLikeness_eq (cfg : Config) : TimedLikeness cfg Eq where
  slots h := by rw [h]
  generator h := by rw [h]
  set _ _ h _ := by rw [h]
  reseed x h := by rw [h]
  tally c n h := by rw [h]
  sync h := by rw [h]
  countdown h := by rw [h]
  rearm n h := by rw [h]
  synced h := by rw [h]
  rollBack h _ _ _ := by rw [h]

theorem savedLikeness_eq (cfg : Config) : SavedLikeness cfg Eq where
  toTimedLikeness := timedLikeness_eq cfg
  restore _ _ h := by rw [h]

end FaultyFlash
