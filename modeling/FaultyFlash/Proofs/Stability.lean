import FaultyFlash.Proofs.Completion
import FaultyFlash.Proofs.Scenario.Losses

/-!
# Devices that tell what they store

Where wear is off and no bit is left to chance, reads tell what is stored, and what keeps to the
contract is done: an update lands on its block and leaves the others alone. When it loses power, an
out-of-order device returns its other blocks to the last sync, and what is left on the block of the
update is what the crash behaviour says.

## Main definitions

* `Config.Certain`: wear is off, and crashes leave nothing to chance
* `Slots.Stable`, `Device.Stable`: tables and devices of which no bit is left to chance
* `Update.Ready`: an update keeps to the contract
* `Update.Lands`, `Update.LeavesTorn`: what an update does, and what it leaves when power is lost

## Main results

* `Flash.read_stable`: reads tell what is stored
* `Update.Ready.lands`: an update that keeps to the contract lands
* `Update.Ready.leavesTorn`: a loss of power during it leaves what the crash behaviour says
-/

namespace FaultyFlash

open Flash (answered)

variable {cfg : Config} {u : Update}

/-- Wear is off, blocks can be allocated, the image file takes what is written to it, and crashes
leave nothing to chance. -/
structure Config.Certain (cfg : Config) : Prop extends Config.Able cfg where
  unworn : cfg.endurance = 0
  certain : cfg.crash ≠ .metastable

/-- A table is sound, and no bit in it is left to chance. -/
structure Slots.Stable (cfg : Config) (slots : Slots Block) : Prop
    extends Slots.Sound cfg slots where
  stable {b : Block} (h : some b ∈ slots) : b.metastable = false

/-- The tables of a device are stable, and out-of-order devices remember the last sync. -/
structure Device.Stable (cfg : Config) (D : Device Block) : Prop where
  slots : Slots.Stable cfg D.slots
  synced {before : Slots Block} (h : D.synced = some before) : Slots.Stable cfg before
  remembers : D.synced.isSome = decide (cfg.crash = .outOfOrder)

/-- An update keeps to the contract: its block and its region are those of the device, and where
erases are simulated, the region to program is erased. -/
def Update.Ready (cfg : Config) (D : Device Block) : Update → Prop
  | prog block off data =>
    cfg.geometry.checkRegion .prog cfg.geometry.progSize block off data.length = .ok () ∧
    ∀ v, cfg.eraseValue = some v →
      ((D.slots.stored cfg block).drop off).take data.length = List.replicate data.length v
  | erase block => cfg.geometry.checkBlock .erase block = .ok ()

/-- An update landed on its block, and left the other blocks and the last sync alone. -/
structure Update.Lands (cfg : Config) (u : Update) (D E : Device Block) : Prop where
  others {i : Nat} (h : i ≠ u.block) : E.slots.stored cfg i = D.slots.stored cfg i
  landed : E.slots.stored cfg u.block = u.onto cfg (D.slots.stored cfg u.block)
  synced : E.synced = D.synced
  stable : E.Stable cfg

/-- A loss of power during an update left something on its block, and returned the other blocks to
the last sync if the device remembers it. -/
structure Update.LeavesTorn (cfg : Config) (u : Update) (D E : Device Block) : Prop where
  others {i : Nat} (h : i ≠ u.block) :
    E.slots.stored cfg i = Slots.stored cfg (D.synced.getD D.slots) i
  left : cfg.crash.Leaves (D.slots.stored cfg u.block) (u.onto cfg (D.slots.stored cfg u.block))
    (E.slots.stored cfg u.block)
  synced : E.synced = D.synced
  stable : E.Stable cfg

namespace Slots

variable {slots : Slots Block}

theorem Stable.set (h : Slots.Stable cfg slots) (block : Nat) {x : Option Block}
    (size : ∀ b, x = some b → b.data.length = cfg.geometry.blockSize)
    (steady : ∀ b, x = some b → b.metastable = false) : Slots.Stable cfg (slots.set block x) where
  toSound := h.toSound.set block size
  stable {b} hb := by
    rcases List.mem_or_eq_of_mem_set hb with mem | rfl
    · exact h.stable mem
    · exact steady b rfl

end Slots

theorem Device.Stable.sound {D : Device Block} (h : D.Stable cfg) : D.Sound cfg :=
  ⟨h.slots.toSound, fun hs => (h.synced hs).toSound⟩

/-- Only the tables matter to the stability of a device. -/
theorem Device.Stable.congr {D E : Device Block} (h : D.Stable cfg) (slots : E.slots = D.slots)
    (synced : E.synced = D.synced) : E.Stable cfg := by
  refine ⟨slots ▸ h.slots, fun hs => h.synced (synced ▸ hs), ?_⟩
  rw [synced]
  exact h.remembers

/-- A stable device remembers no sync, unless a loss of power takes it back there. -/
theorem Device.Stable.forgets {D : Device Block} (h : D.Stable cfg)
    (crash : cfg.crash ≠ .outOfOrder) : D.synced = none := by
  rw [← Option.not_isSome_iff_eq_none, h.remembers, decide_eq_true_iff]
  exact crash

/-- A stable device stays so when its tables are synced. -/
theorem Device.Stable.mark {D : Device Block} (h : D.Stable cfg) :
    ({ D with synced := D.synced.map fun _ => D.slots } : Device Block).Stable cfg := by
  refine ⟨h.slots, fun hs => ?_, ?_⟩
  · obtain ⟨_, -, rfl⟩ := Option.map_eq_some_iff.1 hs
    exact h.slots
  · rw [← h.remembers]
    exact Option.isSome_map

/-- A new device is stable. -/
theorem Device.stable_fresh (cfg : Config) : (Device.fresh Block cfg).Stable cfg := by
  have empty : Slots.Stable cfg (List.replicate cfg.geometry.blockCount none) :=
    ⟨(Device.sound_fresh cfg).slots, fun hb => by simp [List.mem_replicate] at hb⟩
  refine ⟨empty, fun {before} hb => ?_, ?_⟩
  · simp only [fresh] at hb
    split at hb
    · cases hb
      exact empty
    · cases hb
  · simp only [fresh]
    split <;> simp [*]

/-- What a stable device changes at an address is a block of the configured size, of which no bit is
left to chance. -/
theorem Device.Owns.of_stable {D : Device Block} {block : Nat} {b : Block}
    (h : D.Owns cfg block b) (stable : D.Stable cfg) :
    b.data.length = cfg.geometry.blockSize ∧ b.metastable = false := by
  rcases h with h | ⟨-, bit, rfl⟩
  · have mem := List.mem_of_getElem? h
    exact ⟨stable.slots.size mem, stable.slots.stable mem⟩
  · exact ⟨List.length_replicate, rfl⟩

/-- On a device without wear no block is worn out. -/
theorem Config.Certain.isWorn (h : cfg.Certain) (wear : UInt32) : cfg.isWorn wear = false := by
  simp [Config.isWorn, h.unworn]

/-- An update keeps the size of a block. -/
theorem Update.Fits.length_onto (fits : u.Fits cfg) {old : Bytes}
    (size : old.length = cfg.geometry.blockSize) :
    (u.onto cfg old).length = cfg.geometry.blockSize := by
  have inside := fits.region
  have region : ((old.drop (u.region cfg).1).take (u.region cfg).2).length = (u.region cfg).2 := by
    rw [List.length_take, List.length_drop]
    omega
  simp only [Update.onto, List.length_append, Flash.length_outcome region, List.length_take,
    List.length_drop]
  omega

/-- So does a loss of power. -/
theorem CrashBehavior.Leaves.length {crash : CrashBehavior} {old new now : Bytes}
    (h : crash.Leaves old new now) (same : new.length = old.length) : now.length = old.length := by
  rcases crash with _ | _ | _ | _ | _
  · exact congrArg List.length h
  · exact h.1
  · exact h.1.trans same
  · exact (congrArg List.length h).trans same
  · exact (congrArg List.length h).trans same

/-- The whole block is exchanged by an erase that is simulated. -/
theorem Update.onto_erase {block : Nat} {old : Bytes}
    (size : old.length = cfg.geometry.blockSize) :
    (Update.erase block).onto cfg old = cfg.eraseValue.elim old (List.replicate old.length) := by
  simp only [Update.onto, Update.region, Update.outcome, ← size]
  cases cfg.eraseValue <;> simp

namespace Flash

variable {f g : Flash Plain Block} {block : Nat}

/-! ## Looking at blocks -/

theorem run_isWorn (certain : cfg.Certain) (stable : f.device.Stable cfg)
    (inside : block < cfg.geometry.blockCount) : (isWorn cfg block).run f = .ok false f := by
  obtain ⟨x, hx, -⟩ := stable.sound.slot inside
  refine run_bind_eq_ok.2 ⟨x, f, by rw [run_fetch_plain, hx], ?_⟩
  rcases x with _ | b
  · rfl
  · simp only [Option.elim_some, certain.isWorn]
    rfl

/-- A device where nothing is left to chance senses what is stored. -/
theorem run_sense {b : Block} (steady : b.metastable = false) {off len : Nat} {old : Bytes}
    (held : b.region off len = .ok old) : (sense b off len).run f = .ok old f := by
  refine run_bind_eq_ok.2 ⟨old, f, by rw [run_sound, held], ?_⟩
  simp only [steady]
  rfl

/-- Reads tell what is stored, and leave the blocks alone. -/
theorem read_stable (certain : cfg.Certain) (stable : f.device.Stable cfg) {off len : Nat}
    (allowed : cfg.geometry.checkRegion .read cfg.geometry.readSize block off len = .ok ()) :
    ∃ g, (read cfg block off len).run f =
        .ok (((f.device.slots.stored cfg block).drop off).take len) g ∧
      g.device.slots = f.device.slots ∧ g.device.synced = f.device.synced := by
  obtain ⟨inside, fits⟩ := Geometry.of_checkRegion allowed
  obtain ⟨x, hx, size⟩ := stable.sound.slot inside
  -- nothing changes but the count of the bytes that were read
  refine ⟨f.tally .bytesRead len.toUInt64, run_bind_eq_ok.2 ⟨(), f, ?_, ?_⟩, rfl, rfl⟩
  · rw [run_contract, allowed]
  refine run_bind_eq_ok.2 ⟨x, f, by rw [run_fetch_plain, hx], ?_⟩
  rcases x with _ | b
  · have blank : f.device.slots.stored cfg block =
        List.replicate cfg.geometry.blockSize cfg.fill := by
      simp [Slots.stored, hx]
    rw [blank, Bytes.take_drop_replicate fits]
    rfl
  · have held := Block.region_of_le (b := b) (by rw [size b rfl]; exact fits)
    have steady := stable.slots.stable (List.mem_of_getElem? hx)
    rw [Slots.stored_of_slot hx]
    simp only [certain.isWorn]
    exact run_bind_eq_ok.2 ⟨_, f, run_sense steady held, rfl⟩

/-! ## Updates -/

theorem run_checkErased (stable : f.device.Stable cfg) {off len : Nat}
    (inside : block < cfg.geometry.blockCount) (fits : off + len ≤ cfg.geometry.blockSize)
    (erased : ∀ v, cfg.eraseValue = some v →
      ((f.device.slots.stored cfg block).drop off).take len = List.replicate len v) :
    (checkErased cfg block off len).run f = .ok () f := by
  obtain ⟨x, hx, size⟩ := stable.sound.slot inside
  unfold checkErased
  rcases hv : cfg.eraseValue with _ | v
  · exact run_bind_eq_ok.2 ⟨x, f, by rw [run_fetch_plain, hx], rfl⟩
  refine run_bind_eq_ok.2 ⟨x, f, by rw [run_fetch_plain, hx], ?_⟩
  rcases x with _ | b
  · rfl
  · have held := Block.region_of_le (b := b) (by rw [size b rfl]; exact fits)
    refine run_bind_eq_ok.2 ⟨_, f, by rw [run_sound, held], ?_⟩
    have all := erased v hv
    rw [Slots.stored_of_slot hx] at all
    simp [all]

/-- An update that keeps to the contract is let through. -/
theorem run_permit (certain : cfg.Certain) (stable : f.device.Stable cfg)
    (ready : u.Ready cfg f.device) : (permit cfg u).run f = .ok (some false) f := by
  rcases u with ⟨block, off, data⟩ | block
  · obtain ⟨allowed, erased⟩ := ready
    obtain ⟨inside, fits⟩ := Geometry.of_checkRegion allowed
    refine run_bind_eq_ok.2 ⟨(), f, by rw [run_contract, allowed], ?_⟩
    refine run_bind_eq_ok.2 ⟨false, f, run_isWorn certain stable inside, ?_⟩
    exact run_bind_eq_ok.2 ⟨(), f, run_checkErased stable inside fits erased, rfl⟩
  · have allowed : cfg.geometry.checkBlock .erase block = .ok () := ready
    refine run_bind_eq_ok.2 ⟨(), f, by rw [run_contract, allowed], ?_⟩
    have inside := Geometry.of_checkBlock allowed
    exact run_bind_eq_ok.2 ⟨false, f, run_isWorn certain stable inside, rfl⟩

/-- A block `b` of the device was changed into `c` by an update, and no other. -/
def Completed (cfg : Config) (u : Update) (f g : Flash Plain Block) : Prop :=
  ∃ b c, f.device.Owns cfg u.block b ∧ c.data = u.onto cfg b.data ∧ c.metastable = false ∧
    g.device.slots = f.device.slots.set u.block (some c)

/-- The block of an update after it was completed. -/
theorem complete_ok (certain : cfg.Certain) (stable : f.device.Stable cfg)
    (h : (complete cfg false u).run f = .ok () g) : Completed cfg u f g := by
  rcases u with ⟨block, off, data⟩ | block
  · obtain ⟨b, c, owns, changed, slots⟩ := complete_prog_ok h
    -- on a block that is not worn out a prog is just written
    rw [programmed_eq (le_of_programmed changed)] at changed
    cases changed
    exact ⟨b, _, owns, rfl, rfl, slots⟩
  · obtain ⟨b, owns, slots⟩ := complete_erase_ok certain.toRoomy h
    refine ⟨b, _, owns, ?_, rfl, slots⟩
    rw [Update.onto_erase (owns.of_stable stable).1]
    rfl

/-! ## Losing power -/

/-- What a loss of power leaves of an update, before the other blocks return. -/
theorem leavesTorn_of_tear {t : Flash Plain Block} (fits : u.Fits cfg)
    (stable : f.device.Stable cfg) (h : TornTo cfg u f t)
    (synced : t.device.synced = f.device.synced) :
    t.device.Stable cfg ∧
      (∀ i, i ≠ u.block → t.device.slots.stored cfg i = f.device.slots.stored cfg i) ∧
      cfg.crash.Leaves (f.device.slots.stored cfg u.block)
        (u.onto cfg (f.device.slots.stored cfg u.block)) (t.device.slots.stored cfg u.block) := by
  rcases h with ⟨rfl, left⟩ | ⟨b, bs, x, owns, left, rfl⟩
  · exact ⟨stable, fun _ _ => rfl, left _⟩
  obtain ⟨size, steady⟩ := owns.of_stable stable
  have length : bs.length = cfg.geometry.blockSize :=
    left.length ((fits.length_onto size).trans size.symm) |>.trans size
  refine ⟨⟨?_, fun hs => stable.synced (synced ▸ hs), ?_⟩, fun i hi => ?_, ?_⟩
  · exact stable.slots.set u.block (fun _ h => by cases h; exact length)
      fun _ h => by cases h; exact steady
  · rw [synced]
    exact stable.remembers
  · exact Slots.stored_set_ne hi _
  · rw [owns.stored, placed, Slots.stored_set owns.lt_length]
    exact left

/-- A loss of power during an update that fits leaves what the crash behaviour says. -/
theorem leavesTorn_of_crash (certain : cfg.Certain) (fits : u.Fits cfg)
    (stable : f.device.Stable cfg) (h : (crash cfg u).run f = .ok () g) :
    u.LeavesTorn cfg f.device g.device := by
  obtain ⟨r, wrecked, device⟩ := crash_ok h
  obtain ⟨t, torn, synced, stays, returns⟩ := wreck_ok wrecked
  rw [device]
  obtain ⟨stable', others, left⟩ :=
    leavesTorn_of_tear fits stable (tear_ok certain.certain torn) synced
  rcases hs : f.device.synced with _ | before
  · -- nothing returns to a sync
    have device := stays hs
    refine ⟨fun hi => ?_, ?_, ?_, device ▸ stable'⟩
    · rw [device, others _ hi, hs]
      rfl
    · rw [device]
      exact left
    · rw [device, synced]
  · obtain ⟨x, hx, inside, device⟩ := returns before hs
    have mem {b : Block} (hb : x = some b) : some b ∈ t.device.slots :=
      List.mem_of_getElem? (hb ▸ hx)
    have same : t.device.slots.stored cfg u.block =
        x.elim (List.replicate cfg.geometry.blockSize cfg.fill) Block.data := by
      rw [Slots.stored, hx, Option.join_some]
    refine ⟨fun hi => ?_, ?_, ?_, ?_, ?_, ?_⟩
    · rw [device, hs]
      exact Slots.stored_set_ne hi x
    · rw [device, Slots.stored_set inside, ← same]
      exact left
    · rw [device]
      exact synced
    · rw [device]
      exact (stable.synced hs).set u.block (fun b hb => stable'.slots.size (mem hb))
        fun b hb => stable'.slots.stable (mem hb)
    · rw [device]
      exact stable'.synced
    · rw [device]
      exact stable'.remembers

end Flash

open Flash (run_permit fits_of_permit succeeds_complete complete_ok leavesTorn_of_crash)

variable {f : Flash Plain Block}

/-- An update that keeps to the contract lands. -/
theorem Update.Ready.lands (ready : u.Ready cfg f.device) (certain : cfg.Certain)
    (stable : f.device.Stable cfg) :
    ∃ g, answered (Flash.uninterrupted cfg u) f = (.ok (), g) ∧ u.Lands cfg f.device g.device := by
  have permitted := run_permit certain stable ready
  have fits := fits_of_permit permitted
  obtain ⟨g, completed⟩ := succeeds_complete certain.toRoomy fits false stable.sound
    (Flash.refuses_of_ne certain.taken f)
  have run : answered (Flash.uninterrupted cfg u) f = (.ok (), g) :=
    Flash.answered_eq_ok.2 (run_bind_eq_ok.2 ⟨_, f, permitted, completed⟩)
  have synced : g.device.synced = f.device.synced := by
    have leaves : Flash.KeepsSync (Flash.uninterrupted cfg u : FlashM Plain Block Unit) :=
      .uninterrupted cfg u
    have kept := leaves f
    rwa [run] at kept
  obtain ⟨b, c, owns, data, steady, slots⟩ := complete_ok certain stable completed
  have size : c.data.length = cfg.geometry.blockSize := by
    rw [data]
    exact fits.length_onto (owns.of_stable stable).1
  refine ⟨g, run, fun hi => ?_, ?_, synced, ?_, fun hs => stable.synced (synced ▸ hs), ?_⟩
  · rw [slots, Slots.stored_set_ne hi]
  · rw [slots, Slots.stored_set owns.lt_length, owns.stored]
    exact data
  · rw [slots]
    exact stable.slots.set u.block (fun _ h => by cases h; exact size)
      fun _ h => by cases h; exact steady
  · rw [synced]
    exact stable.remembers

/-- A loss of power during an update that keeps to the contract leaves what the crash behaviour
says. -/
theorem Update.Ready.leavesTorn (ready : u.Ready cfg f.device) (certain : cfg.Certain)
    (stable : f.device.Stable cfg) :
    ∃ g, u.torn cfg f = [g] ∧ u.LeavesTorn cfg f.device g.device := by
  have permitted := Flash.answered_eq_ok.2 (run_permit certain stable ready)
  rcases u.torn_cases certain.toAble stable.sound with ⟨-, never⟩ | ⟨worn, Y, Z, torn, tears⟩
  · exact absurd (congrArg Prod.fst permitted) (never false)
  · obtain ⟨-, rfl⟩ := Prod.mk.inj (permitted.symm.trans tears.permitted)
    have fits := fits_of_permit (Flash.answered_eq_ok.1 permitted)
    exact ⟨Z, torn, leavesTorn_of_crash certain fits stable (Flash.answered_eq_ok.1 tears.crashed)⟩

end FaultyFlash
