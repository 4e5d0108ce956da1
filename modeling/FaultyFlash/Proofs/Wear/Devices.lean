import FaultyFlash.Proofs.Pins.Devices
import FaultyFlash.Proofs.Wear.Blocks

/-!
# Wear of a device

As long as power is not lost, the wear of a block changes by its erases and by what sets it, and by
nothing else. When an erase has changed the block, all that is left of it is to write the image file
and to count the bytes. So what fails leaves the wear as it is, unless it is that write that fails.

## Main definitions

* `Request.weigh`: what a request makes of the wear of a block
* `Flash.Weighing`: sound devices with a wear
* `Flash.Reweighs`: an operation makes one wear of another one, if it is carried out

## Main results

* `Request.weigh_of_unset`, `Request.lt_weigh`: what requests make of wear
* `Flash.Weighing.amend`: what a change of a block makes of its wear
* `Flash.Reweighs.complete`, `Flash.Reweighs.effect`: updates and requests do what they are to do,
  or nothing
-/

namespace FaultyFlash

variable {cfg : Config} {block i : Nat} {n k : UInt32}

/-- What a request makes of the wear `n` of a block. -/
def Request.weigh (cfg : Config) (block : Nat) (n : UInt32) : Request → UInt32
  | .update (.erase i) => if i = block then Config.successor n else n
  | .setWear i k => if i = block then k else n
  | .markBad i => if i = block then cfg.wornOut else n
  | .markGood i => if i = block then 0 else n
  | _ => n

namespace Request

/-- A request that does not set the wear of a block adds one to it, if it is an erase of the block,
or nothing. -/
theorem weigh_of_unset {r : Request} (bad : r ≠ .markBad block) (good : r ≠ .markGood block)
    (set : ∀ k, r ≠ .setWear block k) :
    r.weigh cfg block n = if r = .update (.erase block) then Config.successor n else n := by
  by_cases erase : r = .update (.erase block)
  · rw [if_pos erase, erase]
    exact if_pos rfl
  rw [if_neg erase]
  cases r with
  | update u =>
    cases u with
    | prog => rfl
    | erase i => exact if_neg fun (here : i = block) => erase (here ▸ rfl)
  | setWear i k => exact if_neg fun (here : i = block) => set k (here ▸ rfl)
  | markBad i => exact if_neg fun (here : i = block) => bad (here ▸ rfl)
  | markGood i => exact if_neg fun (here : i = block) => good (here ▸ rfl)
  | _ => rfl

/-- Where there is wear past the endurance, wear that exceeds it is lowered only by what makes the
block good or sets its wear. -/
theorem lt_weigh (below : cfg.endurance ≠ 0xffffffff) (worn : cfg.endurance < n) {r : Request}
    (good : r ≠ .markGood block) (set : ∀ k, r ≠ .setWear block k) :
    cfg.endurance < r.weigh cfg block n := by
  have either (i : Nat) {k : UInt32} (above : i = block → cfg.endurance < k) :
      cfg.endurance < if i = block then k else n := by
    split
    · next here => exact above here
    · exact worn
  cases r with
  | update u =>
    cases u with
    | prog => exact worn
    | erase i => exact either i fun _ => UInt32.lt_of_lt_of_le worn (Config.le_successor n)
  | setWear i k => exact either i fun here => absurd (here ▸ rfl) (set k)
  | markBad i => exact either i fun _ => Config.lt_wornOut below
  | markGood i => exact either i fun here => absurd (here ▸ rfl) good
  | _ => exact worn

end Request

namespace Flash

/-- The device is sound, and the wear of a block is `n`. -/
structure Weighing (cfg : Config) (block : Nat) (n : UInt32) (f : Flash Plain Block) : Prop where
  sound : f.device.Sound cfg
  wear : f.device.slots.wear block = n

/-- The operation keeps devices sound, and the wear of a block. -/
abbrev KeepsWear {α : Type} (cfg : Config) (block : Nat) (n : UInt32)
    (op : FlashM Plain Block α) : Prop :=
  Preserves (Diagonal (Weighing cfg block n)) op op

namespace Weighing

variable {α : Type} {f : Flash Plain Block}

theorem congr {g : Flash Plain Block} (h : Weighing cfg block n f)
    (slots : g.device.slots = f.device.slots) (synced : g.device.synced = f.device.synced) :
    Weighing cfg block n g :=
  ⟨h.sound.congr slots synced, slots ▸ h.wear⟩

theorem looking : Looking (Diagonal (Weighing cfg block n)) :=
  looking_diagonal (fun _ _ h => h.congr rfl rfl)
    fun _ c _ h => h.congr (c.slots_set ..) (c.synced_set ..)

theorem save (off len : Nat) : KeepsWear cfg block n (Flash.save cfg i off len) :=
  preserves_save (fun _ _ h => h.congr rfl rfl) cfg i off len

/-! ## Changes of a block -/

/-- A block is weighed where it is put. -/
theorem placed {b : Block} {s : Generator} (h : Weighing cfg block n f)
    (inside : i < f.device.slots.length) (size : b.data.length = cfg.geometry.blockSize) :
    Weighing cfg block (if i = block then b.wear else n) (f.placed i b s) := by
  refine ⟨⟨h.sound.slots.set i ?_, h.sound.synced⟩, ?_⟩
  · rintro _ ⟨⟩
    exact size
  · show Slots.wear (f.device.slots.set i (some b)) block = _
    rw [Slots.wear_set inside, h.wear]
    rfl

/-- A block that becomes the device's own has the wear that is told of its address. -/
theorem own : Ends (Weighing cfg block n) (Flash.own cfg i)
    (fun b f => Weighing cfg block n f ∧ f.device.slots[i]? = some (some b) ∧
      (i = block → b.wear = n)) (Weighing cfg block n) := by
  apply Ends.of_run
  intro f h
  cases run : (Flash.own cfg i).run f with
  | error e g =>
    obtain ⟨x, rfl⟩ := own_error run
    exact h.congr rfl rfl
  | ok b g =>
    obtain ⟨owns, x, rfl⟩ := own_ok run
    have weighs (here : i = block) : b.wear = n := by rw [← owns.wear, here, h.wear]
    have size : b.data.length = cfg.geometry.blockSize := by
      rw [← owns.stored, h.sound.slots.length_stored]
    have same : (if i = block then b.wear else n) = n := by
      split
      · next here => exact weighs here
      · rfl
    have weighed := h.placed (s := x) owns.lt_length size
    rw [same] at weighed
    exact ⟨weighed, List.getElem?_set_self owns.lt_length, weighs⟩

/-- A change of a block does to its wear what it does to the wear of every block. -/
theorem amend {change : Block → Except Defect Block} {g : UInt32 → UInt32}
    (changes : ∀ b c, change b = .ok c →
      c.data.length = b.data.length ∧ c.wear = g b.wear) :
    Ends (Weighing cfg block n) (Flash.amend cfg i change)
      (fun _ f => Weighing cfg block (if i = block then g n else n) f ∧
        i < f.device.slots.length) (Weighing cfg block n) := by
  refine own.bind fun b => ?_
  rintro _ f ⟨rfl, h, there, wear⟩
  cases changed : change b with
  | error d => exact ⟨rfl, rfl, h⟩
  | ok c =>
    obtain ⟨size, weighed⟩ := changes b c changed
    have inside : i < f.device.slots.length := (List.getElem?_eq_some_iff.1 there).1
    have length := h.sound.slots.size (List.mem_of_getElem? there)
    have now := h.placed (s := f.device.generator) inside (size.trans length)
    have same : (if i = block then c.wear else n) = if i = block then g n else n := by
      split
      · next here => rw [weighed, wear here]
      · rfl
    rw [same] at now
    show ResultsAgree _ _ ((put i c).run f) ((put i c).run f)
    rw [run_put_plain, there]
    refine ⟨rfl, rfl, now, ?_⟩
    show i < (f.device.slots.set i (some c)).length
    rwa [List.length_set]

/-- A change that leaves the wear of every block leaves that of every address. -/
theorem amend_keeps {change : Block → Except Defect Block}
    (kept : ∀ b c, change b = .ok c → c.data.length = b.data.length ∧ c.wear = b.wear) :
    KeepsWear cfg block n (Flash.amend cfg i change) := by
  refine (amend (g := id) kept).mono (fun _ _ => id) ?_ fun _ _ => id
  rintro _ _ f ⟨rfl, h, -⟩
  rw [id, ite_self] at h
  exact ⟨rfl, h⟩

/-! ## Updates -/

/-- Once an erase changed its block, all that can fail is the write to the image file. -/
theorem saveAndCount (h : Weighing cfg block n f) (inside : i < f.device.slots.length) :
    let rest : FlashM Plain Block Unit := do
      Flash.save cfg i 0 cfg.geometry.blockSize
      modifyDevice fun d => { d with bytesErased := d.bytesErased +
        cfg.geometry.blockSize.toUInt64 }
    carriedOut (answered rest f).1 ∧ Weighing cfg block n (answered rest f).2 := by
  rw [h.sound.slots.length] at inside
  obtain ⟨image, -, saves⟩ :=
    writes_save h.sound inside (Nat.le_of_eq (Nat.zero_add cfg.geometry.blockSize))
  dsimp only
  rw [answered_bind, saves, written]
  cases f.refuses cfg <;> exact ⟨rfl, h.congr rfl rfl⟩

theorem start (u : Update) : KeepsWear cfg block n (Flash.start cfg u) := by
  refine looking.start ?_ ?_ u
  · rintro f _ ⟨rfl, -⟩
    rfl
  · rintro f _ n ⟨rfl, h⟩
    exact ⟨rfl, h.congr rfl rfl⟩

/-! ## Requests -/

theorem sync : KeepsWear cfg block n Flash.sync := by
  apply Ends.of_run
  intro f h
  rw [run_sync_plain]
  refine ⟨⟨h.sound.slots, fun {before} hb => ?_⟩, h.wear⟩
  obtain ⟨_, -, rfl⟩ := Option.map_eq_some_iff.1 hb
  exact h.sound.slots

theorem setWear (wear : UInt32) :
    Ends (Weighing cfg block n) (Flash.setWear cfg i wear)
      (fun _ => Weighing cfg block (if i = block then wear else n)) (Weighing cfg block n) := by
  refine (preserves_contract _).bind fun _ =>
    (amend (g := fun _ => wear) fun b c changed => ?_).mono (fun _ _ => id) ?_ fun _ _ => id
  · cases changed
    exact ⟨rfl, rfl⟩
  · rintro _ _ f ⟨rfl, h, -⟩
    exact ⟨rfl, h⟩

/-- A request that neither sets the wear of a block nor erases one leaves all wear. -/
theorem keeps {r : Request} (direct : r.isDirect) (set : ∀ i k, r ≠ .setWear i k)
    (bad : ∀ i, r ≠ .markBad i) (good : ∀ i, r ≠ .markGood i) :
    KeepsWear cfg block n (r.effect cfg) := by
  by_cases looks : r.onlyLooks
  · exact looking.looks looks
  cases r with
  | sync => exact sync
  | setWear i k => exact absurd rfl (set i k)
  | markBad i => exact absurd rfl (bad i)
  | markGood i => exact absurd rfl (good i)
  | setBadBit i bit =>
    refine (preserves_contract _).bind fun _ => (preserves_contract _).bind fun _ =>
      amend_keeps fun b c changed => ?_
    cases changed
    exact ⟨rfl, rfl⟩
  | randomizeBadBit i =>
    refine (preserves_contract _).bind fun _ => (looking.drawBelow _).bind fun _ =>
      amend_keeps fun b c changed => ?_
    cases changed
    exact ⟨rfl, rfl⟩
  | flipBit i bit =>
    exact (preserves_contract _).bind fun _ => (preserves_contract _).bind fun _ =>
      (amend_keeps fun b c flipped =>
        ⟨Block.length_flip flipped, by rw [(Block.flip?_of_flip flipped).1]⟩).bind fun _ =>
          save _ 1
  | blockRefs i => exact preserves_of_answered (answered_blockRefs cfg i)
  | setCounter c value =>
    apply Coupled.modify
    rintro f _ ⟨rfl, h⟩
    exact ⟨rfl, h.congr (c.slots_set ..) (c.synced_set ..)⟩
  | setCountdown value =>
    apply Coupled.modify
    rintro f _ ⟨rfl, h⟩
    exact ⟨rfl, h.congr rfl rfl⟩
  | counter | countdown | allocated | image => exact preserves_of_answered fun _ => rfl
  | update | copy => cases direct
  | _ => exact absurd rfl looks

end Weighing

/-! ## Wear of what is carried out -/

/-- The operation makes the wear `n` of a block `k`, if it is carried out, and leaves it if not. -/
def Reweighs {α : Type} (cfg : Config) (block : Nat) (n k : UInt32) (op : FlashM Plain Block α) :
    Prop :=
  ∀ f, Weighing cfg block n f →
    Weighing cfg block (if carriedOut (answered op f).1 then k else n) (answered op f).2

namespace Reweighs

variable {α β : Type}

/-- What fails by no write to the image file is carried out if it is answered. -/
theorem of_ends {op : FlashM Plain Block α} (dry : Dry op)
    (ends : Ends (Weighing cfg block n) op (fun _ => Weighing cfg block k)
      (Weighing cfg block n)) : Reweighs cfg block n k op := by
  intro f h
  have run := ends.run h
  unfold answered
  cases hop : op.run f with
  | ok a g =>
    rw [hop] at run
    exact run
  | error e g =>
    rw [hop] at run
    rw [carriedOut, dry f e g hop]
    exact run

/-- What leaves all wear leaves it, carried out or not. -/
theorem of_keeps {op : FlashM Plain Block α} (keeps : KeepsWear cfg block n op) :
    Reweighs cfg block n n op := by
  intro f h
  rw [ite_self]
  exact (answered_of_preserves keeps ⟨rfl, h⟩).2.2

/-- What comes first may leave all wear, and fail by no write to the image file. -/
theorem after {m : FlashM Plain Block α} {next : α → FlashM Plain Block β} (dry : Dry m)
    (keeps : KeepsWear cfg block n m) (h : ∀ a, Reweighs cfg block n k (next a)) :
    Reweighs cfg block n k (m >>= next) := by
  intro f hf
  have run := Ends.run keeps hf
  rw [answered_bind]
  cases hm : m.run f with
  | ok a g =>
    rw [hm] at run
    rw [answered_eq_ok.2 hm]
    exact h a g run
  | error e g =>
    rw [hm] at run
    rw [answered_eq_error.2 hm, carriedOut, dry f e g hm]
    exact run

/-- An erase adds one to the wear of its block, even if the image file does not come to show it. -/
theorem eraseTo (bit : Option Nat) :
    Reweighs cfg block n (if i = block then Config.successor n else n)
      (Flash.eraseTo cfg i bit) := by
  have amends : Ends (Weighing cfg block n) (Flash.amend cfg i fun b => .ok (erased cfg bit b))
      (fun _ f => Weighing cfg block (if i = block then Config.successor n else n) f ∧
        i < f.device.slots.length) (Weighing cfg block n) := by
    refine Weighing.amend fun b c changed => ?_
    cases changed
    exact ⟨length_erased .., rfl⟩
  intro f h
  have amended := Ends.run amends h
  rw [Flash.eraseTo, answered_bind]
  cases run : (Flash.amend cfg i fun b => .ok (erased cfg bit b)).run f with
  | error e g =>
    rw [run] at amended
    rw [answered_eq_error.2 run, carriedOut, Dry.amend _ _ _ f e g run]
    exact amended
  | ok _ g =>
    -- the block is erased by now, whatever becomes of the write
    rw [run] at amended
    obtain ⟨done, weighs⟩ := amended.1.saveAndCount amended.2
    rw [answered_eq_ok.2 run]
    rw [if_pos done]
    exact weighs

/-- An update that is carried out adds to the wear of its block, if it is an erase. -/
theorem complete (worn : Bool) (u : Update) :
    Reweighs cfg block n ((Request.update u).weigh cfg block n) (Flash.complete cfg worn u) := by
  cases u with
  | prog i off data =>
    refine of_keeps (Coupled.bind (Weighing.amend_keeps fun b c changed => ?_) fun _ =>
      (Weighing.save off data.length).bind fun _ => Weighing.looking.count .bytesProgrammed _)
    have prog := programmed_ok changed
    exact ⟨prog.length, prog.wear⟩
  | erase i =>
    -- the draw for the bad bit comes before the block is changed
    refine after (.fetch i) (Weighing.looking.fetch i) fun b => ?_
    dsimp only
    split
    · exact eraseTo none
    · rw [map_eq_pure_bind, bind_assoc]
      exact after (.drawBelow _) (Weighing.looking.drawBelow _) fun bit => eraseTo (some bit)

/-- A request that is carried out does to the wear of a block what it is to do. -/
theorem effect {r : Request} (direct : r.isDirect) :
    Reweighs cfg block n (r.weigh cfg block n) (r.effect cfg) := by
  have sets (i : Nat) (wear : UInt32) :
      Reweighs cfg block n (if i = block then wear else n) (Flash.setWear cfg i wear) :=
    of_ends ((Dry.contract _).bind fun _ => Dry.amend cfg i _) (Weighing.setWear wear)
  cases r with
  | setWear i wear => exact sets i wear
  | markBad i => exact sets i cfg.wornOut
  | markGood i => exact sets i 0
  | update u => cases direct
  | _ => exact of_keeps (Weighing.keeps direct nofun nofun nofun)

end Reweighs

/-! ## What is told -/

namespace Finds

variable {f : Flash Counted Nat} {slots : Slots Block}

/-- A device that is asked tells the wear of a block. -/
theorem wear (h : Finds cfg block slots[block]?.join f) (inside : block < cfg.geometry.blockCount) :
    answered (Flash.wear cfg block) f = (.ok (slots.wear block), f) := by
  rw [Flash.wear, answered_contract_ok (Geometry.checkBlock_of_lt inside), answered_bind,
    h.found inside]
  rfl

/-- It tells by that whether the block is bad. -/
theorem isBad (h : Finds cfg block slots[block]?.join f)
    (inside : block < cfg.geometry.blockCount) :
    answered (Flash.isBad cfg block) f = (.ok (cfg.isWorn (slots.wear block)), f) := by
  rw [Flash.isBad, answered_contract_ok (Geometry.checkBlock_of_lt inside), h.isWorn inside,
    Slots.isBad_eq]

end Finds

end Flash

end FaultyFlash
