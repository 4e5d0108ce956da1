import FaultyFlash.Proofs.Images
import FaultyFlash.Proofs.Likeness

/-!
# Sound devices

A device is sound if its tables have a slot for every block and hold blocks of the configured size.
Nothing makes a device unsound. On a sound device whose blocks can be allocated, losing power during
an update that was let through never fails, and neither does the return from it, unless the image
file refuses what is then written to it. Both leave all but the blocks and the generator as it was.

## Main definitions

* `Slots.Sound`, `Device.Sound`: sound tables and devices
* `Config.Roomy`, `Config.Able`: blocks can be allocated, and the image file can be written
* `Update.Fits`: an update stays within its block
* `Device.rest`: what a loss of power leaves as it was
* `Flash.Succeeds pre m post`: an operation answers on every device with `pre`
* `Flash.Writes`: an operation fails only as the image file refuses what it ends in writing
* `Flash.wreck`: a loss of power, up to the write to the image file

## Main results

* `soundLikeness`: operations keep devices sound
* `Flash.fits_of_permit`: an update that is let through fits
* `Flash.writes_crash`, `Flash.writes_restore`: a loss of power does not fail otherwise
-/

namespace FaultyFlash

variable {cfg : Config}

/-- A table has a slot for every block, and its blocks have the configured size. -/
structure Slots.Sound (cfg : Config) (slots : Slots Block) : Prop where
  length : slots.length = cfg.geometry.blockCount
  size {b : Block} (h : some b ∈ slots) : b.data.length = cfg.geometry.blockSize

/-- The tables of a device are sound. -/
structure Device.Sound (cfg : Config) (D : Device Block) : Prop where
  slots : D.slots.Sound cfg
  synced {before : Slots Block} (h : D.synced = some before) : before.Sound cfg

/-- Blocks can be allocated. -/
structure Config.Roomy (cfg : Config) : Prop where
  bits : cfg.geometry.blockBits ≠ 0
  limit : cfg.geometry.blockSize < Config.allocationLimit

/-- Blocks can be allocated, and the image file takes what is written to it. -/
structure Config.Able (cfg : Config) : Prop extends Roomy cfg where
  taken : cfg.image ≠ .sealed

/-- A device apart from its blocks and its generator. -/
def Device.rest (D : Device Block) : Device Block := { D with slots := [], generator := ⟨0⟩ }

/-- An update is on a block of the device and stays within it. -/
structure Update.Fits (cfg : Config) (u : Update) : Prop where
  block : u.block < cfg.geometry.blockCount
  region : (u.region cfg).1 + (u.region cfg).2 ≤ cfg.geometry.blockSize

theorem Slots.Sound.set {slots : Slots Block} (h : slots.Sound cfg) (block : Nat) {x : Option Block}
    (size : ∀ b, x = some b → b.data.length = cfg.geometry.blockSize) :
    Slots.Sound cfg (slots.set block x) where
  length := (List.length_set ..).trans h.length
  size {b} hb := by
    rcases List.mem_or_eq_of_mem_set hb with mem | rfl
    · exact h.size mem
    · exact size b rfl

/-- Only the tables matter to the soundness of a device. -/
theorem Device.Sound.congr {D E : Device Block} (h : D.Sound cfg) (slots : E.slots = D.slots)
    (synced : E.synced = D.synced) : E.Sound cfg :=
  ⟨slots ▸ h.slots, fun hs => h.synced (synced ▸ hs)⟩

theorem Device.Sound.slot {D : Device Block} (h : D.Sound cfg) {block : Nat}
    (hb : block < cfg.geometry.blockCount) : ∃ x, D.slots[block]? = some x ∧
      ∀ b, x = some b → b.data.length = cfg.geometry.blockSize := by
  have hx := List.getElem?_eq_getElem (h.slots.length ▸ hb)
  exact ⟨_, hx, fun b hxb => h.slots.size (List.mem_of_getElem? (hx.trans (congrArg some hxb)))⟩

/-- A new device is sound. -/
theorem Device.sound_fresh (cfg : Config) : (Device.fresh Block cfg).Sound cfg := by
  have empty : Slots.Sound cfg (List.replicate cfg.geometry.blockCount none) :=
    ⟨List.length_replicate, fun hb => by simp [List.mem_replicate] at hb⟩
  refine ⟨empty, fun {before} hb => ?_⟩
  simp only [fresh] at hb
  split at hb
  · cases hb
    exact empty
  · cases hb

/-- Nothing makes a device unsound. -/
theorem soundLikeness (cfg : Config) : TimedLikeness cfg fun D E => D = E ∧ D.Sound cfg where
  slots h := by rw [h.1]
  generator h := by rw [h.1]
  set {D E} block c := by
    rintro ⟨rfl, sound⟩ fits
    refine ⟨rfl, sound.slots.set block fun b hb => ?_, sound.synced⟩
    cases hb
    refine fits.trans ?_
    cases hx : D.slots[block]?.join with
    | none => rfl
    | some b => exact sound.slots.size (List.mem_of_getElem? (Option.join_eq_some_iff.1 hx))
  reseed x h := ⟨by rw [h.1], h.2.slots, h.2.synced⟩
  tally c n h := ⟨by rw [h.1], h.2.congr (c.slots_set ..) (c.synced_set ..)⟩
  sync {D E} := by
    rintro ⟨rfl, sound⟩
    refine ⟨rfl, sound.slots, fun {before} hb => ?_⟩
    obtain ⟨_, -, rfl⟩ := Option.map_eq_some_iff.1 hb
    exact sound.slots
  countdown h := by rw [h.1]
  rearm n h := ⟨by rw [h.1], h.2.slots, h.2.synced⟩
  synced h := by rw [h.1]
  rollBack {D E before block x} := by
    rintro ⟨rfl, sound⟩ hs hx -
    refine ⟨rfl, (sound.synced hs).set block fun b hb => ?_, sound.synced⟩
    exact sound.slots.size (hb ▸ List.mem_of_getElem? hx)

namespace Flash

/-! ## Operations that answer -/

section Succeeds

variable {S R α β : Type}

/-- From devices with `pre`, the operation answers and ends with `post`. -/
def Succeeds (pre : Flash S R → Prop) (m : FlashM S R α) (post : α → Flash S R → Prop) : Prop :=
  ∀ f, pre f → ∃ a g, m.run f = .ok a g ∧ post a g

variable {pre : Flash S R → Prop}

theorem Succeeds.answer {post : α → Flash S R → Prop} (a : α) (h : ∀ f, pre f → post a f) :
    Succeeds pre (pure a) post :=
  fun f hf => ⟨a, f, rfl, h f hf⟩

theorem Succeeds.bind {m : FlashM S R α} {k : α → FlashM S R β} {mid : α → Flash S R → Prop}
    {post : β → Flash S R → Prop} (hm : Succeeds pre m mid)
    (hk : ∀ a, Succeeds (mid a) (k a) post) : Succeeds pre (m >>= k) post := by
  intro f hf
  obtain ⟨a, g, hg, hmid⟩ := hm f hf
  obtain ⟨b, t, ht, hpost⟩ := hk a g hmid
  exact ⟨b, t, by rw [EStateM.run_bind, hg]; exact ht, hpost⟩

theorem Succeeds.mono {m : FlashM S R α} {pre' : Flash S R → Prop}
    {post post' : α → Flash S R → Prop} (h : Succeeds pre m post) (hpre : ∀ f, pre' f → pre f)
    (hpost : ∀ a f, post a f → post' a f) : Succeeds pre' m post' := by
  intro f hf
  obtain ⟨a, g, hg, hp⟩ := h f (hpre f hf)
  exact ⟨a, g, hg, hpost a g hp⟩

theorem Succeeds.get_bind {k : Flash S R → FlashM S R β} {post : β → Flash S R → Prop}
    (h : ∀ f, pre f → Succeeds (fun g => g = f) (k f) post) : Succeeds pre (get >>= k) post :=
  fun f hf => h f hf f rfl

theorem Succeeds.sound {x : Except Defect α} {a : α} (h : x = .ok a) :
    Succeeds pre (sound x) fun b f => b = a ∧ pre f := by
  subst h
  exact fun f hf => ⟨a, f, rfl, rfl, hf⟩

end Succeeds

/-- The device is `D`. -/
abbrev HasDevice (D : Device Block) (f : Flash Plain Block) : Prop := f.device = D

/-- A device with its surroundings, apart from its blocks and its generator. -/
def rest (f : Flash Plain Block) : Flash Plain Block := { f with device := f.device.rest }

/-- The device is sound, and `z` is what it is apart from its blocks and its generator. -/
def IsSound (cfg : Config) (z f : Flash Plain Block) : Prop := f.device.Sound cfg ∧ f.rest = z

/-- The device is sound and holds the block `b` of the configured size at an address. -/
def Holds (cfg : Config) (z : Flash Plain Block) (block : Nat) (b : Block)
    (f : Flash Plain Block) : Prop :=
  IsSound cfg z f ∧ f.device.slots[block]? = some (some b) ∧
    b.data.length = cfg.geometry.blockSize

variable {z f g : Flash Plain Block}

theorem IsSound.image (h : IsSound cfg z f) : f.image = z.image := by
  rw [← h.2]
  rfl

theorem IsSound.device (h : IsSound cfg z f) : f.device.rest = z.device := by
  rw [← h.2]
  rfl

theorem IsSound.reseed {f : Flash Plain Block} (h : IsSound cfg z f) (x : Generator) :
    IsSound cfg z (f.reseed x) :=
  ⟨⟨h.1.slots, h.1.synced⟩, h.2⟩

theorem IsSound.set {f : Flash Plain Block} (h : IsSound cfg z f) (block : Nat) {x : Option Block}
    (size : ∀ b, x = some b → b.data.length = cfg.geometry.blockSize) :
    IsSound cfg z { f with device := { f.device with slots := f.device.slots.set block x } } :=
  ⟨⟨h.1.slots.set block size, h.1.synced⟩, h.2⟩

theorem succeeds_drawBelow {n : Nat} (hn : n ≠ 0) {P : Flash Plain Block → Prop}
    (hP : ∀ f x, P f → P (f.reseed x)) :
    Succeeds P (drawBelow n) fun v f => v < n ∧ P f := by
  intro f hf
  exact ⟨_, _, run_drawBelow hn f, Nat.mod_lt _ (Nat.pos_of_ne_zero hn), hP f _ hf⟩

/-- Looking at a block of a sound device changes nothing. -/
theorem succeeds_fetch {D : Device Block} (sound : D.Sound cfg) {block : Nat}
    (hb : block < cfg.geometry.blockCount) :
    Succeeds (HasDevice D) (fetch block) fun x f => HasDevice D f ∧
      ∀ b, x = some b → b.data.length = cfg.geometry.blockSize := by
  rintro f rfl
  obtain ⟨x, hx, size⟩ := sound.slot hb
  exact ⟨x, f, by rw [run_fetch_plain, hx], rfl, size⟩

theorem succeeds_own {block : Nat} (room : cfg.Roomy) (hb : block < cfg.geometry.blockCount) :
    Succeeds (IsSound cfg z) (own cfg block) (Holds cfg z block) := by
  intro f hf
  obtain ⟨x, hx, size⟩ := hf.1.slot hb
  cases x with
  | some b => exact ⟨b, f, by rw [run_own_plain, hx], hf, hx, size b rfl⟩
  | none =>
    have run := run_own_plain f block cfg
    simp only [hx, run_allocate_plain, if_neg room.bits, if_neg (Nat.not_le.2 room.limit)] at run
    refine ⟨_, _, run, ⟨⟨hf.1.slots.set block fun b hb => ?_, hf.1.synced⟩, hf.2⟩, ?_, ?_⟩
    · cases hb
      simp [Block.fresh]
    · exact List.getElem?_set_self (List.getElem?_eq_some_iff.1 hx).1
    · simp [Block.fresh]

theorem succeeds_put {block : Nat} {b c : Block} (size : c.data.length = cfg.geometry.blockSize) :
    Succeeds (Holds cfg z block b) (put block c) fun _ => IsSound cfg z := by
  rintro f ⟨hf, hx, -⟩
  have run := run_put_plain f block c
  rw [hx] at run
  refine ⟨(), _, run, hf.set block fun d hd => ?_⟩
  cases hd
  exact size

/-- A change that is possible on blocks of the configured size is possible on any block. -/
theorem succeeds_amend {block : Nat} (room : cfg.Roomy) (hb : block < cfg.geometry.blockCount)
    {change : Block → Except Defect Block}
    (possible : ∀ b, b.data.length = cfg.geometry.blockSize →
      ∃ c, change b = .ok c ∧ c.data.length = cfg.geometry.blockSize) :
    Succeeds (IsSound cfg z) (amend cfg block change) fun _ => IsSound cfg z := by
  refine (succeeds_own room hb).bind fun b f hf => ?_
  obtain ⟨c, hc, size⟩ := possible b hf.2.2
  refine ((Succeeds.sound hc).bind fun d => ?_) f hf
  rintro g ⟨rfl, hg⟩
  exact succeeds_put size g hg

/-! ## The image file -/

/-- An operation takes a device from `f` to `g`, and then writes to its image file. It fails if the
file refuses that. -/
def Writes (cfg : Config) (m : FlashM Plain Block Unit) (f g : Flash Plain Block) : Prop :=
  ∃ image : Option Image, image.isSome = g.image.isSome ∧
    answered m f = (g.written cfg, { g with image := image })

/-- What comes before the write to the image file. -/
theorem Writes.bind {α : Type} {m : FlashM Plain Block α} {k : α → FlashM Plain Block Unit}
    {t : Flash Plain Block} {a : α} (first : m.run f = .ok a t) (h : Writes cfg (k a) t g) :
    Writes cfg (m >>= k) f g := by
  obtain ⟨image, same, writes⟩ := h
  refine ⟨image, same, ?_⟩
  rw [answered_bind, answered_eq_ok.2 first]
  exact writes

/-- A file that takes what is written to it lets the operation answer. -/
theorem Writes.run {m : FlashM Plain Block Unit} (h : Writes cfg m f g)
    (takes : g.refuses cfg = false) : ∃ image, m.run f = .ok () { g with image := image } := by
  obtain ⟨image, -, writes⟩ := h
  rw [written_eq_ok takes] at writes
  exact ⟨image, answered_eq_ok.1 writes⟩

/-- What comes after a write to the image file that the file takes. -/
theorem Writes.andThen {m k : FlashM Plain Block Unit} (h : Writes cfg m f f)
    (next : f.refuses cfg = false → ∀ image : Option Image, image.isSome = f.image.isSome →
      Writes cfg k { f with image := image } { f with image := image }) :
    Writes cfg (m >>= fun _ => k) f f := by
  obtain ⟨image, same, writes⟩ := h
  cases refused : f.refuses cfg with
  | true =>
    refine ⟨image, same, ?_⟩
    rw [answered_bind, writes, written, if_pos refused]
  | false =>
    obtain ⟨last, same', rest⟩ := next refused image same
    refine ⟨last, same'.trans same, ?_⟩
    rw [answered_bind, writes, written_eq_ok refused]
    rw [written_eq_ok ((refuses_congr same).trans refused)] at rest
    exact rest

theorem writes_nothing (takes : f.refuses cfg = false) : Writes cfg (pure ()) f f :=
  ⟨f.image, rfl, by rw [written_eq_ok takes]; rfl⟩

theorem writes_writeOut (image : Image) (there : f.image.isSome) :
    Writes cfg (writeOut cfg image) f f := by
  unfold Writes written refuses writeOut
  rw [there, Bool.true_and]
  by_cases sealed : cfg.image = .sealed
  · simp only [sealed, decide_true, if_true]
    exact ⟨f.image, there, rfl⟩
  · simp only [sealed, decide_false, if_false]
    exact ⟨some image, rfl, rfl⟩

/-- To write a region out to the image file leaves a sound device as it is. -/
theorem writes_save (sound : f.device.Sound cfg) {block off len : Nat}
    (hb : block < cfg.geometry.blockCount) (region : off + len ≤ cfg.geometry.blockSize) :
    Writes cfg (save cfg block off len) f f := by
  refine Writes.bind (t := f) (a := f) rfl ?_
  cases hi : f.image with
  | none => exact writes_nothing (by rw [refuses, hi]; rfl)
  | some image =>
    have there : f.image.isSome := by rw [hi]; rfl
    obtain ⟨x, hx, size⟩ := sound.slot hb
    refine Writes.bind (t := f) (a := x) (by rw [run_fetch_plain, hx]) ?_
    cases x with
    | none => exact writes_writeOut _ there
    | some b =>
      have held := Block.region_of_le (b := b) (by rw [size b rfl]; exact region)
      simp only [held]
      exact writes_writeOut _ there

/-- To write every block out to the image file leaves a sound device as it is. -/
theorem writes_saveAll (sound : f.device.Sound cfg)
    (some : f.refuses cfg → 0 < cfg.geometry.blockCount) : Writes cfg (saveAll cfg) f f := by
  refine Writes.bind (t := f) (a := f) rfl ?_
  split
  · -- the loop writes one block after another, and a file that refuses one refuses the first
    suffices all : ∀ (blocks : List Nat) (f : Flash Plain Block), f.device.Sound cfg →
        (∀ b ∈ blocks, b < cfg.geometry.blockCount) → (blocks = [] → f.refuses cfg = false) →
          Writes cfg (blocks.forM fun b => save cfg b 0 cfg.geometry.blockSize) f f by
      refine all _ f sound (fun b => List.mem_range.1) fun none =>
        Bool.eq_false_iff.2 fun refuses => ?_
      exact absurd (List.range_eq_nil.1 none) (Nat.ne_of_gt (some refuses))
    intro blocks
    induction blocks with
    | nil => exact fun f _ _ takes => writes_nothing (takes rfl)
    | cons b blocks ih =>
      intro f sound inside _
      have saves := writes_save sound (inside b List.mem_cons_self) (Nat.le_of_eq (Nat.zero_add _))
      refine saves.andThen fun takes image same => ?_
      exact ih _ sound (fun c hc => inside c (List.mem_cons_of_mem _ hc)) fun _ =>
        (refuses_congr same).trans takes
  next none =>
    rw [Bool.not_eq_true] at none
    exact writes_nothing (by rw [refuses, none]; rfl)

/-! ## Losing power -/

/-- An update that is let through fits. -/
theorem fits_of_permit {S R : Type} [BlockStore S R] {u : Update} {f g : Flash S R} {worn : Bool}
    (h : (permit cfg u).run f = .ok (some worn) g) : u.Fits cfg := by
  cases u with
  | prog block off data =>
    cases hc : cfg.geometry.checkRegion .prog cfg.geometry.progSize block off data.length with
    | error m =>
      rw [permit, hc] at h
      cases h
    | ok _ => exact ⟨(Geometry.of_checkRegion hc).1, (Geometry.of_checkRegion hc).2⟩
  | erase block =>
    cases hc : cfg.geometry.checkBlock .erase block with
    | error m =>
      rw [permit, hc] at h
      cases h
    | ok _ => exact ⟨Geometry.of_checkBlock hc, by simp [Update.region]⟩

theorem region_of_length {b : Block} (size : b.data.length = cfg.geometry.blockSize) {off len : Nat}
    (h : off + len ≤ cfg.geometry.blockSize) :
    ∃ old, b.region off len = .ok old ∧ old.length = len := by
  refine ⟨_, Block.region_of_le (by rw [size]; exact h), ?_⟩
  rw [List.length_take, List.length_drop]
  omega

theorem flip_of_length {b : Block} (size : b.data.length = cfg.geometry.blockSize) {bit : Nat}
    (h : bit / 8 < cfg.geometry.blockSize) :
    ∃ c, b.flip bit = .ok c ∧ c.data.length = cfg.geometry.blockSize := by
  have flipped := Block.flip_of_lt (b := b) (by rw [size]; exact h)
  exact ⟨_, flipped, (Block.length_flip flipped).trans size⟩

theorem length_outcome {u : Update} {old : Bytes} (h : old.length = (u.region cfg).2) :
    (u.outcome cfg old).length = (u.region cfg).2 := by
  cases u with
  | prog block off data => rfl
  | erase block =>
    cases he : cfg.eraseValue with
    | none => simpa [Update.outcome, he] using h
    | some value => simpa [Update.outcome, he] using h

/-- What lands of an update that fits is a block of the configured size. -/
theorem landed_of_fits {u : Update} (fits : u.Fits cfg) {b : Block}
    (size : b.data.length = cfg.geometry.blockSize) :
    ∃ c, landed cfg u (u.region cfg).1 (u.region cfg).2 b = .ok c ∧
      c.data.length = cfg.geometry.blockSize := by
  obtain ⟨old, hold, length⟩ := region_of_length size fits.region
  have held : (u.region cfg).1 + (u.outcome cfg old).length ≤ b.data.length := by
    rw [length_outcome length, size]
    exact fits.region
  obtain ⟨c, lands⟩ : ∃ c, landed cfg u (u.region cfg).1 (u.region cfg).2 b = .ok c := by
    rw [landed, hold]
    exact ⟨_, Block.overwrite_of_le held⟩
  exact ⟨_, lands, (length_landed lands).trans size⟩

/-- A bit of a region lies in the block. -/
theorem bit_of_region {off len bit : Nat} (h : off + len ≤ cfg.geometry.blockSize)
    (hbit : bit < len * 8) : (off * 8 + bit) / 8 < cfg.geometry.blockSize := by
  omega

theorem succeeds_tearBit {u : Update} (room : cfg.Roomy) (fits : u.Fits cfg) :
    Succeeds (IsSound cfg z) (tearBit cfg u (u.region cfg).1 (u.region cfg).2)
      fun _ => IsSound cfg z := by
  refine (succeeds_own room fits.block).bind fun b f hf => ?_
  obtain ⟨old, hold, length⟩ := region_of_length hf.2.2 fits.region
  refine ((Succeeds.sound hold).bind fun x => ?_) f hf
  rintro g ⟨rfl, hg⟩
  dsimp only
  split
  · next changed =>
    -- some bit changes, and one of those that do is drawn
    have some : (Bytes.diff x (u.outcome cfg x)).length ≠ 0 := by
      intro none
      simp [List.length_eq_zero_iff.1 none] at changed
    have drawn : Succeeds (Holds cfg z u.block b)
        (drawBelow (Bytes.diff x (u.outcome cfg x)).length) _ :=
      succeeds_drawBelow some fun f x hf => ⟨hf.1.reseed x, hf.2⟩
    refine (drawn.bind fun n t ht => ?_) g hg
    rw [List.getElem?_eq_getElem ht.1]
    have inside := Bytes.lt_of_mem_diff (List.getElem_mem ht.1)
    obtain ⟨c, hc, size⟩ := flip_of_length hf.2.2 (bit_of_region fits.region (length ▸ inside))
    refine ((Succeeds.sound hc).bind fun d => ?_) t ht.2
    rintro t ⟨rfl, ht⟩
    exact succeeds_put size t ht
  · exact ⟨(), g, rfl, hg.1⟩

theorem succeeds_tear {u : Update} (room : cfg.Roomy) (fits : u.Fits cfg) :
    Succeeds (IsSound cfg z) (tear cfg u) fun _ => IsSound cfg z := by
  have drawn (n : Nat) (hn : n ≠ 0) :
      Succeeds (IsSound cfg z) (drawBelow n) fun v f => v < n ∧ IsSound cfg z f :=
    succeeds_drawBelow hn fun f x hf => hf.reseed x
  unfold tear
  dsimp only
  split
  · exact Succeeds.answer _ fun _ => id
  next some =>
  have bits : (u.region cfg).2 * 8 ≠ 0 := by omega
  cases cfg.crash with
  | noop => exact Succeeds.answer _ fun _ => id
  | someBits => exact succeeds_tearBit room fits
  | mostBits =>
    refine (drawn _ bits).bind fun bit f ⟨hbit, hf⟩ => ?_
    refine succeeds_amend room fits.block (fun b size => ?_) f hf
    obtain ⟨c, hc, size⟩ := landed_of_fits fits size
    rw [hc]
    exact flip_of_length size (bit_of_region fits.region hbit)
  | outOfOrder => exact succeeds_amend room fits.block fun b size => landed_of_fits fits size
  | metastable =>
    refine (drawn _ bits).bind fun bit f ⟨hbit, hf⟩ => ?_
    refine succeeds_amend room fits.block (fun b size => ?_) f hf
    obtain ⟨c, hc, size⟩ := landed_of_fits fits size
    rw [hc]
    exact ⟨_, rfl, size⟩

theorem succeeds_rollBack {block : Nat} {before : Slots Block}
    (hb : block < cfg.geometry.blockCount) (sound : before.Sound cfg) :
    Succeeds (IsSound cfg z) (rollBack before block) fun _ => IsSound cfg z := by
  intro f hf
  obtain ⟨x, hx, size⟩ := hf.1.slot hb
  have run := run_rollBack_plain f block before
  rw [if_neg (fun h => h (sound.length.trans hf.1.slots.length.symm)), hx] at run
  exact ⟨(), _, run, ⟨sound.set block size, hf.1.synced⟩, hf.2⟩

/-- What a loss of power does to a device before its image file is written. -/
def wreck (cfg : Config) (u : Update) : FlashM Plain Block Unit := do
  tear cfg u
  match (← get).device.synced with
  | some before => rollBack before u.block
  | none => return

theorem succeeds_wreck {u : Update} (room : cfg.Roomy) (fits : u.Fits cfg) :
    Succeeds (IsSound cfg z) (wreck cfg u) fun _ => IsSound cfg z := by
  refine (succeeds_tear room fits).bind fun _ => Succeeds.get_bind fun f hf => ?_
  cases hs : f.device.synced with
  | none => exact Succeeds.answer _ fun g hg => hg ▸ hf
  | some before =>
    exact (succeeds_rollBack fits.block (hf.1.synced hs)).mono (fun g hg => hg ▸ hf) fun _ _ => id

/-- Losing power during an update that fits does not fail until the image file is written. -/
theorem writes_crash {u : Update} (room : cfg.Roomy) (fits : u.Fits cfg) (hf : IsSound cfg z f) :
    ∃ g, (wreck cfg u).run f = .ok () g ∧ IsSound cfg z g ∧ Writes cfg (crash cfg u) f g := by
  obtain ⟨_, t, torn, ht⟩ := succeeds_tear room fits f hf
  obtain ⟨_, g, wrecked, hg⟩ := succeeds_wreck room fits f hf
  -- up to the write to the image file, `crash` goes the way of `wreck`
  refine ⟨g, wrecked, hg, Writes.bind torn ?_⟩
  obtain ⟨_, _, torn', wrecked⟩ := run_bind_eq_ok.1 wrecked
  rw [torn] at torn'
  cases torn'
  refine Writes.bind (t := t) (a := t) rfl ?_
  obtain ⟨_, _, got, rolled⟩ := run_bind_eq_ok.1 wrecked
  cases got
  cases hs : t.device.synced with
  | none =>
    rw [hs] at rolled
    cases rolled
    exact writes_save ht.1 fits.block (Nat.le_of_eq (Nat.zero_add _))
  | some before =>
    rw [hs] at rolled
    exact Writes.bind rolled (writes_saveAll hg.1 fun _ => Nat.zero_lt_of_lt fits.block)

/-- The return to a sound table brings back just that table and the generator. It does not fail
until the image file is written. -/
theorem writes_restore {slots : Slots Block} (sound : slots.Sound cfg) (x : Generator)
    (hf : f.device.Sound cfg) (some : f.refuses cfg → 0 < cfg.geometry.blockCount) :
    Writes cfg (restore cfg slots x) f
      { f with device := { f.device with slots := slots, generator := x } } := by
  let D : Device Block := { f.device with slots := slots, generator := x }
  have restored : D.Sound cfg := ⟨sound, hf.synced⟩
  exact writes_saveAll (f := { f with device := D }) restored some

section

variable (able : cfg.Able)

include able

/-- Losing power during an update that fits does not fail where the image file can be written. -/
theorem succeeds_crash {u : Update} (fits : u.Fits cfg) (sound : f.device.Sound cfg) :
    ∃ g, (crash cfg u).run f = .ok () g ∧ g.device.Sound cfg ∧
      g.device.rest = f.device.rest := by
  obtain ⟨g, -, hg, writes⟩ := writes_crash able.toRoomy fits (z := f.rest) ⟨sound, rfl⟩
  obtain ⟨image, run⟩ := writes.run (refuses_of_ne able.taken g)
  exact ⟨_, run, hg.1, hg.device⟩

/-- Nor does the return. -/
theorem succeeds_restore {slots : Slots Block} (sound : slots.Sound cfg) (x : Generator)
    (hf : f.device.Sound cfg) :
    ∃ g, (restore cfg slots x).run f = .ok () g ∧
      g.device = { f.device with slots := slots, generator := x } := by
  have takes : f.refuses cfg = false := refuses_of_ne able.taken f
  obtain ⟨image, run⟩ := (writes_restore sound x hf fun refuses => by simp [takes] at refuses).run
    takes
  exact ⟨_, run, rfl⟩

end

end Flash

end FaultyFlash
