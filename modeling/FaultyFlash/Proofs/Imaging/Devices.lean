import FaultyFlash.Proofs.Invariants
import FaultyFlash.Proofs.Landing

/-!
# Image files of devices

The image file of a device shows what the device stores. Whatever changes a block writes out at
least the region that it changed, so the file never falls behind: not by an operation that fails on
the way, and not by a loss of power, after which other blocks may have returned to the last sync.

## Main definitions

* `Image.Shows cfg image bytes`: an image has the bytes of each block in the place of the block
* `Flash.Imaged cfg f`: the image file of a sound device shows what is stored
* `Flash.Awaits cfg block off len f`: only a region of a block has still to be written out

## Main results

* `Image.Shows.write`: what a write shows
* `Flash.run_save`, `Flash.run_saveAll`: what is written out
* `Flash.Imaged.start`, `Flash.Imaged.complete`, `Flash.Imaged.crash`, `Flash.Imaged.restore`,
  `Flash.Imaged.effect`: whatever is done to a device, its image file shows what is stored
-/

namespace FaultyFlash

variable {cfg : Config}

/-! ## What an image shows -/

namespace Image

/-- An image has the size of a device, and the bytes of each block stand in its place. -/
structure Shows (cfg : Config) (image : Image) (bytes : Nat → Bytes) : Prop where
  length : image.bytes.length = cfg.geometry.blockSize * cfg.geometry.blockCount
  byte {block k : Nat} (hb : block < cfg.geometry.blockCount) (hk : k < cfg.geometry.blockSize) :
    image.bytes[block * cfg.geometry.blockSize + k]? = (bytes block)[k]?

instance (cfg : Config) (image : Image) (bytes : Nat → Bytes) :
    Decidable (image.Shows cfg bytes) :=
  decidable_of_iff (image.bytes.length = cfg.geometry.blockSize * cfg.geometry.blockCount ∧
      ∀ block < cfg.geometry.blockCount, ∀ k < cfg.geometry.blockSize,
        image.bytes[block * cfg.geometry.blockSize + k]? = (bytes block)[k]?)
    ⟨fun h => ⟨h.1, fun hb hk => h.2 _ hb _ hk⟩, fun h => ⟨h.1, fun _ hb _ hk => h.2 hb hk⟩⟩

/-- The place of a block ends before that of a later one starts. -/
theorem place_le (n : Nat) {i j : Nat} (h : i < j) : i * n + n ≤ j * n := by
  rw [← Nat.succ_mul]
  exact Nat.mul_le_mul_right n h

/-- The image of a new device shows unwritten flash. -/
theorem shows_create (cfg : Config) :
    (create cfg.geometry.blockSize cfg.geometry.blockCount cfg.fill).Shows cfg
      fun _ => List.replicate cfg.geometry.blockSize cfg.fill := by
  constructor
  · rw [length_create, Nat.mul_comm]
  · intro block k hb hk
    have inside : block * cfg.geometry.blockSize + k <
        cfg.geometry.blockCount * cfg.geometry.blockSize := by
      have place := place_le cfg.geometry.blockSize hb
      omega
    simp [create, List.flatten_replicate_replicate, inside, hk]

/-- A write within an image exchanges the bytes of its region. -/
theorem getElem?_writeAt {image : Image} {pos : Nat} {data : Bytes}
    (inside : pos + data.length ≤ image.bytes.length) (n : Nat) :
    (image.writeAt pos data).bytes[n]? =
      if pos ≤ n ∧ n < pos + data.length then data[n - pos]? else image.bytes[n]? := by
  by_cases empty : data = []
  · subst empty
    rw [writeAt_nil, if_neg]
    simp only [List.length_nil]
    omega
  · have front : (image.bytes.take pos).length = pos := by
      rw [List.length_take]
      omega
    have nonempty : data.isEmpty = false := by simpa using empty
    have gap : pos - image.bytes.length = 0 := by omega
    simp only [writeAt, nonempty, gap, Bool.false_eq_true, if_false, List.replicate_zero,
      List.append_nil, List.append_assoc]
    -- before the region, in it, and after it
    rcases Nat.lt_or_ge n pos with before | from_pos
    · rw [List.getElem?_append_left (by omega), List.getElem?_take, if_pos before, if_neg]
      omega
    rw [List.getElem?_append_right (by omega), front]
    rcases Nat.lt_or_ge n (pos + data.length) with within | after
    · rw [List.getElem?_append_left (by omega), if_pos ⟨from_pos, within⟩]
    · rw [List.getElem?_append_right (by omega), List.getElem?_drop, if_neg (by omega)]
      congr 1
      omega

namespace Shows

variable {image : Image} {bytes new : Nat → Bytes} {block off len : Nat}

/-- What is shown of blocks outside the device does not matter. -/
theorem congr (h : image.Shows cfg bytes)
    (same : ∀ b, b < cfg.geometry.blockCount → ∀ k, k < cfg.geometry.blockSize →
      (new b)[k]? = (bytes b)[k]?) : image.Shows cfg new := by
  constructor
  · exact h.length
  · intro b k hb hk
    rw [same b hb k hk]
    exact h.byte hb hk

/-- After a region of a block is written, the image shows what was shown before, with the region
exchanged. -/
theorem write (h : image.Shows cfg bytes) (hb : block < cfg.geometry.blockCount)
    (region : off + len ≤ cfg.geometry.blockSize)
    (size : (new block).length = cfg.geometry.blockSize)
    (others : ∀ b, b ≠ block → new b = bytes b)
    (outside : ∀ k, k < cfg.geometry.blockSize → ¬(off ≤ k ∧ k < off + len) →
      (new block)[k]? = (bytes block)[k]?) :
    (image.write cfg.geometry.blockSize block off (((new block).drop off).take len)).Shows cfg
      new := by
  have length : (((new block).drop off).take len).length = len := by
    rw [List.length_take, List.length_drop]
    omega
  have room : block * cfg.geometry.blockSize + cfg.geometry.blockSize ≤ image.bytes.length := by
    rw [h.length, Nat.mul_comm cfg.geometry.blockSize]
    exact place_le _ hb
  constructor
  · by_cases empty : ((new block).drop off).take len = []
    · rw [Image.write, empty, writeAt_nil]
      exact h.length
    · rw [Image.write, length_writeAt _ _ empty, length, ← h.length]
      omega
  · intro b k hb' hk
    rw [Image.write, getElem?_writeAt (by omega), length]
    by_cases here : b = block
    · subst here
      by_cases within : off ≤ k ∧ k < off + len
      · rw [if_pos (by omega), List.getElem?_take, if_pos (by omega), List.getElem?_drop]
        congr 1
        omega
      · rw [if_neg (by omega), h.byte hb' hk, outside k hk within]
    · -- the places of two blocks are apart
      have apart : b * cfg.geometry.blockSize + k < block * cfg.geometry.blockSize ∨
          block * cfg.geometry.blockSize + cfg.geometry.blockSize ≤
            b * cfg.geometry.blockSize + k := by
        rcases Nat.lt_or_gt_of_ne here with less | more
        · have place := place_le cfg.geometry.blockSize less
          omega
        · have place := place_le cfg.geometry.blockSize more
          omega
      rw [if_neg (by omega), h.byte hb' hk, others b here]

end Shows

/-- Any image of the size of a device shows something. -/
theorem exists_shows {image : Image}
    (length : image.bytes.length = cfg.geometry.blockSize * cfg.geometry.blockCount) :
    ∃ bytes, image.Shows cfg bytes ∧
      ∀ b, b < cfg.geometry.blockCount → (bytes b).length = cfg.geometry.blockSize := by
  refine ⟨fun b => (image.bytes.drop (b * cfg.geometry.blockSize)).take cfg.geometry.blockSize,
    ⟨length, ?_⟩, ?_⟩
  · intro b k hb hk
    rw [List.getElem?_take, if_pos hk, List.getElem?_drop]
  · intro b hb
    have place := place_le cfg.geometry.blockSize hb
    rw [List.length_take, List.length_drop, length, Nat.mul_comm cfg.geometry.blockSize]
    omega

end Image

/-! ## Writing out -/

namespace Flash

/-- The image file of a sound device takes what is written to it, and shows what is stored. -/
structure Imaged (cfg : Config) (f : Flash Plain Block) : Prop where
  taken : cfg.image ≠ .sealed
  sound : f.device.Sound cfg
  shown : ∃ image, f.image = some image ∧ image.Shows cfg (f.device.slots.stored cfg)

/-- The image file of a sound device shows what is stored, apart from a region of a block, which has
still to be written out. -/
structure Awaits (cfg : Config) (block off len : Nat) (f : Flash Plain Block) : Prop where
  taken : cfg.image ≠ .sealed
  sound : f.device.Sound cfg
  region : off + len ≤ cfg.geometry.blockSize
  shown : ∃ image bytes, f.image = some image ∧ image.Shows cfg bytes ∧
    (∀ b, b ≠ block → f.device.slots.stored cfg b = bytes b) ∧
    ∀ k, k < cfg.geometry.blockSize → ¬(off ≤ k ∧ k < off + len) →
      (f.device.slots.stored cfg block)[k]? = (bytes block)[k]?

variable {f : Flash Plain Block} {block off len : Nat}

/-- Only the tables and the image file matter. -/
theorem Imaged.congr (h : Imaged cfg f) {g : Flash Plain Block} (slots : g.device.slots =
    f.device.slots) (synced : ∀ before, g.device.synced = some before → before.Sound cfg)
    (image : g.image = f.image) : Imaged cfg g where
  taken := h.taken
  sound := ⟨slots ▸ h.sound.slots, fun hs => synced _ hs⟩
  shown := by
    rw [image, slots]
    exact h.shown

/-- Nothing has to be written out where all is shown. -/
theorem Imaged.awaits (h : Imaged cfg f) (block : Nat)
    (region : off + len ≤ cfg.geometry.blockSize) : Awaits cfg block off len f where
  taken := h.taken
  sound := h.sound
  region := region
  shown := by
    obtain ⟨image, hi, shows⟩ := h.shown
    exact ⟨image, _, hi, shows, fun _ _ => rfl, fun _ _ _ => rfl⟩

/-- Nothing has to be written out of a region without bytes. -/
theorem Awaits.imaged (h : Awaits cfg block off 0 f) : Imaged cfg f where
  taken := h.taken
  sound := h.sound
  shown := by
    obtain ⟨image, bytes, hi, shows, others, outside⟩ := h.shown
    refine ⟨image, hi, shows.congr fun b _ k hk => ?_⟩
    by_cases here : b = block
    · subst here
      exact outside k hk (by omega)
    · rw [others b here]

/-- Nothing has to be written out of a block that the device does not have. -/
theorem Awaits.imaged_of_le (h : Awaits cfg block off len f)
    (beyond : cfg.geometry.blockCount ≤ block) : Imaged cfg f where
  taken := h.taken
  sound := h.sound
  shown := by
    obtain ⟨image, bytes, hi, shows, others, -⟩ := h.shown
    refine ⟨image, hi, shows.congr fun b hb k _ => ?_⟩
    rw [others b (by omega)]

/-- A sound device writes the bytes of a region out as they are stored. -/
theorem run_save (taken : cfg.image ≠ .sealed) (sound : f.device.Sound cfg) {image : Image}
    (hi : f.image = some image) (hb : block < cfg.geometry.blockCount)
    (region : off + len ≤ cfg.geometry.blockSize) :
    (save cfg block off len).run f = .ok () { f with
      image := some (image.write cfg.geometry.blockSize block off
        (((f.device.slots.stored cfg block).drop off).take len)) } := by
  obtain ⟨x, hx, size⟩ := sound.slot hb
  simp only [save, EStateM.run_bind, EStateM.run_get, hi, run_fetch_plain, hx]
  rcases x with _ | b
  · have unwritten : f.device.slots.stored cfg block =
        List.replicate cfg.geometry.blockSize cfg.fill := by simp [Slots.stored, hx]
    rw [unwritten, Bytes.take_drop_replicate region]
    exact run_writeOut taken _ f
  · have held := Block.region_of_le (b := b) (by rw [size b rfl]; exact region)
    simp only [held, Slots.stored_of_slot hx]
    exact run_writeOut taken _ f

/-- A block that the device does not have is not written out. -/
theorem run_save_of_le (sound : f.device.Sound cfg) (beyond : cfg.geometry.blockCount ≤ block)
    {image : Image} (hi : f.image = some image) :
    (save cfg block off len).run f = .error (.defect (.slotTable block)) f := by
  have none : f.device.slots[block]? = none := by
    apply List.getElem?_eq_none
    rw [sound.slots.length]
    exact beyond
  simp only [save, EStateM.run_bind, EStateM.run_get, hi, run_fetch_plain, none]

/-- What has to be written out is written out. -/
theorem Awaits.save (cfg : Config) (block off len : Nat) :
    Ends (Awaits cfg block off len) (Flash.save cfg block off len) (fun _ => Imaged cfg)
      (Imaged cfg) := by
  apply Ends.of_run
  intro f h
  obtain ⟨image, bytes, hi, shows, others, outside⟩ := h.shown
  rcases Nat.lt_or_ge block cfg.geometry.blockCount with inside | beyond
  · rw [run_save h.taken h.sound hi inside h.region]
    constructor
    · exact h.taken
    · exact h.sound
    · exact ⟨_, rfl, shows.write inside h.region (h.sound.slots.length_stored block) others outside⟩
  · rw [run_save_of_le h.sound beyond hi]
    exact h.imaged_of_le beyond

/-- An image shows the blocks that are written out as they are stored, too. -/
theorem run_saveBlocks (taken : cfg.image ≠ .sealed) (sound : f.device.Sound cfg)
    {blocks : List Nat} (inside : ∀ b ∈ blocks, b < cfg.geometry.blockCount) {image : Image}
    {bytes : Nat → Bytes} (shows : image.Shows cfg bytes)
    (done : ∀ b, b < cfg.geometry.blockCount → b ∉ blocks → bytes b = f.device.slots.stored cfg b) :
    ∃ last, last.Shows cfg (f.device.slots.stored cfg) ∧
      (blocks.forM fun b => save cfg b 0 cfg.geometry.blockSize).run
        { f with image := some image } = .ok () { f with image := some last } := by
  induction blocks generalizing image bytes with
  | nil =>
    refine ⟨image, shows.congr fun b hb k _ => ?_, rfl⟩
    rw [done b hb List.not_mem_nil]
  | cons b blocks ih =>
    have hb := inside b List.mem_cons_self
    have whole : 0 + cfg.geometry.blockSize ≤ cfg.geometry.blockSize := by omega
    -- with one block more written out, the image shows that block as it is stored
    let new (c : Nat) : Bytes := if c = b then f.device.slots.stored cfg b else bytes c
    have here : new b = f.device.slots.stored cfg b := if_pos rfl
    have written : Image.Shows cfg _ new :=
      shows.write hb whole (here ▸ sound.slots.length_stored b) (fun c hc => if_neg hc)
        fun k hk out => absurd ⟨Nat.zero_le k, by omega⟩ out
    obtain ⟨last, shown, run⟩ := ih (fun c hc => inside c (List.mem_cons_of_mem b hc)) written
      fun c hc out => by
        by_cases this : c = b
        · subst this
          exact here
        · rw [← done c hc (by simp [this, out])]
          exact if_neg this
    have saved := run_save (f := { f with image := some image }) taken sound rfl hb whole
    rw [← here] at saved
    exact ⟨last, shown, run_bind_eq_ok.2 ⟨(), _, saved, run⟩⟩

/-- Whatever an image file of the right size shows, it shows what is stored once all is written
out. -/
theorem run_saveAll (taken : cfg.image ≠ .sealed) (sound : f.device.Sound cfg) {image : Image}
    (hi : f.image = some image)
    (length : image.bytes.length = cfg.geometry.blockSize * cfg.geometry.blockCount) :
    ∃ g, (saveAll cfg).run f = .ok () g ∧ Imaged cfg g ∧ g.device = f.device := by
  obtain ⟨bytes, shows, -⟩ := Image.exists_shows length
  obtain ⟨last, shown, run⟩ := run_saveBlocks taken sound (fun b => List.mem_range.1) shows
    fun b hb out => absurd (List.mem_range.2 hb) out
  have self : { f with image := some image } = f := by rw [← hi]
  refine ⟨{ f with image := some last }, ?_, ⟨taken, sound, last, rfl, shown⟩, rfl⟩
  rw [self] at run
  simp only [saveAll, EStateM.run_bind, EStateM.run_get, hi, Option.isSome_some, if_true, run]

/-! ## Changing blocks -/

/-- A change of blocks keeps their size, and changes bytes of one region only. -/
def Within (cfg : Config) (off len : Nat) (change : Block → Except Defect Block) : Prop :=
  ∀ b c, b.data.length = cfg.geometry.blockSize → change b = .ok c →
    c.data.length = b.data.length ∧ off + len ≤ cfg.geometry.blockSize ∧
      ∀ k, k < cfg.geometry.blockSize → ¬(off ≤ k ∧ k < off + len) → c.data[k]? = b.data[k]?

/-- Any change that keeps the size is one of the whole block. -/
theorem within_whole {change : Block → Except Defect Block}
    (size : ∀ b c, change b = .ok c → c.data.length = b.data.length) :
    Within cfg 0 cfg.geometry.blockSize change := by
  intro b c _ hc
  refine ⟨size b c hc, by omega, fun k hk out => ?_⟩
  omega

/-- A change of anything but the bytes is one of no bytes. -/
theorem within_none {change : Block → Block} (data : ∀ b, (change b).data = b.data) :
    Within cfg 0 0 fun b => .ok (change b) := by
  intro b c _ hc
  cases hc
  refine ⟨congrArg List.length (data b), by omega, fun k _ _ => ?_⟩
  rw [data]

theorem within_flip (bit : Nat) : Within cfg (bit / 8) 1 fun b => b.flip bit := by
  intro b c size hc
  refine ⟨Block.length_flip hc, ?_⟩
  simp only [Block.flip, Bytes.flip?] at hc
  split at hc
  · next bs flipped =>
    cases hc
    split at flipped
    · cases flipped
      refine ⟨by omega, fun k _ out => ?_⟩
      have elsewhere : bit / 8 ≠ k := by omega
      simp [elsewhere]
    · cases flipped
  · cases hc

/-- A prog changes the bytes of its region, the bad bit included. -/
theorem within_programmed (worn : Bool) (off : Nat) (data : Bytes) :
    Within cfg off data.length (programmed cfg worn off data) := by
  intro b c size hc
  refine ⟨length_programmed hc, ?_⟩
  unfold programmed at hc
  rcases written : b.overwrite off data with e | w
  · rw [written] at hc
    cases hc
  have inside : off + data.length ≤ b.data.length := by
    unfold Block.overwrite Bytes.splice? at written
    split at written
    · next _ spliced =>
      split at spliced
      · assumption
      · cases spliced
    · cases written
  have length := Block.length_overwrite written
  have changed (k : Nat) (out : ¬(off ≤ k ∧ k < off + data.length)) : w.data[k]? = b.data[k]? := by
    rw [Block.overwrite_ok written]
    dsimp only
    rcases Nat.lt_or_ge k off with before | after
    · rw [List.append_assoc, List.getElem?_append_left (by rw [List.length_take]; omega),
        List.getElem?_take, if_pos before]
    · have front : (b.data.take off ++ data).length = off + data.length := by
        rw [List.length_append, List.length_take]
        omega
      rw [List.getElem?_append_right (by omega), List.getElem?_drop, front]
      congr 1
      omega
  refine ⟨by omega, fun k hk out => ?_⟩
  rw [written] at hc
  simp only [bind, Except.bind] at hc
  split at hc
  · -- the bad bit lies in the region that was programmed
    next covered =>
    simp only [Block.covers, Block.badBitPos, Block.bits, length, Bool.and_eq_true,
      decide_eq_true_eq] at covered
    obtain ⟨-, -, near⟩ := within_flip _ _ c (by exact length.trans size) hc
    rw [near k hk (by simp only [Block.badBitPos, Block.bits, length]; omega)]
    exact changed k out
  · cases hc
    exact changed k out

/-- A new block stores what unwritten flash reads as, so its place in the image file is right. -/
theorem Imaged.own (cfg : Config) (block : Nat) :
    Ends (Imaged cfg) (Flash.own cfg block)
      (fun b f => Imaged cfg f ∧ f.device.slots[block]? = some (some b)) (Imaged cfg) := by
  apply Ends.of_run
  intro f h
  rw [run_own_plain]
  rcases hx : f.device.slots[block]? with _ | _ | b
  · exact h
  · simp only [run_allocate_plain]
    by_cases bits : cfg.geometry.blockBits = 0
    · rw [if_pos bits]
      exact h
    rw [if_neg bits]
    by_cases full : Config.allocationLimit ≤ cfg.geometry.blockSize
    · rw [if_pos full]
      exact h.congr rfl (fun _ => h.sound.synced) rfl
    · rw [if_neg full]
      have inside := (List.getElem?_eq_some_iff.1 hx).1
      obtain ⟨image, hi, shows⟩ := h.shown
      refine ⟨⟨h.taken, ⟨h.sound.slots.set block ?_, h.sound.synced⟩, image, hi, shows.congr ?_⟩,
        List.getElem?_set_self inside⟩
      · intro b hb
        cases hb
        simp [Block.fresh]
      · intro i _ k _
        by_cases here : i = block
        · subst here
          rw [Slots.stored_set inside]
          simp [Slots.stored, hx, Block.fresh]
        · rw [Slots.stored_set_ne here]
  · exact ⟨h, hx⟩

theorem Imaged.put {block off len : Nat} {b c : Block} {change : Block → Except Defect Block}
    (within : Within cfg off len change) (hc : change b = .ok c) :
    Ends (fun f => Imaged cfg f ∧ f.device.slots[block]? = some (some b)) (Flash.put block c)
      (fun _ => Awaits cfg block off len) (Imaged cfg) := by
  apply Ends.of_run
  rintro f ⟨h, hx⟩
  have inside := (List.getElem?_eq_some_iff.1 hx).1
  have size := h.sound.slots.size (List.mem_of_getElem? hx)
  obtain ⟨same, region, outside⟩ := within b c size hc
  obtain ⟨image, hi, shows⟩ := h.shown
  rw [run_put_plain, hx]
  refine ⟨h.taken, ⟨h.sound.slots.set block ?_, h.sound.synced⟩, region, image, _, hi, shows, ?_,
    ?_⟩
  · intro d hd
    cases hd
    exact same.trans size
  · intro i hi
    exact Slots.stored_set_ne hi _
  · intro k hk out
    rw [Slots.stored_set inside, Slots.stored_of_slot hx]
    exact outside k hk out

/-- After a change of a block the region that it changed has to be written out. -/
theorem Imaged.amend {off len : Nat} {change : Block → Except Defect Block}
    (within : Within cfg off len change) (block : Nat) :
    Ends (Imaged cfg) (Flash.amend cfg block change) (fun _ => Awaits cfg block off len)
      (Imaged cfg) := by
  refine (Imaged.own cfg block).bind fun b => ?_
  rcases hc : change b with d | c
  · exact Coupled.raise _ fun _ _ h => ⟨h.1, h.2.1⟩
  · exact Imaged.put within hc

/-- A change of anything but the bytes does not concern the image file. -/
theorem Imaged.amend_none {change : Block → Block} (data : ∀ b, (change b).data = b.data)
    (block : Nat) :
    Ends (Imaged cfg) (Flash.amend cfg block fun b => .ok (change b)) (fun _ => Imaged cfg)
      (Imaged cfg) :=
  (Imaged.amend (within_none data) block).mono (fun _ _ => id)
    (fun _ _ _ h => ⟨h.1, h.2.imaged⟩) fun _ _ => id

/-! ## What is done to a device -/

theorem Imaged.looking (cfg : Config) : Looking (Diagonal (Imaged cfg)) := by
  apply looking_diagonal
  · intro f x h
    exact h.congr rfl (fun _ => h.sound.synced) rfl
  · intro f c n h
    cases c <;> exact h.congr rfl (fun _ => h.sound.synced) rfl

theorem Imaged.start (cfg : Config) (u : Update) :
    Preserves (Diagonal (Imaged cfg)) (Flash.start cfg u) (Flash.start cfg u) := by
  apply (Imaged.looking cfg).start
  · rintro _ f ⟨rfl, -⟩
    rfl
  · rintro _ f n ⟨rfl, h⟩
    exact ⟨rfl, h.congr rfl (fun _ => h.sound.synced) rfl⟩

theorem Imaged.complete (cfg : Config) (worn : Bool) (u : Update) :
    Preserves (Diagonal (Imaged cfg)) (Flash.complete cfg worn u) (Flash.complete cfg worn u) := by
  have L := Imaged.looking cfg
  rcases u with ⟨block, off, data⟩ | block
  · exact (Imaged.amend (within_programmed worn off data) block).bind fun _ =>
      (Awaits.save cfg block off data.length).bind fun _ => L.count .bytesProgrammed _
  · have whole (bit : Option Nat) :
        Within cfg 0 cfg.geometry.blockSize fun b => .ok (erased cfg bit b) :=
      within_whole fun b c hc => by cases hc; simp
    have rest (bit : Option Nat) := (Imaged.amend (whole bit) block).bind
      fun _ => (Awaits.save cfg block 0 _).bind
        fun _ => L.count .bytesErased cfg.geometry.blockSize.toUInt64
    refine (L.fetch block).bind fun stored => ?_
    dsimp only
    split
    · exact rest none
    · exact ((L.drawBelow _).bind fun bit => .answer (some bit)).bind rest

theorem Imaged.tearBit (cfg : Config) (u : Update) (off len : Nat) :
    Ends (Imaged cfg) (Flash.tearBit cfg u off len)
      (fun _ => Awaits cfg u.block 0 cfg.geometry.blockSize) (Imaged cfg) := by
  refine (Imaged.own cfg u.block).bind fun b => ?_
  have owned (s t : Flash Plain Block)
      (h : Diagonal (fun f => Imaged cfg f ∧ f.device.slots[u.block]? = some (some b)) s t) :
      Diagonal (Imaged cfg) s t := ⟨h.1, h.2.1⟩
  have nothing : Ends (fun f => Imaged cfg f ∧ f.device.slots[u.block]? = some (some b))
      (pure () : FlashM Plain Block Unit)
      (fun _ => Awaits cfg u.block 0 cfg.geometry.blockSize) (Imaged cfg) :=
    .pure _ fun _ _ h => ⟨h.1, h.2.1.awaits u.block (by omega)⟩
  rcases b.region off len with d | old
  · exact Coupled.raise _ owned
  show Coupled _ (if _ then _ else _) (if _ then _ else _) _ _
  split
  · -- the block is owned until it is put back, and the draw between is not seen
    refine Coupled.bind ((preserves_drawBelow ?_ ?_ _).mono (fun _ _ => id) (fun _ _ _ => id)
      owned) fun n => ?_
    · rintro _ f ⟨rfl, -⟩
      rfl
    · rintro _ f x ⟨rfl, h, hx⟩
      exact ⟨rfl, h.congr rfl (fun _ => h.sound.synced) rfl, hx⟩
    rcases (Bytes.diff old (u.outcome cfg old))[n]? with _ | bit
    · exact nothing
    rcases hc : b.flip (off * 8 + bit) with d | c
    · simp only [hc]
      exact Coupled.raise _ owned
    · simp only [hc]
      exact Imaged.put (within_whole fun _ _ => Block.length_flip) hc
  · exact nothing

/-- What an update leaves torn on its block has to be written out. -/
theorem Imaged.tear (cfg : Config) (u : Update) :
    Ends (Imaged cfg) (Flash.tear cfg u)
      (fun _ => Awaits cfg u.block 0 cfg.geometry.blockSize) (Imaged cfg) := by
  have L := Imaged.looking cfg
  have nothing : Ends (Imaged cfg) (pure () : FlashM Plain Block Unit)
      (fun _ => Awaits cfg u.block 0 cfg.geometry.blockSize) (Imaged cfg) :=
    .pure _ fun _ _ h => ⟨h.1, h.2.awaits u.block (by omega)⟩
  unfold Flash.tear
  dsimp only
  split
  · exact nothing
  have lands (change : Nat → Block → Except Defect Block)
      (size : ∀ bit b c, change bit b = .ok c → c.data.length = b.data.length) (bit : Nat) :
      Within cfg 0 cfg.geometry.blockSize fun b =>
        landed cfg u (u.region cfg).1 (u.region cfg).2 b >>= change bit :=
    within_whole fun _ _ => length_landed_bind (size bit)
  have drawn (bits : Nat) (change : Nat → Block → Except Defect Block)
      (size : ∀ bit b c, change bit b = .ok c → c.data.length = b.data.length) :=
    (L.drawBelow bits).bind fun bit => Imaged.amend (lands change size bit) u.block
  rcases cfg.crash with _ | _ | _ | _ | _
  · exact nothing
  · exact Imaged.tearBit cfg u _ _
  · exact drawn _ _ fun _ _ _ => Block.length_flip
  · exact Imaged.amend (within_whole fun _ _ => length_landed) u.block
  · exact drawn _ _ fun _ _ _ h => by cases h; rfl

/-- A loss of power writes out what it changed: the block of the update, or all blocks. -/
theorem Imaged.crash (cfg : Config) (u : Update) :
    Preserves (Diagonal (Imaged cfg)) (Flash.crash cfg u) (Flash.crash cfg u) := by
  refine (Imaged.tear cfg u).bind fun _ => Ends.of_run fun f h => ?_
  rw [EStateM.run_bind, EStateM.run_get]
  dsimp only
  rcases hs : f.device.synced with _ | before
  · exact (Awaits.save cfg u.block 0 _).run h
  obtain ⟨image, bytes, hi, shows, -⟩ := h.shown
  have length : before.length = f.device.slots.length :=
    (h.sound.synced hs).length.trans h.sound.slots.length.symm
  simp only [EStateM.run_bind, run_rollBack_plain, if_neg (not_not_intro length)]
  rcases hx : f.device.slots[u.block]? with _ | x
  · -- the device does not have the block, so nothing was torn
    have beyond := List.getElem?_eq_none_iff.1 hx
    rw [h.sound.slots.length] at beyond
    exact h.imaged_of_le beyond
  · have sound : Slots.Sound cfg (before.set u.block x) :=
      (h.sound.synced hs).set u.block fun b hb =>
        h.sound.slots.size (List.mem_of_getElem? (hb ▸ hx))
    obtain ⟨g, run, imaged, -⟩ := run_saveAll
      (f := { f with device := { f.device with slots := before.set u.block x } }) h.taken
      ⟨sound, h.sound.synced⟩ hi shows.length
    simp only [run]
    exact imaged

theorem Imaged.restore {slots : Slots Block} (sound : slots.Sound cfg) (x : Generator) :
    Preserves (Diagonal (Imaged cfg)) (Flash.restore cfg slots x) (Flash.restore cfg slots x) := by
  apply Ends.of_run
  intro f h
  obtain ⟨image, hi, shows⟩ := h.shown
  obtain ⟨g, run, imaged, -⟩ := run_saveAll
    (f := { f with device := { f.device with slots := slots, generator := x } }) h.taken
    ⟨sound, h.sound.synced⟩ hi shows.length
  have restored : (Flash.restore cfg slots x).run f = .ok () g := run
  rw [restored]
  exact imaged

theorem Imaged.sync (cfg : Config) :
    Preserves (Diagonal (Imaged cfg)) Flash.sync Flash.sync := by
  apply Ends.of_run
  intro f h
  rw [run_sync_plain]
  refine h.congr rfl (fun before hs => ?_) rfl
  obtain ⟨_, -, rfl⟩ := Option.map_eq_some_iff.1 hs
  exact h.sound.slots

/-- Whatever is asked of a device by one operation. -/
theorem Imaged.effect (cfg : Config) (r : Request) (direct : r.isDirect) :
    Preserves (Diagonal (Imaged cfg)) (r.effect cfg) (r.effect cfg) := by
  have L := Imaged.looking cfg
  by_cases looks : r.onlyLooks
  · exact L.looks looks
  have rearm (f : Flash Plain Block) (g : Device Block → Device Block)
      (slots : ∀ d, (g d).slots = d.slots) (synced : ∀ d, (g d).synced = d.synced)
      (h : Imaged cfg f) : Imaged cfg { f with device := g f.device } := by
    refine h.congr (slots _) (fun before hs => ?_) rfl
    rw [synced] at hs
    exact h.sound.synced hs
  cases r with
  | sync => exact Imaged.sync cfg
  | blockRefs block => exact preserves_of_answered (answered_blockRefs cfg block)
  | setWear block wear =>
    exact (preserves_contract _).bind fun _ => Imaged.amend_none (by intro b; rfl) block
  | markBad block =>
    exact (preserves_contract _).bind fun _ => Imaged.amend_none (by intro b; rfl) block
  | markGood block =>
    exact (preserves_contract _).bind fun _ => Imaged.amend_none (by intro b; rfl) block
  | setBadBit block bit =>
    exact (preserves_contract _).bind fun _ => (preserves_contract _).bind fun _ =>
      Imaged.amend_none (by intro b; rfl) block
  | randomizeBadBit block =>
    exact (preserves_contract _).bind fun _ => (L.drawBelow _).bind fun _ =>
      Imaged.amend_none (by intro b; rfl) block
  | flipBit block bit =>
    exact (preserves_contract _).bind fun _ => (preserves_contract _).bind fun _ =>
      (Imaged.amend (within_flip bit) block).bind fun _ => Awaits.save cfg block _ 1
  | setCounter c value =>
    apply Coupled.modify
    rintro _ f ⟨rfl, h⟩
    exact ⟨rfl, rearm f (c.set value) (c.slots_set value) (c.synced_set value) h⟩
  | setCountdown value =>
    apply Coupled.modify
    rintro _ f ⟨rfl, h⟩
    exact ⟨rfl, rearm f (fun d => { d with countdown := value }) (fun _ => rfl) (fun _ => rfl) h⟩
  | counter | countdown | allocated | image => exact preserves_of_answered fun _ => rfl
  | _ => first | exact absurd rfl looks | cases direct

end Flash

end FaultyFlash
