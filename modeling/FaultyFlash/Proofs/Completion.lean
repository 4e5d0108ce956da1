import FaultyFlash.Proofs.Landing

/-!
# Updates that are completed

An update that was let through is completed without fail where blocks can be allocated. It exchanges
its block for the block after the update, and leaves the others and the last sync alone. Whether the
block was worn out is known before, and decides about its bad bit afterwards.

## Main definitions

* `Block.Programmed`: a block after a prog

## Main results

* `Flash.programmed_ok`: what a prog makes of a block
* `Flash.complete_prog_ok`, `Flash.complete_erase_ok`: what is left by updates that are completed
* `Flash.answered_complete`: an update that stays within its block is completed
-/

namespace FaultyFlash

variable {cfg : Config} {u : Update} {worn : Bool} {block off : Nat} {data : Bytes}

/-- The bad bit lies in the block, wherever its word points. -/
theorem Block.badBitPos_lt {b : Block} (h : b.data.length ≠ 0) :
    b.badBitPos / 8 < b.data.length := by
  have inside : b.badBitPos < b.bits := Nat.mod_lt _ (by unfold bits; omega)
  unfold bits at inside
  omega

/-- Where the bad bit is depends on its word and on the size of the block. -/
theorem Block.badBitPos_congr {b c : Block} (word : c.badBit = b.badBit)
    (size : c.data.length = b.data.length) : c.badBitPos = b.badBitPos := by
  rw [badBitPos, badBitPos, bits, bits, word, size]

theorem Block.covers_congr {b c : Block} (word : c.badBit = b.badBit)
    (size : c.data.length = b.data.length) (off len : Nat) :
    c.covers off len = b.covers off len := by
  rw [covers, covers, badBitPos_congr word size]

/-- A bad bit that a region covers is one of its bits. -/
theorem Block.bit_of_covers {b : Block} {off len : Nat} (h : b.covers off len) :
    off * 8 + (b.badBitPos - off * 8) = b.badBitPos ∧ b.badBitPos - off * 8 < len * 8 := by
  simp only [covers, Bool.and_eq_true, decide_eq_true_eq] at h
  omega

/-- The bad bit of a block that is worn out comes out inverted in a region. -/
def Block.Flips (cfg : Config) (worn : Bool) (off len : Nat) (b : Block) : Prop :=
  worn ∧ cfg.worn = .progFlip ∧ b.covers off len

/-- A block after a prog, but for the bad bit that may come out inverted. -/
def Block.written (cfg : Config) (worn : Bool) (off : Nat) (data : Bytes) (b : Block) : Block :=
  { b with
    metastable := worn && cfg.worn = .readFlip
    data := (Update.prog 0 off data).onto cfg b.data }

/-- A block `b` came to `c` by a prog; `worn` says whether it was worn out. -/
structure Block.Programmed (cfg : Config) (worn : Bool) (off : Nat) (data : Bytes) (b c : Block) :
    Prop where
  wear : c.wear = b.wear
  badBit : c.badBit = b.badBit
  length : c.data.length = b.data.length
  metastable : c.metastable ↔ worn ∧ cfg.worn = .readFlip
  outside {k : Nat} (h : k < off ∨ off + data.length ≤ k) : c.data[k]? = b.data[k]?
  stored (h : ¬ b.Flips cfg worn off data.length) : c.data.region off data.length = data
  flipped (h : b.Flips cfg worn off data.length) :
    Bytes.DifferAt (b.badBitPos - off * 8) data (c.data.region off data.length)

namespace Flash

/-- A prog writes its data, and may invert the bad bit after that. The bytes leave the bad bit where
it was. -/
theorem programmed_eq {b : Block} (held : off + data.length ≤ b.data.length) :
    programmed cfg worn off data b =
      if worn && cfg.worn = .progFlip && b.covers off data.length then
        (b.written cfg worn off data).flip b.badBitPos
      else .ok (b.written cfg worn off data) := by
  have length : (b.written cfg worn off data).data.length = b.data.length :=
    Update.length_onto (u := .prog 0 off data) held
  have covers := Block.covers_congr (b := b) (c := b.written cfg worn off data) rfl length off
    data.length
  have position := Block.badBitPos_congr (b := b) (c := b.written cfg worn off data) rfl length
  rw [programmed, Block.overwrite_of_le held, ← covers, ← position]
  rfl

/-- A region that was programmed was one of the block. -/
theorem le_of_programmed {b c : Block} (h : programmed cfg worn off data b = .ok c) :
    off + data.length ≤ b.data.length := by
  unfold programmed at h
  cases hw : b.overwrite off data with
  | ok w => exact Block.le_of_overwrite hw
  | error d =>
    rw [hw] at h
    cases h

/-- What a prog makes of a block. -/
theorem programmed_ok {b c : Block} (h : programmed cfg worn off data b = .ok c) :
    b.Programmed cfg worn off data c := by
  have held := le_of_programmed h
  have region : ((Update.prog 0 off data).region cfg).1 + ((Update.prog 0 off data).region cfg).2 ≤
      b.data.length := held
  have outside {k : Nat} (hk : k < off ∨ off + data.length ≤ k) :
      (b.written cfg worn off data).data[k]? = b.data[k]? := Update.getElem?_onto region hk
  have inside : (b.written cfg worn off data).data.region off data.length = data :=
    Update.region_onto region
  have size : (b.written cfg worn off data).data.length = b.data.length := Update.length_onto region
  have metastable : (b.written cfg worn off data).metastable ↔ worn ∧ cfg.worn = .readFlip := by
    simp [Block.written]
  rw [programmed_eq held] at h
  split at h
  · next flips =>
    have flips : b.Flips cfg worn off data.length := by
      simpa only [Block.Flips, Bool.and_eq_true, decide_eq_true_eq, and_assoc] using flips
    obtain ⟨place, within⟩ := Block.bit_of_covers flips.2.2
    obtain ⟨same, flipped⟩ := Block.flip?_of_flip h
    have differ := Bytes.differAt_of_flip? flipped
    rw [← place] at differ
    refine ⟨by rw [same]; rfl, by rw [same]; rfl, differ.1.trans size,
      by rw [same]; exact metastable, fun hk => ?_, fun spared => absurd flips spared, fun _ => ?_⟩
    · rw [Bytes.getElem?_of_flip? flipped (by omega)]
      exact outside hk
    · have region := differ.region within (by rw [size]; exact held)
      rwa [inside] at region
  · next spared =>
    cases h
    refine ⟨rfl, rfl, size, metastable, outside, fun _ => inside, fun flips => absurd ?_ spared⟩
    simpa only [Block.Flips, Bool.and_eq_true, decide_eq_true_eq, and_assoc] using flips

/-- On a block of the configured size, a region that stays within it is programmed. -/
theorem programmed_of_fits (room : cfg.Roomy) (fits : off + data.length ≤ cfg.geometry.blockSize)
    {b : Block} (size : b.data.length = cfg.geometry.blockSize) :
    ∃ c, programmed cfg worn off data b = .ok c ∧ c.data.length = cfg.geometry.blockSize := by
  have held : off + data.length ≤ b.data.length := by rwa [size]
  have length : (b.written cfg worn off data).data.length = b.data.length :=
    Update.length_onto (u := .prog 0 off data) held
  have some : b.data.length ≠ 0 := by
    intro none
    exact room.bits (by rw [Geometry.blockBits, ← size, none])
  rw [programmed_eq held]
  split
  · exact flip_of_length (length.trans size) (size ▸ Block.badBitPos_lt some)
  · exact ⟨_, rfl, length.trans size⟩

/-! ## What is left -/

variable {f g : Flash Plain Block}

/-- What a prog leaves that is completed. -/
theorem complete_prog_ok (h : (complete cfg worn (.prog block off data)).run f = .ok () g) :
    ∃ b c, f.device.Owns cfg block b ∧ programmed cfg worn off data b = .ok c ∧
      g.device.slots = f.device.slots.set block (some c) := by
  obtain ⟨_, t, amended, rest⟩ := run_bind_eq_ok.1 h
  obtain ⟨_, s, saved, counted⟩ := run_bind_eq_ok.1 rest
  obtain ⟨b, c, x, owns, changed, rfl⟩ := amend_ok amended
  cases counted
  exact ⟨b, c, owns, changed, by simp only [device_save saved]; rfl⟩

/-- The bad bit that an erase draws for a block of a device: none if it is pinned. -/
def redrawn (cfg : Config) (D : Device Block) (block : Nat) : Option Nat :=
  if D.slots[block]?.join.elim false Block.isPinned then none
  else some (D.generator.next.1.toNat % cfg.geometry.blockBits)

/-- What an erase does once the new bad bit is known. -/
def eraseTo (cfg : Config) (block : Nat) (bit : Option Nat) : FlashM Plain Block Unit := do
  amend cfg block fun b => .ok (erased cfg bit b)
  save cfg block 0 cfg.geometry.blockSize
  modifyDevice fun d => { d with bytesErased := d.bytesErased + cfg.geometry.blockSize.toUInt64 }

/-- An erase draws the new bad bit first. The draw leaves the blocks as they are. -/
theorem run_complete_erase (room : cfg.Roomy) (worn : Bool) {slot : Option Block}
    (there : f.device.slots[block]? = some slot) :
    ∃ x, (complete cfg worn (.erase block)).run f =
      (eraseTo cfg block (redrawn cfg f.device block)).run (f.reseed x) := by
  unfold complete redrawn
  rw [EStateM.run_bind, run_fetch_plain, there, Option.join_some]
  by_cases pinned : slot.elim false Block.isPinned = true
  · simp only [pinned, if_true]
    exact ⟨f.device.generator, rfl⟩
  · have drawn : (some <$> drawBelow cfg.geometry.blockBits).run f =
        .ok (some (f.device.generator.next.1.toNat % cfg.geometry.blockBits))
          (f.reseed f.device.generator.next.2) := by
      rw [map_eq_pure_bind, EStateM.run_bind, run_drawBelow room.bits]
      rfl
    simp only [pinned]
    rw [if_neg Bool.false_ne_true, if_neg Bool.false_ne_true]
    exact ⟨f.device.generator.next.2, by rw [EStateM.run_bind, drawn]; rfl⟩

/-- What an erase leaves that is completed. -/
theorem complete_erase_ok (room : cfg.Roomy)
    (h : (complete cfg worn (.erase block)).run f = .ok () g) :
    ∃ b, f.device.Owns cfg block b ∧
      g.device.slots = f.device.slots.set block
        (some (erased cfg (redrawn cfg f.device block) b)) := by
  obtain ⟨slot, there⟩ : ∃ slot, f.device.slots[block]? = some slot := by
    cases hx : f.device.slots[block]? with
    | some slot => exact ⟨slot, rfl⟩
    | none =>
      rw [complete, EStateM.run_bind, run_fetch_plain, hx] at h
      cases h
  obtain ⟨x, erases⟩ := run_complete_erase room worn there
  rw [erases] at h
  obtain ⟨_, t, amended, rest⟩ := run_bind_eq_ok.1 h
  obtain ⟨_, s, saved, counted⟩ := run_bind_eq_ok.1 rest
  obtain ⟨b, c, y, owns, changed, rfl⟩ := amend_ok amended
  cases counted
  cases changed
  exact ⟨b, owns, by simp only [device_save saved]; rfl⟩

/-- A change that is possible on every block is made, and goes on to the image file. -/
theorem answered_amend_save (room : cfg.Roomy) (sound : f.device.Sound cfg) {off len : Nat}
    (inside : block < cfg.geometry.blockCount) (fits : off + len ≤ cfg.geometry.blockSize)
    {change : Block → Except Defect Block}
    (possible : ∀ b, b.data.length = cfg.geometry.blockSize →
      ∃ c, change b = .ok c ∧ c.data.length = cfg.geometry.blockSize) :
    (answered (do amend cfg block change; save cfg block off len) f).1 = f.written cfg := by
  obtain ⟨_, t, amended, ht⟩ := succeeds_amend room inside possible f (z := f.rest) ⟨sound, rfl⟩
  obtain ⟨image, -, saves⟩ := writes_save ht.1 inside fits
  have image : t.image = f.image := ht.image
  have kept : t.refuses cfg = f.refuses cfg := refuses_congr (congrArg Option.isSome image)
  rw [answered_bind, answered_eq_ok.2 amended]
  dsimp only
  rw [saves, written, written, kept]

/-- To count what was done does not change whether it was. -/
theorem answered_count (m : FlashM Plain Block Unit) (count : Device Block → Device Block) :
    (answered (do m; modifyDevice count) f).1 = (answered m f).1 := by
  rw [answered_bind]
  rcases answered m f with ⟨e | _, g⟩ <;> rfl

/-- An update that stays within its block is completed, unless the image file refuses what is then
written to it. -/
theorem answered_complete (room : cfg.Roomy) (fits : u.Fits cfg) (worn : Bool)
    (sound : f.device.Sound cfg) : (answered (complete cfg worn u) f).1 = f.written cfg := by
  cases u with
  | prog block off data =>
    rw [complete, ← bind_assoc, answered_count]
    exact answered_amend_save room sound fits.block fits.region
      fun _ => programmed_of_fits room fits.region
  | erase block =>
    obtain ⟨slot, there, -⟩ := sound.slot fits.block
    obtain ⟨x, erases⟩ := run_complete_erase room worn there
    rw [answered, show (complete cfg worn (.erase block)).run f = _ from erases, ← answered,
      eraseTo, ← bind_assoc, answered_count]
    exact answered_amend_save (f := f.reseed x) room (sound.congr rfl rfl) fits.block fits.region
      fun b size => ⟨_, rfl, (length_erased ..).trans size⟩

theorem succeeds_complete (room : cfg.Roomy) (fits : u.Fits cfg) (worn : Bool)
    (sound : f.device.Sound cfg) (takes : f.refuses cfg = false) :
    ∃ g, (complete cfg worn u).run f = .ok () g := by
  have answer := answered_complete room fits worn sound
  rw [written_eq_ok takes] at answer
  exact ⟨_, answered_eq_ok.1 (Prod.ext answer rfl)⟩

end Flash

end FaultyFlash
