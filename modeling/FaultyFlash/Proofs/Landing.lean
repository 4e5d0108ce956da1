import FaultyFlash.Proofs.Bits
import FaultyFlash.Proofs.Frames
import FaultyFlash.Proofs.Soundness

/-!
# What is changed on a block

Where nothing is shared, a change of a block makes it the device's own and puts the changed block in
its place; all else of the device stays, but for the draw that a new block costs.

## Main definitions

* `Bytes.Near`: buffers that differ in one byte at most
* `Slots.stored`: the bytes at an address
* `Device.Owns`: the block that a device changes at an address
* `Update.onto`: the bytes of a block after an update
* `CrashBehavior.Leaves`, `CrashBehavior.Tears`: what a loss of power may leave of some bytes, and
  make of a block

## Main results

* `Bytes.near_of_flip?`: a bit that is inverted damages one byte
* `Update.region_onto`, `Update.getElem?_onto`: a block after an update, in its region and outside
* `Flash.amend_ok`: what a change of a block leaves
* `Flash.landed_ok`: what lands of an update
* `Flash.torn_of_tear`, `Flash.tear_ok`: what a loss of power leaves of an update
* `Flash.wreck_ok`, `Flash.crash_ok`: what it leaves of the device
-/

namespace FaultyFlash

namespace Bytes

/-- Buffers that differ in one byte at most. -/
def Near (bs cs : Bytes) : Prop :=
  cs.length = bs.length ∧ ∃ k : Nat, ∀ i, i ≠ k → cs[i]? = bs[i]?

theorem Near.refl (bs : Bytes) : Near bs bs := ⟨rfl, 0, fun _ _ => rfl⟩

/-- The beginnings of buffers that differ in one byte at most do so, too. -/
theorem Near.take {bs cs : Bytes} (h : Near bs cs) (n : Nat) : Near (bs.take n) (cs.take n) := by
  obtain ⟨length, k, same⟩ := h
  refine ⟨by rw [List.length_take, List.length_take, length], k, fun i hi => ?_⟩
  rw [List.getElem?_take, List.getElem?_take, same i hi]

/-- A bit that is inverted damages one byte. -/
theorem near_of_flip? {bs cs : Bytes} {i : Nat} (h : bs.flip? i = some cs) : Near bs cs :=
  ⟨length_of_flip? h, i / 8, fun _ => getElem?_of_flip? h⟩

end Bytes

variable {cfg : Config}

/-- The bytes stored at an address, or what unwritten flash reads as. -/
def Slots.stored (cfg : Config) (slots : Slots Block) (block : Nat) : Bytes :=
  slots[block]?.join.elim (List.replicate cfg.geometry.blockSize cfg.fill) Block.data

namespace Slots

variable {slots : Slots Block} {block : Nat}

theorem Sound.length_stored (h : slots.Sound cfg) (block : Nat) :
    (slots.stored cfg block).length = cfg.geometry.blockSize := by
  unfold stored
  rcases hx : slots[block]?.join with _ | b
  · simp
  · exact h.size (List.mem_of_getElem? (Option.join_eq_some_iff.1 hx))

theorem stored_of_slot {b : Block} (h : slots[block]? = some (some b)) :
    slots.stored cfg block = b.data := by
  simp [stored, h]

theorem stored_set {x : Option Block} (h : block < slots.length) :
    Slots.stored cfg (slots.set block x) block =
      x.elim (List.replicate cfg.geometry.blockSize cfg.fill) Block.data := by
  simp [stored, h]

theorem stored_set_ne {i : Nat} (h : i ≠ block) (x : Option Block) :
    Slots.stored cfg (slots.set block x) i = slots.stored cfg i := by
  simp [stored, Ne.symm h]

end Slots

/-- The block that a device changes at an address: the one there, or a new one. -/
def Device.Owns (cfg : Config) (D : Device Block) (block : Nat) (b : Block) : Prop :=
  D.slots[block]? = some (some b) ∨
    D.slots[block]? = some none ∧ ∃ bit, b = Block.fresh cfg.geometry.blockSize cfg.fill bit

theorem Device.Owns.stored {D : Device Block} {block : Nat} {b : Block} (h : D.Owns cfg block b) :
    D.slots.stored cfg block = b.data := by
  rcases h with h | ⟨h, bit, rfl⟩
  · simp [Slots.stored, h]
  · simp [Slots.stored, h, Block.fresh]

theorem Device.Owns.lt_length {D : Device Block} {block : Nat} {b : Block}
    (h : D.Owns cfg block b) : block < D.slots.length := by
  rcases h with h | ⟨h, -⟩
  · exact (List.getElem?_eq_some_iff.1 h).1
  · exact (List.getElem?_eq_some_iff.1 h).1

/-- A block that is there is the one that is changed. -/
theorem Device.Owns.eq_of_slot {D : Device Block} {block : Nat} {b c : Block}
    (h : D.Owns cfg block b) (hc : D.slots[block]? = some (some c)) : b = c := by
  rcases h with h | ⟨h, -⟩
  · rw [h] at hc
    cases hc
    rfl
  · rw [h] at hc
    cases hc

/-- The bytes of a block after an update: those of its region are exchanged. -/
def Update.onto (cfg : Config) (u : Update) (old : Bytes) : Bytes :=
  old.take (u.region cfg).1 ++
    u.outcome cfg ((old.drop (u.region cfg).1).take (u.region cfg).2) ++
    old.drop ((u.region cfg).1 + (u.region cfg).2)

/-- An update without bytes leaves every buffer as it is. -/
theorem Update.onto_of_region_eq_zero {u : Update} (h : (u.region cfg).2 = 0) (old : Bytes) :
    u.onto cfg old = old := by
  have none : u.outcome cfg [] = [] := by
    have length : (u.outcome cfg []).length = (u.region cfg).2 := Flash.length_outcome h.symm
    rw [h] at length
    exact List.length_eq_zero_iff.1 length
  rw [Update.onto, h, List.take_zero, none, List.append_nil, Nat.add_zero, List.take_append_drop]

section

variable {u : Update} {old : Bytes} (held : (u.region cfg).1 + (u.region cfg).2 ≤ old.length)

include held

theorem Update.length_outcome_region :
    (u.outcome cfg (old.region (u.region cfg).1 (u.region cfg).2)).length = (u.region cfg).2 :=
  Flash.length_outcome (Bytes.length_region held)

/-- The bytes of a block after an update are as before outside of its region. -/
theorem Update.getElem?_onto {k : Nat}
    (h : k < (u.region cfg).1 ∨ (u.region cfg).1 + (u.region cfg).2 ≤ k) :
    (u.onto cfg old)[k]? = old[k]? := by
  have size := length_outcome_region held
  have start : (old.take (u.region cfg).1).length = (u.region cfg).1 := by
    rw [List.length_take]
    omega
  rw [Bytes.region] at size
  rw [onto, List.append_assoc]
  rcases h with before | after
  · rw [List.getElem?_append_left (by omega), List.getElem?_take_of_lt before]
  · rw [List.getElem?_append_right (by omega), List.getElem?_append_right (by omega), start, size,
      List.getElem?_drop]
    congr 1
    omega

/-- In its region they are what the update makes of it. -/
theorem Update.region_onto :
    (u.onto cfg old).region (u.region cfg).1 (u.region cfg).2 =
      u.outcome cfg (old.region (u.region cfg).1 (u.region cfg).2) := by
  have size := length_outcome_region held
  have start : (old.take (u.region cfg).1).length = (u.region cfg).1 := by
    rw [List.length_take]
    omega
  rw [Bytes.region] at size ⊢
  rw [onto, List.append_assoc, List.drop_left' start, List.take_left' size, Bytes.region]

theorem Update.length_onto : (u.onto cfg old).length = old.length := by
  have size := length_outcome_region held
  rw [Bytes.region] at size
  rw [onto, List.length_append, List.length_append, size, List.length_take, List.length_drop]
  omega

end

/-- What a loss of power may leave of a buffer `old` that was becoming `new`. -/
def CrashBehavior.Leaves (old new now : Bytes) : CrashBehavior → Prop
  | noop => now = old
  | someBits => Bytes.Near old now
  | mostBits => Bytes.Near new now
  | outOfOrder => now = new
  | metastable => now = new

/-- Of a buffer that was not changing, a loss of power leaves all. -/
theorem CrashBehavior.leaves_refl (crash : CrashBehavior) (bs : Bytes) : crash.Leaves bs bs bs := by
  cases crash <;> first | rfl | exact .refl bs

/-- What may be left of bytes may be left of their beginnings. -/
theorem CrashBehavior.Leaves.take {crash : CrashBehavior} {old new now : Bytes}
    (h : crash.Leaves old new now) (n : Nat) :
    crash.Leaves (old.take n) (new.take n) (now.take n) := by
  rcases crash with _ | _ | _ | _ | _
  · exact congrArg (List.take n) h
  · exact Bytes.Near.take h n
  · exact Bytes.Near.take h n
  · exact congrArg (List.take n) h
  · exact congrArg (List.take n) h

/-- What is read of a region that a block holds. -/
theorem Block.region_ok {b : Block} {off len : Nat} {old : Bytes} (h : b.region off len = .ok old) :
    old = (b.data.drop off).take len ∧ off + len ≤ b.data.length := by
  unfold region Bytes.slice? at h
  by_cases inside : off + len ≤ b.data.length
  · simp only [if_pos inside, Except.ok.injEq] at h
    exact ⟨h.symm, inside⟩
  · simp only [if_neg inside] at h
    cases h

/-- What is left of a block after a region of it was replaced. -/
theorem Block.overwrite_ok {b c : Block} {off : Nat} {new : Bytes}
    (h : b.overwrite off new = .ok c) :
    c = { b with data := b.data.take off ++ new ++ b.data.drop (off + new.length) } := by
  unfold overwrite Bytes.splice? at h
  by_cases inside : off + new.length ≤ b.data.length
  · simp only [if_pos inside, Except.ok.injEq] at h
    exact h.symm
  · simp only [if_neg inside] at h
    cases h

/-- A region that was replaced was one of the block. -/
theorem Block.le_of_overwrite {b c : Block} {off : Nat} {new : Bytes}
    (h : b.overwrite off new = .ok c) : off + new.length ≤ b.data.length := by
  unfold overwrite Bytes.splice? at h
  by_cases inside : off + new.length ≤ b.data.length
  · exact inside
  · simp only [if_neg inside] at h
    cases h

/-- A bit of a block is inverted in its bytes. -/
theorem Block.flip?_of_flip {b c : Block} {bit : Nat} (h : b.flip bit = .ok c) :
    c = { b with data := c.data } ∧ b.data.flip? bit = some c.data := by
  unfold flip at h
  rcases flipped : b.data.flip? bit with _ | bs
  · rw [flipped] at h
    cases h
  · rw [flipped] at h
    cases h
    exact ⟨rfl, rfl⟩

/-- A bit that is inverted damages one byte of a block. -/
theorem Block.flip_ok {b c : Block} {bit : Nat} (h : b.flip bit = .ok c) :
    c = { b with data := c.data } ∧ Bytes.Near b.data c.data :=
  (flip?_of_flip h).imp id Bytes.near_of_flip?

/-- What a loss of power may make of a block on which an update changes some bytes. -/
def CrashBehavior.Tears (cfg : Config) (u : Update) (b c : Block) : CrashBehavior → Prop
  | noop => False
  | someBits =>
    let old := (b.data.drop (u.region cfg).1).take (u.region cfg).2
    let changed := Bytes.diff old (u.outcome cfg old)
    (changed = [] ∧ c = b) ∨ ∃ bit ∈ changed, b.flip ((u.region cfg).1 * 8 + bit) = .ok c
  | mostBits => ∃ bit < (u.region cfg).2 * 8,
      Block.flip { b with data := u.onto cfg b.data } ((u.region cfg).1 * 8 + bit) = .ok c
  | outOfOrder => c = { b with data := u.onto cfg b.data }
  | metastable => ∃ bit < (u.region cfg).2 * 8, c = { b with
      metastable := true
      badBit := if b.isPinned then b.badBit else ((u.region cfg).1 * 8 + bit).toUInt32
      data := u.onto cfg b.data }

/-- Unless it leaves bits to chance, a loss of power exchanges some bytes and nothing else. -/
theorem CrashBehavior.Tears.leaves {crash : CrashBehavior} {u : Update} {b c : Block}
    (certain : crash ≠ .metastable) (h : crash.Tears cfg u b c) :
    c = { b with data := c.data } ∧ crash.Leaves b.data (u.onto cfg b.data) c.data := by
  cases crash with
  | noop => exact h.elim
  | someBits =>
    rcases h with ⟨-, rfl⟩ | ⟨bit, -, flipped⟩
    · exact ⟨rfl, .refl _⟩
    · exact Block.flip_ok flipped
  | mostBits =>
    obtain ⟨bit, -, flipped⟩ := h
    exact Block.flip_ok flipped
  | outOfOrder =>
    obtain rfl : c = _ := h
    exact ⟨rfl, rfl⟩
  | metastable => exact absurd rfl certain

namespace Flash

variable {f g : Flash Plain Block} {u : Update}

/-- A device with the block `c` at an address, after some draws. -/
def placed (f : Flash Plain Block) (block : Nat) (c : Block) (x : Generator) : Flash Plain Block :=
  { f with device := { f.device with
    generator := x
    slots := f.device.slots.set block (some c) } }

/-- A block becomes the device's own by being there, or by a draw for the bad bit of a new one. -/
theorem own_ok {block : Nat} {b : Block} (h : (own cfg block).run f = .ok b g) :
    f.device.Owns cfg block b ∧ ∃ x, g = f.placed block b x := by
  rw [run_own_plain] at h
  rcases hs : f.device.slots[block]? with _ | _ | c
  · rw [hs] at h
    cases h
  · simp only [hs, run_allocate_plain] at h
    split at h
    · cases h
    split at h
    · cases h
    · cases h
      exact ⟨.inr ⟨hs, _, rfl⟩, _, rfl⟩
  · rw [hs] at h
    cases h
    refine ⟨.inl hs, f.device.generator, ?_⟩
    -- the block is put where it was
    have same : f.device.slots.set block (some b) = f.device.slots := by
      obtain ⟨inside, there⟩ := List.getElem?_eq_some_iff.1 hs
      rw [← there]
      exact List.set_getElem_self inside
    rw [placed, same]

/-- Where there is no block to be had, nothing changed but for a draw. -/
theorem own_error {block : Nat} {e : Failure} (h : (own cfg block).run f = .error e g) :
    ∃ x, g = f.reseed x := by
  rw [run_own_plain] at h
  rcases hs : f.device.slots[block]? with _ | _ | c
  · rw [hs] at h
    cases h
    exact ⟨_, rfl⟩
  · simp only [hs, run_allocate_plain] at h
    split at h
    · cases h
      exact ⟨_, rfl⟩
    split at h
    · cases h
      exact ⟨_, rfl⟩
    · cases h
  · rw [hs] at h
    cases h

/-- A change of a block leaves the changed block in its place. -/
theorem amend_ok {block : Nat} {change : Block → Except Defect Block}
    (h : (amend cfg block change).run f = .ok () g) :
    ∃ b c x, f.device.Owns cfg block b ∧ change b = .ok c ∧ g = f.placed block c x := by
  obtain ⟨b, t, owned, h⟩ := run_bind_eq_ok.1 h
  obtain ⟨c, _, changed, h⟩ := run_bind_eq_ok.1 h
  obtain ⟨owns, x, rfl⟩ := own_ok owned
  rw [run_sound] at changed
  rcases hc : change b with d | c'
  · rw [hc] at changed
    cases changed
  rw [hc] at changed
  cases changed
  have there : (f.placed block b x).device.slots[block]? = some (some b) :=
    List.getElem?_set_self owns.lt_length
  rw [run_put_plain, there] at h
  cases h
  exact ⟨b, c, x, owns, hc, by simp [placed]⟩

/-- What lands of an update are the bytes of its region. -/
theorem landed_ok {b c : Block}
    (h : landed cfg u (u.region cfg).1 (u.region cfg).2 b = .ok c) :
    c = { b with data := u.onto cfg b.data } := by
  unfold landed at h
  rcases held : b.region (u.region cfg).1 (u.region cfg).2 with d | old
  · rw [held] at h
    cases h
  · rw [held] at h
    obtain ⟨rfl, inside⟩ := Block.region_ok held
    have size : ((b.data.drop (u.region cfg).1).take (u.region cfg).2).length =
        (u.region cfg).2 := by
      rw [List.length_take, List.length_drop]
      omega
    have lands := Block.overwrite_ok h
    rwa [length_outcome size] at lands

/-! ## Losing power -/

/-- A loss of power leaves one of the bits that an update changes, or the block as it is if there is
none. -/
theorem torn_of_tearBit (someBits : cfg.crash = .someBits)
    (h : (tearBit cfg u (u.region cfg).1 (u.region cfg).2).run f = .ok () g) :
    ∃ b c x, f.device.Owns cfg u.block b ∧ cfg.crash.Tears cfg u b c ∧
      g = f.placed u.block c x := by
  obtain ⟨b, t, owned, h⟩ := run_bind_eq_ok.1 h
  obtain ⟨owns, x, rfl⟩ := own_ok owned
  obtain ⟨old, _, held, h⟩ := run_bind_eq_ok.1 h
  rw [run_sound] at held
  split at held
  case h_2 => cases held
  next region =>
  cases held
  obtain ⟨rfl, -⟩ := Block.region_ok region
  dsimp only at h
  split at h
  · next changed =>
    -- one of the bits that change is inverted
    obtain ⟨n, s, drawn, h⟩ := run_bind_eq_ok.1 h
    have some : (Bytes.diff ((b.data.drop (u.region cfg).1).take (u.region cfg).2)
        (u.outcome cfg ((b.data.drop (u.region cfg).1).take (u.region cfg).2))).length ≠ 0 := by
      intro none
      simp [List.length_eq_zero_iff.1 none] at changed
    rw [run_drawBelow some] at drawn
    cases drawn
    rw [List.getElem?_eq_getElem (Nat.mod_lt _ (Nat.pos_of_ne_zero some))] at h
    obtain ⟨c, _, flipped, h⟩ := run_bind_eq_ok.1 h
    rw [run_sound] at flipped
    split at flipped
    case h_2 => cases flipped
    next hc =>
    cases flipped
    have there : (f.placed u.block b x).device.slots[u.block]? = .some (.some b) :=
      List.getElem?_set_self owns.lt_length
    rw [run_put_plain] at h
    simp only [there] at h
    cases h
    refine ⟨b, c, (f.placed u.block b x).device.generator.next.2, owns, ?_, ?_⟩
    · rw [someBits]
      exact .inr ⟨_, List.getElem_mem _, hc⟩
    · simp only [placed, List.set_set]
  · next unchanged =>
    cases h
    refine ⟨b, b, x, owns, ?_, rfl⟩
    rw [someBits]
    exact .inl ⟨by simpa using unchanged, rfl⟩

/-- What a loss of power leaves of an update on its block: all as it was, or the block with part of
the update on it. -/
theorem torn_of_tear (h : (tear cfg u).run f = .ok () g) :
    (g = f ∧ ((u.region cfg).2 = 0 ∨ cfg.crash = .noop)) ∨
      (u.region cfg).2 ≠ 0 ∧ ∃ b c x, f.device.Owns cfg u.block b ∧
        cfg.crash.Tears cfg u b c ∧ g = f.placed u.block c x := by
  unfold tear at h
  dsimp only at h
  by_cases none : (u.region cfg).2 = 0
  · rw [if_pos none] at h
    cases h
    exact .inl ⟨rfl, .inl none⟩
  rw [if_neg none] at h
  cases crash : cfg.crash with
  | noop =>
    rw [crash] at h
    cases h
    exact .inl ⟨rfl, .inr rfl⟩
  | someBits =>
    rw [crash] at h
    have torn := torn_of_tearBit crash h
    rw [crash] at torn
    exact .inr ⟨none, torn⟩
  | mostBits =>
    rw [crash] at h
    obtain ⟨bit, t, drawn, h⟩ := run_bind_eq_ok.1 h
    rw [run_drawBelow (by omega)] at drawn
    cases drawn
    obtain ⟨b, c, x, owns, lands, rfl⟩ := amend_ok h
    rcases hc : landed cfg u (u.region cfg).1 (u.region cfg).2 b with d | c'
    · rw [hc] at lands
      cases lands
    rw [hc, landed_ok hc] at lands
    exact .inr ⟨none, b, c, x, owns, ⟨_, Nat.mod_lt _ (by omega), lands⟩, rfl⟩
  | outOfOrder =>
    rw [crash] at h
    obtain ⟨b, c, x, owns, lands, rfl⟩ := amend_ok h
    exact .inr ⟨none, b, c, x, owns, landed_ok lands, rfl⟩
  | metastable =>
    rw [crash] at h
    obtain ⟨bit, t, drawn, h⟩ := run_bind_eq_ok.1 h
    rw [run_drawBelow (by omega)] at drawn
    cases drawn
    obtain ⟨b, c, x, owns, lands, rfl⟩ := amend_ok h
    rcases hc : landed cfg u (u.region cfg).1 (u.region cfg).2 b with d | c'
    · rw [hc] at lands
      cases lands
    rw [hc, landed_ok hc] at lands
    cases lands
    exact .inr ⟨none, b, _, x, owns, ⟨_, Nat.mod_lt _ (by omega), rfl⟩, rfl⟩

/-- What a loss of power leaves of an update on its block: all as it was, or the block with some
bytes exchanged. -/
def TornTo (cfg : Config) (u : Update) (f g : Flash Plain Block) : Prop :=
  (g = f ∧ ∀ old, cfg.crash.Leaves old (u.onto cfg old) old) ∨
    ∃ b bs x, f.device.Owns cfg u.block b ∧ cfg.crash.Leaves b.data (u.onto cfg b.data) bs ∧
      g = f.placed u.block { b with data := bs } x

/-- What a loss of power leaves on the block of an update, unless it leaves bits to chance. -/
theorem tear_ok (certain : cfg.crash ≠ .metastable) (h : (tear cfg u).run f = .ok () g) :
    TornTo cfg u f g := by
  rcases torn_of_tear h with ⟨rfl, none | noop⟩ | ⟨-, b, c, x, owns, torn, rfl⟩
  · refine .inl ⟨rfl, fun old => ?_⟩
    rw [Update.onto_of_region_eq_zero none]
    exact cfg.crash.leaves_refl old
  · refine .inl ⟨rfl, fun old => ?_⟩
    rw [noop]
    rfl
  · obtain ⟨same, leaves⟩ := torn.leaves certain
    rw [same]
    exact .inr ⟨b, c.data, x, owns, leaves, rfl⟩

/-- A return to the last sync keeps what is on the block of the update. -/
theorem rollBack_ok {before : Slots Block} {block : Nat}
    (h : (rollBack before block).run f = .ok () g) :
    before.length = f.device.slots.length ∧ ∃ x, f.device.slots[block]? = some x ∧
      g = { f with device := { f.device with slots := before.set block x } } := by
  rw [run_rollBack_plain] at h
  by_cases length : before.length = f.device.slots.length
  · rw [if_neg (not_not_intro length)] at h
    rcases hx : f.device.slots[block]? with _ | x
    · rw [hx] at h
      cases h
    · rw [hx] at h
      cases h
      exact ⟨length, x, rfl, rfl⟩
  · rw [if_pos length] at h
    cases h

theorem device_save {block off len : Nat} (h : (save cfg block off len).run f = .ok () g) :
    g.device = f.device := by
  have leaves : Leaves id (save cfg block off len : FlashM Plain Block Unit) :=
    .save cfg block off len
  have same := leaves f
  rw [answered_eq_ok.2 h] at same
  exact same

theorem device_saveAll (h : (saveAll cfg).run f = .ok () g) : g.device = f.device := by
  have leaves : Leaves id (saveAll cfg : FlashM Plain Block Unit) := .saveAll cfg
  have same := leaves f
  rw [answered_eq_ok.2 h] at same
  exact same

/-- A loss of power tears the block of the update. If there was a sync, it returns the others. -/
theorem wreck_ok (h : (wreck cfg u).run f = .ok () g) :
    ∃ t, (tear cfg u).run f = .ok () t ∧ t.device.synced = f.device.synced ∧
      (f.device.synced = none → g.device = t.device) ∧
      ∀ before, f.device.synced = some before → ∃ x, t.device.slots[u.block]? = some x ∧
        u.block < before.length ∧
        g.device = { t.device with slots := before.set u.block x } := by
  obtain ⟨_, t, torn, rest⟩ := run_bind_eq_ok.1 h
  obtain ⟨_, _, got, rest⟩ := run_bind_eq_ok.1 rest
  cases got
  have synced : t.device.synced = f.device.synced := by
    have leaves : KeepsSync (tear cfg u : FlashM Plain Block Unit) := .tear cfg u
    have kept := leaves f
    rwa [answered_eq_ok.2 torn] at kept
  refine ⟨t, torn, synced, fun none => ?_, fun before some => ?_⟩
  · rw [synced, none] at rest
    cases rest
    rfl
  · rw [synced, some] at rest
    obtain ⟨length, x, hx, rfl⟩ := rollBack_ok rest
    have inside : u.block < before.length := by
      rw [length]
      exact (List.getElem?_eq_some_iff.1 hx).1
    exact ⟨x, hx, inside, rfl⟩

/-- To write the image file leaves the device as the loss of power left it. -/
theorem crash_ok (h : (crash cfg u).run f = .ok () g) :
    ∃ t, (wreck cfg u).run f = .ok () t ∧ g.device = t.device := by
  obtain ⟨_, t, torn, rest⟩ := run_bind_eq_ok.1 h
  obtain ⟨_, _, got, rest⟩ := run_bind_eq_ok.1 rest
  cases got
  -- up to the write to the image file, `crash` goes the way of `wreck`
  refine Exists.imp (fun r => And.imp_left fun back => run_bind_eq_ok.2 ⟨_, t, torn,
    run_bind_eq_ok.2 ⟨t, t, rfl, back⟩⟩) ?_
  cases hs : t.device.synced with
  | none =>
    rw [hs] at rest
    exact ⟨t, rfl, device_save rest⟩
  | some before =>
    rw [hs] at rest
    obtain ⟨_, r, rolled, saved⟩ := run_bind_eq_ok.1 rest
    exact ⟨r, rolled, device_saveAll saved⟩

end Flash

end FaultyFlash
