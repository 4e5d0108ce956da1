import FaultyFlash.Proofs.Flat.Reference
import FaultyFlash.Proofs.Stability
import FaultyFlash.Proofs.Unattended

/-!
# Devices that look flat

Where crashes and worn blocks leave nothing to chance, a device cannot be told from a flat one: a
block that is not stored is one that was never written, a bad bit is never seen, and a loss of power
brings back what a copy of all blocks would.

## Main definitions

* `Config.Steady`: crashes and worn blocks leave nothing to chance
* `Slots.flat`: the blocks of a table as a flat device holds them
* `Device.LooksFlat`, `Device.ActsFlat`: a device shows what a flat device holds, now and later

## Main results

* `Flash.ActsFlat.permit`, `Flash.ActsFlat.tick`: updates are let through and lose power alike
* `Flash.ActsFlat.amend`: a change of a block is a change of the block of a flat device
* `Flash.ActsFlat.complete`, `Flash.ActsFlat.crash`: so are whole updates and losses of power
* `Flash.ActsFlat.obey`: orders are answered alike, and the devices go on looking alike
-/

namespace FaultyFlash

open EStateM (run_bind run_get)

variable {cfg : Config} {u : Update} {block : Nat}

/-- Blocks can be allocated, and neither crashes nor worn blocks leave a bit to chance. -/
structure Config.Steady (cfg : Config) : Prop where
  room : cfg.Roomy
  crash : cfg.crash = .noop ∨ cfg.crash = .outOfOrder
  worn : cfg.worn ≠ .progFlip ∧ cfg.worn ≠ .readFlip

/-- A stored block as a flat device holds it. -/
def Block.cell (b : Block) : Flat.Cell := ⟨b.wear, b.data⟩

/-- A slot as a flat device holds it: a block that was never written is as it was made. -/
def Flat.Cell.of (cfg : Config) (x : Option Block) : Flat.Cell :=
  x.elim ⟨0, List.replicate cfg.geometry.blockSize cfg.fill⟩ Block.cell

/-- The blocks of a table as a flat device holds them. -/
def Slots.flat (cfg : Config) (slots : Slots Block) (block : Nat) : Flat.Cell :=
  .of cfg slots[block]?.join

/-- A device shows what a flat device holds: the same blocks, counters and countdown. -/
structure Device.LooksFlat (cfg : Config) (D : Device Block) (F : Flat) : Prop where
  cells : D.slots.flat cfg = F.cells
  counters (c : Counter) : c.get D = F.counters c
  countdown : D.countdown = F.countdown

/-- A device shows what a flat device holds, and so does what a loss of power returns it to. -/
structure Device.ActsFlat (cfg : Config) (D : Device Block) (F : Flat) : Prop
    extends D.LooksFlat cfg F where
  stable : D.Stable cfg
  synced {before : Slots Block} (h : D.synced = some before) : before.flat cfg = F.synced

namespace Slots

variable {slots : Slots Block}

theorem flat_set (inside : block < slots.length) (x : Option Block) :
    Slots.flat cfg (slots.set block x) = Function.update (slots.flat cfg) block (.of cfg x) := by
  funext i
  by_cases this : i = block
  · subst this
    rw [Function.update_self, flat, List.getElem?_set_self inside, Option.join_some]
  · rw [Function.update_of_ne this, flat, List.getElem?_set_ne (Ne.symm this), flat]

/-- A sound table looks like blocks of the configured size. -/
theorem Sound.length_flat (h : slots.Sound cfg) (block : Nat) :
    (slots.flat cfg block).data.length = cfg.geometry.blockSize := by
  unfold flat Flat.Cell.of
  rcases hx : slots[block]?.join with _ | b
  · exact List.length_replicate
  · exact h.size (List.mem_of_getElem? (Option.join_eq_some_iff.1 hx))

end Slots

/-- A block that is changed is the one that a flat device holds. -/
theorem Device.Owns.flat {D : Device Block} {b : Block} (h : D.Owns cfg block b) :
    D.slots.flat cfg block = b.cell := by
  rcases h with h | ⟨h, bit, rfl⟩
  · rw [Slots.flat, h]
    rfl
  · rw [Slots.flat, h]
    rfl

namespace Device.ActsFlat

variable {D : Device Block} {F : Flat}

/-- The blocks of a flat device have the configured size. -/
theorem length_cell (h : D.ActsFlat cfg F) (block : Nat) :
    (F.cells block).data.length = cfg.geometry.blockSize := by
  rw [← h.cells]
  exact h.stable.slots.length_flat block

/-- Blocks that are in range have slots, which hold what a flat device holds. -/
theorem slot (h : D.ActsFlat cfg F) (inside : block < cfg.geometry.blockCount) :
    ∃ x, D.slots[block]? = some x ∧ F.cells block = .of cfg x ∧
      ∀ b, x = some b → b.data.length = cfg.geometry.blockSize ∧ b.metastable = false := by
  obtain ⟨x, hx, size⟩ := h.stable.sound.slot inside
  refine ⟨x, hx, ?_, fun b hb => ⟨size b hb, ?_⟩⟩
  · rw [← h.cells, Slots.flat, hx, Option.join_some]
  · exact h.stable.slots.stable (hb ▸ List.mem_of_getElem? hx)

/-- Generators are not seen. -/
theorem reseed (h : D.ActsFlat cfg F) (x : Generator) :
    ({ D with generator := x } : Device Block).ActsFlat cfg F where
  cells := h.cells
  counters c := (c.get_congr rfl rfl rfl).trans (h.counters c)
  countdown := h.countdown
  stable := h.stable.congr rfl rfl
  synced := h.synced

/-- Tables may be exchanged on both sides. -/
theorem exchange (h : D.ActsFlat cfg F) {slots : Slots Block} {cells : Nat → Flat.Cell}
    (stable : slots.Stable cfg) (same : slots.flat cfg = cells) :
    ({ D with slots := slots } : Device Block).ActsFlat cfg { F with cells := cells } where
  cells := same
  counters c := (c.get_congr rfl rfl rfl).trans (h.counters c)
  countdown := h.countdown
  stable := ⟨stable, h.stable.synced, h.stable.remembers⟩
  synced := h.synced

/-- Counters may be set on both sides. -/
theorem recount (h : D.ActsFlat cfg F) (c : Counter) {n m : UInt64} (same : n = m) :
    (c.set n D).ActsFlat cfg { F with counters := Function.update F.counters c m } := by
  refine ⟨⟨?_, fun e => ?_, ?_⟩, h.stable.congr (c.slots_set ..) (c.synced_set ..), fun hs => ?_⟩
  · rw [c.slots_set]
    exact h.cells
  · dsimp only
    by_cases this : e = c
    · subst this
      rw [Function.update_self, e.get_set, same]
    · rw [Function.update_of_ne this, c.get_set_of_ne _ _ this]
      exact h.counters e
  · rw [c.countdown_set]
    exact h.countdown
  · exact h.synced (c.synced_set .. ▸ hs)

/-- Countdowns may be set on both sides. -/
theorem rearm (h : D.ActsFlat cfg F) (n : UInt32) :
    ({ D with countdown := n } : Device Block).ActsFlat cfg { F with countdown := n } where
  cells := h.cells
  counters c := (c.get_congr rfl rfl rfl).trans (h.counters c)
  countdown := rfl
  stable := h.stable.congr rfl rfl
  synced := h.synced

theorem sync (h : D.ActsFlat cfg F) :
    ({ D with synced := D.synced.map fun _ => D.slots } : Device Block).ActsFlat cfg
      { F with synced := F.cells } where
  cells := h.cells
  counters c := (c.get_congr rfl rfl rfl).trans (h.counters c)
  countdown := h.countdown
  stable := h.stable.mark
  synced hs := by
    obtain ⟨_, -, rfl⟩ := Option.map_eq_some_iff.1 hs
    exact h.cells

/-- A new device looks like a new flat device. -/
theorem fresh (cfg : Config) : (Device.fresh Block cfg).ActsFlat cfg (Flat.fresh cfg) := by
  have empty : Slots.flat cfg (List.replicate cfg.geometry.blockCount none) =
      fun _ => .of cfg none := by
    funext block
    simp only [Slots.flat, List.getElem?_replicate]
    split <;> rfl
  refine ⟨⟨empty, fun c => ?_, rfl⟩, Device.stable_fresh cfg, fun {before} hs => ?_⟩
  · cases c <;> rfl
  · simp only [Device.fresh] at hs
    split at hs
    · cases hs
      exact empty
    · cases hs

end Device.ActsFlat

namespace Flash

variable {f : Flash Plain Block} {F : Flat} {α : Type}

/-- A device without an image file acts like a flat device. -/
structure ActsFlat (cfg : Config) (f : Flash Plain Block) (F : Flat) : Prop where
  device : f.device.ActsFlat cfg F
  image : f.image = none

namespace ActsFlat

theorem demand (x : Except Misuse Unit) :
    Coupled (ActsFlat cfg) (contract x) (Flat.demand x) (fun _ f F => x = .ok () ∧ f.ActsFlat cfg F)
      (ActsFlat cfg) := by
  intro f F h
  rcases x with m | _
  · exact ⟨rfl, h⟩
  · exact ⟨rfl, rfl, h⟩

/-! ## Looking at blocks -/

/-- A region of a block that was never written. -/
theorem region_of_none {off len : Nat} (fits : off + len ≤ cfg.geometry.blockSize) :
    Flat.region (.of cfg none) off len = List.replicate len cfg.fill :=
  Bytes.take_drop_replicate fits cfg.fill

/-- A region of a block of the configured size. -/
theorem region_cell {b : Block} (size : b.data.length = cfg.geometry.blockSize)
    {off len : Nat} (fits : off + len ≤ cfg.geometry.blockSize) :
    b.region off len = .ok (Flat.region b.cell off len) :=
  Block.region_of_le (by rw [size]; exact fits)

theorem run_fetch (h : f.ActsFlat cfg F) (inside : block < cfg.geometry.blockCount) :
    ∃ x, (fetch block).run f = .ok x f ∧ F.cells block = .of cfg x ∧
      ∀ b, x = some b → b.data.length = cfg.geometry.blockSize ∧ b.metastable = false := by
  obtain ⟨x, hx, same, held⟩ := h.device.slot inside
  exact ⟨x, by rw [run_fetch_plain, hx], same, held⟩

/-- A block that was never written is not worn out. -/
theorem isWorn_of_none : cfg.isWorn (Flat.Cell.of cfg none).wear = false := by
  simp [Config.isWorn, Flat.Cell.of]

/-- What is looked up on a block is looked up on the block of a flat device. -/
theorem run_look (look : Flat.Cell → α) (h : f.ActsFlat cfg F)
    (inside : block < cfg.geometry.blockCount) {tell : Option Block → FlashM Plain Block α}
    (same : ∀ x, tell x = pure (look (.of cfg x))) :
    (fetch block >>= tell).run f = .ok (look (F.cells block)) f := by
  obtain ⟨x, fetched, cell, -⟩ := h.run_fetch inside
  exact run_bind_eq_ok.2 ⟨x, f, fetched, by rw [same, cell]; rfl⟩

theorem run_isWorn (h : f.ActsFlat cfg F) (inside : block < cfg.geometry.blockCount) :
    (Flash.isWorn cfg block).run f = .ok (cfg.isWorn (F.cells block).wear) f := by
  refine h.run_look (cfg.isWorn ·.wear) inside ?_
  rintro (_ | b)
  · exact congrArg pure isWorn_of_none.symm
  · rfl

theorem run_crc (h : f.ActsFlat cfg F) (inside : block < cfg.geometry.blockCount) :
    (Flash.crc cfg block).run f = .ok (Checksum.crc (F.cells block).data) f := by
  have allowed : cfg.geometry.checkBlock .crc block = .ok () := if_pos inside
  refine run_bind_eq_ok.2 ⟨(), f, by rw [run_contract, allowed], ?_⟩
  refine h.run_look (Checksum.crc ·.data) inside ?_
  rintro (_ | b) <;> rfl

/-- Questions about a block are answered alike. -/
theorem inspect {op : Operation} {ask : FlashM Plain Block α} {look : Flat.Cell → α}
    (run : ∀ f F, f.ActsFlat cfg F → block < cfg.geometry.blockCount →
      ask.run f = .ok (look (F.cells block)) f) :
    Preserves (ActsFlat cfg) (do contract (cfg.geometry.checkBlock op block); ask)
      (Flat.inspect cfg op block look) := by
  refine (demand _).bind fun _ => ?_
  rintro f F ⟨allowed, h⟩
  rw [run f F h (Geometry.of_checkBlock allowed)]
  exact ⟨rfl, h⟩

theorem wear (block : Nat) :
    Preserves (ActsFlat cfg) (Flash.wear cfg block) (Flat.inspect cfg .wear block (·.wear)) := by
  apply inspect
  intro f F h inside
  refine h.run_look (·.wear) inside ?_
  rintro (_ | b) <;> rfl

theorem isBad (block : Nat) :
    Preserves (ActsFlat cfg) (Flash.isBad cfg block)
      (Flat.inspect cfg .isBad block fun c => cfg.isWorn c.wear) :=
  inspect fun _ _ h inside => h.run_isWorn inside

theorem crc (block : Nat) :
    Preserves (ActsFlat cfg) (Flash.crc cfg block)
      (Flat.inspect cfg .crc block fun c => Checksum.crc c.data) := by
  apply inspect
  intro f F h inside
  refine h.run_look (Checksum.crc ·.data) inside ?_
  rintro (_ | b) <;> rfl

/-- So is the question about all blocks. -/
theorem fingerprint :
    Preserves (ActsFlat cfg) (Flash.fingerprint cfg) (Flat.fingerprint cfg) := by
  intro f F h
  suffices all : ∀ (blocks : List Nat) (c : UInt32), (∀ b ∈ blocks, b < cfg.geometry.blockCount) →
      (blocks.foldlM (fun c block => do
        return Checksum.append c (Bytes.ofWord (← Flash.crc cfg block))) c).run f =
      .ok (blocks.foldl (fun c block =>
        Checksum.append c (Bytes.ofWord (Checksum.crc (F.cells block).data))) c) f by
    rw [Flash.fingerprint, all _ _ fun b => List.mem_range.1]
    exact ⟨rfl, h⟩
  intro blocks c inside
  induction blocks generalizing c with
  | nil => rfl
  | cons b blocks ih =>
    rw [List.foldlM_cons, List.foldl_cons, run_bind, run_bind, h.run_crc (inside b (by simp))]
    exact ih _ fun d hd => inside d (List.mem_cons_of_mem _ hd)

theorem read (block off len : Nat) :
    Preserves (ActsFlat cfg) (Flash.read cfg block off len) (Flat.read cfg block off len) := by
  refine (demand _).bind fun _ => ?_
  rintro f F ⟨allowed, h⟩
  obtain ⟨inside, fits⟩ := Geometry.of_checkRegion allowed
  obtain ⟨x, fetched, same, held⟩ := h.run_fetch inside
  have counted (bs : Bytes) : ResultsAgree (fun _ => ActsFlat cfg) (ActsFlat cfg)
      ((do
        modifyDevice fun d => { d with bytesRead := d.bytesRead + len.toUInt64 }
        return bs : FlashM Plain Block Bytes).run f)
      ((do
        Flat.recount .bytesRead (· + len.toUInt64)
        return bs : FlatM Bytes).run F) := by
    refine ⟨rfl, ?_, h.image⟩
    exact h.device.recount .bytesRead (congrArg (· + len.toUInt64) (h.device.counters .bytesRead))
  rw [run_bind, fetched, run_bind, Flat.run_cell, same]
  rcases x with _ | b
  · have blank : Flat.region (.of cfg none) off len = List.replicate len cfg.fill :=
      region_of_none fits
    have unworn : cfg.isWorn (Flat.Cell.of cfg none).wear = false := isWorn_of_none
    simp only [unworn, blank]
    exact counted _
  · obtain ⟨size, steady⟩ := held b rfl
    have stored : b.region off len = .ok (Flat.region b.cell off len) :=
      region_cell size fits
    have wear : (Flat.Cell.of cfg (some b)).wear = b.wear := rfl
    by_cases worn : (cfg.isWorn b.wear && cfg.worn = .readError) = true
    · simp only [wear, worn, if_true]
      exact ⟨rfl, h⟩
    · simp only [wear, worn, Bool.false_eq_true, if_false]
      rw [run_bind, run_sense steady stored]
      exact counted _

/-! ## How updates start -/

/-- What was never written is erased. -/
theorem run_checkErased (h : f.ActsFlat cfg F) {off len : Nat}
    (inside : block < cfg.geometry.blockCount) (fits : off + len ≤ cfg.geometry.blockSize) :
    (checkErased cfg block off len).run f =
      if Flat.isErased cfg (Flat.region (F.cells block) off len) then .ok () f
      else .error (.misuse (.notErased block off)) f := by
  obtain ⟨x, fetched, same, held⟩ := h.run_fetch inside
  rw [same, checkErased]
  rcases hv : cfg.eraseValue with _ | v
  · rw [run_bind, fetched, if_pos (by rw [Flat.isErased, hv]; rfl)]
    rfl
  rw [run_bind, fetched]
  rcases x with _ | b
  · have blank : Flat.region (.of cfg none) off len = List.replicate len v := by
      rw [region_of_none fits, Config.fill, hv, Option.getD_some]
    rw [blank, if_pos (by simp [Flat.isErased, hv])]
    rfl
  · have stored : b.region off len = .ok (Flat.region b.cell off len) :=
      region_cell (held b rfl).1 fits
    have erased : Flat.isErased cfg (Flat.region (.of cfg (some b)) off len) =
        (Flat.region b.cell off len).all (· == v) := by
      rw [Flat.isErased, hv]
      rfl
    rw [erased]
    dsimp only
    rw [run_bind, run_sound, stored]
    dsimp only
    by_cases all : (Flat.region b.cell off len).all (· == v) = true
    · rw [all, if_pos rfl]
      rfl
    · rw [if_neg all]
      rw [Bool.not_eq_true] at all
      rw [all]
      rfl

/-- Updates of worn blocks are refused or ignored alike, by the behaviors that are for them. -/
theorem screen {refusing ignoring : WornBehavior} {go : Bool → FlashM Plain Block (Option Bool)}
    {go' : Flat.Cell → FlatM Bool} (fits : u.Fits cfg) (taken : go true = pure (some true))
    (unworn : ∀ f F, f.ActsFlat cfg F →
      ResultsAgree (fun _ => ActsFlat cfg) (ActsFlat cfg) ((Option.isSome <$> go false).run f)
        ((go' (F.cells u.block)).run F)) :
    Coupled (ActsFlat cfg)
      (Option.isSome <$> do
        let worn ← Flash.isWorn cfg u.block
        if worn && cfg.worn = refusing then
          throw (.fault (.corrupt u.block))
        if worn && cfg.worn = ignoring then
          return none
        go worn)
      (do
        let c ← Flat.cell u.block
        if cfg.isWorn c.wear then
          if cfg.worn = refusing then
            throw (.fault (.corrupt u.block))
          return cfg.worn ≠ ignoring
        go' c)
      (fun done f F => (done = true → u.Fits cfg) ∧ f.ActsFlat cfg F) (ActsFlat cfg) := by
  intro f F h
  rw [map_eq_pure_bind]
  simp only [bind_assoc, run_bind, h.run_isWorn fits.block, Flat.run_cell]
  by_cases worn : cfg.isWorn (F.cells u.block).wear = true
  · by_cases refused : cfg.worn = refusing
    · simp only [worn, refused]
      exact ⟨rfl, h⟩
    · by_cases ignored : cfg.worn = ignoring
      · simp only [worn, refused, eq_true ignored]
        exact ⟨(decide_eq_false (not_not_intro ignored)).symm, nofun, h⟩
      · simp only [worn, refused, ignored, taken]
        exact ⟨(decide_eq_true ignored).symm, fun _ => fits, h⟩
  · rw [Bool.not_eq_true] at worn
    simp only [worn]
    exact (unworn f F h).mono (fun _ _ _ h => ⟨fun _ => fits, h⟩) fun _ _ => id

/-- Updates are let through alike. -/
theorem permit (u : Update) :
    Coupled (ActsFlat cfg) (Option.isSome <$> Flash.permit cfg u) (Flat.permit cfg u)
      (fun done f F => (done = true → u.Fits cfg) ∧ f.ActsFlat cfg F) (ActsFlat cfg) := by
  rcases u with ⟨block, off, data⟩ | block
  · rw [Flash.permit, Flat.permit, map_bind]
    refine (demand _).bind fun _ => ?_
    rintro f F ⟨allowed, h⟩
    obtain ⟨inside, fits⟩ := Geometry.of_checkRegion allowed
    have fitting : (Update.prog block off data).Fits cfg := ⟨inside, fits⟩
    refine screen fitting rfl (fun f F h => ?_) f F h
    rw [map_eq_pure_bind]
    simp only [Bool.not_false, if_true, bind_assoc, run_bind, h.run_checkErased inside fits]
    by_cases erased : Flat.isErased cfg (Flat.region (F.cells block) off data.length) = true
    · rw [if_pos erased]
      simp only [Update.block, erased]
      exact ⟨rfl, h⟩
    · rw [if_neg erased]
      simp only [Update.block, erased]
      exact ⟨rfl, h⟩
  · rw [Flash.permit, Flat.permit, map_bind]
    refine (demand _).bind fun _ => ?_
    rintro f F ⟨allowed, h⟩
    have inside := Geometry.of_checkBlock allowed
    have fitting : (Update.erase block).Fits cfg := ⟨inside, by simp [Update.region]⟩
    refine screen fitting rfl (fun f F h => ?_) f F h
    exact ⟨rfl, h⟩

theorem tick : Preserves (ActsFlat cfg) Flash.tick Flat.tick := by
  intro f F h
  simp only [run_tick, Flat.tick, run_bind, run_get, ← h.device.countdown]
  by_cases off : f.device.countdown = 0
  · simp only [off]
    exact ⟨rfl, h⟩
  · simp only [off, if_false]
    exact ⟨rfl, h.device.rearm _, h.image⟩

/-! ## Changes of a block -/

/-- What a change does to a block of a device, another does to the block of a flat device. -/
def ChangesFlat (cfg : Config) (change : Block → Except Defect Block)
    (exchange : Flat.Cell → Flat.Cell) : Prop :=
  ∀ b, b.data.length = cfg.geometry.blockSize → ∃ c, change b = .ok c ∧
    c.cell = exchange b.cell ∧ c.data.length = cfg.geometry.blockSize ∧
    (b.metastable = false → c.metastable = false)

/-- A change of a block is a change of the block of a flat device, be the block shared, new or the
device's own. -/
theorem amend (room : cfg.Roomy) (inside : block < cfg.geometry.blockCount)
    {change : Block → Except Defect Block} {exchange : Flat.Cell → Flat.Cell}
    (changes : ChangesFlat cfg change exchange) :
    Preserves (ActsFlat cfg) (Flash.amend cfg block change) (Flat.change block exchange) := by
  intro f F h
  have possible (b : Block) (size : b.data.length = cfg.geometry.blockSize) :
      ∃ c, change b = .ok c ∧ c.data.length = cfg.geometry.blockSize := by
    obtain ⟨c, changed, -, size, -⟩ := changes b size
    exact ⟨c, changed, size⟩
  obtain ⟨_, t, run, -⟩ := succeeds_amend room inside possible f ⟨h.device.stable.sound, rfl⟩
  rw [run]
  obtain ⟨b, c, x, owns, changed, rfl⟩ := amend_ok run
  obtain ⟨size, steady⟩ := owns.of_stable h.device.stable
  obtain ⟨_, changed', cell, size', steady'⟩ := changes b size
  obtain rfl := Except.ok.inj (changed.symm.trans changed')
  have stable := h.device.stable.slots.set block (x := some c)
    (fun _ same => Option.some.inj same ▸ size') fun _ same => Option.some.inj same ▸ steady' steady
  refine ⟨rfl, (h.device.reseed x).exchange stable ?_, h.image⟩
  rw [Slots.flat_set owns.lt_length, ← h.device.cells, owns.flat, ← cell]
  rfl

theorem after_eq_onto {old : Bytes} (size : old.length = cfg.geometry.blockSize) :
    Flat.after cfg old u = u.onto cfg old := by
  rcases u with ⟨block, off, data⟩ | block
  · rfl
  · rw [Update.onto_erase size, size]
    rfl

/-- There is no image file to write. -/
theorem run_save (h : f.ActsFlat cfg F) (block off len : Nat) :
    (save cfg block off len).run f = .ok () f := by
  simp only [save, run_bind, run_get, h.image]
  rfl

theorem run_saveAll (h : f.ActsFlat cfg F) : (saveAll cfg).run f = .ok () f := by
  simp only [saveAll, run_bind, run_get, h.image]
  rfl

theorem setWear (room : cfg.Roomy) (block : Nat) (wear : UInt32) :
    Preserves (ActsFlat cfg) (Flash.setWear cfg block wear) (Flat.setWear cfg block wear) := by
  refine (demand _).bind fun _ => ?_
  rintro f F ⟨allowed, h⟩
  have changes : ChangesFlat cfg (fun b => .ok { b with wear := wear })
      fun c => { c with wear := wear } := fun b size => ⟨_, rfl, rfl, size, id⟩
  exact amend room (Geometry.of_checkBlock allowed) changes f F h

theorem flipBit (room : cfg.Roomy) (block bit : Nat) :
    Preserves (ActsFlat cfg) (Flash.flipBit cfg block bit) (Flat.flipBit cfg block bit) := by
  refine (demand _).bind fun _ => ?_
  rintro f F ⟨allowed, h⟩
  refine ((demand _).bind fun _ => ?_) f F h
  rintro f F ⟨small, h⟩
  have inside := Geometry.of_checkBlock allowed
  have held : bit / 8 < cfg.geometry.blockSize := by
    split at small
    · next below =>
      unfold Geometry.blockBits at below
      omega
    · cases small
  have changes : ChangesFlat cfg (fun b => b.flip bit) fun c =>
      { c with data := c.data.modify (bit / 8) (· ^^^ Bytes.mask (bit % 8)) } := by
    intro b size
    have flipped := Block.flip_of_lt (b := b) (by rw [size]; exact held)
    exact ⟨_, flipped, rfl, (Block.length_flip flipped).trans size, id⟩
  exact (amend room inside changes).skip_last (fun _ f F h => h.run_save block (bit / 8) 1) f F h

/-- What is programmed is seen as it is, on a worn block too. -/
theorem changes_programmed (steady : cfg.Steady) {off : Nat} {data : Bytes} (worn : Bool)
    (fits : off + data.length ≤ cfg.geometry.blockSize) :
    ChangesFlat cfg (programmed cfg worn off data)
      fun c => { c with data := Flat.after cfg c.data (.prog block off data) } := by
  intro b size
  rw [← size] at fits
  have written := Block.overwrite_of_le fits
  have done : programmed cfg worn off data b =
      .ok { b with
        metastable := false
        data := b.data.take off ++ data ++ b.data.drop (off + data.length) } := by
    rw [programmed, written]
    simp only [steady.worn, decide_false, Bool.and_false, Bool.false_and]
    rfl
  exact ⟨_, done, rfl, (length_programmed done).trans size, fun _ => rfl⟩

theorem changes_erased (bit : Option Nat) :
    ChangesFlat cfg (fun b => .ok (erased cfg bit b))
      fun c => ⟨Config.successor c.wear, Flat.after cfg c.data (.erase block)⟩ := by
  intro b size
  refine ⟨_, rfl, ?_, (length_erased ..).trans size, fun _ => rfl⟩
  rw [Block.cell, erased, size]
  rfl

/-- What lands of an update is all of it, but for the wear. -/
theorem changes_landed (fits : u.Fits cfg) :
    ChangesFlat cfg (landed cfg u (u.region cfg).1 (u.region cfg).2)
      fun c => { c with data := Flat.after cfg c.data u } := by
  intro b size
  obtain ⟨c, lands, size'⟩ := landed_of_fits fits size
  obtain rfl := landed_ok lands
  exact ⟨_, lands, congrArg (Flat.Cell.mk b.wear) (after_eq_onto size).symm, size', id⟩

/-! ## Updates -/

/-- What is counted on a device is counted on a flat one. -/
theorem count (c : Counter) (n : UInt64) :
    Preserves (ActsFlat cfg) (modifyDevice fun d => c.set (c.get d + n) d)
      (Flat.recount c (· + n)) := by
  apply Coupled.modify
  intro f F h
  exact ⟨h.device.recount c (congrArg (· + n) (h.device.counters c)), h.image⟩

/-- Updates that stay within their blocks are completed alike; the bad bits that are drawn are not
seen. -/
theorem complete (steady : cfg.Steady) (fits : u.Fits cfg) (worn : Bool) :
    Preserves (ActsFlat cfg) (Flash.complete cfg worn u) (Flat.complete cfg u) := by
  rcases u with ⟨block, off, data⟩ | block
  · refine (amend steady.room fits.block (changes_programmed steady worn fits.region)).bind
      fun _ => Coupled.skip (fun f F h => ⟨(), f, h.run_save .., h⟩) fun _ => ?_
    exact count .bytesProgrammed data.length.toUInt64
  · have erases (bit : Option Nat) : Preserves (ActsFlat cfg) (do
        Flash.amend cfg block fun b => .ok (erased cfg bit b)
        save cfg block 0 cfg.geometry.blockSize
        modifyDevice fun d =>
          { d with bytesErased := d.bytesErased + cfg.geometry.blockSize.toUInt64 })
        (Flat.complete cfg (.erase block)) := by
      refine (amend steady.room fits.block (changes_erased bit)).bind
        fun _ => Coupled.skip (fun f F h => ⟨(), f, h.run_save .., h⟩) fun _ => ?_
      exact count .bytesErased cfg.geometry.blockSize.toUInt64
    refine Coupled.skip (fun f F h => ?_) fun x => ?_
    · obtain ⟨x, fetched, -⟩ := h.run_fetch fits.block
      exact ⟨x, f, fetched, h⟩
    dsimp only
    split
    · exact erases none
    · refine Coupled.skip (fun f F h => ?_) erases
      rw [map_eq_pure_bind, run_bind, run_drawBelow steady.room.bits]
      exact ⟨_, _, rfl, h.device.reseed _, h.image⟩

/-! ## Losing power -/

/-- If updates are out of order, all bytes of an update land; an update of no bytes changes
nothing. -/
theorem tear (steady : cfg.Steady) (outOfOrder : cfg.crash = .outOfOrder) (fits : u.Fits cfg) :
    Preserves (ActsFlat cfg) (Flash.tear cfg u)
      (Flat.change u.block fun c => { c with data := Flat.after cfg c.data u }) := by
  unfold Flash.tear
  simp only [outOfOrder]
  split
  · next none =>
    intro f F h
    have same : Flat.after cfg (F.cells u.block).data u = (F.cells u.block).data := by
      rw [after_eq_onto (h.device.length_cell u.block), Update.onto_of_region_eq_zero none]
    refine ⟨rfl, ?_, h.image⟩
    dsimp only
    rw [same, Function.update_eq_self]
    exact h.device
  · exact amend steady.room fits.block (changes_landed fits)

/-- The return to the last sync brings back what was copied of the other blocks. -/
theorem rollBack (h : f.ActsFlat cfg F) (outOfOrder : cfg.crash = .outOfOrder)
    (inside : block < cfg.geometry.blockCount) :
    ∃ before g, f.device.synced = some before ∧ (Flash.rollBack before block).run f = .ok () g ∧
      g.ActsFlat cfg { F with cells := Function.update F.synced block (F.cells block) } := by
  obtain ⟨before, hs⟩ : ∃ before, f.device.synced = some before := by
    rw [← Option.isSome_iff_exists, h.device.stable.remembers, outOfOrder]
    rfl
  have stable := h.device.stable.synced hs
  obtain ⟨x, hx, same, held⟩ := h.device.slot inside
  have length : before.length = f.device.slots.length :=
    stable.length.trans h.device.stable.slots.length.symm
  have rolled := run_rollBack_plain f block before
  rw [if_neg (not_not_intro length), hx] at rolled
  refine ⟨before, _, hs, rolled, h.device.exchange (stable.set block (fun b hb => (held b hb).1)
    fun b hb => (held b hb).2) ?_, h.image⟩
  rw [Slots.flat_set (stable.length ▸ inside), h.device.synced hs, ← same]

/-- A loss of power leaves alike what it leaves. -/
theorem crash (steady : cfg.Steady) (fits : u.Fits cfg) :
    Preserves (ActsFlat cfg) (Flash.crash cfg u) (Flat.lose cfg u) := by
  unfold Flat.lose
  rcases steady.crash with noop | outOfOrder
  · intro f F h
    have nothing : (Flash.tear cfg u).run f = .ok () f := by
      unfold Flash.tear
      simp only [noop]
      split <;> rfl
    have forgets := h.device.stable.forgets (by rw [noop]; nofun)
    simp only [Flash.crash, run_bind, nothing, run_get, forgets, h.run_save, noop]
    exact ⟨rfl, h⟩
  · rw [if_pos outOfOrder]
    refine (tear steady outOfOrder fits).bind fun _ f F h => ?_
    obtain ⟨before, g, hs, rolled, acts⟩ := h.rollBack outOfOrder fits.block
    simp only [run_bind, run_get, hs, rolled, acts.run_saveAll]
    exact ⟨rfl, acts⟩

end ActsFlat

/-- Updates are performed alike: they are refused, ignored, interrupted and completed at the same
times. -/
theorem ActsFlat.unattended (steady : cfg.Steady) (u : Update) :
    Preserves (ActsFlat cfg) (Flash.unattended cfg u) (Flat.update cfg u) := by
  unfold Flash.unattended start
  simp only [bind_assoc]
  refine (permit u).bind_seen fun x => ?_
  rcases x with _ | worn
  · exact Coupled.pure _ fun f F h => h.2
  rintro f F ⟨fits, h⟩
  have fits := fits rfl
  simp only [countDown, bind_assoc, Option.isSome_some, if_true]
  refine (tick.bind fun lost => ?_) f F h
  cases lost
  · exact complete steady fits worn
  · exact (crash steady fits).bind fun _ => .raise _ fun _ _ => id

end Flash

/-- What an order does to a device without a callback. -/
def Flat.Order.effect {S R : Type} [BlockStore S R] :
    (o : Flat.Order) → Config → FlashM S R o.Answer
  | .update u => (Flash.unattended · u)
  | o => o.request.effect

/-- Orders are answered alike, and the devices go on looking alike. -/
theorem Flash.ActsFlat.obey (steady : cfg.Steady) (o : Flat.Order) :
    Preserves (ActsFlat cfg) (o.effect cfg) (Flat.obey cfg o) := by
  cases o with
  | read block off len => exact read block off len
  | update u => exact unattended steady u
  | sync =>
    intro f F h
    show ResultsAgree _ _ (Flash.sync.run f) _
    rw [run_sync_plain]
    exact ⟨rfl, h.device.sync, h.image⟩
  | flipBit block bit => exact flipBit steady.room block bit
  | setWear block value => exact setWear steady.room block value
  | markBad block => exact setWear steady.room block cfg.wornOut
  | markGood block => exact setWear steady.room block 0
  | wear block => exact wear block
  | isBad block => exact isBad block
  | crc block => exact crc block
  | fingerprint => exact fingerprint
  | counter c => exact fun f F h => ⟨h.device.counters c, h⟩
  | setCounter c value =>
    apply Coupled.modify
    intro f F h
    exact ⟨h.device.recount c rfl, h.image⟩
  | countdown => exact fun f F h => ⟨h.device.countdown, h⟩
  | setCountdown value =>
    apply Coupled.modify
    intro f F h
    exact ⟨h.device.rearm value, h.image⟩

end FaultyFlash
