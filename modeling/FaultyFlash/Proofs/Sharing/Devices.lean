import FaultyFlash.Proofs.Lockstep
import FaultyFlash.Proofs.Sharing.View
import FaultyFlash.Store.Counted

/-!
# Devices that share blocks

A device whose blocks are counted, and may be shared with others, is compared with the device as it
is seen, which has blocks of its own. The comparison rests on the counts: a block has as many
holders as the device and the others refer to it, so a block with one holder may be changed in
place, and no other holder sees the change.

## Main definitions

* `Device.holds`: how often a device refers to a block
* `Flash.Sharing others kept`: a device is seen as another, its store counts the references of the
  device and `others` of anyone else, and keeps the blocks `kept` for these

## Main results

* `Flash.Sharing.lockstep`: shared devices and devices with blocks of their own are in lockstep
-/

namespace FaultyFlash

open BlockStore (refs contents look retainAll releaseAll)

/-- How often a device refers to a block. -/
def Device.holds (d : Device Nat) (r : Nat) : Nat :=
  d.slots.count (some r) + (d.synced.getD []).count (some r)

namespace Device

theorem holds_pos {d : Device Nat} {r : Nat} (h : some r ∈ d.slots) : 0 < d.holds r :=
  Nat.add_pos_left (List.count_pos_iff.2 h) _

theorem holds_synced_pos {d : Device Nat} {before : Slots Nat} {r : Nat}
    (hs : d.synced = some before) (h : some r ∈ before) : 0 < d.holds r := by
  rw [holds, hs]
  exact Nat.add_pos_right _ (List.count_pos_iff.2 h)

/-- A device looks the same in stores that keep the same blocks for it. -/
theorem plain_congr {d : Device Nat} {s s' : Counted}
    (h : ∀ r, 0 < d.holds r → contents s' r = contents s r) : d.plain s' = d.plain s := by
  have slots : BlockStore.look s' d.slots = BlockStore.look s d.slots :=
    BlockStore.look_congr fun r hr => h r (holds_pos hr)
  have synced : d.synced.map (BlockStore.look s') = d.synced.map (BlockStore.look s) := by
    cases hs : d.synced with
    | none => rfl
    | some before =>
      exact congrArg some (BlockStore.look_congr fun r hr => h r (holds_synced_pos hs hr))
  simp only [plain, slots, synced]

/-- The counts after a slot came to refer to another block. -/
theorem holds_setSlot {d : Device Nat} {block : Nat} {x : Option Nat}
    (hx : d.slots[block]? = some x) (r t : Nat) :
    ({ d with slots := d.slots.set block (some r) } : Device Nat).holds t +
      (if x = some t then 1 else 0) = d.holds t + if r = t then 1 else 0 := by
  obtain ⟨hlt, hget⟩ := List.getElem?_eq_some_iff.1 hx
  have member : x = some t → 0 < d.slots.count (some t) := fun h =>
    List.count_pos_iff.2 (h ▸ hget ▸ List.getElem_mem hlt)
  simp only [holds, List.count_set hlt, hget, beq_iff_eq, Option.some.injEq]
  by_cases hxt : x = some t
  · have := member hxt
    simp only [hxt, if_true]
    omega
  · simp only [hxt, if_false]
    omega

/-- Where a slot and nobody else refers to a block, the block is referred to nowhere else. -/
theorem unique {d : Device Nat} {block r others : Nat} (hr : d.slots[block]? = some (some r))
    (one : d.holds r + others = 1) :
    others = 0 ∧ (∀ i, d.slots[i]? = some (some r) → i = block) ∧
      ∀ before, d.synced = some before → some r ∉ before := by
  obtain ⟨hlt, hget⟩ := List.getElem?_eq_some_iff.1 hr
  have held : 0 < d.slots.count (some r) := List.count_pos_iff.2 (List.mem_of_getElem? hr)
  rw [holds] at one
  refine ⟨by omega, fun i hi => ?_, fun before hbefore mem => ?_⟩
  · by_cases distinct : i = block
    · exact distinct
    · -- with the slot emptied, the block would be referred to from slot `i` still
      have left : 0 < (d.slots.set block none).count (some r) := by
        refine List.count_pos_iff.2 (List.mem_of_getElem? (i := i) ?_)
        rw [List.getElem?_set_ne (Ne.symm distinct), hi]
      rw [List.count_set hlt, hget] at left
      simp at left
      omega
  · have synced := List.count_pos_iff.2 mem
    rw [hbefore, Option.getD_some] at one
    omega

end Device

namespace Flash

open Device (holds_pos holds_synced_pos holds_setSlot)

/-- A device with counted blocks is seen as `g`. Its store counts the references of the device and
those of anyone else, and keeps their blocks. -/
structure Sharing (others : Nat → Nat) (kept : Nat → Option Block) (f : Flash Counted Nat)
    (g : Flash Plain Block) : Prop where
  seen : g = f.plain
  counts (r : Nat) : refs f.store r = f.device.holds r + others r
  kept {r : Nat} (h : 0 < others r) : contents f.store r = kept r

/-- Between being made the device's own and being changed, a block is referred to once. -/
def Sharing.Owned (others : Nat → Nat) (kept : Nat → Option Block) (block : Nat) (b : Block)
    (f : Flash Counted Nat) (g : Flash Plain Block) : Prop :=
  Sharing others kept f g ∧ ∃ r, f.device.slots[block]? = some (some r) ∧
    refs f.store r = 1 ∧ contents f.store r = some b

namespace Sharing

variable {others : Nat → Nat} {kept : Nat → Option Block} {f : Flash Counted Nat}
  {g : Flash Plain Block}

/-- No slot dangles. -/
theorem isSome_contents (h : Sharing others kept f g) {r : Nat} (hr : 0 < f.device.holds r) :
    (contents f.store r).isSome := by
  apply Counted.isSome_contents
  rw [h.counts]
  omega

/-- A change that touches neither blocks nor references is seen as it is. -/
theorem of_device (h : Sharing others kept f g) {f' : Flash Counted Nat} {g' : Flash Plain Block}
    (seen : g' = f'.plain) (store : f'.store = f.store) (slots : f'.device.slots = f.device.slots)
    (synced : f'.device.synced = f.device.synced) : Sharing others kept f' g' where
  seen := seen
  counts r := by
    rw [store, h.counts, Device.holds, Device.holds, slots, synced]
  kept hr := by
    rw [store]
    exact h.kept hr

theorem look (h : Sharing others kept f g) (block : Nat) :
    ResultsAgree (fun _ s t => s = f ∧ t = g) (fun s t => s = f ∧ t = g)
      ((fetch block).run f) ((fetch block).run g) := by
  obtain rfl := h.seen
  by_cases reach : block < f.device.slots.length
  · have live : ∀ r, f.device.slots[block]? = some (some r) → (contents f.store r).isSome :=
      fun r hr => h.isSome_contents (holds_pos (List.mem_of_getElem? hr))
    rw [run_fetch reach live, run_fetch (by simpa [plain, Device.plain] using reach) fun _ _ => rfl,
      block?_plain]
    exact ⟨rfl, rfl, rfl⟩
  · have beyond := List.getElem?_eq_none (Nat.le_of_not_lt reach)
    have beyond' : f.plain.device.slots[block]? = none := by
      rw [plain, Device.plain, BlockStore.getElem?_look, beyond]
      rfl
    simp only [fetch, EStateM.run_bind, run_slot, beyond, beyond']
    exact ⟨rfl, rfl, rfl⟩

/-- A block that is referred to is held by someone. -/
theorem refs_pos (h : Sharing others kept f g) {r : Nat} (hr : 0 < f.device.holds r) :
    0 < refs f.store r := by
  rw [h.counts]
  omega

/-- A slot comes to refer to a new block `b`, and no block that was held is lost. -/
theorem setSlot (h : Sharing others kept f g) {block r : Nat} {x : Option Nat} {b : Block}
    {s : Counted} (hx : f.device.slots[block]? = some x) (new : contents s r = some b)
    (counts : ∀ t, refs s t + (if x = some t then 1 else 0) =
      refs f.store t + if r = t then 1 else 0)
    (old : ∀ t, 0 < refs f.store t → contents s t = contents f.store t) :
    Sharing others kept
      { f with store := s, device := { f.device with slots := f.device.slots.set block (some r) } }
      { g with device := { g.device with slots := g.device.slots.set block (some b) } } where
  seen := by
    obtain rfl := h.seen
    have before : f.device.plain s = f.device.plain f.store :=
      Device.plain_congr fun t ht => old t (h.refs_pos ht)
    simp only [Device.plain, Device.mk.injEq] at before
    simp only [plain, Device.plain, BlockStore.look_set, Option.bind_some, new, before]
  counts t := by
    have total := h.counts t
    have slot := holds_setSlot hx r t
    have store := counts t
    dsimp only at slot ⊢
    omega
  kept {t} ht := by
    have total := h.counts t
    rw [old t (by omega), h.kept ht]

/-- A block that was never written is allocated. -/
theorem allocate (cfg : Config) {block : Nat} (h : Sharing others kept f g)
    (hx : f.device.slots[block]? = some none) :
    ResultsAgree (Owned others kept block) (Sharing others kept)
      ((Flash.allocate cfg block).run f) ((Flash.allocate cfg block).run g) := by
  obtain rfl := h.seen
  by_cases bits : cfg.geometry.blockBits = 0
  · simp only [Flash.allocate, drawBelow, bits]
    exact ⟨rfl, h⟩
  have drawn : Sharing others kept (f.reseed f.device.generator.next.2)
      (f.plain.reseed f.device.generator.next.2) := h.of_device rfl rfl rfl rfl
  simp only [Flash.allocate, EStateM.run_bind, run_drawBelow bits]
  split
  · exact ⟨rfl, drawn⟩
  · have fresh : refs f.store f.store.cells.size = 0 := Counted.refs_eq_zero (Nat.le_refl _)
    have alloc := Counted.refs_alloc f.store
    have kept := Counted.contents_alloc f.store
    -- the new block has one holder, and the blocks that are held stay as they are
    refine ⟨rfl, drawn.setSlot hx ((kept ..).trans (if_pos rfl)) (fun t => ?_) fun t ht => ?_,
      f.store.cells.size, ?_, (alloc ..).trans (if_pos rfl), (kept ..).trans (if_pos rfl)⟩
    · refine (congrArg (· + _) (alloc ..)).trans ?_
      by_cases ht : t = f.store.cells.size
      · subst ht
        simp [reseed, fresh]
      · simp [reseed, ht, Ne.symm ht]
    · refine (kept ..).trans (if_neg ?_)
      rintro rfl
      exact Nat.lt_irrefl 0 (fresh ▸ ht)
    · exact List.getElem?_set_self (List.getElem?_eq_some_iff.1 hx).1

/-- A shared block is left to the others who hold it. -/
theorem duplicate {block r : Nat} {b : Block} (h : Sharing others kept f g)
    (hx : f.device.slots[block]? = some (some r)) (hb : contents f.store r = some b)
    (shared : refs f.store r ≠ 1) :
    ∃ f', (Flash.duplicate block r b).run f = .ok () f' ∧ Owned others kept block b f' g := by
  have fresh : refs f.store f.store.cells.size = 0 := Counted.refs_eq_zero (Nat.le_refl _)
  have held := h.refs_pos (holds_pos (List.mem_of_getElem? hx))
  have distinct : r ≠ f.store.cells.size := by
    rintro rfl
    omega
  have counts (t : Nat) : refs ((f.store.alloc b).2.release r) t =
      (if t = f.store.cells.size then 1 else refs f.store t) - if t = r then 1 else 0 := by
    rw [Counted.refs_release, Counted.refs_alloc]
  have blocks {t : Nat} (ht : 0 < refs ((f.store.alloc b).2.release r) t) :
      contents ((f.store.alloc b).2.release r) t =
        if t = f.store.cells.size then some b else contents f.store t := by
    rw [Counted.contents_release ht, Counted.contents_alloc]
  have twin : refs ((f.store.alloc b).2.release r) f.store.cells.size = 1 := by
    rw [counts, if_pos rfl, if_neg (Ne.symm distinct)]
  have twin' : contents ((f.store.alloc b).2.release r) f.store.cells.size = some b := by
    rw [blocks (by omega), if_pos rfl]
  -- the twin holds what the shared block holds, so nothing is seen of it
  have stays : g.device.slots.set block (some b) = g.device.slots := by
    have seen : g.device.slots[block]? = some (some b) := by
      rw [h.seen, plain, Device.plain, BlockStore.getElem?_look, hx]
      exact congrArg some hb
    obtain ⟨hlt, hget⟩ := List.getElem?_eq_some_iff.1 seen
    rw [← hget, List.set_getElem_self]
  refine ⟨_, rfl, ?_, f.store.cells.size, ?_, twin, twin'⟩
  · have set := h.setSlot hx twin' (fun t => ?_) fun t ht => ?_
    · rwa [stays] at set
    · -- the new block gains a holder, and the shared one loses a holder
      rw [counts]
      by_cases ht : t = f.store.cells.size
      · subst ht
        simp [fresh, distinct, Ne.symm distinct]
      · by_cases htr : t = r
        · subst htr
          simp [ht, Ne.symm ht]
          omega
        · simp [ht, htr, Ne.symm ht, Ne.symm htr]
    · -- whatever was held still is, as the shared block has another holder
      have notFresh : t ≠ f.store.cells.size := by
        rintro rfl
        omega
      rw [blocks, if_neg notFresh]
      rw [counts, if_neg notFresh]
      split
      · next htr =>
        subst htr
        omega
      · omega
  · exact List.getElem?_set_self (List.getElem?_eq_some_iff.1 hx).1

/-- A block that has one holder is referred to nowhere else. -/
theorem unique {block r : Nat} (h : Sharing others kept f g)
    (hr : f.device.slots[block]? = some (some r)) (one : refs f.store r = 1) :
    others r = 0 ∧ (∀ i, f.device.slots[i]? = some (some r) → i = block) ∧
      ∀ before, f.device.synced = some before → some r ∉ before :=
  Device.unique hr ((h.counts r).symm.trans one)

/-- A block that one slot refers to is changed in the table by a change in the store. -/
theorem look_replace {s : Counted} {slots : Slots Nat} {block r : Nat} {b c : Block}
    (hr : slots[block]? = some (some r)) (hb : contents s r = some b)
    (only : ∀ i, slots[i]? = some (some r) → i = block) :
    BlockStore.look (s.replace r c) slots = (BlockStore.look s slots).set block (some c) := by
  refine List.ext_getElem? fun i => ?_
  by_cases hi : i = block
  · subst hi
    have inside := (List.getElem?_eq_some_iff.1 hr).1
    rw [List.getElem?_set_self (by simpa using inside), BlockStore.getElem?_look, hr]
    simp [Counted.contents_replace, hb]
  · rw [List.getElem?_set_ne (Ne.symm hi), BlockStore.getElem?_look, BlockStore.getElem?_look]
    cases hx : slots[i]? with
    | none => rfl
    | some x =>
      cases x with
      | none => rfl
      | some t =>
        have distinct : t ≠ r := by
          rintro rfl
          exact hi (only i hx)
        have elsewhere : contents (s.replace r c) t = contents s t := by
          rw [Counted.contents_replace, if_neg distinct]
        exact congrArg some elsewhere

/-- A block that has one holder is changed in place. -/
theorem put {block : Nat} {b c : Block} (h : Owned others kept block b f g) :
    ResultsAgree (fun _ => Sharing others kept) (Sharing others kept)
      ((Flash.put block c).run f) ((Flash.put block c).run g) := by
  obtain ⟨h, r, hr, one, hb⟩ := h
  obtain ⟨noOther, onlySlot, notSynced⟩ := h.unique hr one
  obtain ⟨hlt, hget⟩ := List.getElem?_eq_some_iff.1 hr
  obtain rfl := h.seen
  have elsewhere {t : Nat} (ht : t ≠ r) :
      contents (f.store.replace r c) t = contents f.store t := by
    rw [Counted.contents_replace, if_neg ht]
  -- the change is seen at one slot, and not in what was synced
  have slots : BlockStore.look (f.store.replace r c) f.device.slots =
      (BlockStore.look f.store f.device.slots).set block (some c) :=
    look_replace hr hb onlySlot
  have synced : f.device.synced.map (BlockStore.look (f.store.replace r c)) =
      f.device.synced.map (BlockStore.look f.store) := by
    cases hs : f.device.synced with
    | none => rfl
    | some before =>
      refine congrArg some (BlockStore.look_congr fun t ht => elsewhere ?_)
      rintro rfl
      exact notSynced before hs ht
  have run : (Flash.put block c).run f = .ok () { f with store := f.store.replace r c } := by
    have stays : f.device.slots.set block (some r) = f.device.slots := by
      rw [← hget, List.set_getElem_self]
    simp only [Flash.put, EStateM.run_bind, run_slot, hr, EStateM.run_get, Counted.replace_eq]
    exact congrArg (fun s => EStateM.Result.ok () (Flash.mk _ _ { f.device with slots := s })) stays
  have run' : (Flash.put block c).run f.plain = .ok () { f.plain with
      device := { f.plain.device with slots := f.plain.device.slots.set block (some c) } } := by
    have seen : f.plain.device.slots[block]? = some (some b) := by
      rw [plain, Device.plain, BlockStore.getElem?_look, hr]
      exact congrArg some hb
    simp only [Flash.put, EStateM.run_bind, run_slot, seen]
    rfl
  rw [run, run']
  refine ⟨rfl, ?_, fun t => ?_, fun {t} ht => ?_⟩
  · simp only [plain, Device.plain, slots, synced]
  · exact (Counted.refs_replace ..).trans (h.counts t)
  · have distinct : t ≠ r := by
      rintro rfl
      omega
    exact (elsewhere distinct).trans (h.kept ht)

/-- Making a block the device's own is not seen. -/
theorem own (cfg : Config) (block : Nat) :
    Coupled (Sharing others kept) (Flash.own cfg block) (Flash.own cfg block)
      (Owned others kept block) (Sharing others kept) := by
  intro f g h
  obtain rfl := h.seen
  have seen : f.plain.device.slots[block]? = f.device.slots[block]?.map fun r =>
      r.bind (contents f.store) := BlockStore.getElem?_look ..
  cases hx : f.device.slots[block]? with
  | none =>
    rw [hx] at seen
    simp only [Flash.own, EStateM.run_bind, run_slot, hx, seen]
    exact ⟨rfl, h⟩
  | some x =>
    rw [hx] at seen
    cases x with
    | none =>
      have allocated := h.allocate cfg hx
      simp only [Flash.own, EStateM.run_bind, run_slot, hx, seen]
      exact allocated
    | some r =>
      obtain ⟨b, hb⟩ := Option.isSome_iff_exists.1
        (h.isSome_contents (holds_pos (List.mem_of_getElem? hx)))
      have seen' : f.plain.device.slots[block]? = some (some b) := seen.trans (congrArg some hb)
      have run' : (Flash.own cfg block).run f.plain = .ok b f.plain := by
        simp only [Flash.own, EStateM.run_bind, run_slot, seen', run_deref, Plain.contents_eq]
        rfl
      rw [run']
      by_cases one : refs f.store r = 1
      · -- the block is the device's own already
        have run : (Flash.own cfg block).run f = .ok b f := by
          simp only [Flash.own, EStateM.run_bind, run_slot, hx, run_deref, hb, EStateM.run_get, one,
            if_true]
          rfl
        rw [run]
        exact ⟨rfl, h, r, hx, one, hb⟩
      · -- the block is shared, and the device makes a twin of its own
        obtain ⟨f', twin, owned⟩ := h.duplicate hx hb one
        have run : (Flash.own cfg block).run f = .ok b f' := by
          simp only [Flash.own, EStateM.run_bind, run_slot, hx, run_deref, hb, EStateM.run_get, one,
            if_false, twin]
          rfl
        rw [run]
        exact ⟨rfl, owned⟩

/-! ## Whole tables -/

/-- The blocks of the table `new` come to be held once more, and those of `old` once less, by a
device `d` and anyone else. Whatever is held afterwards is still the same block. -/
theorem exchange {others' : Nat → Nat} {d : Device Nat} {new old : Slots Nat}
    (h : Sharing others kept f g) (live : ∀ r, some r ∈ new → 0 < refs f.store r)
    (holds : ∀ r, d.holds r + others' r + old.count (some r) =
      f.device.holds r + others r + new.count (some r))
    (fewer : ∀ r, 0 < others' r → 0 < others r) :
    Sharing others' kept ⟨releaseAll (retainAll f.store new) old, f.image, d⟩
      ⟨{}, f.image, d.plain f.store⟩ := by
  have counts (t : Nat) :
      refs (releaseAll (retainAll f.store new) old) t = d.holds t + others' t := by
    have kept : ∀ r, some r ∈ new → (contents f.store r).isSome := fun r hr =>
      Counted.isSome_contents (live r hr)
    rw [Counted.refs_releaseAll, Counted.refs_retainAll kept, h.counts]
    have := holds t
    omega
  have blocks {t : Nat} (ht : 0 < d.holds t + others' t) :
      contents (releaseAll (retainAll f.store new) old) t = contents f.store t := by
    rw [← counts] at ht
    rw [Counted.contents_releaseAll ht, Counted.contents_retainAll]
  refine ⟨?_, counts, fun {t} ht => ?_⟩
  · have same : d.plain _ = d.plain f.store :=
      Device.plain_congr fun t ht => blocks (Nat.add_pos_left ht _)
    exact congrArg (Flash.mk _ _) same.symm
  · exact (blocks (Nat.add_pos_right _ ht)).trans (h.kept (fewer t ht))

theorem sync : Preserves (Sharing others kept) Flash.sync Flash.sync := by
  intro f g h
  obtain rfl := h.seen
  cases hs : f.device.synced with
  | none =>
    have hs' : f.plain.device.synced = none := congrArg (Option.map _) hs
    simp only [Flash.sync, EStateM.run_bind, EStateM.run_get, hs, hs']
    exact ⟨rfl, h⟩
  | some old =>
    have hs' : f.plain.device.synced = some (BlockStore.look f.store old) :=
      congrArg (Option.map _) hs
    simp only [Flash.sync, EStateM.run_bind, EStateM.run_get, hs, hs']
    refine ⟨rfl, h.exchange (d := { f.device with synced := some f.device.slots })
      (fun r hr => h.refs_pos (holds_pos hr)) (fun r => ?_) fun _ => id⟩
    simp only [Device.holds, hs, Option.getD_some]
    omega

theorem adopt (h : Sharing others kept f g) {new : Slots Nat}
    (live : ∀ r, some r ∈ new → 0 < refs f.store r) :
    ResultsAgree (fun _ => Sharing others kept) (Sharing others kept)
      ((Flash.adopt new).run f) ((Flash.adopt (BlockStore.look f.store new)).run g) := by
  obtain rfl := h.seen
  refine ⟨rfl, h.exchange (d := { f.device with slots := new }) live (fun r => ?_) fun _ => id⟩
  simp only [Device.holds]
  omega

theorem rollBack (h : Sharing others kept f g) {s : Slots Nat} {t : Slots Block} (block : Nat)
    (hs : f.device.synced = some s) (ht : g.device.synced = some t) :
    ResultsAgree (fun _ => Sharing others kept) (Sharing others kept)
      ((Flash.rollBack s block).run f) ((Flash.rollBack t block).run g) := by
  obtain rfl := h.seen
  have seen : t = BlockStore.look f.store s := by
    have hs' : f.plain.device.synced = some (BlockStore.look f.store s) :=
      congrArg (Option.map _) hs
    exact Option.some.inj (ht.symm.trans hs')
  have slot : f.plain.device.slots[block]? = f.device.slots[block]?.map fun r =>
      r.bind (contents f.store) := BlockStore.getElem?_look ..
  have reach : t.length ≠ f.plain.device.slots.length ↔ s.length ≠ f.device.slots.length := by
    rw [seen, plain, Device.plain, BlockStore.length_look, BlockStore.length_look]
  simp only [Flash.rollBack, EStateM.run_bind, EStateM.run_get]
  by_cases beyond : s.length ≠ f.device.slots.length
  · rw [if_pos beyond, if_pos (reach.2 beyond), seen, BlockStore.length_look]
    exact ⟨rfl, h⟩
  · rw [if_neg beyond, if_neg fun hne => beyond (reach.1 hne)]
    cases hx : f.device.slots[block]? with
    | none =>
      rw [hx] at slot
      simp only [EStateM.run_bind, run_slot, hx, slot]
      exact ⟨rfl, h⟩
    | some x =>
      rw [hx] at slot
      simp only [EStateM.run_bind, run_slot, hx, slot, seen, Option.map_some]
      rw [← BlockStore.look_set]
      -- the table that is taken over has slots of the last sync, and one of the device
      refine h.adopt fun r hr => h.refs_pos ?_
      rcases List.mem_or_eq_of_mem_set hr with mem | rfl
      · exact holds_synced_pos hs mem
      · exact holds_pos (List.mem_of_getElem? hx)

/-- Devices that share blocks are in lockstep with devices that have blocks of their own. -/
theorem lockstep (cfg : Config) (others : Nat → Nat) (kept : Nat → Option Block) :
    TimedLockstep cfg (Sharing others kept) (Owned others kept) where
  look block h := h.look block
  own block := own cfg block
  put _ _ _ _ := fun _ _ h => put h
  of_owned h := h.1
  generator h := by rw [h.seen]; rfl
  reseed x h := by
    obtain rfl := h.seen
    exact h.of_device rfl rfl rfl rfl
  reseed_owned x h := by
    obtain ⟨h, owned⟩ := h
    obtain rfl := h.seen
    exact ⟨h.of_device rfl rfl rfl rfl, owned⟩
  image h := by rw [h.seen]; rfl
  write size block off data h hi hj := by
    obtain rfl := h.seen
    obtain rfl : _ = _ := Option.some.inj (hi.symm.trans hj)
    exact h.of_device rfl rfl rfl rfl
  tally c n h := by
    obtain rfl := h.seen
    cases c <;> exact h.of_device rfl rfl rfl rfl
  sync := sync
  countdown h := by rw [h.seen]; rfl
  rearm n h := by
    obtain rfl := h.seen
    exact h.of_device rfl rfl rfl rfl
  synced h := by
    rw [h.seen, plain, Device.plain, Option.isSome_map]
  rollBack block h hs ht := h.rollBack block hs ht

/-- A table that was set aside is taken over from who held it. -/
theorem restore {cfg : Config} {slots : Slots Nat} (generator : Generator)
    (h : Sharing (fun r => others r + slots.count (some r)) kept f g) :
    ResultsAgree (fun _ => Sharing others kept) (Sharing others kept)
      ((Flash.restore cfg slots generator).run f)
      ((Flash.restore cfg (BlockStore.look f.store slots) generator).run g) := by
  obtain rfl := h.seen
  -- the table passes from others to the device, so nothing is retained for it
  have taken : Sharing others kept
      ⟨releaseAll (retainAll f.store []) f.device.slots, f.image,
        { f.device with slots := slots, generator := generator }⟩ ⟨{}, f.image, _⟩ :=
    h.exchange (fun r hr => absurd hr List.not_mem_nil)
      (fun r => by simp only [Device.holds, List.count_nil]; omega) fun r hr => by omega
  exact (lockstep cfg others kept).saveAll _ _ taken

end Sharing

end Flash

end FaultyFlash
