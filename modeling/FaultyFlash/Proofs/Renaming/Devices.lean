import Mathlib.Data.List.Count
import Mathlib.Data.Option.Basic
import Mathlib.Tactic.SplitIfs
import FaultyFlash.Proofs.Sharing.Devices

/-!
# Names of blocks

The numbers by which a store knows its blocks are told to nobody. So a device answers as another one
whose blocks go by other names, if these names stand for the same blocks, and for as many holders.

The store of the first device may count some holders more, as for a state that is set aside. Then a
block that is the device's own on one side may be shared on the other, where it is duplicated before
it is changed. From then on it goes by the name of the duplicate.

## Main definitions

* `Slots.rename`, `Device.rename`: a table, a device with other names
* `Counted.Renamed extra σ`: the blocks of a store go by other names in another
* `Counted.twinned`: the names after a block was duplicated on one side
* `Flash.Renamed others extra σ`: so do the blocks of a device
* `Flash.Alias others extra σ`: so they do by names that agree with `σ` where others hold a block

## Main results

* `Counted.Renamed.twin`: a block that is shared on one side only gets a new name
* `Flash.Alias.lockstep`: operations on a device are the same under all names
* `Flash.Alias.beside`, `Flash.Alias.apart`: a table of one device is set aside, and given up
-/

namespace FaultyFlash

open BlockStore (refs contents retainAll releaseAll)

variable {σ τ : Nat → Nat}

/-- A table in which all blocks go by other names. -/
def Slots.rename (σ : Nat → Nat) (slots : Slots Nat) : Slots Nat :=
  slots.map (Option.map σ)

namespace Slots

variable {slots : Slots Nat}

@[simp] theorem length_rename (σ : Nat → Nat) (slots : Slots Nat) :
    (slots.rename σ).length = slots.length :=
  List.length_map _

theorem getElem?_rename (σ : Nat → Nat) (slots : Slots Nat) (i : Nat) :
    (slots.rename σ)[i]? = slots[i]?.map (Option.map σ) :=
  List.getElem?_map

theorem rename_set (σ : Nat → Nat) (slots : Slots Nat) (i : Nat) (x : Option Nat) :
    Slots.rename σ (slots.set i x) = (slots.rename σ).set i (x.map σ) :=
  List.map_set

/-- A table refers to a block as often under its other name. -/
theorem count_rename (distinct : Function.Injective σ) (slots : Slots Nat) (r : Nat) :
    (slots.rename σ).count (some (σ r)) = slots.count (some r) :=
  List.count_map_of_injective slots (Option.map σ) (Option.map_injective distinct) (some r)

theorem mem_rename {q : Nat} (h : some q ∈ slots.rename σ) : ∃ r, some r ∈ slots ∧ σ r = q := by
  obtain ⟨x, hx, named⟩ := List.mem_map.1 h
  obtain ⟨r, rfl, hr⟩ := Option.map_eq_some_iff.1 named
  exact ⟨r, hx, hr⟩

theorem rename_congr (h : ∀ r, some r ∈ slots → σ r = τ r) : slots.rename σ = slots.rename τ := by
  refine List.map_congr_left fun x hx => ?_
  cases x with
  | none => rfl
  | some r => exact congrArg some (h r hx)

/-- A table looks the same in stores that keep the same blocks for it. -/
theorem look_rename {s t : Counted} (h : ∀ r, some r ∈ slots → contents s (σ r) = contents t r) :
    BlockStore.look s (slots.rename σ) = BlockStore.look t slots := by
  rw [BlockStore.look, rename, List.map_map]
  refine List.map_congr_left fun x hx => ?_
  cases x with
  | none => rfl
  | some r => exact h r hx

end Slots

/-- A device all of whose blocks go by other names. -/
def Device.rename (σ : Nat → Nat) (d : Device Nat) : Device Nat :=
  { d with slots := d.slots.rename σ, synced := d.synced.map (Slots.rename σ) }

namespace Device

variable {d : Device Nat}

theorem synced_rename (σ : Nat → Nat) (d : Device Nat) :
    (d.rename σ).synced.getD [] = (d.synced.getD []).rename σ := by
  simp only [rename]
  cases d.synced <;> rfl

theorem rename_congr (h : ∀ r, 0 < d.holds r → σ r = τ r) : d.rename σ = d.rename τ := by
  have slots : d.slots.rename σ = d.slots.rename τ :=
    Slots.rename_congr fun r hr => h r (holds_pos hr)
  have synced : d.synced.map (Slots.rename σ) = d.synced.map (Slots.rename τ) := by
    cases hs : d.synced with
    | none => rfl
    | some before =>
      exact congrArg some (Slots.rename_congr fun r hr => h r (holds_synced_pos hs hr))
  simp only [rename, slots, synced]

theorem plain_rename {s t : Counted} (h : ∀ r, 0 < d.holds r → contents s (σ r) = contents t r) :
    (d.rename σ).plain s = d.plain t := by
  have slots : BlockStore.look s (d.slots.rename σ) = BlockStore.look t d.slots :=
    Slots.look_rename fun r hr => h r (holds_pos hr)
  have synced : (d.synced.map (Slots.rename σ)).map (BlockStore.look s) =
      d.synced.map (BlockStore.look t) := by
    cases hs : d.synced with
    | none => rfl
    | some before =>
      exact congrArg some (Slots.look_rename fun r hr => h r (holds_synced_pos hs hr))
  simp only [plain, rename, slots, synced]

end Device

/-! ## Stores -/

/-- The blocks of the store `t` go by other names in `s`. There they are the same blocks, with as
many holders and some `extra` ones. -/
structure Counted.Renamed (extra : Nat → Nat) (σ : Nat → Nat) (s t : Counted) : Prop where
  distinct : Function.Injective σ
  /-- New blocks get new names in turn. -/
  fresh (j : Nat) : σ (t.cells.size + j) = s.cells.size + j
  holders (r : Nat) : refs s (σ r) = refs t r + extra (σ r)
  blocks {r : Nat} (h : 0 < refs t r) : contents s (σ r) = contents t r

/-- The names after the block `r` was duplicated under the name `n`, where `m` blocks had names. The
names of blocks to come are one further on, as there is one block more on the one side. -/
def Counted.twinned (σ : Nat → Nat) (m n r q : Nat) : Nat :=
  if q = r then n else if q < m then σ q else σ q + 1

namespace Counted.Renamed

variable {extra : Nat → Nat} {s t : Counted} {r : Nat} {slots : Slots Nat}

theorem refl (s : Counted) : Renamed (fun _ => 0) (fun r => r) s s :=
  ⟨fun _ _ => id, fun _ => rfl, fun _ => rfl, fun _ => rfl⟩

theorem fresh_iff (h : Renamed extra σ s t) : σ r = s.cells.size ↔ r = t.cells.size := by
  rw [← Nat.add_zero s.cells.size, ← h.fresh 0, Nat.add_zero]
  exact h.distinct.eq_iff

/-- New names are held by nobody else. -/
theorem extra_fresh (h : Renamed extra σ s t) (j : Nat) : extra (s.cells.size + j) = 0 := by
  have holders := h.holders (t.cells.size + j)
  rw [h.fresh, refs_eq_zero (Nat.le_add_right _ j)] at holders
  omega

/-- The names of old blocks are old, and those of new ones are new. -/
theorem lt_size_iff (h : Renamed extra σ s t) : σ r < s.cells.size ↔ r < t.cells.size := by
  constructor
  · intro old
    refine Nat.not_le.1 fun new => ?_
    obtain ⟨j, rfl⟩ := Nat.exists_eq_add_of_le new
    rw [h.fresh] at old
    omega
  · intro old
    refine Nat.not_le.1 fun new => ?_
    obtain ⟨j, hj⟩ := Nat.exists_eq_add_of_le new
    have same := h.distinct (hj.trans (h.fresh j).symm)
    omega

theorem alloc (h : Renamed extra σ s t) (b : Block) :
    Renamed extra σ (s.alloc b).2 (t.alloc b).2 where
  distinct := h.distinct
  fresh j := by
    have next := h.fresh (1 + j)
    simp only [size_alloc]
    rwa [← Nat.add_assoc, ← Nat.add_assoc] at next
  holders r := by
    rw [refs_alloc, refs_alloc]
    by_cases new : r = t.cells.size
    · rw [if_pos (h.fresh_iff.2 new), if_pos new, h.fresh_iff.2 new]
      exact congrArg (1 + ·) (h.extra_fresh 0).symm
    · rw [if_neg (fun same => new (h.fresh_iff.1 same)), if_neg new]
      exact h.holders r
  blocks {r} hr := by
    rw [refs_alloc] at hr
    rw [contents_alloc, contents_alloc]
    by_cases new : r = t.cells.size
    · rw [if_pos (h.fresh_iff.2 new), if_pos new]
    · rw [if_neg new] at hr
      rw [if_neg (fun same => new (h.fresh_iff.1 same)), if_neg new]
      exact h.blocks hr

theorem replace (h : Renamed extra σ s t) (r : Nat) (b : Block) :
    Renamed extra σ (s.replace (σ r) b) (t.replace r b) where
  distinct := h.distinct
  fresh := by
    show ∀ j, σ ((t.update r _).cells.size + j) = (s.update (σ r) _).cells.size + j
    simpa only [size_update] using h.fresh
  holders := by simpa only [refs_replace] using h.holders
  blocks {q} hq := by
    rw [refs_replace] at hq
    rw [contents_replace, contents_replace, h.blocks hq]
    simp only [h.distinct.eq_iff]

/-- The blocks of a table are kept under both names. -/
theorem isSome_contents (h : Renamed extra σ s t) (live : ∀ r, some r ∈ slots → 0 < refs t r) :
    ∀ q, some q ∈ slots.rename σ → (contents s q).isSome := by
  intro q hq
  obtain ⟨r, hr, rfl⟩ := Slots.mem_rename hq
  rw [h.blocks (live r hr)]
  exact Counted.isSome_contents (live r hr)

/-- The blocks of a table are held once more on both sides. -/
theorem retainAll (h : Renamed extra σ s t) (slots : Slots Nat)
    (live : ∀ r, some r ∈ slots → 0 < refs t r) :
    Renamed extra σ (retainAll s (slots.rename σ)) (retainAll t slots) := by
  have kept : ∀ r, some r ∈ slots → (contents t r).isSome := fun r hr =>
    Counted.isSome_contents (live r hr)
  refine ⟨h.distinct, by simpa using h.fresh, fun r => ?_, fun {r} hr => ?_⟩
  · rw [refs_retainAll (h.isSome_contents live), refs_retainAll kept,
      Slots.count_rename h.distinct, h.holders, Nat.add_right_comm]
  · rw [contents_retainAll, contents_retainAll]
    rw [refs_retainAll kept] at hr
    by_cases member : some r ∈ slots
    · exact h.blocks (live r member)
    · rw [List.count_eq_zero_of_not_mem member] at hr
      exact h.blocks hr

/-- The blocks of a table are held once less on both sides. -/
theorem releaseAll (h : Renamed extra σ s t) (slots : Slots Nat)
    (held : ∀ r, slots.count (some r) ≤ refs t r) :
    Renamed extra σ (releaseAll s (slots.rename σ)) (releaseAll t slots) := by
  have holders (r : Nat) : refs (BlockStore.releaseAll s (slots.rename σ)) (σ r) =
      refs (BlockStore.releaseAll t slots) r + extra (σ r) := by
    have before := held r
    rw [refs_releaseAll, refs_releaseAll, Slots.count_rename h.distinct, h.holders]
    omega
  refine ⟨h.distinct, by simpa using h.fresh, holders, fun {r} hr => ?_⟩
  rw [contents_releaseAll hr, contents_releaseAll (holders r ▸ Nat.add_pos_left hr _)]
  rw [refs_releaseAll] at hr
  exact h.blocks (by omega)

/-- The blocks of a table are held once more on one side. -/
theorem beside (h : Renamed (fun _ => 0) σ s t) (slots : Slots Nat)
    (live : ∀ r, some r ∈ slots → 0 < refs t r) :
    Renamed (fun q => (slots.rename σ).count (some q)) σ
      (BlockStore.retainAll s (slots.rename σ)) t where
  distinct := h.distinct
  fresh := by simpa using h.fresh
  holders r := by rw [refs_retainAll (h.isSome_contents live), h.holders, Nat.add_zero]
  blocks hr := by
    rw [contents_retainAll]
    exact h.blocks hr

/-- They are given up there. -/
theorem apart {aside : Slots Nat} (h : Renamed (fun q => aside.count (some q)) σ s t) :
    Renamed (fun _ => 0) σ (BlockStore.releaseAll s aside) t := by
  have holders (r : Nat) : refs (BlockStore.releaseAll s aside) (σ r) = refs t r := by
    rw [refs_releaseAll, h.holders, Nat.add_sub_cancel]
  refine ⟨h.distinct, by simpa using h.fresh, holders, fun {r} hr => ?_⟩
  rw [contents_releaseAll (by rwa [holders]), h.blocks hr]

/-! ### Duplicates -/

theorem twinned_self (σ : Nat → Nat) (m n r : Nat) : twinned σ m n r r = n := if_pos rfl

theorem twinned_old {m n q : Nat} (old : q < m) (other : q ≠ r) : twinned σ m n r q = σ q := by
  rw [twinned, if_neg other, if_pos old]

theorem twinned_new (h : Renamed extra σ s t) (old : r < t.cells.size) (j : Nat) :
    twinned σ t.cells.size s.cells.size r (t.cells.size + j) = s.cells.size + (j + 1) := by
  rw [twinned, if_neg (by omega), if_neg (by omega), h.fresh, Nat.add_assoc]

theorem twinned_injective (h : Renamed extra σ s t) :
    Function.Injective (twinned σ t.cells.size s.cells.size r) := by
  intro p q same
  have hp := h.lt_size_iff (r := p)
  have hq := h.lt_size_iff (r := q)
  unfold twinned at same
  -- old names, the name of the duplicate and names of blocks to come lie apart from each other
  split_ifs at same
  all_goals first | omega | exact h.distinct (by omega)

/-- The duplicate has one holder, and what it was made of has one holder less. -/
theorem holders_twinned (h : Renamed extra σ s t) (one : refs t r = 1) (b : Block) (q : Nat) :
    refs ((s.alloc b).2.release (σ r)) (twinned σ t.cells.size s.cells.size r q) =
      refs t q + extra (twinned σ t.cells.size s.cells.size r q) := by
  have old : r < t.cells.size := lt_size (by omega)
  have before := h.lt_size_iff.2 old
  rw [refs_release, refs_alloc]
  by_cases here : q = r
  · subst here
    rw [twinned_self, if_pos rfl, if_neg (by omega), one]
    exact congrArg (1 + ·) (h.extra_fresh 0).symm
  by_cases kept : q < t.cells.size
  · have before := h.lt_size_iff.2 kept
    rw [twinned_old kept here, if_neg (by omega), if_neg fun clash => here (h.distinct clash)]
    exact h.holders q
  · obtain ⟨j, rfl⟩ := Nat.exists_eq_add_of_le (Nat.not_lt.1 kept)
    rw [h.twinned_new old, if_neg (by omega), if_neg (by omega), refs_eq_zero (by omega),
      refs_eq_zero (by omega), h.extra_fresh]

/-- A block that has one holder on one side, and more on the other, is duplicated there, and gets
the name of the duplicate. All other blocks keep their names. -/
theorem twin (h : Renamed extra σ s t) {b : Block} (one : refs t r = 1)
    (hb : contents t r = some b) :
    ∃ τ, τ r = s.cells.size ∧ (∀ q, 0 < refs t q → q ≠ r → τ q = σ q) ∧
      Renamed extra τ ((s.alloc b).2.release (σ r)) t := by
  have old : r < t.cells.size := lt_size (by omega)
  refine ⟨twinned σ t.cells.size s.cells.size r, twinned_self .., fun q hq =>
    twinned_old (lt_size hq), h.twinned_injective, fun j => ?_, h.holders_twinned one b,
    fun {q} hq => ?_⟩
  · show _ = (Counted.update _ _ _).cells.size + j
    rw [h.twinned_new old, size_update, size_alloc]
    omega
  · have held := h.holders_twinned one b q
    rw [contents_release (by omega), contents_alloc]
    by_cases here : q = r
    · rw [here, twinned_self, if_pos rfl, hb]
    · have kept := lt_size hq
      have before := h.lt_size_iff.2 kept
      rw [twinned_old kept here, if_neg (by omega)]
      exact h.blocks hq

end Counted.Renamed

/-! ## Devices -/

namespace Flash

open Device (holds_pos holds_synced_pos holds_setSlot)

/-- The blocks of the device `g` go by other names in `f`. In `g` they are held by the device, and
by `others`. -/
structure Renamed (others extra : Nat → Nat) (σ : Nat → Nat) (f g : Flash Counted Nat) :
    Prop where
  store : Counted.Renamed extra σ f.store g.store
  device : f.device = g.device.rename σ
  image : f.image = g.image
  counts (r : Nat) : refs g.store r = g.device.holds r + others r

/-- So they do by names that agree with `σ` where others hold a block. -/
def Alias (others extra : Nat → Nat) (σ : Nat → Nat) (f g : Flash Counted Nat) : Prop :=
  ∃ τ, (∀ r, 0 < others r → τ r = σ r) ∧ Renamed others extra τ f g

/-- Besides, the device refers to a block at an address. -/
def Alias.Filled (others extra : Nat → Nat) (σ : Nat → Nat) (block : Nat)
    (f g : Flash Counted Nat) : Prop :=
  Alias others extra σ f g ∧ ∃ r, g.device.slots[block]? = some (some r)

namespace Renamed

variable {others extra : Nat → Nat} {f g f' g' : Flash Counted Nat} {block r : Nat}

/-- A block that is referred to is held by someone. -/
theorem refs_pos (h : Renamed others extra σ f g) (hr : 0 < g.device.holds r) :
    0 < refs g.store r := by
  rw [h.counts]
  omega

theorem slot (h : Renamed others extra σ f g) (block : Nat) :
    f.device.slots[block]? = g.device.slots[block]?.map (Option.map σ) := by
  rw [h.device]
  exact Slots.getElem?_rename σ g.device.slots block

theorem synced (h : Renamed others extra σ f g) :
    f.device.synced = g.device.synced.map (Slots.rename σ) := by
  rw [h.device]
  rfl

/-- A block stored at an address is referred to under both names. -/
theorem stored (h : Renamed others extra σ f g) (hx : g.device.slots[block]? = some (some r)) :
    f.device.slots[block]? = some (some (σ r)) ∧ ∃ b, contents g.store r = some b ∧
      contents f.store (σ r) = some b := by
  have held := h.refs_pos (holds_pos (List.mem_of_getElem? hx))
  obtain ⟨b, hb⟩ := Option.isSome_iff_exists.1 (Counted.isSome_contents held)
  exact ⟨by rw [h.slot, hx]; rfl, b, hb, (h.store.blocks held).trans hb⟩

/-- A change that touches neither blocks nor references. -/
theorem of_device (h : Renamed others extra σ f g) (device : f'.device = g'.device.rename σ)
    (image : f'.image = g'.image) (store : f'.store = f.store) (store' : g'.store = g.store)
    (slots : g'.device.slots = g.device.slots) (synced : g'.device.synced = g.device.synced) :
    Renamed others extra σ f' g' where
  store := by
    rw [store, store']
    exact h.store
  device := device
  image := image
  counts r := by rw [store', h.counts, Device.holds, Device.holds, slots, synced]

/-- A slot comes to refer to another block. -/
theorem setSlot (h : Renamed others extra σ f g) {x : Option Nat}
    (hx : g.device.slots[block]? = some x) {s t : Counted} (store : Counted.Renamed extra σ s t)
    (counts : ∀ q, refs t q + (if x = some q then 1 else 0) =
      refs g.store q + if r = q then 1 else 0) :
    Renamed others extra σ
      { f with
        store := s
        device := { f.device with slots := f.device.slots.set block (some (σ r)) } }
      { g with store := t, device := { g.device with slots := g.device.slots.set block (some r) } }
    where
  store := store
  device := by
    simp only [h.device, Device.rename, Slots.rename_set, Option.map_some]
  image := h.image
  counts q := by
    have total := h.counts q
    have slot := holds_setSlot hx r q
    have store := counts q
    dsimp only at slot ⊢
    omega

/-- Tables are exchanged. -/
theorem exchange (h : Renamed others extra σ f g) {others' : Nat → Nat} (d : Device Nat)
    (new old : Slots Nat) (live : ∀ r, some r ∈ new → 0 < refs g.store r)
    (holds : ∀ r, d.holds r + others' r + old.count (some r) =
      g.device.holds r + others r + new.count (some r)) :
    Renamed others' extra σ
      ⟨releaseAll (retainAll f.store (new.rename σ)) (old.rename σ), f.image, d.rename σ⟩
      ⟨releaseAll (retainAll g.store new) old, g.image, d⟩ := by
  have kept : ∀ r, some r ∈ new → (contents g.store r).isSome := fun r hr =>
    Counted.isSome_contents (live r hr)
  have counts (r : Nat) : refs (retainAll g.store new) r =
      d.holds r + others' r + old.count (some r) := by
    rw [Counted.refs_retainAll kept, h.counts, holds]
  refine ⟨(h.store.retainAll new live).releaseAll old fun r => ?_, rfl, h.image, fun r => ?_⟩
  · rw [counts]
    omega
  · rw [Counted.refs_releaseAll, counts, Nat.add_sub_cancel]

/-- A block that is the device's own on one side, and shared on the other, is duplicated there. All
blocks that others hold keep their names. -/
theorem twin (h : Renamed others extra σ f g) {b : Block}
    (hx : g.device.slots[block]? = some (some r)) (one : refs g.store r = 1)
    (hb : contents g.store r = some b) :
    ∃ τ, (∀ q, 0 < others q → τ q = σ q) ∧ Renamed others extra τ
      { f with
        store := (f.store.alloc b).2.release (σ r)
        device := { f.device with
          slots := f.device.slots.set block (some f.store.cells.size) } } g := by
  obtain ⟨alone, only, unsynced⟩ := Device.unique hx ((h.counts r).symm.trans one)
  obtain ⟨τ, named, same, store⟩ := h.store.twin one hb
  refine ⟨τ, fun q hq => same q ?_ ?_, store, ?_, h.image, h.counts⟩
  · rw [h.counts]
    omega
  · rintro rfl
    omega
  -- only the slot refers to the block, so no other name changes
  have slots : f.device.slots.set block (some f.store.cells.size) = g.device.slots.rename τ := by
    refine List.ext_getElem? fun i => ?_
    rw [Slots.getElem?_rename]
    by_cases here : i = block
    · subst here
      have slot := (h.stored hx).1
      rw [List.getElem?_set_self (List.getElem?_eq_some_iff.1 slot).1, hx, Option.map_some,
        Option.map_some, named]
    · rw [List.getElem?_set_ne (Ne.symm here), h.slot]
      rcases hi : g.device.slots[i]? with _ | _ | q
      · rfl
      · rfl
      · have other : q ≠ r := by
          rintro rfl
          exact here (only i hi)
        have live := h.refs_pos (holds_pos (List.mem_of_getElem? hi))
        simp only [Option.map_some, same q live other]
  have synced : g.device.synced.map (Slots.rename σ) = g.device.synced.map (Slots.rename τ) := by
    cases hs : g.device.synced with
    | none => rfl
    | some before =>
      refine congrArg some (Slots.rename_congr fun q hq => (same q ?_ ?_).symm)
      · exact h.refs_pos (holds_synced_pos hs hq)
      · rintro rfl
        exact unsynced before hs hq
  rw [slots, h.device]
  simp only [Device.rename, synced]

end Renamed

namespace Alias

variable {others extra : Nat → Nat} {f g : Flash Counted Nat} {cfg : Config} {block : Nat}

/-- A change that touches neither blocks nor references. -/
theorem of_device (h : Alias others extra σ f g) {f' g' : Flash Counted Nat}
    (device : ∀ τ, f.device = g.device.rename τ → f'.device = g'.device.rename τ)
    (image : f.image = g.image → f'.image = g'.image) (store : f'.store = f.store)
    (store' : g'.store = g.store) (slots : g'.device.slots = g.device.slots)
    (synced : g'.device.synced = g.device.synced) : Alias others extra σ f' g' := by
  obtain ⟨τ, same, h⟩ := h
  exact ⟨τ, same, h.of_device (device τ h.device) (image h.image) store store' slots synced⟩

/-- Other names are not seen. -/
theorem view (h : Alias others extra σ f g) : f.device.plain f.store = g.device.plain g.store := by
  obtain ⟨τ, -, h⟩ := h
  rw [h.device]
  exact Device.plain_rename fun r hr => h.store.blocks (h.refs_pos hr)

theorem image (h : Alias others extra σ f g) : f.image = g.image := by
  obtain ⟨τ, -, h⟩ := h
  exact h.image

theorem look (h : Alias others extra σ f g) (block : Nat) :
    ResultsAgree (fun _ s t => s = f ∧ t = g) (fun s t => s = f ∧ t = g)
      ((fetch block).run f) ((fetch block).run g) := by
  obtain ⟨τ, -, h⟩ := h
  have slot := h.slot block
  simp only [fetch, EStateM.run_bind, run_slot]
  rcases hx : g.device.slots[block]? with _ | _ | r <;> rw [hx] at slot <;> rw [slot]
  · exact ⟨rfl, rfl, rfl⟩
  · exact ⟨rfl, rfl, rfl⟩
  · obtain ⟨-, b, hb, hb'⟩ := h.stored hx
    simp only [Option.map_some, EStateM.run_bind, run_deref, hb, hb']
    exact ⟨rfl, rfl, rfl⟩

/-- A block that was never written is allocated. -/
theorem allocate (h : Alias others extra σ f g) (hx : g.device.slots[block]? = some none) :
    ResultsAgree (fun _ => Filled others extra σ block) (Alias others extra σ)
      ((Flash.allocate cfg block).run f) ((Flash.allocate cfg block).run g) := by
  obtain ⟨τ, same, h⟩ := h
  by_cases bits : cfg.geometry.blockBits = 0
  · simp only [Flash.allocate, drawBelow, bits]
    exact ⟨rfl, τ, same, h⟩
  have generator : f.device.generator = g.device.generator := by rw [h.device]; rfl
  have drawn : Renamed others extra τ (f.reseed g.device.generator.next.2)
      (g.reseed g.device.generator.next.2) :=
    h.of_device (by simp only [reseed, h.device]; rfl) h.image rfl rfl rfl rfl
  simp only [Flash.allocate, EStateM.run_bind, run_drawBelow bits, generator]
  by_cases full : Config.allocationLimit ≤ cfg.geometry.blockSize
  · rw [if_pos full]
    exact ⟨rfl, τ, same, drawn⟩
  · rw [if_neg full]
    have fresh : refs g.store g.store.cells.size = 0 := Counted.refs_eq_zero (Nat.le_refl _)
    -- the new block has one holder, under its new name
    let b := Block.fresh cfg.geometry.blockSize cfg.fill
      (g.device.generator.next.1.toNat % cfg.geometry.blockBits).toUInt32
    have set := drawn.setSlot (r := g.store.cells.size) hx (h.store.alloc b) fun q => by
      rw [Counted.refs_alloc]
      by_cases new : q = g.store.cells.size
      · subst new
        simp [reseed, fresh]
      · simp [reseed, new, Ne.symm new]
    rw [h.store.fresh_iff.2 rfl] at set
    exact ⟨rfl, ⟨τ, same, set⟩, _, List.getElem?_set_self (List.getElem?_eq_some_iff.1 hx).1⟩

/-- A block that is shared on both sides is duplicated on both. -/
theorem duplicate {τ : Nat → Nat} (same : ∀ r, 0 < others r → τ r = σ r)
    (h : Renamed others extra τ f g) {r : Nat} (hx : g.device.slots[block]? = some (some r))
    (b : Block) (shared : refs g.store r ≠ 1) :
    ResultsAgree (fun _ => Filled others extra σ block) (Alias others extra σ)
      ((Flash.duplicate block (τ r) b).run f) ((Flash.duplicate block r b).run g) := by
  have held := h.refs_pos (holds_pos (List.mem_of_getElem? hx))
  have fresh : refs g.store g.store.cells.size = 0 := Counted.refs_eq_zero (Nat.le_refl _)
  have store := (h.store.alloc b).releaseAll [some r] fun q => by
    rw [Counted.refs_alloc, List.count_singleton]
    by_cases here : r = q
    · subst here
      simp only [BEq.rfl, if_true]
      split <;> omega
    · simp [here]
  have set := h.setSlot (r := g.store.cells.size) hx store fun q => by
    show refs ((g.store.alloc b).2.release r) q + _ = _
    rw [Counted.refs_release, Counted.refs_alloc]
    by_cases new : q = g.store.cells.size
    · subst new
      have distinct : g.store.cells.size ≠ r := by
        rintro same
        rw [same] at fresh
        omega
      simp [fresh, distinct, Ne.symm distinct]
    · by_cases here : q = r
      · subst here
        simp [new, Ne.symm new]
        omega
      · simp [new, Ne.symm new, here, Ne.symm here]
  rw [h.store.fresh_iff.2 rfl] at set
  exact ⟨rfl, ⟨τ, same, set⟩, _, List.getElem?_set_self (List.getElem?_eq_some_iff.1 hx).1⟩

/-- A block becomes the device's own on both sides. -/
theorem own (cfg : Config) (block : Nat) :
    Coupled (Alias others extra σ) (Flash.own cfg block) (Flash.own cfg block)
      (fun _ => Filled others extra σ block) (Alias others extra σ) := by
  rintro f g ⟨τ, same, h⟩
  have slot := h.slot block
  simp only [Flash.own, EStateM.run_bind, run_slot]
  rcases hx : g.device.slots[block]? with _ | _ | r <;> rw [hx] at slot <;> rw [slot]
  · exact ⟨rfl, τ, same, h⟩
  · exact allocate ⟨τ, same, h⟩ hx
  obtain ⟨-, b, hb, hb'⟩ := h.stored hx
  have holders := h.store.holders r
  have held := h.refs_pos (holds_pos (List.mem_of_getElem? hx))
  simp only [Option.map_some, EStateM.run_bind, run_deref, hb, hb', EStateM.run_get]
  by_cases one : refs g.store r = 1
  · rw [if_pos one]
    by_cases one' : refs f.store (τ r) = 1
    · rw [if_pos one']
      exact ⟨rfl, ⟨τ, same, h⟩, r, hx⟩
    · -- one side makes a twin of the block, and the other has it for its own
      rw [if_neg one']
      obtain ⟨τ', same', twin⟩ := h.twin hx one hb
      exact ⟨rfl, ⟨τ', fun q hq => (same' q hq).trans (same q hq), twin⟩, r, hx⟩
  · rw [if_neg one, if_neg (by omega)]
    exact ⟨rfl, (duplicate same h hx b one).2⟩

/-- A block is changed under both names. -/
theorem put (block : Nat) (c : Block) :
    Coupled (Filled others extra σ block) (Flash.put block c) (Flash.put block c)
      (fun _ => Alias others extra σ) (Alias others extra σ) := by
  rintro f g ⟨⟨τ, same, h⟩, r, hx⟩
  have stored := (h.stored hx).1
  simp only [Flash.put, EStateM.run_bind, run_slot, hx, stored, EStateM.run_get, Counted.replace_eq]
  refine ⟨rfl, τ, same, h.setSlot hx (h.store.replace r c) fun q => ?_⟩
  simp only [Counted.refs_replace, Option.some.injEq]

theorem sync : Preserves (Alias others extra σ) Flash.sync Flash.sync := by
  rintro ⟨s, image, d⟩ g ⟨τ, same, h⟩
  obtain rfl : d = g.device.rename τ := h.device
  have synced : (g.device.rename τ).synced = g.device.synced.map (Slots.rename τ) := rfl
  cases hs : g.device.synced with
  | none =>
    rw [hs, Option.map_none] at synced
    simp only [Flash.sync, EStateM.run_bind, EStateM.run_get, hs, synced]
    exact ⟨rfl, τ, same, h⟩
  | some old =>
    rw [hs, Option.map_some] at synced
    simp only [Flash.sync, EStateM.run_bind, EStateM.run_get, hs, synced]
    have marked : Renamed others extra τ _ _ :=
      h.exchange { g.device with synced := some g.device.slots } g.device.slots old
        (fun r hr => h.refs_pos (holds_pos hr)) fun r => by
          simp only [Device.holds, hs, Option.getD_some]
          omega
    exact ⟨rfl, τ, same, marked⟩

/-- The table of the last sync comes back, but for one slot. -/
theorem rollBack (h : Alias others extra σ f g) {s t : Slots Nat} (block : Nat)
    (hs : f.device.synced = some s) (ht : g.device.synced = some t) :
    ResultsAgree (fun _ => Alias others extra σ) (Alias others extra σ)
      ((Flash.rollBack s block).run f) ((Flash.rollBack t block).run g) := by
  obtain ⟨store, image, d⟩ := f
  obtain ⟨τ, same, h⟩ := h
  obtain rfl : d = g.device.rename τ := h.device
  have slot := h.slot block
  have synced := h.synced
  rw [hs, ht] at synced
  obtain rfl : s = t.rename τ := Option.some.inj synced
  have length : (g.device.rename τ).slots.length = g.device.slots.length :=
    Slots.length_rename τ _
  simp only [Flash.rollBack, EStateM.run_bind, EStateM.run_get, length, Slots.length_rename]
  by_cases beyond : t.length ≠ g.device.slots.length
  · rw [if_pos beyond, if_pos beyond]
    exact ⟨rfl, τ, same, h⟩
  rw [if_neg beyond, if_neg beyond]
  rcases hx : g.device.slots[block]? with _ | x
  · rw [hx] at slot
    simp only [EStateM.run_bind, run_slot, hx, slot]
    exact ⟨rfl, τ, same, h⟩
  · rw [hx] at slot
    simp only [EStateM.run_bind, run_slot, hx, slot, Option.map_some, ← Slots.rename_set]
    -- the table that is taken over has slots of the last sync, and one of the device
    have live : ∀ r, some r ∈ t.set block x → 0 < refs g.store r := by
      intro r hr
      refine h.refs_pos ?_
      rcases List.mem_or_eq_of_mem_set hr with mem | rfl
      · exact holds_synced_pos ht mem
      · exact holds_pos (List.mem_of_getElem? hx)
    have taken : Renamed others extra τ _ _ :=
      h.exchange { g.device with slots := t.set block x } (t.set block x) g.device.slots live
        fun r => by
          simp only [Device.holds]
          omega
    exact ⟨rfl, τ, same, taken⟩

/-- Operations on a device are the same under all names. -/
theorem lockstep (cfg : Config) (others extra : Nat → Nat) (σ : Nat → Nat) :
    TimedLockstep cfg (Alias others extra σ) fun block _ => Filled others extra σ block where
  look block h := h.look block
  generator := by
    rintro f g ⟨τ, -, h⟩
    rw [h.device]
    rfl
  reseed x h := h.of_device (fun τ h => by simp only [reseed, h]; rfl) id rfl rfl rfl rfl
  tally c n h := by
    refine h.of_device (fun τ h => ?_) id rfl rfl ?_ ?_
    · cases c <;> simp only [tally, h] <;> rfl
    · cases c <;> rfl
    · cases c <;> rfl
  own block := own cfg block
  put block _ c _ := put block c
  of_owned h := h.1
  reseed_owned x h :=
    ⟨h.1.of_device (fun τ h => by simp only [reseed, h]; rfl) id rfl rfl rfl rfl, h.2⟩
  image h := by rw [h.image]
  write size block off data h hi hj := by
    refine h.of_device (fun τ h => h) (fun image => ?_) rfl rfl rfl rfl
    rw [hi, hj] at image
    simp only [Option.some.inj image]
  sync := sync
  synced := by
    rintro f g ⟨τ, -, h⟩
    rw [h.synced, Option.isSome_map]
  rollBack block h hs ht := h.rollBack block hs ht
  countdown := by
    rintro f g ⟨τ, -, h⟩
    rw [h.device]
    rfl
  rearm n h := h.of_device (fun τ h => by simp only [rearm, h]; rfl) id rfl rfl rfl rfl

/-- As many hold a block under both names, where nobody else holds it on one side. -/
theorem blockRefs (cfg : Config) (block : Nat) :
    Preserves (Alias others (fun _ => 0) σ) (Flash.blockRefs cfg block)
      (Flash.blockRefs cfg block) := by
  refine (preserves_contract _).bind fun _ => ?_
  rintro f g ⟨τ, same, h⟩
  have slot := h.slot block
  simp only [EStateM.run_bind, run_slot]
  rcases hx : g.device.slots[block]? with _ | _ | r <;> rw [hx] at slot <;> rw [slot]
  · exact ⟨rfl, τ, same, h⟩
  · exact ⟨rfl, τ, same, h⟩
  · exact ⟨h.store.holders r, τ, same, h⟩

theorem allocated (h : Alias others extra σ f g) : f.device.allocated = g.device.allocated := by
  obtain ⟨τ, -, h⟩ := h
  rw [h.device, Device.allocated, Device.allocated, Device.rename, Slots.rename, List.filter_map,
    List.length_map]
  refine congrArg List.length (List.filter_congr fun x _ => ?_)
  cases x <;> rfl

/-- Whatever is asked of a device is answered alike under all names. -/
theorem effect (cfg : Config) (r : Request) :
    Preserves (Alias others (fun _ => 0) σ) (r.effect cfg) (r.effect cfg) := by
  have L := lockstep cfg others (fun _ => 0) σ
  by_cases basic : r.isBasic
  · exact L.basic basic
  cases r with
  | blockRefs block => exact blockRefs cfg block
  | counter c =>
    rintro f g ⟨τ, same, h⟩
    refine ⟨?_, τ, same, h⟩
    rw [h.device]
    cases c <;> rfl
  | setCounter c value =>
    refine Coupled.modify fun f g h => h.of_device (fun τ h => ?_) id rfl rfl ?_ ?_
    · cases c <;> simp only [Counter.set, h] <;> rfl
    · cases c <;> rfl
    · cases c <;> rfl
  | countdown => exact fun f g h => ⟨L.countdown h, h⟩
  | setCountdown value => exact Coupled.modify fun f g h => L.rearm value h
  | allocated => exact fun f g h => ⟨h.allocated, h⟩
  | image => exact fun f g h => ⟨h.image, h⟩
  | update u => exact L.uninterrupted u
  | copy => exact .answer _
  | _ => exact absurd rfl basic

/-- A table that was set aside is taken over from who held it. -/
theorem restore {slots : Slots Nat} (generator : Generator)
    (h : Renamed (fun r => others r + slots.count (some r)) extra σ f g) :
    ResultsAgree (fun _ => Alias others extra σ) (Alias others extra σ)
      ((Flash.restore cfg (slots.rename σ) generator).run f)
      ((Flash.restore cfg slots generator).run g) := by
  obtain ⟨store, image, d⟩ := f
  obtain rfl : d = g.device.rename σ := h.device
  -- the table passes from others to the device, so nothing is retained for it
  have taken : Renamed others extra σ _ _ :=
    h.exchange { g.device with slots := slots, generator := generator } [] g.device.slots
      (fun r hr => absurd hr List.not_mem_nil) fun r => by
        simp only [Device.holds, List.count_nil]
        omega
  exact (lockstep cfg others extra σ).saveAll _ _ ⟨σ, fun _ _ => rfl, taken⟩

/-- The table of one device is set aside. -/
theorem beside (h : Alias others (fun _ => 0) σ f g) :
    Alias others (fun q => f.device.slots.count (some q)) σ
      { f with store := retainAll f.store f.device.slots } g := by
  obtain ⟨τ, same, h⟩ := h
  have store := h.store.beside g.device.slots fun r hr => h.refs_pos (holds_pos hr)
  have slots : g.device.slots.rename τ = f.device.slots := by rw [h.device]; rfl
  rw [slots] at store
  exact ⟨τ, same, store, h.device, h.image, h.counts⟩

/-- A table that was set aside on one side only is given up. -/
theorem apart {aside : Slots Nat} (h : Alias others (fun q => aside.count (some q)) σ f g) :
    Alias others (fun _ => 0) σ { f with store := releaseAll f.store aside } g := by
  obtain ⟨τ, same, h⟩ := h
  exact ⟨τ, same, h.store.apart, h.device, h.image, h.counts⟩

end Alias

end Flash

end FaultyFlash
