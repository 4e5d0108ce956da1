import FaultyFlash.Bench
import FaultyFlash.Store.Plain

/-!
# What can be seen of a device

References are looked through: what is seen of a table, a device or a bench is the same table,
device or bench with every block in the place of its reference. Nothing is shared there, so it is
also the reference world in which each holder has blocks of its own.

## Main definitions

* `BlockStore.look`: the blocks of a table
* `Device.plain`, `Rig.plain`, `Suspension.plain`, `Flash.plain`, `Bench.plain`: the same with
  blocks in the place of references
* `Bench.view`: the device of a handle as it is seen

## Main results

* `BlockStore.look_set`, `Bench.rig?_plain`: looking at one slot, at one device
-/

namespace FaultyFlash

variable {S R κ μ : Type} [BlockStore S R]

/-- The blocks of a table by address. -/
def BlockStore.look (s : S) (slots : Slots R) : Slots Block :=
  slots.map fun r => r.bind (BlockStore.contents s)

namespace BlockStore

@[simp] theorem length_look (s : S) (slots : Slots R) : (look s slots).length = slots.length :=
  List.length_map _

theorem getElem?_look (s : S) (slots : Slots R) (i : Nat) :
    (look s slots)[i]? = slots[i]?.map fun r => r.bind (contents s) :=
  List.getElem?_map

theorem look_set (s : S) (slots : Slots R) (i : Nat) (r : Option R) :
    look s (slots.set i r) = (look s slots).set i (r.bind (contents s)) :=
  List.map_set

/-- Tables look the same in stores that keep the same blocks for them. -/
theorem look_congr {s s' : S} {slots : Slots R}
    (h : ∀ r, some r ∈ slots → contents s' r = contents s r) : look s' slots = look s slots := by
  refine List.map_congr_left fun r hr => ?_
  cases r with
  | none => rfl
  | some r => exact h r hr

@[simp] theorem look_plain (s : Plain) (slots : Slots Block) : look s slots = slots := by
  refine List.map_id'' (fun r => ?_) slots
  cases r <;> rfl

end BlockStore

/-- A device with blocks in the place of references. -/
def Device.plain (s : S) (d : Device R) : Device Block where
  slots := BlockStore.look s d.slots
  synced := d.synced.map (BlockStore.look s)
  bytesRead := d.bytesRead
  bytesProgrammed := d.bytesProgrammed
  bytesErased := d.bytesErased
  generator := d.generator
  countdown := d.countdown

@[simp] theorem Device.plain_plain (s : Plain) (d : Device Block) : d.plain s = d := by
  have look : BlockStore.look s = id := funext (BlockStore.look_plain s)
  simp [Device.plain, look]

/-- A device with its callback, with blocks in the place of references. -/
def Rig.plain (s : S) (r : Rig R κ) : Rig Block κ := ⟨r.device.plain s, r.callback⟩

/-- A state set aside, with blocks in the place of references. -/
def Suspension.plain (s : S) (x : Suspension R) : Suspension Block :=
  ⟨BlockStore.look s x.slots, x.generator⟩

/-- A device with its surroundings, with blocks in the place of references. -/
def Flash.plain (f : Flash S R) : Flash Plain Block := ⟨{}, f.image, f.device.plain f.store⟩

theorem Flash.block?_plain (f : Flash S R) (block : Nat) :
    f.plain.block? block = f.block? block := by
  simp only [Flash.block?, Flash.plain, Device.plain, BlockStore.getElem?_look]
  cases f.device.slots[block]? with
  | none => rfl
  | some r =>
    cases r with
    | none => rfl
    | some r => exact Option.bind_fun_some _

namespace Bench

/-- A bench with blocks in the place of references. -/
def plain (w : Bench S R κ μ) : Bench Plain Block κ μ where
  config := w.config
  store := {}
  image := w.image
  rack := w.rack.map (Option.map (Rig.plain w.store))
  suspended := w.suspended.map (Suspension.plain w.store)
  forks := w.forks
  memory := w.memory

/-- The device of a handle as it is seen. -/
def view (w : Bench S R κ μ) (d : Handle) : Option (Device Block) :=
  (w.rig? d).map fun r => r.device.plain w.store

theorem rig?_plain (w : Bench S R κ μ) (d : Handle) :
    w.plain.rig? d = (w.rig? d).map (Rig.plain w.store) := by
  simp only [rig?, plain, List.getElem?_map]
  cases w.rack[d]? <;> rfl

/-- The device of a handle, with blocks in the place of references. -/
theorem plain_of_rig? {w : Bench S R κ μ} {d : Handle} {r : Rig R κ} (h : w.rig? d = some r) :
    w.plain.rig? d = some (r.plain w.store) := by
  rw [rig?_plain, h, Option.map_some]

theorem view_eq (w : Bench S R κ μ) (d : Handle) :
    w.view d = (w.plain.rig? d).map Rig.device := by
  rw [view, rig?_plain, Option.map_map]
  rfl

@[simp] theorem isLive_plain (w : Bench S R κ μ) (d : Handle) : w.plain.isLive d = w.isLive d := by
  simp [isLive, rig?_plain]

@[simp] theorem view_plain (w : Bench S R κ μ) (d : Handle) : w.plain.view d = w.view d := by
  rw [view, view, rig?_plain, Option.map_map]
  exact congrFun (congrArg Option.map (funext fun r => Device.plain_plain _ _)) _

end Bench

end FaultyFlash
