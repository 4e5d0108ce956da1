import FaultyFlash.Proofs.Invariants
import FaultyFlash.Store.Counted

/-!
# Places of blocks

A block is allocated for one address, and it is only ever referred to from there: by slots of this
address in devices, in last syncs and in states set aside. So slots of different addresses never
share a block.

## Main definitions

* `Slots.Placed place n`: a table refers to blocks at their places
* `Flash.Placed place n`: so do the tables of a device, whatever the places of new blocks are
* `Bench.HasTable`, `Bench.Placed`: so do all tables of a bench

## Main results

* `Flash.Placed.lockstep`: operations on a device leave blocks at their places
* `Bench.Placed.lockstep`: operations on a bench do
* `Bench.Placed.apart`: slots of different addresses share no block
-/

namespace FaultyFlash

open BlockStore (contents retainAll releaseAll)

variable {place : Nat → Nat} {n block : Nat}

/-- A table refers to blocks among the first `n`, each at its place. -/
def Slots.Placed (place : Nat → Nat) (n : Nat) (slots : Slots Nat) : Prop :=
  ∀ i r, slots[i]? = some (some r) → r < n ∧ place r = i

namespace Slots.Placed

variable {slots : Slots Nat}

/-- More blocks do not matter, nor do their places. -/
theorem mono (h : slots.Placed place n) {place' : Nat → Nat} {m : Nat} (more : n ≤ m)
    (same : ∀ r, r < n → place' r = place r) : slots.Placed place' m := by
  intro i r hi
  obtain ⟨less, at'⟩ := h i r hi
  exact ⟨Nat.lt_of_lt_of_le less more, (same r less).trans at'⟩

theorem set (h : slots.Placed place n) {x : Option Nat}
    (hx : ∀ r, x = some r → r < n ∧ place r = block) :
    Slots.Placed place n (slots.set block x) := by
  intro i r hi
  by_cases here : block = i
  · subst here
    obtain ⟨inside, -⟩ := List.getElem?_eq_some_iff.1 hi
    rw [List.getElem?_set_self (by simpa using inside), Option.some.injEq] at hi
    exact hx r hi
  · rw [List.getElem?_set_ne here] at hi
    exact h i r hi

end Slots.Placed

/-- A device has two tables, or one. -/
def Device.HasTable {R : Type} (d : Device R) (slots : Slots R) : Prop :=
  d.slots = slots ∨ d.synced = some slots

/-! ## Devices -/

namespace Flash

/-- The tables of a device refer to blocks at their places. The places of the first `n` blocks are
given. -/
def Placed (place : Nat → Nat) (n : Nat) (f : Flash Counted Nat) : Prop :=
  n ≤ f.store.cells.size ∧ ∃ place', (∀ r, r < n → place' r = place r) ∧
    ∀ slots, f.device.HasTable slots → slots.Placed place' f.store.cells.size

/-- Besides, the device refers to a block at an address. -/
def Placed.Filled (place : Nat → Nat) (n block : Nat) (f : Flash Counted Nat) : Prop :=
  f.Placed place n ∧ ∃ r, f.device.slots[block]? = some (some r)

namespace Placed

variable {f g : Flash Counted Nat}

/-- Only the tables matter, and the number of blocks. -/
theorem congr (h : f.Placed place n) (size : g.store.cells.size = f.store.cells.size)
    (tables : ∀ slots, g.device.HasTable slots → f.device.HasTable slots) : g.Placed place n := by
  obtain ⟨more, place', same, placed⟩ := h
  unfold Placed
  rw [size]
  exact ⟨more, place', same, fun slots hs => placed slots (tables slots hs)⟩

/-- A new block gets its place from the slot that refers to it first. -/
theorem grow (h : f.Placed place n) (inside : block < f.device.slots.length) {s : Counted}
    (size : s.cells.size = f.store.cells.size + 1) :
    Filled place n block { f with
      store := s
      device := { f.device with
        slots := f.device.slots.set block (some f.store.cells.size) } } := by
  obtain ⟨more, place', same, placed⟩ := h
  let places (r : Nat) : Nat := if r = f.store.cells.size then block else place' r
  have old (r : Nat) (hr : r < f.store.cells.size) : places r = place' r :=
    if_neg (Nat.ne_of_lt hr)
  have kept (slots : Slots Nat) (hs : f.device.HasTable slots) :
      slots.Placed places s.cells.size := (placed slots hs).mono (by omega) old
  refine ⟨⟨?_, places, ?_, ?_⟩, _, List.getElem?_set_self inside⟩
  · show n ≤ s.cells.size
    omega
  · intro r hr
    rw [old r (by omega), same r hr]
  · rintro slots (rfl | hs)
    · apply (kept _ (.inl rfl)).set
      rintro r ⟨⟩
      refine ⟨?_, if_pos rfl⟩
      show f.store.cells.size < s.cells.size
      omega
    · exact kept slots (.inr hs)

theorem own (cfg : Config) (block : Nat) :
    Ends (Placed place n) (Flash.own cfg block) (fun _ => Filled place n block)
      (Placed place n) := by
  apply Ends.of_run
  intro f h
  simp only [Flash.own, EStateM.run_bind, run_slot]
  rcases hx : f.device.slots[block]? with _ | _ | r
  · exact h
  · -- a missing block is allocated, unless there is no room for it
    have inside := (List.getElem?_eq_some_iff.1 hx).1
    by_cases bits : cfg.geometry.blockBits = 0
    · simp only [Flash.allocate, drawBelow, bits]
      exact h
    simp only [Flash.allocate, EStateM.run_bind, run_drawBelow bits]
    have drawn : (f.reseed f.device.generator.next.2).Placed place n := h.congr rfl fun _ => id
    by_cases full : Config.allocationLimit ≤ cfg.geometry.blockSize
    · rw [if_pos full]
      exact drawn
    · rw [if_neg full]
      exact drawn.grow inside (Counted.size_alloc _ _)
  · simp only [EStateM.run_bind, run_deref]
    rcases contents f.store r with _ | b
    · exact h
    simp only [EStateM.run_get]
    by_cases alone : BlockStore.refs f.store r = 1
    · rw [if_pos alone]
      exact ⟨h, r, hx⟩
    · rw [if_neg alone]
      have inside := (List.getElem?_eq_some_iff.1 hx).1
      exact h.grow inside ((Counted.size_update _ _ _).trans (Counted.size_alloc _ _))

/-- A block is changed at its place. -/
theorem put (block : Nat) (c : Block) :
    Ends (Filled place n block) (Flash.put block c) (fun _ => Placed place n)
      (Placed place n) := by
  apply Ends.of_run
  rintro f ⟨h, r, hx⟩
  obtain ⟨inside, hr⟩ := List.getElem?_eq_some_iff.1 hx
  have stays : f.device.slots.set block (some r) = f.device.slots := by
    rw [← hr, List.set_getElem_self]
  simp only [Flash.put, EStateM.run_bind, run_slot, hx, EStateM.run_get, Counted.replace_eq]
  refine h.congr (Counted.size_update _ _ _) fun slots hs => ?_
  rcases hs with rfl | hs
  · exact .inl stays.symm
  · exact .inr hs

/-- Tables are exchanged for tables of the device. -/
theorem adopt {slots : Slots Nat} (h : f.Placed place n)
    (hs : ∀ place' m, (∀ slots, f.device.HasTable slots → slots.Placed place' m) →
      slots.Placed place' m) :
    Placed place n { f with
      store := releaseAll (retainAll f.store slots) f.device.slots
      device := { f.device with slots := slots } } := by
  obtain ⟨more, place', same, placed⟩ := h
  have size : (releaseAll (retainAll f.store slots) f.device.slots).cells.size =
      f.store.cells.size := by
    rw [Counted.size_releaseAll, Counted.size_retainAll]
  unfold Placed
  rw [size]
  refine ⟨more, place', same, ?_⟩
  rintro _ (rfl | synced)
  · exact hs place' _ placed
  · exact placed _ (.inr synced)

/-- The table of the last sync comes back, but for one slot. -/
theorem rollBack (block : Nat) (s : Slots Nat) :
    Ends (fun f => f.Placed place n ∧ f.device.synced = some s) (Flash.rollBack s block)
      (fun _ => Placed place n) (Placed place n) := by
  apply Ends.of_run
  rintro f ⟨h, synced⟩
  simp only [Flash.rollBack, EStateM.run_bind, EStateM.run_get]
  by_cases length : s.length = f.device.slots.length
  · rw [if_neg (not_not_intro length)]
    simp only [EStateM.run_bind, run_slot]
    rcases hx : f.device.slots[block]? with _ | x
    · exact h
    · refine h.adopt fun place' m placed => (placed s (.inr synced)).set ?_
      rintro r rfl
      exact placed _ (.inl rfl) block r hx
  · rw [if_pos length]
    exact h

/-- Blocks stay at their places, whatever is done to a device. -/
theorem lockstep (cfg : Config) :
    TimedLockstep cfg (Diagonal (Placed place n))
      fun block _ => Diagonal (Filled place n block) where
  toLooking := by
    apply looking_diagonal
    · intro f x h
      exact h.congr rfl fun _ => id
    · intro f c n h
      cases c <;> exact h.congr rfl fun _ => id
  own block := Placed.own cfg block
  put block _ c _ := Placed.put block c
  of_owned h := ⟨h.1, h.2.1⟩
  reseed_owned x := by
    rintro ⟨rfl, h, filled⟩
    exact ⟨rfl, h.congr rfl fun _ => id, filled⟩
  image h := by rw [h.1]
  write size block off data := by
    rintro ⟨rfl, h⟩ hi hj
    obtain rfl := Option.some.inj (hi.symm.trans hj)
    exact ⟨rfl, h.congr rfl fun _ => id⟩
  sync := by
    apply Ends.of_run
    intro f h
    simp only [Flash.sync, EStateM.run_bind, EStateM.run_get]
    rcases f.device.synced with _ | old
    · exact h
    · refine h.congr ((Counted.size_releaseAll _ _).trans (Counted.size_retainAll _ _)) ?_
      rintro slots (rfl | hs)
      · exact .inl rfl
      · cases hs
        exact .inl rfl
  synced h := by rw [h.1]
  rollBack {_ f s t} block := by
    rintro ⟨rfl, h⟩ hs ht
    obtain rfl := Option.some.inj (hs.symm.trans ht)
    exact rollBack block s f f ⟨rfl, h, hs⟩
  countdown h := by rw [h.1]
  rearm m := by
    rintro ⟨rfl, h⟩
    exact ⟨rfl, h.congr rfl fun _ => id⟩

/-- Whatever is asked of a device. -/
theorem effect (cfg : Config) (r : Request) :
    Preserves (Diagonal (Placed place n)) (r.effect cfg) (r.effect cfg) := by
  apply (lockstep cfg).effect_diagonal
  intro f c m h
  cases c <;> exact h.congr rfl fun _ => id

/-- A table that was set aside comes back. -/
theorem restore (cfg : Config) {slots : Slots Nat} (hs : slots.Placed place n) (x : Generator) :
    Preserves (Diagonal (Placed place n)) (Flash.restore cfg slots x)
      (Flash.restore cfg slots x) := by
  rintro _ f ⟨rfl, more, place', same, placed⟩
  have taken : Placed place n { f with
      store := releaseAll f.store f.device.slots
      device := { f.device with slots := slots, generator := x } } := by
    unfold Placed
    rw [Counted.size_releaseAll]
    refine ⟨more, place', same, ?_⟩
    rintro _ (rfl | synced)
    · exact hs.mono more same
    · exact placed _ (.inr synced)
  exact (lockstep cfg).saveAll _ _ ⟨rfl, taken⟩

end Placed

end Flash

/-! ## Benches -/

variable {S R κ μ α : Type}

namespace Bench

/-- The tables of a bench: those of its devices, with their last syncs, and those set aside. -/
def HasTable (w : Bench S R κ μ) (slots : Slots R) : Prop :=
  (∃ d r, w.rig? d = some r ∧ r.device.HasTable slots) ∨ ∃ s ∈ w.suspended, s.slots = slots

/-- The tables of a bench after a device came to a handle, or the handle was given up. -/
theorem hasTable_set {w : Bench S R κ μ} {d : Handle} {x : Option (Rig R κ)} {slots : Slots R}
    (h : HasTable { w with rack := w.rack.set d x } slots) :
    (∃ r, x = some r ∧ r.device.HasTable slots) ∨ w.HasTable slots := by
  rcases h with ⟨e, r, hr, ht⟩ | aside
  · by_cases here : d = e
    · subst here
      obtain ⟨inside, -⟩ := List.getElem?_eq_some_iff.1 (rig?_eq_some.1 hr)
      rw [rig?_eq_some, List.getElem?_set_self (by simpa using inside), Option.some.injEq] at hr
      exact .inl ⟨r, hr, ht⟩
    · rw [rig?_eq_some, List.getElem?_set_ne here] at hr
      exact .inr (.inl ⟨e, r, rig?_eq_some.2 hr, ht⟩)
  · exact .inr (.inr aside)

/-- All tables of a bench refer to blocks at their places, for some places. -/
def Placed (w : Bench Counted Nat κ μ) : Prop :=
  ∃ place, ∀ slots, w.HasTable slots → slots.Placed place w.store.cells.size

namespace Placed

variable {w v : Bench Counted Nat κ μ} {d : Handle}

/-- Slots of different addresses share no block. -/
theorem apart (h : w.Placed) {slots slots' : Slots Nat} (hs : w.HasTable slots)
    (hs' : w.HasTable slots') {i j r : Nat} (hi : slots[i]? = some (some r))
    (hj : slots'[j]? = some (some r)) : i = j := by
  obtain ⟨place, placed⟩ := h
  exact (placed slots hs i r hi).2.symm.trans (placed slots' hs' j r hj).2

/-- Only the tables matter, and the number of blocks. -/
theorem congr (h : w.Placed) (size : w.store.cells.size ≤ v.store.cells.size)
    (tables : ∀ slots, v.HasTable slots → w.HasTable slots) : v.Placed := by
  obtain ⟨place, placed⟩ := h
  exact ⟨place, fun slots hs => (placed slots (tables slots hs)).mono size fun _ _ => rfl⟩

/-- What is done to one device leaves the blocks of all others at their places. -/
theorem settle {place : Nat → Nat} {f : Flash Counted Nat} {r : Rig Nat κ}
    (placed : ∀ slots, w.HasTable slots → slots.Placed place w.store.cells.size)
    (hf : f.Placed place w.store.cells.size) : (w.settle d r f).Placed := by
  obtain ⟨more, place', same, placed'⟩ := hf
  refine ⟨place', fun slots hs => ?_⟩
  rcases hasTable_set (w := { w with store := f.store, image := f.image }) hs with
    ⟨_, ⟨⟩, mine⟩ | old
  · exact placed' slots mine
  · exact (placed slots old).mono more same

theorem on_at {op : Config → FlashM Counted Nat α} {place : Nat → Nat}
    (placed : ∀ slots, w.HasTable slots → slots.Placed place w.store.cells.size)
    (hop : Preserves (Diagonal (Flash.Placed place w.store.cells.size)) (op w.config)
      (op w.config)) :
    ResultsAgree (fun _ => Diagonal Placed) (fun _ _ => True) ((Bench.on d op).run w)
      ((Bench.on d op).run w) := by
  cases hr : w.rig? d with
  | none =>
    rw [run_on, hr]
    exact ⟨rfl, trivial⟩
  | some r =>
    have mine : (w.flash r).Placed place w.store.cells.size :=
      ⟨Nat.le_refl _, place, fun _ _ => rfl, fun slots hs => placed slots (.inl ⟨d, r, hr, hs⟩)⟩
    rw [run_on_answered hr]
    exact ⟨rfl, rfl, settle placed (Flash.answered_of_preserves hop ⟨rfl, mine⟩).2.2⟩

theorem on {op : Config → FlashM Counted Nat α}
    (hop : ∀ cfg place n, Preserves (Diagonal (Flash.Placed place n)) (op cfg) (op cfg)) :
    Keeps (Diagonal (Placed (κ := κ) (μ := μ))) (Bench.on d op) (Bench.on d op) := by
  rintro _ w ⟨rfl, place, placed⟩
  exact on_at placed (hop w.config place _)

theorem install (d : Handle) (callback : Option (Handler κ)) :
    Keeps (Diagonal (Placed (μ := μ))) (install d callback) (install d callback) := by
  rintro _ w ⟨rfl, h⟩
  rw [run_install]
  cases hr : w.rig? d with
  | none => exact ⟨rfl, trivial⟩
  | some r =>
    refine ⟨rfl, rfl, h.congr (Nat.le_refl _) fun slots hs => ?_⟩
    rcases hasTable_set hs with ⟨_, ⟨⟩, mine⟩ | old
    · exact .inl ⟨d, r, hr, mine⟩
    · exact old

theorem copy (d : Handle) :
    Keeps (Diagonal (Placed (κ := κ) (μ := μ))) (copy d) (copy d) := by
  rintro _ w ⟨rfl, h⟩
  rw [run_copy]
  cases hr : w.rig? d with
  | none => exact ⟨rfl, trivial⟩
  | some r =>
    refine ⟨rfl, rfl, h.congr (by simp) ?_⟩
    rintro slots (⟨e, t, ht, hs⟩ | aside)
    · rw [rig?_eq_some, List.getElem?_append] at ht
      split at ht
      · exact .inl ⟨e, t, rig?_eq_some.2 ht, hs⟩
      · -- the copy is the only device after the others
        obtain rfl := Option.some.inj (List.mem_singleton.1 (List.mem_of_getElem? ht))
        exact .inl ⟨d, r, hr, hs⟩
    · exact .inr aside

theorem drop (d : Handle) :
    Keeps (Diagonal (Placed (κ := κ) (μ := μ))) (drop d) (drop d) := by
  rintro _ w ⟨rfl, h⟩
  rw [run_drop]
  cases hr : w.rig? d with
  | none => exact ⟨rfl, trivial⟩
  | some r =>
    refine ⟨rfl, rfl, h.congr (by simp) fun slots hs => ?_⟩
    rcases hasTable_set (w := w) hs with ⟨_, ⟨⟩, -⟩ | old
    exact old

/-- A change of neither devices nor blocks. -/
theorem modify {f : Bench Counted Nat κ μ → Bench Counted Nat κ μ}
    (store : ∀ w, (f w).store = w.store) (rack : ∀ w, (f w).rack = w.rack)
    (suspended : ∀ w, (f w).suspended = w.suspended) :
    Keeps (Diagonal Placed) (modify f) (modify f) := by
  apply Coupled.modify
  rintro _ w ⟨rfl, h⟩
  refine ⟨rfl, h.congr (Nat.le_of_eq (by rw [store])) fun slots hs => ?_⟩
  unfold HasTable rig? at hs ⊢
  rwa [rack, suspended] at hs

theorem fork (d : Handle) :
    Keeps (Diagonal (Placed (κ := κ) (μ := μ))) (fork d) (fork d) := by
  have arms : Keeps (Diagonal (Placed (κ := κ) (μ := μ)))
      (Bench.on d (Request.setCountdown 1).effect) (Bench.on d (Request.setCountdown 1).effect) :=
    on fun cfg _ _ => Flash.Placed.effect cfg (.setCountdown 1)
  refine (copy d).bind fun handle => Coupled.bind (modify (by intro w; rfl) (by intro w; rfl)
    (by intro w; rfl)) fun _ => arms.bind fun x => ?_
  cases x <;> exact .answer _

theorem suspend (d : Handle) :
    Keeps (Diagonal (Placed (κ := κ) (μ := μ))) (suspend d) (suspend d) := by
  rintro _ w ⟨rfl, h⟩
  rw [run_suspend]
  cases hr : w.rig? d with
  | none => exact ⟨rfl, trivial⟩
  | some r =>
    refine ⟨rfl, rfl, h.congr (by simp) ?_⟩
    rintro slots (device | ⟨s, hs, rfl⟩)
    · exact .inl device
    · rcases List.mem_cons.1 hs with rfl | old
      · exact .inl ⟨d, r, hr, .inl rfl⟩
      · exact .inr ⟨s, old, rfl⟩

theorem discard : Keeps (Diagonal (Placed (κ := κ) (μ := μ))) discard discard := by
  rintro _ w ⟨rfl, h⟩
  rw [run_discard]
  rcases hs : w.suspended with _ | ⟨s, rest⟩
  · exact ⟨rfl, rfl, h⟩
  · refine ⟨rfl, rfl, h.congr (by simp) ?_⟩
    rintro slots (device | ⟨t, ht, rfl⟩)
    · exact .inl device
    · exact .inr ⟨t, hs ▸ List.mem_cons_of_mem s ht, rfl⟩

theorem resume (d : Handle) :
    Keeps (Diagonal (Placed (κ := κ) (μ := μ))) (resume d) (resume d) := by
  rintro _ w ⟨rfl, h⟩
  rw [run_resume]
  rcases hs : w.suspended with _ | ⟨s, rest⟩
  · exact ⟨rfl, rfl, h⟩
  · -- the table is one of the bench until it is taken up
    have older : ∀ slots, HasTable { w with suspended := rest } slots → w.HasTable slots := by
      rintro slots (device | ⟨t, ht, rfl⟩)
      · exact .inl device
      · exact .inr ⟨t, hs ▸ List.mem_cons_of_mem s ht, rfl⟩
    obtain ⟨place, placed⟩ := h
    have aside : s.slots.Placed place w.store.cells.size :=
      placed _ (.inr ⟨s, hs ▸ List.mem_cons_self, rfl⟩)
    exact on_at (w := { w with suspended := rest }) (fun slots h => placed slots (older slots h))
      (Flash.Placed.restore w.config aside s.generator)

/-- Operations on a bench leave blocks at their places. -/
theorem lockstep {U : Handle → Prop} :
    Lockstep (fun _ _ : Unit => True) (fun a b => a = b ∧ U a) (fun _ => True) (fun _ x => x)
      fun _ => Diagonal (Placed (κ := κ) (μ := μ)) where
  start := by
    rintro _ d _ ⟨rfl, -⟩ u
    exact on fun cfg _ _ => (Flash.Placed.lockstep cfg).start u
  complete := by
    rintro _ d _ ⟨rfl, -⟩ worn u
    exact on fun cfg _ _ => (Flash.Placed.lockstep cfg).complete worn u
  crash := by
    rintro _ d _ ⟨rfl, -⟩ u
    exact on fun cfg _ _ => (Flash.Placed.lockstep cfg).crash u
  direct := by
    rintro _ d _ ⟨rfl, -⟩ r hr respond respond'
    rw [id_map', id_map', perform_direct respond d hr, perform_direct respond' d hr]
    exact on fun cfg _ _ => Flash.Placed.effect cfg r
  callback := by
    rintro _ _ w d _ ⟨rfl, -⟩ ⟨rfl, -⟩
    rfl
  allowed _ _ _ := trivial
  next h := h
  missing h _ _ := h.1
  install := by
    rintro _ d _ ⟨rfl, -⟩ callback -
    exact install d callback
  copy := by
    rintro _ d _ ⟨rfl, -⟩ _ _
    exact (copy d).bind fun _ => .answer _
  fork := by
    rintro _ d _ ⟨rfl, -⟩
    exact fork d
  suspend := by
    rintro _ d _ ⟨rfl, -⟩
    exact (suspend d).mono (fun _ _ => id) (fun _ _ _ h => ⟨(), trivial, h⟩) fun _ _ => id
  discard _ := discard
  resume := by
    rintro _ _ d _ ⟨rfl, -⟩ -
    exact resume d
  memory h := by rw [h.1]
  setMemory m := modify (by intro w; rfl) (by intro w; rfl) (by intro w; rfl)

end Placed

end Bench

end FaultyFlash
