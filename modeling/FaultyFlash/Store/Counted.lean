import FaultyFlash.Store

/-!
# The store that counts references

Blocks are kept in numbered cells, each with the number of its holders. Cells are never reused: a
new block takes the next number, and a cell that nobody holds any longer is emptied.

## Main definitions

* `Counted`, `Counted.Cell`: the store and its cells
* `Counted.cell?`: the view of a store, the cell behind a number

## Main results

* `Counted.cell?_alloc`, `Counted.cell?_retain`, `Counted.cell?_release`, `Counted.cell?_replace`:
  each operation through the view
* `Counted.refs_retainAll`, `Counted.refs_releaseAll`, `Counted.contents_releaseAll`, …: how each
  operation changes the number of holders, and which blocks it leaves
-/

namespace FaultyFlash

/-- A kept block and the number of its holders. -/
structure Counted.Cell where
  refs : Nat
  block : Block
  deriving DecidableEq, Repr

/-- The store that counts references. -/
structure Counted where
  cells : Array (Option Counted.Cell) := #[]
  deriving DecidableEq, Repr

namespace Counted

/-- The cell behind a number. -/
def cell? (s : Counted) (r : Nat) : Option Cell := s.cells[r]?.join

/-- Changes the cell behind a number, if there is one. -/
def update (s : Counted) (r : Nat) (f : Cell → Option Cell) : Counted :=
  ⟨s.cells.modify r (Option.bind · f)⟩

/-- Keeps a new block with one holder. -/
def alloc (s : Counted) (b : Block) : Nat × Counted :=
  (s.cells.size, ⟨s.cells.push (some ⟨1, b⟩)⟩)

/-- Counts one more holder. -/
def retain (s : Counted) (r : Nat) : Counted :=
  s.update r fun c => some { c with refs := c.refs + 1 }

/-- Counts one holder less, and empties the cell after the last. -/
def release (s : Counted) (r : Nat) : Counted :=
  s.update r fun c => if c.refs ≤ 1 then none else some { c with refs := c.refs - 1 }

/-- Replaces the block behind a number. -/
def replace (s : Counted) (r : Nat) (b : Block) : Counted :=
  s.update r fun c => some { c with block := b }

instance : BlockStore Counted Nat where
  empty := {}
  contents s r := (s.cell? r).map Cell.block
  refs s r := (s.cell? r).elim 0 Cell.refs
  alloc := alloc
  retain := retain
  release := release
  replace s r b := (r, s.replace r b)

@[simp] theorem cell?_empty (r : Nat) : ({} : Counted).cell? r = none := by
  simp [cell?]

theorem cell?_update (s : Counted) (r t : Nat) (f : Cell → Option Cell) :
    (s.update r f).cell? t = if t = r then (s.cell? t).bind f else s.cell? t := by
  simp only [cell?, update, Array.getElem?_modify]
  split
  · next h =>
    subst h
    cases s.cells[r]? <;> simp
  · next h => simp [Ne.symm h]

theorem cell?_alloc (s : Counted) (b : Block) (t : Nat) :
    (s.alloc b).2.cell? t = if t = s.cells.size then some ⟨1, b⟩ else s.cell? t := by
  simp only [cell?, alloc, Array.getElem?_push]
  split <;> simp_all

theorem cell?_retain (s : Counted) (r t : Nat) :
    (s.retain r).cell? t =
      if t = r then (s.cell? t).map fun c => { c with refs := c.refs + 1 } else s.cell? t := by
  rw [retain, cell?_update]
  split
  · cases s.cell? t <;> rfl
  · rfl

theorem cell?_release (s : Counted) (r t : Nat) :
    (s.release r).cell? t =
      if t = r then
        (s.cell? t).bind fun c => if c.refs ≤ 1 then none else some { c with refs := c.refs - 1 }
      else s.cell? t :=
  cell?_update s r t _

theorem cell?_replace (s : Counted) (r t : Nat) (b : Block) :
    (s.replace r b).cell? t =
      if t = r then (s.cell? t).map fun c => { c with block := b } else s.cell? t := by
  rw [replace, cell?_update]
  split
  · cases s.cell? t <;> rfl
  · rfl

@[simp] theorem size_alloc (s : Counted) (b : Block) :
    (s.alloc b).2.cells.size = s.cells.size + 1 :=
  Array.size_push _

@[simp] theorem size_update (s : Counted) (r : Nat) (f : Cell → Option Cell) :
    (s.update r f).cells.size = s.cells.size :=
  Array.size_modify

/-! ## Blocks and holders -/

open BlockStore (refs contents retainAll releaseAll)

theorem refs_eq_zero {s : Counted} {r : Nat} (h : s.cells.size ≤ r) : refs s r = 0 := by
  simp [refs, cell?, Array.getElem?_eq_none h]

/-- A block that someone holds has a cell. -/
theorem lt_size {s : Counted} {r : Nat} (h : 0 < refs s r) : r < s.cells.size := by
  refine Nat.not_le.1 fun beyond => ?_
  rw [refs_eq_zero beyond] at h
  exact Nat.lt_irrefl 0 h

/-- A block that someone holds is kept. -/
theorem isSome_contents {s : Counted} {r : Nat} (h : 0 < refs s r) : (contents s r).isSome := by
  simp only [refs, contents] at h ⊢
  cases hc : s.cell? r with
  | none => simp [hc] at h
  | some c => rfl

theorem refs_alloc (s : Counted) (b : Block) (t : Nat) :
    refs (s.alloc b).2 t = if t = s.cells.size then 1 else refs s t := by
  simp only [refs, cell?_alloc]
  split <;> rfl

theorem contents_alloc (s : Counted) (b : Block) (t : Nat) :
    contents (s.alloc b).2 t = if t = s.cells.size then some b else contents s t := by
  simp only [contents, cell?_alloc]
  split <;> rfl

theorem refs_retain {s : Counted} {r : Nat} (h : (contents s r).isSome) (t : Nat) :
    refs (s.retain r) t = refs s t + if t = r then 1 else 0 := by
  simp only [refs, contents, cell?_retain] at h ⊢
  split
  · next ht =>
    subst ht
    cases hc : s.cell? t with
    | none => simp [hc] at h
    | some c => rfl
  · rfl

@[simp] theorem contents_retain (s : Counted) (r t : Nat) :
    contents (s.retain r) t = contents s t := by
  simp only [contents, cell?_retain]
  split
  · cases s.cell? t <;> rfl
  · rfl

theorem refs_release (s : Counted) (r t : Nat) :
    refs (s.release r) t = refs s t - if t = r then 1 else 0 := by
  simp only [refs, cell?_release]
  split
  · cases s.cell? t with
    | none => rfl
    | some c =>
      simp only [Option.bind_some, Option.elim_some]
      split
      · -- the cell is emptied after its last holder, and counts nobody
        next last => simp; omega
      · rfl
  · rfl

/-- A block is kept as long as someone holds it. -/
theorem contents_release {s : Counted} {r t : Nat} (h : 0 < refs (s.release r) t) :
    contents (s.release r) t = contents s t := by
  simp only [refs, contents, cell?_release] at h ⊢
  split
  · next ht =>
    subst ht
    cases hc : s.cell? t with
    | none => rfl
    | some c =>
      simp only [hc, Option.bind_some, if_true] at h ⊢
      split
      · -- an emptied cell has no holder left, but this one has
        next last => simp [last] at h
      · rfl
  · rfl

@[simp] theorem replace_eq (s : Counted) (r : Nat) (b : Block) :
    BlockStore.replace s r b = (r, s.replace r b) := rfl

@[simp] theorem refs_replace (s : Counted) (r t : Nat) (b : Block) :
    refs (s.replace r b) t = refs s t := by
  simp only [refs, cell?_replace]
  split
  · cases s.cell? t <;> rfl
  · rfl

theorem contents_replace (s : Counted) (r t : Nat) (b : Block) :
    contents (s.replace r b) t = if t = r then (contents s t).map fun _ => b else contents s t := by
  simp only [contents, cell?_replace]
  split
  · cases s.cell? t <;> rfl
  · rfl

@[simp] theorem contents_retainAll (s : Counted) (slots : Slots Nat) (t : Nat) :
    contents (retainAll s slots) t = contents s t := by
  induction slots generalizing s with
  | nil => rfl
  | cons x slots ih =>
    cases x with
    | none => exact ih s
    | some r => exact (ih (s.retain r)).trans (contents_retain s r t)

/-- One more holder for each slot that refers to the block. -/
theorem refs_retainAll {s : Counted} {slots : Slots Nat}
    (h : ∀ r, some r ∈ slots → (contents s r).isSome) (t : Nat) :
    refs (retainAll s slots) t = refs s t + slots.count (some t) := by
  induction slots generalizing s with
  | nil => rfl
  | cons x slots ih =>
    cases x with
    | none =>
      rw [BlockStore.retainAll_none, ih fun r hr => h r (List.mem_cons_of_mem _ hr)]
      simp
    | some r =>
      have live := h r List.mem_cons_self
      have rest : ∀ q, some q ∈ slots → (contents (s.retain r) q).isSome := fun q hq => by
        rw [contents_retain]
        exact h q (List.mem_cons_of_mem _ hq)
      rw [BlockStore.retainAll_some]
      -- the first slot adds a holder of `r`, the others add theirs by induction
      refine (ih rest).trans ?_
      rw [refs_retain live, List.count_cons]
      by_cases ht : t = r
      · subst ht
        simp
        omega
      · simp [ht, Ne.symm ht]

/-- One holder less for each slot that refers to the block. -/
theorem refs_releaseAll (s : Counted) (slots : Slots Nat) (t : Nat) :
    refs (releaseAll s slots) t = refs s t - slots.count (some t) := by
  induction slots generalizing s with
  | nil => rfl
  | cons x slots ih =>
    cases x with
    | none =>
      rw [BlockStore.releaseAll_none, ih]
      simp
    | some r =>
      rw [BlockStore.releaseAll_some]
      refine (ih (s.release r)).trans ?_
      rw [refs_release, List.count_cons]
      by_cases ht : t = r
      · subst ht
        simp
        omega
      · simp [ht, Ne.symm ht]

theorem contents_releaseAll {s : Counted} {slots : Slots Nat} {t : Nat}
    (h : 0 < refs (releaseAll s slots) t) : contents (releaseAll s slots) t = contents s t := by
  induction slots generalizing s with
  | nil => rfl
  | cons x slots ih =>
    cases x with
    | none => exact ih h
    | some r =>
      -- whoever holds the block in the end held it after the first release, too
      refine (ih h).trans (contents_release ?_)
      have before : 0 < refs (s.release r) t - slots.count (some t) := by
        rw [← refs_releaseAll]
        exact h
      omega

@[simp] theorem size_retainAll (s : Counted) (slots : Slots Nat) :
    (retainAll s slots).cells.size = s.cells.size := by
  induction slots generalizing s with
  | nil => rfl
  | cons x slots ih =>
    cases x with
    | none => exact ih s
    | some r => exact (ih (s.retain r)).trans (size_update s r _)

@[simp] theorem size_releaseAll (s : Counted) (slots : Slots Nat) :
    (releaseAll s slots).cells.size = s.cells.size := by
  induction slots generalizing s with
  | nil => rfl
  | cons x slots ih =>
    cases x with
    | none => exact ih s
    | some r => exact (ih (s.release r)).trans (size_update s r _)

end Counted

end FaultyFlash
