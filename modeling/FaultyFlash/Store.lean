import FaultyFlash.Block

/-!
# Stores of blocks

Devices hold references to blocks that are kept in a store, so that copies of a device, its last
sync and the state kept while a crash is answered may hold the same block. A store says how many
hold it. There are two: one counts references and keeps each block once, the other gives every
holder a block of its own.

## Main definitions

* `BlockStore S R`: stores `S` with references `R`
* `Slots`, `BlockStore.retainAll`, `BlockStore.releaseAll`: tables of references
-/

namespace FaultyFlash

/-- Stores of blocks of type `S`, whose references have type `R`. -/
class BlockStore (S : Type) (R : outParam Type) where
  /-- The store without blocks. -/
  empty : S
  /-- The block a reference stands for; `none` if it dangles. -/
  contents : S → R → Option Block
  /-- How many hold the block of a reference. -/
  refs : S → R → Nat
  /-- Keeps a new block and gives its one reference. -/
  alloc : S → Block → R × S
  /-- Records one more holder. -/
  retain : S → R → S
  /-- Records one holder less; a block that nobody holds is no longer kept. -/
  release : S → R → S
  /-- Replaces the block of a reference, for all who hold it. -/
  replace : S → R → Block → R × S

/-- A table of blocks by address; `none` where nothing was ever written. -/
abbrev Slots (R : Type) := List (Option R)

namespace BlockStore

variable {S R : Type} [BlockStore S R]

/-- Records one more holder of every block of a table. -/
def retainAll (s : S) (slots : Slots R) : S :=
  (slots.filterMap id).foldl retain s

/-- Records one holder less of every block of a table. -/
def releaseAll (s : S) (slots : Slots R) : S :=
  (slots.filterMap id).foldl release s

@[simp] theorem retainAll_nil (s : S) : retainAll s ([] : Slots R) = s := rfl

@[simp] theorem retainAll_none (s : S) (slots : Slots R) :
    retainAll s (none :: slots) = retainAll s slots := rfl

@[simp] theorem retainAll_some (s : S) (r : R) (slots : Slots R) :
    retainAll s (some r :: slots) = retainAll (retain s r) slots := rfl

@[simp] theorem releaseAll_nil (s : S) : releaseAll s ([] : Slots R) = s := rfl

@[simp] theorem releaseAll_none (s : S) (slots : Slots R) :
    releaseAll s (none :: slots) = releaseAll s slots := rfl

@[simp] theorem releaseAll_some (s : S) (r : R) (slots : Slots R) :
    releaseAll s (some r :: slots) = releaseAll (release s r) slots := rfl

end BlockStore

end FaultyFlash
