import FaultyFlash.Store

/-!
# The store that shares nothing

Here a reference is the block itself: every holder has a block of its own, and holding one costs
no bookkeeping. It is what the counting store is measured against.
-/

namespace FaultyFlash

/-- The store that shares nothing; it holds nothing itself. -/
structure Plain where
  deriving DecidableEq, Repr

namespace Plain

instance : BlockStore Plain Block where
  empty := {}
  contents _ b := some b
  refs _ _ := 1
  alloc s b := (b, s)
  retain s _ := s
  release s _ := s
  replace s _ b := (b, s)

@[simp] theorem contents_eq (s : Plain) (b : Block) : BlockStore.contents s b = some b := rfl

@[simp] theorem refs_eq (s : Plain) (b : Block) : BlockStore.refs s b = 1 := rfl

@[simp] theorem replace_eq (s : Plain) (a b : Block) : BlockStore.replace s a b = (b, s) := rfl

end Plain

end FaultyFlash
