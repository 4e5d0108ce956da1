import FaultyFlash.Failure

/-!
# Configurations

What is fixed when a device is made: its geometry, what erased flash reads as, how worn blocks
and lost power show.

## Main definitions

* `Geometry`, `Geometry.check`: sizes, and the contract on them
* `WornBehavior`: how a worn block misbehaves
* `CrashBehavior`: what an interrupted prog or erase leaves behind
* `Config`, `Config.fill`, `Config.worn`: a configuration, what unwritten flash reads as, which
  wear is too much

## Main results

* `Geometry.of_checkBlock`, `Geometry.of_checkRegion`, `Geometry.of_check`: what the contract
  promises
-/

namespace FaultyFlash

/-- The sizes of a device, in bytes, and its number of blocks. -/
structure Geometry where
  readSize : Nat
  progSize : Nat
  blockSize : Nat
  blockCount : Nat
  deriving DecidableEq, Repr

namespace Geometry

/-- The number of bits in a block. -/
def blockBits (g : Geometry) : Nat := g.blockSize * 8

/-- An operation on a block is allowed if the device has the block. -/
def checkBlock (g : Geometry) (op : Operation) (block : Nat) : Except Misuse Unit :=
  if block < g.blockCount then .ok () else .error (.invalidBlock op block)

/-- An operation on a region is allowed if the device has the block, the region is aligned to the
granularity of the operation, and it lies in the block. -/
def checkRegion (g : Geometry) (op : Operation) (granularity block off len : Nat) :
    Except Misuse Unit := do
  g.checkBlock op block
  if off % granularity ≠ 0 ∨ len % granularity ≠ 0 then
    throw (.misaligned op off len granularity)
  if g.blockSize < off + len then
    throw (.outOfRange op off len)

theorem of_checkBlock {g : Geometry} {op : Operation} {block : Nat} {x : Unit}
    (h : g.checkBlock op block = .ok x) : block < g.blockCount := by
  unfold checkBlock at h
  split at h
  · assumption
  · cases h

theorem of_checkRegion {g : Geometry} {op : Operation} {granularity block off len : Nat} {x : Unit}
    (h : g.checkRegion op granularity block off len = .ok x) :
    block < g.blockCount ∧ off + len ≤ g.blockSize := by
  unfold checkRegion at h
  cases hb : g.checkBlock op block with
  | error m =>
    rw [hb] at h
    cases h
  | ok _ =>
    rw [hb] at h
    simp only [bind, Except.bind] at h
    split at h
    · cases h
    split at h
    · cases h
    · exact ⟨of_checkBlock hb, by omega⟩

/-- A geometry is usable if the granularities are positive and divide a positive block size, and
there is a block. -/
def check (g : Geometry) : Except Misuse Unit :=
  if g.readSize = 0 ∨ g.progSize = 0 then .error .zeroGranularity
  else if g.blockSize = 0 ∨ g.blockSize % g.readSize ≠ 0 ∨ g.blockSize % g.progSize ≠ 0 then
    .error (.blockSize g.blockSize g.readSize g.progSize)
  else if g.blockCount = 0 then .error .noBlocks
  else .ok ()

theorem of_check {g : Geometry} (h : g.check = .ok ()) :
    g.readSize ≠ 0 ∧ g.progSize ≠ 0 ∧ g.blockSize ≠ 0 ∧ g.blockCount ≠ 0 := by
  unfold check at h
  split at h
  · cases h
  next granular =>
  split at h
  · cases h
  next sized =>
  split at h
  · cases h
  next blocks =>
  exact ⟨fun none => granular (.inl none), fun none => granular (.inr none),
    fun none => sized (.inl none), blocks⟩

/-- The text that describes a geometry. -/
def describe (g : Geometry) : String :=
  s!"Geometry \x7b read_size: {g.readSize}, prog_size: {g.progSize}, " ++
    s!"block_size: {g.blockSize}, block_count: {g.blockCount} \x7d"

end Geometry

/-- How a block misbehaves once it is worn out. -/
inductive WornBehavior where
  /-- Progs fail. -/
  | progError
  /-- Erases fail. -/
  | eraseError
  /-- Reads fail. -/
  | readError
  /-- Progs do nothing. -/
  | progNoop
  /-- Erases do nothing. -/
  | eraseNoop
  /-- Progs land with the bad bit inverted. -/
  | progFlip
  /-- Progs land and leave the bad bit metastable. -/
  | readFlip
  deriving DecidableEq, Repr

/-- What an interrupted prog or erase leaves behind. -/
inductive CrashBehavior where
  /-- Nothing of it. -/
  | noop
  /-- One of the bits it changes. -/
  | someBits
  /-- All of it but one bit. -/
  | mostBits
  /-- All of it, while every other block returns to the last sync. -/
  | outOfOrder
  /-- All of it, with one bit metastable. -/
  | metastable
  deriving DecidableEq, Repr

/-- Where the image file of a device is to be kept. -/
inductive ImageFile where
  /-- Nowhere. -/
  | absent
  /-- In a file that can be made and written. -/
  | writable
  /-- In a file that can be made, but takes nothing that is written to it later. -/
  | sealed
  /-- In a file that cannot be made. -/
  | unwritable
  deriving DecidableEq, Repr

/-- The configuration of a device. -/
structure Config where
  geometry : Geometry
  /-- What erased flash reads as; without it erases keep the bytes and progs need no erase. -/
  eraseValue : Option UInt8 := none
  /-- The erases a block survives; zero switches wear off. -/
  endurance : UInt32 := 0
  worn : WornBehavior := .progError
  /-- The progs and erases until power is lost; zero switches power loss off. -/
  countdown : UInt32 := 0
  crash : CrashBehavior := .noop
  /-- The first state of the generator. -/
  seed : UInt32 := 0
  /-- The pause after each read, prog and erase in microseconds. -/
  pause : Option Nat := none
  image : ImageFile := .absent
  deriving DecidableEq, Repr

namespace Config

/-- What flash reads as before it is written. -/
def fill (cfg : Config) : UInt8 := cfg.eraseValue.getD 0

/-- Is a block with this wear worn out? -/
def isWorn (cfg : Config) (wear : UInt32) : Bool :=
  cfg.endurance > 0 && wear > cfg.endurance

/-- One more than a word, but never past the greatest. -/
def successor (w : UInt32) : UInt32 := if w = 0xffffffff then w else w + 1

/-- The least wear that wears a block out. -/
def wornOut (cfg : Config) : UInt32 := successor cfg.endurance

/-- The block size from which on no block can be allocated, two to the 56th. Memory never runs out
otherwise: smaller blocks are always allocated and duplicated, and there is always room for a table
of slots. -/
def allocationLimit : Nat := 0x100000000000000

end Config

end FaultyFlash
