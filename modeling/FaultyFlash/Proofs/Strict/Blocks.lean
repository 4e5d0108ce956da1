import Mathlib.Algebra.Group.Nat.Defs
import FaultyFlash.Proofs.Completion

/-!
# Blocks, with numbers that must fit

The same questions about blocks and changes of blocks, with numbers that are words of 64 bits. A sum
or a product that does not fit in a word, a difference below zero, or a remainder by zero is a slip.
For a block of the configured size and a region that stays within it there is none.

## Main definitions

* `Slip`: why a strict computation gives no answer
* `Strict.word`, `Strict.minus`, `Strict.remainder`: numbers that fit, differences and remainders
* `Strict.checkRegion`, `Strict.badBitPos`, `Strict.landed`, …: contracts and blocks

## Main results

* `Strict.checkRegion_eq`: contracts are checked without a slip
* `Strict.badBitPos_eq`, `Strict.landed_eq`, `Strict.programmed_eq`: so are blocks changed
-/

namespace FaultyFlash

/-- Why a strict computation gives no answer. -/
inductive Slip where
  | failed (e : Failure)
  /-- A number does not fit in its word, or there was a division by zero. -/
  | arithmetic
  deriving DecidableEq, Repr

/-- A breach of the contract is one also in a strict computation. -/
abbrev Slip.misuse (m : Misuse) : Slip := .failed (.misuse m)

/-- So is a broken invariant. -/
abbrev Slip.defect (d : Defect) : Slip := .failed (.defect d)

namespace Strict

variable {cfg : Config} {g : Geometry} {b : Block} {u : Update} {n off len granularity : Nat}

/-! ## Numbers -/

/-- A number that must fit in a word. -/
def word (n : Nat) : Except Slip Nat := if n < 2 ^ 64 then .ok n else .error .arithmetic

/-- A difference that must not fall below zero. -/
def minus (m n : Nat) : Except Slip Nat := if n ≤ m then .ok (m - n) else .error .arithmetic

/-- A remainder, but not by zero. -/
def remainder (m n : Nat) : Except Slip Nat := if n = 0 then .error .arithmetic else .ok (m % n)

theorem word_eq (h : n < 2 ^ 64) : word n = .ok n := if_pos h

theorem minus_eq {m : Nat} (h : n ≤ m) : minus m n = .ok (m - n) := if_pos h

theorem remainder_eq {m : Nat} (h : n ≠ 0) : remainder m n = .ok (m % n) := if_neg h

/-- An answer stays as it is where failures are named otherwise. -/
theorem mapError_ok {ε α : Type} (f : ε → Slip) (a : α) :
    (Except.ok a : Except ε α).mapError f = .ok a := rfl

/-- The bit at a distance from the start of a byte. -/
def position (off bit : Nat) : Except Slip Nat := do
  word ((← word (off * 8)) + bit)

theorem position_eq {bit : Nat} (h : off * 8 + bit < 2 ^ 64) :
    position off bit = .ok (off * 8 + bit) := by
  have start : off * 8 < 2 ^ 64 := by omega
  rw [position, word_eq start]
  exact word_eq h

/-- Numbers that fit one by one fit together. -/
theorem mapM_word {ns : List Nat} (h : ∀ n ∈ ns, n < 2 ^ 64) : ns.mapM word = .ok ns := by
  induction ns with
  | nil => rfl
  | cons n ns ih =>
    rw [List.mapM_cons, word_eq (h n List.mem_cons_self),
      ih fun m hm => h m (List.mem_cons_of_mem _ hm)]
    rfl

/-! ## Contracts -/

/-- The number of bits in a block. -/
def blockBits (g : Geometry) : Except Slip Nat := word (g.blockSize * 8)

/-- An operation on a region is allowed as `Geometry.checkRegion` says. -/
def checkRegion (g : Geometry) (op : Operation) (granularity block off len : Nat) :
    Except Slip Unit := do
  (g.checkBlock op block).mapError .misuse
  let first ← remainder off granularity
  let rest ← remainder len granularity
  if first ≠ 0 ∨ rest ≠ 0 then
    throw (.misuse (.misaligned op off len granularity))
  if g.blockSize < off then
    throw (.misuse (.outOfRange op off len))
  if (← minus g.blockSize off) < len then
    throw (.misuse (.outOfRange op off len))

/-- Contracts are checked without a slip. -/
theorem checkRegion_eq (h : granularity ≠ 0) (op : Operation) (block off len : Nat) :
    checkRegion g op granularity block off len =
      (g.checkRegion op granularity block off len).mapError .misuse := by
  unfold checkRegion Geometry.checkRegion
  cases g.checkBlock op block with
  | error m => rfl
  | ok _ =>
    simp only [remainder_eq h, bind, Except.bind, mapError_ok]
    by_cases aligned : off % granularity ≠ 0 ∨ len % granularity ≠ 0
    · simp only [if_pos aligned]
      rfl
    · simp only [if_neg aligned]
      -- past the end of the block, or too long for what is left of it
      by_cases past : g.blockSize < off
      · have outside : g.blockSize < off + len := by omega
        simp only [if_pos past, if_pos outside]
        rfl
      · simp only [if_neg past, minus_eq (Nat.not_lt.1 past)]
        by_cases long : g.blockSize - off < len
        · have outside : g.blockSize < off + len := by omega
          simp only [if_pos long, if_pos outside]
          rfl
        · have inside : ¬ g.blockSize < off + len := by omega
          simp only [if_neg long, if_neg inside]
          rfl

/-! ## Blocks -/

/-- The position of the bad bit. -/
def badBitPos (b : Block) : Except Slip Nat := do
  remainder (b.badBit &&& ~~~Block.pin).toNat (← word (b.data.length * 8))

/-- Does the region hold the byte of the bad bit? -/
def covers (b : Block) (off len : Nat) : Except Slip Bool := do
  let byte := (← badBitPos b) / 8
  if byte < off then
    return false
  return byte < (← word (off + len))

/-- The bytes of a region of the block. -/
def region (b : Block) (off len : Nat) : Except Slip Bytes := do
  let _ ← word (off + len)
  (b.region off len).mapError .defect

/-- The block with a region replaced. -/
def overwrite (b : Block) (off : Nat) (new : Bytes) : Except Slip Block := do
  let _ ← word (off + new.length)
  (b.overwrite off new).mapError .defect

/-- The block with one bit inverted. -/
def flip (b : Block) (bit : Nat) : Except Slip Block := (b.flip bit).mapError .defect

/-- A block after an update of a region. -/
def landed (cfg : Config) (u : Update) (off len : Nat) (b : Block) : Except Slip Block := do
  overwrite b off (u.outcome cfg (← region b off len))

/-- A block after a prog. -/
def programmed (cfg : Config) (worn : Bool) (off : Nat) (data : Bytes) (b : Block) :
    Except Slip Block := do
  let b := { ← overwrite b off data with metastable := worn && cfg.worn = .readFlip }
  if worn && cfg.worn = .progFlip then
    if ← covers b off data.length then flip b (← badBitPos b) else pure b
  else
    pure b

theorem region_eq (h : off + len < 2 ^ 64) :
    region b off len = (b.region off len).mapError .defect := by
  rw [region, word_eq h]
  rfl

theorem overwrite_eq {new : Bytes} (h : off + new.length < 2 ^ 64) :
    overwrite b off new = (b.overwrite off new).mapError .defect := by
  rw [overwrite, word_eq h]
  rfl

section

variable (room : cfg.Roomy)

include room

/-- The bits of a block are counted by a word. -/
theorem bits_lt : cfg.geometry.blockSize * 8 < 2 ^ 64 := by
  have limit := room.limit
  unfold Config.allocationLimit at limit
  omega

theorem blockBits_eq : blockBits cfg.geometry = .ok cfg.geometry.blockBits := word_eq (bits_lt room)

/-- So are the bytes of a region of a block. -/
theorem region_lt (h : n ≤ cfg.geometry.blockSize) : n < 2 ^ 64 := by
  have bits := bits_lt room
  omega

/-- A bit of a region is found by a word. -/
theorem position_of_region {bit : Nat} (inside : off + len ≤ cfg.geometry.blockSize)
    (within : bit < len * 8) : position off bit = .ok (off * 8 + bit) := by
  have bits := bits_lt room
  exact position_eq (by omega)

variable (size : b.data.length = cfg.geometry.blockSize)

include size

/-- The position of a bad bit is found without a slip. -/
theorem badBitPos_eq : badBitPos b = .ok b.badBitPos := by
  have some : b.data.length * 8 ≠ 0 := by
    rw [size]
    exact room.bits
  rw [badBitPos, word_eq (by rw [size]; exact bits_lt room)]
  exact remainder_eq some

theorem covers_eq (inside : off + len ≤ cfg.geometry.blockSize) :
    covers b off len = .ok (b.covers off len) := by
  rw [covers, badBitPos_eq room size, word_eq (region_lt room inside), Block.covers]
  by_cases before : b.badBitPos / 8 < off
  · have outside : ¬ off ≤ b.badBitPos / 8 := by omega
    simp [bind, Except.bind, pure, Except.pure, before, outside]
  · have after : off ≤ b.badBitPos / 8 := by omega
    simp [bind, Except.bind, pure, Except.pure, before, after]

/-- A block is programmed without a slip. -/
theorem programmed_eq {worn : Bool} {data : Bytes}
    (inside : off + data.length ≤ cfg.geometry.blockSize) :
    programmed cfg worn off data b = (Flash.programmed cfg worn off data b).mapError .defect := by
  rw [programmed, Flash.programmed, overwrite_eq (region_lt room inside)]
  cases written : b.overwrite off data with
  | error d => rfl
  | ok c =>
    have size' : c.data.length = cfg.geometry.blockSize :=
      (Block.length_overwrite written).trans size
    simp only [mapError_ok, bind, Except.bind]
    -- the bad bit is looked for in the block as it was just written
    generalize new : Block.mk c.wear (worn && decide (cfg.worn = .readFlip)) c.badBit c.data = c'
    have size' : c'.data.length = cfg.geometry.blockSize := new ▸ size'
    by_cases flips : (worn && cfg.worn = .progFlip) = true
    · simp only [flips, Bool.true_and, if_true, covers_eq room size' inside,
        badBitPos_eq room size']
      split <;> rfl
    · rw [if_neg flips, if_neg (by simp [flips])]
      rfl

end

/-- An update that fits lands without a slip. -/
theorem landed_eq (room : cfg.Roomy) (fits : u.Fits cfg) :
    landed cfg u (u.region cfg).1 (u.region cfg).2 b =
      (Flash.landed cfg u (u.region cfg).1 (u.region cfg).2 b).mapError .defect := by
  have inside := region_lt room fits.region
  rw [landed, Flash.landed, region_eq inside]
  cases held : b.region (u.region cfg).1 (u.region cfg).2 with
  | error d => rfl
  | ok old =>
    obtain ⟨rfl, within⟩ := Block.region_ok held
    generalize cut : (b.data.drop (u.region cfg).1).take (u.region cfg).2 = old
    have length : (u.outcome cfg old).length = (u.region cfg).2 :=
      Flash.length_outcome (by rw [← cut]; simp; omega)
    exact overwrite_eq (by rwa [length])

/-- A change after the landing of an update that fits never slips where it does not slip itself. -/
theorem landed_bind_eq (room : cfg.Roomy) (fits : u.Fits cfg) {careful : Block → Except Slip Block}
    {change : Block → Except Defect Block} (h : ∀ c, careful c = (change c).mapError .defect)
    (b : Block) :
    (do careful (← landed cfg u (u.region cfg).1 (u.region cfg).2 b)) =
      (do change (← Flash.landed cfg u (u.region cfg).1 (u.region cfg).2 b)).mapError .defect := by
  rw [landed_eq room fits]
  cases Flash.landed cfg u (u.region cfg).1 (u.region cfg).2 b with
  | error d => rfl
  | ok c => exact h c

end Strict

end FaultyFlash
