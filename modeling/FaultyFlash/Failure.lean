/-!
# Failures

Why an operation gives no answer. A *fault* is an answer of the device to its user: worn flash, no
memory, a failing image file, lost power. A *misuse* is a breach of the contract by the user. A
*defect* is a breach of the device's own invariants, which no user can cause.

## Main definitions

* `Fault`, `Fault.errno`, `Fault.message`: the faults, their codes and texts
* `Misuse`, `Misuse.message`: the contract, clause by clause
* `Defect`, `Defect.message`: the internal assumptions of the device
* `Failure`: any of the three
-/

namespace FaultyFlash

/-- What a device reports to its user. -/
inductive Fault where
  /-- The block is worn out. -/
  | corrupt (block : Nat)
  /-- A block could not be allocated. -/
  | noMemory
  /-- The image file could not be used; the text is missing when the operating system gave it. -/
  | io (text : Option String)
  /-- Power was cut during a prog or erase. -/
  | powerLoss
  deriving DecidableEq, Repr

namespace Fault

/-- The negative error code of a fault. -/
def errno : Fault → Int
  | corrupt _ => -84
  | noMemory => -12
  | io _ => -5
  | powerLoss => -4

/-- The text of a fault, unless the operating system words it. -/
def message : Fault → Option String
  | corrupt block => some s!"block {block} is corrupt"
  | noMemory => some "out of memory"
  | io text => text.map fun t => s!"disk mirror I/O error: {t}"
  | powerLoss => some "power lost"

/-- Is the fault a power loss? -/
def isPowerLoss : Fault → Bool
  | powerLoss => true
  | _ => false

end Fault

/-- The operations that name a block, as the contract spells them. -/
inductive Operation where
  | read
  | prog
  | erase
  | wear
  | setWear
  | isBad
  | badBit
  | setBadBit
  | randomizeBadBit
  | isMetastable
  | flipBit
  | blockRefs
  | crc
  deriving DecidableEq, Repr

/-- The name of an operation in texts. -/
def Operation.name : Operation → String
  | read => "read"
  | prog => "prog"
  | erase => "erase"
  | wear => "wear"
  | setWear => "set_wear"
  | isBad => "is_bad"
  | badBit => "bad_bit"
  | setBadBit => "set_bad_bit"
  | randomizeBadBit => "randomize_bad_bit"
  | isMetastable => "is_metastable"
  | flipBit => "flip_bit"
  | blockRefs => "block_refs"
  | crc => "crc"

/-- A breach of the contract by the user. -/
inductive Misuse where
  /-- The read or prog granularity is zero. -/
  | zeroGranularity
  /-- The block size is zero or no multiple of both granularities. -/
  | blockSize (blockSize readSize progSize : Nat)
  /-- The device has no blocks. -/
  | noBlocks
  /-- The block lies outside the device. -/
  | invalidBlock (op : Operation) (block : Nat)
  /-- The offset or length is no multiple of the granularity. -/
  | misaligned (op : Operation) (off len granularity : Nat)
  /-- The region leaves the block. -/
  | outOfRange (op : Operation) (off len : Nat)
  /-- The bad bit would lie outside its block. -/
  | badBitOutside (bit : Nat)
  /-- The bit to invert lies outside its block. -/
  | flipOutside (bit : Nat)
  /-- The region to program was not erased. -/
  | notErased (block off : Nat)
  deriving DecidableEq, Repr

/-- The text of a breach of the contract. -/
def Misuse.message : Misuse → String
  | zeroGranularity => "emubd: read_size and prog_size must be non-zero"
  | blockSize size read prog =>
    s!"emubd: block_size {size} must be a multiple of read_size {read} and prog_size {prog}"
  | noBlocks => "emubd: block_count must be non-zero"
  | invalidBlock op block => s!"emubd: {op.name} called on invalid block {block}"
  | misaligned op off len granularity =>
    s!"emubd: {op.name} misaligned: off = {off}, len = {len}, granularity = {granularity}"
  | outOfRange op off len =>
    s!"emubd: {op.name} called on invalid range: off = {off}, len = {len}"
  | badBitOutside bit => s!"emubd: bad bit {bit} outside of block"
  | flipOutside bit => s!"emubd: flip_bit of bit {bit} outside of block"
  | notErased block off => s!"emubd: prog of block {block} at off {off} without a prior erase"

/-- A breach of the device's own invariants. -/
inductive Defect where
  /-- A value was drawn from an empty range. -/
  | emptyRange
  /-- The slot table does not reach to the block. -/
  | slotTable (block : Nat)
  /-- A slot refers to a block that is no longer stored. -/
  | dangling (block : Nat)
  /-- The block is not stored although it was just made. -/
  | vanished (block : Nat)
  /-- A region of a buffer lies outside the buffer. -/
  | region (off len : Nat)
  /-- A bit of a buffer lies outside the buffer. -/
  | position (bit : Nat)
  /-- No state was set aside that a device could return to. -/
  | notSuspended
  deriving DecidableEq, Repr

/-- The text of a broken invariant. -/
def Defect.message : Defect → String
  | emptyRange => "prng: below called with an empty range"
  | slotTable block => s!"no slot for block {block}"
  | dangling block => s!"the slot of block {block} dangles"
  | vanished block => s!"emubd: block {block} vanished after allocation"
  | region off len => s!"no region of {len} bytes at {off}"
  | position bit => s!"no bit {bit}"
  | notSuspended => "no state was set aside"

/-- Why an operation gives no answer. -/
inductive Failure where
  | fault (f : Fault)
  | misuse (m : Misuse)
  | defect (d : Defect)
  deriving DecidableEq, Repr

/-- Is the failure a power loss? -/
def Failure.isPowerLoss : Failure → Bool
  | fault f => f.isPowerLoss
  | _ => false

end FaultyFlash
