import FaultyFlash.Bytes

/-!
# The Castagnoli checksum

CRC-32C, bit by bit: the remainder is kept least significant bit first, each bit shifts it down
and folds the polynomial in when the bit that leaves is set. Remainders are complemented on the
way in and on the way out, so checksums of parts combine by `append`.

## Main definitions

* `Checksum.shiftBit`, `Checksum.absorb`: one bit, one byte
* `Checksum.append`: the checksum of a buffer followed by another
* `Checksum.crc`: the checksum of a buffer

## Main results

* `Checksum.crc_append`: the checksum of a concatenation
-/

namespace FaultyFlash

namespace Checksum

/-- The Castagnoli polynomial, least significant bit first. -/
def polynomial : UInt32 := 0x82f63b78

/-- Shifts one bit out of the remainder. -/
def shiftBit (r : UInt32) : UInt32 :=
  if r &&& 1 = 1 then (r >>> 1) ^^^ polynomial else r >>> 1

/-- Takes one byte into the remainder. -/
def absorb (r : UInt32) (b : UInt8) : UInt32 :=
  Nat.repeat shiftBit 8 (r ^^^ b.toUInt32)

/-- The checksum of a buffer with checksum `c` continued by `bs`. -/
def append (c : UInt32) (bs : Bytes) : UInt32 :=
  ~~~ (bs.foldl absorb (~~~ c))

/-- The checksum of a buffer. -/
def crc (bs : Bytes) : UInt32 := append 0 bs

@[simp] theorem append_nil (c : UInt32) : append c [] = c := by
  simp [append]

/-- Continuing twice is continuing by the concatenation. -/
theorem append_append (c : UInt32) (as bs : Bytes) :
    append (append c as) bs = append c (as ++ bs) := by
  simp [append]

/-- The checksum of a concatenation continues the checksum of its first part. -/
theorem crc_append (as bs : Bytes) : crc (as ++ bs) = append (crc as) bs :=
  (append_append 0 as bs).symm

end Checksum

end FaultyFlash
