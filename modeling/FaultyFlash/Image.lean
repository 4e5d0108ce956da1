import FaultyFlash.Checksum
import FaultyFlash.Config

/-!
# Image files

A file that lays the blocks of a device out one after another, for tools that look at the device
from outside. It is written and never read back.

## Main definitions

* `Image.create`: the image of a device on which nothing was written
* `Image.writeAt`, `Image.write`: bytes written at a position, at an offset of a block
* `Image.history`: the images along some writes
* `Image.crc`: the checksum of an image

## Main results

* `Image.writeAt_nil`: writing nothing changes nothing, wherever it goes
* `Image.length_writeAt`: a file grows to hold what is written
-/

namespace FaultyFlash

/-- The bytes of an image file. -/
structure Image where
  bytes : Bytes
  deriving DecidableEq, Repr

namespace Image

/-- The image of `count` blocks of `size` bytes that all read as `fill`. -/
def create (size count : Nat) (fill : UInt8) : Image :=
  ⟨(List.replicate count (List.replicate size fill)).flatten⟩

/-- Writes bytes at a position; a gap before them reads as zero. -/
def writeAt (i : Image) (pos : Nat) (data : Bytes) : Image :=
  if data.isEmpty then i
  else
    let front := i.bytes.take pos ++ List.replicate (pos - i.bytes.length) 0
    ⟨front ++ data ++ i.bytes.drop (pos + data.length)⟩

/-- Writes bytes at an offset of a block of a device with blocks of `size` bytes. -/
def write (i : Image) (size block off : Nat) (data : Bytes) : Image :=
  i.writeAt (block * size + off) data

/-- A write to an image: an address, an offset, and bytes. -/
structure Write where
  block : Nat
  off : Nat
  data : Bytes
  deriving DecidableEq, Repr

/-- The images after each of some writes, one after another, and before them. -/
def history (i : Image) (size : Nat) : List Write → List Image
  | [] => [i]
  | w :: ws => i :: (i.write size w.block w.off w.data).history size ws

/-- The checksum of an image. -/
def crc (i : Image) : UInt32 := Checksum.crc i.bytes

@[simp] theorem writeAt_nil (i : Image) (pos : Nat) : i.writeAt pos [] = i := rfl

theorem length_create (size count : Nat) (fill : UInt8) :
    (create size count fill).bytes.length = count * size := by
  simp [create]

theorem length_writeAt (i : Image) (pos : Nat) {data : Bytes} (h : data ≠ []) :
    (i.writeAt pos data).bytes.length = max i.bytes.length (pos + data.length) := by
  have : data.isEmpty = false := by simpa using h
  simp only [writeAt, this, Bool.false_eq_true, if_false, List.length_append, List.length_take,
    List.length_replicate, List.length_drop]
  omega

end Image

end FaultyFlash
