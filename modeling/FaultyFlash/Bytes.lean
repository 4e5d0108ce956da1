/-!
# Byte buffers

Buffers of bytes, addressed by byte and by bit. Bit `i` of a buffer is bit `i % 8` of byte `i / 8`,
least significant first. Regions are cut out and written back only when the buffer holds them
whole, so an answer `none` says that a region or a bit lies outside.

## Main definitions

* `Bytes.slice?`, `Bytes.splice?`, `Bytes.flip?`: a region, a region replaced, a bit inverted
* `Bytes.bit`: a bit of a buffer
* `Bytes.diff`: the bits in which two buffers differ
* `Bytes.ofWord`, `Bytes.word`: 32-bit words, least significant byte first

## Main results

* `Bytes.take_drop_replicate`: a region of equal bytes
* `Bytes.length_of_splice?`, `Bytes.length_of_flip?`: writing keeps the length
* `Bytes.lt_of_mem_diff`: buffers differ only in bits that they have
* `Bytes.word_ofWord`: a word reads back
-/

namespace FaultyFlash

/-- A buffer of bytes. -/
abbrev Bytes := List UInt8

namespace Bytes

/-- The `len` bytes from offset `off`, if the buffer holds them all. -/
def slice? (bs : Bytes) (off len : Nat) : Option Bytes :=
  if off + len ≤ bs.length then some ((bs.drop off).take len) else none

/-- The buffer with its bytes from offset `off` replaced by `new`, if it holds that region. -/
def splice? (bs : Bytes) (off : Nat) (new : Bytes) : Option Bytes :=
  if off + new.length ≤ bs.length then
    some (bs.take off ++ new ++ bs.drop (off + new.length))
  else
    none

/-- Bit `i` of the buffer; a bit outside is clear. -/
def bit (bs : Bytes) (i : Nat) : Bool :=
  (bs[i / 8]?.getD 0).toNat.testBit (i % 8)

/-- The byte in which bit `j` alone is set. -/
def mask (j : Nat) : UInt8 := 1 <<< j.toUInt8

/-- The buffer with bit `i` inverted, if it holds that bit. -/
def flip? (bs : Bytes) (i : Nat) : Option Bytes :=
  if i / 8 < bs.length then some (bs.modify (i / 8) (· ^^^ mask (i % 8))) else none

/-- The bits in which two bytes differ, in increasing order. -/
def byteDiff (a b : UInt8) : List Nat :=
  (List.range 8).filter (a ^^^ b).toNat.testBit

/-- The bits in which two buffers differ, for buffers that start at byte `start`. -/
def diffFrom (start : Nat) : Bytes → Bytes → List Nat
  | a :: old, b :: new => (byteDiff a b).map (8 * start + ·) ++ diffFrom (start + 1) old new
  | _, _ => []

/-- The bits in which two buffers differ, in increasing order. -/
def diff (old new : Bytes) : List Nat := diffFrom 0 old new

/-- The four bytes of a word, least significant first. -/
def ofWord (w : UInt32) : Bytes :=
  [w.toUInt8, (w >>> 8).toUInt8, (w >>> 16).toUInt8, (w >>> 24).toUInt8]

/-- The word at offset `off`, least significant byte first; bytes outside the buffer are zero. -/
def word (bs : Bytes) (off : Nat) : UInt32 :=
  let byte (i : Nat) : UInt32 := (bs[off + i]?.getD 0).toUInt32
  byte 0 ||| (byte 1 <<< 8) ||| (byte 2 <<< 16) ||| (byte 3 <<< 24)

/-- A region of equal bytes. -/
theorem take_drop_replicate {n off len : Nat} (h : off + len ≤ n) (x : UInt8) :
    ((List.replicate n x).drop off).take len = List.replicate len x := by
  rw [List.drop_replicate, List.take_replicate, Nat.min_eq_left (by omega)]

theorem length_of_splice? {bs new out : Bytes} {off : Nat} (h : bs.splice? off new = some out) :
    out.length = bs.length := by
  unfold splice? at h
  split at h
  · cases h
    simp
    omega
  · cases h

theorem length_of_flip? {bs out : Bytes} {i : Nat} (h : bs.flip? i = some out) :
    out.length = bs.length := by
  unfold flip? at h
  split at h
  · cases h
    simp
  · cases h

@[simp] theorem length_ofWord (w : UInt32) : (ofWord w).length = 4 := rfl

@[simp] theorem diff_nil (new : Bytes) : diff [] new = [] := rfl

theorem lt_of_mem_diffFrom {start bit : Nat} {old new : Bytes} (h : bit ∈ diffFrom start old new) :
    bit < (start + old.length) * 8 := by
  induction old generalizing start new with
  | nil => cases h
  | cons a old ih =>
    cases new with
    | nil => cases h
    | cons b new =>
      rw [diffFrom, List.mem_append] at h
      rcases h with here | later
      · obtain ⟨i, hi, rfl⟩ := List.mem_map.1 here
        have := List.mem_range.1 (List.mem_filter.1 hi).1
        rw [List.length_cons]
        omega
      · have := ih later
        rw [List.length_cons]
        omega

/-- Buffers differ only in bits of the first. -/
theorem lt_of_mem_diff {bit : Nat} {old new : Bytes} (h : bit ∈ diff old new) :
    bit < old.length * 8 := by
  simpa using lt_of_mem_diffFrom h

/-- Remainder by 256 keeps the low eight bits. -/
theorem getLsbD_umod_byte (x : BitVec 32) (i : Nat) :
    (x % 256#32).getLsbD i = (decide (i < 8) && x.getLsbD i) := by
  rw [BitVec.getLsbD, BitVec.toNat_umod]
  exact Nat.testBit_mod_two_pow x.toNat 8 i

/-- A word reads back from its bytes. -/
theorem word_ofWord (w : UInt32) : word (ofWord w) 0 = w := by
  apply UInt32.toBitVec_inj.1
  apply BitVec.eq_of_getLsbD_eq
  intro i hi
  -- bit `i` comes from one of the four bytes
  have h : i < 8 ∨ (8 ≤ i ∧ i < 16) ∨ (16 ≤ i ∧ i < 24) ∨ (24 ≤ i ∧ i < 32) := by omega
  simp only [word, ofWord, List.getElem?_cons_zero, Nat.zero_add, Option.getD_some,
    List.getElem?_cons_succ]
  simp [getLsbD_umod_byte, BitVec.getLsbD_ushiftRight]
  rcases h with h | ⟨h, h'⟩ | ⟨h, h'⟩ | ⟨h, h'⟩
  · have h1 : i < 16 := by omega
    have h2 : i < 24 := by omega
    simp [h, h1, h2]
  · have h1 : ¬ i < 8 := by omega
    have h2 : i < 24 := by omega
    have h3 : i - 8 < 8 := by omega
    have h4 : 8 + (i - 8) = i := by omega
    simp [hi, h1, h', h2, h3, h4]
  · have h1 : ¬ i < 8 := by omega
    have h2 : ¬ i < 16 := by omega
    have h3 : i - 16 < 8 := by omega
    have h4 : ¬ i - 8 < 8 := by omega
    have h5 : 16 + (i - 16) = i := by omega
    simp [hi, h1, h', h2, h3, h4, h5]
  · have h1 : ¬ i < 8 := by omega
    have h2 : ¬ i < 16 := by omega
    have h3 : ¬ i < 24 := by omega
    have h4 : ¬ i - 8 < 8 := by omega
    have h5 : ¬ i - 16 < 8 := by omega
    have h6 : i - 24 < 8 := by omega
    have h7 : 24 + (i - 24) = i := by omega
    simp [hi, h1, h2, h3, h4, h5, h6, h7]

end Bytes

end FaultyFlash
