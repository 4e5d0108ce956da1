import Mathlib.Data.Nat.Bitwise
import FaultyFlash.Checksum
import FaultyFlash.Proofs.Bits

/-!
# Damage that a checksum detects

A shift of the remainder can be undone, and it is linear in exclusive or. A byte enters the
remainder where its bits are shifted out first, so bytes taken in one after another are taken in as
one number, as long as that fits the remainder. Four bytes do: buffers that differ only in four
bytes next to each other never have one checksum.

## Main definitions

* `Bytes.packed`: some bytes as one number, least significant first
* `Bytes.DamagedFrom p`: buffers that differ, but only in the four bytes from offset `p` on
* `Checksum.digest`: the checksum of the checksums of some buffers

## Main results

* `Checksum.shiftBit_xor`, `Checksum.repeat_shiftBit_inj`: shifts are linear and can be undone
* `Checksum.foldl_absorb`: the bytes of a window are taken in together
* `Checksum.append_left_inj`: different checksums stay different
* `Checksum.crc_ne`: a damaged buffer has another checksum
* `Checksum.digest_ne`: and so have buffers of which one is damaged
-/

namespace FaultyFlash

namespace Bytes

/-- Some bytes as one number, least significant first. -/
def packed : Bytes → UInt32
  | [] => 0
  | b :: bs => b.toUInt32 ^^^ (packed bs <<< 8)

theorem toNat_shiftLeft_byte {w : UInt32} (h : w.toNat < 2 ^ 24) :
    (w <<< 8).toNat = w.toNat * 2 ^ 8 := by
  rw [UInt32.toNat_shiftLeft, Nat.shiftLeft_eq]
  refine Nat.mod_eq_of_lt ?_
  rw [show (8 : UInt32).toNat % 32 = 8 from rfl]
  omega

theorem toNat_packed_lt {bs : Bytes} (short : bs.length ≤ 3) :
    (packed bs).toNat < 2 ^ (8 * bs.length) := by
  induction bs with
  | nil => decide
  | cons b bs ih =>
    rw [List.length_cons] at short ⊢
    have rest := ih (by omega)
    have fits : (packed bs).toNat < 2 ^ 24 :=
      Nat.lt_of_lt_of_le rest (Nat.pow_le_pow_right (by decide) (by omega))
    rw [packed, UInt32.toNat_xor, UInt8.toNat_toUInt32, toNat_shiftLeft_byte fits]
    apply Nat.xor_lt_two_pow
    · exact Nat.lt_of_lt_of_le b.toNat_lt (Nat.pow_le_pow_right (by decide) (by omega))
    · rw [show 8 * (bs.length + 1) = 8 * bs.length + 8 from rfl, Nat.pow_add]
      exact Nat.mul_lt_mul_of_pos_right rest (by decide)

theorem toNat_packed_lt_of_le {bs : Bytes} (short : bs.length ≤ 3) :
    (packed bs).toNat < 2 ^ 24 :=
  Nat.lt_of_lt_of_le (toNat_packed_lt short) (Nat.pow_le_pow_right (by decide) (by omega))

/-- A byte and a number above it are told apart. -/
theorem byte_xor_shiftLeft_inj {b c : UInt8} {v w : UInt32} (hv : v.toNat < 2 ^ 24)
    (hw : w.toNat < 2 ^ 24) (h : b.toUInt32 ^^^ (v <<< 8) = c.toUInt32 ^^^ (w <<< 8)) :
    b = c ∧ v = w := by
  have h := congrArg UInt32.toNat h
  rw [UInt32.toNat_xor, UInt32.toNat_xor, UInt8.toNat_toUInt32, UInt8.toNat_toUInt32,
    toNat_shiftLeft_byte hv, toNat_shiftLeft_byte hw] at h
  have low := congrArg (· % 2 ^ 8) h
  have high := congrArg (· / 2 ^ 8) h
  simp only [Nat.xor_mod_two_pow, Nat.xor_div_two_pow, Nat.mul_mod_left, Nat.xor_zero,
    Nat.mul_div_cancel _ (Nat.two_pow_pos 8), Nat.mod_eq_of_lt b.toNat_lt,
    Nat.mod_eq_of_lt c.toNat_lt, Nat.div_eq_of_lt b.toNat_lt, Nat.div_eq_of_lt c.toNat_lt,
    Nat.zero_xor] at low high
  exact ⟨UInt8.toNat_inj.1 low, UInt32.toNat_inj.1 high⟩

theorem packed_inj {bs cs : Bytes} (length : cs.length = bs.length) (short : bs.length ≤ 4)
    (h : packed bs = packed cs) : bs = cs := by
  induction bs generalizing cs with
  | nil => exact (List.length_eq_zero_iff.1 length).symm
  | cons b bs ih =>
    cases cs with
    | nil => cases length
    | cons c cs =>
      simp only [List.length_cons, Nat.add_right_cancel_iff] at length short
      obtain ⟨rfl, rest⟩ := byte_xor_shiftLeft_inj (toNat_packed_lt_of_le (by omega))
        (toNat_packed_lt_of_le (by omega)) h
      rw [ih length (by omega) rest]

/-- Buffers of one length that differ, but only in the four bytes from offset `p` on. -/
structure DamagedFrom (p : Nat) (bs cs : Bytes) : Prop where
  ne : bs ≠ cs
  length : cs.length = bs.length
  outside {i : Nat} (h : i < p ∨ p + 4 ≤ i) : cs[i]? = bs[i]?

theorem DamagedFrom.take {p : Nat} {bs cs : Bytes} (h : DamagedFrom p bs cs) :
    cs.take p = bs.take p := by
  apply List.ext_getElem?
  intro i
  rw [List.getElem?_take, List.getElem?_take]
  split
  · next before => exact h.outside (.inl before)
  · rfl

theorem DamagedFrom.drop {p : Nat} {bs cs : Bytes} (h : DamagedFrom p bs cs) :
    cs.drop (p + 4) = bs.drop (p + 4) := by
  apply List.ext_getElem?
  intro i
  rw [List.getElem?_drop, List.getElem?_drop]
  exact h.outside (.inr (by omega))

/-- A buffer is its first `p` bytes, the four bytes from there on, and the rest. -/
theorem eq_window (bs : Bytes) (p : Nat) :
    bs = bs.take p ++ (bs.region p 4 ++ bs.drop (p + 4)) := by
  rw [region, ← List.drop_drop, List.take_append_drop, List.take_append_drop]

theorem DamagedFrom.region {p : Nat} {bs cs : Bytes} (h : DamagedFrom p bs cs) :
    bs.region p 4 ≠ cs.region p 4 := by
  intro same
  apply h.ne
  rw [eq_window bs p, eq_window cs p, h.take, h.drop, same]

/-- A bit that is inverted damages four bytes at most. -/
theorem damagedFrom_of_flip? {bs cs : Bytes} {i : Nat} (h : bs.flip? i = some cs) :
    DamagedFrom (i / 8) bs cs where
  ne same := by
    subst same
    exact ((differAt_of_flip? h).2 i).2 rfl rfl
  length := length_of_flip? h
  outside out := getElem?_of_flip? h (by omega)

end Bytes

namespace Checksum

/-! ## Shifts -/

theorem and_one_eq_one {r : UInt32} : r &&& 1 = 1 ↔ r.toNat % 2 = 1 := by
  rw [← UInt32.toNat_inj, UInt32.toNat_and]
  exact iff_of_eq (congrArg (· = 1) (Nat.and_one_is_mod r.toNat))

theorem and_one_xor {r s : UInt32} :
    (r ^^^ s) &&& 1 = 1 ↔ ¬ (r &&& 1 = 1 ↔ s &&& 1 = 1) := by
  rw [and_one_eq_one, and_one_eq_one, and_one_eq_one, UInt32.toNat_xor,
    show (2 : Nat) = 2 ^ 1 from rfl, Nat.xor_mod_two_pow]
  rcases Nat.mod_two_eq_zero_or_one r.toNat with hr | hr <;>
    rcases Nat.mod_two_eq_zero_or_one s.toNat with hs | hs <;> simp [hr, hs]

theorem shiftBit_xor (r s : UInt32) : shiftBit (r ^^^ s) = shiftBit r ^^^ shiftBit s := by
  unfold shiftBit
  rw [UInt32.shiftRight_xor]
  by_cases hr : r &&& 1 = 1 <;> by_cases hs : s &&& 1 = 1
  · -- the polynomial was folded in twice
    rw [if_pos hr, if_pos hs, if_neg (by rw [and_one_xor]; simp [hr, hs])]
    rw [UInt32.xor_comm (s >>> 1), UInt32.xor_assoc, ← UInt32.xor_assoc polynomial,
      UInt32.xor_self, UInt32.zero_xor]
  · rw [if_pos hr, if_neg hs, if_pos (by rw [and_one_xor]; simp [hr, hs]), UInt32.xor_assoc,
      UInt32.xor_comm (s >>> 1), ← UInt32.xor_assoc]
  · rw [if_neg hr, if_pos hs, if_pos (by rw [and_one_xor]; simp [hr, hs]), UInt32.xor_assoc]
  · rw [if_neg hr, if_neg hs, if_neg (by rw [and_one_xor]; simp [hr, hs])]

/-- Only the remainder zero is shifted to zero: the polynomial has the top bit, which a shift
clears. -/
theorem eq_zero_of_shiftBit {r : UInt32} (h : shiftBit r = 0) : r = 0 := by
  unfold shiftBit at h
  have moved : (r >>> 1).toNat = r.toNat / 2 := by
    rw [UInt32.toNat_shiftRight, Nat.shiftRight_eq_div_pow]
    rfl
  split at h
  · have := congrArg UInt32.toNat (UInt32.xor_eq_zero_iff.1 h)
    rw [moved, show polynomial.toNat = 0x82f63b78 from rfl] at this
    have := r.toNat_lt
    omega
  · next even =>
    rw [and_one_eq_one] at even
    have := congrArg UInt32.toNat h
    rw [moved, UInt32.toNat_zero] at this
    apply UInt32.toNat_inj.1
    rw [UInt32.toNat_zero]
    omega

/-- A shift to which no bit is lost only moves the remainder down. -/
theorem shiftBit_double {r s : UInt32} (h : s.toNat = r.toNat * 2) : shiftBit s = r := by
  rw [shiftBit, if_neg (by rw [and_one_eq_one]; omega)]
  apply UInt32.toNat_inj.1
  rw [UInt32.toNat_shiftRight, Nat.shiftRight_eq_div_pow, h]
  exact Nat.mul_div_cancel _ (by decide)

theorem repeat_shiftBit_xor (n : Nat) (r s : UInt32) :
    Nat.repeat shiftBit n (r ^^^ s) = Nat.repeat shiftBit n r ^^^ Nat.repeat shiftBit n s := by
  induction n with
  | zero => rfl
  | succ n ih => rw [Nat.repeat, ih, shiftBit_xor, Nat.repeat, Nat.repeat]

theorem eq_zero_of_repeat_shiftBit {n : Nat} {r : UInt32} (h : Nat.repeat shiftBit n r = 0) :
    r = 0 := by
  induction n with
  | zero => exact h
  | succ n ih => exact ih (eq_zero_of_shiftBit h)

theorem repeat_shiftBit_inj {n : Nat} {r s : UInt32} :
    Nat.repeat shiftBit n r = Nat.repeat shiftBit n s ↔ r = s := by
  refine ⟨fun h => ?_, fun h => h ▸ rfl⟩
  rw [← UInt32.xor_eq_zero_iff, ← repeat_shiftBit_xor] at h
  exact UInt32.xor_eq_zero_iff.1 (eq_zero_of_repeat_shiftBit h)

theorem repeat_shiftBit_add (m n : Nat) (r : UInt32) :
    Nat.repeat shiftBit (m + n) r = Nat.repeat shiftBit m (Nat.repeat shiftBit n r) := by
  induction m with
  | zero => rw [Nat.zero_add, Nat.repeat]
  | succ m ih => rw [Nat.succ_add, Nat.repeat, ih, Nat.repeat]

/-- Shifts to which no bit is lost only move the remainder down. -/
theorem repeat_shiftBit_of_toNat {n : Nat} {r s : UInt32} (h : s.toNat = r.toNat * 2 ^ n) :
    Nat.repeat shiftBit n s = r := by
  induction n generalizing r with
  | zero =>
    rw [Nat.pow_zero, Nat.mul_one] at h
    exact UInt32.toNat_inj.1 h
  | succ n ih =>
    -- the last shift starts from twice the number
    have h : s.toNat = r.toNat * 2 * 2 ^ n := by rw [h, Nat.pow_succ', Nat.mul_assoc]
    have small : r.toNat * 2 < 2 ^ 32 :=
      Nat.lt_of_le_of_lt (Nat.le_mul_of_pos_right _ (Nat.two_pow_pos n)) (h ▸ s.toNat_lt)
    have twice : (UInt32.ofNat (r.toNat * 2)).toNat = r.toNat * 2 :=
      UInt32.toNat_ofNat_of_lt' small
    have before : Nat.repeat shiftBit n s = UInt32.ofNat (r.toNat * 2) := ih (by rw [h, twice])
    rw [Nat.repeat, before, shiftBit_double twice]

/-! ## Bytes taken in -/

theorem absorb_left_inj {r s : UInt32} {b : UInt8} : absorb r b = absorb s b ↔ r = s := by
  rw [absorb, absorb, repeat_shiftBit_inj, UInt32.xor_left_inj]

theorem foldl_absorb_left_inj {r s : UInt32} {bs : Bytes} :
    bs.foldl absorb r = bs.foldl absorb s ↔ r = s := by
  induction bs generalizing r s with
  | nil => rfl
  | cons b bs ih => rw [List.foldl_cons, List.foldl_cons, ih, absorb_left_inj]

/-- The bytes of a window are taken in together. -/
theorem foldl_absorb {bs : Bytes} (short : bs.length ≤ 4) (r : UInt32) :
    bs.foldl absorb r = Nat.repeat shiftBit (8 * bs.length) (r ^^^ Bytes.packed bs) := by
  induction bs generalizing r with
  | nil => simp [Bytes.packed, Nat.repeat]
  | cons b bs ih =>
    rw [List.length_cons] at short
    -- what the later bytes add could have been added eight places up before this byte
    have later : Nat.repeat shiftBit 8 (Bytes.packed bs <<< 8) = Bytes.packed bs :=
      repeat_shiftBit_of_toNat
        (Bytes.toNat_shiftLeft_byte (Bytes.toNat_packed_lt_of_le (by omega)))
    calc bs.foldl absorb (absorb r b)
        = Nat.repeat shiftBit (8 * bs.length) (absorb r b ^^^ Bytes.packed bs) := ih (by omega) _
      _ = Nat.repeat shiftBit (8 * bs.length)
            (Nat.repeat shiftBit 8 (r ^^^ b.toUInt32 ^^^ (Bytes.packed bs <<< 8))) := by
          rw [repeat_shiftBit_xor 8, later, absorb]
      _ = Nat.repeat shiftBit (8 * (bs.length + 1)) (r ^^^ Bytes.packed (b :: bs)) := by
          rw [← repeat_shiftBit_add, UInt32.xor_assoc, Bytes.packed]
          rfl

/-- Windows of up to four bytes are told apart. -/
theorem foldl_absorb_inj {as bs : Bytes} {r : UInt32} (length : bs.length = as.length)
    (short : as.length ≤ 4) (h : as.foldl absorb r = bs.foldl absorb r) : as = bs := by
  rw [foldl_absorb short, foldl_absorb (length ▸ short), length, repeat_shiftBit_inj,
    UInt32.xor_right_inj] at h
  exact Bytes.packed_inj length short h

/-- Different checksums stay different, whatever follows. -/
theorem append_left_inj {c d : UInt32} {bs : Bytes} : append c bs = append d bs ↔ c = d := by
  rw [append, append, UInt32.not_inj, foldl_absorb_left_inj, UInt32.not_inj]

/-- Up to four bytes change a checksum in different ways. -/
theorem append_right_inj {c : UInt32} {as bs : Bytes} (length : bs.length = as.length)
    (short : as.length ≤ 4) : append c as = append c bs ↔ as = bs := by
  refine ⟨fun h => ?_, fun h => h ▸ rfl⟩
  rw [append, append, UInt32.not_inj] at h
  exact foldl_absorb_inj length short h

/-- A damaged buffer has another checksum. -/
theorem crc_ne {p : Nat} {bs cs : Bytes} (h : Bytes.DamagedFrom p bs cs) : crc bs ≠ crc cs := by
  have length : (cs.region p 4).length = (bs.region p 4).length := by
    simp only [Bytes.region, List.length_take, List.length_drop, h.length]
  have short : (bs.region p 4).length ≤ 4 := List.length_take_le 4 _
  rw [Bytes.eq_window bs p, Bytes.eq_window cs p, h.take, h.drop, crc_append, crc_append,
    ← append_append, ← append_append, Ne, append_left_inj, append_right_inj length short]
  exact h.region

/-! ## Checksums of checksums -/

/-- The checksum of the checksums of some buffers, each as four bytes, least significant first. -/
def digest (buffers : List Bytes) : UInt32 :=
  crc (buffers.flatMap fun bs => Bytes.ofWord (crc bs))

theorem digest_eq_foldl (buffers : List Bytes) :
    digest buffers = buffers.foldl (fun c bs => append c (Bytes.ofWord (crc bs))) 0 := by
  have (c : UInt32) : append c (buffers.flatMap fun bs => Bytes.ofWord (crc bs)) =
      buffers.foldl (fun c bs => append c (Bytes.ofWord (crc bs))) c := by
    induction buffers generalizing c with
    | nil => exact append_nil c
    | cons bs buffers ih => rw [List.flatMap_cons, ← append_append, ih, List.foldl_cons]
  exact this 0

theorem ofWord_inj {v w : UInt32} : Bytes.ofWord v = Bytes.ofWord w ↔ v = w := by
  refine ⟨fun h => ?_, fun h => h ▸ rfl⟩
  rw [← Bytes.word_ofWord v, h, Bytes.word_ofWord]

theorem append_ofWord_inj {c v w : UInt32} :
    append c (Bytes.ofWord v) = append c (Bytes.ofWord w) ↔ v = w := by
  have short : (Bytes.ofWord v).length ≤ 4 := Nat.le_refl 4
  have length : (Bytes.ofWord w).length = (Bytes.ofWord v).length := rfl
  rw [append_right_inj length short, ofWord_inj]

/-- One damaged buffer among others changes the checksum of the checksums. -/
theorem digest_ne {p : Nat} {bs cs : Bytes} (before after : List Bytes)
    (h : Bytes.DamagedFrom p bs cs) :
    digest (before ++ bs :: after) ≠ digest (before ++ cs :: after) := by
  rw [digest, digest, List.flatMap_append, List.flatMap_append, List.flatMap_cons,
    List.flatMap_cons, crc_append, crc_append, ← append_append, ← append_append, Ne,
    append_left_inj, append_ofWord_inj]
  exact crc_ne h

/-- The standard check value: the checksum of the digits one to nine. -/
example : crc [0x31, 0x32, 0x33, 0x34, 0x35, 0x36, 0x37, 0x38, 0x39] = 0xe3069283 := by
  decide +kernel

end Checksum

end FaultyFlash
