import FaultyFlash.Bytes

/-!
# Bits in which buffers differ

A bit that is inverted is the only one that changes. The bits that are listed as the differences of
two buffers are differences, and where none is listed there is none.

## Main definitions

* `Bytes.DifferAt k`: buffers that differ in bit `k` and in no other
* `Bytes.region`: a region of a buffer

## Main results

* `Bytes.differAt_of_flip?`: a buffer differs in a bit from itself with that bit inverted
* `Bytes.bit_ne_of_mem_diff`, `Bytes.eq_of_diff`: the listed differences are the differences
* `Bytes.DifferAt.region`: buffers that differ in a bit of a region differ there
-/

namespace FaultyFlash

namespace Bytes

/-- Buffers of one length that differ in bit `k` and in no other. -/
def DifferAt (k : Nat) (bs cs : Bytes) : Prop :=
  cs.length = bs.length ∧ ∀ j, cs.bit j ≠ bs.bit j ↔ j = k

theorem testBit_mask : ∀ m < 8, ∀ n < 8, (mask m).toNat.testBit n = decide (n = m) := by
  decide

/-- A bit that is inverted is the only one that changes. -/
theorem bit_flip? {bs cs : Bytes} {i : Nat} (h : bs.flip? i = some cs) (j : Nat) :
    cs.bit j = (bs.bit j ^^ decide (j = i)) := by
  unfold flip? at h
  split at h
  case isFalse => cases h
  next inside =>
  cases h
  unfold bit
  by_cases same : i / 8 = j / 8
  · have byte : (j % 8 = i % 8) ↔ j = i := by omega
    rw [← same, List.getElem?_modify_eq, List.getElem?_eq_getElem inside]
    simp only [Option.map_eq_map, Option.map_some, Option.getD_some, UInt8.toNat_xor,
      Nat.testBit_xor,
      testBit_mask _ (Nat.mod_lt i (by decide)) _ (Nat.mod_lt j (by decide)), byte]
  · have other : j ≠ i := fun h => same (h ▸ rfl)
    rw [decide_eq_false other, Bool.xor_false]
    simp [same]

/-- A bit that is inverted damages one byte. -/
theorem getElem?_of_flip? {bs cs : Bytes} {i j : Nat} (h : bs.flip? i = some cs) (hj : j ≠ i / 8) :
    cs[j]? = bs[j]? := by
  unfold flip? at h
  split at h
  · cases h
    simp [Ne.symm hj]
  · cases h

theorem differAt_of_flip? {bs cs : Bytes} {i : Nat} (h : bs.flip? i = some cs) :
    DifferAt i bs cs := by
  refine ⟨length_of_flip? h, fun j => ?_⟩
  rw [bit_flip? h]
  by_cases here : j = i <;> simp [here]

theorem bit_cons (a : UInt8) (bs : Bytes) (k : Nat) : Bytes.bit (a :: bs) (8 + k) = bs.bit k := by
  have byte : (8 + k) / 8 = k / 8 + 1 := by omega
  have place : (8 + k) % 8 = k % 8 := by omega
  rw [bit, bit, byte, place, List.getElem?_cons_succ]

theorem bit_cons_of_lt {k : Nat} (h : k < 8) (a : UInt8) (bs : Bytes) :
    Bytes.bit (a :: bs) k = a.toNat.testBit k := by
  have byte : k / 8 = 0 := by omega
  have place : k % 8 = k := by omega
  rw [bit, byte, place, List.getElem?_cons_zero, Option.getD_some]

/-- What is listed as a difference is one. -/
theorem bit_ne_of_mem_diffFrom {start k : Nat} {old new : Bytes} (h : k ∈ diffFrom start old new) :
    ∃ i, k = 8 * start + i ∧ old.bit i ≠ new.bit i := by
  induction old generalizing start new with
  | nil => cases h
  | cons a old ih =>
    cases new with
    | nil => cases h
    | cons b new =>
      rcases List.mem_append.1 h with here | later
      · obtain ⟨i, hi, rfl⟩ := List.mem_map.1 here
        obtain ⟨small, differs⟩ := List.mem_filter.1 hi
        have small := List.mem_range.1 small
        refine ⟨i, rfl, ?_⟩
        rw [bit_cons_of_lt small, bit_cons_of_lt small]
        rw [UInt8.toNat_xor, Nat.testBit_xor] at differs
        exact bne_iff_ne.1 differs
      · obtain ⟨i, rfl, differs⟩ := ih later
        refine ⟨8 + i, by omega, ?_⟩
        rwa [bit_cons, bit_cons]

theorem bit_ne_of_mem_diff {k : Nat} {old new : Bytes} (h : k ∈ diff old new) :
    old.bit k ≠ new.bit k := by
  obtain ⟨i, rfl, differs⟩ := bit_ne_of_mem_diffFrom h
  rwa [Nat.mul_zero, Nat.zero_add]

/-- Bytes that differ do so in one of their bits. -/
theorem eq_of_byteDiff {a b : UInt8} (h : byteDiff a b = []) : a = b := by
  apply UInt8.toNat_inj.1
  apply Nat.eq_of_testBit_eq
  intro i
  by_cases small : i < 8
  · have same := List.filter_eq_nil_iff.1 h i (List.mem_range.2 small)
    rw [UInt8.toNat_xor, Nat.testBit_xor] at same
    simpa using same
  · have high (x : UInt8) : x.toNat.testBit i = false :=
      Nat.testBit_lt_two_pow (Nat.lt_of_lt_of_le x.toNat_lt
        (Nat.pow_le_pow_right (by decide) (Nat.not_lt.1 small)))
    rw [high, high]

theorem eq_of_diffFrom {start : Nat} {old new : Bytes} (length : new.length = old.length)
    (h : diffFrom start old new = []) : old = new := by
  induction old generalizing start new with
  | nil => exact (List.length_eq_zero_iff.1 length).symm
  | cons a old ih =>
    cases new with
    | nil => cases length
    | cons b new =>
      obtain ⟨here, later⟩ := List.append_eq_nil_iff.1 h
      rw [eq_of_byteDiff (List.map_eq_nil_iff.1 here), ih (Nat.succ.inj length) later]

/-- Buffers of one length without a difference are equal. -/
theorem eq_of_diff {old new : Bytes} (length : new.length = old.length)
    (h : diff old new = []) : old = new :=
  eq_of_diffFrom length h

/-! ## Regions -/

/-- The `len` bytes from offset `off`, as far as there are so many. -/
def region (bs : Bytes) (off len : Nat) : Bytes := (bs.drop off).take len

theorem length_region {bs : Bytes} {off len : Nat} (h : off + len ≤ bs.length) :
    (bs.region off len).length = len := by
  rw [region, List.length_take, List.length_drop]
  omega

/-- The bits of a region are those of the buffer from its offset on. -/
theorem bit_region {k len : Nat} (h : k < len * 8) (bs : Bytes) (off : Nat) :
    (bs.region off len).bit k = bs.bit (off * 8 + k) := by
  have byte : (off * 8 + k) / 8 = off + k / 8 := by omega
  have place : (off * 8 + k) % 8 = k % 8 := by omega
  have inside : k / 8 < len := by omega
  rw [bit, bit, region, byte, place, List.getElem?_take_of_lt inside, List.getElem?_drop]

theorem bit_of_length_le {bs : Bytes} {k : Nat} (h : bs.length * 8 ≤ k) : bs.bit k = false := by
  have outside : bs.length ≤ k / 8 := by omega
  rw [bit, List.getElem?_eq_none outside]
  exact Nat.zero_testBit _

/-- Buffers that differ in a bit of a region differ in that bit of the region. -/
theorem DifferAt.region {bs cs : Bytes} {off len k : Nat} (h : DifferAt (off * 8 + k) bs cs)
    (inside : k < len * 8) (held : off + len ≤ bs.length) :
    DifferAt k (bs.region off len) (cs.region off len) := by
  obtain ⟨length, differ⟩ := h
  have size := length_region held
  have size' : (cs.region off len).length = len := length_region (length ▸ held)
  refine ⟨size'.trans size.symm, fun j => ?_⟩
  by_cases here : j < len * 8
  · rw [bit_region here, bit_region here, differ]
    omega
  · -- neither has a bit there
    rw [bit_of_length_le (by omega), bit_of_length_le (by omega)]
    exact ⟨fun differs => absurd rfl differs, fun same => absurd (same ▸ inside) here⟩

end Bytes

end FaultyFlash
