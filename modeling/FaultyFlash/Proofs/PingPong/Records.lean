import FaultyFlash.PingPong
import FaultyFlash.Proofs.Landing

/-!
# Damaged records

Two records differ in more than one byte, so a record of which one byte was damaged is taken for no
other. Neither is an erased region of which one byte was damaged taken for a record.

## Main results

* `PingPong.Record.eq_encode`: what reads as a record is its bytes
* `PingPong.Record.decode_of_near`, `PingPong.Record.decode_near_replicate`: what one damaged byte
  can be taken for
-/

namespace FaultyFlash

namespace Bytes

/-! ## Words -/

/-- A word is read from the four bytes at its offset. -/
theorem word_congr {bs cs : Bytes} {off : Nat} (h : ∀ j < 4, cs[off + j]? = bs[off + j]?) :
    cs.word off = bs.word off := by
  simp only [word, h 0 (by decide), h 1 (by decide), h 2 (by decide), h 3 (by decide)]

/-- One damaged byte damages no word but the one that holds it. -/
theorem word_of_damage {bs cs : Bytes} {k off : Nat} (same : ∀ i, i ≠ k → cs[i]? = bs[i]?)
    (h : k < off ∨ off + 4 ≤ k) : cs.word off = bs.word off := by
  refine word_congr fun j hj => same _ ?_
  omega

/-- The bytes of a word that was read are those that it was read from. -/
theorem ofWord_word (bs : Bytes) (off : Nat) :
    ofWord (bs.word off) = (List.range 4).map fun j => bs[off + j]?.getD 0 := by
  have read : List.range 4 = [0, 1, 2, 3] := rfl
  simp only [ofWord, word, read, List.map_cons, List.map_nil, List.cons.injEq, and_true]
  -- each byte comes out of the word bit by bit
  refine ⟨?_, ?_, ?_, ?_⟩
  all_goals
    apply UInt8.toBitVec_inj.1
    apply BitVec.eq_of_getLsbD_eq
    intro i hi
    simp
    try grind

/-- Four bytes at an offset are those of the word there. -/
theorem take_drop_eq {bs : Bytes} {off : Nat} (h : off + 4 ≤ bs.length) :
    (bs.drop off).take 4 = ofWord (bs.word off) := by
  rw [ofWord_word]
  refine List.ext_getElem? fun i => ?_
  rw [List.getElem?_take, List.getElem?_drop, List.getElem?_map]
  by_cases hi : i < 4
  · rw [if_pos hi, List.getElem?_range hi, Option.map_some, List.getElem?_eq_getElem (by omega)]
    rfl
  · rw [if_neg hi, List.getElem?_eq_none (by simpa using hi), Option.map_none]

end Bytes

namespace PingPong

/-- A rotation by seven is taken back by one by the other bits. -/
theorem rotateLeft_7 (w : UInt32) : rotateLeft (rotateLeft w 7) 25 = w := by
  apply UInt32.toBitVec_inj.1
  apply BitVec.eq_of_getLsbD_eq
  intro i hi
  simp [rotateLeft]
  grind

/-- So is one by nineteen. -/
theorem rotateLeft_19 (w : UInt32) : rotateLeft (rotateLeft w 19) 13 = w := by
  apply UInt32.toBitVec_inj.1
  apply BitVec.eq_of_getLsbD_eq
  intro i hi
  simp [rotateLeft]
  grind

namespace Record

variable {r s : Record} {bs cs : Bytes}

/-- What a buffer reads as a record, word by word. -/
theorem decode_eq_some : decode bs = some r ↔
    bs.word 0 = magic ∧ bs.word 4 = r.revision ∧ bs.word 8 = r.value ∧ bs.word 12 = r.checksum := by
  unfold decode
  dsimp only
  constructor
  · intro h
    split at h
    · next right =>
      cases h
      exact ⟨right.1, rfl, rfl, right.2⟩
    · cases h
  · rintro ⟨first, revision, value, last⟩
    obtain rfl : r = ⟨bs.word 4, bs.word 8⟩ := by rw [revision, value]
    rw [if_pos ⟨first, last⟩]

/-- What reads as a record is its bytes. -/
theorem eq_encode (h : decode bs = some r) (length : bs.length = size) : bs = r.encode := by
  obtain ⟨first, revision, value, last⟩ := decode_eq_some.1 h
  have size : bs.length = 16 := length
  have parts : bs = (bs.drop 0).take 4 ++ (bs.drop 4).take 4 ++ (bs.drop 8).take 4 ++
      (bs.drop 12).take 4 := by
    have cut (n : Nat) : bs.drop n = (bs.drop n).take 4 ++ bs.drop (n + 4) := by
      rw [← List.drop_drop, List.take_append_drop]
    have tail : (bs.drop 12).take 4 = bs.drop 12 := List.take_of_length_le (by simp [size])
    calc
      bs = bs.drop 0 := rfl
      _ = (bs.drop 0).take 4 ++ bs.drop 4 := cut 0
      _ = (bs.drop 0).take 4 ++ ((bs.drop 4).take 4 ++ bs.drop 8) := by rw [← cut 4]
      _ = (bs.drop 0).take 4 ++ ((bs.drop 4).take 4 ++ ((bs.drop 8).take 4 ++ bs.drop 12)) := by
        rw [← cut 8]
      _ = _ := by rw [tail, List.append_assoc, List.append_assoc]
  rw [parts, Bytes.take_drop_eq, Bytes.take_drop_eq, Bytes.take_drop_eq, Bytes.take_drop_eq, first,
    revision, value, last]
  · rfl
  all_goals omega

/-- Records with one checksum that agree in one word agree in the other. -/
theorem eq_of_checksum (same : r.checksum = s.checksum)
    (h : r.revision = s.revision ∨ r.value = s.value) : r = s := by
  unfold checksum at same
  rcases r with ⟨revision, value⟩
  rcases s with ⟨revision', value'⟩
  simp only at same h
  rcases h with rfl | rfl
  · have rotated : rotateLeft value 19 = rotateLeft value' 19 := by
      simpa [UInt32.xor_right_inj, UInt32.xor_left_inj] using same
    rw [← rotateLeft_19 value, rotated, rotateLeft_19]
  · have rotated : rotateLeft revision 7 = rotateLeft revision' 7 := by
      simpa [UInt32.xor_right_inj, UInt32.xor_left_inj] using same
    rw [← rotateLeft_7 revision, rotated, rotateLeft_7]

/-- A record of which one byte was damaged reads as no other record. -/
theorem decode_of_near (near : Bytes.Near r.encode bs) (h : decode bs = some s) : s = r := by
  obtain ⟨-, k, same⟩ := near
  obtain ⟨-, revision, value, checksum⟩ := decode_eq_some.1 (decode_encode r)
  obtain ⟨-, revision', value', checksum'⟩ := decode_eq_some.1 h
  have word (off : Nat) (h : k < off ∨ off + 4 ≤ k) := Bytes.word_of_damage same h
  -- at most one of the three words is damaged, and two of them determine the record
  by_cases early : k < 8
  · refine eq_of_checksum ?_ (.inr ?_)
    · rw [← checksum', word 12 (.inl (by omega)), checksum]
    · rw [← value', word 8 (.inl early), value]
  by_cases middle : k < 12
  · refine eq_of_checksum ?_ (.inl ?_)
    · rw [← checksum', word 12 (.inl middle), checksum]
    · rw [← revision', word 4 (.inr (by omega)), revision]
  · have first : s.revision = r.revision := by
      rw [← revision', word 4 (.inr (by omega)), revision]
    have second : s.value = r.value := by
      rw [← value', word 8 (.inr (by omega)), value]
    rcases r with ⟨_, _⟩
    rcases s with ⟨_, _⟩
    simp only at first second
    rw [first, second]

/-- An erased region of which one byte was damaged reads as no record. -/
theorem decode_near_replicate {n : Nat} {v : UInt8} (near : Bytes.Near (List.replicate n v) bs)
    (size : 4 ≤ n) : decode bs = none := by
  obtain ⟨-, k, same⟩ := near
  rcases h : decode bs with _ | s
  · rfl
  -- two bytes of the magic word were not damaged, and would have to be equal
  have bytes := Bytes.ofWord_word bs 0
  rw [(decode_eq_some.1 h).1] at bytes
  have byte (j : Nat) (hj : j < 4) (hk : j ≠ k) : (Bytes.ofWord magic)[j]? = some v := by
    rw [bytes, List.getElem?_map, List.getElem?_range hj, Option.map_some, Nat.zero_add, same j hk,
      List.getElem?_replicate, if_pos (by omega), Option.getD_some]
  have first : k ≠ 0 → v = 0x47 := fun hk => (Option.some.inj (byte 0 (by decide) hk.symm)).symm
  have second : k ≠ 1 → v = 0x4e := fun hk => (Option.some.inj (byte 1 (by decide) hk.symm)).symm
  have third : k ≠ 2 → v = 0x4f := fun hk => (Option.some.inj (byte 2 (by decide) hk.symm)).symm
  by_cases h0 : k = 0
  · have clash := (second (by omega)).symm.trans (third (by omega))
    cases clash
  by_cases h1 : k = 1
  · have clash := (first h0).symm.trans (third (by omega))
    cases clash
  · have clash := (first h0).symm.trans (second h1)
    cases clash

end Record

end PingPong

end FaultyFlash
