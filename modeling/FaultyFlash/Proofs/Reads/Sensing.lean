import FaultyFlash.Proofs.Completion
import FaultyFlash.Proofs.Outcomes.Contracts

/-!
# What a read answers

A read answers the stored bytes of its region. Only where the block is metastable and the region
holds the byte of its bad bit, one word is drawn, and the bad bit comes out inverted if the word is
odd. Nothing but the generator and the count of bytes read ever changes.

## Main definitions

* `Bytes.DifferWithin P`: buffers that differ only in bits with a property
* `Block.Wavers`: reads of a region of the block are left to chance
* `Sensed`: what is answered of a region, and the generator after it

## Main results

* `Bytes.DifferWithin.append`, `Bytes.DifferWithin.of_common`: differences of buffers put together,
  and of buffers that both differ from a third
* `Sensed.within`: an answer differs from what is stored in the bad bit at most
* `Flash.Finds.read`, `Flash.Finds.read_ok`: which reads are answered, and what they leave
-/

namespace FaultyFlash

namespace Bytes

/-- Buffers of one length that differ only in bits with a property. -/
def DifferWithin (P : Nat → Prop) (bs cs : Bytes) : Prop :=
  cs.length = bs.length ∧ ∀ k, cs.bit k ≠ bs.bit k → P k

variable {P Q T : Nat → Prop} {bs cs ds : Bytes}

theorem DifferWithin.refl (P : Nat → Prop) (bs : Bytes) : DifferWithin P bs bs :=
  ⟨rfl, fun _ differs => absurd rfl differs⟩

theorem DifferAt.within {k : Nat} (h : DifferAt k bs cs) (hk : P k) : DifferWithin P bs cs := by
  refine ⟨h.1, fun j differs => ?_⟩
  rw [(h.2 j).1 differs]
  exact hk

/-- Buffers that both differ from a third differ from each other. -/
theorem DifferWithin.of_common (h : DifferWithin P bs cs) (h' : DifferWithin P bs ds) :
    DifferWithin P cs ds := by
  refine ⟨h'.1.trans h.1.symm, fun k differs => ?_⟩
  by_cases same : cs.bit k = bs.bit k
  · exact h'.2 k (same ▸ differs)
  · exact h.2 k same

/-- Buffers that may differ nowhere are equal. -/
theorem DifferWithin.eq (h : DifferWithin P bs cs) (nowhere : ∀ k, ¬ P k) : cs = bs := by
  refine (eq_of_diff h.1 (List.eq_nil_iff_forall_not_mem.2 fun k hk => ?_)).symm
  exact nowhere k (h.2 k (bit_ne_of_mem_diff hk).symm)

theorem bit_append_of_lt {k : Nat} (h : k < bs.length * 8) (cs : Bytes) :
    Bytes.bit (bs ++ cs) k = bs.bit k := by
  rw [bit, bit, List.getElem?_append_left (by omega)]

theorem bit_append_of_le {k : Nat} (h : bs.length * 8 ≤ k) (cs : Bytes) :
    Bytes.bit (bs ++ cs) k = cs.bit (k - bs.length * 8) := by
  have byte : (k - bs.length * 8) / 8 = k / 8 - bs.length := by omega
  have place : (k - bs.length * 8) % 8 = k % 8 := by omega
  rw [bit, bit, List.getElem?_append_right (by omega), byte, place]

theorem exists_flip? (bs : Bytes) {i : Nat} (h : i / 8 < bs.length) : ∃ cs, bs.flip? i = some cs :=
  ⟨_, if_pos h⟩

/-- Differences of buffers that are put together. -/
theorem DifferWithin.append {bs' cs' : Bytes} (h : DifferWithin P bs cs)
    (h' : DifferWithin Q bs' cs') (hP : ∀ k, P k → T k) (hQ : ∀ k, Q k → T (bs.length * 8 + k)) :
    DifferWithin T (bs ++ bs') (cs ++ cs') := by
  refine ⟨by rw [List.length_append, List.length_append, h.1, h'.1], fun k differs => ?_⟩
  by_cases first : k < bs.length * 8
  · rw [bit_append_of_lt first, bit_append_of_lt (h.1.symm ▸ first)] at differs
    exact hP k (h.2 k differs)
  · have later : bs.length * 8 ≤ k := Nat.not_lt.1 first
    rw [bit_append_of_le later, bit_append_of_le (h.1.symm ▸ later), h.1] at differs
    have here := hQ _ (h'.2 _ differs)
    rwa [Nat.add_sub_cancel' later] at here

/-- A region is a shorter one and what follows it. -/
theorem region_add (bs : Bytes) (off m n : Nat) :
    bs.region off (m + n) = bs.region off m ++ bs.region (off + m) n := by
  rw [region, region, region, List.take_add, List.drop_drop]

end Bytes

/-- Reads of a region of the block are left to chance: the block is metastable, and the region holds
the byte of its bad bit. -/
def Block.Wavers (b : Block) (off len : Nat) : Prop := b.metastable ∧ b.covers off len

variable {S R : Type} {cfg : Config} {x : Option Block} {block off len : Nat}
  {old bs : Bytes} {g g' : Generator}

/-- What is answered of a region where `x` is found at the address and `old` is stored there, and
the generator before and after. -/
structure Sensed (x : Option Block) (old : Bytes) (off len : Nat) (g : Generator) (bs : Bytes)
    (g' : Generator) : Prop where
  /-- Nothing is drawn where nothing is left to chance. -/
  steady (h : ∀ b, x = some b → ¬ b.Wavers off len) : bs = old.region off len ∧ g' = g
  drawn {b : Block} (hx : x = some b) (h : b.Wavers off len) : g' = g.next.2
  kept {b : Block} (hx : x = some b) (h : b.Wavers off len) (even : ¬ g.next.1 &&& 1 = 1) :
    bs = old.region off len
  /-- The bad bit is inverted, and no other. -/
  flipped {b : Block} (hx : x = some b) (h : b.Wavers off len) (odd : g.next.1 &&& 1 = 1) :
    Bytes.DifferAt (b.badBitPos - off * 8) (old.region off len) bs

/-- The bad bit of a metastable block, counted from the start of a region. -/
def MayDiffer (x : Option Block) (off : Nat) (k : Nat) : Prop :=
  ∃ b, x = some b ∧ b.metastable ∧ off * 8 + k = b.badBitPos

/-- An answer differs from what is stored in the bad bit at most. -/
theorem Sensed.within (h : Sensed x old off len g bs g') :
    Bytes.DifferWithin (MayDiffer x off) (old.region off len) bs := by
  by_cases steady : ∀ b, x = some b → ¬ b.Wavers off len
  · rw [(h.steady steady).1]
    exact .refl _ _
  · simp only [not_forall, not_not] at steady
    obtain ⟨b, hx, wavers⟩ := steady
    by_cases odd : g.next.1 &&& 1 = 1
    · have place := (Block.bit_of_covers wavers.2).1
      exact (h.flipped hx wavers odd).within ⟨b, hx, wavers.1, place⟩
    · rw [h.kept hx wavers odd]
      exact .refl _ _

namespace Flash

/-- A region of a block is sensed, and at most the generator moves. -/
theorem answered_sense {b : Block} (held : off + len ≤ b.data.length) (f : Flash S R) :
    ∃ bs y, answered (sense b off len) f = (.ok bs, f.reseed y) ∧
      Sensed (some b) b.data off len f.device.generator bs y := by
  have stored : answered (sound (b.region off len) : FlashM S R Bytes) f =
      (.ok (b.data.region off len), f) := by
    rw [Block.region_of_le held]
    rfl
  have size := Bytes.length_region held
  rw [sense, answered_bind, stored]
  by_cases wavers : b.Wavers off len
  · have metastable := wavers.1
    have covers := wavers.2
    have chance : (b.metastable && b.covers off len) = true := by rw [metastable, covers]; rfl
    have drawn : answered draw f =
        (.ok f.device.generator.next.1, f.reseed f.device.generator.next.2) := rfl
    simp only [chance, if_true, answered_bind, drawn]
    by_cases odd : f.device.generator.next.1 &&& 1 = 1
    · obtain ⟨-, within⟩ := Block.bit_of_covers covers
      obtain ⟨cs, flipped⟩ := Bytes.exists_flip? (b.data.region off len)
        (i := b.badBitPos - off * 8) (by omega)
      simp only [odd, if_true, flipped]
      refine ⟨cs, _, rfl, fun steady => absurd wavers (steady b rfl), fun _ _ => rfl,
        fun _ _ even => absurd odd even, ?_⟩
      rintro _ ⟨⟩ - -
      exact Bytes.differAt_of_flip? flipped
    · simp only [odd]
      exact ⟨_, _, rfl, fun steady => absurd wavers (steady b rfl), fun _ _ => rfl,
        fun _ _ _ => rfl, fun _ _ now => absurd now odd⟩
  · have chance : ¬ (b.metastable && b.covers off len) = true := by
      rw [Bool.and_eq_true]
      exact wavers
    simp only [chance]
    refine ⟨_, f.device.generator, rfl, fun _ => ⟨rfl, rfl⟩, ?_, ?_, ?_⟩
    all_goals
      rintro _ ⟨⟩ now
      exact absurd now wavers

variable [BlockStore S R]

/-- A read that keeps to its contract is answered, unless the block is worn out and fails it. At
most the generator moves, and the bytes are counted. -/
theorem Finds.read {f : Flash S R} (h : Finds cfg block x f)
    (allowed : cfg.geometry.Allows cfg.geometry.readSize block off len)
    (spared : ¬ Request.Fails cfg x (.read block off len)) :
    ∃ bs y, answered (Flash.read cfg block off len) f =
        (.ok bs, (f.reseed y).tally .bytesRead len.toUInt64) ∧
      Sensed x (x.elim (List.replicate cfg.geometry.blockSize cfg.fill) Block.data) off len
        f.device.generator bs y := by
  rw [Flash.read, answered_contract_ok (allowed.check .read), answered_bind, h.found allowed.block]
  cases x with
  | none =>
    refine ⟨List.replicate len cfg.fill, f.device.generator, rfl, fun _ => ⟨?_, rfl⟩, ?_, ?_, ?_⟩
    · exact (Bytes.take_drop_replicate allowed.region cfg.fill).symm
    all_goals rintro _ ⟨⟩
  | some b =>
    have good : ¬ (cfg.isWorn b.wear && decide (cfg.worn = .readError)) = true := by
      intro worn
      obtain ⟨bad, behavior⟩ := Bool.and_eq_true_iff.1 worn
      exact spared ⟨bad, congrArg some (of_decide_eq_true behavior).symm⟩
    have held : off + len ≤ b.data.length := by
      rw [h.size rfl]
      exact allowed.region
    obtain ⟨bs, y, sensed, tells⟩ := answered_sense held f
    simp only [good, Bool.false_eq_true, if_false, answered_bind, sensed]
    exact ⟨bs, y, rfl, tells⟩

/-- A read that is answered kept to its contract, and was not failed by a worn block. -/
theorem Finds.read_ok {f g : Flash S R} (h : Finds cfg block x f)
    (answer : answered (Flash.read cfg block off len) f = (.ok bs, g)) :
    cfg.geometry.Allows cfg.geometry.readSize block off len ∧
      ¬ Request.Fails cfg x (.read block off len) := by
  have names : (Request.read block off len).block? = some block := rfl
  by_cases lawful : Request.Lawful cfg x (.read block off len)
  · refine ⟨lawful, fun fails => ?_⟩
    cases answer.symm.trans (h.effect_fails names rfl lawful fails)
  · obtain ⟨m, refused⟩ := effect_misused names rfl lawful f
    cases answer.symm.trans refused

end Flash

end FaultyFlash
