import FaultyFlash.Proofs.Containment.Aborted
import FaultyFlash.Proofs.Outcomes.Contracts

/-!
# Wear of blocks

Whether a block is worn out is told by its wear alone, and a block that was never written has none.
Wear stops at the greatest word, so no wear exceeds an endurance that is the greatest word.

## Main results

* `Config.toNat_successor`: wear is counted up to the greatest word
* `Config.isWorn_eq_of_toNat`: a count of erases tells whether a block is worn out
* `Config.isWorn_greatest`: where the endurance is the greatest word, no block is worn out
* `Slots.isBad_eq`: a block is worn out by its wear
-/

namespace FaultyFlash

variable {cfg : Config} {slots : Slots Block} {block i : Nat}

namespace Config

theorem toNat_successor (n : UInt32) : (successor n).toNat = min (n.toNat + 1) (2 ^ 32 - 1) := by
  unfold successor
  have bound := n.toNat_lt
  split
  · next top =>
    rw [top]
    rfl
  · next below =>
    have below : n.toNat ≠ 2 ^ 32 - 1 := fun top => below (UInt32.toNat_inj.1 top)
    rw [UInt32.toNat_add, UInt32.toNat_one, Nat.mod_eq_of_lt (by omega)]
    omega

/-- Wear never falls by one more erase. -/
theorem le_successor (n : UInt32) : n ≤ successor n := by
  rw [UInt32.le_iff_toNat_le, toNat_successor]
  have bound := n.toNat_lt
  omega

theorem isWorn_iff {n : UInt32} : cfg.isWorn n ↔ 0 < cfg.endurance ∧ cfg.endurance < n := by
  rw [isWorn, Bool.and_eq_true, decide_eq_true_iff, decide_eq_true_iff]

theorem isWorn_zero (cfg : Config) : cfg.isWorn 0 = false := by
  rw [isWorn, Bool.and_eq_false_iff]
  exact .inr (decide_eq_false (Nat.not_lt_zero _))

/-- Where the endurance is the greatest word, no wear exceeds it. -/
theorem isWorn_greatest (greatest : cfg.endurance = 0xffffffff) (n : UInt32) :
    cfg.isWorn n = false := by
  rw [Bool.eq_false_iff, ne_eq, isWorn_iff, greatest, UInt32.lt_iff_toNat_lt]
  exact fun ⟨_, above⟩ => absurd n.toNat_lt (Nat.not_lt.2 above)

section

variable (below : cfg.endurance ≠ 0xffffffff)

include below

theorem toNat_endurance_lt : cfg.endurance.toNat < 2 ^ 32 - 1 := by
  have bound := cfg.endurance.toNat_lt
  have top : cfg.endurance.toNat ≠ 2 ^ 32 - 1 := fun top => below (UInt32.toNat_inj.1 top)
  omega

/-- Below that, a count of erases tells whether a block is worn out, also where its wear has
stopped. -/
theorem isWorn_eq_of_toNat (limited : 0 < cfg.endurance) {n : UInt32} {k : Nat}
    (count : n.toNat = min k (2 ^ 32 - 1)) : cfg.isWorn n = decide (cfg.endurance.toNat < k) := by
  have bound := toNat_endurance_lt below
  rw [Bool.eq_iff_iff, isWorn_iff, decide_eq_true_iff, UInt32.lt_iff_toNat_lt (b := n), count]
  exact ⟨fun h => by omega, fun h => ⟨limited, by omega⟩⟩

/-- The least wear that wears a block out does so. -/
theorem lt_wornOut : cfg.endurance < cfg.wornOut := by
  have bound := toNat_endurance_lt below
  rw [UInt32.lt_iff_toNat_lt, wornOut, toNat_successor]
  omega

end

end Config

namespace Slots

/-- A block is worn out by its wear, also where none was ever written. -/
theorem isBad_eq : cfg.isBad slots[block]?.join = cfg.isWorn (slots.wear block) := by
  rw [Config.isBad, Slots.wear]
  cases slots[block]?.join with
  | none => exact cfg.isWorn_zero.symm
  | some b => rfl

theorem wear_set (h : i < slots.length) (b : Option Block) :
    Slots.wear (slots.set i b) block =
      if i = block then b.elim 0 Block.wear else slots.wear block := by
  unfold wear
  by_cases same : i = block
  · rw [if_pos same, ← same, List.getElem?_set_self h, Option.join_some]
  · rw [if_neg same, List.getElem?_set_ne same]

end Slots

end FaultyFlash
