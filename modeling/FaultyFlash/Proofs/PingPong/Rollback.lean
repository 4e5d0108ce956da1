import FaultyFlash.Proofs.PingPong.Records
import FaultyFlash.Proofs.PingPong.Trails

/-!
# The counter on devices that roll back

A loss of power that returns the other block to the last sync may take the counter back, and may
leave a mixture of old and new records. But it brings no record that was not written, so a run
never finds a record past its target, and gets there.

## Main definitions

* `PingPong.Bounded`: tables of records up to a target
* `PingPong.Mixed`: devices whose tables are such, the synced one as well

## Main results

* `PingPong.Bounded.exists_stands`: such a table stands at some count
* `PingPong.sustains_mixed`: scenarios keep to such devices
* `PingPong.reaches_target`: every scenario gets to its target
-/

namespace FaultyFlash

namespace PingPong

variable {κ μ : Type} {cfg : Config} {m : μ} {target : UInt32} {T : Nat}

/-- The first two blocks of a table hold records up to `T` at most, each those of its parity. -/
def Bounded (cfg : Config) (T : Nat) (slots : Slots Block) : Prop :=
  ∀ block < 2, ∀ r, Record.decode (lead cfg slots block) = some r →
    ∃ k ≤ T, k % 2 = block ∧ r = Record.nth k

/-- Whatever such a table mixes, it stands at some count. -/
theorem Bounded.exists_stands {slots : Slots Block} (h : Bounded cfg T slots) :
    ∃ k ≤ T, Stands cfg k slots := by
  rcases first : Record.decode (lead cfg slots 0) with _ | r
  · rcases second : Record.decode (lead cfg slots 1) with _ | s
    · exact ⟨0, Nat.zero_le T, .inr ⟨rfl, first⟩, fun hr => by rw [second] at hr; cases hr⟩
    · obtain ⟨l, small, odd, rfl⟩ := h 1 Nat.one_lt_two s second
      refine ⟨l, small, .inl (by rw [odd]; exact second), fun hr => ?_⟩
      rw [show (l + 1) % 2 = 0 by omega, first] at hr
      cases hr
  · obtain ⟨k, small, even, rfl⟩ := h 0 Nat.zero_lt_two r first
    rcases second : Record.decode (lead cfg slots 1) with _ | s
    · refine ⟨k, small, .inl (by rw [even]; exact first), fun hr => ?_⟩
      rw [show (k + 1) % 2 = 1 by omega, second] at hr
      cases hr
    · obtain ⟨l, small', odd, rfl⟩ := h 1 Nat.one_lt_two s second
      -- both blocks hold records, and the later one is mounted
      rcases Nat.lt_or_gt_of_ne (show k ≠ l by omega) with lt | gt
      · refine ⟨l, small', .inl (by rw [odd]; exact second), fun hr => ?_⟩
        rw [show (l + 1) % 2 = 0 by omega, first] at hr
        exact ⟨k, lt, (Option.some.inj hr).symm⟩
      · refine ⟨k, small, .inl (by rw [even]; exact first), fun hr => ?_⟩
        rw [show (k + 1) % 2 = 1 by omega, second] at hr
        exact ⟨l, gt, (Option.some.inj hr).symm⟩

/-- An erase brings no record. -/
theorem decode_cleared {bs : Bytes} {r : Record} (h : Record.decode (cleared cfg bs) = some r) :
    Record.decode bs = some r := by
  rcases erases : cfg.eraseValue with _ | v
  · rwa [cleared, erases] at h
  · rw [cleared, erases, Option.elim_some, Record.decode_near_replicate (.refl _) (by decide)] at h
    cases h

/-- The table of a device holds records up to `T` at most, and so does that of its last sync. -/
structure Mixed (cfg : Config) (T : Nat) (D : Device Block) : Prop where
  stable : D.Stable cfg
  live : Bounded cfg T D.slots
  synced : Bounded cfg T (D.synced.getD D.slots)

variable {k : Nat} {D F G E : Device Block}

/-- A bounded table with one block exchanged is bounded if the new block is. -/
theorem Bounded.exchange {slots slots' : Slots Block} {j : Nat} (h : Bounded cfg T slots)
    (others : ∀ i ≠ j, lead cfg slots' i = lead cfg slots i)
    (here : ∀ r, Record.decode (lead cfg slots' j) = some r →
      ∃ k ≤ T, k % 2 = j ∧ r = Record.nth k) : Bounded cfg T slots' := by
  intro block inside r hr
  by_cases same : block = j
  · subst same
    exact here r hr
  · rw [others block same] at hr
    exact h block inside r hr

/-- The next record may be in the block that a commit writes. -/
theorem Record.eq_next_of_decode {bs : Bytes} {r : Record} (more : k < T) (small : T < UInt32.size)
    (written : bs = (nth (k + 1)).encode) (h : decode bs = some r) :
    ∃ l ≤ T, l % 2 = (nth k).target ∧ r = nth l := by
  rw [written, decode_encode] at h
  exact ⟨k + 1, more, (target_nth k (Nat.lt_of_le_of_lt more small)).symm, (Option.some.inj h).symm⟩

/-- A commit keeps to bounded tables. -/
theorem Mixed.commit (h : Mixed cfg T D) (small : T < UInt32.size) (more : k < T)
    (commits : Commits cfg (Record.nth k) (Record.nth (k + 1)) D F G E) : Mixed cfg T E := by
  have live : Bounded cfg T E.slots :=
    h.live.exchange (fun i hi => (commits.others hi).2.2) fun r hr =>
      Record.eq_next_of_decode more small commits.written hr
  refine ⟨commits.stable.2.2, live, ?_⟩
  rw [commits.synced.2.2]
  cases D.synced <;> exact live

/-- So does a loss of power, which returns the other block to the last sync. -/
theorem Mixed.torn (h : Mixed cfg T D) (crash : cfg.crash = .outOfOrder) (small : T < UInt32.size)
    (more : k < T) (commits : Commits cfg (Record.nth k) (Record.nth (k + 1)) D F G E) :
    Mixed cfg T F ∧ Mixed cfg T G := by
  obtain ⟨before, remembers⟩ : ∃ before, D.synced = some before := by
    have remembers := h.stable.remembers
    rw [crash, decide_eq_true rfl] at remembers
    exact Option.isSome_iff_exists.1 remembers
  have synced : ∀ Z : Device Block, Z.synced = D.synced →
      Bounded cfg T (Z.synced.getD Z.slots) := by
    intro Z same
    have synced := h.synced
    rw [remembers] at same synced
    rw [same]
    exact synced
  have erasing := commits.erasing
  have writing := commits.writing
  rw [crash] at erasing writing
  refine ⟨⟨commits.stable.1, ?_, synced F commits.synced.1⟩,
    ⟨commits.stable.2.1, ?_, synced G commits.synced.2.1⟩⟩
  · -- what is erased held an earlier record at most, and that of the live table
    refine h.synced.exchange (fun i hi => (commits.others hi).1) fun r hr => ?_
    have inside : (Record.nth k).target < 2 := by
      rw [Record.target_nth k (Nat.lt_of_le_of_lt more small)]
      exact Nat.mod_lt _ Nat.two_pos
    rw [show lead cfg F.slots _ = _ from erasing] at hr
    exact h.live _ inside r (decode_cleared hr)
  · exact h.synced.exchange (fun i hi => (commits.others hi).2.1) fun r hr =>
      Record.eq_next_of_decode more small writing hr

/-- Bounded tables are kept from count to count. -/
theorem stages_mixed (small : T < UInt32.size) :
    Stages cfg T fun k D => Mixed cfg T D ∧ Stands cfg k D.slots where
  stable h := h.1.stable
  stands h := h.2
  congr {k D E} h slots synced := by
    refine ⟨⟨h.1.stable.congr slots synced, ?_, ?_⟩, ?_⟩
    · rw [slots]
      exact h.1.live
    · rw [slots, synced]
      exact h.1.synced
    · rw [slots]
      exact h.2
  step {k D F G E} h more commits := by
    have target := Record.target_nth k (Nat.lt_of_le_of_lt more small)
    refine ⟨h.1.commit small more commits, h.2.next ?_ (commits.others ?_).2.2⟩
    · rw [← target, commits.written]
    · omega

/-- Along all trails devices keep to bounded tables. -/
theorem sustains_mixed (crash : cfg.crash = .outOfOrder) :
    Sustains κ cfg m target (fun _ _ => True) fun _ X => Mixed cfg target.toNat X.device where
  stages {t X} h := by
    obtain ⟨k, bound, stands⟩ := h.live.exists_stands
    refine ⟨k, _, bound, ⟨h, stands⟩, stages_mixed target.toNat_lt,
      fun n i Y _ _ _ inside off => ?_⟩
    obtain ⟨D, F, G, E, ⟨mixed, -⟩, commits, there⟩ := off
    obtain ⟨erased, written⟩ := mixed.torn crash target.toNat_lt inside commits
    rw [there]
    split
    · exact erased
    · exact written

/-- A new device holds no records. -/
theorem mixed_origin (suits : Suits cfg) (image : Option Image) :
    Mixed cfg T (Scenario.origin cfg image).device := by
  have blank : Bounded cfg T (Device.fresh Block cfg).slots := by
    intro block _ r hr
    rw [decode_lead_fresh suits] at hr
    cases hr
  refine ⟨(Device.stable_fresh cfg).congr rfl rfl, blank, ?_⟩
  show Bounded cfg T ((Device.fresh Block cfg).synced.getD (Device.fresh Block cfg).slots)
  unfold Device.fresh
  split <;> exact blank

variable {strategy : Strategy} {limit : Nat}

/-- Where a loss of power takes other blocks back to the last sync, the counter gets to its target.

A scenario that drives it there ends well under every strategy. Each of its runs ends well or with
a loss of power, and mounts and commits no value past the target. If a run ends well, the target is
what a new mount finds. -/
theorem reaches_target (callbacks : Callbacks κ (List Account)) (nesting : Nat) (suits : Suits cfg)
    (crash : cfg.crash = .outOfOrder) (small : 2 * target.toNat < 0xffffffff)
    (enough : strategy.span (2 * target.toNat) < limit) :
    ∃ report, ∃ w w' : Bench Counted Nat κ (List Account),
      Scenario.run callbacks nesting limit strategy cfg [] (fun _ => countTo target) =
        .ok ⟨.ok report, some w⟩ ∧
      Scenario.runBody strategy cfg [] (accounting callbacks nesting target) limit =
        .ok ⟨.ok report, some w'⟩ ∧
      w'.memory.length = report.runs ∧
      ∀ acc ∈ w'.memory, (∀ x ∈ acc.told, x.2 ≤ target) ∧
        (acc.outcome = .ok () ∧ acc.after = some target ∨ acc.outcome = .error lost) := by
  have certain : cfg.crash ≠ .metastable := by
    rw [crash]
    decide
  obtain ⟨image, first⟩ := suits.firstImage
  obtain ⟨report, w, w', bare, closed, -, runs, comes, -⟩ :=
    (sustains_mixed (κ := κ) (m := []) crash).runs callbacks nesting suits certain small first
      (mixed_origin suits image) (fun _ _ => trivial) (fun _ _ _ _ => trivial) enough
  refine ⟨report, w, w', bare, closed, runs, fun acc hacc => ?_⟩
  obtain ⟨k, n, run⟩ := comes acc hacc
  exact ⟨fun x hx => (run.value hx).2, run.ends⟩

theorem reaches_target_pair : ∃ report, ∃ w w' : Bench Counted Nat Unit (List Account),
    Scenario.run uncalled 0 1 (.exhaustive 2) (pairConfig .outOfOrder 7) [] (fun _ => countTo 3) =
      .ok ⟨.ok report, some w⟩ ∧
    Scenario.runBody (.exhaustive 2) (pairConfig .outOfOrder 7) [] (accounting uncalled 0 3) 1 =
      .ok ⟨.ok report, some w'⟩ ∧
    w'.memory.length = report.runs ∧
    ∀ acc ∈ w'.memory, (∀ x ∈ acc.told, x.2 ≤ 3) ∧
      (acc.outcome = .ok () ∧ acc.after = some 3 ∨ acc.outcome = .error lost) :=
  reaches_target uncalled 0 (suits_pairConfig .outOfOrder 7) rfl (by decide) (by decide)

/-- On blocks that the granularities do not divide, no device is made. -/
theorem reaches_target_uneven :
    (16 ∣ Record.size ∧ Record.size ≤ 17 ∧ 17 < Config.allocationLimit ∧
      (unevenConfig .outOfOrder).geometry = ⟨16, 16, 17, 2⟩ ∧
      (unevenConfig .outOfOrder).crash = .outOfOrder ∧ (unevenConfig .outOfOrder).endurance = 0) ∧
    Scenario.run (S := Counted) (R := Nat) uncalled 0 2 .none (unevenConfig .outOfOrder) []
      (fun _ => countTo 1) = .ok ⟨.error (.device (.misuse (.blockSize 17 16 16))), none⟩ :=
  ⟨by decide, Scenario.runBody_of_check rfl .none [] _ 2⟩

end PingPong

end FaultyFlash
