import FaultyFlash.Proofs.PingPong.Records
import FaultyFlash.Proofs.PingPong.Trails

/-!
# The counter on devices that keep the order of updates

Where a loss of power touches no block but that of its update, the record that is mounted is never
touched: commits go to the other block. What is left there of an erase or a prog is not taken for a
record, as long as what was there before was not damaged itself. So the counter never goes back.

## Main definitions

* `PingPong.Intact`: bytes of which a damage is noticed
* `PingPong.Orderly`: devices whose mounted record is intact
* `PingPong.Lasting`: accounts in which no value gets lost

## Main results

* `PingPong.Orderly.torn`: what a loss of power leaves is orderly
* `PingPong.sustains_climbing`: along trails the counter does not go back
* `PingPong.values_last`: no value gets lost
-/

namespace FaultyFlash

namespace PingPong

variable {κ μ : Type} {cfg : Config} {m : μ} {target : UInt32} {T k : Nat}

/-- Bytes of a record, or bytes that are all the same. -/
def Intact (bs : Bytes) : Prop :=
  (∃ r : Record, bs = r.encode) ∨ ∃ v, bs = List.replicate Record.size v

/-- If one byte of such bytes is damaged, they are taken for no other record. -/
theorem Intact.decode_of_near {bs cs : Bytes} (h : Intact bs) (near : Bytes.Near bs cs) {r : Record}
    (hr : Record.decode cs = some r) : Record.decode bs = some r := by
  rcases h with ⟨s, rfl⟩ | ⟨v, rfl⟩
  · rw [Record.decode_of_near near hr]
    exact Record.decode_encode s
  · rw [Record.decode_near_replicate near (by decide)] at hr
    cases hr

/-- A device stands at a count, and the block of that is intact. -/
structure Orderly (cfg : Config) (k : Nat) (D : Device Block) : Prop where
  stable : D.Stable cfg
  stands : Stands cfg k D.slots
  intact : Intact (lead cfg D.slots (k % 2))

/-- The other block is intact, too. -/
def Tidy (cfg : Config) (k : Nat) (D : Device Block) : Prop :=
  Intact (lead cfg D.slots ((k + 1) % 2))

/-- Crashes touch no block but that of their update. -/
def Contained (cfg : Config) : Prop :=
  cfg.crash = .noop ∨ cfg.crash = .mostBits ∨ cfg.crash = .someBits

theorem Contained.ne_outOfOrder (h : Contained cfg) : cfg.crash ≠ .outOfOrder := by
  rcases h with h | h | h <;> rw [h] <;> decide

theorem Contained.ne_metastable (h : Contained cfg) : cfg.crash ≠ .metastable := by
  rcases h with h | h | h <;> rw [h] <;> decide

namespace Orderly

variable {D F G E Z : Device Block}

/-- The other block matters only as far as it holds no later record. -/
theorem other (h : Orderly cfg k D) (stable : Z.Stable cfg)
    (same : lead cfg Z.slots (k % 2) = lead cfg D.slots (k % 2))
    (older : ∀ r, Record.decode (lead cfg Z.slots ((k + 1) % 2)) = some r →
      ∃ l < k, r = Record.nth l) : Orderly cfg k Z := by
  refine ⟨stable, ⟨?_, fun {r} => older r⟩, same ▸ h.intact⟩
  rcases h.stands.current with current | ⟨rfl, none⟩
  · exact .inl (same ▸ current)
  · exact .inr ⟨rfl, (congrArg Record.decode same).trans none⟩

/-- With the next record in the other block, both blocks are intact. -/
theorem next (h : Orderly cfg k D) (stable : Z.Stable cfg)
    (written : lead cfg Z.slots ((k + 1) % 2) = (Record.nth (k + 1)).encode)
    (same : lead cfg Z.slots (k % 2) = lead cfg D.slots (k % 2)) :
    Orderly cfg (k + 1) Z ∧ Tidy cfg (k + 1) Z := by
  refine ⟨⟨stable, h.stands.next written same, .inl ⟨_, written⟩⟩, ?_⟩
  rw [Tidy, Nat.add_mod_right k 2, same]
  exact h.intact

/-- What a loss of power leaves of a commit is orderly. Only where it changes some bits of what is
erased, that has to be intact. -/
theorem torn (h : Orderly cfg k D) (contained : Contained cfg) {v : UInt8}
    (erases : cfg.eraseValue = some v) (small : k + 1 < UInt32.size)
    (commits : Commits cfg (Record.nth k) (Record.nth (k + 1)) D F G E) :
    ((cfg.crash = .someBits → Tidy cfg k D) → Orderly cfg k F) ∧
      (Orderly cfg k G ∨ Orderly cfg (k + 1) G) := by
  have target := Record.target_nth k small
  have same := commits.others (i := k % 2) (by omega)
  rw [h.stable.forgets contained.ne_outOfOrder, Option.getD_none] at same
  have blank {bs : Bytes} : cleared cfg bs = List.replicate Record.size v := by
    rw [cleared, erases, Option.elim_some]
  have erasing := commits.erasing
  have writing := commits.writing
  rw [blank, target] at erasing writing
  constructor
  · intro tidy
    refine h.other commits.stable.1 same.1 fun r hr => h.stands.other ?_
    rcases contained with crash | crash | crash <;> rw [crash] at erasing
    · rwa [show lead cfg F.slots _ = _ from erasing] at hr
    · rw [Record.decode_near_replicate erasing (by decide)] at hr
      cases hr
    · exact (tidy crash).decode_of_near erasing hr
  · rcases found : Record.decode (lead cfg G.slots ((k + 1) % 2)) with _ | r
    · exact .inl (h.other commits.stable.2.1 same.2.1 fun r hr => by rw [found] at hr; cases hr)
    rcases contained with crash | crash | crash <;> rw [crash] at writing
    · rw [show lead cfg G.slots _ = _ from writing,
        Record.decode_near_replicate (.refl _) (by decide)] at found
      cases found
    · -- a record that is read in spite of the damage is the next one, and whole
      obtain rfl := Record.decode_of_near writing found
      have whole := Record.eq_encode found writing.1
      exact .inr (h.next commits.stable.2.1 whole same.2.1).1
    · rw [Record.decode_near_replicate writing (by decide)] at found
      cases found

end Orderly

/-! ## Along trails -/

/-- The value that is mounted. -/
def height (cfg : Config) (X : Flash Plain Block) : Nat :=
  (newest cfg X.device.slots).value.toNat

theorem Orderly.height {X : Flash Plain Block} (h : Orderly cfg k X.device)
    (small : k < UInt32.size) : height cfg X = k := by
  rw [PingPong.height, h.stands.newest small]
  exact Record.toNat_nth small

/-- A device is orderly at a count on the way of a run from a count `l` on. Its other block is
intact after the first commit, and at the beginning in case `tidy`. -/
def OnWay (cfg : Config) (l : Nat) (tidy : Prop) (k : Nat) (D : Device Block) : Prop :=
  Orderly cfg k D ∧ (k ≠ l ∨ tidy → Tidy cfg k D)

/-- Orderly devices are kept from count to count. -/
theorem stages_onWay (small : T < UInt32.size) (l : Nat) (tidy : Prop) :
    Stages cfg T (OnWay cfg l tidy) where
  stable h := h.1.stable
  stands h := h.1.stands
  congr {k D E} h slots synced := by
    have same : Tidy cfg k E ↔ Tidy cfg k D := by rw [Tidy, Tidy, slots]
    rw [OnWay, same]
    exact ⟨⟨h.1.stable.congr slots synced, slots ▸ h.1.stands, slots ▸ h.1.intact⟩, h.2⟩
  step {k D F G E} h more commits := by
    have target := Record.target_nth k (Nat.lt_of_le_of_lt more small)
    obtain ⟨orderly, intact⟩ := h.1.next commits.stable.2.2 (target ▸ commits.written)
      (commits.others (by omega)).2.2
    exact ⟨orderly, fun _ => intact⟩

/-- A run that is broken off leaves an orderly device, at the count of a commit that was begun or at
the next. -/
theorem BrokenOff.orderly {l i : Nat} {tidy : Prop} {Z : Device Block}
    (h : BrokenOff cfg (OnWay cfg l tidy) l i Z) (contained : Contained cfg) {v : UInt8}
    (erases : cfg.eraseValue = some v) (small : T < UInt32.size) (inside : l + i / 2 < T)
    (first : cfg.crash = .someBits → i = 0 → tidy) :
    ∃ k ≤ T, l + i / 2 ≤ k ∧ Orderly cfg k Z := by
  obtain ⟨D, F, G, E, ⟨orderly, intact⟩, commits, rfl⟩ := h
  obtain ⟨erased, written⟩ :=
    orderly.torn contained erases (Nat.lt_of_le_of_lt inside small) commits
  split
  · next even =>
    refine ⟨l + i / 2, Nat.le_of_lt inside, Nat.le_refl _, erased fun crash => intact ?_⟩
    by_cases begun : i = 0
    · exact .inr (first crash begun)
    · exact .inl (by omega)
  · rcases written with before | after
    · exact ⟨l + i / 2, Nat.le_of_lt inside, Nat.le_refl _, before⟩
    · exact ⟨l + i / 2 + 1, inside, Nat.le_succ _, after⟩

/-- At the end of a trail the counter stands at a count, and it stood at no later one before on the
trail, counting the commits that were done there before power was lost. -/
structure Climbing (κ : Type) (cfg : Config) (m : μ) (target : UInt32) (origin : Flash Plain Block)
    (t : List UInt32) (X : Flash Plain Block) : Prop where
  leads : Trail.Leads (losses κ cfg m target) origin t X
  orderly : ∃ k ≤ target.toNat, Orderly cfg k X.device ∧ (t = [] → Tidy cfg k X.device)
  climbed {s u : List UInt32} {n : UInt32} {Z : Flash Plain Block} (ht : t = s ++ n :: u)
    (hZ : Trail.Leads (losses κ cfg m target) origin s Z) :
    height cfg Z + (n.toNat - 1) / 2 ≤ height cfg X

/-- Along trails the counter does not go back. If a loss of power changes some bits, it must not
come at the first update of a run, except in the first run. -/
theorem sustains_climbing (contained : Contained cfg) {v : UInt8} (erases : cfg.eraseValue = some v)
    (origin : Flash Plain Block) :
    Sustains κ cfg m target (fun t n => cfg.crash = .someBits → t ≠ [] → n ≠ 1)
      (Climbing κ cfg m target origin) where
  stages {t X} h := by
    have small := target.toNat_lt
    obtain ⟨l, bound, orderly, tidy⟩ := h.orderly
    refine ⟨l, OnWay cfg l (t = []), bound, ⟨orderly, ?_⟩, stages_onWay small l (t = []),
      fun n i Y ok here hits inside off => ?_⟩
    · rintro (ne | nil)
      · exact absurd rfl ne
      · exact tidy nil
    obtain ⟨k, bound', climbed, orderly'⟩ := off.orderly contained erases small inside
      fun crash begun => by
        by_contra more
        refine ok crash more (UInt32.toNat_inj.1 ?_)
        rw [here, begun]
        rfl
    have below : height cfg X + (n.toNat - 1) / 2 ≤ height cfg Y := by
      rw [orderly.height (Nat.lt_of_le_of_lt bound small),
        orderly'.height (Nat.lt_of_le_of_lt bound' small), here]
      exact climbed
    refine ⟨h.leads.snoc hits, ⟨k, bound', orderly', fun nil => ?_⟩, fun {s u n' Z} ht hZ => ?_⟩
    · exact absurd nil (List.append_ne_nil_of_right_ne_nil t (List.cons_ne_nil n []))
    · rcases List.eq_nil_or_concat u with rfl | ⟨u, c, rfl⟩
      · -- the last countdown of the trail
        obtain ⟨rfl, last⟩ := List.append_inj' ht rfl
        obtain rfl := (List.cons.inj last).1
        rw [hZ.unique h.leads]
        exact below
      · rw [List.concat_eq_append, ← List.cons_append, ← List.append_assoc] at ht
        exact Nat.le_trans (h.climbed (List.append_inj' ht rfl).1 hZ)
          (Nat.le_trans (Nat.le_add_right _ _) below)

/-- Accounts of the runs at the ends of trails, in which no value gets lost. What a run tells is
never less than what it told before. Neither is it less than what was told by a run at an earlier
point of its trail before the trail went on from there: that was all, if power was lost in that run,
and what was told before the update of the next countdown, if that run lost no power. -/
structure Lasting (trails : List (List UInt32)) (accs : List Account) : Prop where
  within {acc : Account} (h : acc ∈ accs) : acc.told.Pairwise fun x y => x.2 ≤ y.2
  along {i j : Nat} {s u : List UInt32} {n : UInt32} {a b : Account} {x y : Nat × UInt32}
    (hs : trails[i]? = some s) (hu : trails[j]? = some (s ++ n :: u)) (ha : accs[i]? = some a)
    (hb : accs[j]? = some b) (hx : x ∈ a.told) (before : x.1 < n.toNat ∨ a.outcome ≠ .ok ())
    (hy : y ∈ b.told) : x.2 ≤ y.2

variable {strategy : Strategy} {limit : Nat}

/-- A new device is orderly. -/
theorem climbing_origin (suits : Suits cfg) (image : Option Image) :
    Climbing κ cfg m target (Scenario.origin cfg image) [] (Scenario.origin cfg image) := by
  have blank (block : Nat) : lead cfg (Scenario.origin cfg image).device.slots block =
      List.replicate Record.size cfg.fill := lead_fresh suits block
  have none (block : Nat) :
      Record.decode (lead cfg (Scenario.origin cfg image).device.slots block) = none :=
    decode_lead_fresh suits block
  refine ⟨Trail.leads_nil.2 rfl, ⟨0, Nat.zero_le _, ⟨?_, ⟨.inr ⟨rfl, none 0⟩, fun hr => ?_⟩, ?_⟩,
    fun _ => ?_⟩, fun ht => ?_⟩
  · exact (Device.stable_fresh cfg).congr rfl rfl
  · rw [none] at hr
    cases hr
  · exact .inr ⟨_, blank _⟩
  · exact .inr ⟨_, blank _⟩
  · simp at ht

/-- No value gets lost along the trails of a scenario, wherever the counter does not go back. -/
theorem lasting_of_comes {origin : Flash Plain Block} {trails : List (List UInt32)}
    {accs : List Account}
    (scheduled : ∀ s n u, s ++ n :: u ∈ trails → n = strategy.schedule s.length ∨
      strategy.schedule s.length = 0)
    (comes : List.Forall₂ (fun t acc => ∃ X k, Climbing κ cfg m target origin t X ∧
      newest cfg X.device.slots = Record.nth k ∧ k ≤ target.toNat ∧
      acc.Comes target k (strategy.schedule t.length)) ([] :: trails) accs) :
    Lasting ([] :: trails) accs where
  within {acc} hacc := by
    obtain ⟨i, inside, rfl⟩ := List.getElem_of_mem hacc
    obtain ⟨X, k, -, -, -, run⟩ := comes.get (by rw [comes.length_eq]; exact inside) inside
    exact run.sorted
  along {i j s u n a b x y} hs hu ha hb hx before hy := by
    have run {i : Nat} {t : List UInt32} {acc : Account} (ht : ([] :: trails)[i]? = some t)
        (hacc : accs[i]? = some acc) : ∃ X k, Climbing κ cfg m target origin t X ∧
          height cfg X = k ∧ acc.Comes target k (strategy.schedule t.length) := by
      obtain ⟨hi, rfl⟩ := List.getElem?_eq_some_iff.1 ht
      obtain ⟨hi', rfl⟩ := List.getElem?_eq_some_iff.1 hacc
      obtain ⟨X, k, climbing, newest, bound, run⟩ := comes.get hi hi'
      refine ⟨X, k, climbing, ?_, run⟩
      rw [height, newest]
      exact Record.toNat_nth (Nat.lt_of_le_of_lt bound target.toNat_lt)
    obtain ⟨X, k, climbing, here, first⟩ := run hs ha
    obtain ⟨Y, l, climbing', there, second⟩ := run hu hb
    have climbed := climbing'.climbed rfl climbing.leads
    rw [here, there] at climbed
    have passed : x.1 < n.toNat := by
      rcases before with before | off
      · exact before
      -- the run was broken off by the countdown with which the trail goes on
      have before := first.before off hx
      have found : s ++ n :: u ∈ trails := by
        rcases List.mem_cons.1 (List.mem_of_getElem? hu) with nil | mem
        · simp at nil
        · exact mem
      rcases scheduled s n u found with rfl | zero
      · exact before
      · rw [zero] at before
        exact absurd before (Nat.not_lt_zero x.1)
    rw [UInt32.le_iff_toNat_le, (first.value hx).1, (second.value hy).1]
    omega

/-- Whatever countdowns a strategy names, no value gets lost, as long as a loss of power that
changes some bits comes at the first update of no run but the first. -/
theorem runs_lasting (callbacks : Callbacks κ (List Account)) (nesting : Nat) (suits : Suits cfg)
    {v : UInt8} (erases : cfg.eraseValue = some v) (small : 2 * target.toNat < 0xffffffff)
    (contained : Contained cfg)
    (later : cfg.crash = .someBits → (∀ depth, strategy ≠ .exhaustive depth) ∧
      ∀ j < strategy.span (2 * target.toNat), j ≠ 0 → strategy.schedule j ≠ 1)
    (enough : strategy.span (2 * target.toNat) < limit) :
    ∃ report, ∃ w w' : Bench Counted Nat κ (List Account),
      Scenario.run callbacks nesting limit strategy cfg [] (fun _ => countTo target) =
        .ok ⟨.ok report, some w⟩ ∧
      Scenario.runBody strategy cfg [] (accounting callbacks nesting target) limit =
        .ok ⟨.ok report, some w'⟩ ∧
      w'.memory.length = report.runs ∧
      (∀ acc ∈ w'.memory, acc.outcome = .ok () ∨ acc.outcome = .error lost) ∧
      Lasting ([] :: report.trails) w'.memory := by
  obtain ⟨image, first⟩ := suits.firstImage
  obtain ⟨report, w, w', bare, closed, trails, runs, ends, comes⟩ :=
    (sustains_climbing (κ := κ) (m := []) contained erases (Scenario.origin cfg image)).runs
      callbacks nesting suits contained.ne_metastable small first (climbing_origin suits image)
      (fun j hj crash more => (later crash).2 j hj fun zero => more (by rw [zero]; rfl))
      (fun depth every t n crash => absurd every ((later crash).1 depth)) enough
  refine ⟨report, w, w', bare, closed, runs, fun acc hacc => ?_, lasting_of_comes ?_ comes⟩
  · obtain ⟨k, n, run⟩ := ends acc hacc
    exact run.ends.imp And.left id
  · intro s n u found
    rw [trails] at found
    cases strategy with
    | exhaustive depth => exact .inr rfl
    | _ => exact .inl (Strategy.eq_schedule_of_found nofun found)

/-- Where a loss of power leaves nothing of an update, or all but one bit, no value of the counter
gets lost under any strategy. Where it leaves one bit of it, none gets lost without losses of power,
and with longer and longer countdowns.

A scenario that drives the counter to a target ends well then, each of its runs ends well or with a
loss of power, and no run mounts or commits a value less than one that was mounted or committed
before, by itself or by a run on whose device it goes on. -/
theorem values_last (callbacks : Callbacks κ (List Account)) (nesting : Nat) (suits : Suits cfg)
    {v : UInt8} (erases : cfg.eraseValue = some v) (small : 2 * target.toNat < 0xffffffff)
    (calm : cfg.crash = .noop ∨ cfg.crash = .mostBits ∨
      cfg.crash = .someBits ∧ (strategy = .none ∨ strategy = .linear ∨ strategy = .log))
    (enough : strategy.span (2 * target.toNat) < limit) :
    ∃ report, ∃ w w' : Bench Counted Nat κ (List Account),
      Scenario.run callbacks nesting limit strategy cfg [] (fun _ => countTo target) =
        .ok ⟨.ok report, some w⟩ ∧
      Scenario.runBody strategy cfg [] (accounting callbacks nesting target) limit =
        .ok ⟨.ok report, some w'⟩ ∧
      w'.memory.length = report.runs ∧
      (∀ acc ∈ w'.memory, acc.outcome = .ok () ∨ acc.outcome = .error lost) ∧
      Lasting ([] :: report.trails) w'.memory := by
  have contained : Contained cfg := calm.imp id (Or.imp id And.left)
  refine runs_lasting callbacks nesting suits erases small contained (fun crash => ?_) enough
  have few : strategy = .none ∨ strategy = .linear ∨ strategy = .log := by
    rcases calm with other | other | ⟨-, few⟩
    · rw [crash] at other
      cases other
    · rw [crash] at other
      cases other
    · exact few
  rcases few with rfl | rfl | rfl
  · exact ⟨nofun, fun j hj => absurd hj (Nat.not_lt_zero j)⟩
  · exact ⟨nofun, fun j hj positive =>
      (Strategy.schedule_ne_one positive).1 (Nat.lt_trans hj small)⟩
  · exact ⟨nofun, fun j hj positive => (Strategy.schedule_ne_one positive).2 hj⟩

theorem values_last_pair : ∃ report, ∃ w w' : Bench Counted Nat Unit (List Account),
    Scenario.run uncalled 0 7 .linear (pairConfig .someBits 984) [] (fun _ => countTo 3) =
      .ok ⟨.ok report, some w⟩ ∧
    Scenario.runBody .linear (pairConfig .someBits 984) [] (accounting uncalled 0 3) 7 =
      .ok ⟨.ok report, some w'⟩ ∧
    w'.memory.length = report.runs ∧
    (∀ acc ∈ w'.memory, acc.outcome = .ok () ∨ acc.outcome = .error lost) ∧
    Lasting ([] :: report.trails) w'.memory :=
  values_last uncalled 0 (suits_pairConfig .someBits 984) rfl (by decide)
    (.inr (.inr ⟨rfl, .inr (.inl rfl)⟩)) (by decide)

/-- On blocks that the granularities do not divide, no device is made. -/
theorem values_last_uneven :
    (16 ∣ Record.size ∧ Record.size ≤ 17 ∧ 17 < Config.allocationLimit ∧
      (unevenConfig .noop).geometry = ⟨16, 16, 17, 2⟩ ∧ (unevenConfig .noop).crash = .noop ∧
      (unevenConfig .noop).eraseValue = some 0xff ∧ (unevenConfig .noop).endurance = 0) ∧
    Scenario.run (S := Counted) (R := Nat) uncalled 0 2 .none (unevenConfig .noop) []
      (fun _ => countTo 1) = .ok ⟨.error (.device (.misuse (.blockSize 17 16 16))), none⟩ :=
  ⟨by decide, Scenario.runBody_of_check rfl .none [] _ 2⟩

/-- Where a loss of power leaves one bit of an update, no value of the counter gets lost along a
list of countdowns either, as long as power is not lost at the first update of a run that follows a
loss. -/
theorem values_last_explicit (callbacks : Callbacks κ (List Account)) (nesting : Nat)
    (suits : Suits cfg) {v : UInt8} (erases : cfg.eraseValue = some v)
    (small : 2 * target.toNat < 0xffffffff) (crash : cfg.crash = .someBits)
    {schedule : List UInt32} (later : ∀ n ∈ schedule.tail, n ≠ 1)
    (enough : schedule.length < limit) :
    ∃ report, ∃ w w' : Bench Counted Nat κ (List Account),
      Scenario.run callbacks nesting limit (.explicit schedule) cfg [] (fun _ => countTo target) =
        .ok ⟨.ok report, some w⟩ ∧
      Scenario.runBody (.explicit schedule) cfg [] (accounting callbacks nesting target) limit =
        .ok ⟨.ok report, some w'⟩ ∧
      w'.memory.length = report.runs ∧
      (∀ acc ∈ w'.memory, acc.outcome = .ok () ∨ acc.outcome = .error lost) ∧
      Lasting ([] :: report.trails) w'.memory := by
  refine runs_lasting callbacks nesting suits erases small (.inr (.inr crash)) (fun _ => ?_) enough
  refine ⟨nofun, fun j hj positive => ?_⟩
  obtain ⟨i, rfl⟩ := Nat.exists_eq_succ_of_ne_zero positive
  have inside : i + 1 < schedule.length := hj
  refine later _ (List.mem_of_getElem? (i := i) ?_)
  rw [List.getElem?_tail]
  show schedule[i + 1]? = some (schedule[i + 1]?.getD 0)
  rw [List.getElem?_eq_getElem inside, Option.getD_some]

theorem values_last_explicit_pair : ∃ report, ∃ w w' : Bench Counted Nat Unit (List Account),
    Scenario.run uncalled 0 4 (.explicit [1, 2, 3]) (pairConfig .someBits 984) []
      (fun _ => countTo 3) = .ok ⟨.ok report, some w⟩ ∧
    Scenario.runBody (.explicit [1, 2, 3]) (pairConfig .someBits 984) [] (accounting uncalled 0 3) 4 =
      .ok ⟨.ok report, some w'⟩ ∧
    w'.memory.length = report.runs ∧
    (∀ acc ∈ w'.memory, acc.outcome = .ok () ∨ acc.outcome = .error lost) ∧
    Lasting ([] :: report.trails) w'.memory :=
  values_last_explicit uncalled 0 (suits_pairConfig .someBits 984) rfl (by decide) rfl (by simp)
    (by decide)

/-- Two losses of power at erases of one block, in a run and at the first update of the next, can
leave what is taken for a record that was never written. -/
theorem values_last_explicit_forged : ∃ w : Bench Counted Nat Unit (List Account),
    Scenario.run uncalled 0 3 (.explicit [5, 1]) (pairConfig .someBits 984) [] (fun _ => countTo 3) =
      .ok ⟨.error (.miscount (.past 3 8193)), some w⟩ := by
  have ends : Scenario.ended (Scenario.run (S := Counted) uncalled 0 3 (.explicit [5, 1])
      (pairConfig .someBits 984) [] (fun _ => countTo 3)) =
      some (.error (.miscount (.past 3 8193))) := by
    decide +kernel
  exact Scenario.ended_eq_some.1 ends

end PingPong

end FaultyFlash
