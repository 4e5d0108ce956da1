import FaultyFlash.Proofs.PingPong.Courses
import FaultyFlash.Proofs.PingPong.Records

/-!
# Counting up

The counter counts up from what it mounts, one record after another, in two blocks by turns. Where
something is kept by commits from one count to the next, a whole run of it keeps that, too, and
comes to its target. If the run is broken off, it is at one of its commits, and what it told until
then are the counts in order.

## Main definitions

* `PingPong.Record.nth`: the records in a row
* `PingPong.Stands`: a count that is mounted from a table
* `PingPong.Stages`: what is kept by commits, count for count
* `PingPong.Account.counted`: the account of a run after some commits

## Main results

* `PingPong.Stands.newest`: such a count is mounted
* `PingPong.Stages.course_climb`, `PingPong.Stages.course_recount`: what a run comes to
-/

namespace FaultyFlash

open Flash (answered)

variable {κ μ α β : Type} {cfg : Config} {m : μ}

namespace PingPong

/-! ## Records in a row -/

/-- The record after `k` commits of a counter that counts up by one. -/
def Record.nth (k : Nat) : Record := ⟨k.toUInt32, k.toUInt32⟩

namespace Record

variable {k l : Nat}

theorem nth_succ (k : Nat) : nth (k + 1) = ⟨(nth k).revision + 1, (nth k).value + 1⟩ := by
  have word : (k + 1).toUInt32 = k.toUInt32 + 1 := UInt32.ofNat_add k 1
  rw [nth, word]
  rfl

theorem toNat_nth (small : k < UInt32.size) : (nth k).value.toNat = k := Nat.mod_eq_of_lt small

theorem target_nth (k : Nat) (small : k + 1 < UInt32.size) : (nth k).target = (k + 1) % 2 := by
  have next : (nth (k + 1)).revision = (nth k).revision + 1 := congrArg Record.revision (nth_succ k)
  have word : ((nth k).revision + 1).toNat = k + 1 := by
    rw [← next]
    exact Nat.mod_eq_of_lt small
  rw [target, UInt32.toNat_mod, word]
  rfl

theorem nth_lt (h : k < l) (small : l < UInt32.size) : (nth k).revision < (nth l).revision := by
  have first : (nth k).revision.toNat = k := Nat.mod_eq_of_lt (Nat.lt_trans h small)
  have second : (nth l).revision.toNat = l := Nat.mod_eq_of_lt small
  rw [UInt32.lt_iff_toNat_lt, first, second]
  exact h

/-- The newer of two records in a row is the later one. -/
theorem newer_nth (h : k < l) (small : l < UInt32.size) :
    newer (some (nth k)) (some (nth l)) = some (nth l) ∧
      newer (some (nth l)) (some (nth k)) = some (nth l) := by
  have lt := nth_lt h small
  exact ⟨if_pos lt, if_neg (UInt32.lt_asymm lt)⟩

end Record

/-- A table stands at a count `k`: its record is in the block of its parity, or `k` is zero and that
block holds none, and the other block holds an earlier record at most. -/
structure Stands (cfg : Config) (k : Nat) (slots : Slots Block) : Prop where
  current : Record.decode (lead cfg slots (k % 2)) = some (Record.nth k) ∨
    k = 0 ∧ Record.decode (lead cfg slots 0) = none
  other {r : Record} (h : Record.decode (lead cfg slots ((k + 1) % 2)) = some r) :
    ∃ l < k, r = Record.nth l

/-- What is mounted from a table that stands at a count is its record. -/
theorem Stands.newest {k : Nat} {slots : Slots Block} (h : Stands cfg k slots)
    (small : k < UInt32.size) : newest cfg slots = Record.nth k := by
  have blocks : k % 2 = 0 ∧ (k + 1) % 2 = 1 ∨ k % 2 = 1 ∧ (k + 1) % 2 = 0 := by omega
  have current := h.current
  have other : ∀ r, Record.decode (lead cfg slots ((k + 1) % 2)) = some r →
      ∃ l < k, r = Record.nth l := fun r => h.other
  unfold PingPong.newest
  rcases blocks with ⟨even, odd⟩ | ⟨odd, even⟩
  · rw [even] at current
    rw [odd] at other
    rcases second : Record.decode (lead cfg slots 1) with _ | r
    · rcases current with current | ⟨rfl, none⟩
      · rw [current]
        rfl
      · rw [none]
        rfl
    · obtain ⟨l, earlier, rfl⟩ := other r second
      rcases current with current | ⟨rfl, -⟩
      · rw [current, (Record.newer_nth earlier small).2, Option.getD_some]
      · exact absurd earlier (Nat.not_lt_zero l)
  · rw [odd] at current
    rw [even] at other
    have current : Record.decode (lead cfg slots 1) = some (Record.nth k) := by
      rcases current with current | ⟨rfl, -⟩
      · exact current
      · cases odd
    rw [current]
    rcases first : Record.decode (lead cfg slots 0) with _ | r
    · rfl
    · obtain ⟨l, earlier, rfl⟩ := other r first
      rw [(Record.newer_nth earlier small).1, Option.getD_some]

/-- With the next record in its other block a table stands at the next count. -/
theorem Stands.next {k : Nat} {slots slots' : Slots Block} (h : Stands cfg k slots)
    (written : lead cfg slots' ((k + 1) % 2) = (Record.nth (k + 1)).encode)
    (same : lead cfg slots' (k % 2) = lead cfg slots (k % 2)) : Stands cfg (k + 1) slots' := by
  refine ⟨.inl (written ▸ Record.decode_encode _), fun {r} hr => ?_⟩
  rw [Nat.add_mod_right k 2, same] at hr
  rcases h.current with current | ⟨rfl, none⟩
  · rw [current] at hr
    exact ⟨k, Nat.lt_succ_self k, (Option.some.inj hr).symm⟩
  · rw [show 0 % 2 = 0 from rfl, none] at hr
    cases hr

/-- The record of a block of a new device is what unwritten flash reads as. -/
theorem lead_fresh (suits : Suits cfg) (block : Nat) :
    lead cfg (Device.fresh Block cfg).slots block = List.replicate Record.size cfg.fill := by
  have blank : (Device.fresh Block cfg).slots.stored cfg block =
      List.replicate cfg.geometry.blockSize cfg.fill := by
    have none : (Device.fresh Block cfg).slots[block]?.join = none := by
      simp [Device.fresh, List.getElem?_replicate, apply_ite Option.join]
    rw [Slots.stored, none]
    rfl
  rw [lead, blank, List.take_replicate, Nat.min_eq_left suits.size]

/-- A new device holds no record. -/
theorem decode_lead_fresh (suits : Suits cfg) (block : Nat) :
    Record.decode (lead cfg (Device.fresh Block cfg).slots block) = none := by
  rw [lead_fresh suits]
  exact Record.decode_near_replicate (.refl _) (by decide)

/-! ## Runs of the counter -/

/-- Something is kept from count to count: a device at a count `k` stands there, and by the commit
of the next record it comes to the next count, up to `T`. -/
structure Stages (cfg : Config) (T : Nat) (I : Nat → Device Block → Prop) : Prop where
  stable {k : Nat} {D : Device Block} (h : I k D) : D.Stable cfg
  stands {k : Nat} {D : Device Block} (h : I k D) : Stands cfg k D.slots
  congr {k : Nat} {D E : Device Block} (h : I k D) (slots : E.slots = D.slots)
    (synced : E.synced = D.synced) : I k E
  step {k : Nat} {D F G E : Device Block} (h : I k D) (more : k < T)
    (commits : Commits cfg (Record.nth k) (Record.nth (k + 1)) D F G E) : I (k + 1) E

/-- The counts from `k` on that were told after `j` commits. -/
def counts (k j : Nat) : List (Nat × UInt32) :=
  (List.range (j + 1)).map fun i => (2 * i, (k + i).toUInt32)

/-- The account of a run that began at a count `k`, after `j` commits. -/
def Account.counted (k j : Nat) : Account := { updates := 2 * j, told := counts k j }

/-- Where a run that began at a count `k` is broken off at its `i`-th update, counted from zero: at
the erase or at the prog of a commit. -/
def BrokenOff (cfg : Config) (I : Nat → Device Block → Prop) (k i : Nat) (Z : Device Block) :
    Prop :=
  ∃ D F G E, I (k + i / 2) D ∧
    Commits cfg (Record.nth (k + i / 2)) (Record.nth (k + i / 2 + 1)) D F G E ∧
    Z = if i % 2 = 0 then F else G

/-- The accounts and the devices with which a run that began at a count `k` can be broken off in the
`n` commits after the first `j`. -/
structure Breaks (cfg : Config) (I : Nat → Device Block → Prop) (k j n : Nat)
    (broken : List (Account × Flash Plain Block)) : Prop where
  length : broken.length = 2 * n
  told {i : Nat} {x : Account × Flash Plain Block} (h : broken[i]? = some x) :
    x.1.told = counts k (j + i / 2)
  off {i : Nat} {x : Account × Flash Plain Block} (h : broken[i]? = some x) :
    BrokenOff cfg I k (2 * j + i) x.2.device

namespace Breaks

variable {I : Nat → Device Block → Prop} {k j n : Nat} {a b : Account} {F G : Flash Plain Block}
  {D E : Device Block} {broken : List (Account × Flash Plain Block)}

theorem nil : Breaks cfg I k j 0 [] := ⟨rfl, fun h => (Option.some_ne_none _ h.symm).elim,
  fun h => (Option.some_ne_none _ h.symm).elim⟩

/-- A run can be broken off in a commit or in those after it. -/
theorem commit (h : I (k + j) D)
    (commits : Commits cfg (Record.nth (k + j)) (Record.nth (k + j + 1)) D F.device G.device E)
    (told : a.told = counts k j ∧ b.told = counts k j) (rest : Breaks cfg I k (j + 1) n broken) :
    Breaks cfg I k j (n + 1) ((a, F) :: (b, G) :: broken) := by
  have place (i : Nat) : j + 1 + i / 2 = j + (i + 2) / 2 ∧ 2 * (j + 1) + i = 2 * j + (i + 2) := by
    omega
  have half : (2 * j + 0) / 2 = j ∧ (2 * j + 1) / 2 = j := by omega
  have parity : (2 * j + 0) % 2 = 0 ∧ (2 * j + 1) % 2 ≠ 0 := by omega
  refine ⟨by rw [List.length_cons, List.length_cons, rest.length]; omega, ?_, ?_⟩
  · intro i x hx
    rcases i with _ | _ | i
    · cases hx
      exact told.1
    · cases hx
      exact told.2
    · rw [← (place i).1]
      exact rest.told hx
  · intro i x hx
    rcases i with _ | _ | i
    · cases hx
      refine ⟨D, F.device, G.device, E, ?_, ?_, (if_pos parity.1).symm⟩
      · rwa [half.1]
      · rwa [half.1]
    · cases hx
      refine ⟨D, F.device, G.device, E, ?_, ?_, (if_neg parity.2).symm⟩
      · rwa [half.2]
      · rwa [half.2]
    · rw [← (place i).2]
      exact rest.off hx

end Breaks

theorem counts_succ (k j : Nat) :
    counts k (j + 1) = counts k j ++ [(2 * (j + 1), (Record.nth (k + (j + 1))).value)] := by
  rw [counts, List.range_succ, List.map_append]
  rfl

namespace Stages

variable {T k j n : Nat} {I : Nat → Device Block → Prop} {X : Flash Plain Block}

/-- A run of commits goes from count to count. -/
theorem course_climb (suits : Suits cfg) (crash : cfg.crash ≠ .metastable) (stages : Stages cfg T I)
    (start : I (k + j) X.device) (bound : k + j + n ≤ T) :
    ∃ broken E, Recount.Course cfg m
        (Recount.climb n (Record.nth (k + j)) : Recount κ μ Record) (.counted k j) X broken
        (Record.nth (k + (j + n))) (.counted k (j + n)) E ∧
      I (k + (j + n)) E.device ∧ Breaks cfg I k j n broken := by
  induction n generalizing j X with
  | zero => exact ⟨[], X, .pure _ _ X, start, .nil⟩
  | succ n ih =>
    obtain ⟨F, G, Y, first, commits⟩ := course_commit (κ := κ) (m := m) suits crash
      (stages.stable start) (.counted k j) (Record.nth (k + j)) ((Record.nth (k + j)).value + 1)
    rw [← Record.nth_succ] at first commits
    have more : k + j < T := by omega
    have next : I (k + (j + 1)) Y.device := stages.step start more commits
    obtain ⟨broken, E, rest, last, breaks⟩ := ih next (by omega)
    have counted : ({ Account.counted k j with
        updates := (Account.counted k j).updates + 2
        told := (Account.counted k j).told ++
          [((Account.counted k j).updates + 2, (Record.nth (k + j)).value + 1)] } : Account) =
        .counted k (j + 1) := by
      have value : (Record.nth (k + (j + 1))).value = (Record.nth (k + j)).value + 1 :=
        congrArg Record.value (Record.nth_succ (k + j))
      rw [Account.counted, Account.counted, counts_succ, value]
      rfl
    rw [counted] at first
    have whole : j + 1 + n = j + (n + 1) := Nat.add_right_comm j 1 n
    rw [whole] at rest last
    exact ⟨_, E, .bind (.commit _ _) first rest, last, breaks.commit start commits ⟨rfl, rfl⟩⟩

/-- A run comes to its target, and tells it twice. -/
theorem course_countTo {target : UInt32} (suits : Suits cfg) (crash : cfg.crash ≠ .metastable)
    (stages : Stages cfg target.toNat I) (start : I k X.device) (bound : k + n = target.toNat) :
    ∃ broken E, Recount.Course cfg m (Recount.countTo target : Recount κ μ Unit) {} X broken ()
        { updates := 2 * n, told := counts k n ++ [(2 * n, target)] } E ∧
      I target.toNat E.device ∧ Breaks cfg I k 0 n broken := by
  have small : target.toNat < UInt32.size := target.toNat_lt
  have word : (Record.nth target.toNat).value = target := UInt32.ofNat_toNat
  obtain ⟨Y, mounts, slots, synced⟩ :=
    course_mount (κ := κ) (m := m) suits crash (stages.stable start) {}
  have kept : I (k + 0) Y.device := stages.congr start slots synced
  have value := Record.toNat_nth (k := k) (by omega)
  rw [(stages.stands start).newest (by omega)] at mounts
  obtain ⟨broken, Z, climbs, there, breaks⟩ :=
    stages.course_climb (κ := κ) (m := m) (n := n) suits crash kept (by omega)
  rw [Nat.zero_add, bound] at climbs there
  obtain ⟨E, again, slots', synced'⟩ :=
    course_mount (κ := κ) (m := m) suits crash (stages.stable there) (.counted k n)
  rw [(stages.stands there).newest small] at again
  have below : ¬ (Record.nth k).value > target := by
    rw [gt_iff_lt, UInt32.lt_iff_toNat_lt, value]
    omega
  have steps : target.toNat - (Record.nth k).value.toNat = n := by omega
  have right : ¬ (Record.nth target.toNat).value ≠ target := fun h => h word
  refine ⟨[] ++ (broken ++ ([] ++ [])), E, .bind .mount mounts ?_,
    stages.congr there slots' synced', ?_⟩
  · rw [if_neg below, steps]
    refine .bind (.climb _ _) climbs (.bind .mount again ?_)
    rw [if_neg right, word]
    exact .pure _ _ E
  · simpa using breaks

/-- So does a run without an account, and one that is followed by another mount, which finds the
target. -/
theorem course_recount {target : UInt32} (suits : Suits cfg) (crash : cfg.crash ≠ .metastable)
    (stages : Stages cfg target.toNat I) (start : I k X.device) (bound : k + n = target.toNat) :
    ∃ broken Y E,
      (PingPong.countTo target : ExceptT CountError (Program κ μ) Unit).run.Course cfg m X
        (broken.map fun x => (.error lost, x.2)) (.ok ()) Y ∧
      (recount target : Program κ μ Account).Course cfg m X
        (broken.map fun x => ({ x.1 with outcome := .error lost }, x.2))
        { updates := 2 * n, told := counts k n ++ [(2 * n, target)], after := some target } E ∧
      Breaks cfg I k 0 n broken := by
  obtain ⟨broken, Y, run, there, breaks⟩ :=
    stages.course_countTo (κ := κ) (m := m) suits crash start bound
  have asks := Recount.Asks.countTo (κ := κ) (μ := μ) target {}
  have bare := run.map asks Prod.fst
  rw [Recount.Recounts.countTo target {}, List.map_map] at bare
  obtain ⟨Z, E, first, second, -⟩ := reads_both suits crash (stages.stable there)
  have found : (newest cfg Y.device.slots).value = target := by
    rw [(stages.stands there).newest target.toNat_lt]
    exact UInt32.ofNat_toNat
  have last : (close (.ok (), { updates := 2 * n, told := counts k n ++ [(2 * n, target)] }) :
      Program κ μ Account).Course cfg m Y []
      { updates := 2 * n, told := counts k n ++ [(2 * n, target)], after := some target } E := by
    refine .ask first rfl (.ask second rfl ?_)
    rw [← found]
    exact .done _ E
  have closed := Program.Course.bind asks run last (fun z => { z.2 with outcome := .error lost })
    fun x hx => by
      obtain ⟨x, -, rfl⟩ := List.mem_map.1 hx
      rfl
  rw [List.append_nil, List.map_map] at closed
  exact ⟨broken, Y, E, bare, closed, breaks⟩

end Stages

end PingPong

end FaultyFlash
