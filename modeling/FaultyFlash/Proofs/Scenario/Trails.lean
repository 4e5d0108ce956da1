import FaultyFlash.Scenario.Exhaustive

/-!
# Trails

A run that may lose power at several points leaves one state for each of them, and so does a run
from any of these states. A trail says at which point power is lost in each run: it is a list of
countdowns.

## Main definitions

* `Trail.hit n crashes`: the state that a countdown leads to
* `Trail.visited crashes X t`: the states from which runs start when countdowns follow a list
* `Trail.reached crashes depth X`: all trails of a bounded length and the states that they lead to,
  in the order in which the exhaustive strategy finds them
* `Trail.Passes crashes ok depth X`: all these states are `ok`, and their points can be counted

## Main results

* `Trail.mem_reached`, `Trail.mem_trails`: what is found are the lists whose countdowns all hit
* `Trail.sorted_reached`: they are found in lexicographic order
* `Trail.exists_block`: in this order a trail stands right before its extensions
-/

namespace FaultyFlash

namespace Trail

variable {σ : Type} {crashes : σ → List σ} {n : UInt32} {X Y Z : σ} {depth i : Nat}

/-! ## Countdowns -/

/-- The state that a countdown leads to, among those that losses of power in turn would leave. -/
def hit (n : UInt32) (crashes : List σ) : Option σ :=
  if n = 0 then none else crashes[n.toNat - 1]?

theorem hit_nil (n : UInt32) : hit n ([] : List σ) = none := by
  simp [hit]

/-- An update counts down, and loses power at one. -/
theorem hit_cons (n : UInt32) (Z : σ) (Zs : List σ) :
    hit n (Z :: Zs) = if n = 1 then some Z else hit (if n = 0 then 0 else n - 1) Zs := by
  by_cases now : n = 1
  · rw [if_pos now, now]
    rfl
  by_cases off : n = 0
  · have never : (0 : UInt32) ≠ 1 := by decide
    rw [off, if_neg never]
    rfl
  have positive : n.toNat ≠ 0 := fun h => off (UInt32.toNat_inj.1 h)
  have more : n.toNat ≠ 1 := fun h => now (UInt32.toNat_inj.1 h)
  have one : (n - 1).toNat = n.toNat - 1 :=
    UInt32.toNat_sub_of_le n 1 (UInt32.le_iff_toNat_le.2 (Nat.one_le_iff_ne_zero.2 positive))
  have rest : n - 1 ≠ 0 := by
    intro h
    rw [h] at one
    have zero : n.toNat - 1 = 0 := one.symm
    omega
  -- the countdown is at least two, so one less hits one place earlier
  rw [if_neg now, if_neg off, hit, hit, if_neg off, if_neg rest, one]
  obtain ⟨k, hk⟩ : ∃ k, n.toNat = k + 2 := ⟨n.toNat - 2, by omega⟩
  simp [hk]

/-- The countdown of a place, counted from zero. -/
def place (i : Nat) : UInt32 := (i + 1).toUInt32

theorem toNat_place (h : i + 1 < UInt32.size) : (place i).toNat = i + 1 :=
  Nat.mod_eq_of_lt h

theorem place_lt {j : Nat} (h : i < j) (hj : j + 1 < UInt32.size) : place i < place j := by
  rw [UInt32.lt_iff_toNat_lt, toNat_place hj, toNat_place (Nat.lt_trans (Nat.succ_lt_succ h) hj)]
  exact Nat.succ_lt_succ h

/-- A countdown leads to the state of its place. -/
theorem hit_eq_some {Ys : List σ} (small : Ys.length < UInt32.size) :
    hit n Ys = some Z ↔ ∃ i, Ys[i]? = some Z ∧ n = place i := by
  constructor
  · intro h
    unfold hit at h
    split at h
    · cases h
    · next positive =>
      have positive : n.toNat ≠ 0 := fun h => positive (UInt32.toNat_inj.1 h)
      have back : n.toNat - 1 + 1 = n.toNat := by omega
      refine ⟨n.toNat - 1, h, UInt32.toNat_inj.1 ?_⟩
      rw [toNat_place (by rw [back]; exact n.toNat_lt), back]
  · rintro ⟨i, hi, rfl⟩
    have inside := (List.getElem?_eq_some_iff.1 hi).1
    have there := toNat_place (i := i) (Nat.lt_of_le_of_lt inside small)
    have positive : place i ≠ 0 := by
      intro h
      rw [h] at there
      cases there
    rw [hit, if_neg positive, there]
    exact hi

theorem ne_zero_of_hit {Ys : List σ} (h : hit n Ys = some Z) : n ≠ 0 := by
  rintro rfl
  cases h

/-! ## Following countdowns -/

/-- The states from which runs start when the countdowns follow a list, until one does not hit. -/
def visited (crashes : σ → List σ) : σ → List UInt32 → List σ
  | X, [] => [X]
  | X, n :: t => match hit n (crashes X) with
    | some Y => X :: visited crashes Y t
    | none => [X]

theorem visited_cons_of_hit {t : List UInt32} (h : hit n (crashes X) = some Y) :
    visited crashes X (n :: t) = X :: visited crashes Y t := by
  rw [visited, h]

theorem visited_of_not_hit {t : List UInt32} (h : hit (t.head?.getD 0) (crashes X) = none) :
    visited crashes X t = [X] := by
  cases t with
  | nil => rfl
  | cons n t =>
    rw [List.head?_cons, Option.getD_some] at h
    rw [visited, h]

theorem visited_ne_nil (t : List UInt32) : visited crashes X t ≠ [] := by
  cases t with
  | nil => exact List.cons_ne_nil _ _
  | cons n t =>
    rw [visited]
    split <;> exact List.cons_ne_nil _ _

/-- There is one run more than there are countdowns that hit. -/
theorem length_visited_le (t : List UInt32) : (visited crashes X t).length ≤ t.length + 1 := by
  induction t generalizing X with
  | nil => exact Nat.le_refl _
  | cons n t ih =>
    rw [visited]
    split
    · exact Nat.succ_le_succ ih
    · exact Nat.le_add_left 1 _

/-- All countdowns of a list hit, and they lead to `Y`. -/
def Leads (crashes : σ → List σ) (X : σ) (t : List UInt32) (Y : σ) : Prop :=
  (visited crashes X t).length = t.length + 1 ∧ (visited crashes X t).getLast? = some Y

theorem exists_leads {t : List UInt32} (h : (visited crashes X t).length = t.length + 1) :
    ∃ Y, Leads crashes X t Y := by
  exact ⟨_, h, List.getLast?_eq_some_getLast (visited_ne_nil t)⟩

theorem leads_nil : Leads crashes X [] Y ↔ Y = X := by
  constructor
  · rintro ⟨-, last⟩
    exact (Option.some.inj last).symm
  · rintro rfl
    exact ⟨rfl, rfl⟩

theorem leads_cons {t : List UInt32} :
    Leads crashes X (n :: t) Y ↔ ∃ Z, hit n (crashes X) = some Z ∧ Leads crashes Z t Y := by
  unfold Leads
  rw [visited]
  cases h : hit n (crashes X) with
  | none => simp
  | some Z =>
    have nonempty : visited crashes Z t ≠ [] := visited_ne_nil t
    obtain ⟨W, Ws, hW⟩ := List.exists_cons_of_ne_nil nonempty
    simp [hW, List.getLast?_cons_cons]

/-- The countdowns of a list that all hit are positive. -/
theorem Leads.ne_zero {t : List UInt32} (h : Leads crashes X t Y) : ∀ n ∈ t, n ≠ 0 := by
  induction t generalizing X with
  | nil => exact fun n hn => absurd hn List.not_mem_nil
  | cons m t ih =>
    obtain ⟨Z, hit, rest⟩ := leads_cons.1 h
    intro n hn
    rcases List.mem_cons.1 hn with rfl | hn
    · exact ne_zero_of_hit hit
    · exact ih rest n hn

/-! ## All trails -/

/-- The trails through states that stand in a row from place `i` on, and where they lead. -/
def branches (below : σ → List (List UInt32 × σ)) : List σ → Nat → List (List UInt32 × σ)
  | [], _ => []
  | Y :: Ys, i => ([place i], Y) :: (below Y).map (fun x => (place i :: x.1, x.2)) ++
      branches below Ys (i + 1)

/-- All trails of at most `depth` countdowns from a state, and where they lead. -/
def reached (crashes : σ → List σ) : Nat → σ → List (List UInt32 × σ)
  | 0, _ => []
  | depth + 1, X => branches (reached crashes depth) (crashes X) 0

/-- All states that are reached are `ok`, and wherever power can be lost, the points at which it can
are fewer than there are words. -/
def Passes (crashes : σ → List σ) (ok : σ → Prop) : Nat → σ → Prop
  | 0, X => ok X
  | depth + 1, X =>
    ok X ∧ (crashes X).length < UInt32.size ∧ ∀ Y ∈ crashes X, Passes crashes ok depth Y

theorem Passes.ok {ok : σ → Prop} (h : Passes crashes ok depth X) : ok X := by
  cases depth with
  | zero => exact h
  | succ depth => exact h.1

theorem mem_branches {below : σ → List (List UInt32 × σ)} {Ys : List σ} {x : List UInt32 × σ} :
    x ∈ branches below Ys i ↔ ∃ j Z, Ys[j]? = some Z ∧
      (x = ([place (i + j)], Z) ∨ ∃ y ∈ below Z, x = (place (i + j) :: y.1, y.2)) := by
  induction Ys generalizing i with
  | nil => simp [branches]
  | cons Y Ys ih =>
    rw [branches, List.mem_append, List.mem_cons, List.mem_map, ih]
    constructor
    · rintro ((rfl | ⟨y, hy, rfl⟩) | ⟨j, Z, hZ, hx⟩)
      · exact ⟨0, Y, rfl, .inl rfl⟩
      · exact ⟨0, Y, rfl, .inr ⟨y, hy, rfl⟩⟩
      · -- a place further on is counted from the first one
        rw [Nat.add_right_comm, Nat.add_assoc] at hx
        exact ⟨j + 1, Z, hZ, hx⟩
    · rintro ⟨_ | j, Z, hZ, hx⟩
      · obtain rfl : Y = Z := Option.some.inj hZ
        rcases hx with rfl | ⟨y, hy, rfl⟩
        · exact .inl (.inl rfl)
        · exact .inl (.inr ⟨y, hy, rfl⟩)
      · refine .inr ⟨j, Z, hZ, ?_⟩
        rw [Nat.add_right_comm, Nat.add_assoc]
        exact hx

/-- What is found are the nonempty lists of bounded length whose countdowns all hit. -/
theorem mem_reached {ok : σ → Prop} (h : Passes crashes ok depth X) {t : List UInt32} :
    (t, Y) ∈ reached crashes depth X ↔ t ≠ [] ∧ t.length ≤ depth ∧ Leads crashes X t Y := by
  induction depth generalizing X t with
  | zero =>
    constructor
    · exact fun h => absurd h List.not_mem_nil
    · rintro ⟨nonempty, short, -⟩
      exact absurd (List.length_eq_zero_iff.1 (Nat.le_zero.1 short)) nonempty
  | succ depth ih =>
    obtain ⟨-, small, passes⟩ := h
    rw [reached, mem_branches]
    simp only [Nat.zero_add]
    constructor
    · -- the trail of a branch begins with its place, which is the countdown that hits there
      rintro ⟨j, Z, hZ, hx⟩
      have hits := (hit_eq_some small).2 ⟨j, hZ, rfl⟩
      rcases hx with hx | ⟨⟨s, W⟩, hs, hx⟩
      · obtain ⟨rfl, rfl⟩ := Prod.mk.inj hx
        have leads : Leads crashes X [place j] Y := leads_cons.2 ⟨Y, hits, leads_nil.2 rfl⟩
        exact ⟨List.cons_ne_nil _ _, Nat.le_add_left 1 depth, leads⟩
      · obtain ⟨rfl, rfl⟩ := Prod.mk.inj hx
        obtain ⟨-, short, leads⟩ := (ih (passes Z (List.mem_of_getElem? hZ))).1 hs
        exact ⟨List.cons_ne_nil _ _, Nat.succ_le_succ short, leads_cons.2 ⟨Z, hits, leads⟩⟩
    · -- the first countdown is a place, and the others lead on from the state there
      rintro ⟨nonempty, short, leads⟩
      obtain ⟨n, s, rfl⟩ := List.exists_cons_of_ne_nil nonempty
      obtain ⟨Z, hits, onward⟩ := leads_cons.1 leads
      obtain ⟨j, hZ, rfl⟩ := (hit_eq_some small).1 hits
      refine ⟨j, Z, hZ, ?_⟩
      cases s with
      | nil =>
        rw [leads_nil.1 onward]
        exact .inl rfl
      | cons m s =>
        exact .inr ⟨(m :: s, Y), (ih (passes Z (List.mem_of_getElem? hZ))).2
          ⟨List.cons_ne_nil _ _, Nat.le_of_succ_le_succ short, onward⟩, rfl⟩

/-- The trails that are found are the lists along which there is one run for each countdown, and
one more. -/
theorem mem_trails {ok : σ → Prop} (h : Passes crashes ok depth X) {t : List UInt32} :
    t ∈ (reached crashes depth X).map Prod.fst ↔
      1 ≤ t.length ∧ t.length ≤ depth ∧ (visited crashes X t).length = t.length + 1 := by
  rw [List.mem_map]
  constructor
  · rintro ⟨⟨_, Y⟩, hx, rfl⟩
    obtain ⟨nonempty, short, leads⟩ := (mem_reached h).1 hx
    exact ⟨List.length_pos_iff.2 nonempty, short, leads.1⟩
  · rintro ⟨nonempty, short, count⟩
    obtain ⟨Y, leads⟩ := exists_leads count
    have found := (mem_reached h).2 ⟨List.length_pos_iff.1 nonempty, short, leads⟩
    exact ⟨(t, Y), found, rfl⟩

/-- Where a trail leads that is found, all is `ok`. -/
theorem ok_of_mem_reached {ok : σ → Prop} (h : Passes crashes ok depth X) {x : List UInt32 × σ}
    (hx : x ∈ reached crashes depth X) : ok x.2 := by
  induction depth generalizing X x with
  | zero => exact absurd hx List.not_mem_nil
  | succ depth ih =>
    obtain ⟨-, -, passes⟩ := h
    obtain ⟨j, Z, hZ, there⟩ := mem_branches.1 hx
    have rest := passes Z (List.mem_of_getElem? hZ)
    rcases there with rfl | ⟨y, hy, rfl⟩
    · exact rest.ok
    · exact ih (x := y) rest hy

/-! ## The order of trails -/

/-- Trails through states in a row are in lexicographic order. -/
theorem sorted_branches {below : σ → List (List UInt32 × σ)} {Ys : List σ}
    (sorted : ∀ Y ∈ Ys, ((below Y).map Prod.fst).Pairwise (· < ·))
    (nonempty : ∀ Y ∈ Ys, ∀ x ∈ below Y, x.1 ≠ []) (small : i + Ys.length < UInt32.size) :
    ((branches below Ys i).map Prod.fst).Pairwise (· < ·) := by
  induction Ys generalizing i with
  | nil => exact .nil
  | cons Y Ys ih =>
    rw [List.length_cons] at small
    have rest := ih (i := i + 1) (fun Z hZ => sorted Z (List.mem_cons_of_mem _ hZ))
      (fun Z hZ => nonempty Z (List.mem_cons_of_mem _ hZ)) (by omega)
    rw [branches, List.map_append, List.map_cons, List.map_map, List.pairwise_append]
    refine ⟨List.pairwise_cons.2 ⟨fun s hs => ?_, ?_⟩, rest, fun s hs u hu => ?_⟩
    · -- a trail stands before those that go on from it
      obtain ⟨x, hx, rfl⟩ := List.mem_map.1 hs
      obtain ⟨n, t, ht⟩ := List.exists_cons_of_ne_nil (nonempty Y List.mem_cons_self x hx)
      simp [ht]
    · have inner := sorted Y List.mem_cons_self
      rw [List.pairwise_map] at inner ⊢
      exact inner.imp fun {x y} hxy => List.cons_lt_cons_self.2 hxy
    · -- places further on have larger countdowns
      obtain ⟨t, rfl⟩ : ∃ t, s = place i :: t := by
        rcases List.mem_cons.1 hs with rfl | hs
        · exact ⟨[], rfl⟩
        · obtain ⟨x, -, rfl⟩ := List.mem_map.1 hs
          exact ⟨x.1, rfl⟩
      obtain ⟨x, hx, rfl⟩ := List.mem_map.1 hu
      obtain ⟨j, Z, hZ, hx⟩ := mem_branches.1 hx
      have inside := (List.getElem?_eq_some_iff.1 hZ).1
      have before : place i < place (i + 1 + j) := place_lt (by omega) (by omega)
      rcases hx with rfl | ⟨y, -, rfl⟩ <;> exact List.cons_lt_cons_iff.2 (.inl before)

/-- Trails are found in lexicographic order. -/
theorem sorted_reached {ok : σ → Prop} (h : Passes crashes ok depth X) :
    ((reached crashes depth X).map Prod.fst).Pairwise (· < ·) := by
  induction depth generalizing X with
  | zero => exact .nil
  | succ depth ih =>
    obtain ⟨-, small, passes⟩ := h
    refine sorted_branches (fun Y hY => ih (passes Y hY)) (fun Y hY x hx => ?_) (by omega)
    exact ((mem_reached (passes Y hY)).1 hx).1

/-- What is larger than a list without extending it is larger than all of its extensions. -/
theorem lt_of_extends {t s u : List UInt32} (lt : t < s) (not : ¬ t <+: s) (ext : t <+: u) :
    u < s := by
  induction t generalizing s u with
  | nil => exact absurd List.nil_prefix not
  | cons n t ih =>
    obtain ⟨r, rfl⟩ := ext
    cases s with
    | nil => exact absurd lt (List.not_lt_nil _)
    | cons m s =>
      rcases List.cons_lt_cons_iff.1 lt with first | ⟨rfl, rest⟩
      · exact List.cons_lt_cons_iff.2 (.inl first)
      · have not : ¬ t <+: s := fun h => not (List.cons_prefix_cons.2 ⟨rfl, h⟩)
        exact List.cons_lt_cons_iff.2 (.inr ⟨rfl, ih rest not (List.prefix_append t r)⟩)

/-- In lexicographic order the extensions of a list stand before all else that is larger. -/
theorem exists_extensions {ts : List (List UInt32)} (sorted : ts.Pairwise (· < ·)) {t : List UInt32}
    (larger : ∀ s ∈ ts, t < s) : ∃ below after, ts = below ++ after ∧ (∀ s ∈ below, t <+: s) ∧
      ∀ s ∈ after, ¬ t <+: s := by
  induction ts with
  | nil => exact ⟨[], [], rfl, nofun, nofun⟩
  | cons s ts ih =>
    obtain ⟨first, sorted⟩ := List.pairwise_cons.1 sorted
    by_cases ext : t <+: s
    · obtain ⟨below, after, rfl, inside, outside⟩ :=
        ih sorted fun u hu => larger u (List.mem_cons_of_mem _ hu)
      refine ⟨s :: below, after, rfl, fun u hu => ?_, outside⟩
      rcases List.mem_cons.1 hu with rfl | hu
      · exact ext
      · exact inside u hu
    · -- once a list does not extend `t`, no later one does
      refine ⟨[], s :: ts, rfl, nofun, fun u hu => ?_⟩
      rcases List.mem_cons.1 hu with rfl | hu
      · exact ext
      · intro later
        exact List.lt_asymm (first u hu) (lt_of_extends (larger s List.mem_cons_self) ext later)

/-- In lexicographic order a list stands right before its extensions. -/
theorem exists_block {ts : List (List UInt32)} (sorted : ts.Pairwise (· < ·)) {t : List UInt32}
    (ht : t ∈ ts) : ∃ before below after, ts = before ++ t :: below ++ after ∧
      (∀ s ∈ below, t <+: s) ∧ ∀ s ∈ before ++ after, ¬ t <+: s := by
  obtain ⟨before, rest, rfl⟩ := List.append_of_mem ht
  rw [List.pairwise_append, List.pairwise_cons] at sorted
  obtain ⟨-, ⟨larger, sorted⟩, smaller⟩ := sorted
  obtain ⟨below, after, rfl, inside, outside⟩ := exists_extensions sorted larger
  refine ⟨before, below, after, by simp, inside, fun s hs => ?_⟩
  rcases List.mem_append.1 hs with hs | hs
  · intro ext
    exact ext.le (smaller s hs t List.mem_cons_self)
  · exact outside s hs

end Trail

end FaultyFlash
