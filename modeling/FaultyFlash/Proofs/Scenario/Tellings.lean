import FaultyFlash.Proofs.Scenario.Breaks
import FaultyFlash.Proofs.Scenario.Enumeration

/-!
# What the runs of a scenario tell

A body may note in the memory of the test what its program came to, also when that was broken off.
If something is kept along the trails of a scenario, from which the program ends well, then the
scenario ends well, and what its runs tell comes of states where that is kept.

## Main definitions

* `Scenario.telling`: a body that notes what its program comes to
* `Scenario.Kept`: what is kept along trails
* `Scenario.Tells`: what is told by a run at the end of a trail
* `Trail.followed`, `Strategy.span`, `Strategy.found`: the trails of a scenario

## Main results

* `Scenario.Kept.layer_runs`, `Scenario.Kept.resuming`: scenarios where nothing is shared
* `Scenario.Kept.runs`: scenarios from the making of their devices on
* `Scenario.runBody_of_check`: scenarios whose devices cannot be made
-/

namespace FaultyFlash

open Flash (answered)
open Device (Clocked)

variable {S R κ μ α ε σ : Type}

/-! ## The trails of a scenario -/

/-- The trails along a list of countdowns, until one does not hit, and where they lead. -/
def Trail.followed (crashes : σ → List σ) : σ → List UInt32 → List (List UInt32 × σ)
  | _, [] => []
  | X, n :: t => match hit n (crashes X) with
    | some Y => ([n], Y) :: (followed crashes Y t).map fun x => (n :: x.1, x.2)
    | none => []

/-- Trails along a list of countdowns begin that list. -/
theorem Trail.prefix_of_followed {crashes : σ → List σ} {X : σ} {t : List UInt32}
    {x : List UInt32 × σ} (h : x ∈ followed crashes X t) : x.1 <+: t := by
  induction t generalizing X x with
  | nil => exact absurd h List.not_mem_nil
  | cons n t ih =>
    unfold followed at h
    split at h
    · rcases List.mem_cons.1 h with rfl | h
      · exact ⟨t, rfl⟩
      · obtain ⟨y, hy, rfl⟩ := List.mem_map.1 h
        exact List.cons_prefix_cons.2 ⟨rfl, ih hy⟩
    · exact absurd h List.not_mem_nil

theorem Trail.hit_map {τ : Type} (n : UInt32) (f : σ → τ) (Xs : List σ) :
    hit n (Xs.map f) = (hit n Xs).map f := by
  unfold hit
  split <;> simp

/-- A trail leads to one state. -/
theorem Trail.Leads.unique {crashes : σ → List σ} {X Y Z : σ} {t : List UInt32}
    (h : Leads crashes X t Y) (h' : Leads crashes X t Z) : Y = Z :=
  Option.some.inj (h.2.symm.trans h'.2)

/-- A trail goes on by a countdown that hits where it leads. -/
theorem Trail.Leads.snoc {crashes : σ → List σ} {X Y Z : σ} {t : List UInt32} {n : UInt32}
    (h : Leads crashes X t Y) (hits : hit n (crashes Y) = some Z) :
    Leads crashes X (t ++ [n]) Z := by
  induction t generalizing X with
  | nil =>
    obtain rfl := leads_nil.1 h
    exact leads_cons.2 ⟨Z, hits, leads_nil.2 rfl⟩
  | cons k t ih =>
    obtain ⟨W, first, rest⟩ := leads_cons.1 h
    exact leads_cons.2 ⟨W, first, ih rest⟩

/-- A countdown that hits names a place. -/
theorem Trail.place_of_hit {n : UInt32} {x : σ} {Xs : List σ} (h : hit n Xs = some x) :
    ∃ i, n.toNat = i + 1 ∧ Xs[i]? = some x := by
  have positive : n.toNat ≠ 0 := fun zero => ne_zero_of_hit h (UInt32.toNat_inj.1 zero)
  refine ⟨n.toNat - 1, by omega, ?_⟩
  rwa [hit, if_neg (ne_zero_of_hit h)] at h

theorem Trail.mem_of_hit {n : UInt32} {x : σ} {Xs : List σ} (h : hit n Xs = some x) : x ∈ Xs :=
  let ⟨_, _, there⟩ := place_of_hit h
  List.mem_of_getElem? there

/-- A countdown that is off, or longer than there are updates, does not hit. -/
theorem Trail.hit_eq_none {n : UInt32} {Xs : List σ} (h : n = 0 ∨ Xs.length < n.toNat) :
    hit n Xs = none := by
  unfold hit
  rcases h with rfl | long
  · rfl
  · rw [List.getElem?_eq_none (by omega), ite_self]

namespace Strategy

/-- After so many losses of power a strategy names a countdown that is longer than `N`, if any. -/
def span (N : Nat) : Strategy → Nat
  | none => 0
  | linear => N
  | log => 32
  | explicit schedule => schedule.length
  | exhaustive _ => 0

/-- The countdowns that a strategy names before. -/
def countdowns (strategy : Strategy) (N : Nat) : List UInt32 :=
  (List.range (strategy.span N)).map strategy.schedule

section Countdowns

variable {strategy : Strategy} {N j : Nat}

@[simp] theorem length_countdowns : (strategy.countdowns N).length = strategy.span N := by
  rw [countdowns, List.length_map, List.length_range]

@[simp] theorem getElem_countdowns (h : j < (strategy.countdowns N).length) :
    (strategy.countdowns N)[j] = strategy.schedule j := by
  simp only [countdowns, List.getElem_map, List.getElem_range]

theorem take_countdowns (h : j < strategy.span N) :
    (strategy.countdowns N).take j = (List.range j).map strategy.schedule := by
  rw [countdowns, ← List.map_take, List.take_range, Nat.min_eq_left (Nat.le_of_lt h)]

end Countdowns

/-- The trails of a scenario whose runs have at most `N` updates, and where they lead. -/
def found (strategy : Strategy) (N : Nat) (crashes : σ → List σ) (X : σ) :
    List (List UInt32 × σ) :=
  match strategy with
  | exhaustive depth => Trail.reached crashes depth X
  | strategy => Trail.followed crashes X (strategy.countdowns N)

theorem schedule_span (strategy : Strategy) {N : Nat} (small : N < 0xffffffff) :
    strategy.schedule (strategy.span N) = 0 ∨ N < (strategy.schedule (strategy.span N)).toNat := by
  rcases strategy with _ | _ | _ | schedule | depth
  · exact .inl rfl
  · refine .inr ?_
    show N < (linear.schedule N).toNat
    rw [toNat_linear small]
    exact Nat.lt_succ_self N
  · exact .inr small
  · refine .inl ?_
    show schedule[schedule.length]?.getD 0 = 0
    rw [List.getElem?_eq_none (Nat.le_refl _)]
    rfl
  · exact .inl rfl

/-- Only the first countdown of the strategies with longer and longer ones is one. -/
theorem schedule_ne_one {j : Nat} (later : j ≠ 0) :
    (j < 0xffffffff → linear.schedule j ≠ 1) ∧ (j < 32 → log.schedule j ≠ 1) := by
  have short : ∀ j < 32, j ≠ 0 → log.schedule j ≠ 1 := by decide
  refine ⟨fun small one => later ?_, fun small => short j small later⟩
  have next := toNat_linear small
  rw [one] at next
  exact (Nat.succ.inj next).symm

/-- Unless all trails are found, the countdowns of a trail are those of the schedule. -/
theorem eq_schedule_of_found {strategy : Strategy} {N : Nat} {crashes : σ → List σ} {X : σ}
    {s u : List UInt32} {n : UInt32} (scheduled : ∀ depth, strategy ≠ .exhaustive depth)
    (h : s ++ n :: u ∈ (strategy.found N crashes X).map Prod.fst) :
    n = strategy.schedule s.length := by
  have following : strategy.found N crashes X =
      Trail.followed crashes X (strategy.countdowns N) := by
    cases strategy with
    | exhaustive depth => exact absurd rfl (scheduled depth)
    | _ => rfl
  rw [following] at h
  obtain ⟨x, hx, trail⟩ := List.mem_map.1 h
  obtain ⟨rest, whole⟩ := Trail.prefix_of_followed hx
  have there : (strategy.countdowns N)[s.length]? = some n := by
    rw [← whole, trail, List.append_assoc, List.getElem?_append_right (Nat.le_refl _), Nat.sub_self]
    rfl
  obtain ⟨inside, same⟩ := List.getElem?_eq_some_iff.1 there
  rw [← same, getElem_countdowns]

end Strategy

/-- What a program comes to when it is broken off does not depend on the countdown of the
configuration. -/
theorem Program.breaks_retimed (cfg : Config) (n : UInt32) (m : μ) (p : Program κ μ α)
    (X : Flash Plain Block) :
    p.breaks { cfg with countdown := n } m X = p.breaks cfg m X := by
  induction p generalizing m X with
  | done a => rfl
  | ask r next ih =>
    have torn : r.torn { cfg with countdown := n } X = r.torn cfg X := by cases r <;> rfl
    obtain ⟨answer, state⟩ := r.answered_retimed cfg n X
    simp only [breaks, answer, state, torn, ih, alone_retimed]
  | install callback next ih => exact ih m X
  | getMemory next ih => exact ih m m X
  | setMemory k next ih => exact ih k X

namespace Scenario

/-- A body that runs a program, notes in the memory what that comes to, and ends accordingly. -/
def telling [BlockStore S R] (callbacks : Callbacks κ μ) (nesting : Nat) (p : Program κ μ α)
    (ends : α → Except ε Unit) (note : α → μ → μ) : Body S R κ μ ε := fun _ d => do
  let a ← p.execute callbacks nesting d
  modify fun w => { w with memory := note a w.memory }
  return ends a

/-- A body that notes nothing is the program. -/
theorem telling_nothing [BlockStore S R] (callbacks : Callbacks κ μ) (nesting : Nat)
    (p : Program κ μ (Except ε Unit)) :
    telling (S := S) (R := R) callbacks nesting p id (fun _ m => m) =
      fun _ d => p.execute callbacks nesting d := by
  funext n d
  calc
    _ = (p.execute callbacks nesting d >>= fun a => pure a) := by
      refine bind_congr fun a => ?_
      rfl
    _ = p.execute callbacks nesting d := bind_pure _

/-- A memory after some results were noted in turn. -/
def noticed (note : α → μ → μ) (told : List α) (m : μ) : μ := told.foldl (fun m a => note a m) m

theorem noticed_append (note : α → μ → μ) (as bs : List α) (m : μ) :
    noticed note (as ++ bs) m = noticed note bs (noticed note as m) :=
  List.foldl_append

/-- A memory that lists results. -/
theorem noticed_listing (as bs : List α) :
    noticed (fun a as => as ++ [a]) bs as = as ++ bs := by
  induction bs generalizing as with
  | nil => exact (List.append_nil as).symm
  | cons b bs ih => exact (ih _).trans (List.append_assoc ..)

variable [PowerLossAware ε] {cfg : Config} {m : μ} {p : Program κ μ α} {ends : α → Except ε Unit}
  {allowed : List UInt32 → UInt32 → Prop} {N : Nat} {J : List UInt32 → Flash Plain Block → Prop}

variable (cfg m p ends allowed N J) in
/-- Something is kept along trails: wherever it holds, the program ends well after at most `N`
updates. If power is lost at one of them, it ends with a loss of power, and leaves what that loss
leaves. There it holds, too, if the countdown was `allowed`. -/
structure Kept : Prop where
  well {t : List UInt32} {X : Flash Plain Block} (h : J t X) :
    ends (p.alone Request.steady cfg m X).result = .ok ()
  crashes {t : List UInt32} {X : Flash Plain Block} (h : J t X) :
    (p.alone Request.steady cfg m X).crashes = (p.breaks cfg m X).map Prod.snd
  few {t : List UInt32} {X : Flash Plain Block} (h : J t X) : (p.breaks cfg m X).length ≤ N
  lost {t : List UInt32} {X Y : Flash Plain Block} {a : α} (h : J t X)
    (mem : (a, Y) ∈ p.breaks cfg m X) :
    ∃ e, ends a = .error e ∧ PowerLossAware.isPowerLoss e = true
  onward {t : List UInt32} {X Y : Flash Plain Block} {a : α} {n : UInt32} (h : J t X)
    (ok : allowed t n) (hits : Trail.hit n (p.breaks cfg m X) = some (a, Y)) : J (t ++ [n]) Y

/-- A result comes of a run at the end of a trail, which was broken off by the next countdown or
not at all. -/
def Tells (cfg : Config) (m : μ) (p : Program κ μ α) (J : List UInt32 → Flash Plain Block → Prop)
    (schedule : Nat → UInt32) (t : List UInt32) (a : α) : Prop :=
  ∃ X, J t X ∧ (a = (p.alone Request.steady cfg m X).result ∨
    ∃ Y, Trail.hit (schedule t.length) (p.breaks cfg m X) = some (a, Y))

/-! ## Runs on a device that counts down -/

namespace Kept

open Bench (Tracks Uses Spares Forks)

variable {callbacks : Callbacks κ μ} {nesting : Nat} {note : α → μ → μ} {imaged : Bool} {d : Handle}
  {X Y : Flash Plain Block} {v w : Bench Plain Block κ μ} {n : UInt32} {t : List UInt32}
  {schedule : Nat → UInt32} {ok : Request → Prop}

/-- Only the devices of some handles are used, and the results `told` are noted. -/
structure Toured (note : α → μ → μ) (ds : List Handle) (told : List α)
    (v w : Bench Plain Block κ μ) : Prop extends Spares ds v w where
  forks : w.forks = []
  memory : w.memory = noticed note told v.memory

omit [PowerLossAware ε] in
/-- A run on a device that counts down notes what the program comes to by itself, broken off or
not. -/
theorem telling_runs (able : cfg.Able) (asks : p.Asks fun r => r.isUntimed)
    (blind : p.Blind Request.steady) (h : Tracks cfg imaged (Clocked cfg n) (· = none) d X v)
    (k : Nat) :
    ∃ a w, (telling callbacks nesting p ends note k d).run v = .ok (ends a) w ∧
      w.memory = note a v.memory ∧
      match Trail.hit n (p.breaks cfg m X) with
      | some (b, Y) => a = b ∧ Tracks cfg imaged (Clocked cfg 0) (· = none) d Y w
      | none => a = (p.alone Request.steady cfg m X).result := by
  obtain ⟨a, t, run, uses, comes⟩ := h.broken able asks blind (Bench.respond callbacks nesting) m
  refine ⟨a, { t with memory := note a t.memory }, ?_, congrArg (note a) uses.memory, ?_⟩
  · exact run_bind_eq_ok.2 ⟨a, t, run, rfl⟩
  · rcases hit : Trail.hit n (p.breaks cfg m X) with _ | ⟨b, Y⟩
    · rw [hit] at comes
      exact comes
    · rw [hit] at comes
      exact ⟨comes.1, comes.2.config, comes.2.image, comes.2.rig⟩

/-- Something is kept along trails if the program takes such a course wherever it holds. -/
theorem of_courses (courses : ∀ t X, J t X → ∃ lost a Y, p.Course cfg m X lost a Y ∧
    ends a = .ok () ∧ lost.length ≤ N ∧
    (∀ x ∈ lost, ∃ e, ends x.1 = .error e ∧ PowerLossAware.isPowerLoss e = true) ∧
    ∀ n x, allowed t n → Trail.hit n lost = some x → J (t ++ [n]) x.2) :
    Kept cfg m p ends allowed N J := by
  refine ⟨fun {t X} h => ?_, fun {t X} h => ?_, fun {t X} h => ?_, fun {t X Y a} h => ?_,
    fun {t X Y a n} h => ?_⟩
  all_goals obtain ⟨lost, b, Z, course, well, few, ended, onward⟩ := courses t X h
  · rw [course.alone]
    exact well
  · rw [course.alone, course.breaks]
  · rw [course.breaks]
    exact few
  · rw [course.breaks]
    exact ended (a, Y)
  · rw [course.breaks]
    exact onward n (a, Y)

/-- What is kept at the end of a trail is kept where a countdown leads from there. -/
theorem hits (K : Kept cfg m p ends allowed N J) (h : J t X) (next : allowed t n)
    (hits : Trail.hit n (p.alone Request.steady cfg m X).crashes = some Y) :
    ∃ a, Trail.hit n (p.breaks cfg m X) = some (a, Y) ∧ J (t ++ [n]) Y := by
  rw [K.crashes h, Trail.hit_map] at hits
  obtain ⟨⟨a, Z⟩, hit, rfl⟩ := Option.map_eq_some_iff.1 hits
  exact ⟨a, hit, K.onward h next hit⟩

/-- A run that a countdown breaks off is followed by another, with the next countdown armed. -/
theorem turn_broken (K : Kept cfg m p ends allowed N J) (able : cfg.Able)
    (asks : p.Asks fun r => r.isUntimed) (blind : p.Blind Request.steady) (h : J t X)
    (tracks : Tracks cfg imaged (Clocked cfg n) (· = none) d X v) {a : α}
    (hit : Trail.hit n (p.breaks cfg m X) = some (a, Y)) (schedule : Nat → UInt32) (q : Progress) :
    ∃ w, (turn schedule (telling callbacks nesting p ends note) d q).run v =
        .ok (.again ⟨q.report.addRun.addLoss q.trail,
          q.trail ++ [schedule (q.report.powerLosses + 1)]⟩) w ∧
      Tracks cfg imaged (Clocked cfg (schedule (q.report.powerLosses + 1))) (· = none) d Y w ∧
      w.memory = note a v.memory := by
  obtain ⟨b, t, run, noted, comes⟩ := telling_runs able asks blind tracks q.report.addRun.runs
  rw [hit] at comes
  obtain ⟨rfl, broken⟩ := comes
  obtain ⟨e, failed, lost⟩ := K.lost h (Trail.mem_of_hit hit)
  obtain ⟨w, arm, armed, uses⟩ := broken.arm (schedule (q.report.powerLosses + 1))
  refine ⟨w, run_bind_eq_ok.2 ⟨_, t, run, ?_⟩, armed, uses.memory.trans noted⟩
  simp only [failed, lost, if_true]
  exact run_bind_eq_ok.2 ⟨_, w, arm, rfl⟩

/-- A run that no countdown breaks off ends well, and is the last. -/
theorem turn_ended (K : Kept cfg m p ends allowed N J) (able : cfg.Able)
    (asks : p.Asks fun r => r.isUntimed) (blind : p.Blind Request.steady) (h : J t X)
    (tracks : Tracks cfg imaged (Clocked cfg n) (· = none) d X v)
    (miss : Trail.hit n (p.breaks cfg m X) = none) (schedule : Nat → UInt32) (q : Progress) :
    ∃ w, (turn schedule (telling callbacks nesting p ends note) d q).run v =
        .ok (.finished q.report.addRun) w ∧
      w.memory = note (p.alone Request.steady cfg m X).result v.memory := by
  obtain ⟨a, w, run, noted, comes⟩ := telling_runs able asks blind tracks q.report.addRun.runs
  rw [miss] at comes
  subst comes
  refine ⟨w, run_bind_eq_ok.2 ⟨_, w, run, ?_⟩, noted⟩
  simp only [K.well h]
  rfl

variable (callbacks nesting note) in
/-- A scenario that follows countdowns ends well, and tells what comes of the trails that it
follows. -/
theorem resuming (K : Kept cfg m p ends allowed N J) (able : cfg.Able)
    (asks : p.Asks fun r => r.isUntimed) (blind : p.Blind Request.steady)
    {s : List UInt32} {limit : Nat} (enough : t.length < limit)
    {q : Progress} (follows : ∀ j (h : j < t.length), schedule (q.report.powerLosses + j) = t[j])
    (next : ∀ j (h : j < t.length), allowed (s ++ t.take j) t[j])
    (past : schedule (q.report.powerLosses + t.length) = 0 ∨
      N < (schedule (q.report.powerLosses + t.length)).toNat)
    (count : q.report.powerLosses = s.length)
    (trail : q.trail = s ++ [schedule q.report.powerLosses]) (start : J s X)
    (h : Tracks cfg imaged (Clocked cfg (schedule q.report.powerLosses)) (· = none) d X v) :
    ∃ told w, (Scenario.resuming schedule (telling callbacks nesting p ends note) d limit q).run v =
        .ok (.ok (q.report.addRun.extended s
          (Trail.followed (fun X => (p.alone Request.steady cfg m X).crashes) X t))) w ∧
      w.memory = noticed note told v.memory ∧
      List.Forall₂ (Tells cfg m p J schedule)
        (s :: (Trail.followed (fun X => (p.alone Request.steady cfg m X).crashes) X t).map
          fun x => s ++ x.1) told := by
  induction t generalizing X v s limit q with
  | nil =>
    obtain ⟨limit, rfl⟩ := Nat.exists_eq_add_of_lt enough
    have miss : Trail.hit (schedule q.report.powerLosses) (p.breaks cfg m X) = none :=
      Trail.hit_eq_none (past.imp id (Nat.lt_of_le_of_lt (K.few start)))
    obtain ⟨w, run, noted⟩ := K.turn_ended able asks blind start h miss schedule q
    refine ⟨[_], w, run_bind_eq_ok.2 ⟨_, w, run, ?_⟩, noted, .cons ⟨X, start, .inl rfl⟩ .nil⟩
    rw [Trail.followed, Report.extended_nil]
    rfl
  | cons n t ih =>
    obtain ⟨limit, rfl⟩ := Nat.exists_eq_add_of_lt enough
    have now : schedule q.report.powerLosses = n := follows 0 (Nat.succ_pos _)
    have crashes : Trail.hit n (p.alone Request.steady cfg m X).crashes =
        (Trail.hit n (p.breaks cfg m X)).map Prod.snd := by
      rw [K.crashes start, Trail.hit_map]
    rw [now] at h trail
    rw [Trail.followed, crashes]
    rcases hit : Trail.hit n (p.breaks cfg m X) with _ | ⟨a, Y⟩
    · -- the countdown does not hit, and this run is the last
      obtain ⟨w, run, noted⟩ := K.turn_ended able asks blind start h hit schedule q
      refine ⟨[_], w, run_bind_eq_ok.2 ⟨_, w, run, ?_⟩, noted, .cons ⟨X, start, .inl rfl⟩ .nil⟩
      rw [Option.map_none, Report.extended_nil]
      rfl
    · -- the countdown hits, and the others are followed from where it leads
      have first : allowed s n := by simpa using next 0 (Nat.succ_pos _)
      obtain ⟨v', run, tracks, noted⟩ := K.turn_broken able asks blind start h hit schedule q
      have shift (j : Nat) : q.report.powerLosses + 1 + j = q.report.powerLosses + (j + 1) :=
        Nat.add_right_comm _ 1 j
      let after : Progress :=
        ⟨q.report.addRun.addLoss q.trail, q.trail ++ [schedule (q.report.powerLosses + 1)]⟩
      obtain ⟨told, w, rest, noted', tells⟩ := @ih Y v' (s ++ [n]) ((n :: t).length + limit)
        (by rw [List.length_cons]; omega) after
        (fun j hj => (congrArg schedule (shift j)).trans (follows (j + 1) (Nat.succ_lt_succ hj)))
        (fun j hj => by simpa using next (j + 1) (Nat.succ_lt_succ hj))
        (by rw [show after.report.powerLosses + t.length = _ from shift t.length]; exact past)
        (by rw [List.length_append, ← count]; rfl)
        (congrArg (· ++ [schedule (q.report.powerLosses + 1)]) trail)
        (K.onward start first hit) tracks
      refine ⟨a :: told, w, run_bind_eq_ok.2 ⟨_, v', run, ?_⟩, ?_, .cons ⟨X, start, .inr ?_⟩ ?_⟩
      · have report := Report.extended_cons q.report.addRun s n Y
          (Trail.followed (fun X => (p.alone Request.steady cfg m X).crashes) Y t)
        simp only [Option.map_some, ← report]
        rw [← trail] at rest ⊢
        exact rest
      · rw [noted', noted]
        rfl
      · exact ⟨Y, by rw [← count, now]; exact hit⟩
      · simpa [Function.comp_def] using tells

/-! ## Runs on devices that are copied -/

omit [PowerLossAware ε] in
/-- Parts of a scenario in turn, the later on the devices of the earlier or their copies. -/
theorem Toured.trans {ds es fs : List Handle} {as bs : List α} {u : Bench Plain Block κ μ}
    (h : Toured note ds as u v) (h' : Toured note es bs v w) (hds : ∀ e ∈ ds, e ∈ fs)
    (hes : ∀ e ∈ es, e ∈ fs ∨ u.rack.length ≤ e) : Toured note fs (as ++ bs) u w := by
  have spared := h.toSpares.within h'.toSpares hds hes
  refine ⟨spared, h'.forks, ?_⟩
  rw [h'.memory, h.memory, noticed_append]

/-- A visit runs the program on the device, and leaves the copies that were taken on the way. -/
theorem visit_runs {handler : Handler κ} {k : UInt32} {P : Option (Handler κ) → Prop} {a : α}
    {crashes : List (Flash Plain Block)}
    (body : ∀ u, Tracks cfg imaged (Clocked cfg n) (· = some handler) d X u →
      ∃ hs w Y, (p.execute callbacks nesting d).run u = .ok a w ∧
        Tracks cfg imaged (Clocked cfg n) (· = some handler) d Y w ∧ Forks d hs u w ∧
        Copies cfg imaged hs crashes w)
    (h : Tracks cfg imaged (Clocked cfg k) P d X v) (none : v.forks = []) (well : ends a = .ok ())
    (i : Nat) :
    ∃ hs w, (visit (telling callbacks nesting p ends note) handler n i d).run v = .ok (.ok hs) w ∧
      Toured note [d] [a] v w ∧ Copies cfg imaged hs crashes w ∧ hs.Nodup ∧
      ∀ e ∈ hs, v.rack.length ≤ e := by
  obtain ⟨v1, install, h1, uses1⟩ := h.install (some handler)
  obtain ⟨v2, arm, h2, uses2⟩ := h1.arm n
  obtain ⟨hs, v3, Y, run, h3, forked, copies⟩ := body v2 h2
  have h3' : Tracks cfg imaged (Clocked cfg n) (· = some handler) d Y
      { v3 with memory := note a v3.memory } := ⟨h3.config, h3.image, h3.rig⟩
  obtain ⟨v4, drop, uses4⟩ := h3'.drop
  have uses := uses1.trans uses2
  have fresh (e : Handle) (he : e ∈ hs) : v.rack.length ≤ e :=
    Nat.le_trans uses.length (forked.fresh he).1
  have dropped : Spares [d] v3 { v4 with forks := [] } :=
    ⟨uses4.config, uses4.image, uses4.suspended, uses4.length, uses4.rigs⟩
  have taken : v4.forks = hs := by
    rw [uses4.forks]
    show v3.forks = hs
    rw [forked.forks, uses.forks, none, List.nil_append]
  refine ⟨hs, { v4 with forks := [] }, ?_, ?_, ?_, forked.nodup, fresh⟩
  · refine run_bind_eq_ok.2 ⟨(), v1, install, run_bind_eq_ok.2 ⟨_, v2, arm, ?_⟩⟩
    refine run_bind_eq_ok.2 ⟨_, _, run_bind_eq_ok.2 ⟨a, v3, run, rfl⟩, ?_⟩
    refine run_bind_eq_ok.2 ⟨(), v4, drop, run_bind_eq_ok.2 ⟨v4, v4, rfl, ?_⟩⟩
    refine run_bind_eq_ok.2 ⟨_, { v4 with forks := [] }, rfl, ?_⟩
    rw [well, taken]
    rfl
  · refine ⟨(uses.toSpares.trans forked.toSpares).trans dropped, rfl, ?_⟩
    have noted : v4.memory = note a v3.memory := uses4.memory
    show v4.memory = note a v.memory
    rw [noted, forked.memory, uses.memory]
  · exact copies_of_spares copies dropped fun e he => h.not_mem_of_le (fresh e he)

/-- Ways to explore single devices go through all trails of at most `depth` countdowns below one. -/
def Explores (note : α → μ → μ) (cfg : Config) (m : μ) (p : Program κ μ α)
    (J : List UInt32 → Flash Plain Block → Prop) (schedule : Nat → UInt32) (imaged : Bool)
    (depth : Nat)
    (layer : Handle → List UInt32 → Report → BenchM Plain Block κ μ (Except ε Report)) : Prop :=
  ∀ s d X report v, J s X → Tracks cfg imaged (Clocked cfg 0) (· = none) d X v → v.forks = [] →
    ∃ told w, (layer d s report).run v = .ok (.ok (report.addRun.extended s
        (Trail.reached (fun X => (p.alone Request.steady cfg m X).crashes) depth X))) w ∧
      Toured note [d] told v w ∧ List.Forall₂ (Tells cfg m p J schedule)
        (s :: (Trail.reached (fun X => (p.alone Request.steady cfg m X).crashes) depth X).map
          fun x => s ++ x.1) told

omit [PowerLossAware ε] in
/-- Copies that are explored in turn are explored one by one. -/
theorem explore_runs {depth : Nat}
    {layer : Handle → List UInt32 → Report → BenchM Plain Block κ μ (Except ε Report)}
    (single : Explores note cfg m p J schedule imaged depth layer) {s : List UInt32}
    {hs : List Handle} {Ys : List (Flash Plain Block)} (copies : Copies cfg imaged hs Ys v)
    (none : v.forks = []) (nodup : hs.Nodup) {i : Nat} (small : i + Ys.length < UInt32.size)
    (kept : ∀ j Y, Ys[j]? = some Y → J (s ++ [Trail.place (i + j)]) Y) (report : Report) :
    ∃ told w, (explore layer s hs i report).run v = .ok (.ok (report.extended s (Trail.branches
        (Trail.reached (fun X => (p.alone Request.steady cfg m X).crashes) depth) Ys i))) w ∧
      Toured note hs told v w ∧ List.Forall₂ (Tells cfg m p J schedule)
        ((Trail.branches
          (Trail.reached (fun X => (p.alone Request.steady cfg m X).crashes) depth) Ys i).map
            fun x => s ++ x.1) told := by
  induction hs generalizing Ys i report v with
  | nil =>
    cases copies
    refine ⟨[], v, ?_, ⟨.refl _ _, none, rfl⟩, .nil⟩
    rw [Trail.branches, Report.extended_nil]
    rfl
  | cons e hs ih =>
    obtain ⟨Y, Ys, tracks, others, rfl⟩ := List.forall₂_cons_left_iff.1 copies
    obtain ⟨apart, nodup⟩ := List.nodup_cons.1 nodup
    rw [List.length_cons] at small
    -- the first copy is explored, which leaves the others as they were
    have here : J (s ++ [Trail.place i]) Y := kept 0 Y rfl
    obtain ⟨told, v2, first, toured, tells⟩ :=
      single _ e Y (report.addLoss (s ++ [Trail.place i])) v here tracks none
    have others : Copies cfg imaged hs Ys v2 :=
      copies_of_spares others toured.toSpares fun h hh mem =>
        apart (List.mem_singleton.1 mem ▸ hh)
    obtain ⟨told', w, rest, toured', tells'⟩ := ih others toured.forks nodup
      (i := i + 1) (by omega)
      (fun j Z hZ => by
        have there := kept (j + 1) Z hZ
        rwa [← Nat.add_assoc, Nat.add_right_comm] at there)
      ((report.addLoss (s ++ [Trail.place i])).addRun.extended (s ++ [Trail.place i])
        (Trail.reached (fun X => (p.alone Request.steady cfg m X).crashes) depth Y))
    refine ⟨told ++ told', w, ?_, ?_, ?_⟩
    · unfold explore
      have fits : ¬ UInt32.size ≤ i + 1 := by omega
      simp only [if_neg fits]
      refine run_bind_eq_ok.2 ⟨_, v2, first, ?_⟩
      rw [Trail.branches, ← Report.extended_append, ← Report.extended_cons]
      exact rest
    · exact toured.trans toured' (fun h hh => List.mem_singleton.1 hh ▸ List.mem_cons_self)
        fun h hh => .inl (List.mem_cons_of_mem _ hh)
    · rw [Trail.branches, List.map_append]
      refine List.rel_append ?_ tells'
      simpa [Function.comp_def] using tells

variable (callbacks nesting) in
/-- A layer goes through all trails below it. -/
theorem layer_runs (K : Kept cfg m p ends allowed N J) (free : ∀ t n, allowed t n)
    (small : N < UInt32.size) (able : cfg.Able) (asks : p.Asks fun r => r.isUntimed)
    (blind : p.Blind Request.steady) (depth : Nat) :
    Explores note cfg m p J schedule imaged depth
      (layer (telling callbacks nesting p ends note) depth) := by
  induction depth with
  | zero =>
    intro s d X report v start h none
    -- at the bottom the countdown is off, and nothing is copied
    have body (u : Bench Plain Block κ μ)
        (hu : Tracks cfg imaged (Clocked cfg 0) (· = some .ride) d X u) :
        ∃ hs w Y, (p.execute callbacks nesting d).run u =
            .ok (p.alone Request.steady cfg m X).result w ∧
          Tracks cfg imaged (Clocked cfg 0) (· = some .ride) d Y w ∧ Forks d hs u w ∧
          Copies cfg imaged hs [] w := by
      obtain ⟨w, run, tracks, uses⟩ :=
        hu.program (fun r hr => Request.agrees_clocked cfg 0 hr) (Bench.respond callbacks nesting)
          m asks blind
      exact ⟨[], w, _, run, tracks, uses.forking, .nil⟩
    obtain ⟨hs, w, run, toured, -⟩ := visit_runs body h none (K.well start) report.addRun.runs
    refine ⟨_, w, run_bind_eq_ok.2 ⟨_, w, run, ?_⟩, toured, .cons ⟨X, start, .inl rfl⟩ .nil⟩
    rw [Trail.reached, Report.extended_nil]
    rfl
  | succ depth ih =>
    intro s d X report v start h none
    have body (u : Bench Plain Block κ μ)
        (hu : Tracks cfg imaged (Clocked cfg 1) (· = some .fork) d X u) :
        ∃ hs w Y, (p.execute callbacks nesting d).run u =
            .ok (p.alone Request.steady cfg m X).result w ∧
          Tracks cfg imaged (Clocked cfg 1) (· = some .fork) d Y w ∧ Forks d hs u w ∧
          Copies cfg imaged hs (p.alone Request.steady cfg m X).crashes w := by
      obtain ⟨hs, w, run, tracks, forks, copies⟩ :=
        hu.forking able asks blind (respond_fork callbacks nesting d) m
      exact ⟨hs, w, _, run, tracks, forks, copies⟩
    obtain ⟨hs, v1, run, toured, copies, nodup, fresh⟩ :=
      visit_runs body h none (K.well start) report.addRun.runs
    have few : 0 + (p.alone Request.steady cfg m X).crashes.length < UInt32.size := by
      rw [Nat.zero_add, K.crashes start, List.length_map]
      exact Nat.lt_of_le_of_lt (K.few start) small
    -- every copy is where the countdown of its place leads
    have kept (j : Nat) (Y : Flash Plain Block)
        (hY : (p.alone Request.steady cfg m X).crashes[j]? = some Y) :
        J (s ++ [Trail.place (0 + j)]) Y := by
      rw [Nat.zero_add] at few ⊢
      obtain ⟨a, -, there⟩ :=
        K.hits start (free s _) ((Trail.hit_eq_some few).2 ⟨j, hY, rfl⟩)
      exact there
    obtain ⟨told, w, rest, toured', tells⟩ :=
      explore_runs ih copies toured.forks nodup few kept report.addRun
    refine ⟨_, w, run_bind_eq_ok.2 ⟨_, v1, run, rest⟩, ?_, .cons ⟨X, start, .inl rfl⟩ tells⟩
    exact toured.trans toured' (fun _ => id) fun e he => .inr (fresh e he)

/-! ## Scenarios on new benches -/

variable {strategy : Strategy} {limit : Nat} {image : Option Image}

omit [PowerLossAware ε] in
theorem alone_configFor : p.alone Request.steady (Scenario.configFor strategy cfg) m =
    p.alone Request.steady cfg m :=
  funext fun X => p.alone_retimed cfg (strategy.schedule 0) m X

omit [PowerLossAware ε] in
theorem breaks_configFor : p.breaks (Scenario.configFor strategy cfg) m = p.breaks cfg m :=
  funext fun X => p.breaks_retimed cfg (strategy.schedule 0) m X

omit [PowerLossAware ε] in
theorem tells_configFor :
    Tells (Scenario.configFor strategy cfg) m p J = Tells cfg m p J := by
  funext schedule t a
  rw [Tells, Tells, alone_configFor, breaks_configFor]

/-- What is kept does not depend on the countdown of the configuration. -/
theorem configFor (K : Kept cfg m p ends allowed N J) (strategy : Strategy) :
    Kept (Scenario.configFor strategy cfg) m p ends allowed N J := by
  refine ⟨?_, ?_, ?_, ?_, ?_⟩ <;> simp only [alone_configFor, breaks_configFor]
  · exact K.well
  · exact K.crashes
  · exact K.few
  · exact K.lost
  · exact K.onward

omit [PowerLossAware ε] in
/-- A program that only asks what is seen as it is tells alike where blocks are shared. -/
theorem alike_telling (asks : p.Asks ok) (blind : p.Blind Request.steady) :
    AlikeBody (telling callbacks nesting p ends note) (telling callbacks nesting p ends note) := by
  intro n d
  refine (Bench.AlikeUnattended.execute callbacks nesting d asks blind).bind fun a => ?_
  refine Bench.AlikeUnattended.bind ?_ fun _ => .answer (ends a)
  rintro w v ⟨seen, guarded⟩
  obtain rfl := seen.seen
  exact ⟨rfl, ⟨rfl, seen.counts⟩, guarded⟩

variable (callbacks nesting note) in
/-- Where nothing is shared, a scenario tells what comes of the trails of its strategy. -/
theorem drive_runs (K : Kept cfg m p ends allowed N J) (able : cfg.Able)
    (asks : p.Asks fun r => r.isUntimed) (blind : p.Blind Request.steady) (small : N < 0xffffffff)
    (follows : ∀ j < strategy.span N, allowed ((List.range j).map strategy.schedule)
      (strategy.schedule j))
    (free : ∀ depth, strategy = .exhaustive depth → ∀ t n, allowed t n)
    (enough : strategy.span N < limit) (start : J [] X)
    (h : Tracks cfg imaged (Clocked cfg (strategy.schedule 0)) (· = none) 0 X v)
    (none : v.forks = []) :
    ∃ told w, (drive strategy (telling callbacks nesting p ends note) limit).run v =
        .ok (.ok ((Report.addRun {}).extended [] (strategy.found N
          (fun X => (p.alone Request.steady cfg m X).crashes) X))) w ∧
      w.memory = noticed note told v.memory ∧ List.Forall₂ (Tells cfg m p J strategy.schedule)
        ([] :: (strategy.found N (fun X => (p.alone Request.steady cfg m X).crashes) X).map
          Prod.fst) told := by
  have resumes (scheduled : drive (S := Plain) (κ := κ) (μ := μ) (ε := ε) strategy =
      fun body limit => Scenario.resuming strategy.schedule body 0 limit
        ⟨{}, [strategy.schedule 0]⟩) :
      ∃ told w, (drive strategy (telling callbacks nesting p ends note) limit).run v =
        .ok (.ok ((Report.addRun {}).extended [] (Trail.followed
          (fun X => (p.alone Request.steady cfg m X).crashes) X (strategy.countdowns N)))) w ∧
      w.memory = noticed note told v.memory ∧ List.Forall₂ (Tells cfg m p J strategy.schedule)
        ([] :: (Trail.followed (fun X => (p.alone Request.steady cfg m X).crashes) X
          (strategy.countdowns N)).map Prod.fst) told := by
    have length : (strategy.countdowns N).length = strategy.span N := Strategy.length_countdowns
    have past := strategy.schedule_span small
    rw [← length, ← Nat.zero_add (strategy.countdowns N).length] at past
    have named (j : Nat) (hj : j < (strategy.countdowns N).length) :
        strategy.schedule (0 + j) = (strategy.countdowns N)[j] := by
      rw [Nat.zero_add, Strategy.getElem_countdowns]
    have next (j : Nat) (hj : j < (strategy.countdowns N).length) :
        allowed ([] ++ (strategy.countdowns N).take j) (strategy.countdowns N)[j] := by
      rw [List.nil_append, Strategy.take_countdowns (length ▸ hj), Strategy.getElem_countdowns]
      exact follows j (length ▸ hj)
    obtain ⟨told, w, run, noted, tells⟩ := K.resuming callbacks nesting note able asks blind
      (q := ⟨{}, [strategy.schedule 0]⟩) (length ▸ enough) named next past rfl rfl start h
    rw [scheduled]
    exact ⟨told, w, run, noted, tells⟩
  rcases strategy with _ | _ | _ | schedule | depth
  · exact resumes rfl
  · exact resumes rfl
  · exact resumes rfl
  · exact resumes rfl
  · obtain ⟨told, w, run, toured, tells⟩ := K.layer_runs callbacks nesting (free depth rfl)
      (Nat.lt_succ_of_lt small) able asks blind depth [] 0 X {} v start h none
    exact ⟨told, w, run, toured.memory, tells⟩

variable (callbacks nesting note) in
/-- Where something is kept along the trails of a strategy, its scenario ends well, and tells what
comes of these trails. -/
theorem runs (K : Kept cfg m p ends allowed N J) (asks : p.Asks fun r => r.isUntimed)
    (blind : p.Blind Request.steady) (small : N < 0xffffffff)
    (size : cfg.geometry.blockSize < Config.allocationLimit) (taken : cfg.image ≠ .sealed)
    (geometry : cfg.geometry.check = .ok ()) (first : cfg.firstImage = some image)
    (start : J [] (origin cfg image))
    (follows : ∀ j < strategy.span N, allowed ((List.range j).map strategy.schedule)
      (strategy.schedule j))
    (free : ∀ depth, strategy = .exhaustive depth → ∀ t n, allowed t n)
    (enough : strategy.span N < limit) :
    ∃ told, ∃ w : Bench Counted Nat κ μ,
      runBody strategy cfg m (telling callbacks nesting p ends note) limit =
        .ok ⟨.ok ((Report.addRun {}).extended [] (strategy.found N
          (fun X => (p.alone Request.steady cfg m X).crashes) (origin cfg image))), some w⟩ ∧
      w.memory = noticed note told m ∧ List.Forall₂ (Tells cfg m p J strategy.schedule)
        ([] :: (strategy.found N (fun X => (p.alone Request.steady cfg m X).crashes)
          (origin cfg image)).map Prod.fst) told := by
  obtain ⟨u, made⟩ : ∃ u : Bench Counted Nat κ μ,
      Bench.create (Scenario.configFor strategy cfg) m = .ok u :=
    ⟨_, Bench.create_eq_ok.2 ⟨geometry, image, first, rfl⟩⟩
  obtain ⟨-, image', -, new⟩ := Bench.create_eq_ok.1 made
  have none : u.plain.forks = [] := by rw [new]; rfl
  have memory : u.memory = m := by rw [new]
  -- the scenario takes its course where nothing is shared, and the same course here
  obtain ⟨told, v, run, noted, tells⟩ := (K.configFor strategy).drive_runs callbacks
    nesting note (able_create made size taken) asks blind small follows free enough start
    (tracks_create made first) none
  rw [alone_configFor] at run tells
  rw [tells_configFor] at tells
  have alike : Bench.AlikeUnattended (drive strategy (telling callbacks nesting p ends note) limit)
      (drive strategy (telling callbacks nesting p ends note) limit) :=
    alike_drive (alike_telling asks blind) strategy limit
  have seen := alike u u.plain ⟨(Bench.wellFormed_create made).seen, guarded_create made⟩
  rw [run] at seen
  obtain ⟨w, ran, ⟨rfl⟩, -⟩ := seen.ok_right
  refine ⟨told, w, runBody_eq_ok.2 ⟨u, made, ran⟩, ?_, tells⟩
  rw [← memory]
  exact noted

end Kept

/-- On a geometry that is not allowed a scenario ends before its device is made. -/
theorem runBody_of_check [BlockStore S R] {e : Misuse}
    (h : cfg.geometry.check = .error e) (strategy : Strategy) (m : μ) (body : Body S R κ μ ε)
    (limit : Nat) :
    runBody strategy cfg m body limit =
      .ok ⟨.error (PowerLossAware.ofFailure (.misuse e)), none⟩ := by
  have check : (configFor strategy cfg).geometry.check = .error e := h
  have made : (Bench.create (configFor strategy cfg) m : Except Failure (Bench S R κ μ)) =
      .error (.misuse e) := by
    unfold Bench.create
    rw [check]
    rfl
  rw [runBody, made]

end Scenario

end FaultyFlash
