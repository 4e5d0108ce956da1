import Mathlib.Control.Monad.Basic
import FaultyFlash.Proofs.Benches
import FaultyFlash.Scenario
import FaultyFlash.Store.Counted

/-!
# Scenarios keep what their bodies keep

A relation between two benches that is kept by the runs of a body, and by what a scenario does
besides, is kept by the scenario as a whole: both sides take the same course. Of the runs that are
over nothing is asked, so the first run may be told apart from those that come after it.

## Main definitions

* `Scenario.Driven K`: what a scenario does besides running the body keeps a relation
* `Scenario.ended`: how a scenario ended

## Main results

* `Scenario.keeps_resuming`: resuming scenarios keep what their bodies keep
* `Scenario.Driven.keeps_layer`: so do exhaustive ones
* `Scenario.Driven.keeps_drive`: and so do all
-/

namespace FaultyFlash

namespace Scenario

open Bench

variable {S R S' R' κ μ ε : Type} [BlockStore S R] [BlockStore S' R'] [PowerLossAware ε]
  {I K : Bench S R κ μ → Bench S' R' κ μ → Prop} {body : Body S R κ μ ε} {body' : Body S' R' κ μ ε}

/-! ## Resuming scenarios -/

omit [BlockStore S R] [BlockStore S' R'] in
theorem keeps_turn {schedule : Nat → UInt32} {d : Handle} (arms : ∀ n, Keeps K (arm d n) (arm d n))
    (h : ∀ n, Keeps K (body n d) (body' n d)) (p : Progress) :
    Keeps K (turn schedule body d p) (turn schedule body' d p) := by
  refine (h _).bind fun x => ?_
  cases x with
  | ok _ => exact .answer _
  | error e =>
    dsimp only
    split
    · refine (arms _).bind fun armed => ?_
      cases armed <;> exact .answer _
    · exact .answer _

omit [BlockStore S R] [BlockStore S' R'] in
/-- Only the device under test is armed anew, so nothing is asked of the others. -/
theorem keeps_resuming {schedule : Nat → UInt32} {d : Handle}
    (arms : ∀ n, Keeps K (arm d n) (arm d n)) (h : ∀ n, Keeps K (body n d) (body' n d))
    (limit : Nat) (p : Progress) :
    Keeps K (resuming schedule body d limit p) (resuming schedule body' d limit p) := by
  induction limit generalizing p with
  | zero => exact .raise _ fun _ _ _ => trivial
  | succ limit ih =>
    refine (keeps_turn arms h p).bind fun how => ?_
    cases how with
    | again q => exact ih q
    | finished r => exact .answer _
    | failed e => exact .answer _

/-- Arming a device is one of the operations of a bench. -/
theorem keeps_arm {ι : Type} {Inner : ι → ι → Prop} {H : Handle → Handle → Prop}
    {A : Option (Handler κ) → Prop} {J : ι → Bench S R κ μ → Bench S' R' κ μ → Prop} {i : ι}
    {d e : Handle} (L : Lockstep Inner H A (fun _ x => x) J) (h : H d e) (n : UInt32) :
    Keeps (J i) (arm d n) (arm e n) := by
  have armed := L.direct (i := i) h (r := .setCountdown n) rfl (fun _ _ => throw .exhausted)
    fun _ _ => throw .exhausted
  rw [id_map', id_map'] at armed
  exact armed

/-! ## Exhaustive scenarios -/

/-- What a scenario does besides running the body keeps a relation between benches. -/
structure Driven (K : Bench S R κ μ → Bench S' R' κ μ → Prop) : Prop where
  /-- The callbacks of a scenario are none of the test's. -/
  install (d : Handle) {handler : Handler κ} (own : ∀ code calls, handler ≠ .custom code calls) :
    Keeps K (install d (some handler)) (install d (some handler))
  arm (d : Handle) (n : UInt32) : Keeps K (arm d n) (arm d n)
  drop (d : Handle) : Keeps K (drop d) (drop d)
  /-- The copies are named alike. -/
  forks {w : Bench S R κ μ} {v : Bench S' R' κ μ} (h : K w v) : w.forks = v.forks
  forget : Keeps K (modify fun w => { w with forks := [] }) (modify fun v => { v with forks := [] })

/-- Parts of scenarios that answer alike and lead from benches related by `I` to benches related by
`K`. Where they succeed, a number of runs is over. -/
abbrev LeadsTo (I K : Bench S R κ μ → Bench S' R' κ μ → Prop) (low : Nat)
    (m : BenchM S R κ μ (Except ε Report)) (m' : BenchM S' R' κ μ (Except ε Report)) : Prop :=
  Coupled I m m' (fun x w v => K w v ∧ ∀ r, x = .ok r → low ≤ r.runs) fun _ _ => True

namespace Driven

variable (D : Driven K)

include D

theorem keeps_dropAll (ds : List Handle) : Keeps K (dropAll ds) (dropAll ds) := by
  induction ds with
  | nil => exact .answer _
  | cons d ds ih => exact (D.drop d).bind fun _ => ih

/-- A visit comes to what the run of the body comes to. It may start from more than is kept. -/
theorem keeps_visit {handler : Handler κ} {countdown : UInt32} {n : Nat} {d : Handle}
    (weaker : ∀ w v, I w v → K w v)
    (installs : Keeps I (Bench.install d (some handler)) (Bench.install d (some handler)))
    (arms : Keeps I (Scenario.arm d countdown) (Scenario.arm d countdown))
    (runs : Coupled I (body n d) (body' n d) (fun _ => K) fun _ _ => True) :
    Coupled I (visit body handler countdown n d) (visit body' handler countdown n d) (fun _ => K)
      fun _ _ => True := by
  refine installs.bind fun _ => arms.bind fun armed => ?_
  cases armed with
  | error f => exact .pure _ weaker
  | ok _ =>
    refine runs.bind fun x => (D.drop d).bind fun _ => Coupled.get_bind fun w v hwv => ?_
    rw [← D.forks hwv]
    refine Coupled.bind (D.forget.mono (fun _ _ h => h.2.2) (fun _ _ _ => id) fun _ _ => id)
      fun _ => ?_
    cases x with
    | ok _ => exact .answer _
    | error e => exact (D.keeps_dropAll _).bind fun _ => .answer _

omit [PowerLossAware ε] in
/-- Copies explored in turn: each is handed a report that has had the runs of those before. -/
theorem keeps_explore {low : Nat}
    {layer : Handle → List UInt32 → Report → BenchM S R κ μ (Except ε Report)}
    {layer' : Handle → List UInt32 → Report → BenchM S' R' κ μ (Except ε Report)}
    (h : ∀ d trail report, low ≤ report.runs →
      LeadsTo K K low (layer d trail report) (layer' d trail report))
    (trail : List UInt32) (ds : List Handle) (i : Nat) {report : Report} (hl : low ≤ report.runs) :
    LeadsTo K K low (explore layer trail ds i report) (explore layer' trail ds i report) := by
  induction ds generalizing i report with
  | nil =>
    apply Coupled.pure
    intro w v hwv
    refine ⟨hwv, ?_⟩
    rintro r ⟨⟩
    exact hl
  | cons d ds ih =>
    unfold explore
    by_cases large : UInt32.size ≤ i + 1
    · simp only [if_pos large]
      exact fun _ _ _ => ⟨rfl, trivial⟩
    · simp only [if_neg large]
      refine (h d _ (report.addLoss _) hl).bind fun x => ?_
      rcases x with e | report
      · have gone : LeadsTo K K low (do dropAll ds; return .error e)
            (do dropAll ds; return .error e) :=
          (D.keeps_dropAll ds).bind fun _ => .pure _ fun _ _ h => ⟨h, nofun⟩
        exact gone.mono (fun _ _ h => h.1) (fun _ _ _ => id) fun _ _ => id
      · intro w v hwv
        exact ih (i + 1) (hwv.2 report rfl) w v hwv.1

omit D in
/-- At the bottom the body just runs. -/
theorem keeps_layer_zero {d : Handle} {trail : List UInt32} {report : Report}
    (visits : Coupled I (visit body .ride 0 report.addRun.runs d)
      (visit body' .ride 0 report.addRun.runs d) (fun _ => K) fun _ _ => True)
    {low : Nat} (hl : low ≤ report.runs) :
    LeadsTo I K low (layer body 0 d trail report) (layer body' 0 d trail report) := by
  refine visits.bind fun x => ?_
  rcases x with e | forks
  · exact .pure _ fun _ _ h => ⟨h, nofun⟩
  · apply Coupled.pure
    intro w v hwv
    refine ⟨hwv, ?_⟩
    rintro r ⟨⟩
    exact Nat.le_succ_of_le hl

/-- Above it the copies are explored, too. -/
theorem keeps_layer_succ {depth : Nat} {d : Handle} {trail : List UInt32} {report : Report}
    (visits : Coupled I (visit body .fork 1 report.addRun.runs d)
      (visit body' .fork 1 report.addRun.runs d) (fun _ => K) fun _ _ => True)
    {low : Nat} (hl : low ≤ report.addRun.runs)
    (explores : ∀ d trail report, low ≤ report.runs →
      LeadsTo K K low (layer body depth d trail report) (layer body' depth d trail report)) :
    LeadsTo I K low (layer body (depth + 1) d trail report)
      (layer body' (depth + 1) d trail report) := by
  refine visits.bind fun x => ?_
  rcases x with e | forks
  · exact .pure _ fun _ _ h => ⟨h, nofun⟩
  · exact D.keeps_explore explores trail forks 0 hl

/-- Of the runs that are over nothing is asked any more. -/
theorem keeps_layer {low : Nat} (h : ∀ n d, low < n → Keeps K (body n d) (body' n d)) (depth : Nat)
    (d : Handle) (trail : List UInt32) (report : Report) (hl : low ≤ report.runs) :
    LeadsTo K K low (layer body depth d trail report) (layer body' depth d trail report) := by
  have visits (handler : Handler κ) (own : ∀ code calls, handler ≠ .custom code calls)
      (countdown : UInt32) (d : Handle) (report : Report) (hl : low ≤ report.runs) :
      Keeps K (visit body handler countdown report.addRun.runs d)
        (visit body' handler countdown report.addRun.runs d) :=
    D.keeps_visit (fun _ _ => id) (D.install d own) (D.arm d countdown)
      (h _ d (Nat.lt_succ_of_le hl))
  induction depth generalizing d trail report with
  | zero => exact keeps_layer_zero (visits .ride (by exact nofun) 0 d report hl) hl
  | succ depth ih =>
    exact D.keeps_layer_succ (visits .fork (by exact nofun) 1 d report hl) (Nat.le_succ_of_le hl) ih

/-- The first run may start from more than is kept. -/
theorem keeps_layer_first {depth : Nat} {d : Handle} {trail : List UInt32} {report : Report}
    (weaker : ∀ w v, I w v → K w v)
    (installs : ∀ handler,
      Keeps I (Bench.install d (some handler)) (Bench.install d (some handler)))
    (arms : ∀ n, Keeps I (Scenario.arm d n) (Scenario.arm d n))
    (first : Coupled I (body report.addRun.runs d) (body' report.addRun.runs d) (fun _ => K)
      fun _ _ => True)
    (later : ∀ n d, report.addRun.runs < n → Keeps K (body n d) (body' n d)) :
    Coupled I (layer body depth d trail report) (layer body' depth d trail report) (fun _ => K)
      fun _ _ => True := by
  have visits (handler : Handler κ) (countdown : UInt32) :=
    D.keeps_visit weaker (installs handler) (arms countdown) first
  have leads :
      LeadsTo I K 0 (layer body depth d trail report) (layer body' depth d trail report) := by
    rcases depth with _ | depth
    · exact keeps_layer_zero (visits .ride 0) (Nat.zero_le _)
    · refine (D.keeps_layer_succ (visits .fork 1) (Nat.le_refl _) (D.keeps_layer later depth)).mono
        (fun _ _ => id) ?_ fun _ _ => id
      exact fun _ _ _ h => ⟨h.1, fun _ _ => Nat.zero_le _⟩
  exact leads.mono (fun _ _ => id) (fun _ _ _ h => h.1) fun _ _ => id

/-- Scenarios of all strategies keep what their bodies keep. -/
theorem keeps_drive (h : ∀ n d, Keeps K (body n d) (body' n d)) (strategy : Strategy)
    (limit : Nat) :
    Keeps K (drive strategy body limit) (drive strategy body' limit) := by
  cases strategy with
  | exhaustive depth =>
    exact (D.keeps_layer (fun n d _ => h n d) depth 0 [] {} (Nat.zero_le _)).mono (fun _ _ => id)
      (fun _ _ _ h => h.1) fun _ _ => id
  | none | linear | log | explicit =>
    exact keeps_resuming (D.arm 0) (fun n => h n 0) limit _

end Driven

/-- A scenario whose device is made takes its course on a new bench. -/
theorem runBody_eq_ok {strategy : Strategy} {cfg : Config} {memory : μ} {limit : Nat}
    {body : Body S R κ μ ε} {result : Except ε Report} {w : Bench S R κ μ} :
    runBody strategy cfg memory body limit = .ok ⟨result, some w⟩ ↔
      ∃ u, create (configFor strategy cfg) memory = .ok u ∧
        (drive strategy body limit).run u = .ok result w := by
  unfold runBody
  cases create (S := S) (κ := κ) (configFor strategy cfg) memory with
  | error f =>
    constructor
    · intro h
      cases h
    · rintro ⟨_, h, -⟩
      cases h
  | ok u =>
    constructor
    · intro h
      refine ⟨u, rfl, ?_⟩
      show drive strategy body limit u = _
      cases drove : drive strategy body limit u with
      | ok x v =>
        simp only [drove] at h
        cases h
        rfl
      | error e v =>
        simp only [drove] at h
        cases h
    · rintro ⟨_, h, drove⟩
      cases h
      have drove : drive strategy body limit u = _ := drove
      simp only [drove]

/-- How a scenario ended, if its device was made. -/
def ended : Except Halt (Outcome Counted Nat κ μ ε) → Option (Except ε Report)
  | .ok ⟨result, some _⟩ => some result
  | _ => none

omit [PowerLossAware ε] in
theorem ended_eq_some {x : Except Halt (Outcome Counted Nat κ μ ε)} {result : Except ε Report} :
    ended x = some result ↔ ∃ w, x = .ok ⟨result, some w⟩ := by
  rcases x with e | ⟨result', _ | w⟩ <;> simp [ended]

/-- A scenario that ends well has a bench. -/
theorem exists_bench_of_ok {strategy : Strategy} {cfg : Config} {memory : μ} {limit : Nat}
    {body : Body S R κ μ ε} {report : Report} {b : Option (Bench S R κ μ)}
    (ran : runBody strategy cfg memory body limit = .ok ⟨.ok report, b⟩) :
    ∃ u w, b = some w ∧ create (configFor strategy cfg) memory = .ok u ∧
      (drive strategy body limit).run u = .ok (.ok report) w := by
  cases b with
  | some w =>
    obtain ⟨u, made, drove⟩ := runBody_eq_ok.1 ran
    exact ⟨u, w, rfl, made, drove⟩
  | none =>
    unfold runBody at ran
    split at ran
    · cases ran
    · split at ran <;> cases ran

/-- Bodies that take the same course on a new bench make the same of a scenario. -/
theorem runBody_congr {strategy : Strategy} {cfg : Config} {memory : μ} {limit : Nat}
    {body body' : Body S R κ μ ε}
    (h : ∀ w, create (configFor strategy cfg) memory = .ok w →
      ResultsAgree (fun _ v u => u = v) (fun _ _ => True) ((drive strategy body limit).run w)
        ((drive strategy body' limit).run w)) :
    runBody strategy cfg memory body' limit = runBody strategy cfg memory body limit := by
  unfold runBody
  cases made : create (S := S) (κ := κ) (configFor strategy cfg) memory with
  | error f => rfl
  | ok w =>
    have agree : ResultsAgree _ _ (drive strategy body limit w) (drive strategy body' limit w) :=
      h w made
    cases drove : drive strategy body limit w with
    | ok x v =>
      rw [drove] at agree
      obtain ⟨u, drove', rfl⟩ := agree.ok_left
      simp only [drove, drove']
    | error e v =>
      rw [drove] at agree
      obtain ⟨u, drove', -⟩ := agree.error_left
      simp only [drove, drove']

end Scenario

end FaultyFlash
