import FaultyFlash.Proofs.Scenario.Ends

/-!
# Failures of scenarios

A failure of a run that is no loss of power stops a scenario and is what comes of it. Under the
exhaustive strategy so is any failure, also a loss of power; but there the body is told of none
unless it takes the callback away.

## Main definitions

* `Scenario.Records`: a part of a scenario that writes its runs down and else does what it did
* `Scenario.Explains`: the runs of an exhaustive scenario explain how it ends
* `Scenario.Loyal`, `Program.Honest`: bodies and programs that report no loss of power of a device
  that resumes

## Main results

* `Scenario.visit_recorded`, `Scenario.explore_recorded`, `Scenario.layer_recorded`: the runs of an
  exhaustive scenario, from those of its parts
* `Scenario.failure_last`, `Scenario.failure_stops`: failures of a scenario and of its runs
* `Scenario.failures_surface`: failures stop a scenario, and losses of power stay in it
-/

namespace FaultyFlash

variable {S R κ μ α β ε : Type}

namespace Scenario

open Bench

/-! ## What is written down -/

/-- From a bench, a part of a scenario that writes down the runs `es` of the body otherwise does
what it does without. -/
def Records (m' : BenchM S R κ (μ × List (Entry S R κ μ ε)) α) (m : BenchM S R κ μ α)
    (w : Bench S R κ μ) (es : List (Entry S R κ μ ε)) : Prop :=
  ∀ before, m'.run (keeping w before) = seenBy (keeping · (before ++ es)) (m.run w)

variable {w v : Bench S R κ μ} {es es' : List (Entry S R κ μ ε)}

namespace Records

variable {m' : BenchM S R κ (μ × List (Entry S R κ μ ε)) α} {m : BenchM S R κ μ α}
  {k' : α → BenchM S R κ (μ × List (Entry S R κ μ ε)) β} {k : α → BenchM S R κ μ β}

theorem pure (a : α) (w : Bench S R κ μ) :
    Records (ε := ε) (Pure.pure a) (Pure.pure a) w [] := by
  intro before
  rw [List.append_nil]
  rfl

theorem bind (hm : Records m' m w es) {a : α} (run : m.run w = .ok a v)
    (hk : Records (k' a) (k a) v es') : Records (m' >>= k') (m >>= k) w (es ++ es') := by
  intro before
  rw [EStateM.run_bind, EStateM.run_bind, hm before, run]
  show (k' a).run (keeping v (before ++ es)) = _
  rw [hk, List.append_assoc]

theorem bind_halted (hm : Records m' m w es) {h : Halt} (run : m.run w = .error h v) :
    Records (m' >>= k') (m >>= k) w es := by
  intro before
  rw [EStateM.run_bind, EStateM.run_bind, hm before, run]
  rfl

end Records

/-- Operations that write down nothing. -/
theorem records_arm (d : Handle) (n : UInt32) (w : Bench S R κ μ) :
    Records (ε := ε) (arm d n) (arm d n) w [] := by
  intro before
  rw [List.append_nil]
  exact run_on_keeping _

theorem records_install (d : Handle) (c : Option (Handler κ)) (w : Bench S R κ μ) :
    Records (ε := ε) (install d c) (install d c) w [] := by
  intro before
  have same : (keeping w before).rig? d = w.rig? d := rfl
  rw [List.append_nil, run_install, run_install, same]
  cases w.rig? d <;> rfl

variable [BlockStore S R]

theorem records_drop (d : Handle) (w : Bench S R κ μ) :
    Records (ε := ε) (drop d) (drop d) w [] := by
  intro before
  have same : (keeping w before).rig? d = w.rig? d := rfl
  rw [List.append_nil, run_drop, run_drop, same]
  cases w.rig? d <;> rfl

theorem records_dropAll (ds : List Handle) (w : Bench S R κ μ) :
    Records (ε := ε) (dropAll ds) (dropAll ds) w [] := by
  induction ds generalizing w with
  | nil => exact Records.pure () w
  | cons d ds ih =>
    cases run : (drop d).run w with
    | ok x v => exact (records_drop d w).bind run (ih v)
    | error h v => exact (records_drop d w).bind_halted run

/-- The end of a visit: the device is given up, and after a failure so are the copies. -/
def leave (d : Handle) (outcome : Except ε Unit) :
    BenchM S R κ μ (Except ε (List Handle)) := do
  Bench.drop d
  let forks := (← get).forks
  modify fun w => { w with forks := [] }
  match outcome with
  | .ok () => return .ok forks
  | .error e =>
    dropAll forks
    return .error e

theorem records_leave (d : Handle) (outcome : Except ε Unit) (w : Bench S R κ μ) :
    Records (ε := ε) (leave d outcome) (leave d outcome) w [] := by
  cases run : (drop d).run w with
  | error h v => exact (records_drop d w).bind_halted run
  | ok x v =>
    refine (records_drop d w).bind run fun before => ?_
    cases outcome with
    | ok _ =>
      exact Records.pure (.ok v.forks : Except ε (List Handle)) { v with forks := [] } before
    | error e =>
      have rest : Records (ε := ε) (do dropAll v.forks; return .error e)
          (do dropAll v.forks; return (.error e : Except ε (List Handle)))
          { v with forks := [] } [] := by
        cases run : (dropAll v.forks).run { v with forks := [] } with
        | ok x t => exact (records_dropAll _ _).bind run (.pure _ t)
        | error h t => exact (records_dropAll _ _).bind_halted run
      exact rest before

/-! ## Giving devices up -/

/-- Some devices were given up, and the others are there. -/
structure Left (ds : List Handle) (w v : Bench S R κ μ) : Prop where
  forks : v.forks = []
  live {e : Handle} (he : e ∉ ds) (h : w.isLive e) : v.isLive e

omit [BlockStore S R] in
theorem Left.trans {ds ds' : List Handle} {u : Bench S R κ μ} (h : Left ds u v)
    (h' : Left ds' v w) (apart : ∀ e ∈ ds', e ∈ ds ∨ ¬ u.isLive e) : Left ds u w where
  forks := h'.forks
  live {e} he hu := by
    refine h'.live (fun mem => ?_) (h.live he hu)
    rcases apart e mem with mem | dead
    · exact he mem
    · exact dead hu

/-- A device that is there can be given up. -/
theorem run_drop_of_isLive {d : Handle} (h : v.isLive d) : ∃ t, (drop d).run v = .ok () t ∧
    t.forks = v.forks ∧ ∀ e ≠ d, v.isLive e → t.isLive e := by
  obtain ⟨r, hr⟩ := isLive_iff.1 h
  have dropped : (drop d).run v = .ok () _ := run_drop_eq_ok.2 ⟨r, hr, rfl⟩
  exact ⟨_, dropped, rfl, fun e apart he => isLive_drop he apart dropped⟩

theorem run_dropAll_of_isLive {ds : List Handle} (nodup : ds.Nodup) (h : ∀ e ∈ ds, v.isLive e) :
    ∃ t, (dropAll ds).run v = .ok () t ∧ t.forks = v.forks ∧
      ∀ e ∉ ds, v.isLive e → t.isLive e := by
  induction ds generalizing v with
  | nil => exact ⟨v, rfl, rfl, fun _ _ he => he⟩
  | cons d ds ih =>
    obtain ⟨apart, nodup⟩ := List.nodup_cons.1 nodup
    obtain ⟨u, dropped, same, others⟩ := run_drop_of_isLive (h d List.mem_cons_self)
    obtain ⟨t, rest, same', others'⟩ := ih nodup fun e he =>
      others e (fun eq => apart (eq ▸ he)) (h e (List.mem_cons_of_mem _ he))
    refine ⟨t, run_bind_eq_ok.2 ⟨(), u, dropped, rest⟩, same'.trans same, fun e he live => ?_⟩
    rw [List.mem_cons, not_or] at he
    exact others' e he.2 (others e he.1 live)

/-- After a run that ended well the copies are left. -/
theorem run_leave_ok {d : Handle} (h : v.isLive d) :
    ∃ t, (leave d (.ok () : Except ε Unit)).run v = .ok (.ok v.forks) t ∧ Left [d] v t := by
  obtain ⟨u, dropped, same, others⟩ := run_drop_of_isLive h
  refine ⟨{ u with forks := [] }, run_bind_eq_ok.2 ⟨(), u, dropped, ?_⟩, rfl, fun he live => ?_⟩
  · rw [← same]
    rfl
  · exact others _ (fun eq => he (List.mem_singleton.2 eq)) live

/-- After one that failed they are given up. -/
theorem run_leave_error {d : Handle} (h : v.isLive d) (nodup : v.forks.Nodup)
    (live : ∀ e ∈ v.forks, v.isLive e) (apart : d ∉ v.forks) (x : ε) :
    ∃ t, (leave d (.error x)).run v = .ok (.error x) t ∧ Left (d :: v.forks) v t := by
  obtain ⟨u, dropped, same, others⟩ := run_drop_of_isLive h
  obtain ⟨t, droppedAll, none, others'⟩ :=
    run_dropAll_of_isLive (v := { u with forks := [] }) nodup fun e he =>
      others e (fun eq => apart (eq ▸ he)) (live e he)
  refine ⟨t, run_bind_eq_ok.2 ⟨(), u, dropped, ?_⟩, none, fun he live => ?_⟩
  · show (do dropAll u.forks; return .error x : BenchM S R κ μ (Except ε (List Handle))).run
      { u with forks := [] } = _
    rw [same]
    exact run_bind_eq_ok.2 ⟨(), t, droppedAll, rfl⟩
  · rw [List.mem_cons, not_or] at he
    exact others' _ he.2 (others _ he.1 live)

/-! ## Visits -/

variable [PowerLossAware ε] {body : Body S R κ μ ε}

/-- What a visit makes of a run of the body. -/
inductive Visited (d : Handle) (w : Bench S R κ μ) :
    EStateM.Result Halt (Bench S R κ μ) (Except ε Unit) →
      EStateM.Result Halt (Bench S R κ μ) (Except ε (List Handle)) → Prop where
  | passed {t v : Bench S R κ μ} {hs : List Handle} (left : Left [d] w v) (nodup : hs.Nodup)
      (fresh : ∀ e ∈ hs, w.rack.length ≤ e ∧ v.isLive e) :
      Visited d w (.ok (.ok ()) t) (.ok (.ok hs) v)
  | failed {t v : Bench S R κ μ} (x : ε) (left : Left [d] w v) :
      Visited d w (.ok (.error x) t) (.ok (.error x) v)
  | halted {t v : Bench S R κ μ} (h : Halt) : Visited d w (.error h t) (.error h v)

omit [BlockStore S R] in
/-- The device of a visit is prepared for the run. -/
theorem exists_prepared {d : Handle} (live : w.isLive d) (handler : Handler κ)
    (countdown : UInt32) : ∃ v u, (install d (some handler)).run w = .ok () v ∧
      (arm d countdown).run v = .ok (.ok ()) u ∧ u.forks = w.forks ∧
      u.rack.length = w.rack.length ∧ (∀ e, w.isLive e → u.isLive e) ∧
      Carries d (fun r => r.callback = some handler) u := by
  obtain ⟨r, hr⟩ := isLive_iff.1 live
  have there : rig? { w with rack := w.rack.set d (some { r with callback := some handler }) } d =
      some { r with callback := some handler } := rig?_set hr _
  refine ⟨_, _, run_install_eq_ok.2 ⟨r, hr, rfl⟩, run_arm_eq_ok.2 ⟨_, there, rfl, rfl⟩, rfl, ?_,
    fun e he => isLive_set (isLive_set he rfl) rfl, _, rig?_settle there _, rfl⟩
  simp [settle]

/-- A visit is one run of the body. -/
theorem visit_recorded (tame : Tame body) {d : Handle} (live : w.isLive d) (none : w.forks = [])
    (handler : Handler κ) (countdown : UInt32) (n : Nat) : ∃ u,
      Records (visit (recorded body) handler countdown n d) (visit body handler countdown n d) w
        [.of body n d u] ∧ Carries d (fun r => r.callback = some handler) u ∧
      Visited d w ((body n d).run u) ((visit body handler countdown n d).run w) := by
  obtain ⟨v, u, installed, armed, forks, length, lives, carries⟩ :=
    exists_prepared live handler countdown
  -- a visit is its preparation, the run, and the leaving
  have runs : (visit body handler countdown n d).run w = (body n d >>= leave d).run u := by
    simp only [visit, EStateM.run_bind, installed, armed]
    rfl
  have ran : Records (recorded body n d) (body n d) u [.of body n d u] := fun _ => run_recorded n
  refine ⟨u, (records_install d _ w).bind installed ((records_arm d _ v).bind armed ?_), carries,
    ?_⟩
  · show Records (recorded body n d >>= leave d) (body n d >>= leave d) u _
    cases run : (body n d).run u with
    | error h t => exact ran.bind_halted run
    | ok x t => exact ran.bind run (records_leave d x t)
  · rw [runs, EStateM.run_bind]
    cases run : (body n d).run u with
    | error h t => exact .halted h
    | ok x t =>
      have grew := tame n d u x t run
      obtain ⟨hs, taken, nodup, fresh⟩ := grew.forks
      rw [forks, none, List.nil_append] at taken
      rw [length] at fresh
      have there := grew.live (lives d live)
      -- the copies were not there when the visit began, but its device was
      have apart : d ∉ hs := fun mem =>
        Nat.not_le.2 (lt_length_of_isLive live) (fresh d mem).1
      cases x with
      | ok _ =>
        obtain ⟨t', left, leaves⟩ := run_leave_ok (ε := ε) there
        show Visited d w _ ((leave d (.ok ())).run t)
        rw [left, taken]
        refine .passed ⟨leaves.forks, fun he h => leaves.live he (grew.live (lives _ h))⟩ nodup
          fun e he => ⟨(fresh e he).1, leaves.live (fun mem => ?_) (fresh e he).2⟩
        exact apart (List.mem_singleton.1 mem ▸ he)
      | error x =>
        subst taken
        obtain ⟨t', left, leaves⟩ :=
          run_leave_error there nodup (fun e he => (fresh e he).2) apart x
        show Visited d w _ ((leave d (.error x)).run t)
        rw [left]
        refine .failed x ⟨leaves.forks, fun {e} he h =>
          leaves.live (fun mem => ?_) (grew.live (lives _ h))⟩
        rcases List.mem_cons.1 mem with rfl | mem
        · exact he (List.mem_singleton_self _)
        · exact Nat.not_le.2 (lt_length_of_isLive h) (fresh e mem).1

/-! ## Layers -/

/-- A run that ends well. -/
def Entry.Passed (e : Entry S R κ μ ε) : Prop := ∃ v, e.outcome = .ok (.ok ()) v

/-- The runs of an exhaustive scenario, or of a part of one, explain how it ends: all but the last
end well, and as that one ends so does the scenario, unless there are more copies than words. -/
inductive Explains : List (Entry S R κ μ ε) →
    EStateM.Result Halt (Bench S R κ μ) (Except ε Report) → Prop where
  | passed {es : List (Entry S R κ μ ε)} {r : Report} {v : Bench S R κ μ}
      (all : ∀ e ∈ es, e.Passed) : Explains es (.ok (.ok r) v)
  | failed {front : List (Entry S R κ μ ε)} {last : Entry S R κ μ ε} {x : ε} {u v : Bench S R κ μ}
      (all : ∀ e ∈ front, e.Passed) (ends : last.outcome = .ok (.error x) u) :
      Explains (front ++ [last]) (.ok (.error x) v)
  | halted {front : List (Entry S R κ μ ε)} {last : Entry S R κ μ ε} {h : Halt}
      {u v : Bench S R κ μ} (all : ∀ e ∈ front, e.Passed) (ends : last.outcome = .error h u) :
      Explains (front ++ [last]) (.error h v)
  | exceeded {es : List (Entry S R κ μ ε)} {v : Bench S R κ μ} (all : ∀ e ∈ es, e.Passed) :
      Explains es (.error .exhausted v)

omit [BlockStore S R] [PowerLossAware ε] in
/-- Runs before that ended well make no difference. -/
theorem Explains.prepend {res : EStateM.Result Halt (Bench S R κ μ) (Except ε Report)}
    (h : Explains es res) (before : ∀ e ∈ es', e.Passed) : Explains (es' ++ es) res := by
  have both {front : List (Entry S R κ μ ε)} (all : ∀ e ∈ front, e.Passed)
      (e : Entry S R κ μ ε) (he : e ∈ es' ++ front) : e.Passed :=
    (List.mem_append.1 he).elim (before e) (all e)
  cases h with
  | passed all => exact .passed (both all)
  | failed all ends =>
    rw [← List.append_assoc]
    exact .failed (both all) ends
  | halted all ends =>
    rw [← List.append_assoc]
    exact .halted (both all) ends
  | exceeded all => exact .exceeded (both all)

/-- A device that resumes whenever it loses power. -/
def Rides (d : Handle) (w : Bench S R κ μ) : Prop :=
  Carries d (fun r => r.callback = some .ride ∨ r.callback = some .fork) w

/-- A part of an exhaustive scenario that writes down its runs, and is explained by them. The runs
start on devices that resume, and the part gives up some devices. -/
structure Explained (body : Body S R κ μ ε)
    (m' : BenchM S R κ (μ × List (Entry S R κ μ ε)) (Except ε Report))
    (m : BenchM S R κ μ (Except ε Report)) (ds : List Handle) (w : Bench S R κ μ)
    (es : List (Entry S R κ μ ε)) : Prop where
  records : Records m' m w es
  rides : ∀ e ∈ es, ∃ n d u, e = .of body n d u ∧ Rides d u
  explains : Explains es (m.run w)
  left {x : Except ε Report} {v : Bench S R κ μ} (run : m.run w = .ok x v) : Left ds w v

namespace Explained

variable {m' : BenchM S R κ (μ × List (Entry S R κ μ ε)) (Except ε Report)}
  {m : BenchM S R κ μ (Except ε Report)} {ds : List Handle}
  {k' : Except ε Report → BenchM S R κ (μ × List (Entry S R κ μ ε)) (Except ε Report)}
  {k : Except ε Report → BenchM S R κ μ (Except ε Report)}

omit [BlockStore S R] [PowerLossAware ε]

/-- A part that does nothing. -/
theorem pure (r : Report) (none : w.forks = []) :
    Explained body (Pure.pure (.ok r)) (Pure.pure (.ok r)) ds w [] := by
  refine ⟨.pure _ w, fun _ he => absurd he List.not_mem_nil,
    .passed fun _ he => absurd he List.not_mem_nil, fun ran => ?_⟩
  cases ran
  exact ⟨none, fun _ h => h⟩

/-- Where a part halts, what comes after it is not reached. -/
theorem bind_halted (h : Explained body m' m ds w es) {halt : Halt} (run : m.run w = .error halt v)
    (ds' : List Handle) : Explained body (m' >>= k') (m >>= k) ds' w es := by
  have whole : (m >>= k).run w = .error halt v := by rw [EStateM.run_bind, run]
  have explains := h.explains
  rw [run] at explains
  refine ⟨h.records.bind_halted run, h.rides, whole ▸ explains, fun ran => ?_⟩
  rw [whole] at ran
  cases ran

/-- After a part that ends well the scenario goes on. -/
theorem bind_ok {ds' ds'' : List Handle} {r : Report} (h : Explained body m' m ds w es)
    (run : m.run w = .ok (.ok r) v) (hk : Explained body (k' (.ok r)) (k (.ok r)) ds' v es')
    (left : ∀ e ∉ ds'', e ∉ ds ∧ e ∉ ds') :
    Explained body (m' >>= k') (m >>= k) ds'' w (es ++ es') := by
  have whole : (m >>= k).run w = (k (.ok r)).run v := by rw [EStateM.run_bind, run]
  have all : ∀ e ∈ es, e.Passed := by
    have explains := h.explains
    rw [run] at explains
    cases explains with
    | passed all => exact all
  refine ⟨h.records.bind run hk.records, fun e he => (List.mem_append.1 he).elim (h.rides e)
    (hk.rides e), whole ▸ hk.explains.prepend all, fun {x u} ran => ?_⟩
  rw [whole] at ran
  have first := h.left run
  have second := hk.left ran
  exact ⟨second.forks, fun he live => second.live (left _ he).2 (first.live (left _ he).1 live)⟩

/-- After a part that failed devices are given up. -/
theorem bind_error {ds' : List Handle} {x : ε} {t : Bench S R κ μ} (h : Explained body m' m ds w es)
    (run : m.run w = .ok (.error x) v) (gives : (k (.error x)).run v = .ok (.error x) t)
    (hk : Records (k' (.error x)) (k (.error x)) v []) (left : Left ds' w t) :
    Explained body (m' >>= k') (m >>= k) ds' w es := by
  have whole : (m >>= k).run w = .ok (.error x) t := run_bind_eq_ok.2 ⟨_, v, run, gives⟩
  have explains := h.explains
  rw [run] at explains
  have records := h.records.bind run hk
  rw [List.append_nil] at records
  refine ⟨records, h.rides, ?_, fun {y u} ran => ?_⟩
  · rw [whole]
    cases explains with
    | failed all ends => exact .failed all ends
  · rw [whole] at ran
    cases ran
    exact left

end Explained

omit [PowerLossAware ε] in
/-- Copies explored in turn. -/
theorem explore_recorded
    {layer' : Handle → List UInt32 → Report →
      BenchM S R κ (μ × List (Entry S R κ μ ε)) (Except ε Report)}
    {layer : Handle → List UInt32 → Report → BenchM S R κ μ (Except ε Report)}
    (single : ∀ d trail report (w : Bench S R κ μ), w.isLive d → w.forks = [] →
      ∃ es, Explained body (layer' d trail report) (layer d trail report) [d] w es)
    (trail : List UInt32) {ds : List Handle} (nodup : ds.Nodup) (live : ∀ e ∈ ds, w.isLive e)
    (none : w.forks = []) (i : Nat) (report : Report) :
    ∃ es, Explained body (explore layer' trail ds i report) (explore layer trail ds i report) ds w
      es := by
  induction ds generalizing i w report with
  | nil => exact ⟨[], .pure report none⟩
  | cons d ds ih =>
    obtain ⟨apart, nodup⟩ := List.nodup_cons.1 nodup
    unfold explore
    by_cases large : UInt32.size ≤ i + 1
    · -- the copy has no place in a trail, and is not visited
      simp only [if_pos large]
      refine ⟨[], fun before => ?_, fun _ he => absurd he List.not_mem_nil,
        .exceeded fun _ he => absurd he List.not_mem_nil, fun ran => ?_⟩
      · rw [List.append_nil]
        rfl
      · cases ran
    simp only [if_neg large]
    obtain ⟨es, explained⟩ := single d (trail ++ [(i + 1).toUInt32])
      (report.addLoss (trail ++ [(i + 1).toUInt32])) w (live d List.mem_cons_self) none
    cases run : (layer d (trail ++ [(i + 1).toUInt32])
        (report.addLoss (trail ++ [(i + 1).toUInt32]))).run w with
    | error h v => exact ⟨es, explained.bind_halted run _⟩
    | ok x v =>
      -- the copies left over are still there
      have left := explained.left run
      have others (e : Handle) (he : e ∈ ds) : v.isLive e :=
        left.live (fun mem => apart (List.mem_singleton.1 mem ▸ he))
          (live e (List.mem_cons_of_mem _ he))
      cases x with
      | ok r =>
        obtain ⟨es', explained'⟩ := ih nodup others left.forks (i + 1) r
        refine ⟨es ++ es', explained.bind_ok run explained' fun e he => ?_⟩
        rwa [List.mem_cons, not_or, ← List.mem_singleton] at he
      | error x =>
        obtain ⟨t, dropped, same, rest⟩ := run_dropAll_of_isLive nodup others
        refine ⟨es, explained.bind_error run (run_bind_eq_ok.2 ⟨(), t, dropped, rfl⟩)
          ((records_dropAll ds v).bind dropped (.pure _ t)) ⟨same.trans left.forks, ?_⟩⟩
        intro e he h
        rw [List.mem_cons, not_or, ← List.mem_singleton] at he
        exact rest e he.2 (left.live he.1 h)

/-- A visit, and what is done with the copies after it. -/
theorem visit_bind_recorded (tame : Tame body) {d : Handle} (live : w.isLive d)
    (none : w.forks = []) {handler : Handler κ} (rides : handler = .ride ∨ handler = .fork)
    (countdown : UInt32) (n : Nat)
    {k' : List Handle → BenchM S R κ (μ × List (Entry S R κ μ ε)) (Except ε Report)}
    {k : List Handle → BenchM S R κ μ (Except ε Report)}
    (hk : ∀ hs (v : Bench S R κ μ), hs.Nodup → (∀ e ∈ hs, v.isLive e) → v.forks = [] →
      ∃ es, Explained body (k' hs) (k hs) hs v es) :
    ∃ es, Explained body
      (visit (recorded body) handler countdown n d >>= fun x => match x with
        | .ok hs => k' hs
        | .error e => return .error e)
      (visit body handler countdown n d >>= fun x => match x with
        | .ok hs => k hs
        | .error e => return .error e) [d] w es := by
  obtain ⟨u, records, ⟨r, hr, callback⟩, visited⟩ :=
    visit_recorded tame live none handler countdown n
  have first (e : Entry S R κ μ ε) (he : e ∈ [.of body n d u]) :
      ∃ n d u, e = .of body n d u ∧ Rides d u := by
    refine ⟨n, d, u, List.mem_singleton.1 he, r, hr, ?_⟩
    rcases rides with rfl | rfl
    · exact .inl callback
    · exact .inr callback
  have alone (e : Entry S R κ μ ε) (h : e.Passed) (x : Entry S R κ μ ε) (hx : x ∈ [e]) :
      x.Passed := List.mem_singleton.1 hx ▸ h
  have before (x : Entry S R κ μ ε) (hx : x ∈ []) : x.Passed := absurd hx List.not_mem_nil
  generalize ran : (body n d).run u = outcome at visited
  generalize run : (visit body handler countdown n d).run w = result at visited
  -- only after a run that ended well is there anything to go on with
  cases visited with
  | @halted t v h =>
    have whole : (visit body handler countdown n d >>= fun x => match x with
        | .ok hs => k hs
        | .error e => return .error e).run w = .error h v := by
      rw [EStateM.run_bind, run]
    refine ⟨_, records.bind_halted run, first, ?_, fun run' => ?_⟩
    · have explains : Explains ([] ++ [.of body n d u]) (.error h v) := .halted before ran
      rw [whole]
      exact explains
    · rw [whole] at run'
      cases run'
  | @failed t v x left =>
    have whole : (visit body handler countdown n d >>= fun x => match x with
        | .ok hs => k hs
        | .error e => return .error e).run w = .ok (.error x) v :=
      run_bind_eq_ok.2 ⟨_, v, run, rfl⟩
    refine ⟨_, records.bind run (.pure _ v), first, ?_, fun run' => ?_⟩
    · have explains : Explains ([] ++ [.of body n d u]) (.ok (.error x) v) := .failed before ran
      rw [whole]
      exact explains
    · rw [whole] at run'
      cases run'
      exact left
  | @passed t v hs left nodup fresh =>
    obtain ⟨es, explained⟩ := hk hs v nodup (fun e he => (fresh e he).2) left.forks
    have whole : (visit body handler countdown n d >>= fun x => match x with
        | .ok hs => k hs
        | .error e => return .error e).run w = (k hs).run v := by
      rw [EStateM.run_bind, run]
    refine ⟨_, records.bind run explained.records,
      fun e he => (List.mem_append.1 he).elim (first e) (explained.rides e), ?_, fun run' => ?_⟩
    · rw [whole]
      exact explained.explains.prepend (alone _ ⟨t, ran⟩)
    · rw [whole] at run'
      refine left.trans (explained.left run') fun e he => .inr fun alive => ?_
      exact Nat.not_le.2 (lt_length_of_isLive alive) (fresh e he).1

/-- A layer, at the bottom or further up. -/
theorem layer_recorded (tame : Tame body) (depth : Nat) {d : Handle} (live : w.isLive d)
    (none : w.forks = []) (trail : List UInt32) (report : Report) : ∃ es,
      Explained body (layer (recorded body) depth d trail report)
        (layer body depth d trail report) [d] w es := by
  induction depth generalizing d w trail report with
  | zero =>
    refine visit_bind_recorded tame live none (.inl rfl) 0 report.addRun.runs
      fun hs v _ _ forks => ?_
    exact ⟨[], .pure report.addRun forks⟩
  | succ depth ih =>
    refine visit_bind_recorded tame live none (.inr rfl) 1 report.addRun.runs
      fun hs v nodup there forks => ?_
    exact explore_recorded (fun d trail report w live none => ih live none trail report) trail nodup
      there forks 0 report.addRun

/-! ## Bodies that are told of no loss of power -/

/-- A body does not report a loss of power of a device that resumes whenever it loses power. -/
def Loyal (body : Body S R κ μ ε) : Prop :=
  ∀ n d w x v, Rides d w → (body n d).run w = .ok x v → Spared x

end Scenario

/-- A program that installs no callback, and ends in a loss of power only if told of one. -/
def Program.Honest [PowerLossAware ε] (p : Program κ μ (Except ε Unit)) : Prop :=
  p.Abides (fun _ => True) (fun _ => False) (· ≠ .fault .powerLoss) Scenario.Spared

namespace Scenario

open Bench

variable [BlockStore S R]

/-- Requests of a device that resumes whenever it loses power report no loss of it. -/
theorem Rides.upkeep (d : Handle) : Upkeep (S := S) (R := R) (κ := κ) (μ := μ) (fun _ => True)
    (fun c => c = some .ride ∨ c = some .fork) (· ≠ .fault .powerLoss) d (Rides d) := by
  have kept {α : Type} {op : Config → FlashM S R α} (powered : ∀ cfg, Flash.Powered (op cfg)) :
      Lasts (κ := κ) (fun r => r.callback = some .ride ∨ r.callback = some .fork) op
        (FailsBy (· ≠ .fault .powerLoss)) :=
    fun cfg _ f _ hr => ⟨hr, (powered cfg).failsBy f⟩
  refine Carries.upkeep (fun u => kept fun cfg => .start cfg u)
    (fun worn u => kept fun cfg => .complete cfg worn u) (fun u => kept fun cfg => .crash cfg u)
    (fun slots g => kept fun cfg => .restore cfg slots g)
    (fun r _ => kept fun cfg => .effect cfg r) (fun _ _ hr => hr) (fun _ hr => hr)
    (fun _ _ allowed _ => allowed) ?_ ?_ nofun
  · rintro code calls (custom | custom) <;> cases custom
  · rintro (none | none) <;> cases none

/-- Bodies that are honest programs are loyal. -/
theorem loyal_execute [PowerLossAware ε] (callbacks : Callbacks κ μ) (nesting : Nat)
    {p : Nat → Program κ μ (Except ε Unit)} (honest : ∀ n, (p n).Honest) :
    Loyal (S := S) (R := R) fun n d => (p n).execute callbacks nesting d := by
  intro n d w x v rides run
  refine ((Rides.upkeep d).execute (fun _ none => none.elim) (fun code calls custom => ?_) nesting
    (honest n) w x v rides run).2
  rcases custom with custom | custom <;> cases custom

/-! ## Failures -/

variable [PowerLossAware ε] {body : Body S R κ μ ε} {strategy : Strategy} {cfg : Config}
  {memory : μ} {w v : Bench S R κ μ} {limit i : Nat} {x : ε}

/-- No loss of power keeps a device from being made. -/
theorem create_ne_powerLoss {f : Failure}
    (h : (create cfg memory : Except Failure (Bench S R κ μ)) = .error f) :
    f ≠ .fault .powerLoss := by
  revert h
  unfold create
  rcases cfg.geometry.check with m | _
  · rintro ⟨⟩
    exact nofun
  cases cfg.image with
  | absent | writable | sealed => exact nofun
  | unwritable =>
    rintro ⟨⟩
    exact nofun

/-- What does not follow a schedule is exhaustive. -/
theorem exists_depth (h : ¬ strategy.Resumes) : ∃ depth, strategy = .exhaustive depth := by
  cases strategy with
  | exhaustive depth => exact ⟨depth, rfl⟩
  | none | linear | log | explicit => exact absurd trivial h

/-- The journal of an exhaustive scenario. -/
theorem exhaustive_explained {depth : Nat} (tame : Tame body) (limit : Nat)
    (made : create (configFor (.exhaustive depth) cfg) memory = .ok w) :
    Explained body (drive (.exhaustive depth) (recorded body) limit)
      (drive (.exhaustive depth) body limit) [0] w (journal (.exhaustive depth) body limit w) := by
  have none : w.forks = [] := by
    obtain ⟨-, image, -, rfl⟩ := create_eq_ok.1 made
    rfl
  obtain ⟨es, explained⟩ : ∃ es, Explained body (drive (.exhaustive depth) (recorded body) limit)
      (drive (.exhaustive depth) body limit) [0] w es :=
    layer_recorded tame depth (isLive_create made) none [] {}
  have written : journal (.exhaustive depth) body limit w = es := by
    rw [journal, explained.records []]
    cases (drive (.exhaustive depth) body limit).run w <;> rfl
  rw [written]
  exact explained

/-- The journal of a scenario that follows a schedule. -/
theorem resumes_ends (h : strategy.Resumes) (tame : Tame body) (limit : Nat)
    (made : create (configFor strategy cfg) memory = .ok w) :
    (∀ e ∈ journal strategy body limit w, e.LosesPower) ∧
        (∃ v, (drive strategy body limit).run w = .error .exhausted v) ∨
      ∃ front last report, journal strategy body limit w = front ++ [last] ∧
        (∀ e ∈ front, e.LosesPower) ∧ ¬ last.LosesPower ∧
        (drive strategy body limit).run w = last.concludes report := by
  rw [journal_eq_entries h, drive_eq_resuming h]
  rcases resuming_ends (s := strategy.schedule) (i := 0) tame limit (isLive_create made) with
    ⟨-, lost, out⟩ | ⟨front, last, split, lost, ends, out⟩
  · exact .inl ⟨lost, out⟩
  · exact .inr ⟨front, last, _, split, lost, ends, out⟩

/-- A failure that comes of a scenario is the one of its last run, and no loss of power if the
strategy follows a schedule or the body is loyal. -/
theorem failure_last (tame : Tame body) (made : create (configFor strategy cfg) memory = .ok w)
    (drove : (drive strategy body limit).run w = .ok (.error x) v) :
    ∃ last u, (journal strategy body limit w).getLast? = some last ∧
      last.outcome = .ok (.error x) u ∧
      (strategy.Resumes ∨ Loyal body → PowerLossAware.isPowerLoss x = false) := by
  by_cases follows : strategy.Resumes
  · rcases resumes_ends follows tame limit made with
      ⟨-, v', out⟩ | ⟨front, last, report, split, -, ends, out⟩
    · cases out.symm.trans drove
    · rw [drove, Entry.concludes] at out
      rw [split, List.getLast?_concat]
      rcases outcome : last.outcome with ⟨_ | y, u⟩ | ⟨h, u⟩
      · rw [outcome] at out
        cases out
        exact ⟨last, _, rfl, outcome, fun _ => Bool.eq_false_iff.2 fun lost =>
          ends ⟨x, v, outcome, lost⟩⟩
      · rw [outcome] at out
        cases out
      · rw [outcome] at out
        cases out
  · obtain ⟨depth, rfl⟩ := exists_depth follows
    have explained := exhaustive_explained tame limit made
    have explains := explained.explains
    rw [drove] at explains
    generalize journal (.exhaustive depth) body limit w = es at explained explains ⊢
    cases explains with
    | @failed front last _ u _ all ends =>
      -- the run was on a device that resumes, so a loyal body does not report a loss of power
      refine ⟨last, u, List.getLast?_concat, ends, fun loyal => ?_⟩
      obtain ⟨n, d, t, rfl, rides⟩ :=
        explained.rides last (List.mem_append_right _ (List.mem_singleton_self _))
      exact loyal.resolve_left follows n d t _ u rides ends x rfl

omit [BlockStore S R] [PowerLossAware ε] in
/-- The last of several runs, or one before it. -/
theorem mem_or_eq_of_getElem? {front : List (Entry S R κ μ ε)} {last e : Entry S R κ μ ε}
    (h : (front ++ [last])[i]? = some e) :
    e ∈ front ∨ e = last ∧ i + 1 = (front ++ [last]).length := by
  rcases Nat.lt_or_ge i front.length with before | after
  · rw [List.getElem?_append_left before] at h
    exact .inl (List.mem_of_getElem? h)
  · rw [List.getElem?_append_right after] at h
    have inside := (List.getElem?_eq_some_iff.1 h).1
    rw [List.length_singleton] at inside
    have here : i - front.length = 0 := by omega
    rw [here] at h
    refine .inr ⟨(Option.some.inj h).symm, ?_⟩
    rw [List.length_append, List.length_singleton]
    omega

/-- A failure of a run that is no loss of power comes of the scenario, and the run is the last. -/
theorem failure_stops (tame : Tame body) (made : create (configFor strategy cfg) memory = .ok w)
    {e : Entry S R κ μ ε} {u : Bench S R κ μ}
    (he : (journal strategy body limit w)[i]? = some e) (failed : e.outcome = .ok (.error x) u)
    (other : PowerLossAware.isPowerLoss x = false) :
    i + 1 = (journal strategy body limit w).length ∧
      ∃ v, (drive strategy body limit).run w = .ok (.error x) v := by
  -- the run neither loses power nor ends well, so it is none of those before the last
  have keeps : ¬ e.LosesPower := by
    rintro ⟨y, u', same, lost⟩
    cases failed.symm.trans same
    rw [other] at lost
    cases lost
  have fails : ¬ e.Passed := by
    rintro ⟨u', same⟩
    cases failed.symm.trans same
  by_cases follows : strategy.Resumes
  · rcases resumes_ends follows tame limit made with
      ⟨lost, -⟩ | ⟨front, last, report, split, lost, -, out⟩
    · exact absurd (lost e (List.mem_of_getElem? he)) keeps
    · rw [split] at he ⊢
      rcases mem_or_eq_of_getElem? he with mem | ⟨rfl, length⟩
      · exact absurd (lost e mem) keeps
      · rw [Entry.concludes, failed] at out
        exact ⟨length, u, out⟩
  · obtain ⟨depth, rfl⟩ := exists_depth follows
    have explains := (exhaustive_explained tame limit made).explains
    generalize journal (.exhaustive depth) body limit w = es at he explains ⊢
    generalize (drive (.exhaustive depth) body limit).run w = res at explains ⊢
    cases explains with
    | passed all => exact absurd (all e (List.mem_of_getElem? he)) fails
    | exceeded all => exact absurd (all e (List.mem_of_getElem? he)) fails
    | failed all ends =>
      rcases mem_or_eq_of_getElem? he with mem | ⟨rfl, length⟩
      · exact absurd (all e mem) fails
      · cases failed.symm.trans ends
        exact ⟨length, _, rfl⟩
    | halted all ends =>
      rcases mem_or_eq_of_getElem? he with mem | ⟨rfl, -⟩
      · exact absurd (all e mem) fails
      · cases failed.symm.trans ends

/-- A scenario that fails and leaves no bench has no device. -/
theorem exists_refusal_of_error
    (ran : runBody strategy cfg memory body limit = .ok ⟨.error x, none⟩) :
    ∃ f, (create (configFor strategy cfg) memory : Except _ (Bench S R κ μ)) = .error f ∧
      f ≠ .fault .powerLoss ∧ x = PowerLossAware.ofFailure f := by
  unfold runBody at ran
  split at ran
  · next f refused =>
    cases ran
    exact ⟨f, refused, create_ne_powerLoss refused, rfl⟩
  · split at ran <;> cases ran

/-- Failures of runs stop a scenario, and losses of power stay in it.

A failure that comes of a scenario says that its device could not be made, which is no loss of
power, or it is the failure of the last run, unchanged. It is no loss of power if the strategy
follows a schedule, whatever the body does; and under the exhaustive strategy if the body is loyal,
as are programs that install no callback and end in a loss of power only if told of one. A failure
of any run that is no loss of power is the failure of the scenario, and no other run follows. All
programs are tame. -/
theorem failures_surface (cfg : Config) (memory : μ) :
    (∀ (callbacks : Callbacks κ μ) (nesting : Nat) (p : Nat → Program κ μ (Except ε Unit)),
      Tame (S := S) (R := R) (fun n d => (p n).execute callbacks nesting d) ∧
        ((∀ n, (p n).Honest) →
          Loyal (S := S) (R := R) fun n d => (p n).execute callbacks nesting d)) ∧
    ∀ (strategy : Strategy) (body : Body S R κ μ ε) (limit : Nat), Tame body →
      (∀ (x : ε) (b : Option (Bench S R κ μ)),
        runBody strategy cfg memory body limit = .ok ⟨.error x, b⟩ →
          (b = none ∧ ∃ f,
            (create (configFor strategy cfg) memory : Except _ (Bench S R κ μ)) = .error f ∧
            f ≠ .fault .powerLoss ∧ x = PowerLossAware.ofFailure f) ∨
          ∃ w v last u, create (configFor strategy cfg) memory = .ok w ∧ b = some v ∧
            (journal strategy body limit w).getLast? = some last ∧
            last.outcome = .ok (.error x) u ∧
            (strategy.Resumes ∨ Loyal body → PowerLossAware.isPowerLoss x = false)) ∧
      ∀ (w : Bench S R κ μ) (i : Nat) (e : Entry S R κ μ ε) (x : ε) (u : Bench S R κ μ),
        create (configFor strategy cfg) memory = .ok w →
        (journal strategy body limit w)[i]? = some e → e.outcome = .ok (.error x) u →
        PowerLossAware.isPowerLoss x = false →
          i + 1 = (journal strategy body limit w).length ∧
            ∃ v, runBody strategy cfg memory body limit = .ok ⟨.error x, some v⟩ := by
  refine ⟨fun callbacks nesting p => ⟨tame_execute callbacks nesting p,
    loyal_execute callbacks nesting⟩, fun strategy body limit tame => ⟨?_, ?_⟩⟩
  · intro x b ran
    cases b with
    | none => exact .inl ⟨rfl, exists_refusal_of_error ran⟩
    | some v =>
      obtain ⟨w, made, drove⟩ := runBody_eq_ok.1 ran
      obtain ⟨last, u, ends, outcome, spared⟩ := failure_last tame made drove
      exact .inr ⟨w, v, last, u, made, rfl, ends, outcome, spared⟩
  · intro w i e x u made he failed other
    obtain ⟨length, v, drove⟩ := failure_stops tame made he failed other
    exact ⟨length, v, runBody_eq_ok.2 ⟨w, made, drove⟩⟩

/-- A pair of blocks that count their erases, and whose lost updates leave nothing. -/
def countedPair : Config where
  geometry := ⟨1, 1, 2, 2⟩
  eraseValue := some 0xff
  endurance := 10

/-- Erases the second block and programs the first, which it has made bad. -/
def progBad : Program Unit Unit (Except Failure Unit) :=
  .ask (.update (.erase 1)) fun x => match x with
    | .error e => .done (.error e)
    | .ok () => .ask (.markBad 0) fun _ => .ask (.update (.prog 0 0 [1, 2])) .done

/-- Programs a bad block, and has no callbacks. -/
def progsBad : Body Counted Nat Unit Unit Failure :=
  fun _ d => progBad.execute (fun _ _ => .done (.ok .resume)) 0 d

theorem honest_progBad : progBad.Honest := by
  refine ⟨trivial, fun x hx => ?_⟩
  rcases x with e | _
  · exact spared_of_failsBy hx
  · exact ⟨trivial, fun _ _ => ⟨trivial, fun y hy => spared_of_failsBy hy⟩⟩

theorem failures_surface_progsBad :
    ∃ (w v : Bench Counted Nat Unit Unit) (last : Entry Counted Nat Unit Unit Failure)
      (u : Bench Counted Nat Unit Unit) (i : Nat),
      create (configFor (.exhaustive 1) countedPair) () = .ok w ∧
      runBody (.exhaustive 1) countedPair () progsBad 1 =
        .ok ⟨.error (.fault (.corrupt 0)), some v⟩ ∧
      (journal (.exhaustive 1) progsBad 1 w)[i]? = some last ∧
      last.outcome = .ok (.error (.fault (.corrupt 0))) u ∧
      i + 1 = (journal (.exhaustive 1) progsBad 1 w).length := by
  have ends : ended (runBody (.exhaustive 1) countedPair () progsBad 1) =
      some (.error (.fault (.corrupt 0))) := by
    decide +kernel
  obtain ⟨_, ran⟩ := ended_eq_some.1 ends
  obtain ⟨programs, bodies⟩ :=
    failures_surface (S := Counted) (R := Nat) (κ := Unit) (μ := Unit) (ε := Failure)
      countedPair ()
  obtain ⟨tame, loyal⟩ := programs (fun _ _ => .done (.ok .resume)) 0 fun _ => progBad
  obtain ⟨comes, stops⟩ := bodies (.exhaustive 1) progsBad 1 tame
  rcases comes _ _ ran with ⟨none, -⟩ | ⟨w, v, last, u, made, some, final, outcome, spared⟩
  · cases none
  · cases some
    have other := spared (.inr (loyal fun _ => honest_progBad))
    rw [List.getLast?_eq_getElem?] at final
    obtain ⟨length, -⟩ := stops w _ last _ u made final outcome other
    exact ⟨w, _, last, u, _, made, ran, final, outcome, length⟩

/-- Takes the callback away, switches the countdown on, and rewrites the first block. -/
def armingAlone : Body Counted Nat Unit Unit Failure := fun _ d =>
  let alone : Program Unit Unit (Except Failure Unit) :=
    .install none (.ask (.setCountdown 1) fun _ => rewriteFirst)
  alone.execute (fun _ _ => .done (.ok .resume)) 0 d

/-- An exhaustive scenario comes to a loss of power, if the body takes the callback away. -/
theorem failures_surface_alone : ∃ b, runBody (.exhaustive 0) frayedPair () armingAlone 1 =
    .ok ⟨.error (.fault .powerLoss), b⟩ := by
  have ends : ended (runBody (.exhaustive 0) frayedPair () armingAlone 1) =
      some (.error (.fault .powerLoss)) := by
    decide +kernel
  obtain ⟨v, ran⟩ := ended_eq_some.1 ends
  exact ⟨some v, ran⟩

end Scenario

end FaultyFlash
