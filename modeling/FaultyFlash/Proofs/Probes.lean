import FaultyFlash.Proofs.Interplay

/-!
# Probes

A probe is an operation that is put between the steps of a program: before each of them, and at its
end, and in the same way into the callbacks that answer losses of power. What passes on all benches
with some property is not noticed where the steps keep that property. So a property is said to hold
all along a run, and not only at its end: no probe that passes where it holds makes a difference.

## Main definitions

* `Bench.Passes P probe`: a probe that answers, and does nothing, on benches with a property
* `Bench.insist P h`: the probe that breaks off on all other benches
* `Program.probed`, `Program.executeProbed`: a program run with a probe between its steps
* `Interplay.probed`, `Interplay.executeProbed`: likewise an interplay

## Main results

* `Bench.Lockstep.executeProbed`, `Bench.Lockstep.executeInterplayProbed`: a probe that passes where
  a relation holds makes no difference to what keeps the relation
-/

namespace FaultyFlash

variable {S R S' R' κ μ α ι : Type}

/-- A probe answers, and does nothing, on benches with a property. -/
def Bench.Passes (P : Bench S R κ μ → Prop) (probe : BenchM S R κ μ Unit) : Prop :=
  ∀ w, P w → probe.run w = .ok () w

/-- The probe that breaks off where a property fails. -/
def Bench.insist (P : Bench S R κ μ → Prop) [DecidablePred P] (h : Halt) : BenchM S R κ μ Unit :=
  fun w => if P w then .ok () w else .error h w

theorem Bench.passes_insist (P : Bench S R κ μ → Prop) [DecidablePred P] (h : Halt) :
    Passes P (insist P h) := by
  intro w hw
  exact if_pos hw

/-- A probe that passes may be run first on one of two sides. -/
theorem Coupled.probe {ε σ σ' : Type} {pre : σ → σ' → Prop} {m : EStateM ε σ α}
    {m' : EStateM ε σ' α} {probe : EStateM ε σ' Unit} {post : α → σ → σ' → Prop}
    {err : σ → σ' → Prop} (passes : ∀ s s', pre s s' → probe.run s' = .ok () s')
    (h : Coupled pre m m' post err) :
    Coupled pre m (do
      probe
      m') post err := by
  intro s s' hs
  rw [EStateM.run_bind, passes s s' hs]
  exact h s s' hs

section Runs

variable [BlockStore S R]

/-- Runs a program on the device of a handle with a probe before each step and at the end. -/
def Program.probed (probe : BenchM S R κ μ Unit) (respond : Responder S R κ μ) (d : Handle) :
    Program κ μ α → BenchM S R κ μ α
  | .done a => do
    probe
    return a
  | .ask r next => do
    probe
    (next (← Bench.perform respond d r)).probed probe respond d
  | .install callback next => do
    probe
    Bench.install d (callback.map (Handler.custom · 0))
    next.probed probe respond d
  | .getMemory next => do
    probe
    (next (← get).memory).probed probe respond d
  | .setMemory m next => do
    probe
    modify fun w => { w with memory := m }
    next.probed probe respond d

/-- Runs a program with callbacks, and a probe between the steps of all of them. -/
def Program.executeProbed (probe : BenchM S R κ μ Unit) (callbacks : Callbacks κ μ) (depth : Nat)
    (d : Handle) (p : Program κ μ α) : BenchM S R κ μ α :=
  p.probed probe (Bench.respondBy
    (fun respond code calls d => (callbacks code calls).probed probe respond d) depth) d

/-- Runs an interplay with a probe before each step and at the end. -/
def Interplay.probed (probe : BenchM S R κ μ Unit) (respond : Responder S R κ μ) :
    Interplay κ μ α → BenchM S R κ μ α
  | .done a => do
    probe
    return a
  | .ask d r next => do
    probe
    (next (← Bench.perform respond d r)).probed probe respond
  | .copy d next => do
    probe
    (next (← Bench.copy d)).probed probe respond
  | .drop d next => do
    probe
    Bench.drop d
    next.probed probe respond
  | .install d callback next => do
    probe
    Bench.install d (callback.map (Handler.custom · 0))
    next.probed probe respond
  | .getMemory next => do
    probe
    (next (← get).memory).probed probe respond
  | .setMemory m next => do
    probe
    modify fun w => { w with memory := m }
    next.probed probe respond

/-- Runs an interplay with callbacks, and a probe between the steps of all of them. -/
def Interplay.executeProbed (probe : BenchM S R κ μ Unit) (reactions : Reactions κ μ)
    (depth : Nat) (p : Interplay κ μ α) : BenchM S R κ μ α :=
  p.probed probe (Bench.respondBy
    (fun respond code calls d => (reactions code calls d).probed probe respond) depth)

end Runs

namespace Bench.Lockstep

variable [BlockStore S R] [BlockStore S' R'] {Inner : ι → ι → Prop} {H : Handle → Handle → Prop}
  {J : ι → Bench S R κ μ → Bench S' R' κ μ → Prop} {probe : BenchM S' R' κ μ Unit}
  {respond : Responder S R κ μ} {respond' : Responder S' R' κ μ} {i : ι} {d e : Handle}

/-- A probe that passes makes no difference to a program. -/
theorem probed {A : Option (Handler κ) → Prop} (L : Lockstep Inner H A (fun _ x => x) J)
    (passes : ∀ i w v, J i w v → probe.run v = .ok () v) (h : H d e)
    (hr : Respond H A J respond respond') {p : Program κ μ α}
    (hi : p.Installs fun c => A (c.map (Handler.custom · 0))) :
    Keeps (J i) (p.run respond d) (p.probed probe respond' e) := by
  induction p with
  | done a =>
    apply Coupled.probe (passes i)
    exact .answer a
  | ask r next ih =>
    apply Coupled.probe (passes i)
    have asked : Keeps (J i) (Bench.perform respond d r) (Bench.perform respond' e r) := by
      simpa only [id_map'] using L.perform (i := i) h hr r
    exact asked.bind fun x => ih x (hi x)
  | install callback next ih =>
    apply Coupled.probe (passes i)
    exact (L.install h hi.1).bind fun _ => ih hi.2
  | getMemory next ih =>
    apply Coupled.probe (passes i)
    intro w v hwv
    have run := ih w.memory (hi w.memory) w v hwv
    -- both programs go on with the memory of the first bench, which is that of the second
    show ResultsAgree _ _ (((next w.memory).run respond d).run w)
      (((next v.memory).probed probe respond' e).run v)
    rwa [← L.memory hwv]
  | setMemory m next ih =>
    apply Coupled.probe (passes i)
    exact (L.setMemory m).bind fun _ => ih hi

/-- Nor does it where losses of power are answered by programs. -/
theorem executeProbed (L : Lockstep Inner H (fun _ => True) (fun _ x => x) J)
    (passes : ∀ i w v, J i w v → probe.run v = .ok () v) (h : H d e) (callbacks : Callbacks κ μ)
    (depth : Nat) (p : Program κ μ α) :
    Keeps (J i) (p.execute callbacks depth d) (p.executeProbed probe callbacks depth e) := by
  have answers : Respond H (fun _ => True) J (Bench.respond callbacks depth) (Bench.respondBy
      (fun respond code calls d => (callbacks code calls).probed probe respond d) depth) := by
    refine L.respondBy (fun _ _ hr _ code calls d e h _ => ?_) depth
    exact L.probed passes h hr
      (Program.installs_of_forall (fun _ => trivial) (callbacks code calls))
  exact L.probed passes h answers (Program.installs_of_forall (fun _ => trivial) p)

/-- A probe that passes makes no difference to an interplay. -/
theorem interplayProbed (L : Lockstep Inner H (fun _ => True) (fun _ x => x) J)
    (passes : ∀ i w v, J i w v → probe.run v = .ok () v) (all : ∀ d, H d d)
    (copies : ∀ i d, Keeps (J i) (Bench.copy d) (Bench.copy d))
    (drops : ∀ i d, Keeps (J i) (drop d) (drop d))
    (hr : Respond H (fun _ => True) J respond respond') {p : Interplay κ μ α} :
    Keeps (J i) (p.run respond) (p.probed probe respond') := by
  induction p with
  | done a =>
    apply Coupled.probe (passes i)
    exact .answer a
  | ask d r next ih =>
    apply Coupled.probe (passes i)
    have asked : Keeps (J i) (Bench.perform respond d r) (Bench.perform respond' d r) := by
      simpa only [id_map'] using L.perform (i := i) (all d) hr r
    exact asked.bind ih
  | copy d next ih =>
    apply Coupled.probe (passes i)
    exact (copies i d).bind ih
  | drop d next ih =>
    apply Coupled.probe (passes i)
    exact (drops i d).bind fun _ => ih
  | install d callback next ih =>
    apply Coupled.probe (passes i)
    exact (L.install (all d) trivial).bind fun _ => ih
  | getMemory next ih =>
    apply Coupled.probe (passes i)
    intro w v h
    have run := ih w.memory w v h
    show ResultsAgree _ _ (((next w.memory).run respond).run w)
      (((next v.memory).probed probe respond').run v)
    rwa [← L.memory h]
  | setMemory m next ih =>
    apply Coupled.probe (passes i)
    exact (L.setMemory m).bind fun _ => ih

/-- Nor does it where losses of power are answered by interplays. -/
theorem executeInterplayProbed (L : Lockstep Inner H (fun _ => True) (fun _ x => x) J)
    (passes : ∀ i w v, J i w v → probe.run v = .ok () v) (all : ∀ d e, H d e ↔ d = e)
    (copies : ∀ i d, Keeps (J i) (Bench.copy d) (Bench.copy d))
    (drops : ∀ i d, Keeps (J i) (drop d) (drop d)) (reactions : Reactions κ μ) (depth : Nat)
    (p : Interplay κ μ α) :
    Keeps (J i) (p.execute reactions depth) (p.executeProbed probe reactions depth) := by
  have all' (d : Handle) : H d d := (all d d).2 rfl
  apply L.interplayProbed passes all' copies drops
  refine L.respondBy (fun _ _ hr _ code calls d e h _ => ?_) depth
  obtain rfl := (all d e).1 h
  exact L.interplayProbed passes all' copies drops hr

end Bench.Lockstep

end FaultyFlash
