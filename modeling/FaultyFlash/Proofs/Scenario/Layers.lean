import FaultyFlash.Program.Run
import FaultyFlash.Proofs.Scenario.Bodies
import FaultyFlash.Proofs.Sharing.View

/-!
# Layers of exhaustive scenarios

Where nothing is shared, an exhaustive scenario that ends well went through all states that losses
of power can lead to, in the order of their trails.

## Main definitions

* `Scenario.noted p`: a body that notes the device handed to it and runs the program `p`
* `Program.solo`: a body on a device by itself
* `Report.extended`: a report after trails that were explored
* `Bench.noting`: a bench where a device was noted in the memory
* `Bench.Noted`, `Bench.Explored`: what became of a bench on which some devices were explored

## Main results

* `Scenario.layer_ok`: a layer that ends well went through all trails below it
-/

namespace FaultyFlash

open Flash (answered AlikeBy)
open Device (Clocked)

variable {S R κ μ ε : Type}

/-- A device with its countdown off. -/
def Device.stopped (D : Device Block) : Device Block := { D with countdown := 0 }

/-- A body that notes the device handed to it, by a change of the memory, and runs a program. -/
def Scenario.noted [BlockStore S R] (note : Device Block → μ → μ) (callbacks : Callbacks κ μ)
    (nesting : Nat) (p : Program κ μ (Except ε Unit)) : Scenario.Body S R κ μ ε := fun _ d => do
  modify fun w => { w with memory := (w.view d).elim w.memory (note · w.memory) }
  p.execute callbacks nesting d

/-- A memory after the devices that were handed to a body were noted in turn. -/
def Scenario.remembered (note : Device Block → μ → μ) (handed : List (Device Block)) (m : μ) : μ :=
  handed.foldl (fun m D => note D m) m

variable [PowerLossAware ε] {cfg : Config}

/-- A body on a device by itself. -/
abbrev Program.solo (cfg : Config) (m : μ) (p : Program κ μ (Except ε Unit))
    (X : Flash Plain Block) : Solo (Except ε Unit) :=
  p.alone Request.steady cfg m X

/-- The states that losses of power during a body would leave in turn. -/
abbrev Program.crashes (cfg : Config) (m : μ) (p : Program κ μ (Except ε Unit))
    (X : Flash Plain Block) : List (Flash Plain Block) :=
  (p.solo cfg m X).crashes

/-- A body ends well on a device by itself. -/
abbrev Program.EndsWell (cfg : Config) (m : μ) (p : Program κ μ (Except ε Unit))
    (X : Flash Plain Block) : Prop :=
  (p.solo cfg m X).result = .ok ()

/-- A report after a part of a scenario that went through trails below `trail`. -/
def Report.extended {σ : Type} (r : Report) (trail : List UInt32) (xs : List (List UInt32 × σ)) :
    Report where
  runs := r.runs + xs.length
  powerLosses := r.powerLosses + xs.length
  trails := r.trails ++ xs.map fun x => trail ++ x.1

namespace Report

variable {σ : Type} (r : Report) (trail : List UInt32)

theorem extended_nil : r.extended trail ([] : List (List UInt32 × σ)) = r := by
  simp [extended]

theorem extended_append (xs ys : List (List UInt32 × σ)) :
    (r.extended trail xs).extended trail ys = r.extended trail (xs ++ ys) := by
  simp [extended, Nat.add_assoc]

/-- The loss of power at a countdown, the run after it, and what is explored from there. -/
theorem extended_cons (n : UInt32) (Y : σ) (xs : List (List UInt32 × σ)) :
    ((r.addLoss (trail ++ [n])).addRun.extended (trail ++ [n]) xs) =
      r.extended trail (([n], Y) :: xs.map fun x => (n :: x.1, x.2)) := by
  simp only [extended, addLoss, addRun, List.length_cons, List.length_map, List.map_cons,
    List.map_map, List.append_assoc, Function.comp_def, List.cons_append, List.nil_append]
  rw [Nat.add_right_comm, Nat.add_right_comm r.powerLosses]
  rfl

end Report

namespace Bench

variable {imaged : Bool} {d : Handle} {X : Flash Plain Block} {u v w : Bench Plain Block κ μ}
  {P : Option (Handler κ) → Prop} {R : Device Block → Device Block → Prop}
  {ds es fs hs : List Handle} {n : UInt32} {note : Device Block → μ → μ}

/-! ## Devices that are explored -/

/-- A bench where the device of a handle was noted in the memory. -/
def noting (note : Device Block → μ → μ) (d : Handle) (v : Bench Plain Block κ μ) :
    Bench Plain Block κ μ :=
  { v with memory := (v.view d).elim v.memory (note · v.memory) }

/-- The devices that were handed to the body and noted are those of `starts`, but for their
countdowns. -/
def Noted (note : Device Block → μ → μ) (starts : List (Flash Plain Block))
    (v w : Bench Plain Block κ μ) : Prop :=
  ∃ handed, w.memory = Scenario.remembered note handed v.memory ∧
    handed.map Device.stopped = starts.map fun X => X.device.stopped

/-- Only the memory matters to what was noted. -/
theorem Noted.congr {v' w' : Bench Plain Block κ μ} {xs : List (Flash Plain Block)}
    (h : Noted note xs v w) (before : v'.memory = v.memory) (after : w'.memory = w.memory) :
    Noted note xs v' w' := by
  rw [Noted, before, after]
  exact h

theorem Noted.trans {xs ys : List (Flash Plain Block)} (h : Noted note xs u v)
    (h' : Noted note ys v w) : Noted note (xs ++ ys) u w := by
  obtain ⟨before, memory, same⟩ := h
  obtain ⟨after, memory', same'⟩ := h'
  refine ⟨before ++ after, ?_, ?_⟩
  · rw [memory', memory, Scenario.remembered, Scenario.remembered, Scenario.remembered,
      List.foldl_append]
  · rw [List.map_append, List.map_append, same, same']

/-- A part of a scenario used only the devices of some handles and their copies, and handed the
devices of `starts` to the body. -/
structure Explored (note : Device Block → μ → μ) (ds : List Handle)
    (starts : List (Flash Plain Block)) (v w : Bench Plain Block κ μ) : Prop
    extends Spares ds v w where
  forks : w.forks = []
  noted : Noted note starts v w

/-- Parts of a scenario in turn, the later on the devices of the earlier or their copies. -/
theorem Explored.trans {xs ys : List (Flash Plain Block)} (h : Explored note ds xs u v)
    (h' : Explored note es ys v w) (hds : ∀ e ∈ ds, e ∈ fs)
    (hes : ∀ e ∈ es, e ∈ fs ∨ u.rack.length ≤ e) : Explored note fs (xs ++ ys) u w where
  toSpares := h.toSpares.within h'.toSpares hds hes
  forks := h'.forks
  noted := h.noted.trans h'.noted

namespace Tracks

theorem install (h : Tracks cfg imaged R P d X v) (callback : Option (Handler κ)) :
    ∃ w, (Bench.install d callback).run v = .ok () w ∧
      Tracks cfg imaged R (· = callback) d X w ∧ Uses d v w := by
  obtain ⟨config, image, r, hr, alike, -⟩ := h
  refine ⟨{ v with rack := v.rack.set d (some { r with callback := callback }) }, ?_, ?_, ?_⟩
  · rw [run_install, hr]
  · exact ⟨config, image, _, rig?_set hr _, alike, rfl⟩
  · refine ⟨⟨rfl, rfl, rfl, Nat.le_of_eq (List.length_set ..).symm, fun {e} he _ => ?_⟩, rfl, rfl⟩
    have apart : d ≠ e := fun same => he (List.mem_singleton.2 same.symm)
    simp only [rig?, List.getElem?_set_ne apart]

/-- Giving up a device uses it alone. -/
theorem drop (h : Tracks cfg imaged R P d X v) :
    ∃ w, (Bench.drop d).run v = .ok () w ∧ Uses d v w := by
  obtain ⟨-, -, r, hr, -⟩ := h
  refine ⟨{ v with rack := v.rack.set d none }, ?_, ?_⟩
  · rw [run_drop, hr]
  · refine ⟨⟨rfl, rfl, rfl, Nat.le_of_eq (List.length_set ..).symm, fun {e} he _ => ?_⟩, rfl, rfl⟩
    have apart : d ≠ e := fun same => he (List.mem_singleton.2 same.symm)
    simp only [rig?, List.getElem?_set_ne apart]

theorem noting (h : Tracks cfg imaged R P d X v) (note : Device Block → μ → μ) :
    Tracks cfg imaged R P d X (v.noting note d) :=
  ⟨h.config, h.image, h.rig⟩

/-- What is noted of a device is the device by itself, but for the countdown. -/
theorem noted (h : Tracks cfg imaged (Clocked cfg n) P d X v) (note : Device Block → μ → μ) :
    Noted note [X] v (v.noting note d) := by
  obtain ⟨-, -, r, hr, ⟨clock, -⟩, -⟩ := h
  have seen : v.view d = some r.device := by
    rw [view, hr, Option.map_some, Device.plain_plain]
  refine ⟨[r.device], ?_, ?_⟩
  · rw [Bench.noting, seen]
    rfl
  · rw [clock]
    rfl

/-- A run of a body on a device that was armed before, and is given up after, explores the
device. -/
theorem explored {v1 v2 v3 : Bench Plain Block κ μ} (h : Tracks cfg imaged (Clocked cfg n) P d X v1)
    (armed : Uses d v v1) (none : v.forks = []) (ran : Forks d hs (v1.noting note d) v2)
    (dropped : Uses d v2 v3) :
    v3.forks = hs ∧ Explored note [d] [X] v { v3 with forks := [] } := by
  have between : Spares [d] v1 v2 :=
    ⟨ran.config, ran.image, ran.suspended, ran.length, ran.rigs⟩
  have spared := (armed.toSpares.trans between).trans dropped.toSpares
  refine ⟨?_, ⟨⟨spared.config, spared.image, spared.suspended, spared.length, spared.rigs⟩, rfl,
    ?_⟩⟩
  · rw [dropped.forks, ran.forks]
    show v1.forks ++ hs = hs
    rw [armed.forks, none, List.nil_append]
  · exact (h.noted note).congr armed.memory.symm (dropped.memory.trans ran.memory)

end Tracks

end Bench

namespace Scenario

open Bench

variable {imaged : Bool} {d : Handle} {X : Flash Plain Block} {v w : Bench Plain Block κ μ}
  {P : Option (Handler κ) → Prop} {hs : List Handle} {n k : UInt32}
  {callbacks : Callbacks κ μ} {nesting : Nat} {p : Program κ μ (Except ε Unit)}
  {note : Device Block → μ → μ} {m : μ}

/-- The devices of some handles are copies that are yet to be explored from some states. -/
abbrev Copies (cfg : Config) (imaged : Bool) (hs : List Handle) (Ys : List (Flash Plain Block))
    (w : Bench Plain Block κ μ) : Prop :=
  List.Forall₂ (fun e Y => Tracks cfg imaged (Clocked cfg 0) (· = none) e Y w) hs Ys

/-- Copies stay as they are where only others are used. -/
theorem copies_of_spares {ds : List Handle} {Ys : List (Flash Plain Block)}
    (h : Copies cfg imaged hs Ys v) (s : Spares ds v w) (apart : ∀ e ∈ hs, e ∉ ds) :
    Copies cfg imaged hs Ys w := by
  induction h with
  | nil => exact .nil
  | cons tracks _ ih =>
    refine .cons (tracks.of_spares s (apart _ List.mem_cons_self)) (ih fun e he => ?_)
    exact apart e (List.mem_cons_of_mem _ he)

omit [PowerLossAware ε] in
theorem run_noted (k : Nat) : (noted note callbacks nesting p k d).run v =
    (p.execute callbacks nesting d).run (v.noting note d) :=
  rfl

/-- A visit that ends well ran the body on the device, and left copies that were taken on the
way. -/
theorem visit_ok {handler : Handler κ} {crashes : List (Flash Plain Block)} {result : Except ε Unit}
    (body : ∀ u, Tracks cfg imaged (Clocked cfg n) (· = some handler) d X u →
      ∃ hs w Y, (p.execute callbacks nesting d).run u = .ok result w ∧
        Tracks cfg imaged (Clocked cfg n) (· = some handler) d Y w ∧ Forks d hs u w ∧
        Copies cfg imaged hs crashes w)
    (h : Tracks cfg imaged (Clocked cfg k) P d X v) (none : v.forks = []) {i : Nat}
    (run : (visit (noted note callbacks nesting p) handler n i d).run v = .ok (.ok hs) w) :
    result = .ok () ∧ Explored note [d] [X] v w ∧ Copies cfg imaged hs crashes w ∧
      hs.Nodup ∧ ∀ e ∈ hs, v.rack.length ≤ e := by
  -- the device is prepared
  obtain ⟨_, v1, installed, run⟩ := run_bind_eq_ok.1 run
  obtain ⟨_, install, h1, uses1⟩ := h.install (some handler)
  cases installed.symm.trans install
  obtain ⟨_, v2, armed, run⟩ := run_bind_eq_ok.1 run
  obtain ⟨_, arm, h2, uses2⟩ := h1.arm n
  cases armed.symm.trans arm
  have uses : Uses d v v2 := uses1.trans uses2
  -- the body runs
  obtain ⟨_, v3, ran, run⟩ := run_bind_eq_ok.1 run
  obtain ⟨es, _, Y, runs, h3, forked, copies⟩ := body _ (h2.noting note)
  rw [run_noted] at ran
  cases ran.symm.trans runs
  -- the device is given up
  obtain ⟨_, v4, dropped, run⟩ := run_bind_eq_ok.1 run
  obtain ⟨_, drop, uses4⟩ := h3.drop
  cases dropped.symm.trans drop
  obtain ⟨_, _, got, run⟩ := run_bind_eq_ok.1 run
  cases got
  obtain ⟨_, _, emptied, run⟩ := run_bind_eq_ok.1 run
  cases emptied
  obtain ⟨taken, explored⟩ := h2.explored uses none forked uses4
  cases result with
  | error e =>
    obtain ⟨_, _, -, failed⟩ := run_bind_eq_ok.1 run
    cases failed
  | ok _ =>
    cases run
    rw [taken]
    have old : ∀ e ∈ es, v.rack.length ≤ e := fun e he =>
      Nat.le_trans uses.length (forked.fresh he).1
    have spared : Spares [d] v3 { v4 with forks := [] } :=
      ⟨uses4.config, uses4.image, uses4.suspended, uses4.length, uses4.rigs⟩
    refine ⟨rfl, explored, copies_of_spares copies spared fun e he => ?_, forked.nodup, old⟩
    exact h.not_mem_of_le (old e he)

/-- What is explored by ways to explore single devices that end well only after all trails of at
most `depth` countdowns. -/
structure Explores (cfg : Config) (note : Device Block → μ → μ) (m : μ)
    (p : Program κ μ (Except ε Unit)) (depth : Nat) (trail : List UInt32) (d : Handle)
    (X : Flash Plain Block) (report report' : Report) (v w : Bench Plain Block κ μ) : Prop where
  passes : Trail.Passes (p.crashes cfg m) (p.EndsWell cfg m) depth X
  report : report' = report.addRun.extended trail (Trail.reached (p.crashes cfg m) depth X)
  explored : Explored note [d] (X :: (Trail.reached (p.crashes cfg m) depth X).map Prod.snd) v w

omit [PowerLossAware ε] in
/-- Copies that are explored in turn are explored one by one. -/
theorem explore_ok {depth : Nat}
    {layer : Handle → List UInt32 → Report → BenchM Plain Block κ μ (Except ε Report)}
    (single : ∀ trail e Y report report' v w, Tracks cfg imaged (Clocked cfg 0) (· = none) e Y v →
      v.forks = [] → (layer e trail report).run v = .ok (.ok report') w →
      Explores cfg note m p depth trail e Y report report' v w)
    {Ys : List (Flash Plain Block)} (copies : Copies cfg imaged hs Ys v) (none : v.forks = [])
    (nodup : hs.Nodup) {trail : List UInt32} {i : Nat} (start : i < UInt32.size)
    {report report' : Report}
    (run : (explore layer trail hs i report).run v = .ok (.ok report') w) :
    i + Ys.length < UInt32.size ∧
      (∀ Y ∈ Ys, Trail.Passes (p.crashes cfg m) (p.EndsWell cfg m) depth Y) ∧
      report' =
        report.extended trail (Trail.branches (Trail.reached (p.crashes cfg m) depth) Ys i) ∧
      Explored note hs
        ((Trail.branches (Trail.reached (p.crashes cfg m) depth) Ys i).map Prod.snd) v w := by
  induction hs generalizing Ys i report v with
  | nil =>
    cases copies
    cases run
    refine ⟨start, fun _ h => absurd h List.not_mem_nil, (Report.extended_nil ..).symm, .refl _ _,
      none, [], rfl, rfl⟩
  | cons e hs ih =>
    obtain ⟨Y, Ys, tracks, others, rfl⟩ := List.forall₂_cons_left_iff.1 copies
    obtain ⟨apart, nodup⟩ := List.nodup_cons.1 nodup
    unfold explore at run
    -- places that do not fit in a word are not explored
    by_cases large : UInt32.size ≤ i + 1
    · simp only [if_pos large] at run
      obtain ⟨_, _, raised, -⟩ := run_bind_eq_ok.1 run
      cases raised
    simp only [if_neg large] at run
    obtain ⟨x, v2, first, run⟩ := run_bind_eq_ok.1 run
    cases x with
    | error f =>
      obtain ⟨_, _, -, failed⟩ := run_bind_eq_ok.1 run
      cases failed
    | ok report1 =>
      -- the first copy is explored, which leaves the others as they were
      have found := single _ e Y _ _ v v2 tracks none first
      have others : Copies cfg imaged hs Ys v2 :=
        copies_of_spares others found.explored.toSpares fun h hh mem =>
          apart (List.mem_singleton.1 mem ▸ hh)
      obtain ⟨fits, passes, rfl, rest⟩ :=
        ih others found.explored.forks nodup (Nat.not_le.1 large) run
      refine ⟨?_, ?_, ?_, ?_⟩
      · rw [List.length_cons]
        omega
      · intro Z hZ
        rcases List.mem_cons.1 hZ with rfl | hZ
        · exact found.passes
        · exact passes Z hZ
      · rw [found.report, Trail.branches]
        have place : (i + 1).toUInt32 = Trail.place i := rfl
        rw [place, Report.extended_cons _ _ _ Y, Report.extended_append]
      · rw [Trail.branches, List.map_append, List.map_cons, List.map_map]
        exact found.explored.trans rest (fun h hh => List.mem_singleton.1 hh ▸ List.mem_cons_self)
          fun h hh => .inl (List.mem_cons_of_mem _ hh)

theorem respond_fork (callbacks : Callbacks κ μ) (nesting : Nat) (d : Handle) :
    respond (S := Plain) callbacks nesting .fork d = Bench.fork d := by
  cases nesting <;> rfl

/-- A layer that ends well went through all trails below it. -/
theorem layer_ok (able : cfg.Able) (hp : p.WellBehaved) (depth : Nat) {trail : List UInt32}
    {report report' : Report} (h : Tracks cfg imaged (Clocked cfg 0) (· = none) d X v)
    (none : v.forks = [])
    (run : (layer (noted note callbacks nesting p) depth d trail report).run v =
      .ok (.ok report') w) :
    Explores cfg note m p depth trail d X report report' v w := by
  induction depth generalizing X v d trail report report' w with
  | zero =>
    obtain ⟨x, v1, visited, run⟩ := run_bind_eq_ok.1 run
    cases x with
    | error e => cases run
    | ok hs =>
      cases run
      -- at the bottom the countdown is off, and nothing is copied
      have body (u : Bench Plain Block κ μ)
          (hu : Tracks cfg imaged (Clocked cfg 0) (· = some .ride) d X u) :
          ∃ hs w Y, (p.execute callbacks nesting d).run u = .ok (p.solo cfg m X).result w ∧
            Tracks cfg imaged (Clocked cfg 0) (· = some .ride) d Y w ∧ Forks d hs u w ∧
            Copies cfg imaged hs [] w := by
        obtain ⟨w, run, tracks, uses⟩ :=
          hu.program (fun r hr => Request.agrees_clocked cfg 0 hr) (respond callbacks nesting) m
            hp.asks hp.blind
        exact ⟨[], w, _, run, tracks, uses.forking, .nil⟩
      obtain ⟨well, explored, -⟩ := visit_ok body h none visited
      exact ⟨well, (Report.extended_nil ..).symm, explored⟩
  | succ depth ih =>
    obtain ⟨x, v1, visited, run⟩ := run_bind_eq_ok.1 run
    cases x with
    | error e => cases run
    | ok hs =>
      -- further up the device is copied at every update, as each loses power
      have body (u : Bench Plain Block κ μ)
          (hu : Tracks cfg imaged (Clocked cfg 1) (· = some .fork) d X u) :
          ∃ hs w Y, (p.execute callbacks nesting d).run u = .ok (p.solo cfg m X).result w ∧
            Tracks cfg imaged (Clocked cfg 1) (· = some .fork) d Y w ∧ Forks d hs u w ∧
            Copies cfg imaged hs (p.crashes cfg m X) w := by
        obtain ⟨hs, w, run, tracks, forks, copies⟩ :=
          hu.forking able hp.asks hp.blind (respond_fork callbacks nesting d) m
        exact ⟨hs, w, _, run, tracks, forks, copies⟩
      obtain ⟨well, explored, copies, nodup, fresh⟩ := visit_ok body h none visited
      obtain ⟨small, passes, report, rest⟩ := explore_ok
        (fun trail e Y report report' v w tracks none run => ih tracks none run) copies
        explored.forks nodup (by decide) run
      rw [Nat.zero_add] at small
      refine ⟨⟨well, small, passes⟩, report, explored.trans rest (fun _ => id) fun e he => ?_⟩
      exact .inr (fresh e he)

end Scenario

end FaultyFlash
