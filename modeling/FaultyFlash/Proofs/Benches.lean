import FaultyFlash.Program.Run
import FaultyFlash.Proofs.Lockstep

/-!
# Benches in lockstep

Two benches are compared through a relation between them. If the operations on single devices
answer alike and keep the relation, so do requests, through any losses of power and the callbacks
that answer them, and so do programs.

Answers may be compared only as far as they are seen: what a program does not look at need not
agree.

## Main definitions

* `Program.Blind seen p`, `Program.Installs A p`: how a program looks at its answers, and which
  callbacks it installs
* `Bench.Lockstep Inner H A seen J`: operations on devices related by `H` keep the relation `J`

## Main results

* `Bench.Lockstep.interrupt`, `Bench.Lockstep.perform`, `Bench.Lockstep.respondBy`: losses of power,
  requests and callbacks keep the relation
* `Bench.Lockstep.program`, `Bench.Lockstep.execute`: so do programs, and programs with callbacks
-/

namespace FaultyFlash

/-- Ways to look at answers. -/
abbrev Seen := (r : Request) → Except Failure r.Answer → Except Failure r.Answer

/-- A program looks at its answers only through `seen`. -/
def Program.Blind {κ μ α : Type} (seen : Seen) : Program κ μ α → Prop
  | .done _ => True
  | .ask r next => (∀ x, next x = next (seen r x)) ∧ ∀ x, (next x).Blind seen
  | .install _ next => next.Blind seen
  | .getMemory next => ∀ m, (next m).Blind seen
  | .setMemory _ next => next.Blind seen

/-- A program installs only callbacks with the property `A`. -/
def Program.Installs {κ μ α : Type} (A : Option κ → Prop) : Program κ μ α → Prop
  | .done _ => True
  | .ask _ next => ∀ x, (next x).Installs A
  | .install callback next => A callback ∧ next.Installs A
  | .getMemory next => ∀ m, (next m).Installs A
  | .setMemory _ next => next.Installs A

/-- A program that sees all of its answers looks at them as they are. -/
theorem Program.blind_id {κ μ α : Type} (p : Program κ μ α) : p.Blind fun _ x => x := by
  induction p with
  | done a => exact trivial
  | ask r next ih => exact ⟨fun _ => rfl, ih⟩
  | install callback next ih => exact ih
  | getMemory next ih => exact ih
  | setMemory m next ih => exact ih

/-- What looks at answers only through `seen` looks at them only through what `seen` does not look
past. -/
theorem Program.Blind.mono {κ μ α : Type} {seen seen' : Seen} {p : Program κ μ α}
    (h : p.Blind seen) (past : ∀ r x, seen r (seen' r x) = seen r x) : p.Blind seen' := by
  induction p with
  | done a => exact trivial
  | ask r next ih =>
    obtain ⟨blind, rest⟩ := h
    exact ⟨fun x => by rw [blind (seen' r x), past, ← blind], fun x => ih x (rest x)⟩
  | install callback next ih => exact ih h
  | getMemory next ih => exact fun m => ih m (h m)
  | setMemory m next ih => exact ih h

theorem Program.installs_of_forall {κ μ α : Type} {A : Option κ → Prop} (h : ∀ c, A c)
    (p : Program κ μ α) : p.Installs A := by
  induction p with
  | done a => exact trivial
  | ask r next ih => exact ih
  | install callback next ih => exact ⟨h callback, ih⟩
  | getMemory next ih => exact ih
  | setMemory m next ih => exact ih

namespace Bench

variable {S R S' R' κ μ α ι : Type} [BlockStore S R] [BlockStore S' R']

/-- Operations that answer alike and keep a relation between benches, unless they halt. -/
abbrev Keeps (J : Bench S R κ μ → Bench S' R' κ μ → Prop) (m : BenchM S R κ μ α)
    (m' : BenchM S' R' κ μ α) : Prop :=
  Coupled J m m' (fun _ => J) fun _ _ => True

/-- The operations on devices related by `H`, whose callbacks have the property `A`, keep a relation
between benches, and they answer alike as far as it is seen. The relation is indexed: `Inner i j`
says that `j` is where a state was set aside at `i`. -/
structure Lockstep (Inner : ι → ι → Prop) (H : Handle → Handle → Prop)
    (A : Option (Handler κ) → Prop) (seen : Seen)
    (J : ι → Bench S R κ μ → Bench S' R' κ μ → Prop) : Prop where
  start {i : ι} {d e : Handle} (h : H d e) (u : Update) :
    Keeps (J i) (on d (Flash.start · u)) (on e (Flash.start · u))
  complete {i : ι} {d e : Handle} (h : H d e) (worn : Bool) (u : Update) :
    Keeps (J i) (on d (Flash.complete · worn u)) (on e (Flash.complete · worn u))
  crash {i : ι} {d e : Handle} (h : H d e) (u : Update) :
    Keeps (J i) (on d (Flash.crash · u)) (on e (Flash.crash · u))
  direct {i : ι} {d e : Handle} (h : H d e) {r : Request} (hr : r.isDirect)
    (respond : Responder S R κ μ) (respond' : Responder S' R' κ μ) :
    Keeps (J i) (seen r <$> perform respond d r) (seen r <$> perform respond' e r)
  callback {i : ι} {w : Bench S R κ μ} {v : Bench S' R' κ μ} {d e : Handle} (h : H d e)
    (hwv : J i w v) : (w.rig? d).map Rig.callback = (v.rig? e).map Rig.callback
  allowed {i : ι} {w : Bench S R κ μ} {v : Bench S' R' κ μ} {d e : Handle} {r : Rig R κ} (h : H d e)
    (hwv : J i w v) (hr : w.rig? d = some r) : A r.callback
  next {code : κ} {calls : Nat} (h : A (some (.custom code calls))) :
    A (some (.custom code (calls + 1)))
  /-- Missing devices are missed under one name. -/
  missing {i : ι} {w : Bench S R κ μ} {v : Bench S' R' κ μ} {d e : Handle} (h : H d e)
    (hwv : J i w v) (hd : w.rig? d = none) : d = e
  install {i : ι} {d e : Handle} (h : H d e) {callback : Option (Handler κ)} (hA : A callback) :
    Keeps (J i) (install d callback) (install e callback)
  /-- The handles of copies are not told. -/
  copy {i : ι} {d e : Handle} (h : H d e) (respond : Responder S R κ μ)
    (respond' : Responder S' R' κ μ) :
    Keeps (J i) (perform respond d .copy) (perform respond' e .copy)
  fork {i : ι} {d e : Handle} (h : H d e) : Keeps (J i) (fork d) (fork e)
  suspend {i : ι} {d e : Handle} (h : H d e) :
    Coupled (J i) (suspend d) (suspend e) (fun _ w v => ∃ j, Inner i j ∧ J j w v) fun _ _ => True
  discard {i j : ι} (hij : Inner i j) :
    Coupled (J j) discard discard (fun _ => J i) fun _ _ => True
  resume {i j : ι} {d e : Handle} (h : H d e) (hij : Inner i j) :
    Coupled (J j) (resume d) (resume e) (fun _ => J i) fun _ _ => True
  memory {i : ι} {w : Bench S R κ μ} {v : Bench S' R' κ μ} (h : J i w v) : w.memory = v.memory
  setMemory {i : ι} (m : μ) : Keeps (J i) (modify fun w => { w with memory := m })
    (modify fun w => { w with memory := m })

/-- Responders that answer alike for devices related by `H` and handlers with the property `A`. -/
abbrev Respond (H : Handle → Handle → Prop) (A : Option (Handler κ) → Prop)
    (J : ι → Bench S R κ μ → Bench S' R' κ μ → Prop) (respond : Responder S R κ μ)
    (respond' : Responder S' R' κ μ) : Prop :=
  ∀ i handler d e, H d e → A (some handler) → Keeps (J i) (respond handler d) (respond' handler e)

namespace Lockstep

variable {Inner : ι → ι → Prop} {H : Handle → Handle → Prop} {A : Option (Handler κ) → Prop}
  {seen : Seen} {J : ι → Bench S R κ μ → Bench S' R' κ μ → Prop} (L : Lockstep Inner H A seen J)
  {respond : Responder S R κ μ} {respond' : Responder S' R' κ μ} {i : ι} {d e : Handle}

include L

/-! ## Losses of power -/

theorem conclude {j : ι} (h : H d e) (hij : Inner i j) (x : Except Failure Verdict) :
    Coupled (J j) (conclude d x) (conclude e x) (fun _ => J i) fun _ _ => True := by
  cases x with
  | error e => exact (L.discard hij).bind fun _ => .answer _
  | ok verdict =>
    cases verdict with
    | resume => exact L.resume h hij
    | abort => exact (L.discard hij).bind fun _ => .answer _

/-- The callbacks of the devices are looked up alike. -/
theorem rig_bind (h : H d e) {k : Rig R κ → BenchM S R κ μ α} {k' : Rig R' κ → BenchM S' R' κ μ α}
    (hk : ∀ r r', r.callback = r'.callback → A r'.callback → Keeps (J i) (k r) (k' r')) :
    Keeps (J i) (rig d >>= k) (rig e >>= k') := by
  intro w v hwv
  have callbacks := L.callback h hwv
  rw [EStateM.run_bind, EStateM.run_bind, run_rig, run_rig]
  cases hr : w.rig? d with
  | none =>
    cases hr' : v.rig? e with
    | none => exact ⟨congrArg Halt.noDevice (L.missing h hwv hr), trivial⟩
    | some r' => simp [hr, hr'] at callbacks
  | some r =>
    cases hr' : v.rig? e with
    | none => simp [hr, hr'] at callbacks
    | some r' =>
      rw [hr, hr', Option.map_some, Option.map_some, Option.some.injEq] at callbacks
      exact hk r r' callbacks (callbacks ▸ L.allowed h hwv hr) w v hwv

theorem interrupt (h : H d e) (hr : Respond H A J respond respond') (u : Update) :
    Keeps (J i) (interrupt respond d u) (interrupt respond' e u) := by
  refine L.rig_bind h fun r r' same allowed => ?_
  rw [same]
  cases hc : r'.callback with
  | none =>
    refine (L.crash h u).bind fun x => ?_
    cases x <;> exact .answer _
  | some handler =>
    -- from here to the verdict the benches are related at `j`, where one state more is set aside
    refine (L.suspend h).bind fun _ w v ⟨j, hij, hwv⟩ => ?_
    refine ((L.crash h u).bind fun x => ?_) w v hwv
    cases x with
    | error e => exact L.conclude h hij _
    | ok _ => exact (hr j handler d e h (hc ▸ allowed)).bind (L.conclude h hij)

theorem update (h : H d e) (hr : Respond H A J respond respond') (u : Update) :
    Keeps (J i) (update respond d u) (update respond' e u) := by
  refine (L.start h u).bind fun started => ?_
  cases started with
  | error e => exact .answer _
  | ok how =>
    cases how with
    | ignored => exact .answer _
    | proceed worn => exact L.complete h worn u
    | powerLost worn =>
      refine (L.interrupt h hr u).bind fun x => ?_
      cases x with
      | error e => exact .answer _
      | ok _ => exact L.complete h worn u

/-! ## Requests and programs -/

theorem perform (h : H d e) (hr : Respond H A J respond respond') (r : Request) :
    Keeps (J i) (seen r <$> perform respond d r) (seen r <$> perform respond' e r) := by
  by_cases direct : r.isDirect
  · exact L.direct h direct respond respond'
  · cases r with
    | update u => exact Coupled.map _ (L.update h hr u)
    | copy => exact Coupled.map _ (L.copy h respond respond')
    | _ => cases direct rfl

/-- Handlers answer alike if their callbacks do. -/
theorem respondBy
    {call : Responder S R κ μ → κ → Nat → Handle → BenchM S R κ μ (Except Failure Verdict)}
    {call' : Responder S' R' κ μ → κ → Nat → Handle → BenchM S' R' κ μ (Except Failure Verdict)}
    (hc : ∀ respond respond', Respond H A J respond respond' → ∀ i code calls d e, H d e →
      A (some (.custom code calls)) →
        Keeps (J i) (call respond code calls d) (call' respond' code calls e)) (depth : Nat) :
    Respond H A J (respondBy call depth) (Bench.respondBy call' depth) := by
  induction depth with
  | zero =>
    intro i handler d e h allowed
    cases handler with
    | ride => exact .answer _
    | fork => exact L.fork h
    | custom code calls => exact Coupled.raise _ fun _ _ _ => trivial
  | succ depth ih =>
    intro i handler d e h allowed
    cases handler with
    | ride => exact .answer _
    | fork => exact L.fork h
    | custom code calls =>
      -- calls nested in this one are answered by the responder for one level less
      exact (L.install h (L.next allowed)).bind fun _ => hc _ _ ih i code calls d e h allowed

/-- A program that looks at its answers as far as they agree runs alike. -/
theorem program (h : H d e) (hr : Respond H A J respond respond') {p : Program κ μ α}
    (hp : p.Blind seen) (hi : p.Installs fun c => A (c.map (Handler.custom · 0))) :
    Keeps (J i) (p.run respond d) (p.run respond' e) := by
  induction p with
  | done a => exact .answer a
  | ask r next ih =>
    obtain ⟨blind, rest⟩ := hp
    -- the answer may be replaced by what is seen of it, which is the same on both benches
    have seenOnly {S R : Type} [BlockStore S R] (respond : Responder S R κ μ) (d : Handle) :
        (Program.ask r next).run respond d =
          (seen r <$> Bench.perform respond d r) >>= fun x => (next x).run respond d := by
      rw [map_eq_pure_bind, bind_assoc]
      simp only [pure_bind, Program.run, ← blind]
    rw [seenOnly, seenOnly]
    exact (L.perform h hr r).bind fun x => ih x (rest x) (hi x)
  | install callback next ih => exact (L.install h hi.1).bind fun _ => ih hp hi.2
  | getMemory next ih =>
    intro w v hwv
    have run := ih w.memory (hp w.memory) (hi w.memory) w v hwv
    -- the second program reads its own memory, which is the same
    show ResultsAgree _ _ (((next w.memory).run respond d).run w)
      (((next v.memory).run respond' e).run v)
    rwa [← L.memory hwv]
  | setMemory m next ih => exact (L.setMemory m).bind fun _ => ih hp hi

/-- Callbacks that are such programs answer losses of power alike. -/
theorem callbacks {callbacks : Callbacks κ μ}
    (hc : ∀ code calls, A (some (.custom code calls)) → (callbacks code calls).Blind seen ∧
      (callbacks code calls).Installs fun c => A (c.map (Handler.custom · 0))) (depth : Nat) :
    Respond H A J (Bench.respond callbacks depth) (Bench.respond callbacks depth) := by
  show Respond H A J (Bench.respondBy (fun respond c n d => (callbacks c n).run respond d) _)
    (Bench.respondBy (fun respond c n d => (callbacks c n).run respond d) _)
  refine L.respondBy (fun _ _ hr i code calls d e h allowed => ?_) depth
  exact L.program h hr (hc code calls allowed).1 (hc code calls allowed).2

end Lockstep

/-- Where any callback is allowed, a program with callbacks runs alike. -/
theorem Lockstep.execute {Inner : ι → ι → Prop} {H : Handle → Handle → Prop} {seen : Seen}
    {J : ι → Bench S R κ μ → Bench S' R' κ μ → Prop}
    (L : Lockstep Inner H (fun _ => True) seen J) {i : ι} {d e : Handle} (h : H d e)
    {callbacks : Callbacks κ μ} (hc : ∀ code calls, (callbacks code calls).Blind seen)
    (depth : Nat) {p : Program κ μ α} (hp : p.Blind seen) :
    Keeps (J i) (p.execute callbacks depth d) (p.execute callbacks depth e) :=
  L.program h (L.callbacks (fun code calls _ =>
    ⟨hc code calls, Program.installs_of_forall (fun _ => trivial) _⟩) depth) hp
      (Program.installs_of_forall (fun _ => trivial) p)

end Bench

end FaultyFlash
