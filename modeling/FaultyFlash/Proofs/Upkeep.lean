import FaultyFlash.Proofs.Benches
import FaultyFlash.Proofs.Frames
import FaultyFlash.Proofs.Powered

/-!
# Programs that keep a property of benches

A program that asks only some requests keeps what these keep, whatever loses power on the way. Of
the failures that it is told something may be known, and then less is to be shown of it: where no
answer can report a loss of power, its branches after such an answer do not matter.

## Main definitions

* `Upholds I m Q`: a computation keeps a property, and its answers have another
* `Program.Abides ok A F P`: a program asks only what is `ok`, and ends with results of `P`
* `Bench.Upkeep`: operations on a device keep a property of benches
* `Bench.Aside I`: what is set aside is no part of a property
* `Bench.Carries d P`: the device of a handle has a property

## Main results

* `Program.upholds`: programs keep what their requests keep
* `Bench.Upkeep.update`, `Bench.Upkeep.execute`: so do updates that lose power, and programs with
  callbacks
* `Bench.Carries.upkeep`: what the parts of requests keep of a device, they keep on a bench
-/

namespace FaultyFlash

variable {ε σ α β S R κ μ : Type}

/-- From states with the property `I` a computation that answers leads to such states, and its
answers have the property `Q`. -/
def Upholds (I : σ → Prop) (m : EStateM ε σ α) (Q : α → Prop) : Prop :=
  ∀ s a t, I s → m.run s = .ok a t → I t ∧ Q a

namespace Upholds

variable {I : σ → Prop} {Q Q' : α → Prop}

theorem pure {a : α} (h : Q a) : Upholds I (Pure.pure a : EStateM ε σ α) Q := by
  intro s b t hs run
  cases run
  exact ⟨hs, h⟩

theorem raise (e : ε) : Upholds I (throw e : EStateM ε σ α) Q := by
  intro s a t hs run
  cases run

theorem mono {m : EStateM ε σ α} (h : Upholds I m Q) (imp : ∀ a, Q a → Q' a) : Upholds I m Q' :=
  fun s a t hs run => (h s a t hs run).imp_right (imp a)

theorem bind {m : EStateM ε σ α} {k : α → EStateM ε σ β} {P : β → Prop} (hm : Upholds I m Q)
    (hk : ∀ a, Q a → Upholds I (k a) P) : Upholds I (m >>= k) P := by
  intro s b t hs run
  obtain ⟨a, u, first, rest⟩ := run_bind_eq_ok.1 run
  obtain ⟨hu, ha⟩ := hm s a u hs first
  exact hk a ha u b t hu rest

theorem get_bind {k : σ → EStateM ε σ β} {P : β → Prop} (h : ∀ s, Upholds I (k s) P) :
    Upholds I (get >>= k) P :=
  fun s b t hs run => h s s b t hs run

theorem modify {f : σ → σ} {P : PUnit → Prop} (h : ∀ s, I s → I (f s)) (hP : P ⟨⟩) :
    Upholds I (modify f : EStateM ε σ PUnit) P := by
  intro s a t hs run
  cases run
  exact ⟨h s hs, hP⟩

end Upholds

/-- Answers that fail only by `F`. -/
def FailsBy (F : Failure → Prop) (x : Except Failure α) : Prop := ∀ e, x = .error e → F e

theorem FailsBy.ok {F : Failure → Prop} (a : α) : FailsBy F (.ok a) := nofun

theorem FailsBy.error {F : Failure → Prop} {e : Failure} (h : F e) :
    FailsBy F (.error e : Except Failure α) := by
  rintro _ ⟨⟩
  exact h

/-- What never reports a loss of power fails otherwise. -/
theorem Flash.Powered.failsBy {op : FlashM S R α} (h : Powered op) (f : Flash S R) :
    FailsBy (· ≠ .fault .powerLoss) (answered op f).1 := by
  intro e same
  exact h f e _ (answered_eq_error.1 (Prod.ext same rfl))

/-- Answers of callbacks that fail only by `F`. To abort is to fail by a loss of power. -/
def Verdict.By (F : Failure → Prop) (x : Except Failure Verdict) : Prop :=
  FailsBy F x ∧ (x = .ok .abort → F (.fault .powerLoss))

/-- A program asks only what is `ok`, installs only callbacks with the property `A`, and ends with
results that have the property `P`, as long as the failures that it is told are of `F`. -/
def Program.Abides (ok : Request → Prop) (A : Option κ → Prop) (F : Failure → Prop)
    (P : α → Prop) : Program κ μ α → Prop
  | .done a => P a
  | .ask r next => ok r ∧ ∀ x, FailsBy F x → (next x).Abides ok A F P
  | .install callback next => A callback ∧ next.Abides ok A F P
  | .getMemory next => ∀ m, (next m).Abides ok A F P
  | .setMemory _ next => next.Abides ok A F P

theorem Program.Abides.mono {ok : Request → Prop} {A : Option κ → Prop} {F : Failure → Prop}
    {P P' : α → Prop} {p : Program κ μ α} (h : p.Abides ok A F P) (imp : ∀ a, P a → P' a) :
    p.Abides ok A F P' := by
  induction p with
  | done a => exact imp a h
  | ask r next ih => exact ⟨h.1, fun x hx => ih x (h.2 x hx)⟩
  | install callback next ih => exact ⟨h.1, ih h.2⟩
  | getMemory next ih => exact fun m => ih m (h m)
  | setMemory m next ih => exact ih h

variable [BlockStore S R] {ok : Request → Prop} {F : Failure → Prop}

/-- A program keeps what its requests and its callbacks keep. -/
theorem Program.upholds {A : Option κ → Prop} {P : α → Prop} {I : Bench S R κ μ → Prop}
    {respond : Responder S R κ μ} {d : Handle}
    (performs : ∀ r, ok r → Upholds I (Bench.perform respond d r) (FailsBy F))
    (installs : ∀ c, A c → Upholds I (Bench.install d (c.map (Handler.custom · 0))) fun _ => True)
    (remembers : ∀ w m, I w → I { w with memory := m }) {p : Program κ μ α}
    (h : p.Abides ok A F P) : Upholds I (p.run respond d) P := by
  induction p with
  | done a => exact .pure h
  | ask r next ih => exact (performs r h.1).bind fun x hx => ih x (h.2 x hx)
  | install callback next ih => exact (installs callback h.1).bind fun _ _ => ih h.2
  | getMemory next ih => exact .get_bind fun w => ih w.memory (h w.memory)
  | setMemory m next ih =>
    exact (Upholds.modify (P := fun _ => True) (remembers · m) trivial).bind fun _ _ => ih h

namespace Bench

open Flash (answered)

/-- Operations on a device keep a property of benches. Requests that are `ok` and the parts of
updates fail only by `F`, and the callbacks of the device have the property `A`. -/
structure Upkeep (ok : Request → Prop) (A : Option (Handler κ) → Prop) (F : Failure → Prop)
    (d : Handle) (I : Bench S R κ μ → Prop) : Prop where
  start (u : Update) : Upholds I (on d (Flash.start · u)) (FailsBy F)
  complete (worn : Bool) (u : Update) : Upholds I (on d (Flash.complete · worn u)) (FailsBy F)
  crash (u : Update) : Upholds I (on d (Flash.crash · u)) (FailsBy F)
  direct {r : Request} (h : ok r) (hr : r.isDirect) : Upholds I (on d (r.effect ·)) (FailsBy F)
  copy : Upholds I (copy d) fun _ => True
  fork (h : A (some .fork)) : Upholds I (fork d) (Verdict.By F)
  suspend : Upholds I (suspend d) fun _ => True
  discard : Upholds I discard fun _ => True
  resume : Upholds I (resume d) (FailsBy F)
  memory {w : Bench S R κ μ} (m : μ) (h : I w) : I { w with memory := m }
  callback {w : Bench S R κ μ} {r : Rig R κ} (h : I w) (hr : w.rig? d = some r) : A r.callback
  install {callback : Option (Handler κ)} (h : A callback) :
    Upholds I (install d callback) fun _ => True
  next {code : κ} {calls : Nat} (h : A (some (.custom code calls))) :
    A (some (.custom code (calls + 1)))
  /-- Without a callback a loss of power is reported. -/
  unattended (h : A none) : F (.fault .powerLoss)

/-! ## What is set aside -/

/-- What is set aside is no part of a property. -/
def Aside (I : Bench S R κ μ → Prop) : Prop :=
  ∀ (w : Bench S R κ μ) store suspended, I w →
    I { w with store := store, suspended := suspended }

namespace Aside

variable {d : Handle} {I : Bench S R κ μ → Prop} (h : Aside I)

include h

theorem suspend : Upholds I (suspend d) fun _ => True := by
  intro w x v hw run
  obtain ⟨r, -, rfl⟩ := run_suspend_eq_ok.1 run
  exact ⟨h _ _ _ hw, trivial⟩

theorem discard : Upholds I discard fun _ => True := by
  refine Upholds.modify (fun w hw => ?_) trivial
  cases w.suspended with
  | nil => exact hw
  | cons s rest => exact h _ _ _ hw

theorem resume (restore : ∀ slots generator,
      Upholds I (on d (Flash.restore · slots generator)) (FailsBy F))
    (defect : F (.defect .notSuspended)) : Upholds I (resume d) (FailsBy F) := by
  intro w x v hw run
  rw [run_resume] at run
  cases hs : w.suspended with
  | nil =>
    rw [hs] at run
    cases run
    exact ⟨hw, .error defect⟩
  | cons s rest =>
    rw [hs] at run
    exact restore s.slots s.generator _ x v (h _ w.store rest hw) run

end Aside

/-! ## Requests and programs -/

namespace Upkeep

variable {A : Option (Handler κ) → Prop} {d : Handle} {I : Bench S R κ μ → Prop}
  (K : Upkeep ok A F d I) {answer : Responder S R κ μ}

include K

theorem conclude {x : Except Failure Verdict} (h : Verdict.By F x) :
    Upholds I (conclude d x) (FailsBy F) := by
  rcases x with e | _ | _
  · exact K.discard.bind fun _ _ => .pure (.error (h.1 e rfl))
  · exact K.resume
  · exact K.discard.bind fun _ _ => .pure (.error (h.2 rfl))

/-- What is done with a device, after its callback is looked up, keeps the property. -/
theorem rig_bind {k : Rig R κ → BenchM S R κ μ α} {Q : α → Prop}
    (hk : ∀ r, A r.callback → Upholds I (k r) Q) : Upholds I (rig d >>= k) Q := by
  intro w x v hw run
  obtain ⟨r, w', looked, rest⟩ := run_bind_eq_ok.1 run
  obtain ⟨hr, rfl⟩ := run_rig_eq_ok.1 looked
  exact hk r (K.callback hw hr) _ x v hw rest

/-- A loss of power keeps the property, if its callback does. -/
theorem interrupt (hr : ∀ handler, A (some handler) → Upholds I (answer handler d) (Verdict.By F))
    (u : Update) : Upholds I (interrupt answer d u) (FailsBy F) := by
  refine K.rig_bind fun r allowed => ?_
  cases hc : r.callback with
  | none =>
    -- without a callback the loss of power is reported, which `unattended` allows
    refine (K.crash u).bind fun x hx => ?_
    rcases x with e | _
    · exact .pure hx
    · exact .pure (.error (K.unattended (hc ▸ allowed)))
  | some handler =>
    -- with one, the verdict is passed on whether or not the callback was reached
    refine K.suspend.bind fun _ _ => (K.crash u).bind fun x hx => ?_
    rcases x with e | _
    · exact K.conclude ⟨.error (hx e rfl), nofun⟩
    · exact (hr handler (hc ▸ allowed)).bind fun _ => K.conclude

theorem update (hr : ∀ handler, A (some handler) → Upholds I (answer handler d) (Verdict.By F))
    (u : Update) : Upholds I (update answer d u) (FailsBy F) := by
  refine (K.start u).bind fun how started => ?_
  rcases how with e | _ | worn | worn
  · exact .pure (.error (started e rfl))
  · exact .pure (.ok ())
  · exact K.complete worn u
  · refine (K.interrupt hr u).bind fun x hx => ?_
    rcases x with e | _
    · exact .pure (.error (hx e rfl))
    · exact K.complete worn u

theorem perform (hr : ∀ handler, A (some handler) → Upholds I (answer handler d) (Verdict.By F))
    {r : Request} (h : ok r) : Upholds I (perform answer d r) (FailsBy F) := by
  by_cases direct : r.isDirect
  · rw [perform_direct answer d direct]
    exact K.direct h direct
  cases r with
  | update u => exact K.update hr u
  | copy => exact K.copy.bind fun _ _ => .pure (.ok ())
  | _ => exact absurd rfl direct

/-- Programs that ask only what is `ok` keep the property, if callbacks do. -/
theorem program {B : Option κ → Prop} {P : α → Prop}
    (hr : ∀ handler, A (some handler) → Upholds I (answer handler d) (Verdict.By F))
    (installed : ∀ c, B c → A (c.map (Handler.custom · 0))) {p : Program κ μ α}
    (h : p.Abides ok B F P) : Upholds I (p.run answer d) P :=
  Program.upholds (fun _ => K.perform hr) (fun c hc => K.install (installed c hc))
    (fun _ m => K.memory m) h

/-- Callbacks that are such programs keep the property. -/
theorem responds {B : Option κ → Prop} {callbacks : Callbacks κ μ}
    (installed : ∀ c, B c → A (c.map (Handler.custom · 0)))
    (calls : ∀ code n, A (some (.custom code n)) →
      (callbacks code n).Abides ok B F (Verdict.By F)) (depth : Nat) :
    ∀ handler, A (some handler) →
      Upholds I (respond callbacks depth handler d) (Verdict.By F) := by
  -- by induction on how deeply callbacks may be interrupted by callbacks
  induction depth with
  | zero =>
    intro handler allowed
    cases handler with
    | ride => exact .pure ⟨.ok _, nofun⟩
    | fork => exact K.fork allowed
    | custom code n => exact .raise _
  | succ depth ih =>
    intro handler allowed
    cases handler with
    | ride => exact .pure ⟨.ok _, nofun⟩
    | fork => exact K.fork allowed
    | custom code n =>
      exact (K.install (K.next allowed)).bind fun _ _ =>
        K.program ih installed (calls code n allowed)

/-- So do programs with their callbacks. -/
theorem execute {B : Option κ → Prop} {P : α → Prop} {callbacks : Callbacks κ μ}
    (installed : ∀ c, B c → A (c.map (Handler.custom · 0)))
    (calls : ∀ code n, A (some (.custom code n)) →
      (callbacks code n).Abides ok B F (Verdict.By F)) (depth : Nat) {p : Program κ μ α}
    (h : p.Abides ok B F P) : Upholds I (p.execute callbacks depth d) P :=
  K.program (K.responds installed calls depth) installed h

end Upkeep

/-! ## Properties of one device -/

/-- The device of a handle, with its callback, has a property. -/
def Carries (d : Handle) (P : Rig R κ → Prop) (w : Bench S R κ μ) : Prop :=
  ∃ r, w.rig? d = some r ∧ P r

/-- An operation on a device keeps a property of it, and its answers have the property `Q`. -/
def Lasts (P : Rig R κ → Prop) (op : Config → FlashM S R α) (Q : Except Failure α → Prop) : Prop :=
  ∀ cfg r (f : Flash S R), f.device = r.device → P r →
    P { r with device := (answered (op cfg) f).2.device } ∧ Q (answered (op cfg) f).1

variable {A : Option (Handler κ) → Prop} {d : Handle} {P : Rig R κ → Prop}

omit [BlockStore S R] in
theorem Lasts.on {op : Config → FlashM S R α} {Q : Except Failure α → Prop} (h : Lasts P op Q)
    (d : Handle) : Upholds (Carries (μ := μ) d P) (on d op) Q := by
  rintro w x v ⟨r, hr, hP⟩ run
  rw [run_on_answered hr] at run
  cases run
  obtain ⟨kept, answers⟩ := h w.config r (w.flash r) rfl hP
  exact ⟨⟨_, rig?_settle hr _, kept⟩, answers⟩

omit [BlockStore S R] in
/-- What an operation leaves of a device keeps a property that depends on nothing else. -/
theorem Lasts.of_leaves {γ : Type} {part : Device R → γ} {op : Config → FlashM S R α}
    {Q : Except Failure α → Prop}
    (hP : ∀ (r : Rig R κ) D, part D = part r.device → P r → P { r with device := D })
    (leaves : ∀ cfg, Flash.Leaves part (op cfg)) (h : ∀ cfg f, Q (answered (op cfg) f).1) :
    Lasts P op Q := by
  rintro cfg r f same hr
  exact ⟨hP r _ (same ▸ leaves cfg f) hr, h cfg f⟩

/-- The copy of a device stands apart from it. -/
theorem Carries.copy (d : Handle) : Upholds (Carries (S := S) (μ := μ) d P) (copy d)
    fun _ => True := by
  rintro w x v ⟨r, hr, hP⟩ run
  rw [run_copy, hr] at run
  cases run
  exact ⟨⟨r, rig?_append hr _, hP⟩, trivial⟩

/-- What the parts of requests keep of one device is kept by programs that use it. -/
theorem Carries.upkeep (start : ∀ u, Lasts P (Flash.start (S := S) · u) (FailsBy F))
    (complete : ∀ worn u, Lasts P (Flash.complete (S := S) · worn u) (FailsBy F))
    (crash : ∀ u, Lasts P (Flash.crash (S := S) · u) (FailsBy F))
    (restore : ∀ slots g, Lasts P (Flash.restore (S := S) · slots g) (FailsBy F))
    (direct : ∀ r, ok r → Lasts P (r.effect (S := S) ·) (FailsBy F))
    (fork : A (some .fork) → ∀ r, P r → P { r with device := { r.device with countdown := 1 } })
    (callback : ∀ r, P r → A r.callback)
    (install : ∀ c r, A c → P r → P { r with callback := c })
    (next : ∀ code calls, A (some (.custom code calls)) → A (some (.custom code (calls + 1))))
    (unattended : A none → F (.fault .powerLoss)) (defect : F (.defect .notSuspended)) :
    Upkeep ok A F d (Carries (S := S) (μ := μ) d P) where
  start u := (start u).on d
  complete worn u := (complete worn u).on d
  crash u := (crash u).on d
  direct h _ := (direct _ h).on d
  copy := Carries.copy d
  fork allowed := by
    -- a fork is a copy, a note of its handle and a countdown of one
    refine (Carries.copy d).bind fun handle _ => ?_
    have noted : Upholds (Carries d P) (modify fun w : Bench S R κ μ =>
        { w with forks := w.forks ++ [handle] } : BenchM S R κ μ PUnit) fun _ => True :=
      .modify (fun _ hw => hw) trivial
    have rearms : Lasts P (fun _ => Flash.modifyDevice (S := S) fun dev =>
        { dev with countdown := 1 }) fun x => x = .ok () := by
      rintro cfg ⟨D, c⟩ f rfl hP
      exact ⟨fork allowed _ hP, rfl⟩
    refine noted.bind fun _ _ => (rearms.on d).bind fun x hx => ?_
    subst hx
    exact .pure ⟨.ok _, nofun⟩
  suspend := Aside.suspend fun _ _ _ h => h
  discard := Aside.discard fun _ _ _ h => h
  resume := Aside.resume (fun _ _ _ h => h) (fun slots g => (restore slots g).on d) defect
  memory _ h := h
  callback := by
    rintro w r ⟨s, hs, hP⟩ hr
    cases hs.symm.trans hr
    exact callback r hP
  install := by
    rintro c allowed w x v ⟨r, hr, hP⟩ run
    rw [run_install, hr] at run
    cases run
    exact ⟨⟨_, rig?_set hr _, install c r allowed hP⟩, trivial⟩
  next := next _ _
  unattended := unattended

end Bench

end FaultyFlash
