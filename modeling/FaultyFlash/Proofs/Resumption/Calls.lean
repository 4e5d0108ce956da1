import FaultyFlash.Proofs.Containment.OutOfOrder
import FaultyFlash.Proofs.Renaming.Benches
import FaultyFlash.Proofs.Sharing.Isolation
import FaultyFlash.Proofs.Unattended

/-!
# What a callback sees

When power is lost, the blocks and the generator of the device are set aside before the crash, and
the callback is called after it. The crash then changes blocks that are held twice. Still it leaves
the device as it leaves one without a callback, and that is what the callback sees. If it does
nothing and aborts, nobody can tell that it was there.

## Main definitions

* `Bench.bared`: a bench on which a device has lost its callback
* `Bench.Called`: the bench on which a callback is called
* `Callbacks.Abort`: callbacks that do nothing and abort
* `Bench.Idle`: benches of which one has such a callback, and the other has none
* `Bench.Unnoticed`: besides, their blocks may go by different names

## Main results

* `Bench.called_iff`: when a callback is called
* `Bench.called_of_lost`, `Bench.lost_of_called`: what it sees is what is left without it
* `Bench.callback_sees`: a callback sees the crash, and no program notices one that aborts
-/

namespace FaultyFlash

open Flash (answered)

variable {S R κ μ α β : Type} {σ : Nat → Nat}

namespace Bench

/-- The bench without the callback of a device, which is `r`. -/
def bared (w : Bench S R κ μ) (d : Handle) (r : Rig R κ) : Bench S R κ μ :=
  { w with rack := w.rack.set d (some { r with callback := none }) }

section

variable {w v : Bench S R κ μ} {d : Handle} {r : Rig R κ}

theorem run_install_none (hr : w.rig? d = some r) :
    (install d none).run w = .ok () (w.bared d r) := by
  rw [run_install, hr]
  rfl

theorem bared_set (w : Bench S R κ μ) (x : Option (Rig R κ)) (r : Rig R κ) :
    bared { w with rack := w.rack.set d x } d r = w.bared d r := by
  simp only [bared, List.set_set]

theorem rig?_bared (hr : w.rig? d = some r) :
    (w.bared d r).rig? d = some { r with callback := none } :=
  rig?_set hr _

theorem settle_bared (f : Flash S R) :
    (w.bared d r).settle d { r with callback := none } f =
      (w.settle d r f).bared d { r with device := f.device } := by
  simp only [settle, bared, List.set_set]

/-- An operation on a device does not look at its callback. -/
theorem run_on_bared (hr : w.rig? d = some r) (op : Config → FlashM S R α) :
    (on d op).run (w.bared d r) = .ok (answered (op w.config) (w.flash r)).1
      ((w.settle d r (answered (op w.config) (w.flash r)).2).bared d
        { r with device := (answered (op w.config) (w.flash r)).2.device }) := by
  rw [run_on_answered (rig?_bared hr), settle_bared]
  rfl

theorem run_on_bared_eq_ok (hr : w.rig? d = some r) {op : Config → FlashM S R α}
    {x : Except Failure α} : (on d op).run (w.bared d r) = .ok x v ↔
      ∃ f, (on d op).run w = .ok x (w.settle d r f) ∧
        (w.settle d r f).bared d { r with device := f.device } = v := by
  rw [run_on_bared hr, run_on_answered hr]
  constructor
  · rintro ⟨⟩
    exact ⟨_, rfl, rfl⟩
  · rintro ⟨f, ran, rfl⟩
    obtain ⟨rfl, same⟩ := EStateM.Result.ok.inj ran
    have device := congrArg (·.rig? d) same
    simp only [rig?_settle hr, Option.some.injEq] at device
    rw [same, device]

variable [BlockStore S R] {u : Update} {handler : Handler κ}

/-- What is left to do of an update that lost power, after the verdict took effect. -/
def goOn (d : Handle) (worn : Bool) (u : Update) :
    Except Failure Unit → BenchM S R κ μ (Except Failure Unit)
  | .error e => return .error e
  | .ok () => on d (Flash.complete · worn u)

/-- What comes of an update whose loss of power is answered by the handler. -/
def answerLoss (respond : Responder S R κ μ) (handler : Handler κ) (d : Handle) (worn : Bool)
    (u : Update) : BenchM S R κ μ (Except Failure Unit) := do
  let verdict ← respond handler d
  goOn d worn u (← conclude d verdict)

/-- Nobody answers losses of power. -/
def nobody : Responder S R κ μ := fun _ _ => throw .exhausted

/-- An update loses power, and the handler is called on the bench `v`: whoever it may be who answers
for it, he is asked there. -/
def Called (d : Handle) (u : Update) (handler : Handler κ) (w v : Bench S R κ μ) : Prop :=
  ∃ worn, ∀ respond : Responder S R κ μ, (perform respond d (.update u)).run w =
    (answerLoss respond handler d worn u).run v

/-- After its start, an update that loses power is interrupted, and goes on by what comes of
that. -/
theorem run_update (respond : Responder S R κ μ) {worn : Bool}
    (started : (on d (Flash.start · u)).run w = .ok (.ok (.powerLost worn)) v) :
    (update respond d u).run w = (interrupt respond d u >>= goOn d worn u).run v := by
  rw [update, EStateM.run_bind, started]
  simp only [EStateM.run_bind]
  rcases (interrupt respond d u).run v with ⟨_ | _, t⟩ | ⟨e, t⟩ <;> rfl

/-- With a callback the state is set aside and the device crashes. Then the handler is asked. -/
theorem run_interrupt (hr : w.rig? d = some r) (hc : r.callback = some handler)
    (respond : Responder S R κ μ) {w2 : Bench S R κ μ} (suspended : (suspend d).run w = .ok () w2)
    (crashed : (on d (Flash.crash · u)).run w2 = .ok (.ok ()) v) :
    (interrupt respond d u).run w = (respond handler d >>= conclude d).run v := by
  rw [interrupt, EStateM.run_bind, run_rig, hr]
  simp only [hc, EStateM.run_bind, suspended, crashed]

/-- If the crash fails otherwise, nobody is asked. -/
theorem run_interrupt_failed (hr : w.rig? d = some r) (hc : r.callback = some handler)
    (respond : Responder S R κ μ) {w2 : Bench S R κ μ} {e : Failure}
    (suspended : (suspend d).run w = .ok () w2)
    (crashed : (on d (Flash.crash · u)).run w2 = .ok (.error e) v) :
    (interrupt respond d u).run w = (conclude d (.error e)).run v := by
  rw [interrupt, EStateM.run_bind, run_rig, hr]
  simp only [hc, EStateM.run_bind, suspended, crashed]

/-- Without a callback the loss of power is reported, if nothing else failed. -/
theorem run_interrupt_bare (hr : w.rig? d = some r) (bare : r.callback = none)
    (respond : Responder S R κ μ) {x : Except Failure Unit}
    (crashed : (on d (Flash.crash · u)).run w = .ok x v) :
    (interrupt respond d u).run w = .ok (x >>= fun _ => .error (.fault .powerLoss)) v := by
  rw [interrupt, EStateM.run_bind, run_rig, hr]
  simp only [bare, EStateM.run_bind, crashed]
  cases x <;> rfl

/-- The bench on which the state of a device is set aside, which is `r`. -/
def aside (w : Bench S R κ μ) (r : Rig R κ) : Bench S R κ μ :=
  { w with
    store := BlockStore.retainAll w.store r.device.slots
    suspended := ⟨r.device.slots, r.device.generator⟩ :: w.suspended }

theorem run_suspend_aside (hr : w.rig? d = some r) :
    (suspend d).run w = .ok () (w.aside r) := by
  rw [run_suspend, hr]
  rfl

/-- A device that is set aside stays there. -/
theorem rig?_aside (hr : w.rig? d = some r) : (w.aside r).rig? d = some r := hr

/-- A handler is called after the state was set aside and the device has crashed. -/
theorem called_iff (hr : w.rig? d = some r) (hc : r.callback = some handler) :
    Called d u handler w v ↔ ∃ worn w1 w2,
      (on d (Flash.start · u)).run w = .ok (.ok (.powerLost worn)) w1 ∧
      (suspend d).run w1 = .ok () w2 ∧ (on d (Flash.crash · u)).run w2 = .ok (.ok ()) v := by
  constructor
  · rintro ⟨worn, called⟩
    -- if nobody answers, the update gets stuck where somebody would be asked
    have stuck : (update nobody d u).run w = .error .exhausted v := by
      have asked : (update nobody d u).run w = (answerLoss nobody handler d worn u).run v :=
        called nobody
      rw [asked]
      rfl
    have started := run_on_answered hr (Flash.start · u)
    have there := rig?_settle hr (answered (Flash.start w.config u) (w.flash r)).2
    rcases how : (answered (Flash.start w.config u) (w.flash r)).1 with e | _ | worn' | worn'
    all_goals rw [how] at started
    · rw [update, EStateM.run_bind, started] at stuck
      cases stuck
    · rw [update, EStateM.run_bind, started] at stuck
      cases stuck
    · rw [update, EStateM.run_bind, started] at stuck
      simp only [run_on_answered there] at stuck
      cases stuck
    · have suspended := run_suspend_aside there
      obtain ⟨lost, w3, crashed⟩ : ∃ lost w3,
          (on d (Flash.crash · u)).run (aside _ _) = .ok lost w3 :=
        ⟨_, _, run_on_answered (rig?_aside there) (Flash.crash · u)⟩
      rw [run_update nobody started, EStateM.run_bind] at stuck
      rcases lost with e | _
      · rw [run_interrupt_failed there hc nobody suspended crashed] at stuck
        cases stuck
      · rw [run_interrupt there hc nobody suspended crashed] at stuck
        cases stuck
        exact ⟨worn', _, _, started, suspended, crashed⟩
  · rintro ⟨worn, w1, w2, started, suspended, crashed⟩
    refine ⟨worn, fun respond => ?_⟩
    obtain ⟨f, -, rfl⟩ := on_ok hr started
    show (update respond d u).run w = _
    rw [run_update respond started, EStateM.run_bind,
      run_interrupt (rig?_settle hr f) hc respond suspended crashed, answerLoss]
    simp only [EStateM.run_bind]
    rcases (respond handler d).run v with ⟨x, t⟩ | ⟨e, t⟩ <;> rfl

/-- The device is still there when its handler is called. -/
theorem rig?_of_called (hr : w.rig? d = some r) (hc : r.callback = some handler)
    (called : Called d u handler w v) : ∃ s, v.rig? d = some s := by
  obtain ⟨_, w1, w2, started, suspended, crashed⟩ := (called_iff hr hc).1 called
  obtain ⟨f, -, rfl⟩ := on_ok hr started
  have there := rig?_aside (rig?_settle hr f)
  cases suspended.symm.trans (run_suspend_aside (rig?_settle hr f))
  obtain ⟨g, -, rfl⟩ := on_ok there crashed
  exact ⟨_, rig?_settle there g⟩

end

/-! ## The crash and its copy set aside -/

section

variable {w v : Bench Counted Nat κ μ} {d : Handle} {r : Rig Nat κ} {u : Update}
  {handler : Handler κ}

/-- The references on a bench are counted as before where a device has lost its callback. -/
theorem seen_bared (h : SeenAs w w.plain) (hr : w.rig? d = some r) :
    SeenAs (w.bared d r) (w.bared d r).plain :=
  ((Alike.install d none).run_plain h (run_install_none hr)).2

/-- A crash leaves a device whose state is set aside as it leaves one without a callback, whose
state is not. That one changes blocks in place which are duplicated here, as they are held
twice. -/
theorem crash_aside (hr : w.rig? d = some r) (h : Renamed σ (w.bared d r) v) (u : Update) :
    ∃ x f q g, v.rig? d = some q ∧ q.rename σ = { r with callback := none } ∧
      (on d (Flash.crash · u)).run (w.aside r) = .ok x ((w.aside r).settle d r f) ∧
      (on d (Flash.crash · u)).run v = .ok x (v.settle d q g) ∧
      Flash.Alias (v.others d) (fun b => r.device.slots.count (some b)) σ f g := by
  obtain ⟨q, hq, named⟩ := Option.map_eq_some_iff.1 ((h.rig? d).symm.trans (rig?_bared hr))
  have config : (w.aside r).config = v.config := by
    have named := congrArg Bench.config h.named
    exact named
  have flash := h.flash hq
  rw [named] at flash
  obtain ⟨answer, left⟩ := Flash.answered_of_preserves
    ((Flash.Alias.lockstep v.config ..).crash u) (Flash.Alias.beside ⟨σ, fun _ _ => rfl, flash⟩)
  have crashed := run_on_answered (rig?_aside hr) (Flash.crash · u)
  rw [config] at crashed
  refine ⟨_, _, q, _, hq, named, crashed, ?_, left⟩
  rw [run_on_answered hq]
  exact congrArg (EStateM.Result.ok · _) answer.symm

/-- So both show the same, and the crash fails on both or on neither. -/
theorem crash_beside (h : SeenAs w w.plain) (hr : w.rig? d = some r) (u : Update) :
    ∃ x v v', (on d (Flash.crash · u)).run (w.aside r) = .ok x v ∧
      (on d (Flash.crash · u)).run (w.bared d r) = .ok x v' ∧ v.view d = v'.view d ∧
      v.image = v'.image ∧ SeenAs v v.plain := by
  obtain ⟨σ, same⟩ := Alias.refl (seen_bared h hr)
  obtain ⟨x, f, q, g, hq, -, crashed, crashed', left⟩ := crash_aside hr same u
  obtain ⟨-, seen⟩ := (Alike.suspend d).run_plain h (run_suspend_aside hr)
  obtain ⟨-, counts⟩ := Alike.run_plain (SeenAs.lockstep.crash (i := ()) rfl u) seen crashed
  refine ⟨x, _, _, crashed, crashed', ?_, left.image, counts⟩
  rw [view, view, rig?_settle (rig?_aside hr), rig?_settle hq]
  exact congrArg some left.view

/-- What a callback sees is what is left of an update without it, which loses power. -/
theorem lost_of_called (h : SeenAs w w.plain) (hr : w.rig? d = some r)
    (hc : r.callback = some handler) (respond : Responder Counted Nat κ μ)
    (called : Called d u handler w v) :
    ∃ w', (perform respond d (.update u)).run (w.bared d r) = .ok (.error (.fault .powerLoss)) w' ∧
      v.view d = w'.view d ∧ v.image = w'.image ∧ SeenAs v v.plain := by
  obtain ⟨worn, w1, w2, started, suspended, crashed⟩ := (called_iff hr hc).1 called
  obtain ⟨-, seen⟩ := Alike.run_plain (SeenAs.lockstep.start (i := ()) rfl u) h started
  obtain ⟨f, -, rfl⟩ := on_ok hr started
  have started' := (run_on_bared_eq_ok hr).2 ⟨f, started, rfl⟩
  have there := rig?_settle hr f
  cases suspended.symm.trans (run_suspend_aside there)
  obtain ⟨x, v, w', ran, ran', view, image, counts⟩ := crash_beside seen there u
  cases crashed.symm.trans ran
  refine ⟨w', ?_, view, image, counts⟩
  show (update respond d u).run _ = _
  rw [run_update respond started', EStateM.run_bind,
    run_interrupt_bare (rig?_bared there) rfl respond ran']
  rfl

/-- If an update loses power without the callback, then with it the callback is called. -/
theorem called_of_lost (h : SeenAs w w.plain) (hr : w.rig? d = some r)
    (hc : r.callback = some handler) {respond : Responder Counted Nat κ μ}
    {w' : Bench Counted Nat κ μ} (lost : (perform respond d (.update u)).run (w.bared d r) =
      .ok (.error (.fault .powerLoss)) w') :
    ∃ v, Called d u handler w v := by
  obtain ⟨worn, t, started', crashed'⟩ := update_lost (rig?_bared hr) rfl lost
  obtain ⟨f, started, rfl⟩ := (run_on_bared_eq_ok hr).1 started'
  obtain ⟨-, seen⟩ := Alike.run_plain (SeenAs.lockstep.start (i := ()) rfl u) h started
  have there := rig?_settle hr f
  obtain ⟨x, v, t, ran, ran', -⟩ := crash_beside seen there u
  cases crashed'.symm.trans ran'
  exact ⟨v, (called_iff hr hc).2 ⟨worn, _, _, started, run_suspend_aside there, ran⟩⟩

end

end Bench

/-! ## Callbacks that do nothing -/

/-- A callback does nothing and aborts, whenever it is called. -/
def Callbacks.Abort (callbacks : Callbacks κ μ) (code : κ) : Prop :=
  ∀ n, callbacks code n = .done (.ok .abort)

namespace Bench

variable {callbacks : Callbacks κ μ} {code : κ} {d : Handle}

/-- Benches of which the second is the first, unless it has no callback where the first has that of
a code. -/
def Idle (code : κ) (d : Handle) (w v : Bench Counted Nat κ μ) : Prop :=
  v = w ∨ ∃ r n, w.rig? d = some r ∧ r.callback = some (.custom code n) ∧ w.bared d r = v

namespace Idle

/-- Operations run alike on the same bench, so only those with the callback have to be looked at. -/
theorem of_bared {m : BenchM Counted Nat κ μ α}
    (h : ∀ {w r n}, w.rig? d = some r → r.callback = some (.custom code n) →
      ResultsAgree (fun _ => Idle code d) (fun _ _ => True) (m.run w) (m.run (w.bared d r))) :
    Keeps (Idle code d) m m := by
  rintro w v (rfl | ⟨r, n, hr, hc, rfl⟩)
  · rcases m.run v with ⟨a, t⟩ | ⟨e, t⟩
    · exact ⟨rfl, .inl rfl⟩
    · exact ⟨rfl, trivial⟩
  · exact h hr hc

theorem on (op : Config → FlashM Counted Nat α) :
    Keeps (Idle (μ := μ) code d) (Bench.on d op) (Bench.on d op) := by
  refine of_bared fun {w r n} hr hc => ?_
  rw [run_on_answered hr, run_on_bared hr]
  exact ⟨rfl, .inr ⟨_, n, rig?_settle hr _, hc, rfl⟩⟩

theorem copy : Keeps (Idle (μ := μ) code d) (Bench.copy d) (Bench.copy d) := by
  refine of_bared fun {w r n} hr hc => ?_
  rw [run_copy, run_copy, hr, rig?_bared hr]
  have inside : d < w.rack.length := (List.getElem?_eq_some_iff.1 (rig?_eq_some.1 hr)).1
  refine ⟨List.length_set.symm, .inr ⟨r, n, rig?_append hr _, hc, ?_⟩⟩
  simp only [bared, List.set_append_left _ _ inside]

theorem install (callback : Option (Handler κ)) :
    Keeps (Idle (μ := μ) code d) (Bench.install d callback) (Bench.install d callback) := by
  refine of_bared fun {w r n} hr hc => ?_
  rw [run_install, run_install, hr, rig?_bared hr]
  -- the benches are the same then
  exact ⟨rfl, .inl (by simp only [bared, List.set_set])⟩

theorem setMemory (m : μ) : Keeps (Idle (κ := κ) code d)
    (modify fun w => { w with memory := m }) (modify fun w => { w with memory := m }) :=
  of_bared fun {_ r n} hr hc => ⟨rfl, .inr ⟨r, n, hr, hc, rfl⟩⟩

end Idle

/-- Besides, the blocks of the second may go by other names. -/
def Unnoticed (code : κ) (d : Handle) (w v : Bench Counted Nat κ μ) : Prop :=
  ∃ u, Idle code d w u ∧ Alias u v

namespace Unnoticed

/-- The two benches show the same. -/
theorem same {w v : Bench Counted Nat κ μ} (h : Unnoticed code d w v) :
    (∀ e, w.view e = v.view e) ∧ w.image = v.image ∧ w.memory = v.memory := by
  obtain ⟨u, idle, same⟩ := h
  rw [← same.image, ← same.memory]
  simp only [← same.view]
  rcases idle with rfl | ⟨r, n, hr, -, rfl⟩
  · exact ⟨fun _ => rfl, rfl, rfl⟩
  · refine ⟨fun e => ?_, rfl, rfl⟩
    by_cases here : e = d
    · subst here
      rw [view, view, hr, rig?_bared hr]
      rfl
    · have there : (w.bared d r).rig? e = w.rig? e := by
        simp only [rig?, bared, List.getElem?_set_ne (Ne.symm here)]
      rw [view, view, there]
      rfl

theorem keeps {m : BenchM Counted Nat κ μ α} (idle : Keeps (Idle code d) m m)
    (same : Keeps Alias m m) : Keeps (Unnoticed code d) m m := by
  rintro w v ⟨u, hw, hv⟩
  exact ((idle w u hw).trans (same u v hv)).mono (fun _ _ _ => id) fun _ _ _ => trivial

theorem on {op : Config → FlashM Counted Nat α}
    (hop : ∀ cfg others σ, Preserves (Flash.Alias others (fun _ => 0) σ) (op cfg) (op cfg)) :
    Keeps (Unnoticed (μ := μ) code d) (Bench.on d op) (Bench.on d op) :=
  keeps (Idle.on op) (Alias.on d hop)

/-- The callback is called, and aborts. -/
theorem run_respond (aborts : callbacks.Abort code) {w : Bench Counted Nat κ μ}
    {r : Rig Nat κ} (hr : w.rig? d = some r) (n depth : Nat) :
    (respond callbacks (depth + 1) (.custom code n) d).run w = .ok (.ok .abort)
      { w with
        rack := w.rack.set d (some { r with callback := some (.custom code (n + 1)) }) } := by
  show (Bench.install d _ >>= fun _ => (callbacks code n).run _ d).run w = _
  rw [EStateM.run_bind, run_install, hr, aborts n]
  rfl

/-- A loss of power is answered alike where the callback is missing. -/
theorem interrupt_bared (aborts : callbacks.Abort code) (depth : Nat) (u : Update)
    {w v : Bench Counted Nat κ μ} {r : Rig Nat κ} {n : Nat} (hr : w.rig? d = some r)
    (hc : r.callback = some (.custom code n)) (h : Renamed σ (w.bared d r) v) :
    ResultsAgree (fun _ => Unnoticed code d) (fun _ _ => True)
      ((Bench.interrupt (respond callbacks (depth + 1)) d u).run w)
      ((Bench.interrupt (respond callbacks (depth + 1)) d u).run v) := by
  obtain ⟨x, f, q, g, hq, named, crashed, crashed', left⟩ := crash_aside hr h u
  -- what was set aside is given up in the end, and then both benches hold the same
  have left := settle_of_named h.named hq left.apart
  rw [named, settle_bared] at left
  rw [run_interrupt_bare hq (congrArg Rig.callback named) _ crashed']
  rcases x with e | _
  · -- the crash fails, and the callback is not called
    rw [run_interrupt_failed hr hc _ (run_suspend_aside hr) crashed]
    exact ⟨rfl, _, .inr ⟨_, n, rig?_settle hr _, hc, rfl⟩, left⟩
  · -- the callback is counted, and power is lost all the same
    rw [run_interrupt hr hc _ (run_suspend_aside hr) crashed, EStateM.run_bind,
      run_respond aborts (rig?_settle (rig?_aside hr) f)]
    refine ⟨rfl, _, .inr ⟨_, n + 1, rig?_set (rig?_settle hr f) _, rfl, ?_⟩, left⟩
    exact bared_set (w.settle d r { f with store := BlockStore.releaseAll f.store r.device.slots })
      (some { device := f.device, callback := some (.custom code (n + 1)) })
      { r with device := f.device }

theorem interrupt (aborts : callbacks.Abort code) (depth : Nat) (u : Update) :
    Keeps (Unnoticed code d) (Bench.interrupt (respond callbacks (depth + 1)) d u)
      (Bench.interrupt (respond callbacks (depth + 1)) d u) := by
  rintro w v ⟨_, rfl | ⟨r, n, hr, hc, rfl⟩, same⟩
  · have answers := Alias.lockstep.callbacks
      (fun code calls _ => ⟨(callbacks code calls).blind_id,
        Program.installs_of_forall (fun _ => trivial) _⟩) (depth + 1)
    exact (Alias.lockstep.interrupt (i := ()) rfl answers u _ v same).mono
      (fun _ w _ h => ⟨w, .inl rfl, h⟩) fun _ _ => id
  · obtain ⟨σ, h⟩ := same
    exact interrupt_bared aborts depth u hr hc h

theorem update (aborts : callbacks.Abort code) (depth : Nat) (u : Update) :
    Keeps (Unnoticed code d) (Bench.update (respond callbacks (depth + 1)) d u)
      (Bench.update (respond callbacks (depth + 1)) d u) := by
  have completes (worn : Bool) : Keeps (Unnoticed (μ := μ) code d)
      (Bench.on d (Flash.complete · worn u)) (Bench.on d (Flash.complete · worn u)) :=
    on fun cfg others σ => (Flash.Alias.lockstep cfg others _ σ).complete worn u
  refine (on fun cfg others σ => (Flash.Alias.lockstep cfg others _ σ).start u).bind
    fun started => ?_
  rcases started with e | _ | worn | worn
  · exact .answer _
  · exact .answer _
  · exact completes worn
  · refine (interrupt aborts depth u).bind fun x => ?_
    rcases x with e | _
    · exact .answer _
    · exact completes worn

theorem perform (aborts : callbacks.Abort code) (depth : Nat) (r : Request) :
    Keeps (Unnoticed code d) (Bench.perform (respond callbacks (depth + 1)) d r)
      (Bench.perform (respond callbacks (depth + 1)) d r) := by
  by_cases direct : r.isDirect
  · rw [perform_direct _ d direct]
    exact on fun cfg others σ => Flash.Alias.effect cfg r
  cases r with
  | update u => exact update aborts depth u
  | copy => exact (keeps Idle.copy (Alias.copy d)).bind fun _ => .answer _
  | _ => exact absurd rfl direct

/-- No program notices a callback that does nothing and aborts. -/
theorem execute (aborts : callbacks.Abort code) (depth : Nat) (p : Program κ μ α) :
    Keeps (Unnoticed code d) (p.execute callbacks (depth + 1) d)
      (p.execute callbacks (depth + 1) d) := by
  unfold Program.execute
  induction p with
  | done a => exact .answer a
  | ask r next ih => exact (perform aborts depth r).bind ih
  | install callback next ih =>
    exact (keeps (Idle.install _) (Alias.install d _)).bind fun _ => ih
  | getMemory next ih =>
    intro w v h
    -- the second program reads its own memory, which is the same
    show ResultsAgree _ _ (((next w.memory).run _ d).run w) (((next v.memory).run _ d).run v)
    rw [← h.same.2.2]
    exact ih w.memory w v h
  | setMemory m next ih =>
    exact (keeps (Idle.setMemory m) (Alias.lockstep.setMemory (i := ()) m)).bind fun _ => ih

end Unnoticed

/-! ## The callback and the crash -/

/-- What a callback sees when power is lost.

Benches are well formed all along every run from the making of a bench on, also where callbacks
run. On a well-formed bench, let a device have a callback, whatever handler it is. If an update
calls it, then without the callback the same update reports a loss of power, and leaves the device
and the image file as the callback sees them, and as a copy has them that is made there. If the
update loses power without the callback, then it calls the callback. And if all that the callback
does is to abort, no program notices it: the answers are the same without the callback, also those
that tell how many hold a block, and all devices, the image file and the memory are left alike. -/
theorem callback_sees :
    (∀ (cfg : Config) (memory : μ) (w : Bench Counted Nat κ μ)
      (probe : BenchM Counted Nat κ μ Unit),
      create cfg memory = .ok w → Passes WellFormed probe → w.WellFormed ∧
        ∀ (reactions : Reactions κ μ) (depth : Nat) (p : Interplay κ μ β),
          ResultsAgree (fun _ v u => u = v ∧ v.WellFormed) (fun _ _ => True)
            ((p.execute reactions depth).run w) ((p.executeProbed probe reactions depth).run w)) ∧
    (∀ (w : Bench Counted Nat κ μ) (d : Handle) (r : Rig Nat κ) (handler : Handler κ) (u : Update)
      (respond : Responder Counted Nat κ μ),
      w.WellFormed → w.rig? d = some r → r.callback = some handler →
        (∀ v, Called d u handler w v → ∃ w',
          (perform respond d (.update u)).run (w.bared d r) = .ok (.error (.fault .powerLoss)) w' ∧
            v.view d = w'.view d ∧ v.image = w'.image ∧
            ∃ e v', (copy d).run v = .ok e v' ∧ v'.view e = w'.view d ∧ v'.image = w'.image) ∧
        ∀ w', (perform respond d (.update u)).run (w.bared d r) =
          .ok (.error (.fault .powerLoss)) w' → ∃ v, Called d u handler w v) ∧
    ∀ (w : Bench Counted Nat κ μ) (d : Handle) (r : Rig Nat κ) (callbacks : Callbacks κ μ)
      (code : κ) (n depth : Nat) (p : Program κ μ α),
      w.WellFormed → w.rig? d = some r → r.callback = some (.custom code n) →
        callbacks.Abort code →
        ResultsAgree
          (fun _ v u => (∀ e, v.view e = u.view e) ∧ v.image = u.image ∧ v.memory = u.memory)
          (fun _ _ => True) ((p.execute callbacks (depth + 1) d).run w)
          ((p.execute callbacks (depth + 1) d).run (w.bared d r)) := by
  refine ⟨fun cfg memory w probe made passes => ?_, ?_, ?_⟩
  · have new := wellFormed_create made
    exact ⟨new, new.executeProbed passes⟩
  · intro w d r handler u respond wellFormed hr hc
    refine ⟨fun v called => ?_, fun w' lost => called_of_lost wellFormed.seen hr hc lost⟩
    obtain ⟨w', lost, view, image, counts⟩ := lost_of_called wellFormed.seen hr hc respond called
    obtain ⟨s, hs⟩ := rig?_of_called hr hc called
    have copied := run_copy d v
    rw [hs] at copied
    refine ⟨w', lost, view, image, _, _, copied, ?_, image⟩
    exact (view_copy counts copied).1.trans view
  · intro w d r callbacks code n depth p wellFormed hr hc aborts
    have start : Unnoticed code d w (w.bared d r) :=
      ⟨_, .inr ⟨r, n, hr, hc, rfl⟩, .refl (seen_bared wellFormed.seen hr)⟩
    exact (Unnoticed.execute aborts depth p _ _ start).mono (fun _ _ _ h => h.same) fun _ _ => id

/-- Two blocks of two bytes, with an image file. Lost power takes unsynced updates back. -/
def loosePair : Config where
  geometry := ⟨1, 1, 2, 2⟩
  eraseValue := some 0xff
  crash := .outOfOrder
  image := .writable

/-- Programs both blocks with a sync between, installs a callback, and arms the countdown. -/
def progThenArm : Interplay Unit Unit Unit :=
  .ask 0 (.update (.prog 0 0 [1, 2])) fun _ => .ask 0 .sync fun _ =>
    .ask 0 (.update (.prog 1 0 [3, 4])) fun _ => .install 0 (some ()) <|
      .ask 0 (.setCountdown 1) fun _ => .done ()

/-- Erases the first block, reads the second, and asks how many hold the first. -/
def eraseThenLook : Program Unit Unit (Option (List UInt8) × Option Nat) :=
  .ask (.update (.erase 0)) fun _ => .ask (.read 1 0 2) fun x => .ask (.blockRefs 0) fun n =>
    .done (x.toOption, n.toOption)

/-- Callbacks that only abort. -/
def abortAlways : Callbacks Unit Unit := fun _ _ => .done (.ok .abort)

/-- A bench on which an erase loses power. -/
theorem exists_armed :
    ∃ (w₀ w : Bench Counted Nat Unit Unit) (r : Rig Nat Unit) (t v : Bench Counted Nat Unit Unit),
      create loosePair () = .ok w₀ ∧
      (progThenArm.execute (fun _ _ _ => .done (.ok .resume)) 0).run w₀ = .ok () w ∧
      w.rig? 0 = some r ∧ r.callback = some (.custom () 0) ∧
      (perform nobody 0 (.update (.erase 0))).run (w.bared 0 r) =
        .ok (.error (.fault .powerLoss)) t ∧
      (t.view 0).map Device.slots = some [some ⟨0, false, 15, [255, 255]⟩, none] ∧
      t.image = some ⟨[255, 255, 255, 255]⟩ ∧
      (eraseThenLook.execute abortAlways 1 0).run w = .ok (some [255, 255], some 1) v := by
  let arm : BenchM Counted Nat Unit Unit Unit :=
    progThenArm.execute (fun _ _ _ => .done (.ok .resume)) 0
  have armed : onNew loosePair (do arm; return (← rig 0).callback) =
      some (some (.custom () 0)) := by decide +kernel
  have erased : onNew loosePair (do
      arm
      install 0 none
      match ← perform nobody 0 (.update (.erase 0)) with
      | .ok _ => throw .exhausted
      | .error e =>
        let t ← get
        return (e, (t.view 0).map Device.slots, t.image)) =
      some (.fault .powerLoss, some [some ⟨0, false, 15, [255, 255]⟩, none],
        some ⟨[255, 255, 255, 255]⟩) := by decide +kernel
  have answered : onNew loosePair (do arm; eraseThenLook.execute abortAlways 1 0) =
      some (some [255, 255], some 1) := by decide +kernel
  -- all three come to the same bench first
  obtain ⟨w₀, _, made, ran⟩ := onNew_eq_some.1 armed
  obtain ⟨_, w, ended, ran⟩ := run_bind_eq_ok.1 ran
  obtain ⟨r, _, there, ran⟩ := run_bind_eq_ok.1 ran
  obtain ⟨hr, rfl⟩ := run_rig_eq_ok.1 there
  obtain ⟨hc, -⟩ := EStateM.Result.ok.inj ran
  obtain ⟨_, v, made', ran⟩ := onNew_eq_some.1 answered
  cases made.symm.trans made'
  obtain ⟨_, _, ended', read⟩ := run_bind_eq_ok.1 ran
  cases ended.symm.trans ended'
  obtain ⟨_, _, made', ran⟩ := onNew_eq_some.1 erased
  cases made.symm.trans made'
  obtain ⟨_, _, ended', ran⟩ := run_bind_eq_ok.1 ran
  cases ended.symm.trans ended'
  obtain ⟨_, _, bare, ran⟩ := run_bind_eq_ok.1 ran
  cases (run_install_none hr).symm.trans bare
  obtain ⟨x, t, lost, ran⟩ := run_bind_eq_ok.1 ran
  cases x with
  | ok _ => cases ran
  | error e =>
    obtain ⟨left, -⟩ := EStateM.Result.ok.inj ran
    simp only [Prod.mk.injEq] at left
    obtain ⟨rfl, slots, image⟩ := left
    exact ⟨w₀, w, r, t, v, made, ended, hr, hc, lost, slots, image, read⟩

theorem callback_sees_eraseThenLook :
    ∃ (w v v' u : Bench Counted Nat Unit Unit) (r : Rig Nat Unit),
      Called 0 (.erase 0) (.custom () 0) w v ∧
      (v.view 0).map Device.slots = some [some ⟨0, false, 15, [255, 255]⟩, none] ∧
      v.image = some ⟨[255, 255, 255, 255]⟩ ∧
      (eraseThenLook.execute abortAlways 1 0).run w = .ok (some [255, 255], some 1) v' ∧
      (eraseThenLook.execute abortAlways 1 0).run (w.bared 0 r) = .ok (some [255, 255], some 1) u ∧
      ∀ e, v'.view e = u.view e := by
  obtain ⟨w₀, w, r, t, v', made, armed, hr, hc, lost, slots, image, read⟩ := exists_armed
  obtain ⟨reached, sees, idle⟩ := callback_sees (κ := Unit) (μ := Unit)
    (α := Option (List UInt8) × Option Nat) (β := Unit)
  obtain ⟨-, all⟩ := reached loosePair () w₀ (pure ()) made fun _ _ => rfl
  have agree := all (fun _ _ _ => .done (.ok .resume)) 0 progThenArm
  rw [armed] at agree
  obtain ⟨_, -, rfl, wellFormed⟩ := agree.ok_left
  obtain ⟨seen, calls⟩ := sees _ 0 r _ (.erase 0) nobody wellFormed hr hc
  obtain ⟨v, called⟩ := calls t lost
  obtain ⟨t', lost', view, file, -⟩ := seen v called
  cases lost.symm.trans lost'
  have same := idle _ 0 r abortAlways () 0 0 eraseThenLook wellFormed hr hc fun _ => rfl
  rw [read] at same
  obtain ⟨u, bare, views, -⟩ := same.ok_left
  exact ⟨_, v, v', u, r, called, view ▸ slots, file.trans image, read, bare, views⟩

end Bench

end FaultyFlash
