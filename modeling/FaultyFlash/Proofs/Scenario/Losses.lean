import FaultyFlash.Proofs.Tracking

/-!
# Losses of power on benches and by themselves

An update that loses power leaves what it would leave of a device by itself: on the device, if there
is no callback; on a copy of the device, if the callback copies, and then the device itself goes on
as if power had not been lost.

## Main definitions

* `Bench.Forks d hs`: what became of a bench on which only one device was used, and copied for later

## Main results

* `Request.torn_cases`: a request that can lose power is an update that was let through
* `Bench.Tracks.fired`, `Bench.Tracks.forked`: an update that loses power
-/

namespace FaultyFlash

open Flash (answered AlikeBy)
open Device (Clocked)

variable {κ μ : Type} {cfg : Config} {X Y Z : Flash Plain Block} {n : UInt32}

/-! ## What is left by a loss of power -/

/-- An update is let through on a device `X`, which comes to `Y`, and leaves `Z` if power is
lost. -/
structure Update.Tears (cfg : Config) (u : Update) (X : Flash Plain Block) (worn : Bool)
    (Y Z : Flash Plain Block) : Prop where
  permitted : answered (Flash.permit cfg u) X = (.ok (some worn), Y)
  crashed : answered (Flash.crash cfg u) Y = (.ok (), Z)
  rest : Z.device.rest = Y.device.rest

/-- Either an update does not count, or losing power during it leaves one device. -/
theorem Update.torn_cases (able : cfg.Able) (sound : X.device.Sound cfg) (u : Update) :
    (u.torn cfg X = [] ∧ ∀ worn, (answered (Flash.permit cfg u) X).1 ≠ .ok (some worn)) ∨
      ∃ worn Y Z, u.torn cfg X = [Z] ∧ u.Tears cfg X worn Y Z := by
  cases permit : (Flash.permit cfg u).run X with
  | error e Y =>
    refine .inl ⟨by rw [torn, permit], fun worn h => ?_⟩
    rw [Flash.answered_eq_error.2 permit] at h
    cases h
  | ok permitted Y =>
    cases permitted with
    | none =>
      refine .inl ⟨by rw [torn, permit], fun worn h => ?_⟩
      rw [Flash.answered_eq_ok.2 permit] at h
      cases h
    | some worn =>
      have permits : Preserves (AlikeBy (fun D E => D = E ∧ D.Sound cfg) X.image.isSome)
          (Flash.permit cfg u) (Flash.permit cfg u) := (soundLikeness cfg).lockstep.permit u
      have kept := (Flash.answered_of_preserves permits (f := X) (g := X)
        ⟨⟨rfl, sound⟩, rfl, rfl⟩).2
      rw [Flash.answered_eq_ok.2 permit] at kept
      obtain ⟨Z, crash, -, rest⟩ :=
        Flash.succeeds_crash able (Flash.fits_of_permit permit) kept.1.2
      refine .inr ⟨worn, Y, Z, by rw [torn, permit]; simp only [crash], ?_⟩
      exact ⟨Flash.answered_eq_ok.2 permit, Flash.answered_eq_ok.2 crash, rest⟩

/-- Either a request does not count, or it is an update that counts. -/
theorem Request.torn_cases (able : cfg.Able) (sound : X.device.Sound cfg) (r : Request) :
    (r.torn cfg X = [] ∧ ∀ n, r.Calm cfg n X ∧ r.left cfg n X = n) ∨
      ∃ u worn Y Z, r = .update u ∧ u.torn cfg X = [Z] ∧ u.Tears cfg X worn Y Z := by
  cases r with
  | update u =>
    rcases u.torn_cases able sound with ⟨none, never⟩ | ⟨worn, Y, Z, torn, tears⟩
    · refine .inl ⟨none, fun n => ⟨fun worn h => absurd h (never worn), ?_⟩⟩
      show Flash.left n _ = n
      unfold Flash.left
      split
      · next worn h => exact absurd h (never worn)
      · rfl
    · exact .inr ⟨u, worn, Y, Z, rfl, torn, tears⟩
  | _ => exact .inl ⟨rfl, fun n => ⟨trivial, rfl⟩⟩

namespace Bench

variable {P : Option (Handler κ) → Prop} {imaged : Bool} {d : Handle}
  {u v w : Bench Plain Block κ μ} {hs hs' : List Handle}

/-! ## Copies for later -/

/-- Only the device of a handle is used, and the handles `hs` are those of its copies for later. -/
structure Forks (d : Handle) (hs : List Handle) (v w : Bench Plain Block κ μ) : Prop
    extends Spares [d] v w where
  forks : w.forks = v.forks ++ hs
  memory : w.memory = v.memory
  fresh {h : Handle} (mem : h ∈ hs) : v.rack.length ≤ h ∧ h < w.rack.length
  nodup : hs.Nodup

theorem Uses.forking (h : Uses d v w) : Forks d [] v w where
  toSpares := h.toSpares
  forks := h.forks.trans (List.append_nil _).symm
  memory := h.memory
  fresh mem := absurd mem List.not_mem_nil
  nodup := List.nodup_nil

theorem Forks.trans (h : Forks d hs u v) (h' : Forks d hs' v w) : Forks d (hs ++ hs') u w where
  toSpares := h.toSpares.trans h'.toSpares
  forks := by rw [h'.forks, h.forks, List.append_assoc]
  memory := h'.memory.trans h.memory
  fresh mem := by
    rcases List.mem_append.1 mem with mem | mem
    · exact ⟨(h.fresh mem).1, Nat.lt_of_lt_of_le (h.fresh mem).2 h'.length⟩
    · exact ⟨Nat.le_trans h.length (h'.fresh mem).1, (h'.fresh mem).2⟩
  nodup := by
    refine List.nodup_append.2 ⟨h.nodup, h'.nodup, fun a ha b hb => ?_⟩
    exact Nat.ne_of_lt (Nat.lt_of_lt_of_le (h.fresh ha).2 (h'.fresh hb).1)

/-- What is set aside does not matter to what is used. -/
theorem Forks.setAside {aside : List (Suspension Block)}
    (h : Forks d hs { v with suspended := aside } w) :
    Forks d hs v { w with suspended := v.suspended } :=
  ⟨⟨h.config, h.image, rfl, h.length, h.rigs⟩, h.forks, h.memory, h.fresh, h.nodup⟩

namespace Tracks

/-- What is set aside does not matter to a device. -/
theorem setAside {R : Device Block → Device Block → Prop} (h : Tracks cfg imaged R P d X v)
    (aside : List (Suspension Block)) : Tracks cfg imaged R P d X { v with suspended := aside } :=
  ⟨h.config, h.image, h.rig⟩

/-- Arming the countdown of a device. -/
theorem arm (h : Tracks cfg imaged (Clocked cfg n) P d X v) (m : UInt32) :
    ∃ w, (Bench.on d fun _ => Flash.modifyDevice fun dev => { dev with countdown := m }).run v =
        .ok (.ok ()) w ∧
      Tracks cfg imaged (Clocked cfg m) P d X w ∧ Uses d v w := by
  have rearmed : ∀ f, AlikeBy (Clocked cfg n) imaged X f →
      (Except.ok () : Except Failure Unit) = .ok () ∧
        AlikeBy (Clocked cfg m) imaged X (f.rearm m) := by
    rintro f ⟨⟨same, sound⟩, images⟩
    have armed := congrArg (fun D : Device Block => { D with countdown := m }) same
    exact ⟨rfl, ⟨armed, sound⟩, images⟩
  obtain ⟨x, w, run, rfl, rest⟩ := h.on (fun _ => Flash.modifyDevice fun dev =>
    { dev with countdown := m }) (Q := fun x => x = .ok ()) rearmed
  exact ⟨w, run, rest⟩

/-- A copy for later is what the crash left, and the device itself is armed again. -/
theorem fork (h : Tracks cfg imaged (Clocked cfg n) P d Z v) :
    ∃ w, (Bench.fork d).run v = .ok (.ok .resume) w ∧
      Tracks cfg imaged (Clocked cfg 1) P d Z w ∧
      Tracks cfg imaged (Clocked cfg n) (· = none) v.rack.length Z w ∧
      Forks d [v.rack.length] v w := by
  have fresh {e : Handle} (he : v.rack.length ≤ e) : e ∉ [d] := h.not_mem_of_le he
  obtain ⟨config, image, r, hr, alike, callback⟩ := h
  let t : Bench Plain Block κ μ :=
    { v with
      rack := v.rack ++ [some { device := r.device }]
      forks := v.forks ++ [v.rack.length] }
  have kept : Tracks cfg imaged (Clocked cfg n) P d Z t :=
    ⟨config, image, r, rig?_append hr _, alike, callback⟩
  have copied : Tracks cfg imaged (Clocked cfg n) (· = none) v.rack.length Z t := by
    refine ⟨config, image, { device := r.device }, rig?_eq_some.2 ?_, alike, rfl⟩
    show (v.rack ++ [some { device := r.device }])[v.rack.length]? = _
    rw [List.getElem?_append_right (Nat.le_refl _), Nat.sub_self, List.getElem?_cons_zero]
  -- arming the device leaves the copy alone
  obtain ⟨w, run, armed, uses⟩ := kept.arm 1
  refine ⟨w, ?_, armed, copied.of_spares uses.toSpares (fresh (Nat.le_refl _)), ?_⟩
  · have copying : (Bench.copy d).run v = .ok v.rack.length { t with forks := v.forks } := by
      rw [run_copy, hr]
    exact run_bind_eq_ok.2 ⟨_, _, copying, run_bind_eq_ok.2 ⟨(), t, rfl,
      run_bind_eq_ok.2 ⟨_, w, run, rfl⟩⟩⟩
  · have spared := (Uses.append (d := d) (v := v) (some { device := r.device })).toSpares
    have made : Forks d [v.rack.length] v t := by
      refine ⟨⟨rfl, rfl, rfl, spared.length, spared.rigs⟩, rfl, rfl, fun mem => ?_,
        List.pairwise_singleton ..⟩
      rw [List.mem_singleton.1 mem]
      exact ⟨Nat.le_refl _, by simp [t]⟩
    exact made.trans uses.forking

/-- The return to a state that was set aside, by a device that was the same but for its blocks and
its generator. -/
theorem resume (h : Tracks cfg imaged (Clocked cfg n) P d Z v) {s : Suspension Block}
    {aside : List (Suspension Block)} (hs : v.suspended = s :: aside)
    (slots : s.slots = Y.device.slots) (generator : s.generator = Y.device.generator)
    (rest : Z.device.rest = Y.device.rest) (sound : Y.device.Sound cfg)
    (image : Y.image.isSome = imaged) (able : cfg.Able) :
    ∃ w, (resume d).run v = .ok (.ok ()) w ∧ Tracks cfg imaged (Clocked cfg n) P d Y w ∧
      Uses d { v with suspended := aside } w := by
  have restored : ∀ f, AlikeBy (Clocked cfg n) imaged Z f →
      (answered (Flash.restore cfg s.slots s.generator) f).1 = .ok () ∧
        AlikeBy (Clocked cfg n) imaged Y
          (answered (Flash.restore cfg s.slots s.generator) f).2 := by
    rintro f ⟨⟨same, soundZ⟩, images⟩
    have soundF : f.device.Sound cfg := by
      rw [same]
      exact ⟨soundZ.slots, soundZ.synced⟩
    have soundS : s.slots.Sound cfg := slots ▸ sound.slots
    obtain ⟨g, run, device⟩ := Flash.succeeds_restore able soundS s.generator soundF
    have kept : AlikeBy (fun D E => D = E ∧ D.Sound cfg) imaged
        (answered (Flash.restore cfg s.slots s.generator) f).2
        (answered (Flash.restore cfg s.slots s.generator) f).2 :=
      Flash.maintains_of_preserves (soundLikeness cfg).lockstep.saveAll
        { f with device := { f.device with slots := s.slots, generator := s.generator } }
        ⟨⟨rfl, soundS, soundF.synced⟩, images.2, images.2⟩
    rw [Flash.answered_eq_ok.2 run] at kept ⊢
    -- blocks and generator were set aside, and all else is still as it was
    refine ⟨rfl, ⟨?_, sound⟩, image, kept.2.1⟩
    have back := congrArg (fun D : Device Block =>
      { D with slots := Y.device.slots, generator := Y.device.generator, countdown := n }) rest
    rw [device, same, slots, generator]
    exact back
  obtain ⟨x, w, run, rfl, rest⟩ := (h.setAside aside).on
    (fun cfg => Flash.restore cfg s.slots s.generator) (Q := fun x => x = .ok ()) restored
  rw [run_resume, hs]
  exact ⟨w, run, rest⟩

/-- Without a callback an update that loses power fails, and leaves what it would leave of the
device by itself. -/
theorem fired (h : Tracks cfg imaged (Clocked cfg 1) (· = none) d X v) {up : Update} {worn : Bool}
    (tears : up.Tears cfg X worn Y Z) (respond : Responder Plain Block κ μ) :
    ∃ w, (Bench.update respond d up).run v = .ok (.error (.fault .powerLoss)) w ∧
      Tracks cfg imaged (Clocked cfg 0) (· = none) d Z w ∧ Uses d v w := by
  obtain ⟨t, start, started, uses⟩ := h.start up
  rw [tears.permitted] at start started
  obtain ⟨w, crash, crashed, uses'⟩ := started.untimed (Flash.crash · up)
    ((clockedLikeness cfg 0).lockstep.crash up)
  rw [tears.crashed] at crash crashed
  obtain ⟨r, hr, -, callback⟩ := started.rig
  have interrupted : (interrupt respond d up).run t = .ok (.error (.fault .powerLoss)) w := by
    refine run_bind_eq_ok.2 ⟨r, t, by rw [run_rig, hr], ?_⟩
    rw [callback]
    exact run_bind_eq_ok.2 ⟨_, w, crash, rfl⟩
  refine ⟨w, ?_, crashed, uses.trans uses'⟩
  exact run_bind_eq_ok.2 ⟨_, t, start, run_bind_eq_ok.2 ⟨_, w, interrupted, rfl⟩⟩

/-- With the callback that copies, an update that loses power goes on as on the device by itself.
The copy is what the loss of power would leave of that. -/
theorem forked (h : Tracks cfg imaged (Clocked cfg 1) (· = some .fork) d X v) {up : Update}
    {worn : Bool} (tears : up.Tears cfg X worn Y Z) (able : cfg.Able)
    {respond : Responder Plain Block κ μ} (forks : respond .fork d = Bench.fork d) :
    ∃ e w, (Bench.update respond d up).run v = .ok (answered (Flash.uninterrupted cfg up) X).1 w ∧
      Tracks cfg imaged (Clocked cfg 1) (· = some .fork) d
        (answered (Flash.uninterrupted cfg up) X).2 w ∧
      Tracks cfg imaged (Clocked cfg 0) (· = none) e Z w ∧ Forks d [e] v w := by
  obtain ⟨v1, start, started, uses⟩ := h.start up
  rw [tears.permitted] at start started
  obtain ⟨r, hr, ⟨same, sound⟩, callback⟩ := started.rig
  -- the state is set aside, power is lost, and the device is copied
  obtain ⟨v2, crash, crashed, uses2⟩ := (started.setAside
    (⟨r.device.slots, r.device.generator⟩ :: v1.suspended)).untimed (Flash.crash · up)
      ((clockedLikeness cfg 0).lockstep.crash up)
  rw [tears.crashed] at crash crashed
  obtain ⟨v3, fork, armed, copied, forks3⟩ := crashed.fork
  -- the state is taken up again, and the update is completed
  obtain ⟨v4, resume, resumed, uses4⟩ := armed.resume (Y := Y)
    (forks3.suspended.trans uses2.suspended) (by rw [same]) (by rw [same]) tears.rest sound
    started.image.1 able
  obtain ⟨v5, complete, completed, uses5⟩ := resumed.untimed (Flash.complete · worn up)
    ((clockedLikeness cfg 1).lockstep.complete worn up)
  have interrupted : (interrupt respond d up).run v1 = .ok (.ok ()) v4 := by
    refine run_bind_eq_ok.2 ⟨r, v1, by rw [run_rig, hr], ?_⟩
    rw [callback]
    refine run_bind_eq_ok.2 ⟨(), _, by rw [run_suspend, hr], ?_⟩
    refine run_bind_eq_ok.2 ⟨_, v2, crash, run_bind_eq_ok.2 ⟨.ok .resume, v3, ?_, resume⟩⟩
    rw [forks]
    exact fork
  have rest : answered (Flash.uninterrupted cfg up) X =
      answered (Flash.complete cfg worn up) Y := by
    rw [Flash.uninterrupted, Flash.answered_bind, tears.permitted]
  have spared := (uses2.forking.trans forks3).setAside
  have whole := (uses.forking.trans spared).trans (uses4.trans uses5).forking
  have apart : v2.rack.length ∉ [d] := started.not_mem_of_le uses2.length
  refine ⟨v2.rack.length, v5, ?_, rest ▸ completed, ?_, whole⟩
  · rw [rest]
    exact run_bind_eq_ok.2 ⟨_, v1, start, run_bind_eq_ok.2 ⟨_, v4, interrupted, complete⟩⟩
  · exact (copied.setAside _).of_spares (uses4.trans uses5).toSpares apart

end Tracks

end Bench

end FaultyFlash
