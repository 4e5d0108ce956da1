import FaultyFlash.Proofs.Sharing.Sound
import FaultyFlash.Proofs.Tracking
import FaultyFlash.Proofs.Upkeep

/-!
# Devices without a callback

Without a callback an update is one operation on the device, which reports a loss of power itself.
What it takes of the countdown does not depend on what it does to blocks: an update that is let
through takes one, unless nothing is left, and only the one that takes the last loses power.

## Main definitions

* `Flash.unattended`: an update of a device without a callback
* `Flash.admits`, `Bench.admits`: is an update let through, so that it counts?
* `Bench.Bare d`, `Bench.left`: the device of a handle has no callback; what is left of its
  countdown

## Main results

* `Bench.update_unattended`: without a callback, an update is one operation on the device
* `Bench.Bare.perform`: what a request takes of the countdown, and when power may be lost
* `Bench.perform_last`: the update that takes the last of the countdown does lose power
-/

namespace FaultyFlash

open EStateM (run_bind)
open Flash (answered)

variable {S R κ μ : Type} [BlockStore S R] {cfg : Config} {u : Update}

namespace Flash

/-- An update of a device without a callback. -/
def unattended (cfg : Config) (u : Update) : FlashM S R Unit := do
  match ← start cfg u with
  | .ignored => return
  | .proceed worn => complete cfg worn u
  | .powerLost _ =>
    crash cfg u
    throw (.fault .powerLoss)

/-- Is an update neither refused nor ignored? Then it counts towards the loss of power. -/
def admits (cfg : Config) (u : Update) (f : Flash S R) : Bool :=
  match (answered (permit cfg u) f).1 with
  | .ok (some _) => true
  | _ => false

variable {f g : Flash S R} {worn : Bool}

/-- To let an update through changes nothing of the device, and makes or removes no image file. -/
theorem exists_permit (h : f.admits cfg u) :
    ∃ worn g, answered (permit cfg u) f = (.ok (some worn), g) ∧ g.device = f.device ∧
      g.image.isSome = f.image.isSome := by
  have leaves : Leaves id (permit cfg u : FlashM S R _) := .permit cfg u
  have same : (answered (permit cfg u) f).2.device = f.device := leaves f
  have imaged : (answered (permit cfg u) f).2.image.isSome = f.image.isSome :=
    image_of_preserves (fun imaged => (imagedLockstep imaged cfg).permit u) f
  unfold admits at h
  split at h
  · next worn permitted => exact ⟨worn, _, Prod.ext permitted rfl, same, imaged⟩
  · cases h

/-- An update that is let through takes one of the countdown, if anything is left of it. -/
theorem toNat_left (n : UInt32) (worn : Bool) :
    (left n (.ok (some worn))).toNat = n.toNat - 1 := by
  show (if n = 0 then 0 else n - 1).toNat = _
  by_cases off : n = 0
  · rw [if_pos off, off]
    rfl
  · have least : 1 ≤ n := by
      rw [UInt32.le_iff_toNat_le]
      exact Nat.pos_of_ne_zero fun zero => off (UInt32.toNat_inj.1 zero)
    rw [if_neg off, UInt32.toNat_sub_of_le _ _ least]
    rfl

/-- How an update without a callback goes on once it was let through. -/
theorem answered_unattended (h : answered (permit cfg u) f = (.ok (some worn), g)) :
    answered (unattended cfg u) f =
      if g.device.countdown = 1 then
        answered (crash cfg u >>= fun _ => throw (.fault .powerLoss)) (g.rearm 0)
      else
        answered (complete cfg worn u) (g.rearm (left g.device.countdown (.ok (some worn)))) := by
  rw [unattended, answered_bind, answered_start_eq, h]
  by_cases last : g.device.countdown = 1
  · simp only [Except.map, Start.of, last, if_true]
    rfl
  · simp only [Except.map, Start.of, if_neg last]

/-- An update that is refused or ignored is neither counted nor does it lose power. -/
theorem answered_unattended_of_not_admits (h : f.admits cfg u = false) :
    (answered (unattended cfg u) f).2.device.countdown = f.device.countdown ∧
      (answered (unattended cfg u) f).1 ≠ .error (.fault .powerLoss) := by
  have leaves : Leaves id (permit cfg u : FlashM S R _) := .permit cfg u
  have same : (answered (permit cfg u) f).2.device = f.device := leaves f
  have powered := Powered.permit (S := S) (R := R) cfg u
  rw [unattended, answered_bind, answered_start_eq]
  unfold admits at h
  generalize hp : answered (permit cfg u) f = x at h same ⊢
  obtain ⟨e | _ | worn, g⟩ := x
  · refine ⟨congrArg Device.countdown same, fun lost => ?_⟩
    have failed : e = .fault .powerLoss := Except.error.inj lost
    exact powered f e g (answered_eq_error.1 hp) failed
  · exact ⟨congrArg Device.countdown same, nofun⟩
  · cases h

/-- An update that is let through is counted. It reports a loss of power only if it is the last of
the countdown. -/
theorem answered_unattended_of_admits (h : f.admits cfg u) :
    (answered (unattended cfg u) f).2.device.countdown.toNat = f.device.countdown.toNat - 1 ∧
      ((answered (unattended cfg u) f).1 = .error (.fault .powerLoss) →
        f.device.countdown = 1) := by
  obtain ⟨worn, g, permitted, same, -⟩ := exists_permit h
  rw [answered_unattended permitted, same]
  by_cases last : f.device.countdown = 1
  · rw [if_pos last]
    have keeps : Leaves Device.countdown
        (crash cfg u >>= fun _ => throw (.fault .powerLoss) : FlashM S R Unit) :=
      (Leaves.crash cfg u).bind fun _ => .raise _
    rw [keeps, last]
    exact ⟨rfl, fun _ => rfl⟩
  · rw [if_neg last]
    have keeps : Leaves Device.countdown (complete cfg worn u : FlashM S R Unit) :=
      .complete cfg worn u
    rw [keeps]
    refine ⟨toNat_left _ worn, fun lost => ?_⟩
    have powered := Powered.complete (S := S) (R := R) cfg worn u
    exact absurd rfl (powered.failsBy _ _ lost)

/-- An update that takes the last of the countdown wrecks the device, and fails by nothing but the
loss of power, or by the write to the image file that is to show it. -/
theorem unattended_last {f : Flash Plain Block} (room : cfg.Roomy) (sound : f.device.Sound cfg)
    (counts : f.admits cfg u) (last : f.device.countdown = 1) :
    ∃ (s g : Flash Plain Block) (image : Option Image),
      (unattended cfg u).run f = .error (f.lossReport cfg) { g with image := image } ∧
      u.Fits cfg ∧ s.device = { f.device with countdown := 0 } ∧
      (wreck cfg u).run s = .ok () g := by
  obtain ⟨worn, t, permitted, same, imaged⟩ := exists_permit counts
  have fits : u.Fits cfg := fits_of_permit (answered_eq_ok.1 permitted)
  have device : (t.rearm 0).device = { f.device with countdown := 0 } :=
    congrArg (fun D => { D with countdown := 0 }) same
  have started : IsSound cfg (t.rearm 0).rest (t.rearm 0) := by
    refine ⟨?_, rfl⟩
    rw [device]
    exact sound.congr rfl rfl
  obtain ⟨g, wrecked, left, image, -, crashed⟩ := writes_crash room fits started
  -- nothing made or removed the image file on the way to the write that ends the crash
  have alike : g.refuses cfg = f.refuses cfg :=
    refuses_congr ((congrArg Option.isSome left.image).trans imaged)
  refine ⟨_, g, image, answered_eq_error.1 ?_, fits, device, wrecked⟩
  rw [answered_unattended permitted, if_pos (by rw [same, last]), answered_bind, crashed, written,
    lossReport, alike]
  cases f.refuses cfg <;> rfl

section

variable {S' R' : Type} [BlockStore S' R'] {I : Flash S R → Flash S' R' → Prop}

/-- Devices that look alike let the same updates through. -/
theorem Looking.admits (L : Looking I) {g : Flash S' R'} (h : I f g) :
    g.admits cfg u = f.admits cfg u := by
  obtain ⟨same, -⟩ := answered_of_preserves (L.permit u) h
  rw [Flash.admits, Flash.admits, same]

/-- Without a callback, an update goes alike on devices in lockstep. -/
theorem TimedLockstep.unattended {Owned : Nat → Block → Flash S R → Flash S' R' → Prop}
    (L : TimedLockstep cfg I Owned) (u : Update) :
    Preserves I (Flash.unattended cfg u) (Flash.unattended cfg u) := by
  refine (L.start u).bind fun how => ?_
  cases how with
  | ignored => exact .answer _
  | proceed worn => exact L.complete worn u
  | powerLost worn => exact (L.crash u).bind fun _ => .raise _ fun _ _ => id

end

end Flash

namespace Bench

omit [BlockStore S R] in
@[simp] theorem settle_settle (w : Bench S R κ μ) (d : Handle) (r : Rig R κ) (f g : Flash S R) :
    (w.settle d r f).settle d { r with device := f.device } g = w.settle d r g := by
  simp [settle, List.set_set]

/-- Without a callback, an update is one operation on the device. -/
theorem update_unattended {w : Bench S R κ μ} {d : Handle} {r : Rig R κ}
    (hr : w.rig? d = some r) (bare : r.callback = none) (respond : Responder S R κ μ) (u : Update) :
    (update respond d u).run w = (on d (Flash.unattended · u)).run w := by
  -- what comes after the start is done on the device as the start left it
  have next {α : Type} (f : Flash S R) (op : Config → FlashM S R α) :
      (on d op).run (w.settle d r f) = .ok (answered (op w.config) f).1
        (w.settle d r (answered (op w.config) f).2) := by
    rw [run_on_answered (rig?_settle hr f), settle_settle]
    rfl
  simp only [update, run_bind, run_on_answered hr, Flash.unattended,
    Flash.answered_bind]
  rcases answered (Flash.start w.config u) (w.flash r) with ⟨e | how, f⟩
  · rfl
  · cases how with
    | ignored => rfl
    | proceed worn => exact next f _
    | powerLost worn =>
      simp only [interrupt, run_bind, run_rig, rig?_settle hr f, bare, next,
        Flash.answered_bind]
      rcases answered (Flash.crash w.config u) f with ⟨e | _, g⟩ <;> rfl

/-- Does a request count towards the loss of power of the device of a handle? -/
def admits (w : Bench S R κ μ) (d : Handle) : Request → Bool
  | .update u => (w.rig? d).elim false fun r => (w.flash r).admits w.config u
  | _ => false

/-- What is left of the countdown of the device of a handle. -/
def left (w : Bench S R κ μ) (d : Handle) : Nat :=
  (w.rig? d).elim 0 fun r => r.device.countdown.toNat

/-- The device of a handle is there, and has no callback. -/
abbrev Bare (d : Handle) : Bench S R κ μ → Prop := Carries d fun r => r.callback = none

omit [BlockStore S R] in
theorem left_of_rig? {w : Bench S R κ μ} {d : Handle} {r : Rig R κ} (h : w.rig? d = some r) :
    w.left d = r.device.countdown.toNat := by
  rw [left, h, Option.elim_some]

/-- Of a device without a callback, nobody is asked what to do when it loses power. -/
theorem Bare.perform_congr {w : Bench S R κ μ} {d : Handle} (h : Bare d w)
    (respond respond' : Responder S R κ μ) (r : Request) :
    (perform respond d r).run w = (perform respond' d r).run w := by
  obtain ⟨s, hs, bare⟩ := h
  by_cases direct : r.isDirect
  · rw [perform_direct respond d direct, perform_direct respond' d direct]
  cases r with
  | update u =>
    show (update respond d u).run w = (update respond' d u).run w
    rw [update_unattended hs bare, update_unattended hs bare]
  | copy => rfl
  | _ => exact absurd rfl direct

/-- What a request takes of the countdown of a device without a callback: one, if it is an update
that is let through, as long as there is something left. Only the one that takes the last is told of
a loss of power. -/
theorem Bare.perform {w : Bench S R κ μ} {d : Handle} (h : Bare d w) (respond : Responder S R κ μ)
    {r : Request} (untimed : ∀ n, r ≠ .setCountdown n) :
    ∃ x v, (perform respond d r).run w = .ok x v ∧ Bare d v ∧ v.config = w.config ∧
      v.left d = w.left d - (w.admits d r).toNat ∧
      (x = .error (.fault .powerLoss) → w.admits d r ∧ w.left d = 1) := by
  obtain ⟨s, hs, bare⟩ := h
  rw [left_of_rig? hs]
  by_cases direct : r.isDirect
  · have free : w.admits d r = false := by
      cases r <;> first | rfl | cases direct
    have keeps : Flash.Leaves Device.countdown (r.effect w.config : FlashM S R _) :=
      .remote w.config (fun _ _ _ => rfl) fun n timed => absurd timed (untimed n)
    have powered := Flash.Powered.effect (S := S) (R := R) w.config r
    rw [perform_direct respond d direct, free, run_on_answered hs]
    refine ⟨_, _, rfl, ⟨_, rig?_settle hs _, bare⟩, rfl, ?_, fun lost => ?_⟩
    · rw [left_of_rig? (rig?_settle hs _)]
      exact congrArg UInt32.toNat (keeps (w.flash s))
    · exact absurd rfl (powered.failsBy _ _ lost)
  cases r with
  | update u =>
    have admitted : w.admits d (.update u) = (w.flash s).admits w.config u := by
      rw [admits, hs, Option.elim_some]
    show ∃ x v, (update respond d u).run w = .ok x v ∧ _
    rw [update_unattended hs bare, run_on_answered hs, admitted]
    refine ⟨_, _, rfl, ⟨_, rig?_settle hs _, bare⟩, rfl, ?_, fun lost => ?_⟩
    · rw [left_of_rig? (rig?_settle hs _)]
      cases counts : (w.flash s).admits w.config u with
      | true => exact (Flash.answered_unattended_of_admits counts).1
      | false => exact congrArg UInt32.toNat (Flash.answered_unattended_of_not_admits counts).1
    · cases counts : (w.flash s).admits w.config u with
      | true =>
        have last := (Flash.answered_unattended_of_admits counts).2 lost
        exact ⟨rfl, congrArg UInt32.toNat last⟩
      | false => exact absurd lost (Flash.answered_unattended_of_not_admits counts).2
  | copy =>
    refine ⟨_, _, run_bind_eq_ok.2 ⟨_, _, run_copy_eq_ok.2 ⟨s, hs, rfl, rfl⟩, rfl⟩,
      ⟨s, rig?_append hs _, bare⟩, rfl, ?_, nofun⟩
    exact left_of_rig? (rig?_append hs _)
  | _ => exact absurd rfl direct

/-! ## Benches that share blocks -/

section

variable {w : Bench Counted Nat κ μ} {d : Handle}

/-- A bench lets through what it lets through as it is seen. -/
theorem admits_plain (h : SeenAs w w.plain) (d : Handle) (r : Request) :
    w.plain.admits d r = w.admits d r := by
  cases r with
  | update u =>
    rw [admits, admits, rig?_plain]
    cases hd : w.rig? d with
    | none => rfl
    | some s =>
      exact (Flash.Sharing.lockstep w.config _ _).toLooking.admits (h.flash hd)
  | _ => rfl

/-- The update that takes the last of the countdown of a device without a callback loses power. As
the bench is seen, the device is wrecked with nothing left of its countdown. -/
theorem perform_last (h : w.WellFormed)
    (limit : w.config.geometry.blockSize < Config.allocationLimit) {r : Rig Nat κ}
    (hr : w.rig? d = some r) (bare : r.callback = none) (counts : w.admits d (.update u))
    (last : r.device.countdown = 1) (respond : Responder Counted Nat κ μ) :
    ∃ (w' : Bench Counted Nat κ μ) (s g : Flash Plain Block),
      (perform respond d (.update u)).run w = .ok (.error w.lossReport) w' ∧
      w'.view d = some g.device ∧ u.Fits w.config ∧
      s.device = { r.device.plain w.store with countdown := 0 } ∧
      (Flash.wreck w.config u).run s = .ok () g := by
  have there := plain_of_rig? hr
  have counts : (w.plain.flash (r.plain w.store)).admits w.config u := by
    rw [← admits_plain h.seen, admits, there] at counts
    exact counts
  obtain ⟨s, g, image, lost, fits, device, wrecked⟩ :=
    Flash.unattended_last (h.roomy limit) (h.devices there) counts last
  -- the crash of the bench as it is seen is one of the bench
  have alike : Alike (on (κ := κ) (μ := μ) d (Flash.unattended · u))
      (on d (Flash.unattended · u)) :=
    Alike.on d fun cfg others kept => (Flash.Sharing.lockstep cfg others kept).unattended u
  have run : (on d (Flash.unattended · u)).run w.plain = .ok (.error w.lossReport)
      (w.plain.settle d (r.plain w.store) { g with image := image }) := by
    rw [run_on_answered there, show w.plain.config = w.config from rfl,
      Flash.answered_eq_error.2 lost]
    rfl
  obtain ⟨w', ran, -, seen⟩ := alike.run_seen h.seen run
  refine ⟨w', s, g, ?_, ?_, fits, device, wrecked⟩
  · show (update respond d u).run w = _
    rw [update_unattended hr bare, ran]
  · rw [view_eq, seen, rig?_settle there]
    rfl

end

end Bench

end FaultyFlash
