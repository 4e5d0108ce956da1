import FaultyFlash.Proofs.Invariants
import FaultyFlash.Proofs.Transcripts

/-!
# Countdowns that are off

A device with its countdown off is compared with the same device while it counts down. The two
answer alike, draw the same words, and leave the same behind but for the countdown, until the
countdown runs out. As nothing else differs, not even the references into the store, the second run
is the first with the countdown forgotten.

## Main definitions

* `Flash.Silenced f g`: a device, and the same device with its countdown off
* `Request.apartCountdown`: answers as they are seen without a look at the countdown
* `Bench.silenced d k`: a bench on which the countdowns of a device and of the copies made since are
  off

## Main results

* `Flash.Silenced.lockstep`: what does not look at the countdown keeps two such devices
* `Flash.Silenced.unattended`: so does an update that does not take the last of the countdown
* `Bench.Bare.perform_silenced`: so do requests on a bench
-/

namespace FaultyFlash

open EStateM (run_bind)
open Flash (answered)

variable {S R κ μ α : Type} {cfg : Config}

/-! ## Devices -/

namespace Flash

/-- The second device is the first with its countdown off. -/
abbrev Silenced (f g : Flash S R) : Prop := g = f.rearm 0

namespace Silenced

theorem slot (block : Nat) :
    Preserves Silenced (Flash.slot block : FlashM S R _) (Flash.slot block) := by
  rintro f _ rfl
  have same : (f.rearm 0).device.slots[block]? = f.device.slots[block]? := rfl
  rw [run_slot, run_slot, same]
  cases f.device.slots[block]? <;> exact ⟨rfl, rfl⟩

theorem drawBelow (n : Nat) :
    Preserves Silenced (Flash.drawBelow n : FlashM S R _) (Flash.drawBelow n) :=
  preserves_drawBelow (fun _ _ h => h ▸ rfl) (fun _ _ _ h => h ▸ rfl) n

/-- A change that leaves the countdown alone may come before or after it is turned off. -/
theorem modify {h : Flash S R → Flash S R} (apart : ∀ f, h (f.rearm 0) = (h f).rearm 0) :
    Preserves Silenced (modify h : FlashM S R PUnit) (modify h) := by
  rintro f _ rfl
  exact ⟨rfl, apart f⟩

theorem modifyDevice {h : Device R → Device R}
    (apart : ∀ D, h { D with countdown := 0 } = { h D with countdown := 0 }) :
    Preserves Silenced (Flash.modifyDevice h : FlashM S R Unit) (Flash.modifyDevice h) :=
  modify fun f => congrArg (fun D => { f with device := D }) (apart f.device)

/-- What a question finds at both devices, it answers for both. -/
theorem get_bind {k : Flash S R → FlashM S R α}
    (same : ∀ f, k (f.rearm 0) = k f) (kept : ∀ f, Preserves Silenced (k f) (k f)) :
    Preserves Silenced (get >>= k) (get >>= k) := by
  refine Coupled.get_bind ?_
  rintro f _ rfl
  rw [same]
  exact (kept f).mono (fun _ _ h => h.2.2) (fun _ _ _ => id) fun _ _ => id

/-- What is answered and left with the countdown off, if power is not lost. -/
theorem answered_of_kept {op : FlashM S R α} (kept : Preserves Silenced op op)
    (f : Flash S R) : answered op (f.rearm 0) = ((answered op f).1, (answered op f).2.rearm 0) :=
  have ⟨same, silenced⟩ := answered_of_preserves kept (f := f) rfl
  Prod.ext same.symm silenced

variable [BlockStore S R]

theorem deref (block : Nat) (r : R) :
    Preserves Silenced (Flash.deref block r : FlashM S R _) (Flash.deref block r) := by
  rintro f _ rfl
  have same : BlockStore.contents (f.rearm 0).store r = BlockStore.contents f.store r := rfl
  rw [run_deref, run_deref, same]
  cases BlockStore.contents f.store r <;> exact ⟨rfl, rfl⟩

theorem fetch (block : Nat) :
    Preserves Silenced (Flash.fetch block : FlashM S R _) (Flash.fetch block) := by
  refine (slot block).bind fun r => ?_
  cases r with
  | none => exact .answer _
  | some r => exact (deref block r).bind fun b => .answer _

theorem alloc (b : Block) : Preserves Silenced (Flash.alloc b : FlashM S R _) (Flash.alloc b) := by
  rintro f _ rfl
  exact ⟨rfl, rfl⟩

theorem own (cfg : Config) (block : Nat) :
    Preserves Silenced (Flash.own cfg block : FlashM S R _) (Flash.own cfg block) := by
  refine (slot block).bind fun r => ?_
  cases r with
  | none =>
    refine (drawBelow _).bind fun _ => ?_
    split
    · exact .raise _ fun _ _ => id
    · exact (alloc _).bind fun r => (modifyDevice fun _ => rfl).bind fun _ => .answer _
  | some r =>
    refine (deref block r).bind fun b => get_bind (fun _ => rfl) fun f => ?_
    split
    · exact .answer b
    · refine Coupled.bind ?_ fun _ => .answer b
      exact (alloc b).bind fun twin => (modify fun _ => rfl).bind fun _ => modifyDevice fun _ => rfl

theorem put (block : Nat) (b : Block) :
    Preserves Silenced (Flash.put block b : FlashM S R _) (Flash.put block b) := by
  refine (slot block).bind fun r => ?_
  cases r with
  | none => exact .raise _ fun _ _ => id
  | some r =>
    exact get_bind (fun _ => rfl) fun _ => (modify fun _ => rfl).bind fun _ =>
      modifyDevice fun _ => rfl

theorem sync : Preserves Silenced (Flash.sync : FlashM S R _) Flash.sync := by
  refine get_bind (fun _ => rfl) fun f => ?_
  cases f.device.synced with
  | none => exact .answer _
  | some old =>
    exact get_bind (fun _ => rfl) fun _ => (modify fun _ => rfl).bind fun _ =>
      (modify fun _ => rfl).bind fun _ => modifyDevice fun _ => rfl

theorem adopt (slots : Slots R) :
    Preserves Silenced (Flash.adopt slots : FlashM S R _) (Flash.adopt slots) :=
  get_bind (fun _ => rfl) fun _ => (modify fun _ => rfl).bind fun _ =>
    (modify fun _ => rfl).bind fun _ => modifyDevice fun _ => rfl

theorem rollBack (synced : Slots R) (block : Nat) :
    Preserves Silenced (Flash.rollBack synced block : FlashM S R _)
      (Flash.rollBack synced block) := by
  refine get_bind (fun _ => rfl) fun _ => ?_
  dsimp only
  split
  · exact .raise _ fun _ _ => id
  · exact (slot block).bind fun r => adopt _

/-- What does not look at the countdown keeps a device and the same device with its countdown
off. -/
theorem lockstep (cfg : Config) :
    CrashLockstep cfg (Silenced (S := S)) fun _ _ => Silenced where
  look block := look_of_preserves (fetch block)
  generator h := h ▸ rfl
  reseed _ h := h ▸ rfl
  tally c n h := by
    subst h
    cases c <;> rfl
  own := own cfg
  put block _ _ _ := put block _
  of_owned := id
  reseed_owned _ h := h ▸ rfl
  image h := h ▸ rfl
  write {f g i j} size block off data h hi hj := by
    subst h
    obtain rfl : i = j := Option.some.inj (hi.symm.trans hj)
    rfl
  sync := sync
  synced h := h ▸ rfl
  rollBack {f g s t} block h hs ht := by
    subst h
    obtain rfl : s = t := Option.some.inj (hs.symm.trans ht)
    exact rollBack s block f _ rfl

end Silenced

end Flash

/-! ## Requests -/

/-- An answer, without what is left of the countdown. -/
def Request.apartCountdown : (r : Request) → Except Failure r.Answer → Except Failure r.Answer
  | .countdown, x => x.map fun _ => 0
  | _, x => x

namespace Flash.Silenced

variable [BlockStore S R] {u : Update}

/-- A request that is one operation on the device, and does not set the countdown, is answered alike
apart from the countdown. -/
theorem effect (cfg : Config) {r : Request} (direct : r.isDirect)
    (untimed : ∀ n, r ≠ .setCountdown n) (f : Flash S R) :
    r.apartCountdown (answered (r.effect cfg) (f.rearm 0)).1 =
        r.apartCountdown (answered (r.effect cfg) f).1 ∧
      (answered (r.effect cfg) (f.rearm 0)).2 = (answered (r.effect cfg) f).2.rearm 0 := by
  by_cases basic : r.isBasic
  · rw [answered_of_kept ((lockstep cfg).basic basic) f]
    exact ⟨rfl, rfl⟩
  cases r with
  | blockRefs block =>
    rw [answered_of_kept _ f]
    · exact ⟨rfl, rfl⟩
    · refine (preserves_contract _).bind fun _ => (slot block).bind fun r => ?_
      cases r with
      | none => exact .answer _
      | some r => exact get_bind (fun _ => rfl) fun g => .answer _
  | setCounter c value => cases c <;> exact ⟨rfl, rfl⟩
  | counter c => cases c <;> exact ⟨rfl, rfl⟩
  | setCountdown n => exact absurd rfl (untimed n)
  | countdown | allocated | image => exact ⟨rfl, rfl⟩
  | _ => first | exact absurd rfl basic | cases direct

/-- An update that does not take the last of the countdown is answered alike. -/
theorem unattended {f : Flash S R} (spared : ¬ (f.admits cfg u ∧ f.device.countdown = 1)) :
    answered (Flash.unattended cfg u) (f.rearm 0) =
      ((answered (Flash.unattended cfg u) f).1,
        (answered (Flash.unattended cfg u) f).2.rearm 0) := by
  have L := lockstep (S := S) cfg
  have leaves : Leaves id (permit cfg u : FlashM S R _) := .permit cfg u
  have same : (answered (permit cfg u) f).2.device = f.device := leaves f
  have permits : Preserves Silenced (permit cfg u) (permit cfg u) := L.permit u
  have permitted := answered_of_kept permits f
  unfold admits at spared
  generalize hp : answered (permit cfg u) f = a at permitted same spared
  obtain ⟨e | _ | worn, g⟩ := a
  · simp only [Flash.unattended, answered_bind, answered_start_eq, hp, permitted]
    rfl
  · simp only [Flash.unattended, answered_bind, answered_start_eq, hp, permitted]
    rfl
  · have goesOn : g.device.countdown ≠ 1 := fun last => spared ⟨rfl, same ▸ last⟩
    have off : ¬ (g.rearm 0).device.countdown = 1 := by
      show ¬ (0 : UInt32) = 1
      decide
    rw [answered_unattended permitted, if_neg off, answered_unattended hp, if_neg goesOn]
    exact answered_of_kept (L.complete worn u) (g.rearm (left g.device.countdown _))

end Flash.Silenced

/-! ## Benches -/

/-- A device with its countdown off. -/
def Rig.silenced (r : Rig R κ) : Rig R κ :=
  { r with device := { r.device with countdown := 0 } }

namespace Bench

/-- The bench with the countdowns of a device off, and of those that came after the first `k`. -/
def silenced (d : Handle) (k : Nat) (w : Bench S R κ μ) : Bench S R κ μ :=
  { w with rack := w.rack.mapIdx fun e r => if e = d ∨ k ≤ e then r.map Rig.silenced else r }

variable {d : Handle} {k : Nat} {w v : Bench S R κ μ} {r : Rig R κ}

theorem rig?_silenced (h : w.rig? d = some r) : (w.silenced d k).rig? d = some r.silenced := by
  rw [rig?_eq_some] at h ⊢
  simp [silenced, h]

theorem silenced_settle (w : Bench S R κ μ) (d : Handle) (k : Nat) (r : Rig R κ) (f : Flash S R) :
    (w.settle d r f).silenced d k = (w.silenced d k).settle d r.silenced (f.rearm 0) := by
  simp only [silenced, settle, List.mapIdx_set, true_or, if_true]
  rfl

/-- A copy that is made of the device is off, too. -/
theorem silenced_append (h : k ≤ w.rack.length) (store : S) (r : Rig R κ) :
    { w with store := store, rack := w.rack ++ [some r] }.silenced d k =
      { w.silenced d k with
        store := store, rack := (w.silenced d k).rack ++ [some r.silenced] } := by
  simp [silenced, List.mapIdx_append, h]

theorem run_on_silenced (hr : w.rig? d = some r) (op : Config → FlashM S R α) :
    (on d op).run (w.silenced d k) = .ok (answered (op w.config) ((w.flash r).rearm 0)).1
      ((w.silenced d k).settle d r.silenced (answered (op w.config) ((w.flash r).rearm 0)).2) :=
  run_on_answered (rig?_silenced hr) op

variable [BlockStore S R]

/-- A request on a device without a callback gives no handle back. -/
theorem Bare.length_perform (h : Bare d w) {respond : Responder S R κ μ} {q : Request}
    {x : Except Failure q.Answer} (run : (Bench.perform respond d q).run w = .ok x v) :
    w.rack.length ≤ v.rack.length := by
  obtain ⟨r, hr, bare⟩ := h
  by_cases direct : q.isDirect
  · rw [perform_direct respond d direct, run_on_answered hr] at run
    cases run
    simp [settle]
  cases q with
  | update u =>
    change (Bench.update respond d u).run w = _ at run
    rw [update_unattended hr bare, run_on_answered hr] at run
    cases run
    simp [settle]
  | copy =>
    obtain ⟨_, _, copied, rest⟩ := run_bind_eq_ok.1 run
    obtain ⟨_, -, -, rfl⟩ := run_copy_eq_ok.1 copied
    cases rest
    simp
  | _ => exact absurd rfl direct

/-- As long as power is not lost, a request on a device without a callback does what it does with
the countdown off, and its answer is the same apart from the countdown. -/
theorem Bare.perform_silenced (h : Bare d w) (respond : Responder S R κ μ) {q : Request}
    (untimed : ∀ n, q ≠ .setCountdown n) (later : k ≤ w.rack.length)
    (spared : ¬ (w.admits d q ∧ w.left d = 1)) {x : Except Failure q.Answer}
    (run : (Bench.perform respond d q).run w = .ok x v) :
    ∃ y, (Bench.perform respond d q).run (w.silenced d k) = .ok y (v.silenced d k) ∧
      q.apartCountdown y = q.apartCountdown x := by
  obtain ⟨r, hr, bare⟩ := h
  by_cases direct : q.isDirect
  · obtain ⟨same, silenced⟩ := Flash.Silenced.effect w.config direct untimed (w.flash r)
    rw [perform_direct respond d direct, run_on_answered hr] at run
    cases run
    rw [perform_direct respond d direct, run_on_silenced hr, silenced, ← silenced_settle]
    exact ⟨_, rfl, same⟩
  cases q with
  | update u =>
    have hold : ¬ ((w.flash r).admits w.config u ∧ (w.flash r).device.countdown = 1) := by
      rintro ⟨counts, last⟩
      refine spared ⟨?_, ?_⟩
      · rwa [admits, hr, Option.elim_some]
      · rw [left_of_rig? hr]
        exact congrArg UInt32.toNat last
    change (Bench.update respond d u).run w = _ at run
    rw [update_unattended hr bare, run_on_answered hr] at run
    cases run
    show ∃ y, (Bench.update respond d u).run (w.silenced d k) = _ ∧ _
    rw [update_unattended (rig?_silenced hr) bare, run_on_silenced hr,
      Flash.Silenced.unattended hold, ← silenced_settle]
    exact ⟨_, rfl, rfl⟩
  | copy =>
    obtain ⟨_, _, copied, rest⟩ := run_bind_eq_ok.1 run
    obtain ⟨r, hr, -, rfl⟩ := run_copy_eq_ok.1 copied
    cases rest
    refine ⟨_, run_bind_eq_ok.2 ⟨_, _, run_copy_eq_ok.2 ⟨_, rig?_silenced hr, rfl, ?_⟩, rfl⟩, rfl⟩
    exact (silenced_append later _ { device := r.device }).symm
  | _ => exact absurd rfl direct

end Bench

end FaultyFlash
