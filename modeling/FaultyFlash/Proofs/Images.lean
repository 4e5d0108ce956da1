import FaultyFlash.Proofs.Invariants
import FaultyFlash.Proofs.Likeness

/-!
# Image files that refuse to be written

No operation makes or removes an image file. A file that refuses what is written to it refuses it
every time, so no operation that ends in such a write answers. All the same the device has changed
by then, so what fails by nothing but such a write was carried out.

## Main definitions

* `Flash.HasImage`: a device with or without an image file
* `Flash.refuses`, `Bench.refuses`: the image file refuses to be written
* `Flash.written`, `Bench.written`: what a write to the image file answers
* `Flash.lossReport`, `Bench.lossReport`: what an update without a callback reports as it loses
  power
* `carriedOut`: an operation was answered, or failed by a write to the image file
* `Flash.Dry`: an operation does not fail by such a write

## Main results

* `Flash.imagedLockstep`: no operation makes or removes an image file
* `Flash.Dry.reached`: what is dry is answered in what is carried out
* `Flash.takes_of_crash`: a loss of power does not answer where the image file refuses to be written
-/

namespace FaultyFlash

/-- Is it a write to the image file that failed? -/
def Failure.isIo : Failure → Bool
  | .fault (.io _) => true
  | _ => false

/-- Was an operation carried out? Then it was answered, or all that failed was the write to the
image file in which it ends. -/
def carriedOut {α : Type} : Except Failure α → Bool
  | .ok _ => true
  | .error e => e.isIo

namespace Flash

variable {S R α : Type} {cfg : Config} {imaged : Bool} {u : Update} {f g : Flash S R}

/-! ## Devices with image files -/

/-- The device has an image file, or it has none. -/
def HasImage (imaged : Bool) (f : Flash S R) : Prop := f.image.isSome = imaged

/-- Is there an image file that refuses whatever is written to it? -/
def refuses (cfg : Config) (f : Flash S R) : Bool := f.image.isSome && cfg.image = .sealed

/-- What a write to the image file answers. -/
def written (cfg : Config) (f : Flash S R) : Except Failure Unit :=
  if f.refuses cfg then .error (.fault (.io none)) else .ok ()

/-- What an update without a callback reports as it loses power: the loss, unless the image file
refuses to show what is left. -/
def lossReport (cfg : Config) (f : Flash S R) : Failure :=
  if f.refuses cfg then .fault (.io none) else .fault .powerLoss

theorem refuses_of_ne (taken : cfg.image ≠ .sealed) (f : Flash S R) : f.refuses cfg = false := by
  simp [refuses, taken]

theorem refuses_congr (same : g.image.isSome = f.image.isSome) :
    g.refuses cfg = f.refuses cfg := by
  rw [refuses, refuses, same]

theorem written_eq_ok (takes : f.refuses cfg = false) : f.written cfg = .ok () := by
  simp [written, takes]

/-- What keeps devices with an image file, and those without one, makes and removes none. -/
theorem image_of_preserves {op : FlashM S R α}
    (kept : ∀ imaged, Preserves (Diagonal (HasImage imaged)) op op) (f : Flash S R) :
    (answered op f).2.image.isSome = f.image.isSome := by
  obtain ⟨-, -, same⟩ := answered_of_preserves (kept f.image.isSome) ⟨rfl, rfl⟩
  exact same

variable [BlockStore S R]

/-- No operation makes or removes an image file. -/
theorem imagedLockstep (imaged : Bool) (cfg : Config) :
    TimedLockstep cfg (Diagonal (HasImage (S := S) (R := R) imaged))
      fun _ _ => Diagonal (HasImage imaged) where
  toLooking := looking_diagonal (fun _ _ => id) fun _ _ _ => id
  own block := by
    apply Ends.of_run
    intro f h
    simp only [Flash.own, EStateM.run_bind, run_slot]
    rcases f.device.slots[block]? with _ | _ | r
    · exact h
    · by_cases bits : cfg.geometry.blockBits = 0
      · simp only [Flash.allocate, drawBelow, bits]
        exact h
      · simp only [Flash.allocate, EStateM.run_bind, run_drawBelow bits]
        by_cases full : Config.allocationLimit ≤ cfg.geometry.blockSize
        · rw [if_pos full]
          exact h
        · rw [if_neg full]
          exact h
    · simp only [EStateM.run_bind, run_deref]
      rcases BlockStore.contents f.store r with _ | b
      · exact h
      · simp only [EStateM.run_get]
        by_cases alone : BlockStore.refs f.store r = 1
        · rw [if_pos alone]
          exact h
        · rw [if_neg alone]
          exact h
  put block _ _ _ := by
    apply Ends.of_run
    intro f h
    simp only [Flash.put, EStateM.run_bind, run_slot]
    rcases f.device.slots[block]? with _ | _ | r <;> exact h
  of_owned h := h
  reseed_owned x := by
    rintro ⟨rfl, h⟩
    exact ⟨rfl, h⟩
  image h := by rw [h.1]
  write size block off data := by
    rintro ⟨rfl, h⟩ hi hj
    obtain rfl := Option.some.inj (hi.symm.trans hj)
    rw [HasImage, hi] at h
    exact ⟨rfl, h⟩
  sync := by
    apply Ends.of_run
    intro f h
    simp only [Flash.sync, EStateM.run_bind, EStateM.run_get]
    rcases f.device.synced with _ | old <;> exact h
  synced h := by rw [h.1]
  rollBack {_ _ s _} block := by
    rintro ⟨rfl, h⟩ hs ht
    obtain rfl := Option.some.inj (hs.symm.trans ht)
    suffices ends : Ends (HasImage imaged) (Flash.rollBack s block) (fun _ => HasImage imaged)
        (HasImage imaged) from ends _ _ ⟨rfl, h⟩
    apply Ends.of_run
    intro f h
    simp only [Flash.rollBack, EStateM.run_bind, EStateM.run_get]
    by_cases length : s.length = f.device.slots.length
    · rw [if_neg (not_not_intro length)]
      simp only [EStateM.run_bind, run_slot]
      rcases f.device.slots[block]? with _ | x <;> exact h
    · rw [if_pos length]
      exact h
  countdown h := by rw [h.1]
  rearm n := by
    rintro ⟨rfl, h⟩
    exact ⟨rfl, h⟩

/-- No request makes or removes an image file. -/
theorem image_effect (r : Request) (f : Flash S R) :
    (answered (r.effect cfg) f).2.image.isSome = f.image.isSome :=
  image_of_preserves
    (fun imaged => (imagedLockstep imaged cfg).effect_diagonal (fun _ _ _ h => h) r) f

/-! ## Operations that write nothing out -/

section Dry

variable {S R α β : Type} {f : Flash S R}

/-- The operation does not fail by a write to the image file. -/
def Dry (op : FlashM S R α) : Prop := ∀ f e g, op.run f = .error e g → e.isIo = false

theorem Dry.bind {m : FlashM S R α} {next : α → FlashM S R β} (hm : Dry m)
    (hk : ∀ a, Dry (next a)) : Dry (m >>= next) := by
  intro f e g run
  rw [EStateM.run_bind] at run
  cases hr : m.run f with
  | ok a t =>
    rw [hr] at run
    exact hk a t e g run
  | error e' t =>
    rw [hr] at run
    cases run
    exact hm f _ _ hr

/-- In what is carried out, an operation that is dry is answered, and the rest is reached. -/
theorem Dry.reached {m : FlashM S R α} {next : α → FlashM S R β} (hm : Dry m)
    (h : carriedOut (answered (m >>= next) f).1) :
    ∃ a g, m.run f = .ok a g ∧ answered (m >>= next) f = answered (next a) g := by
  rw [answered_bind] at h ⊢
  cases hr : m.run f with
  | ok a g => exact ⟨a, g, rfl, by rw [answered_eq_ok.2 hr]⟩
  | error e g =>
    rw [answered_eq_error.2 hr, carriedOut, hm f e g hr] at h
    cases h

theorem Dry.contract (x : Except Misuse α) : Dry (Flash.contract x : FlashM S R α) := by
  rintro f e g run
  cases x <;> cases run
  rfl

theorem Dry.sound (x : Except Defect α) : Dry (Flash.sound x : FlashM S R α) := by
  rintro f e g run
  cases x <;> cases run
  rfl

theorem Dry.drawBelow (n : Nat) : Dry (Flash.drawBelow n : FlashM S R Nat) := by
  intro f e g run
  by_cases none : n = 0
  · subst none
    cases run
    rfl
  · rw [run_drawBelow none] at run
    cases run

theorem Dry.fetch (block : Nat) : Dry (Flash.fetch (S := Plain) block) := by
  intro f e g run
  rw [run_fetch_plain] at run
  split at run <;> cases run
  rfl

theorem Dry.own (cfg : Config) (block : Nat) : Dry (Flash.own (S := Plain) cfg block) := by
  intro f e g run
  rw [run_own_plain] at run
  split at run
  · cases run
  · rw [run_allocate_plain] at run
    split at run
    · cases run
      rfl
    split at run <;> cases run
    rfl
  · cases run
    rfl

theorem Dry.put (block : Nat) (c : Block) : Dry (Flash.put (S := Plain) block c) := by
  intro f e g run
  rw [run_put_plain] at run
  split at run <;> cases run <;> rfl

theorem Dry.amend (cfg : Config) (block : Nat) (change : Block → Except Defect Block) :
    Dry (Flash.amend (S := Plain) cfg block change) :=
  (Dry.own cfg block).bind fun _ => (Dry.sound _).bind fun _ => Dry.put block _

end Dry

/-! ## Operations that end in a write -/

omit [BlockStore S R] in
theorem takes_of_writeOut {image : Image} {a : Unit}
    (h : (writeOut cfg image).run f = .ok a g) : cfg.image ≠ .sealed := by
  intro sealed
  rw [writeOut, if_pos sealed] at h
  cases h

theorem takes_of_save {block off len : Nat} {a : Unit}
    (h : (save cfg block off len).run f = .ok a g) : f.refuses cfg = false := by
  obtain ⟨_, _, got, rest⟩ := run_bind_eq_ok.1 h
  cases got
  cases hi : f.image with
  | none => rw [refuses, hi]; rfl
  | some image =>
    rw [hi] at rest
    obtain ⟨x, t, -, rest⟩ := run_bind_eq_ok.1 rest
    refine refuses_of_ne ?_ f
    cases x with
    | none => exact takes_of_writeOut rest
    | some b =>
      obtain ⟨data, s, -, rest⟩ := run_bind_eq_ok.1 rest
      exact takes_of_writeOut rest

theorem takes_of_saveAll (some : 0 < cfg.geometry.blockCount) {a : Unit}
    (h : (saveAll cfg).run f = .ok a g) : f.refuses cfg = false := by
  obtain ⟨_, _, got, rest⟩ := run_bind_eq_ok.1 h
  cases got
  cases there : f.image.isSome with
  | false => rw [refuses, there]; rfl
  | true =>
    -- the first block is written, too
    obtain ⟨n, count⟩ := Nat.exists_eq_succ_of_ne_zero (Nat.ne_of_gt some)
    rw [there, if_pos rfl, count, List.range_succ_eq_map] at rest
    obtain ⟨_, t, saved, -⟩ := run_bind_eq_ok.1 rest
    exact takes_of_save saved

/-- A loss of power does not answer where the image file refuses to be written. -/
theorem takes_of_crash (some : 0 < cfg.geometry.blockCount) {a : Unit}
    (h : (crash cfg u).run f = .ok a g) : f.refuses cfg = false := by
  obtain ⟨_, t, torn, rest⟩ := run_bind_eq_ok.1 h
  obtain ⟨_, _, got, rest⟩ := run_bind_eq_ok.1 rest
  cases got
  have L := imagedLockstep (S := S) (R := R) f.image.isSome cfg
  have kept := (L.tear u).after ⟨rfl, rfl⟩ torn
  rw [← refuses_congr kept.2]
  cases hs : t.device.synced with
  | none =>
    rw [hs] at rest
    exact takes_of_save rest
  | some before =>
    rw [hs] at rest
    obtain ⟨_, r, rolled, saved⟩ := run_bind_eq_ok.1 rest
    have back := L.rollBack u.block kept hs hs
    rw [rolled] at back
    rw [← takes_of_saveAll some saved]
    exact refuses_congr (kept.2.trans back.2.2.symm)

end Flash

namespace Bench

variable {S R κ μ : Type}

/-- Is there an image file that refuses whatever is written to it? -/
def refuses (w : Bench S R κ μ) : Bool := w.image.isSome && w.config.image = .sealed

/-- What a write to the image file answers. -/
def written (w : Bench S R κ μ) : Except Failure Unit :=
  if w.refuses then .error (.fault (.io none)) else .ok ()

/-- What an update of a device without a callback reports as the device loses power: the loss,
unless the image file refuses to show what is left. -/
def lossReport (w : Bench S R κ μ) : Failure :=
  if w.refuses then .fault (.io none) else .fault .powerLoss

theorem refuses_of_ne {w : Bench S R κ μ} (taken : w.config.image ≠ .sealed) :
    w.refuses = false := by
  simp [refuses, taken]

/-- What ends in a write to the image file was carried out, whatever becomes of the write. -/
theorem carriedOut_written (w : Bench S R κ μ) : carriedOut w.written := by
  unfold written
  split <;> rfl

/-- Where the image file takes what is written to it, the loss of power itself is reported. -/
theorem lossReport_of_takes {w : Bench S R κ μ} (takes : w.refuses = false) :
    w.lossReport = .fault .powerLoss := by
  simp [lossReport, takes]

end Bench

end FaultyFlash
