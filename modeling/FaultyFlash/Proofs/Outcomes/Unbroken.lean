import FaultyFlash.Proofs.Fingerprint.Devices
import FaultyFlash.Proofs.Outcomes.Requests

/-!
# Invariants that are found whole

No operation on a device of a well-formed bench finds an invariant broken: not the operations that
updates are made of, on both sides of a loss of power, not the return to a state that was set aside,
and none that a request is.

## Main definitions

* `Unbroken x`: an answer that does not tell of a broken invariant

## Main results

* `Bench.WellFormed.completes`, `Bench.WellFormed.crashes`, `Bench.WellFormed.resumes`: updates that
  fit are completed, and lose power, on every device, and devices return to what was set aside
* `Bench.WellFormed.unbroken_start`, `Bench.WellFormed.unbroken_effect`: what may be refused is not
  refused for a broken invariant
-/

namespace FaultyFlash

open Flash (answered)

variable {κ μ α : Type} {u : Update} {r : Request}

/-- An answer that does not tell of a broken invariant. -/
def Unbroken (x : Except Failure α) : Prop := ∀ defect, x ≠ .error (.defect defect)

theorem unbroken_of_ok {x : Except Failure α} {a : α} (h : x = .ok a) : Unbroken x := by
  subst h
  exact nofun

theorem unbroken_of_misuse {x : Except Failure α} {m : Misuse} (h : x = .error (.misuse m)) :
    Unbroken x := by
  subst h
  exact nofun

theorem unbroken_of_fault {x : Except Failure α} {e : Fault} (h : x = .error (.fault e)) :
    Unbroken x := by
  subst h
  exact nofun

/-- An image file that refuses to be written does not tell of a broken invariant. -/
theorem unbroken_of_written {S R : Type} {w : Bench S R κ μ} {x : Except Failure Unit}
    (h : x = w.written) : Unbroken x := by
  subst h
  unfold Bench.written
  split <;> exact nofun

/-- None of the ways in which a request ends tells of a broken invariant. -/
theorem Request.Outcome.unbroken {cfg : Config} {n block : Nat} {x : Option Block}
    {answer : Except Failure r.Answer} (h : r.Outcome cfg n block x answer) : Unbroken answer := by
  by_cases lawful : r.Lawful cfg x
  case neg =>
    obtain ⟨m, refused⟩ := h.misused.2 lawful
    exact unbroken_of_misuse refused
  by_cases fails : r.Fails cfg x
  · exact unbroken_of_fault (h.corrupt.2 ⟨lawful, fails⟩)
  by_cases last : r.Counts cfg x ∧ n = 1
  · exact unbroken_of_fault (h.powerLoss.2 ⟨lawful, fails, last⟩)
  · obtain ⟨a, done⟩ := h.done.2 ⟨lawful, fails, last⟩
    exact unbroken_of_ok done

/-- An update that goes on, with power or without, fits. -/
theorem Flash.fits_of_start {S R : Type} [BlockStore S R] {cfg : Config} {f g : Flash S R}
    {how : Start} (h : (start cfg u).run f = .ok how g) (heeded : how ≠ .ignored) :
    u.Fits cfg := by
  obtain ⟨permitted, t, ran, rest⟩ := run_bind_eq_ok.1 h
  cases permitted with
  | none =>
    cases rest
    exact absurd rfl heeded
  | some worn => exact fits_of_permit ran

namespace Bench

variable {w : Bench Counted Nat κ μ} {d : Handle} {s : Rig Nat κ}

namespace WellFormed

variable (h : w.WellFormed) (hs : w.rig? d = some s)

include h hs

/-- An update may be refused or ignored, or it starts. -/
theorem unbroken_start (u : Update) :
    Unbroken (answered (Flash.start w.config u) (w.flash s)).1 := by
  have finds := h.finds hs u.block
  generalize (s.device.plain w.store).slots[u.block]?.join = x at finds
  rw [Flash.answered_start_eq]
  by_cases lawful : (Request.update u).Lawful w.config x
  case neg =>
    obtain ⟨m, refused⟩ := finds.permit_misused lawful
    rw [refused]
    exact nofun
  obtain ⟨failed, voided, permitted⟩ := finds.permit_lawful lawful
  by_cases fails : (Request.update u).Fails w.config x
  · rw [failed fails]
    exact nofun
  by_cases ignored : (Request.update u).Ignored w.config x
  · rw [voided ignored]
    exact nofun
  · rw [permitted fails ignored]
    exact nofun

/-- A device returns to the state that was set aside last, and the image file is written. -/
theorem resumes {t : Suspension Nat} {rest : List (Suspension Nat)}
    (top : w.suspended = t :: rest) :
    (answered (Flash.restore w.config t.slots t.generator) (w.flash s)).1 = w.written := by
  have there := plain_of_rig? hs
  have aside : w.plain.suspended = t.plain w.store :: rest.map (Suspension.plain w.store) := by
    rw [plain, top, List.map_cons]
  have slots : (t.plain w.store).slots.Sound w.config := h.tables (aside ▸ List.mem_cons_self)
  obtain ⟨image, -, restored⟩ := Flash.writes_restore (f := w.plain.flash (s.plain w.store)) slots
    t.generator (h.devices there) fun _ =>
      Nat.pos_of_ne_zero (Geometry.of_check h.geometry).2.2.2
  obtain ⟨v, resumed⟩ : ∃ v, (resume d).run w.plain = .ok w.written v := by
    rw [run_resume, aside]
    exact ⟨_, run_on_eq_ok.2 ⟨_, there, congrArg Prod.fst restored, rfl⟩⟩
  obtain ⟨_, ran, -⟩ := (Alike.resume d).run_seen h.seen resumed
  rw [run_resume, top] at ran
  obtain ⟨r, hr, done, -⟩ := run_on_eq_ok.1 ran
  obtain rfl : s = r := Option.some.inj (hs.symm.trans hr)
  exact done

variable (limit : w.config.geometry.blockSize < Config.allocationLimit)

include limit

/-- An update that fits is completed, and the image file is written. -/
theorem completes (fits : u.Fits w.config) (worn : Bool) :
    (answered (Flash.complete w.config worn u) (w.flash s)).1 = w.written := by
  have alike := Flash.answered_of_preserves
    ((Flash.Sharing.lockstep w.config _ _).complete worn u) (h.seen.flash hs)
  exact alike.1.trans (Flash.answered_complete (f := w.plain.flash (s.plain w.store))
    (h.roomy limit) fits worn (h.devices (plain_of_rig? hs)))

/-- Losing power during an update that fits leaves what is left, and the image file is written. -/
theorem crashes (fits : u.Fits w.config) :
    (answered (Flash.crash w.config u) (w.flash s)).1 = w.written := by
  have sound : (s.device.plain w.store).Sound w.config := h.devices (plain_of_rig? hs)
  obtain ⟨g, -, left, _, -, crashed⟩ :=
    Flash.writes_crash (f := w.plain.flash (s.plain w.store)) (h.roomy limit) fits ⟨sound, rfl⟩
  have image : g.image = w.image := left.image
  have alike := Flash.answered_of_preserves
    ((Flash.Sharing.lockstep w.config _ _).crash u) (h.seen.flash hs)
  rw [alike.1, crashed, Flash.written, Flash.refuses, image]
  rfl

/-- A request that is one operation on a device may be refused, or it is done. -/
theorem unbroken_effect (direct : r.isDirect) :
    Unbroken (answered (r.effect w.config) (w.flash s)).1 := by
  cases names : r.block? with
  | some block =>
    obtain ⟨answer, v, ran, outcome, -⟩ :=
      h.direct limit hs names direct 0 (fun _ _ => throw .exhausted) rfl
    rw [perform_direct _ d direct, run_on_answered hs] at ran
    obtain ⟨rfl, -⟩ := EStateM.Result.ok.inj ran
    by_cases flips : ∀ i bit, r = .flipBit i bit → w.refuses = false
    · exact (outcome flips).unbroken
    -- what is left is a bit that is inverted where the image file refuses to show it
    simp only [not_forall] at flips
    obtain ⟨i, bit, rfl, -⟩ := flips
    by_cases lawful : (Request.flipBit i bit).Lawful w.config none
    · exact unbroken_of_written (h.flips limit hs lawful.1 lawful.2)
    · obtain ⟨m, refused⟩ := Flash.effect_misused rfl direct lawful (w.flash s)
      exact unbroken_of_misuse (congrArg Prod.fst refused)
  | none =>
    cases r with
    | fingerprint =>
      exact unbroken_of_ok (congrArg Prod.fst (Flash.answered_fingerprint (h.finds hs)))
    | sync =>
      refine unbroken_of_ok (a := ()) ?_
      show (answered Flash.sync (w.flash s)).1 = _
      unfold answered Flash.sync
      simp only [EStateM.run_bind, EStateM.run_get]
      cases (w.flash s).device.synced <;> rfl
    | update | copy => cases direct
    | drawBytes | counter | setCounter | countdown | setCountdown | generator | allocated | config
    | image => exact unbroken_of_ok rfl
    | _ => cases names

end WellFormed

end Bench

end FaultyFlash
