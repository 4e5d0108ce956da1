import FaultyFlash.Proofs.Completion
import FaultyFlash.Proofs.Outcomes.Contracts

/-!
# Updates that are done

An update that is done was ignored, or it was completed. If power was lost on the way, its callback
resumed it; then it was completed on the blocks and with the generator that the device had when it
started, whatever was done meanwhile by the callback and by the callbacks that it called for.

## Main definitions

* `Update.Completes`: an update completed on the blocks of a device

## Main results

* `Bench.resume_ok`: a return to the state that was set aside last
* `Bench.interrupt_ok`: an update that goes on after a loss of power starts over
* `Bench.update_ok`: an update that is done was ignored or completed
-/

namespace FaultyFlash

open Flash (answered)

variable {κ μ : Type} {cfg : Config} {u : Update} {worn : Bool}

/-- An update was completed on a device with the blocks and the generator of `D`, and left `E`. -/
def Update.Completes (cfg : Config) (u : Update) (worn : Bool) (D E : Device Block) : Prop :=
  ∃ f g : Flash Plain Block, f.device.slots = D.slots ∧ f.device.generator = D.generator ∧
    (Flash.complete cfg worn u).run f = .ok () g ∧ g.device = E

/-- An update that is let through loses power if it takes the last of the countdown. -/
theorem Flash.answered_start_of_permit {S R : Type} [BlockStore S R] {f : Flash S R}
    (h : answered (permit cfg u) f = (.ok (some worn), f)) :
    answered (start cfg u) f =
      (.ok (if f.device.countdown = 1 then .powerLost worn else .proceed worn),
        f.rearm (left f.device.countdown (.ok (some worn)))) := by
  rw [answered_start_eq, h]
  rfl

/-- A device that returns to a state has its table and its generator, whether or not the image file
can be written. -/
theorem Flash.device_restore (cfg : Config) (slots : Slots Block) (x : Generator)
    (f : Flash Plain Block) : (answered (restore cfg slots x) f).2.device =
      { f.device with slots := slots, generator := x } :=
  (Leaves.saveAll cfg : Leaves id (saveAll cfg))
    { f with device := { f.device with slots := slots, generator := x } }

namespace Bench

variable {d : Handle}

/-- A return to the state that was set aside last gives a device the blocks and the generator that
were set aside. -/
theorem resume_ok {w v : Bench Plain Block κ μ} (h : (resume d).run w = .ok (.ok ()) v) :
    ∃ s rest r, w.suspended = s :: rest ∧ v.rig? d = some r ∧ r.device.slots = s.slots ∧
      r.device.generator = s.generator := by
  rw [run_resume] at h
  rcases hs : w.suspended with _ | ⟨s, rest⟩
  · rw [hs] at h
    cases h
  · rw [hs] at h
    obtain ⟨r, hr, -, -⟩ := run_on_eq_ok.1 h
    obtain ⟨g, restored, rfl⟩ := on_ok hr h
    have device := Flash.device_restore w.config s.slots s.generator
      ({ w with suspended := rest }.flash r)
    rw [Flash.answered_eq_ok.2 restored] at device
    exact ⟨s, rest, _, rfl, rig?_settle hr g, congrArg Device.slots device,
      congrArg Device.generator device⟩

/-- An update goes on only if the verdict says so. -/
theorem conclude_ok {S R : Type} [BlockStore S R] {w v : Bench S R κ μ}
    {x : Except Failure Verdict} (h : (conclude d x).run w = .ok (.ok ()) v) :
    x = .ok .resume ∧ (resume d).run w = .ok (.ok ()) v := by
  rcases x with e | _ | _
  · obtain ⟨_, _, -, answered⟩ := run_bind_eq_ok.1 h
    cases answered
  · exact ⟨rfl, h⟩
  · obtain ⟨_, _, -, answered⟩ := run_bind_eq_ok.1 h
    cases answered

variable {aside : List (Suspension Block)} {imaged : Bool} {w v : Bench Counted Nat κ μ}

/-- A bench that stays sound, as it is seen, where the states `aside` are set aside. -/
abbrev Staying (cfg : Config) (imaged : Bool) (aside : List (Suspension Block)) :
    Bench Counted Nat κ μ → Bench Counted Nat κ μ → Prop :=
  Through (StaysSound cfg imaged (fun _ => False) (fun _ => True) aside)

/-- Who answers losses of power leaves benches sound, and what is set aside. -/
abbrev Steady (respond : Responder Counted Nat κ μ) : Prop :=
  ∀ cfg imaged, Respond (fun a b => a = b ∧ True) (fun _ => True) (Staying cfg imaged) respond
    respond

/-- Callbacks that are interplays do so. -/
theorem steady_respondBy (reactions : Reactions κ μ) (depth : Nat) :
    Steady (respondBy (fun respond code calls d => (reactions code calls d).run respond) depth) :=
  fun cfg imaged => (Through.lockstep cfg imaged).reactions (fun _ _ => and_iff_left trivial)
    (fun _ => Through.copy) (fun _ => Through.drop)
    (fun code calls d => (reactions code calls d).blind_id) depth

/-- What a device has is what is set aside last. -/
theorem suspend_ok (h : Staying cfg imaged aside w w) {r : Rig Block κ}
    (hr : w.plain.rig? d = some r) {x : Unit} (run : (suspend d).run w = .ok x v) :
    Staying cfg imaged (⟨r.device.slots, r.device.generator⟩ :: aside) v v := by
  obtain ⟨inner, -, staying⟩ :=
    ((Through.lockstep cfg imaged).suspend ⟨rfl, trivial⟩).after h run
  have seen := ((Alike.suspend d).run_plain h.seen run).1
  rw [run_suspend, hr] at seen
  have now := congrArg Bench.suspended (EStateM.Result.ok.inj seen).2
  rw [staying.holds.suspended, h.holds.suspended] at now
  rwa [← now] at staying

/-- An update that goes on after a loss of power starts over: whatever the callback did, the device
has the blocks and the generator that it had. -/
theorem interrupt_ok {respond : Responder Counted Nat κ μ} (steady : Steady respond)
    (h : Staying cfg imaged aside w w) {r : Rig Block κ} (hr : w.plain.rig? d = some r)
    (run : (interrupt respond d u).run w = .ok (.ok ()) v) :
    Staying cfg imaged aside v v ∧ ∃ s, v.plain.rig? d = some s ∧
      s.device.slots = r.device.slots ∧ s.device.generator = r.device.generator := by
  have L := Through.lockstep (κ := κ) (μ := μ) cfg imaged
  obtain ⟨q, _, found, rest⟩ := run_bind_eq_ok.1 run
  obtain ⟨-, rfl⟩ := run_rig_eq_ok.1 found
  cases hc : q.callback with
  | none =>
    rw [hc] at rest
    obtain ⟨x, _, -, answer⟩ := run_bind_eq_ok.1 rest
    cases x <;> cases answer
  | some handler =>
    rw [hc] at rest
    obtain ⟨_, w₁, suspended, rest⟩ := run_bind_eq_ok.1 rest
    obtain ⟨x, w₂, crashed, rest⟩ := run_bind_eq_ok.1 rest
    -- what is set aside now is set aside until the verdict
    have h₁ := suspend_ok h hr suspended
    have h₂ := (L.crash ⟨rfl, trivial⟩ u).after h₁ crashed
    cases x with
    | error e => cases (conclude_ok rest).1
    | ok _ =>
      obtain ⟨y, w₃, responded, concluded⟩ := run_bind_eq_ok.1 rest
      have h₃ := (steady cfg imaged _ handler d d ⟨rfl, trivial⟩ trivial).after h₂ responded
      obtain ⟨rfl, resumed⟩ := conclude_ok concluded
      refine ⟨(L.resume ⟨rfl, trivial⟩ ⟨_, rfl⟩).after h₃ resumed, ?_⟩
      obtain ⟨s, _, t, top, ht, slots, generator⟩ :=
        resume_ok ((Alike.resume d).run_plain h₃.seen resumed).1
      rw [h₃.holds.suspended, List.cons.injEq] at top
      obtain ⟨rfl, -⟩ := top
      exact ⟨t, ht, slots, generator⟩

/-- What is completed on a device of a bench, is completed on the device as it is seen. -/
theorem completes_of_on (seen : SeenAs w w.plain) {r : Rig Block κ} (hr : w.plain.rig? d = some r)
    {D : Device Block} (slots : r.device.slots = D.slots)
    (generator : r.device.generator = D.generator)
    (run : (on d (Flash.complete · worn u)).run w = .ok (.ok ()) v) :
    ∃ E, v.view d = some E ∧ u.Completes w.config worn D E ∧ E.synced = r.device.synced := by
  obtain ⟨run, -⟩ := Alike.run_plain (SeenAs.lockstep.complete (i := ()) rfl worn u) seen run
  obtain ⟨g, completed, same⟩ := on_ok hr run
  refine ⟨g.device, ?_, ⟨_, g, slots, generator, completed, rfl⟩, ?_⟩
  · rw [view_eq, same, rig?_settle hr]
    rfl
  · have leaves : Flash.KeepsSync
        (Flash.complete w.plain.config worn u : FlashM Plain Block Unit) :=
      .complete w.plain.config worn u
    have kept := leaves (w.plain.flash r)
    rwa [Flash.answered_eq_ok.2 completed] at kept

/-- An update that is done was ignored, or it was completed on the blocks and with the generator
that it found. What the device remembers of its last sync is left alone, unless power was lost. -/
theorem WellFormed.update_ok (h : w.WellFormed) {s : Rig Nat κ} (hs : w.rig? d = some s)
    {respond : Responder Counted Nat κ μ} (steady : Steady respond)
    (run : (update respond d u).run w = .ok (.ok ()) v) :
    let D := s.device.plain w.store
    let x := D.slots[u.block]?.join
    (Request.Ignored w.config x (.update u) ∧ v = w) ∨
      (¬ Request.Ignored w.config x (.update u) ∧ ∃ E, v.view d = some E ∧
        u.Completes w.config (w.config.isBad x) D E ∧
        (s.device.countdown ≠ 1 → E.synced = D.synced)) := by
  intro D x
  have finds := h.finds hs u.block
  obtain ⟨how, w₁, started, rest⟩ := run_bind_eq_ok.1 run
  have h₁ : Staying w.config w.image.isSome w.plain.suspended w₁ w₁ :=
    ((Through.lockstep _ _).start ⟨rfl, trivial⟩ u).after (h.through fun _ => False.elim) started
  by_cases lawful : Request.Lawful w.config x (.update u)
  case neg =>
    obtain ⟨m, refused⟩ := finds.permit_misused lawful
    rw [run_on_answered hs, Flash.answered_start_eq, refused] at started
    cases started
    cases rest
  obtain ⟨failed, voided, permitted⟩ := finds.permit_lawful lawful
  by_cases fails : Request.Fails w.config x (.update u)
  · rw [run_on_answered hs, Flash.answered_start_eq, failed fails] at started
    cases started
    cases rest
  by_cases ignored : Request.Ignored w.config x (.update u)
  · rw [run_on_answered hs, Flash.answered_start_eq, voided ignored] at started
    cases started
    cases rest
    exact .inl ⟨ignored, settle_flash hs⟩
  refine .inr ⟨ignored, ?_⟩
  rw [run_on_answered hs, Flash.answered_start_of_permit (permitted fails ignored)] at started
  obtain ⟨rfl, rfl⟩ := EStateM.Result.ok.inj started
  let f := (w.flash s).rearm (Flash.left s.device.countdown (.ok (some (w.config.isBad x))))
  have there := plain_of_rig? (rig?_settle hs f)
  by_cases last : (w.flash s).device.countdown = 1
  · simp only [if_pos last] at rest
    obtain ⟨y, w₂, interrupted, completed⟩ := run_bind_eq_ok.1 rest
    cases y with
    | error e => cases completed
    | ok _ =>
      obtain ⟨h₂, t, ht, slots, generator⟩ := interrupt_ok steady h₁ there interrupted
      obtain ⟨E, view, completes, -⟩ := completes_of_on h₂.seen ht slots generator completed
      have config : w₂.config = w.config := h₂.holds.config
      exact ⟨E, view, config ▸ completes, fun more => absurd last more⟩
  · simp only [if_neg last] at rest
    obtain ⟨E, view, completes, synced⟩ := completes_of_on h₁.seen there rfl rfl rest
    exact ⟨E, view, completes, fun _ => synced⟩

end Bench

end FaultyFlash
