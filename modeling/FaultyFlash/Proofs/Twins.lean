import FaultyFlash.Proofs.Benches
import FaultyFlash.Proofs.Likeness

/-!
# Alike devices on two benches

What a device answers depends on the device alone, not on who else is on its bench. So two devices
that are alike, on any two benches, give the same answers to the same requests and stay alike.

## Main definitions

* `Bench.Twins R P Q cfg imaged d e`: benches on which the devices of two handles are alike, and so
  are their callbacks and the rest of the benches
* `Bench.Matching d e`: benches on which the devices of two handles are the same
* `Request.alone`: what an answer says about the device alone

## Main results

* `Bench.Twins.answers`, `Bench.Twins.onSeen`, `Bench.Twins.on`: operations answer alike
* `Bench.Twins.lockstep`: alike devices are in lockstep
* `Bench.Matching.lockstep`: so are the same devices
-/

namespace FaultyFlash

open Flash (answered AlikeBy)

variable {κ μ κ' μ' α β : Type}

/-- What an answer says about the device alone, and not about who shares its blocks or its image
file. -/
def Request.alone : Seen
  | .blockRefs _, x => x.map fun _ => 0
  | .image, x => x.map fun _ => none
  | _, x => x

namespace Bench

/-- The device `d` of one bench and the device `e` of another are related by `R`, their callbacks
by `P`, and what is set aside or remembered on the benches by `Q`. -/
structure Twins (R : Device Block → Device Block → Prop)
    (P : Option (Handler κ) → Option (Handler κ') → Prop)
    (Q : List (Suspension Block) × μ → List (Suspension Block) × μ' → Prop) (cfg : Config)
    (imaged : Bool) (d e : Handle) (w : Bench Plain Block κ μ) (v : Bench Plain Block κ' μ') :
    Prop where
  config : w.config = cfg ∧ v.config = cfg
  image : w.image.isSome = imaged ∧ v.image.isSome = imaged
  rigs : ∃ r s, w.rig? d = some r ∧ v.rig? e = some s ∧ R r.device s.device ∧
    P r.callback s.callback
  rest : Q (w.suspended, w.memory) (v.suspended, v.memory)

namespace Twins

variable {R : Device Block → Device Block → Prop}
  {P : Option (Handler κ) → Option (Handler κ') → Prop}
  {Q : List (Suspension Block) × μ → List (Suspension Block) × μ' → Prop} {cfg : Config}
  {imaged : Bool} {d e : Handle} {w : Bench Plain Block κ μ} {v : Bench Plain Block κ' μ'}

/-- Operations on the two devices answer as on the devices themselves. -/
theorem answers {R' : Device Block → Device Block → Prop} {op : Config → FlashM Plain Block α}
    {op' : Config → FlashM Plain Block β} {A : Except Failure α → Except Failure β → Prop}
    (h : ∀ f g, AlikeBy R imaged f g → A (answered (op cfg) f).1 (answered (op' cfg) g).1 ∧
      AlikeBy R' imaged (answered (op cfg) f).2 (answered (op' cfg) g).2)
    (twins : Twins R P Q cfg imaged d e w v) :
    ∃ x y w' v', (Bench.on d op).run w = .ok x w' ∧ (Bench.on e op').run v = .ok y v' ∧ A x y ∧
      Twins R' P Q cfg imaged d e w' v' := by
  obtain ⟨⟨rfl, config⟩, image, ⟨r, s, hr, hs, alike, callbacks⟩, rest⟩ := twins
  obtain ⟨agree, alike', images⟩ := h (w.flash r) (v.flash s) ⟨alike, image⟩
  have other := run_on_answered hs op'
  rw [config] at other
  exact ⟨_, _, _, _, run_on_answered hr op, other, agree, ⟨rfl, config⟩, images,
    ⟨_, _, rig?_settle hr _, rig?_settle hs _, alike', callbacks⟩, rest⟩

/-- Operations that answer alike, as far as it is seen, do so on the benches. -/
theorem onSeen {R' : Device Block → Device Block → Prop} {op op' : Config → FlashM Plain Block α}
    (see : Except Failure α → β)
    (h : ∀ f g, AlikeBy R imaged f g →
      see (answered (op cfg) f).1 = see (answered (op' cfg) g).1 ∧
        AlikeBy R' imaged (answered (op cfg) f).2 (answered (op' cfg) g).2) :
    Coupled (Twins R P Q cfg imaged d e) (see <$> Bench.on d op) (see <$> Bench.on e op')
      (fun _ => Twins R' P Q cfg imaged d e) fun _ _ => False := by
  intro w v twins
  obtain ⟨x, y, w', v', run, run', same, twins'⟩ :=
    twins.answers (A := fun x y => see x = see y) h
  rw [map_eq_pure_bind, map_eq_pure_bind, EStateM.run_bind, EStateM.run_bind, run, run']
  exact ⟨same, twins'⟩

theorem on {op op' : Config → FlashM Plain Block α}
    (h : Preserves (AlikeBy R imaged) (op cfg) (op' cfg)) :
    Coupled (Twins R P Q cfg imaged d e) (Bench.on d op) (Bench.on e op')
      (fun _ => Twins R P Q cfg imaged d e) fun _ _ => False := by
  have same : Coupled (Twins R P Q cfg imaged d e) (id <$> Bench.on d op) (id <$> Bench.on e op')
      (fun _ => Twins R P Q cfg imaged d e) fun _ _ => False :=
    onSeen id fun f g hfg => Flash.answered_of_preserves h hfg
  simpa only [id_map] using same

theorem install {P' : Option (Handler κ) → Option (Handler κ') → Prop} {c : Option (Handler κ)}
    {c' : Option (Handler κ')} (h : P' c c') :
    Coupled (Twins R P Q cfg imaged d e) (Bench.install d c) (Bench.install e c')
      (fun _ => Twins R P' Q cfg imaged d e) fun _ _ => False := by
  rintro w v ⟨config, image, ⟨r, s, hr, hs, alike, -⟩, rest⟩
  rw [run_install, run_install, hr, hs]
  exact ⟨rfl, config, image, ⟨_, _, rig?_set hr _, rig?_set hs _, alike, h⟩, rest⟩

theorem copy (respond : Responder Plain Block κ μ) (respond' : Responder Plain Block κ' μ') :
    Coupled (Twins R P Q cfg imaged d e) (perform respond d .copy) (perform respond' e .copy)
      (fun _ => Twins R P Q cfg imaged d e) fun _ _ => False := by
  rintro w v ⟨config, image, ⟨r, s, hr, hs, alike⟩, rest⟩
  simp only [perform, EStateM.run_bind, run_copy, hr, hs]
  exact ⟨rfl, config, image, ⟨r, s, rig?_append hr _, rig?_append hs _, alike⟩, rest⟩

theorem setMemory {Q' : List (Suspension Block) × μ → List (Suspension Block) × μ' → Prop} {m : μ}
    {m' : μ'} (h : ∀ a b, Q a b → Q' (a.1, m) (b.1, m')) :
    Coupled (ε := Halt) (Twins R P Q cfg imaged d e)
      (modify fun w : Bench Plain Block κ μ => { w with memory := m })
      (modify fun v : Bench Plain Block κ' μ' => { v with memory := m' })
      (fun _ => Twins R P Q' cfg imaged d e) fun _ _ => False :=
  Coupled.modify fun _ _ twins => ⟨twins.config, twins.image, twins.rigs, h _ _ twins.rest⟩

end Twins

/-! ## Alike devices through losses of power -/

namespace Twins

variable {R : Device Block → Device Block → Prop} {cfg : Config} {imaged : Bool} {d e : Handle}

theorem suspend (h : Likeness cfg R) :
    Coupled (Twins (κ := κ) (μ := μ) R Eq Eq cfg imaged d e) (suspend d) (suspend e)
      (fun _ => Twins R Eq Eq cfg imaged d e) fun _ _ => False := by
  rintro w v ⟨config, image, ⟨r, s, hr, hs, alike, callbacks⟩, rest⟩
  rw [run_suspend, run_suspend, hr, hs]
  refine ⟨rfl, config, image, ⟨r, s, hr, hs, alike, callbacks⟩, ?_⟩
  rw [Prod.mk.injEq] at rest
  simp only [h.slots alike, h.generator alike, rest]

theorem discard :
    Coupled (Twins (κ := κ) (μ := μ) R Eq Eq cfg imaged d e) discard discard
      (fun _ => Twins R Eq Eq cfg imaged d e) fun _ _ => False := by
  rintro w v ⟨config, image, rigs, rest⟩
  rw [run_discard, run_discard]
  rw [Prod.mk.injEq] at rest
  rw [← rest.1]
  cases hs : w.suspended with
  | nil => exact ⟨rfl, config, image, rigs, Prod.ext rest.1 rest.2⟩
  | cons x xs => exact ⟨rfl, config, image, rigs, Prod.ext rfl rest.2⟩

theorem resume (h : SavedLikeness cfg R) :
    Coupled (Twins (κ := κ) (μ := μ) R Eq Eq cfg imaged d e) (resume d) (resume e)
      (fun _ => Twins R Eq Eq cfg imaged d e) fun _ _ => False := by
  rintro w v ⟨config, image, rigs, rest⟩
  rw [run_resume, run_resume]
  rw [Prod.mk.injEq] at rest
  rw [← rest.1]
  cases hs : w.suspended with
  | nil => exact ⟨rfl, config, image, rigs, Prod.ext rest.1 rest.2⟩
  | cons x xs =>
    refine on (?_ : Preserves (AlikeBy R imaged) (Flash.restore cfg _ _) _) _ _
      ⟨config, image, rigs, Prod.ext rfl rest.2⟩
    rintro f g ⟨alike, image⟩
    exact h.lockstep.saveAll _ _ ⟨h.restore _ _ alike, image⟩

/-- The copies have other handles on the two benches, and only the lists of forks tell. -/
theorem fork (h : TimedLikeness cfg R) :
    Coupled (Twins (κ := κ) (μ := μ) R Eq Eq cfg imaged d e) (fork d) (fork e)
      (fun _ => Twins R Eq Eq cfg imaged d e) fun _ _ => False := by
  rintro w v ⟨config, image, ⟨r, s, hr, hs, alike⟩, rest⟩
  have rearmed : Coupled (Twins (κ := κ) (μ := μ) R Eq Eq cfg imaged d e)
      (Bench.on d fun _ => Flash.modifyDevice fun dev => { dev with countdown := 1 })
      (Bench.on e fun _ => Flash.modifyDevice fun dev => { dev with countdown := 1 })
      (fun _ => Twins R Eq Eq cfg imaged d e) fun _ _ => False :=
    on (Coupled.modify fun f g hfg => ⟨h.rearm 1 hfg.1, hfg.2⟩)
  simp only [Bench.fork, EStateM.run_bind, run_copy, hr, hs]
  -- after the copies are made, both devices are armed alike
  refine rearmed.bind (fun x => ?_) _ _
    ⟨config, image, ⟨r, s, rig?_append hr _, rig?_append hs _, alike⟩, rest⟩
  cases x <;> exact .answer _

/-- Devices that are alike on two benches are in lockstep, as far as their answers are seen. -/
theorem lockstep (h : SavedLikeness cfg R) {seen : Seen}
    (direct : ∀ r : Request, r.isDirect → Keeps (Twins (κ := κ) (μ := μ) R Eq Eq cfg imaged d e)
      (seen r <$> Bench.on d r.effect) (seen r <$> Bench.on e r.effect)) :
    Lockstep (fun _ _ : Unit => True) (fun a b => a = d ∧ b = e) (fun _ => True) seen
      (fun _ => Twins (κ := κ) (μ := μ) R Eq Eq cfg imaged d e) where
  start := by
    rintro _ _ _ ⟨rfl, rfl⟩ u
    exact (on (h.lockstep.start u)).mayFail
  complete := by
    rintro _ _ _ ⟨rfl, rfl⟩ worn u
    exact (on (h.lockstep.complete worn u)).mayFail
  crash := by
    rintro _ _ _ ⟨rfl, rfl⟩ u
    exact (on (h.lockstep.crash u)).mayFail
  direct := by
    rintro _ _ _ ⟨rfl, rfl⟩ r hr respond respond'
    rw [perform_direct respond _ hr, perform_direct respond' _ hr]
    exact direct r hr
  callback := by
    rintro _ w v _ _ ⟨rfl, rfl⟩ ⟨-, -, ⟨r, s, hr, hs, -, same⟩, -⟩
    rw [hr, hs, Option.map_some, Option.map_some, same]
  allowed _ _ _ := trivial
  next h := h
  missing := by
    rintro _ w v _ _ ⟨rfl, rfl⟩ ⟨-, -, ⟨r, s, hr, hs, -⟩, -⟩ missing
    rw [hr] at missing
    cases missing
  install := by
    rintro _ _ _ ⟨rfl, rfl⟩ callback -
    exact (install rfl).mayFail
  copy := by
    rintro _ _ _ ⟨rfl, rfl⟩ respond respond'
    exact (copy respond respond').mayFail
  fork := by
    rintro _ _ _ ⟨rfl, rfl⟩
    exact (fork h.toTimedLikeness).mayFail
  suspend := by
    rintro _ _ _ ⟨rfl, rfl⟩
    exact (suspend h.toLikeness).mayFail.mono (fun _ _ => id) (fun _ _ _ h => ⟨(), trivial, h⟩)
      fun _ _ => id
  discard _ := discard.mayFail
  resume := by
    rintro _ _ _ _ ⟨rfl, rfl⟩ -
    exact (resume h).mayFail
  memory h := congrArg Prod.snd h.rest
  setMemory m := by
    have kept : Coupled (Twins (κ := κ) (μ := μ) R Eq Eq cfg imaged d e)
        (modify fun w => { w with memory := m }) (modify fun w => { w with memory := m })
        (fun _ => Twins R Eq Eq cfg imaged d e) fun _ _ => False :=
      setMemory fun _ _ same => Prod.ext (congrArg Prod.fst same :) rfl
    exact kept.mayFail

end Twins

/-! ## The same device twice -/

/-- The device `d` of one bench is the device `e` of another, with the same callback, and the same
things are set aside and remembered. -/
abbrev Matching (cfg : Config) (imaged : Bool) (d e : Handle) (w v : Bench Plain Block κ μ) :
    Prop :=
  Twins Eq Eq Eq cfg imaged d e w v

namespace Matching

variable {cfg : Config} {imaged : Bool} {d e : Handle}

/-- Only the image file is not part of the device. -/
theorem effect {r : Request} (hr : r ≠ .image) :
    Preserves (AlikeBy Eq imaged) (r.effect cfg) (r.effect cfg) := by
  have L : Flash.TimedLockstep cfg (AlikeBy Eq imaged) (Flash.OwnedBy Eq imaged) :=
    (timedLikeness_eq cfg).lockstep
  by_cases basic : r.isBasic
  · exact L.basic basic
  cases r with
  | blockRefs block =>
    exact Flash.preserves_blockRefs (fun f g hfg => congrArg Device.slots hfg.1) cfg block
  | update u => exact L.uninterrupted u
  | copy => exact .answer _
  | image => exact absurd rfl hr
  | counter | countdown | allocated => exact fun f g hfg => ⟨by rw [hfg.1], hfg⟩
  | setCounter | setCountdown =>
    exact Coupled.modify fun f g hfg => ⟨by rw [hfg.1], hfg.2⟩
  | _ => cases basic rfl

theorem direct (r : Request) :
    Keeps (Matching (κ := κ) (μ := μ) cfg imaged d e) (r.alone <$> Bench.on d r.effect)
      (r.alone <$> Bench.on e r.effect) := by
  refine (Twins.onSeen r.alone fun f g hfg => ?_).mayFail
  by_cases image : r = .image
  · subst image
    exact ⟨rfl, hfg⟩
  · exact (Flash.answered_of_preserves (effect image) hfg).imp (congrArg _) id

/-- The same device on two benches is in lockstep. -/
theorem lockstep :
    Lockstep (fun _ _ : Unit => True) (fun a b => a = d ∧ b = e) (fun _ => True) Request.alone
      (fun _ => Matching (κ := κ) (μ := μ) cfg imaged d e) :=
  Twins.lockstep (savedLikeness_eq cfg) fun r _ => direct r

end Matching

end Bench

end FaultyFlash
