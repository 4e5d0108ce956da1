import FaultyFlash.Proofs.Benches
import FaultyFlash.Proofs.Soundness

/-!
# Sound benches

On a bench whose devices and states set aside are sound, they stay sound, whatever is done to the
devices. Some of the devices may be watched: then their callbacks keep a property, as long as no
callback without it is installed on them.

## Main definitions

* `Bench.StaysSound`: a bench with sound devices, compared with itself

## Main results

* `Bench.StaysSound.lockstep`: operations keep a bench sound
-/

namespace FaultyFlash

open Flash (AlikeBy Maintains answered)

variable {κ μ α : Type}

namespace Bench

/-- A bench with sound devices on which the states `aside` are set aside, compared with itself. The
devices of the handles `W` are there, and their callbacks have the property `A`. -/
structure StaysSound (cfg : Config) (imaged : Bool) (W : Handle → Prop)
    (A : Option (Handler κ) → Prop) (aside : List (Suspension Block))
    (w v : Bench Plain Block κ μ) : Prop where
  same : v = w
  config : w.config = cfg
  image : w.image.isSome = imaged
  devices {d : Handle} {r : Rig Block κ} (h : w.rig? d = some r) : r.device.Sound cfg
  watched {d : Handle} (h : W d) : ∃ r, w.rig? d = some r ∧ A r.callback
  suspended : w.suspended = aside
  tables {s : Suspension Block} (h : s ∈ aside) : s.slots.Sound cfg

/-- One state more is set aside. -/
def SetAside (aside inner : List (Suspension Block)) : Prop := ∃ s, inner = s :: aside

namespace StaysSound

variable {cfg : Config} {imaged : Bool} {W : Handle → Prop} {A : Option (Handler κ) → Prop}
  {aside : List (Suspension Block)} {d : Handle} {w : Bench Plain Block κ μ}

/-- The relation that a sound device has to itself. -/
abbrev Fit (cfg : Config) (D E : Device Block) : Prop := D = E ∧ D.Sound cfg

/-- A device may be exchanged for a sound one, with a callback that is allowed. -/
theorem set (h : StaysSound cfg imaged W A aside w w) {r s : Rig Block κ} (hr : w.rig? d = some r)
    (sound : s.device.Sound cfg) (callback : W d → A s.callback) :
    StaysSound cfg imaged W A aside { w with rack := w.rack.set d (some s) }
      { w with rack := w.rack.set d (some s) } where
  same := rfl
  config := h.config
  image := h.image
  devices {e t} he := by
    by_cases this : d = e
    · subst this
      rw [rig?, rig?_set hr, Option.some.injEq] at he
      exact he ▸ sound
    · rw [rig?, List.getElem?_set_ne this] at he
      exact h.devices he
  watched {e} he := by
    by_cases this : d = e
    · subst this
      exact ⟨s, rig?_set hr _, callback he⟩
    · rw [rig?, List.getElem?_set_ne this]
      exact h.watched he
  suspended := h.suspended
  tables := h.tables

theorem on {op : Config → FlashM Plain Block α} (hop : Maintains (Fit cfg) imaged (op cfg)) :
    Keeps (StaysSound (κ := κ) (μ := μ) cfg imaged W A aside) (Bench.on d op) (Bench.on d op) := by
  intro v w h
  obtain rfl := h.same
  cases hr : w.rig? d with
  | none =>
    rw [run_on, hr]
    exact ⟨rfl, trivial⟩
  | some r =>
    have kept := hop (w.flash r) ⟨⟨rfl, h.devices hr⟩, h.image, h.image⟩
    have watched : W d → A r.callback := by
      intro hd
      obtain ⟨s, hs, hA⟩ := h.watched hd
      rw [hr] at hs
      cases hs
      exact hA
    have settled := h.set (s := ⟨(answered (op cfg) (w.flash r)).2.device, r.callback⟩) hr
      kept.1.2 watched
    rw [run_on_answered hr, h.config]
    exact ⟨rfl, rfl, settled.config, kept.2.1, settled.devices, settled.watched, settled.suspended,
      settled.tables⟩

theorem install {callback : Option (Handler κ)} (hA : W d → A callback) :
    Keeps (StaysSound (μ := μ) cfg imaged W A aside) (install d callback) (install d callback) := by
  intro v w h
  obtain rfl := h.same
  rw [run_install]
  cases hr : w.rig? d with
  | none => exact ⟨rfl, trivial⟩
  | some r =>
    have sound := h.devices hr
    exact ⟨rfl, h.set hr sound hA⟩

theorem copy (d : Handle) :
    Keeps (StaysSound (κ := κ) (μ := μ) cfg imaged W A aside) (copy d) (copy d) := by
  intro v w h
  obtain rfl := h.same
  rw [run_copy]
  cases hr : w.rig? d with
  | none => exact ⟨rfl, trivial⟩
  | some r =>
    have sound := h.devices hr
    refine ⟨rfl, rfl, h.config, h.image, fun {e s} he => ?_, fun {e} he => ?_, h.suspended,
      h.tables⟩
    · rw [rig?, List.getElem?_append] at he
      split at he
      · exact h.devices he
      · -- the copy is the only device after the others
        rw [Option.join_eq_some_iff] at he
        obtain rfl := Option.some.inj (List.mem_singleton.1 (List.mem_of_getElem? he))
        exact sound
    · obtain ⟨s, hs, hA⟩ := h.watched he
      exact ⟨s, rig?_append hs _, hA⟩

theorem drop (hd : ¬ W d) :
    Keeps (StaysSound (κ := κ) (μ := μ) cfg imaged W A aside) (drop d) (drop d) := by
  intro v w h
  obtain rfl := h.same
  rw [run_drop]
  cases hr : w.rig? d with
  | none => exact ⟨rfl, trivial⟩
  | some r =>
    refine ⟨rfl, rfl, h.config, h.image, fun {e s} he => ?_, fun {e} he => ?_, h.suspended,
      h.tables⟩
    · by_cases this : d = e
      · subst this
        rw [rig?, rig?_set hr] at he
        cases he
      · rw [rig?, List.getElem?_set_ne this] at he
        exact h.devices he
    · have this : d ≠ e := fun this => hd (this ▸ he)
      rw [rig?, List.getElem?_set_ne this]
      exact h.watched he

theorem fork : Keeps (StaysSound (κ := κ) (μ := μ) cfg imaged W A aside) (fork d) (fork d) := by
  refine (copy d).bind fun handle => Coupled.bind
    (?_ : Keeps (StaysSound cfg imaged W A aside) _ _) fun _ => (on fun f hf => ?_).bind fun x => ?_
  · intro w v h
    obtain rfl := h.same
    exact ⟨rfl, rfl, h.config, h.image, h.devices, h.watched, h.suspended, h.tables⟩
  · exact ⟨⟨rfl, hf.1.2.slots, hf.1.2.synced⟩, hf.2⟩
  · cases x <;> exact .answer _

/-- The state that is set aside is that of a sound device. -/
theorem suspend :
    Coupled (StaysSound (κ := κ) (μ := μ) cfg imaged W A aside) (suspend d) (suspend d)
      (fun _ w v => ∃ inner, SetAside aside inner ∧ StaysSound cfg imaged W A inner w v)
      fun _ _ => True := by
  intro v w h
  obtain rfl := h.same
  rw [run_suspend]
  cases hr : w.rig? d with
  | none => exact ⟨rfl, trivial⟩
  | some r =>
    refine ⟨rfl, _, ⟨⟨r.device.slots, r.device.generator⟩, rfl⟩, rfl, h.config, h.image, h.devices,
      h.watched, by rw [h.suspended], fun {s} hs => ?_⟩
    rcases List.mem_cons.1 hs with rfl | hs
    · exact (h.devices hr).slots
    · exact h.tables hs

theorem discard {inner : List (Suspension Block)} (hi : SetAside aside inner) :
    Coupled (StaysSound (κ := κ) (μ := μ) cfg imaged W A inner) discard discard
      (fun _ => StaysSound cfg imaged W A aside) fun _ _ => True := by
  intro v w h
  obtain rfl := h.same
  obtain ⟨s, rfl⟩ := hi
  rw [run_discard, h.suspended]
  exact ⟨rfl, rfl, h.config, h.image, h.devices, h.watched, rfl,
    fun hs => h.tables (List.mem_cons_of_mem _ hs)⟩

theorem resume {inner : List (Suspension Block)} (hi : SetAside aside inner) :
    Coupled (StaysSound (κ := κ) (μ := μ) cfg imaged W A inner) (resume d) (resume d)
      (fun _ => StaysSound cfg imaged W A aside) fun _ _ => True := by
  intro v w h
  obtain rfl := h.same
  obtain ⟨s, rfl⟩ := hi
  rw [run_resume, h.suspended]
  -- the table comes back sound, and then only the image file is written
  refine on (fun f hf => ?_) _ _ ⟨rfl, h.config, h.image, h.devices, h.watched, rfl,
    fun hs => h.tables (List.mem_cons_of_mem _ hs)⟩
  exact Flash.maintains_of_preserves (soundLikeness cfg).lockstep.saveAll
    { f with device := { f.device with slots := s.slots, generator := s.generator } }
    ⟨⟨rfl, h.tables List.mem_cons_self, hf.1.2.synced⟩, hf.2⟩

/-- Operations on the devices of the handles `U` keep a bench sound. -/
theorem lockstep {U : Handle → Prop} (hU : ∀ d, U d → W d ∨ ∀ c, A c)
    (next : ∀ code calls, A (some (.custom code calls)) → A (some (.custom code (calls + 1)))) :
    Lockstep SetAside (fun a b => a = b ∧ U a) A (fun _ x => x)
      (StaysSound (μ := μ) cfg imaged W A) where
  start := by
    rintro aside d _ ⟨rfl, -⟩ u
    exact on (Flash.maintains_of_preserves ((soundLikeness cfg).lockstep.start u))
  complete := by
    rintro aside d _ ⟨rfl, -⟩ worn u
    exact on (Flash.maintains_of_preserves ((soundLikeness cfg).lockstep.complete worn u))
  crash := by
    rintro aside d _ ⟨rfl, -⟩ u
    exact on (Flash.maintains_of_preserves ((soundLikeness cfg).lockstep.crash u))
  direct := by
    rintro aside d _ ⟨rfl, -⟩ q hq respond respond'
    rw [perform_direct respond d hq, perform_direct respond' d hq]
    refine Coupled.map _ (on ((soundLikeness cfg).maintains (fun D c n hD => ⟨rfl, ?_⟩) q))
    exact hD.2.congr (c.slots_set ..) (c.synced_set ..)
  callback := by
    rintro aside w v d _ ⟨rfl, -⟩ h
    rw [h.same]
  allowed := by
    rintro aside w v d _ r ⟨rfl, hd⟩ h hr
    rcases hU d hd with hW | all
    · obtain ⟨s, hs, hA⟩ := h.watched hW
      rw [hr] at hs
      cases hs
      exact hA
    · exact all _
  next := next _ _
  missing h _ _ := h.1
  install := by
    rintro aside d _ ⟨rfl, -⟩ callback hA
    exact install fun _ => hA
  copy := by
    rintro aside d _ ⟨rfl, -⟩ _ _
    exact (copy d).bind fun _ => .answer _
  fork := by
    rintro aside d _ ⟨rfl, -⟩
    exact fork
  suspend := by
    rintro aside d _ ⟨rfl, -⟩
    exact suspend
  discard := discard
  resume := by
    rintro aside inner d _ ⟨rfl, -⟩ hi
    exact resume hi
  memory h := by rw [h.same]
  setMemory m := by
    intro v w h
    obtain rfl := h.same
    exact ⟨rfl, rfl, h.config, h.image, h.devices, h.watched, h.suspended, h.tables⟩

end StaysSound

end Bench

end FaultyFlash
