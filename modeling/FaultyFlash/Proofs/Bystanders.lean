import FaultyFlash.Proofs.Benches
import FaultyFlash.Proofs.Likeness

/-!
# Devices that stand by

Where nothing is shared, what is done to one device of a bench leaves every other device as it is,
through all losses of power and the callbacks that answer them.

## Main definitions

* `Bench.StandsBy`: a bench on which a handle has a given device

## Main results

* `Bench.StandsBy.lockstep`: operations on other devices keep it that way
-/

namespace FaultyFlash

variable {κ μ α : Type}

namespace Bench

/-- A bench on which the handle `d` has the device `r`, compared with itself. -/
structure StandsBy (cfg : Config) (imaged : Bool) (d : Handle) (r : Rig Block κ)
    (w v : Bench Plain Block κ μ) : Prop where
  same : v = w
  config : w.config = cfg
  image : w.image.isSome = imaged
  rig : w.rig? d = some r

namespace StandsBy

variable {cfg : Config} {imaged : Bool} {d e : Handle} {r : Rig Block κ}

theorem on (he : e ≠ d) {op : Config → FlashM Plain Block α}
    (h : Flash.Maintains Eq imaged (op cfg)) :
    Keeps (StandsBy (μ := μ) cfg imaged d r) (Bench.on e op) (Bench.on e op) := by
  rintro v w ⟨rfl, rfl, image, rig⟩
  cases hs : w.rig? e with
  | none =>
    rw [run_on, hs]
    exact ⟨rfl, trivial⟩
  | some s =>
    have kept := h (w.flash s) ⟨rfl, image, image⟩
    rw [run_on_answered hs]
    exact ⟨rfl, rfl, rfl, kept.2.1, (rig?_settle_ne w he s _).trans rig⟩

theorem resume (he : e ≠ d) : Keeps (StandsBy (μ := μ) cfg imaged d r) (resume e) (resume e) := by
  rintro v w ⟨rfl, config, image, rig⟩
  rw [run_resume]
  cases w.suspended with
  | nil => exact ⟨rfl, rfl, config, image, rig⟩
  | cons x rest =>
    refine on he (fun f hf => ?_) _ _ ⟨rfl, config, image, rig⟩
    -- only writing the image file out again is left to look at
    exact Flash.maintains_of_preserves (timedLikeness_eq cfg).lockstep.saveAll _ ⟨rfl, hf.2⟩

theorem install (he : e ≠ d) (callback : Option (Handler κ)) :
    Keeps (StandsBy (μ := μ) cfg imaged d r) (install e callback) (install e callback) := by
  rintro v w ⟨rfl, config, image, rig⟩
  rw [run_install]
  cases hs : w.rig? e with
  | none => exact ⟨rfl, trivial⟩
  | some s =>
    refine ⟨rfl, rfl, config, image, ?_⟩
    rw [rig?, List.getElem?_set_ne he]
    exact rig

theorem copy (e : Handle) : Keeps (StandsBy (μ := μ) cfg imaged d r) (copy e) (copy e) := by
  rintro v w ⟨rfl, config, image, rig⟩
  rw [run_copy]
  cases hs : w.rig? e with
  | none => exact ⟨rfl, trivial⟩
  | some s => exact ⟨rfl, rfl, config, image, rig?_append rig _⟩

theorem fork (he : e ≠ d) : Keeps (StandsBy (μ := μ) cfg imaged d r) (fork e) (fork e) := by
  refine (copy e).bind fun handle => Coupled.bind (?_ : Keeps (StandsBy cfg imaged d r) _ _)
    fun _ => (on he fun f hf => by exact ⟨rfl, hf.2⟩).bind fun x => ?_
  · exact fun v w h => ⟨rfl, by rw [h.same], h.config, h.image, h.rig⟩
  · cases x <;> exact .answer _

theorem suspend (e : Handle) :
    Keeps (StandsBy (μ := μ) cfg imaged d r) (suspend e) (suspend e) := by
  rintro v w ⟨rfl, config, image, rig⟩
  rw [run_suspend]
  cases hs : w.rig? e with
  | none => exact ⟨rfl, trivial⟩
  | some s => exact ⟨rfl, rfl, config, image, rig⟩

theorem discard : Keeps (StandsBy (μ := μ) (κ := κ) cfg imaged d r) discard discard := by
  rintro v w ⟨rfl, config, image, rig⟩
  rw [run_discard]
  cases w.suspended with
  | nil => exact ⟨rfl, rfl, config, image, rig⟩
  | cons x rest => exact ⟨rfl, rfl, config, image, rig⟩

/-- What is done to other devices leaves a device as it is. -/
theorem lockstep :
    Lockstep (fun _ _ : Unit => True) (fun a b => a = b ∧ a ≠ d) (fun _ => True) (fun _ x => x)
      (fun _ => StandsBy (μ := μ) cfg imaged d r) where
  start := by
    rintro _ e _ ⟨rfl, he⟩ u
    exact on he (Flash.maintains_of_preserves ((timedLikeness_eq cfg).lockstep.start u))
  complete := by
    rintro _ e _ ⟨rfl, he⟩ worn u
    exact on he (Flash.maintains_of_preserves ((timedLikeness_eq cfg).lockstep.complete worn u))
  crash := by
    rintro _ e _ ⟨rfl, he⟩ u
    exact on he (Flash.maintains_of_preserves ((timedLikeness_eq cfg).lockstep.crash u))
  direct := by
    rintro _ e _ ⟨rfl, he⟩ q hq respond respond'
    rw [perform_direct respond e hq, perform_direct respond' e hq]
    exact Coupled.map _ (on he ((timedLikeness_eq cfg).maintains (fun _ _ _ _ => rfl) q))
  callback := by
    rintro _ w v e _ ⟨rfl, he⟩ h
    rw [h.same]
  allowed _ _ _ := trivial
  next h := h
  missing h _ _ := h.1
  install := by
    rintro _ e _ ⟨rfl, he⟩ callback -
    exact install he callback
  copy := by
    rintro _ e _ ⟨rfl, he⟩ _ _
    exact (copy e).bind fun _ => .answer _
  fork := by
    rintro _ e _ ⟨rfl, he⟩
    exact fork he
  suspend := by
    rintro _ e _ ⟨rfl, he⟩
    exact (suspend e).mono (fun _ _ => id) (fun _ _ _ h => ⟨(), trivial, h⟩) fun _ _ => id
  discard _ := discard
  resume := by
    rintro _ _ e _ ⟨rfl, he⟩ -
    exact resume he
  memory h := by rw [h.same]
  setMemory m := fun v w h => ⟨rfl, by rw [h.same], h.config, h.image, h.rig⟩

end StandsBy

end Bench

end FaultyFlash
