import FaultyFlash.Program.Run
import FaultyFlash.Proofs.Benches
import FaultyFlash.Proofs.Soundness

/-!
# Programs on a device by itself

A program that only asks is a function of the device as long as power is not lost: it goes on by
the answers, and every update that is let through could have lost power. What it does on a bench is
compared with this function.

## Main definitions

* `Program.Asks ok p`: a program that only asks, and only what is `ok`
* `Update.torn`: what losing power during an update leaves
* `Program.alone`: a program on a device by itself, with the devices that losses of power would
  leave
* `Device.Clocked`: a sound device, and the same with another countdown

## Main results

* `clockedLikeness`: what is done to a device does not depend on its countdown
* `Request.agrees_clocked`: neither does what a request answers
-/

namespace FaultyFlash

variable {κ μ α : Type} {cfg : Config}

open Flash (answered AlikeBy)

/-! ## Programs that only ask -/

/-- A program only asks, and only what is `ok`. -/
def Program.Asks (ok : Request → Prop) : Program κ μ α → Prop
  | .done _ => True
  | .ask r next => ok r ∧ ∀ x, (next x).Asks ok
  | .install .. => False
  | .getMemory _ => False
  | .setMemory .. => False

/-- A program that only asks installs no callback. -/
theorem Program.Asks.installs {ok : Request → Prop} {p : Program κ μ α} (h : p.Asks ok)
    (A : Option κ → Prop) : p.Installs A := by
  induction p with
  | done a => exact trivial
  | ask r next ih => exact fun x => ih x (h.2 x)
  | install | getMemory | setMemory => exact h.elim

/-- What is left of a device when power is lost during an update of it, if it is let through. -/
def Update.torn (cfg : Config) (u : Update) (X : Flash Plain Block) :
    List (Flash Plain Block) :=
  match (Flash.permit cfg u).run X with
  | .ok (some _) Y =>
    match (Flash.crash cfg u).run Y with
    | .ok _ Z => [Z]
    | .error _ _ => []
  | _ => []

/-- What is left of a device when power is lost during a request of it. -/
def Request.torn (cfg : Config) : Request → Flash Plain Block → List (Flash Plain Block)
  | .update u, X => u.torn cfg X
  | _, _ => []

/-- What a program comes to on a device by itself. -/
structure Solo (α : Type) where
  /-- What each loss of power in turn would leave. -/
  crashes : List (Flash Plain Block)
  result : α
  device : Flash Plain Block

/-- Runs a program on a device by itself; power is not lost, and the memory is `m`. -/
def Program.alone (seen : Seen) (cfg : Config) (m : μ) : Program κ μ α → Flash Plain Block → Solo α
  | .done a, X => ⟨[], a, X⟩
  | .ask r next, X =>
    let x := answered (r.effect cfg) X
    let rest := (next (seen r x.1)).alone seen cfg m x.2
    { rest with crashes := r.torn cfg X ++ rest.crashes }
  | .install _ next, X => next.alone seen cfg m X
  | .getMemory next, X => (next m).alone seen cfg m X
  | .setMemory m next, X => next.alone seen cfg m X

/-- Related devices answer a request alike, as far as it is seen, and stay related. -/
def Request.Agrees (seen : Seen) (cfg : Config) (I : Flash Plain Block → Flash Plain Block → Prop)
    (r : Request) : Prop :=
  ∀ f g, I f g → seen r (answered (r.effect cfg) g).1 = seen r (answered (r.effect cfg) f).1 ∧
    I (answered (r.effect cfg) f).2 (answered (r.effect cfg) g).2

theorem Request.agrees_of_preserves {seen : Seen} {I : Flash Plain Block → Flash Plain Block → Prop}
    {r : Request} (h : Preserves I (r.effect cfg) (r.effect cfg)) : r.Agrees seen cfg I := by
  intro f g hfg
  obtain ⟨same, kept⟩ := Flash.answered_of_preserves h hfg
  exact ⟨by rw [same], kept⟩

/-! ## Devices up to their countdowns -/

/-- A sound device, and the same device with the countdown `n`. -/
def Device.Clocked (cfg : Config) (n : UInt32) (D E : Device Block) : Prop :=
  E = { D with countdown := n } ∧ D.Sound cfg

/-- What is done to a device does not depend on its countdown. -/
theorem clockedLikeness (cfg : Config) (n : UInt32) : CrashLikeness cfg (Device.Clocked cfg n) where
  slots h := by rw [h.1]
  generator h := by rw [h.1]
  set block c := by
    rintro ⟨rfl, sound⟩ fits
    exact ⟨rfl, ((soundLikeness cfg).set block ⟨rfl, sound⟩ fits).2⟩
  reseed x := by
    rintro ⟨rfl, sound⟩
    exact ⟨rfl, ((soundLikeness cfg).reseed x ⟨rfl, sound⟩).2⟩
  tally c n := by
    rintro ⟨rfl, sound⟩
    refine ⟨?_, ((soundLikeness cfg).tally c n ⟨rfl, sound⟩).2⟩
    cases c <;> rfl
  sync {D E} := by
    rintro ⟨rfl, sound⟩
    exact ⟨rfl, ((soundLikeness cfg).sync ⟨rfl, sound⟩).2⟩
  synced h := by rw [h.1]
  rollBack {D E before block x} := by
    rintro ⟨rfl, sound⟩ hs hx size
    exact ⟨rfl, ((soundLikeness cfg).rollBack ⟨rfl, sound⟩ hs hx size).2⟩

/-- An answer, but for what tells the countdown, who shares a block, or the image file. -/
def Request.steady : Seen
  | .blockRefs _, x => x.map fun _ => 0
  | .countdown, x => x.map fun _ => 0
  | .config, x => x.map fun cfg => { cfg with countdown := 0 }
  | .image, x => x.map fun _ => none
  | _, x => x

/-- Does a request leave the countdown alone? -/
def Request.isUntimed : Request → Bool
  | .setCountdown _ => false
  | _ => true

/-- What a request answers does not depend on the countdown. -/
theorem Request.agrees_clocked (cfg : Config) (n : UInt32) {imaged : Bool} {r : Request}
    (h : r.isUntimed) : r.Agrees steady cfg (AlikeBy (Device.Clocked cfg n) imaged) := by
  have L : Flash.CrashLockstep cfg (AlikeBy (Device.Clocked cfg n) imaged)
      (Flash.OwnedBy (Device.Clocked cfg n) imaged) :=
    (clockedLikeness cfg n).lockstep
  by_cases basic : r.isBasic
  · exact agrees_of_preserves (L.basic basic)
  cases r with
  | blockRefs block =>
    refine agrees_of_preserves (Flash.preserves_blockRefs (fun f g hfg => ?_) cfg block)
    rw [hfg.1.1]
  | update u => exact agrees_of_preserves (L.uninterrupted u)
  | copy => exact agrees_of_preserves (.answer _)
  | counter c =>
    refine agrees_of_preserves fun f g hfg => ⟨?_, hfg⟩
    rw [hfg.1.1]
    cases c <;> rfl
  | allocated => exact agrees_of_preserves fun f g hfg => ⟨by rw [hfg.1.1]; rfl, hfg⟩
  | setCounter c value =>
    refine agrees_of_preserves (Coupled.modify fun f g hfg => ⟨?_, hfg.2⟩)
    refine ⟨by rw [hfg.1.1]; cases c <;> rfl, ?_⟩
    exact hfg.1.2.congr (c.slots_set ..) (c.synced_set ..)
  | countdown => exact fun f g hfg => ⟨rfl, hfg⟩
  | image => exact fun f g hfg => ⟨rfl, hfg⟩
  | setCountdown value => cases h
  | _ => cases basic rfl

end FaultyFlash
