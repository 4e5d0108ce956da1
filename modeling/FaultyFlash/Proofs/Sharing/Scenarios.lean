import FaultyFlash.Proofs.Guards
import FaultyFlash.Proofs.Scenario.Drives
import FaultyFlash.Proofs.Scenario.Layers
import FaultyFlash.Proofs.Sharing.Benches

/-!
# Scenarios on devices that share blocks

A scenario takes its course, where copies of a device share blocks, as it does where each has blocks
of its own. No callback of the test is installed on the way, so it does not matter which there are.

## Main definitions

* `Bench.Unattended`: no callback, or one that is not of the test
* `Bench.AlikeUnattended`: operations that answer alike where no callback of the test is installed

## Main results

* `Scenario.alike_drive`: scenarios answer alike
-/

namespace FaultyFlash

variable {κ μ α β ε : Type}

/-- A program that does not look at more than is steady does not look at the sharing of blocks. -/
theorem Program.Blind.apartRefs {p : Program κ μ α} (h : p.Blind Request.steady) :
    p.Blind Request.apartRefs := by
  induction p with
  | done a => exact trivial
  | ask r next ih =>
    refine ⟨fun x => ?_, fun x => ih x (h.2 x)⟩
    have same : r.steady (r.apartRefs x) = r.steady x := by
      cases r <;> first | rfl | (cases x <;> rfl)
    rw [h.1 x, h.1 (r.apartRefs x), same]
  | install callback next ih => exact ih h
  | getMemory next ih => exact fun m => ih m (h m)
  | setMemory m next ih => exact ih h

namespace Bench

/-- No callback, or one that is not of the test. -/
def Unattended (callback : Option (Handler κ)) : Prop :=
  ∀ code calls, callback ≠ some (.custom code calls)

/-- Operations that answer alike on a bench on which no callback of the test is installed and on the
bench as it is seen. -/
abbrev AlikeUnattended (m : BenchM Counted Nat κ μ α) (m' : BenchM Plain Block κ μ α) : Prop :=
  Keeps (fun w v => SeenAs w v ∧ Guarded Unattended v) m m'

namespace AlikeUnattended

theorem of_alike {m : BenchM Counted Nat κ μ α} {m' : BenchM Plain Block κ μ α} (h : Alike m m')
    (guards : Guards Unattended m') : AlikeUnattended m m' :=
  coupled_guarded h guards

theorem bind {m : BenchM Counted Nat κ μ α} {m' : BenchM Plain Block κ μ α}
    {k : α → BenchM Counted Nat κ μ β} {k' : α → BenchM Plain Block κ μ β}
    (h : AlikeUnattended m m') (hk : ∀ a, AlikeUnattended (k a) (k' a)) :
    AlikeUnattended (m >>= k) (m' >>= k') :=
  Coupled.bind h hk

theorem answer (a : α) : AlikeUnattended (κ := κ) (μ := μ) (pure a) (pure a) :=
  Coupled.answer a

theorem arm (d : Handle) (n : UInt32) :
    AlikeUnattended (κ := κ) (μ := μ) (Scenario.arm d n) (Scenario.arm d n) :=
  of_alike (Alike.on d fun cfg others kept => Coupled.modify fun _ _ h =>
    (Flash.Sharing.lockstep cfg others kept).rearm n h) (.on d _)

theorem install (d : Handle) {callback : Option (Handler κ)} (hA : Unattended callback) :
    AlikeUnattended (μ := μ) (install d callback) (install d callback) :=
  of_alike (Alike.install d callback) (.install d hA)

theorem drop (d : Handle) : AlikeUnattended (κ := κ) (μ := μ) (drop d) (drop d) :=
  of_alike (Alike.drop d) (.drop d)

/-- A program that only asks runs alike, whatever callbacks the test has. -/
theorem execute (callbacks : Callbacks κ μ) (nesting : Nat) (d : Handle) {p : Program κ μ α}
    {ok : Request → Prop} (asks : p.Asks ok) (blind : p.Blind Request.steady) :
    AlikeUnattended (p.execute callbacks nesting d) (p.execute callbacks nesting d) := by
  -- no callback of the test is called, so nothing is asked of what they do
  have L := (SeenAs.lockstep (κ := κ) (μ := μ)).guarded (A := Unattended) nofun
    fun code calls h => absurd rfl (h code calls)
  exact L.program (i := ()) (rfl : d = d)
    (L.callbacks (fun code calls h => absurd rfl (h code calls)) nesting) blind.apartRefs
    (asks.installs _)

end AlikeUnattended

end Bench

namespace Scenario

open Bench

variable [PowerLossAware ε] {callbacks : Callbacks κ μ} {nesting : Nat}
  {p : Program κ μ (Except ε Unit)} {note : Device Block → μ → μ}

omit [PowerLossAware ε] in
/-- What a body notes of a device is the device as it is seen. -/
theorem alike_noted {ok : Request → Prop} (asks : p.Asks ok) (blind : p.Blind Request.steady)
    (n : Nat) (d : Handle) :
    AlikeUnattended (noted note callbacks nesting p n d) (noted note callbacks nesting p n d) := by
  refine AlikeUnattended.bind ?_ fun _ => .execute callbacks nesting d asks blind
  rintro w v ⟨seen, guarded⟩
  obtain rfl := seen.seen
  refine ⟨rfl, ⟨?_, seen.counts⟩, guarded⟩
  simp only [view_plain]
  rfl

/-- A body that answers alike. -/
abbrev AlikeBody (body : Body Counted Nat κ μ ε) (body' : Body Plain Block κ μ ε) : Prop :=
  ∀ n d, AlikeUnattended (body n d) (body' n d)

variable {body : Body Counted Nat κ μ ε} {body' : Body Plain Block κ μ ε}

omit [PowerLossAware ε] in
theorem driven_unattended :
    Driven fun (w : Bench Counted Nat κ μ) v => SeenAs w v ∧ Guarded Unattended v where
  install d handler own :=
    AlikeUnattended.install d fun code calls same => own code calls (Option.some.inj same)
  arm := AlikeUnattended.arm
  drop := AlikeUnattended.drop
  forks := by
    rintro w v ⟨seen, -⟩
    obtain rfl := seen.seen
    rfl
  forget := by
    apply Coupled.modify
    rintro w v ⟨seen, guarded⟩
    obtain rfl := seen.seen
    exact ⟨⟨rfl, seen.counts⟩, guarded⟩

/-- Scenarios take the same course where blocks are shared. -/
theorem alike_drive (h : AlikeBody body body') (strategy : Strategy) (limit : Nat) :
    AlikeUnattended (drive strategy body limit) (drive strategy body' limit) :=
  driven_unattended.keeps_drive h strategy limit

end Scenario

end FaultyFlash
