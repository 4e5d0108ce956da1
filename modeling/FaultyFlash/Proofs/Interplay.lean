import FaultyFlash.Proofs.Benches

/-!
# Programs that use all devices of a bench

An interplay uses the devices of a bench by their handles: it asks, copies, gives up and installs
callbacks wherever it likes, and so do the callbacks. That is all it does to them: no device is put
in the place of another one.

## Main definitions

* `Interplay κ μ α`: programs that use all devices of a bench
* `Interplay.run`, `Interplay.execute`: such a program run, with callbacks that are such programs

## Main results

* `Bench.Lockstep.interplay`, `Bench.Lockstep.executeInterplay`: interplays keep what operations on
  all devices keep
-/

namespace FaultyFlash

variable {S R κ μ α : Type}

/-- Programs that use all devices of a bench, by their handles and by the operations of devices. A
handle stands for one device as long as there is that device: it may be copied and given up, but not
overwritten by another one. -/
inductive Interplay (κ μ α : Type) : Type where
  /-- Ends with a result. -/
  | done (a : α)
  /-- Asks something of a device. -/
  | ask (d : Handle) (r : Request) (next : Except Failure r.Answer → Interplay κ μ α)
  /-- Copies a device, and is told the handle of the copy. -/
  | copy (d : Handle) (next : Handle → Interplay κ μ α)
  /-- Gives up a device. -/
  | drop (d : Handle) (next : Interplay κ μ α)
  /-- Installs a callback on a device, or removes it. -/
  | install (d : Handle) (callback : Option κ) (next : Interplay κ μ α)
  | getMemory (next : μ → Interplay κ μ α)
  | setMemory (m : μ) (next : Interplay κ μ α)

/-- Callbacks that use all devices of a bench: they are told which one lost power. -/
abbrev Reactions (κ μ : Type) := κ → Nat → Handle → Interplay κ μ (Except Failure Verdict)

namespace Interplay

/-- An interplay looks at its answers only through `seen`. -/
def Blind (seen : Seen) : Interplay κ μ α → Prop
  | .done _ => True
  | .ask _ r next => (∀ x, next x = next (seen r x)) ∧ ∀ x, (next x).Blind seen
  | .copy _ next => ∀ d, (next d).Blind seen
  | .drop _ next => next.Blind seen
  | .install _ _ next => next.Blind seen
  | .getMemory next => ∀ m, (next m).Blind seen
  | .setMemory _ next => next.Blind seen

theorem blind_id (p : Interplay κ μ α) : p.Blind fun _ x => x := by
  induction p with
  | done a => exact trivial
  | ask d r next ih => exact ⟨fun _ => rfl, ih⟩
  | copy d next ih => exact ih
  | drop d next ih => exact ih
  | install d callback next ih => exact ih
  | getMemory next ih => exact ih
  | setMemory m next ih => exact ih

variable [BlockStore S R]

/-- Runs an interplay; `respond` answers losses of power. -/
def run (respond : Responder S R κ μ) : Interplay κ μ α → BenchM S R κ μ α
  | .done a => pure a
  | .ask d r next => do (next (← Bench.perform respond d r)).run respond
  | .copy d next => do (next (← Bench.copy d)).run respond
  | .drop d next => do
    Bench.drop d
    next.run respond
  | .install d callback next => do
    Bench.install d (callback.map (Handler.custom · 0))
    next.run respond
  | .getMemory next => do (next (← get).memory).run respond
  | .setMemory m next => do
    modify fun w => { w with memory := m }
    next.run respond

/-- Runs an interplay with callbacks nested at most `depth` deep. -/
def execute (reactions : Reactions κ μ) (depth : Nat) (p : Interplay κ μ α) : BenchM S R κ μ α :=
  p.run (Bench.respondBy (fun respond code calls d => (reactions code calls d).run respond) depth)

end Interplay

namespace Bench.Lockstep

variable {S' R' ι : Type} [BlockStore S R] [BlockStore S' R'] {Inner : ι → ι → Prop}
  {H : Handle → Handle → Prop} {seen : Seen} {J : ι → Bench S R κ μ → Bench S' R' κ μ → Prop}

/-- An interplay runs alike if all devices of the benches are related and copies and drops are. -/
theorem interplay (L : Lockstep Inner H (fun _ => True) seen J) (all : ∀ d, H d d)
    (copies : ∀ i d, Keeps (J i) (Bench.copy d) (Bench.copy d))
    (drops : ∀ i d, Keeps (J i) (drop d) (drop d))
    {respond : Responder S R κ μ} {respond' : Responder S' R' κ μ}
    (hr : Respond H (fun _ => True) J respond respond') {p : Interplay κ μ α} (hp : p.Blind seen)
    {i : ι} : Keeps (J i) (p.run respond) (p.run respond') := by
  induction p with
  | done a => exact .answer a
  | ask d r next ih =>
    obtain ⟨blind, rest⟩ := hp
    have seenOnly {S R : Type} [BlockStore S R] (respond : Responder S R κ μ) :
        (Interplay.ask d r next).run respond =
          (seen r <$> Bench.perform respond d r) >>= fun x => (next x).run respond := by
      rw [map_eq_pure_bind, bind_assoc]
      simp only [pure_bind, Interplay.run, ← blind]
    rw [seenOnly, seenOnly]
    exact (L.perform (all d) hr r).bind fun x => ih x (rest x)
  | copy d next ih => exact (copies i d).bind fun e => ih e (hp e)
  | drop d next ih => exact (drops i d).bind fun _ => ih hp
  | install d callback next ih => exact (L.install (all d) trivial).bind fun _ => ih hp
  | getMemory next ih =>
    intro w v h
    have run := ih w.memory (hp w.memory) w v h
    show ResultsAgree _ _ (((next w.memory).run respond).run w)
      (((next v.memory).run respond').run v)
    rwa [← L.memory h]
  | setMemory m next ih => exact (L.setMemory m).bind fun _ => ih hp

/-- Callbacks that are such interplays answer losses of power alike. -/
theorem reactions (L : Lockstep Inner H (fun _ => True) seen J)
    (all : ∀ d e, H d e ↔ d = e) (copies : ∀ i d, Keeps (J i) (Bench.copy d) (Bench.copy d))
    (drops : ∀ i d, Keeps (J i) (drop d) (drop d))
    {reactions : Reactions κ μ} (hc : ∀ code calls d, (reactions code calls d).Blind seen)
    (depth : Nat) :
    Respond H (fun _ => True) J
      (Bench.respondBy (fun respond code calls d => (reactions code calls d).run respond) depth)
      (Bench.respondBy (fun respond code calls d => (reactions code calls d).run respond)
        depth) := by
  refine L.respondBy (fun _ _ hr _ code calls d e h _ => ?_) depth
  obtain rfl := (all d e).1 h
  exact L.interplay (fun d => (all d d).2 rfl) copies drops hr (hc code calls d)

/-- So does an interplay with callbacks that are interplays. -/
theorem executeInterplay (L : Lockstep Inner H (fun _ => True) seen J)
    (all : ∀ d e, H d e ↔ d = e) (copies : ∀ i d, Keeps (J i) (Bench.copy d) (Bench.copy d))
    (drops : ∀ i d, Keeps (J i) (drop d) (drop d))
    {reactions : Reactions κ μ} (hc : ∀ code calls d, (reactions code calls d).Blind seen)
    (depth : Nat) {p : Interplay κ μ α} (hp : p.Blind seen) {i : ι} :
    Keeps (J i) (p.execute reactions depth) (p.execute reactions depth) :=
  L.interplay (fun d => (all d d).2 rfl) copies drops (L.reactions all copies drops hc depth) hp

end Bench.Lockstep

end FaultyFlash
