import FaultyFlash.Proofs.Imaging.Benches
import FaultyFlash.Proofs.Scenario.Enumeration

/-!
# The image file of the device under test

As a run of the body starts, the image file shows what is stored of the device that is handed to the
body: under the resuming strategies in every run, under the exhaustive strategy in the first. The
copies that are explored after it share the file with the device they were taken of, and there the
file still shows what the run before left.

## Main definitions

* `Strategy.shows`: the runs that start with the image file of their device
* `Scenario.watched`: a body with a probe as its runs start

## Main results

* `Scenario.shows_on_entry`: in these runs the image file is right
* `Scenario.shows_on_entry_stale`: in the second run of an exhaustive scenario it need not be
-/

namespace FaultyFlash

open Bench

variable {S R κ μ α ε : Type}

/-- Under a strategy, does this run, counted from one, start with the image file of its device? -/
def Strategy.shows : Strategy → Nat → Bool
  | .exhaustive _, n => n == 1
  | _, _ => true

namespace Scenario

/-- A body with a probe as its runs start. -/
def watched (probe : Nat → Handle → BenchM S R κ μ Unit) (body : Body S R κ μ ε) : Body S R κ μ ε :=
  fun n d => do
    probe n d
    body n d

variable [PowerLossAware ε] {strategy : Strategy} {cfg : Config} {memory : μ}
  {callbacks : Callbacks κ μ} {nesting limit : Nat} {body : Nat → Program κ μ (Except ε Unit)}
  {probe : Nat → Handle → BenchM Counted Nat κ μ Unit}

omit [PowerLossAware ε] in
/-- Where a probe passes anywhere, a body is as it was. -/
theorem watched_of_passes {body : Body S R κ μ ε} {probe : Nat → Handle → BenchM S R κ μ Unit}
    {n : Nat} {d : Handle} (passes : Passes (fun _ => True) (probe n d)) :
    watched probe body n d = body n d := by
  refine funext fun w => ?_
  show (probe n d >>= fun _ => body n d).run w = _
  rw [EStateM.run_bind, passes w trivial]
  rfl

omit [PowerLossAware ε] in
/-- From one bench an operation does the same twice. -/
theorem keeps_same (m : BenchM S R κ μ α) : Keeps (fun w v => v = w) m m :=
  (Coupled.same (fun _ _ => id) m).mono (fun _ _ => id) (fun _ _ _ => id) fun _ _ _ => trivial

omit [PowerLossAware ε] in
theorem driven_same [BlockStore S R] : Driven fun w v : Bench S R κ μ => v = w where
  install _ _ _ := keeps_same _
  arm _ _ := keeps_same _
  drop _ := keeps_same _
  forks h := by rw [h]
  forget := Coupled.modify fun _ _ h => by rw [h]

omit [PowerLossAware ε] in
/-- What an image shows does not depend on the strategy. -/
theorem shows_of_configFor [BlockStore S R] {w : Bench S R κ μ} {d : Handle}
    (h : w.Shows (configFor strategy cfg) d) : w.Shows cfg d := by
  obtain ⟨D, image, view, hi, length, byte⟩ := h
  exact ⟨D, image, view, hi, length, byte⟩

omit [PowerLossAware ε] in
/-- A run of the body starts with the image file of the device, and keeps it right. -/
theorem keeps_watched
    (passes : ∀ n d, Passes (fun w => strategy.shows n → w.Shows cfg d) (probe n d)) (n : Nat) :
    Keeps (Through (StaysImaged (configFor strategy cfg) 0 []))
      ((body n).execute callbacks nesting 0)
      (watched probe (fun n d => (body n).execute callbacks nesting d) n 0) := by
  have L : Lockstep SetAside (fun a b => a = b ∧ a = 0) (fun _ => True) (fun _ x => x)
      fun aside => Through (StaysImaged (κ := κ) (μ := μ) (configFor strategy cfg) 0 aside) :=
    StaysImaged.lockstep.through
  refine Coupled.probe (fun w v h => ?_) ?_
  · obtain rfl := h.same
    exact passes n 0 v fun _ => shows_of_configFor (shows_of_through h)
  · exact L.execute ⟨rfl, rfl⟩ (fun code calls => (callbacks code calls).blind_id) nesting
      (body n).blind_id

/-- As a run of the body starts, the image file shows what is stored of the device handed to the
body. No probe notices anything else that passes where it does. -/
theorem shows_on_entry (imaged : cfg.image = .writable)
    (passes : ∀ n d, Passes (fun w => strategy.shows n → w.Shows cfg d) (probe n d)) :
    runBody strategy cfg memory
      (watched probe fun n d => (body n).execute callbacks nesting d) limit =
    run callbacks nesting limit strategy cfg memory body := by
  apply runBody_congr
  intro w made
  have L : Lockstep SetAside (fun a b => a = b ∧ a = 0) (fun _ => True) (fun _ x => x)
      fun aside => Through (StaysImaged (κ := κ) (μ := μ) (configFor strategy cfg) 0 aside) :=
    StaysImaged.lockstep.through
  have arms := keeps_arm (i := []) L (d := 0) ⟨rfl, rfl⟩
  have writable : (configFor strategy cfg).image = .writable := imaged
  have new := through_create writable made
  cases strategy with
  | none | linear | log | explicit =>
    exact (keeps_resuming arms (keeps_watched passes) limit _ w w new).mono (fun _ _ _ h => h.same)
      fun _ _ => id
  | exhaustive depth =>
    refine driven_same.keeps_layer_first (fun _ _ h => h.same)
      (fun handler => L.install ⟨rfl, rfl⟩ trivial) arms
      ((keeps_watched passes 1).mono (fun _ _ => id) (fun _ _ _ h => h.same) fun _ _ => id) ?_ w w
      new
    -- in the runs to come the probe passes anywhere
    intro n d later
    rw [watched_of_passes fun w _ => passes n d w fun first => ?_]
    · exact keeps_same _
    · exact absurd (beq_iff_eq.1 first) (Nat.ne_of_gt later)

/-- The pair of blocks where lost power leaves nothing of an update. -/
def atomicPair : Config := { unsyncedPair with crash := .noop }

/-- Programs the first block. -/
def progFirst : Program Unit Unit (Except Failure Unit) :=
  .ask (.update (.prog 0 0 [1, 2])) fun x => .done x

theorem shows_on_entry_progFirst :
    ∃ w : Bench Counted Nat Unit Unit,
      run progThenResume 1 2 .linear atomicPair () (fun _ => progFirst) =
        .ok ⟨.ok ⟨2, 1, [[1]]⟩, some w⟩ ∧
      runBody .linear atomicPair () (watched
        (fun n d => insist (fun w => Strategy.linear.shows n → w.Shows atomicPair d) .exhausted)
        fun _ d => progFirst.execute progThenResume 1 d) 2 = .ok ⟨.ok ⟨2, 1, [[1]]⟩, some w⟩ := by
  have ends : ended (run (S := Counted) progThenResume 1 2 .linear atomicPair ()
      fun _ => progFirst) = some (.ok ⟨2, 1, [[1]]⟩) := by
    decide +kernel
  obtain ⟨w, ran⟩ := ended_eq_some.1 ends
  refine ⟨w, ran, ?_⟩
  rw [← ran]
  exact shows_on_entry rfl fun n d => passes_insist _ _

/-- A copy is explored with the image file that the run before left. There the first block is
programmed, and in the copy, taken as power was lost, it is not. -/
theorem shows_on_entry_stale :
    (∃ w : Bench Counted Nat Unit Unit,
      run progThenResume 1 2 (.exhaustive 1) atomicPair () (fun _ => progFirst) =
        .ok ⟨.ok ⟨2, 1, [[1]]⟩, some w⟩) ∧
    runBody (S := Counted) (.exhaustive 1) atomicPair () (watched
      (fun _ d => insist (Shows atomicPair d) .exhausted)
      fun _ d => progFirst.execute progThenResume 1 d) 2 = .error .exhausted := by
  have ends : ended (run (S := Counted) progThenResume 1 2 (.exhaustive 1) atomicPair ()
      fun _ => progFirst) = some (.ok ⟨2, 1, [[1]]⟩) := by
    decide +kernel
  have breaks : (match runBody (S := Counted) (.exhaustive 1) atomicPair () (watched
      (fun _ d => insist (Shows atomicPair d) .exhausted)
      fun _ d => progFirst.execute progThenResume 1 d) 2 with
    | .error h => some h
    | .ok _ => none) = some .exhausted := by
    decide +kernel
  refine ⟨ended_eq_some.1 ends, ?_⟩
  split at breaks
  · rename_i halted
    rw [halted, Option.some.inj breaks]
  · cases breaks

end Scenario

end FaultyFlash
