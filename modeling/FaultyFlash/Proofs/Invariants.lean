import FaultyFlash.Proofs.Benches

/-!
# Properties that operations keep

A property of a device or a bench is a relation of it to itself, so what was shown of pairs tells
what operations keep: the parts of reads and updates need only be looked at once. Relations that are
kept each by itself are kept together.

## Main definitions

* `Diagonal P`: a state with a property, compared with itself
* `Flash.Ends pre op post err`: what holds after an operation on a device

## Main results

* `Flash.looking_diagonal`: looking at a device keeps what draws and counters keep
* `Flash.TimedLockstep.effect_diagonal`: what the primitive operations keep, every request keeps
* `Bench.Lockstep.both`: two relations between benches are kept together
-/

namespace FaultyFlash

/-- A state with a property, and the same state. -/
def Diagonal {σ : Type} (P : σ → Prop) (s t : σ) : Prop := t = s ∧ P s

namespace Flash

variable {S R α : Type}

/-- From devices with `pre`, an operation that answers ends in a device with `post`, and one that
fails ends in a device with `err`. -/
abbrev Ends (pre : Flash S R → Prop) (op : FlashM S R α) (post : α → Flash S R → Prop)
    (err : Flash S R → Prop) : Prop :=
  Coupled (Diagonal pre) op op (fun a => Diagonal (post a)) (Diagonal err)

variable {pre err : Flash S R → Prop} {post : α → Flash S R → Prop} {op : FlashM S R α}

theorem Ends.of_run (h : ∀ f, pre f → match op.run f with
      | .ok a g => post a g
      | .error _ g => err g) : Ends pre op post err := by
  rintro _ f ⟨rfl, hf⟩
  have run := h f hf
  cases hr : op.run f with
  | ok a g =>
    rw [hr] at run
    exact ⟨rfl, rfl, run⟩
  | error e g =>
    rw [hr] at run
    exact ⟨rfl, rfl, run⟩

theorem Ends.run (h : Ends pre op post err) {f : Flash S R} (hf : pre f) :
    match op.run f with
      | .ok a g => post a g
      | .error _ g => err g := by
  have agree := h f f ⟨rfl, hf⟩
  cases hr : op.run f with
  | ok a g =>
    rw [hr] at agree
    exact agree.2.2
  | error e g =>
    rw [hr] at agree
    exact agree.2.2

variable [BlockStore S R] {P : Flash S R → Prop}

/-- Looking at a block leaves the device as it is. -/
theorem answered_fetch (block : Nat) (f : Flash S R) : (answered (fetch block) f).2 = f := by
  simp only [answered, fetch, EStateM.run_bind, run_slot]
  rcases f.device.slots[block]? with _ | _ | r
  · rfl
  · rfl
  · simp only [EStateM.run_bind, run_deref]
    rcases BlockStore.contents f.store r with _ | b <;> rfl

/-- Devices at which a block is found alike are left as they are by the looking. -/
theorem look_of_preserves {S' R' : Type} [BlockStore S' R'] {I : Flash S R → Flash S' R' → Prop}
    {block : Nat} (kept : Preserves I (fetch block) (fetch block)) {f : Flash S R}
    {g : Flash S' R'} (h : I f g) :
    ResultsAgree (fun _ s t => s = f ∧ t = g) (fun s t => s = f ∧ t = g) ((fetch block).run f)
      ((fetch block).run g) := by
  have run := kept f g h
  have first := answered_fetch block f
  have second := answered_fetch block g
  unfold answered at first second
  cases hf : (fetch block).run f <;> cases hg : (fetch block).run g <;>
    simp only [hf, hg, ResultsAgree] at run first second ⊢
  · exact ⟨run.1, first, second⟩
  · exact ⟨run.1, first, second⟩

/-- Looking at who holds a block does so, too. -/
theorem answered_blockRefs (cfg : Config) (block : Nat) (f : Flash S R) :
    (answered (blockRefs cfg block) f).2 = f := by
  simp only [answered, blockRefs, EStateM.run_bind, run_contract, run_slot]
  rcases cfg.geometry.checkBlock .blockRefs block with m | _
  · rfl
  · dsimp only
    rcases f.device.slots[block]? with _ | _ | r <;> rfl

omit [BlockStore S R] in
/-- What leaves a device as it is keeps its properties. -/
theorem preserves_of_answered {op : FlashM S R α} (h : ∀ f, (answered op f).2 = f) :
    Preserves (Diagonal P) op op := by
  apply Ends.of_run
  intro f hf
  have same := h f
  unfold answered at same
  cases hr : op.run f with
  | ok a g =>
    rw [hr] at same
    obtain rfl := same
    exact hf
  | error e g =>
    rw [hr] at same
    obtain rfl := same
    exact hf

/-- What the image file does not concern, writing it out keeps. -/
theorem preserves_save (write : ∀ f i, P f → P { f with image := i }) (cfg : Config)
    (block off len : Nat) :
    Preserves (Diagonal P) (save cfg block off len) (save cfg block off len) := by
  refine Coupled.get_bind fun f g h => ?_
  obtain ⟨rfl, hf⟩ := h
  rcases g.image with _ | image
  · exact .pure _ fun _ _ h => h.2.2
  have fetched : Coupled (fun s t => s = g ∧ t = g ∧ Diagonal P s t) (fetch block) (fetch block)
      (fun _ => Diagonal P) (Diagonal P) :=
    (preserves_of_answered (answered_fetch block)).mono (fun _ _ h => h.2.2) (fun _ _ _ => id)
      fun _ _ => id
  have written (i : Image) : Preserves (Diagonal P) (writeOut cfg i) (writeOut cfg i) :=
    Lockstep.writeOut (fun _ _ => id) fun s _ ⟨same, hs⟩ => ⟨by rw [same], write s _ hs⟩
  refine fetched.bind fun stored => ?_
  rcases stored with _ | b
  · exact written _
  · exact (preserves_sound _).bind fun _ => written _

/-- What draws and counters leave, looking leaves. -/
theorem looking_diagonal (reseed : ∀ f x, P f → P (f.reseed x))
    (tally : ∀ f c n, P f → P (f.tally c n)) : Looking (Diagonal P) where
  look block := look_of_preserves (preserves_of_answered (answered_fetch block))
  generator {_ f} := by
    rintro ⟨rfl, -⟩
    rfl
  reseed {_ f} x := by
    rintro ⟨rfl, hf⟩
    exact ⟨rfl, reseed f x hf⟩
  tally {_ f} c n := by
    rintro ⟨rfl, hf⟩
    exact ⟨rfl, tally f c n hf⟩

/-- What the primitive operations and the counters keep of a device, every request keeps. -/
theorem TimedLockstep.effect_diagonal {cfg : Config}
    {Owned : Nat → Block → Flash S R → Flash S R → Prop}
    (L : TimedLockstep cfg (Diagonal P) Owned)
    (counters : ∀ f c n, P f → P { f with device := Counter.set n f.device c }) (r : Request) :
    Preserves (Diagonal P) (r.effect cfg) (r.effect cfg) := by
  by_cases basic : r.isBasic
  · exact L.basic basic
  cases r with
  | update u => exact L.uninterrupted u
  | blockRefs block => exact preserves_of_answered (answered_blockRefs cfg block)
  | setCounter c value =>
    apply Coupled.modify
    rintro _ f ⟨rfl, hf⟩
    exact ⟨rfl, counters f c value hf⟩
  | setCountdown value => exact Coupled.modify fun _ _ => L.rearm value
  | counter | countdown | allocated | image | copy => exact preserves_of_answered fun _ => rfl
  | _ => exact absurd rfl basic

end Flash

/-! ## Relations that are kept together -/

theorem Coupled.both {ε σ σ' α : Type} {pre pre' : σ → σ' → Prop} {post post' : α → σ → σ' → Prop}
    {m : EStateM ε σ α} {m' : EStateM ε σ' α} (h : Coupled pre m m' post fun _ _ => True)
    (h' : Coupled pre' m m' post' fun _ _ => True) :
    Coupled (fun s s' => pre s s' ∧ pre' s s') m m' (fun a s s' => post a s s' ∧ post' a s s')
      fun _ _ => True := by
  rintro s s' ⟨hs, hs'⟩
  have first := h s s' hs
  have second := h' s s' hs'
  cases hr : m.run s with
  | ok a t =>
    rw [hr] at first second
    obtain ⟨t', ht', hp⟩ := first.ok_left
    rw [ht'] at second ⊢
    exact ⟨rfl, hp, second.2⟩
  | error e t =>
    rw [hr] at first
    obtain ⟨t', ht', -⟩ := first.error_left
    rw [ht']
    exact ⟨rfl, trivial⟩

namespace Bench

variable {S R S' R' κ μ ι : Type} {K : Bench S R κ μ → Bench S' R' κ μ → Prop}

variable [BlockStore S R] [BlockStore S' R']

/-- Two relations that operations keep, they keep together. -/
theorem Lockstep.both {Inner : ι → ι → Prop} {H : Handle → Handle → Prop}
    {A : Option (Handler κ) → Prop} {seen : Seen} {J : ι → Bench S R κ μ → Bench S' R' κ μ → Prop}
    (L : Lockstep Inner H A seen J)
    (L' : Lockstep (fun _ _ : Unit => True) H (fun _ => True) seen fun _ => K) :
    Lockstep Inner H A seen fun i w v => J i w v ∧ K w v where
  start h u := (L.start h u).both (L'.start (i := ()) h u)
  complete h worn u := (L.complete h worn u).both (L'.complete (i := ()) h worn u)
  crash h u := (L.crash h u).both (L'.crash (i := ()) h u)
  direct h _ hr respond respond' :=
    (L.direct h hr respond respond').both (L'.direct (i := ()) h hr respond respond')
  callback h hwv := L.callback h hwv.1
  allowed h hwv := L.allowed h hwv.1
  next := L.next
  missing h hwv := L.missing h hwv.1
  install h _ hA := (L.install h hA).both (L'.install (i := ()) h trivial)
  copy h respond respond' := (L.copy h respond respond').both (L'.copy (i := ()) h respond respond')
  fork h := (L.fork h).both (L'.fork (i := ()) h)
  suspend h := by
    refine ((L.suspend h).both (L'.suspend (i := ()) h)).mono (fun _ _ => id) ?_ fun _ _ => id
    rintro _ w v ⟨⟨j, hij, hJ⟩, _, -, hK⟩
    exact ⟨j, hij, hJ, hK⟩
  discard hij := (L.discard hij).both (L'.discard (i := ()) (j := ()) trivial)
  resume h hij := (L.resume h hij).both (L'.resume (i := ()) (j := ()) h trivial)
  memory h := L.memory h.1
  setMemory m := (L.setMemory m).both (L'.setMemory (i := ()) m)

end Bench

end FaultyFlash
