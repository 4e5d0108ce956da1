import FaultyFlash.Proofs.Probes
import FaultyFlash.Proofs.SoundBenches
import FaultyFlash.Proofs.Sharing.Benches

/-!
# Sound benches that share blocks

What operations keep of a bench where nothing is shared, they keep of the bench as it is seen, even
if programs look at how many share a block. In particular every bench that can be reached is well
formed: its store counts every reference, and its devices are sound.

## Main definitions

* `Bench.Through J`: a property of the bench as it is seen
* `Bench.WellFormed`: well-formed benches

## Main results

* `Bench.Lockstep.through`: operations keep what they keep where nothing is shared
* `Bench.wellFormed_create`, `Bench.WellFormed.execute`, `Bench.WellFormed.executeProbed`: reachable
  benches are well formed, and stay so all along every run
-/

namespace FaultyFlash

variable {κ μ α β ι : Type}

namespace Bench

/-- A bench, compared with itself, is seen as one with the property `J`, and its store counts every
reference. -/
structure Through (J : Bench Plain Block κ μ → Bench Plain Block κ μ → Prop)
    (w v : Bench Counted Nat κ μ) : Prop where
  same : v = w
  seen : SeenAs w w.plain
  holds : J w.plain w.plain

variable {J J' : Bench Plain Block κ μ → Bench Plain Block κ μ → Prop}

/-- An operation that answers alike on a bench and on the bench as it is seen, as far as `f` tells,
keeps what it keeps there. -/
theorem Alike.through (f : α → β) {m : BenchM Counted Nat κ μ α} {m' : BenchM Plain Block κ μ α}
    (alike : Alike (f <$> m) (f <$> m'))
    (kept : Coupled J m' m' (fun _ => J') fun _ _ => True) :
    Coupled (Through J) m m (fun _ => Through J') fun _ _ => True := by
  intro v w h
  obtain rfl := h.same
  -- the two runs answer alike, and the one where nothing is shared ends with `J'`
  have run := alike w w.plain h.seen
  rw [map_eq_pure_bind, map_eq_pure_bind, EStateM.run_bind, EStateM.run_bind] at run
  cases hm : m.run w with
  | error e t => exact ⟨rfl, trivial⟩
  | ok a t =>
    rw [hm] at run
    cases hm' : m'.run w.plain with
    | error e t' =>
      rw [hm'] at run
      exact run.elim
    | ok b t' =>
      rw [hm'] at run
      have held := kept w.plain w.plain h.holds
      rw [hm'] at held
      obtain rfl := run.2.seen
      exact ⟨rfl, rfl, run.2, held.2⟩

/-- So it does if it answers the same. -/
theorem Alike.throughSame {m : BenchM Counted Nat κ μ α} {m' : BenchM Plain Block κ μ α}
    (alike : Alike m m') (kept : Coupled J m' m' (fun _ => J') fun _ _ => True) :
    Coupled (Through J) m m (fun _ => Through J') fun _ _ => True :=
  through id (by simpa only [id_map] using alike) kept

/-- Operations keep of a bench as it is seen what they keep where nothing is shared. -/
theorem Lockstep.through {Inner : ι → ι → Prop} {U : Handle → Prop}
    {A : Option (Handler κ) → Prop} {J : ι → Bench Plain Block κ μ → Bench Plain Block κ μ → Prop}
    (L : Lockstep Inner (fun a b => a = b ∧ U a) A (fun _ x => x) J) :
    Lockstep Inner (fun a b => a = b ∧ U a) A (fun _ x => x) fun i => Through (J i) where
  start := by
    rintro i d _ ⟨rfl, hd⟩ u
    exact Alike.throughSame (SeenAs.lockstep.start (i := ()) rfl u) (L.start ⟨rfl, hd⟩ u)
  complete := by
    rintro i d _ ⟨rfl, hd⟩ worn u
    exact Alike.throughSame (SeenAs.lockstep.complete (i := ()) rfl worn u)
      (L.complete ⟨rfl, hd⟩ worn u)
  crash := by
    rintro i d _ ⟨rfl, hd⟩ u
    exact Alike.throughSame (SeenAs.lockstep.crash (i := ()) rfl u) (L.crash ⟨rfl, hd⟩ u)
  direct := by
    rintro i d _ ⟨rfl, hd⟩ q hq respond respond'
    rw [perform_direct respond d hq, perform_direct respond' d hq]
    have kept := L.direct (i := i) (e := d) ⟨rfl, hd⟩ hq (fun _ _ => throw .exhausted)
      fun _ _ => throw .exhausted
    have alike := Alike.direct (μ := μ) (κ := κ) d hq (fun _ _ => throw .exhausted)
      fun _ _ => throw .exhausted
    rw [perform_direct _ d hq, perform_direct _ d hq] at alike
    rw [perform_direct _ d hq] at kept
    refine Coupled.map _ (Alike.through _ alike ?_)
    simpa only [id_map'] using kept
  callback := by
    rintro i w v d _ ⟨rfl, -⟩ h
    rw [h.same]
  allowed := by
    rintro i w v d _ r ⟨rfl, hd⟩ h hr
    exact L.allowed (r := r.plain w.store) ⟨rfl, hd⟩ h.holds (plain_of_rig? hr)
  next := L.next
  missing h _ _ := h.1
  install := by
    rintro i d _ ⟨rfl, hd⟩ callback hA
    exact Alike.throughSame (Alike.install d callback) (L.install ⟨rfl, hd⟩ hA)
  copy := by
    rintro i d _ ⟨rfl, hd⟩ respond respond'
    exact Alike.throughSame (SeenAs.lockstep.copy (i := ()) rfl respond fun _ _ => throw .exhausted)
      (L.copy ⟨rfl, hd⟩ _ _)
  fork := by
    rintro i d _ ⟨rfl, hd⟩
    exact Alike.throughSame (Alike.fork d) (L.fork ⟨rfl, hd⟩)
  suspend := by
    rintro i d _ ⟨rfl, hd⟩
    refine (Alike.throughSame (Alike.suspend d) (L.suspend ⟨rfl, hd⟩)).mono (fun _ _ => id) ?_
      fun _ _ => id
    rintro _ w v ⟨same, seen, j, hij, holds⟩
    exact ⟨j, hij, same, seen, holds⟩
  discard hij := Alike.throughSame Alike.discard (L.discard hij)
  resume := by
    rintro i j d _ ⟨rfl, hd⟩ hij
    exact Alike.throughSame (Alike.resume d) (L.resume ⟨rfl, hd⟩ hij)
  memory h := by rw [h.same]
  setMemory m := Alike.throughSame (SeenAs.lockstep.setMemory (i := ()) m) (L.setMemory m)

section

variable {cfg : Config} {imaged : Bool} {aside : List (Suspension Block)}

/-- Operations on a bench whose devices are sound leave them sound. -/
theorem Through.lockstep (cfg : Config) (imaged : Bool) :
    Lockstep SetAside (fun a b => a = b ∧ True) (fun _ => True) (fun _ x => x)
      fun aside => Through (StaysSound (κ := κ) (μ := μ) cfg imaged (fun _ => False)
        (fun _ => True) aside) :=
  have sound : Lockstep SetAside (fun a b => a = b ∧ True) (fun _ => True) (fun _ x => x)
      (StaysSound (κ := κ) (μ := μ) cfg imaged (fun _ => False) fun _ => True) :=
    StaysSound.lockstep (fun _ _ => .inr fun _ => trivial) fun _ _ => id
  sound.through

theorem Through.copy (d : Handle) :
    Keeps (Through (StaysSound (κ := κ) (μ := μ) cfg imaged (fun _ => False) (fun _ => True) aside))
      (copy d) (copy d) :=
  Alike.throughSame (Alike.copy d) (StaysSound.copy d)

theorem Through.drop (d : Handle) :
    Keeps (Through (StaysSound (κ := κ) (μ := μ) cfg imaged (fun _ => False) (fun _ => True) aside))
      (drop d) (drop d) :=
  Alike.throughSame (Alike.drop d) (StaysSound.drop id)

end

/-! ## Well-formed benches -/

/-- A bench whose store counts every reference, and on which all devices and states set aside are
sound for a geometry that is allowed. -/
structure WellFormed (w : Bench Counted Nat κ μ) : Prop where
  geometry : w.config.geometry.check = .ok ()
  seen : SeenAs w w.plain
  devices {d : Handle} {r : Rig Block κ} (h : w.plain.rig? d = some r) : r.device.Sound w.config
  tables {s : Suspension Block} (h : s ∈ w.plain.suspended) : s.slots.Sound w.config

/-- A well-formed bench is one that stays sound. -/
theorem WellFormed.through {w : Bench Counted Nat κ μ} (h : w.WellFormed) {W : Handle → Prop}
    {A : Option (Handler κ) → Prop}
    (watched : ∀ d, W d → ∃ r, w.plain.rig? d = some r ∧ A r.callback) :
    Through (StaysSound w.config w.image.isSome W A w.plain.suspended) w w :=
  ⟨rfl, h.seen, rfl, rfl, rfl, h.devices, watched _, rfl, h.tables⟩

/-- A well-formed bench has room for the blocks that it may need. -/
theorem WellFormed.roomy {w : Bench Counted Nat κ μ} (h : w.WellFormed)
    (limit : w.config.geometry.blockSize < Config.allocationLimit) : w.config.Roomy :=
  ⟨Nat.mul_ne_zero (Geometry.of_check h.geometry).2.2.1 (by decide), limit⟩

theorem wellFormed_of_through {cfg : Config} {imaged : Bool} {W : Handle → Prop}
    {A : Option (Handler κ) → Prop} {aside : List (Suspension Block)} {w v : Bench Counted Nat κ μ}
    (geometry : cfg.geometry.check = .ok ())
    (h : Through (StaysSound cfg imaged W A aside) w v) : w.WellFormed := by
  obtain ⟨-, seen, sound⟩ := h
  obtain rfl : w.config = cfg := sound.config
  exact ⟨geometry, seen, sound.devices, fun hs => sound.tables (sound.suspended ▸ hs)⟩

/-- A new bench is well formed. -/
theorem wellFormed_create {cfg : Config} {memory : μ} {w : Bench Counted Nat κ μ}
    (h : create cfg memory = .ok w) : w.WellFormed := by
  obtain ⟨seen, plain⟩ := plain_create h
  obtain ⟨geometry, image, -, made⟩ := create_eq_ok.1 plain
  have config : w.config = cfg := congrArg Bench.config made
  refine ⟨config ▸ geometry, seen, fun {d r} hr => ?_, fun hs => ?_⟩
  · -- there is one device, and it is new
    rw [made, rig?_eq_some] at hr
    rw [config]
    obtain rfl := Option.some.inj (List.mem_singleton.1 (List.mem_of_getElem? hr))
    exact Device.sound_fresh cfg
  · rw [made] at hs
    cases hs

/-- What happens on a well-formed bench leaves it well formed. -/
theorem WellFormed.execute {w v : Bench Counted Nat κ μ} (h : w.WellFormed)
    {reactions : Reactions κ μ} {depth : Nat} {p : Interplay κ μ α} {a : α}
    (run : (p.execute reactions depth).run w = .ok a v) : v.WellFormed := by
  have kept := (Through.lockstep w.config w.image.isSome).executeInterplay
    (fun _ _ => and_iff_left trivial) (fun _ => Through.copy) (fun _ => Through.drop)
    (fun code calls d => (reactions code calls d).blind_id) depth p.blind_id w w
    (h.through fun _ => False.elim)
  rw [run] at kept
  exact wellFormed_of_through h.geometry kept.2

/-- It stays well formed all along, also where callbacks run. No probe notices anything else that
passes on well-formed benches. -/
theorem WellFormed.executeProbed {w : Bench Counted Nat κ μ} (h : w.WellFormed)
    {probe : BenchM Counted Nat κ μ Unit} (passes : Passes WellFormed probe)
    (reactions : Reactions κ μ) (depth : Nat) (p : Interplay κ μ α) :
    ResultsAgree (fun _ v u => u = v ∧ v.WellFormed) (fun _ _ => True)
      ((p.execute reactions depth).run w) ((p.executeProbed probe reactions depth).run w) := by
  have kept := (Through.lockstep w.config w.image.isSome).executeInterplayProbed
    (i := w.plain.suspended)
    (fun _ _ u hu => passes u (hu.same ▸ wellFormed_of_through h.geometry hu))
    (fun _ _ => and_iff_left trivial) (fun _ => Through.copy) (fun _ => Through.drop)
    reactions depth p
  exact (kept w w (h.through fun _ => False.elim)).mono
    (fun _ v u hv => ⟨hv.same, wellFormed_of_through h.geometry hv⟩) fun _ _ => id

end Bench

end FaultyFlash
