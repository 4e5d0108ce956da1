import FaultyFlash.Proofs.Renaming.Devices
import FaultyFlash.Proofs.Sharing.Benches

/-!
# Benches under other names

What is done to a bench does not depend on the numbers by which its store knows the blocks. Two
benches on which the same blocks go by different names, and are held by as many on both, answer
alike, and are so related again.

## Main definitions

* `Rig.rename`, `Suspension.rename`, `Bench.rename`: a bench with other names
* `Bench.Renamed σ`: the blocks of a bench go by other names on another
* `Bench.Alias`: so they do by some names

## Main results

* `Bench.Alias.view`: other names are not seen
* `Bench.Alias.lockstep`: operations on a bench are the same under all names
-/

namespace FaultyFlash

open BlockStore (refs contents retainAll releaseAll)
open Device (holds_pos)

variable {κ μ α : Type} {σ τ : Nat → Nat}

/-- A device with its callback, with other names. -/
def Rig.rename (σ : Nat → Nat) (r : Rig Nat κ) : Rig Nat κ :=
  { r with device := r.device.rename σ }

/-- A state set aside, with other names. -/
def Suspension.rename (σ : Nat → Nat) (x : Suspension Nat) : Suspension Nat :=
  { x with slots := x.slots.rename σ }

namespace Bench

/-- A bench with other names, which are those of the store `s`. -/
def rename (σ : Nat → Nat) (s : Counted) (w : Bench Counted Nat κ μ) : Bench Counted Nat κ μ :=
  { w with
    store := s
    rack := w.rack.map (Option.map (Rig.rename σ))
    suspended := w.suspended.map (Suspension.rename σ) }

/-- The blocks of the bench `v` go by other names on `w`, and as many hold them on both. -/
structure Renamed (σ : Nat → Nat) (w v : Bench Counted Nat κ μ) : Prop where
  store : Counted.Renamed (fun _ => 0) σ w.store v.store
  named : w = v.rename σ w.store
  counts : SeenAs v v.plain

/-- So they do by some names. -/
def Alias (w v : Bench Counted Nat κ μ) : Prop :=
  ∃ σ, Renamed σ w v

variable {w v : Bench Counted Nat κ μ} {d : Handle} {r : Rig Nat κ}

/-- Only names of blocks that are held matter. -/
theorem rename_congr (h : ∀ r, 0 < v.held r → σ r = τ r) (s : Counted) :
    v.rename σ s = v.rename τ s := by
  have rack : v.rack.map (Option.map (Rig.rename σ)) = v.rack.map (Option.map (Rig.rename τ)) := by
    refine List.map_congr_left fun x hx => ?_
    cases x with
    | none => rfl
    | some rig =>
      refine congrArg some (congrArg (Rig.mk · rig.callback) ?_)
      refine Device.rename_congr fun r hr => h r (Nat.add_pos_left ?_ _)
      exact List.sum_pos_iff_exists_pos_nat.2 ⟨_, List.mem_map_of_mem hx, hr⟩
  have suspended : v.suspended.map (Suspension.rename σ) =
      v.suspended.map (Suspension.rename τ) := by
    refine List.map_congr_left fun x hx => congrArg (Suspension.mk · x.generator) ?_
    refine Slots.rename_congr fun r hr => h r (Nat.add_pos_right _ ?_)
    exact List.sum_pos_iff_exists_pos_nat.2
      ⟨_, List.mem_map_of_mem hx, List.count_pos_iff.2 hr⟩
  simp only [rename, rack, suspended]

theorem rig?_rename (σ : Nat → Nat) (s : Counted) (v : Bench Counted Nat κ μ) (d : Handle) :
    (v.rename σ s).rig? d = (v.rig? d).map (Rig.rename σ) := by
  simp only [rig?, rename, List.getElem?_map]
  cases v.rack[d]? <;> rfl

theorem rig?_of_named (named : w = v.rename σ w.store) (d : Handle) :
    w.rig? d = (v.rig? d).map (Rig.rename σ) := by
  rw [named]
  exact rig?_rename ..

/-- What is done to one device leaves the names of blocks that others hold. -/
theorem settle_of_named (named : w = v.rename σ w.store) (hr : v.rig? d = some r)
    {f g : Flash Counted Nat} (hf : Flash.Alias (v.others d) (fun _ => 0) σ f g) :
    Alias (w.settle d (r.rename σ) f) (v.settle d r g) := by
  obtain ⟨τ, same, hf⟩ := hf
  have rest := rename_congr (v := { v with rack := v.rack.set d none }) same f.store
  refine ⟨τ, hf.store, ?_, rfl, fun b => ?_⟩
  · simp only [rename, List.map_set, Bench.mk.injEq] at rest
    obtain ⟨-, -, -, rack, suspended, -, -⟩ := rest
    have rack := congrArg (·.set d (some (Rig.mk f.device r.callback))) rack
    simp only [List.set_set] at rack
    rw [named]
    simp only [settle, rename, List.map_set, suspended, hf.image]
    refine congrArg (Bench.mk _ _ _ · _ _ _) (Eq.trans rack.symm ?_)
    rw [hf.device]
    rfl
  · rw [held_eq (rig?_settle hr g) b]
    have rest : (v.settle d r g).others d b = v.others d b := by
      simp only [others, settle, held, List.set_set]
    rw [rest]
    exact hf.counts b

/-- An operation on a device is the same under all names if it is so on the device alone. -/
theorem on_of_named (named : w = v.rename σ w.store) (d : Handle)
    {op op' : Config → FlashM Counted Nat α}
    (hop : ∀ r, v.rig? d = some r →
      ResultsAgree (fun _ => Flash.Alias (v.others d) (fun _ => 0) σ)
        (Flash.Alias (v.others d) (fun _ => 0) σ) ((op w.config).run (w.flash (r.rename σ)))
        ((op' v.config).run (v.flash r))) :
    ResultsAgree (fun _ => Alias) (fun _ _ => True) ((on d op).run w) ((on d op').run v) := by
  have there := rig?_of_named named d
  cases hr : v.rig? d with
  | none =>
    rw [hr] at there
    rw [run_on, run_on, there, hr]
    exact ⟨rfl, trivial⟩
  | some r =>
    rw [hr] at there
    have run := hop r hr
    rw [run_on_of_rig? hr, run_on_of_rig? there]
    rcases hf : (op w.config).run (w.flash (r.rename σ)) with ⟨a, f⟩ | ⟨e, f⟩ <;> rw [hf] at run
    · obtain ⟨g, hg, left⟩ := run.ok_left
      rw [hg]
      exact ⟨rfl, settle_of_named named hr left⟩
    · obtain ⟨g, hg, left⟩ := run.error_left
      rw [hg]
      exact ⟨rfl, settle_of_named named hr left⟩

namespace Renamed

theorem rig? (h : Renamed σ w v) (d : Handle) : w.rig? d = (v.rig? d).map (Rig.rename σ) :=
  rig?_of_named h.named d

/-- A block that a device refers to is held by someone. -/
theorem refs_pos (h : Renamed σ w v) (hr : v.rig? d = some r) {b : Nat}
    (hb : 0 < r.device.holds b) : 0 < refs v.store b := by
  rw [h.counts.counts, held_eq hr]
  exact Nat.add_pos_left hb _

theorem flash (h : Renamed σ w v) (hr : v.rig? d = some r) :
    Flash.Renamed (v.others d) (fun _ => 0) σ (w.flash (r.rename σ)) (v.flash r) where
  store := h.store
  device := rfl
  image := by rw [h.named]; rfl
  counts b := (h.counts.counts b).trans (held_eq hr b)

end Renamed

namespace Alias

/-- A bench goes by its own names. -/
theorem refl (h : SeenAs w w.plain) : Alias w w := by
  have slots : Slots.rename (fun r => r) = id := by
    refine funext fun slots => List.map_id'' (fun x => ?_) slots
    cases x <;> rfl
  have device (d : Device Nat) : d.rename (fun r => r) = d := by
    simp only [Device.rename, slots, Option.map_id, id]
  have rig (x : Option (Rig Nat κ)) : x.map (Rig.rename fun r => r) = x := by
    cases x with
    | none => rfl
    | some r => exact congrArg some (congrArg (Rig.mk · _) (device r.device))
  have suspension (x : Suspension Nat) : x.rename (fun r => r) = x := by
    simp only [Suspension.rename, slots, id]
  refine ⟨_, .refl w.store, ?_, h⟩
  simp only [rename, List.map_id'' rig, List.map_id'' suspension]

/-- Other names are not seen. -/
theorem view (h : Alias w v) (d : Handle) : w.view d = v.view d := by
  obtain ⟨σ, h⟩ := h
  rw [Bench.view, Bench.view, h.rig?, Option.map_map]
  cases hr : v.rig? d with
  | none => rfl
  | some r =>
    exact congrArg some (Device.plain_rename fun b hb => h.store.blocks (h.refs_pos hr hb))

theorem image (h : Alias w v) : w.image = v.image := by
  obtain ⟨σ, h⟩ := h
  rw [h.named]
  rfl

theorem memory (h : Alias w v) : w.memory = v.memory := by
  obtain ⟨σ, h⟩ := h
  rw [h.named]
  rfl

/-! ## Operations -/

theorem on (d : Handle) {op : Config → FlashM Counted Nat α}
    (hop : ∀ cfg others σ, Preserves (Flash.Alias others (fun _ => 0) σ) (op cfg) (op cfg)) :
    Keeps (Alias (κ := κ) (μ := μ)) (Bench.on d op) (Bench.on d op) := by
  rintro w v ⟨σ, h⟩
  have config : w.config = v.config := by rw [h.named]; rfl
  refine on_of_named h.named d fun r hr => ?_
  rw [config]
  exact hop _ _ _ _ _ ⟨σ, fun _ _ => rfl, h.flash hr⟩

theorem install (d : Handle) (callback : Option (Handler κ)) :
    Keeps (Alias (μ := μ)) (install d callback) (install d callback) := by
  rintro w v ⟨σ, h⟩
  rw [run_install, run_install, h.rig?]
  cases hr : v.rig? d with
  | none => exact ⟨rfl, trivial⟩
  | some r =>
    have ran := run_install d callback v
    rw [hr] at ran
    obtain ⟨-, counts⟩ := (Alike.install d callback).run_plain h.counts ran
    have named := h.named
    refine ⟨rfl, σ, h.store, ?_, counts⟩
    rw [named]
    simp only [rename, List.map_set]
    rfl

theorem copy (d : Handle) : Keeps (Alias (κ := κ) (μ := μ)) (copy d) (copy d) := by
  rintro w v ⟨σ, h⟩
  rw [run_copy, run_copy, h.rig?]
  cases hr : v.rig? d with
  | none => exact ⟨rfl, trivial⟩
  | some r =>
    have ran := run_copy d v
    rw [hr] at ran
    obtain ⟨-, counts⟩ := (Alike.copy d).run_plain h.counts ran
    have live (b : Nat) (hb : 0 < r.device.holds b) : 0 < refs v.store b := h.refs_pos hr hb
    have once := h.store.retainAll r.device.slots fun b hb => live b (holds_pos hb)
    have twice := once.retainAll (r.device.synced.getD []) fun b hb => by
      have held := live b (Nat.add_pos_right _ (List.count_pos_iff.2 hb))
      rw [Counted.refs_retainAll fun q hq => Counted.isSome_contents (live q (holds_pos hq))]
      exact Nat.add_pos_left held _
    rw [← Device.synced_rename] at twice
    have named := h.named
    refine ⟨?_, σ, twice, ?_, counts⟩
    · rw [named]
      exact List.length_map _
    · rw [named]
      simp only [rename, List.map_append]
      rfl

theorem fork (d : Handle) : Keeps (Alias (κ := κ) (μ := μ)) (fork d) (fork d) := by
  refine (copy d).bind fun handle => Coupled.bind (?_ : Keeps Alias _ _) fun _ => ?_
  · rintro w v ⟨σ, h⟩
    refine ⟨rfl, σ, h.store, ?_, rfl, h.counts.counts⟩
    have named := h.named
    rw [named]
    rfl
  · refine (on d fun cfg others σ => Flash.Alias.effect cfg (.setCountdown 1)).bind fun x => ?_
    cases x <;> exact .answer _

theorem suspend (d : Handle) : Keeps (Alias (κ := κ) (μ := μ)) (suspend d) (suspend d) := by
  rintro w v ⟨σ, h⟩
  rw [run_suspend, run_suspend, h.rig?]
  cases hr : v.rig? d with
  | none => exact ⟨rfl, trivial⟩
  | some r =>
    have ran := run_suspend d v
    rw [hr] at ran
    obtain ⟨-, counts⟩ := (Alike.suspend d).run_plain h.counts ran
    have store := h.store.retainAll r.device.slots fun b hb =>
      h.refs_pos hr (holds_pos hb)
    refine ⟨rfl, σ, store, ?_, counts⟩
    have named := h.named
    rw [named]
    rfl

theorem discard : Keeps (Alias (κ := κ) (μ := μ)) discard discard := by
  rintro w v ⟨σ, h⟩
  have suspended : w.suspended = v.suspended.map (Suspension.rename σ) := by rw [h.named]; rfl
  have ran := run_discard v
  obtain ⟨-, counts⟩ := Alike.discard.run_plain h.counts ran
  rw [run_discard, run_discard, suspended]
  rcases hs : v.suspended with _ | ⟨x, rest⟩ <;> rw [hs] at counts
  · exact ⟨rfl, σ, h⟩
  · have store := h.store.releaseAll x.slots fun b => by
      rw [h.counts.counts, held, hs, List.map_cons, List.sum_cons]
      omega
    refine ⟨rfl, σ, store, ?_, counts⟩
    have named := h.named
    rw [named]
    rfl

theorem resume (d : Handle) : Keeps (Alias (κ := κ) (μ := μ)) (resume d) (resume d) := by
  rintro w v ⟨σ, h⟩
  have suspended : w.suspended = v.suspended.map (Suspension.rename σ) := by rw [h.named]; rfl
  rw [run_resume, run_resume, suspended]
  rcases hs : v.suspended with _ | ⟨x, rest⟩
  · exact ⟨rfl, σ, h⟩
  · -- the state set aside last is not counted on the bench between its two holders
    have config : w.config = v.config := by rw [h.named]; rfl
    have named : ({ w with suspended := rest.map (Suspension.rename σ) } : Bench _ _ _ _) =
        rename σ w.store { v with suspended := rest } := by
      have named := h.named
      rw [named]
      rfl
    refine on_of_named named d fun r hr => ?_
    show ResultsAgree _ _ ((Flash.restore w.config _ _).run _) _
    rw [config]
    refine Flash.Alias.restore _ { h.flash hr with counts := fun b => ?_ }
    refine (h.counts.counts b).trans ?_
    rw [held_eq (w := v) hr]
    simp [others, held, hs, flash]
    omega

/-! ## Requests -/

theorem direct (d : Handle) {r : Request} (direct : r.isDirect)
    (respond respond' : Responder Counted Nat κ μ) :
    Keeps Alias (perform respond d r) (perform respond' d r) := by
  rw [perform_direct respond d direct, perform_direct respond' d direct]
  exact on d fun cfg others σ => Flash.Alias.effect cfg r

/-- Operations on a bench are the same under all names. -/
theorem lockstep :
    Lockstep (fun _ _ : Unit => True) Eq (fun _ => True) (fun _ x => x)
      fun _ => Alias (κ := κ) (μ := μ) where
  start := by
    rintro _ d _ rfl u
    exact on d fun cfg others σ => (Flash.Alias.lockstep cfg others _ σ).start u
  complete := by
    rintro _ d _ rfl worn u
    exact on d fun cfg others σ => (Flash.Alias.lockstep cfg others _ σ).complete worn u
  crash := by
    rintro _ d _ rfl u
    exact on d fun cfg others σ => (Flash.Alias.lockstep cfg others _ σ).crash u
  direct := by
    rintro _ d _ rfl r hr respond respond'
    rw [id_map', id_map']
    exact direct d hr respond respond'
  callback := by
    rintro _ w v d _ rfl ⟨σ, h⟩
    rw [h.rig?, Option.map_map]
    rfl
  allowed _ _ _ := trivial
  next h := h
  missing h _ _ := h
  install := by
    rintro _ d _ rfl callback -
    exact install d callback
  copy := by
    rintro _ d _ rfl _ _
    exact (copy d).bind fun _ => .answer _
  fork := by
    rintro _ d _ rfl
    exact fork d
  suspend := by
    rintro _ d _ rfl
    exact (suspend d).mono (fun _ _ => id) (fun _ _ _ h => ⟨(), trivial, h⟩) fun _ _ => id
  discard _ := discard
  resume := by
    rintro _ _ d _ rfl -
    exact resume d
  memory h := h.memory
  setMemory m := by
    rintro w v ⟨σ, h⟩
    refine ⟨rfl, σ, h.store, ?_, rfl, h.counts.counts⟩
    have named := h.named
    rw [named]
    rfl

end Alias

end Bench

end FaultyFlash
