import Mathlib.Algebra.GroupWithZero.Nat
import FaultyFlash.Proofs.Benches
import FaultyFlash.Proofs.Sharing.Devices

/-!
# Benches that share blocks

A bench whose devices share blocks is compared with the bench as it is seen, where every device,
every last sync and every state set aside has blocks of its own. The store of the first counts
every reference on the bench, so what is done to one device leaves the blocks of all others.

## Main definitions

* `Bench.held`, `Bench.others`: the references to a block on a bench, and those of anyone but one
  device
* `Bench.SeenAs`: a bench is seen as another, and its store counts every reference
* `Bench.Alike`: operations that answer alike on benches so related
* `Config.firstImage`: the image file that a new device has
* `Bench.onNew`: what a computation comes to on a new bench
* `Request.apartRefs`: an answer without the number of holders of a block

## Main results

* `Bench.Alike.on`, `Bench.Alike.copy`, `Bench.Alike.resume`, …: what is done to a bench with
  shared blocks is what is done to the bench as it is seen
* `Bench.SeenAs.lockstep`: so it is with requests, callbacks and programs
* `Bench.create_eq_ok`, `Bench.plain_create`: the making of benches
-/

namespace FaultyFlash

open BlockStore (refs contents retainAll releaseAll)

variable {κ μ α β : Type}

/-- An answer, without the number of holders of a block. -/
def Request.apartRefs : (r : Request) → Except Failure r.Answer → Except Failure r.Answer
  | .blockRefs _, x => x.map fun _ => 0
  | _, x => x

/-- The image file of a new device, unless it cannot be made. -/
def Config.firstImage (cfg : Config) : Option (Option Image) :=
  match cfg.image with
  | .absent => some none
  | .writable | .sealed =>
    some (some (Image.create cfg.geometry.blockSize cfg.geometry.blockCount cfg.fill))
  | .unwritable => none

namespace Bench

/-- The references to a block from devices and from states set aside. -/
def held (w : Bench Counted Nat κ μ) (r : Nat) : Nat :=
  (w.rack.map fun x => x.elim 0 fun rig => rig.device.holds r).sum +
    (w.suspended.map fun s => s.slots.count (some r)).sum

/-- The references to a block from anyone but the device of a handle. -/
def others (w : Bench Counted Nat κ μ) (d : Handle) : Nat → Nat :=
  held { w with rack := w.rack.set d none }

/-- A bench is seen as `v`, and its store counts every reference. -/
structure SeenAs (w : Bench Counted Nat κ μ) (v : Bench Plain Block κ μ) : Prop where
  seen : v = w.plain
  counts (r : Nat) : refs w.store r = w.held r

/-- Operations that answer alike on a bench and on the bench as it is seen. -/
abbrev Alike (m : BenchM Counted Nat κ μ α) (m' : BenchM Plain Block κ μ α) : Prop :=
  Keeps SeenAs m m'

variable {w : Bench Counted Nat κ μ} {v : Bench Plain Block κ μ} {d : Handle} {rig : Rig Nat κ}

/-! ## Holders -/

/-- A sum after one of its terms was exchanged. -/
theorem sum_map_set {ι : Type} (f : ι → Nat) {xs : List ι} {i : Nat} {x : ι} (h : xs[i]? = some x)
    (y : ι) : ((xs.set i y).map f).sum + f x = (xs.map f).sum + f y := by
  induction xs generalizing i with
  | nil => cases h
  | cons z zs ih =>
    cases i with
    | zero =>
      obtain rfl := Option.some.inj h
      simp only [List.set_cons_zero, List.map_cons, List.sum_cons]
      omega
    | succ i =>
      have rest := ih (i := i) h
      simp only [List.set_cons_succ, List.map_cons, List.sum_cons]
      omega

/-- References come from the device of a handle and from the others. -/
theorem held_eq (hd : w.rig? d = some rig) (r : Nat) :
    w.held r = rig.device.holds r + w.others d r := by
  have terms := sum_map_set (fun x : Option (Rig Nat κ) => x.elim 0 fun rig => rig.device.holds r)
    (rig?_eq_some.1 hd) none
  simp only [Option.elim_some, Option.elim_none] at terms
  simp only [others, held]
  omega

/-- A bench looks the same with another store that keeps every block that is held. -/
theorem plain_congr {s : Counted} (h : ∀ r, 0 < w.held r → contents s r = contents w.store r) :
    ({ w with store := s } : Bench Counted Nat κ μ).plain = w.plain := by
  have rack : w.rack.map (Option.map (Rig.plain s)) =
      w.rack.map (Option.map (Rig.plain w.store)) := by
    refine List.map_congr_left fun x hx => ?_
    cases x with
    | none => rfl
    | some rig =>
      refine congrArg some (congrArg (Rig.mk · rig.callback) ?_)
      refine Device.plain_congr fun r hr => h r (Nat.add_pos_left ?_ _)
      exact List.sum_pos_iff_exists_pos_nat.2 ⟨_, List.mem_map_of_mem hx, hr⟩
  have suspended : w.suspended.map (Suspension.plain s) =
      w.suspended.map (Suspension.plain w.store) := by
    refine List.map_congr_left fun x hx => congrArg (Suspension.mk · x.generator) ?_
    refine BlockStore.look_congr fun r hr => h r (Nat.add_pos_right _ ?_)
    exact List.sum_pos_iff_exists_pos_nat.2
      ⟨_, List.mem_map_of_mem hx, List.count_pos_iff.2 hr⟩
  simp only [plain, rack, suspended]

namespace SeenAs

/-- A device of a bench shares its blocks with the others. -/
theorem flash (h : SeenAs w v) (hd : w.rig? d = some rig) :
    Flash.Sharing (w.others d) (contents w.store) (w.flash rig)
      (v.flash (rig.plain w.store)) where
  seen := by rw [h.seen]; rfl
  counts r := (h.counts r).trans (held_eq hd r)
  kept _ := rfl

/-- What is done to one device leaves the blocks of all others. -/
theorem settle (hd : w.rig? d = some rig) {f : Flash Counted Nat} {g : Flash Plain Block}
    (hf : Flash.Sharing (w.others d) (contents w.store) f g) :
    SeenAs (w.settle d rig f) (w.plain.settle d (rig.plain w.store) g) where
  seen := by
    obtain rfl := hf.seen
    -- without the device the bench looks as before, as the others keep their blocks
    have rest : Bench.plain { w with rack := w.rack.set d none, store := f.store } =
        Bench.plain { w with rack := w.rack.set d none } :=
      plain_congr (w := { w with rack := w.rack.set d none }) fun r hr => hf.kept hr
    simp only [plain, List.map_set, Bench.mk.injEq] at rest
    obtain ⟨-, -, -, rack, suspended, -, -⟩ := rest
    have rack := congrArg (·.set d (some (Rig.mk (f.device.plain f.store) rig.callback))) rack
    simp only [List.set_set] at rack
    simp only [plain, Bench.settle, List.map_set, suspended]
    exact congrArg (Bench.mk _ _ _ · _ _ _) rack.symm
  counts r := by
    rw [held_eq (rig?_settle hd f) r]
    have rest : (w.settle d rig f).others d r = w.others d r := by
      simp only [others, Bench.settle, held, List.set_set]
    rw [rest]
    exact hf.counts r

end SeenAs

/-! ## Operations -/

namespace Alike

/-- An operation answers alike if it does so on the device and whoever shares its blocks. -/
theorem on_at (w : Bench Counted Nat κ μ) (d : Handle) {op : Config → FlashM Counted Nat α}
    {op' : Config → FlashM Plain Block α}
    (h : ∀ rig, w.rig? d = some rig →
      ResultsAgree (fun _ => Flash.Sharing (w.others d) (contents w.store))
        (Flash.Sharing (w.others d) (contents w.store)) ((op w.config).run (w.flash rig))
        ((op' w.config).run (w.plain.flash (rig.plain w.store)))) :
    ResultsAgree (fun _ => SeenAs) (fun _ _ => True) ((Bench.on d op).run w)
      ((Bench.on d op').run w.plain) := by
  cases hd : w.rig? d with
  | none =>
    rw [run_on, run_on, rig?_plain, hd]
    exact ⟨rfl, trivial⟩
  | some rig =>
    have hd' := plain_of_rig? hd
    have run := h rig hd
    rw [run_on_of_rig? hd, run_on_of_rig? hd']
    cases hr : (op w.config).run (w.flash rig) with
    | ok a f =>
      rw [hr] at run
      obtain ⟨g, hg, shared⟩ := run.ok_left
      rw [show w.plain.config = w.config from rfl, hg]
      exact ⟨rfl, .settle hd shared⟩
    | error e f =>
      rw [hr] at run
      obtain ⟨g, hg, shared⟩ := run.error_left
      rw [show w.plain.config = w.config from rfl, hg]
      exact ⟨rfl, .settle hd shared⟩

theorem on (d : Handle) {op : Config → FlashM Counted Nat α} {op' : Config → FlashM Plain Block α}
    (h : ∀ cfg others kept, Preserves (Flash.Sharing others kept) (op cfg) (op' cfg)) :
    Alike (κ := κ) (μ := μ) (on d op) (on d op') := by
  intro w v hw
  obtain rfl := hw.seen
  exact on_at w d fun rig hd => h _ _ _ _ _ (hw.flash hd)

theorem install (d : Handle) (callback : Option (Handler κ)) :
    Alike (μ := μ) (install d callback) (install d callback) := by
  intro w v hw
  rw [run_install, run_install, hw.seen, rig?_plain]
  cases hd : w.rig? d with
  | none => exact ⟨rfl, trivial⟩
  | some rig =>
    refine ⟨rfl, ?_, fun r => ?_⟩
    · simp only [plain, List.map_set]
      rfl
    · -- a device with another callback refers to the same blocks
      have same := sum_map_set
        (fun x : Option (Rig Nat κ) => x.elim 0 fun rig => rig.device.holds r)
        (rig?_eq_some.1 hd) (some { rig with callback := callback })
      simp only [Option.elim_some] at same
      refine (hw.counts r).trans ?_
      simp only [held]
      omega

theorem copy (d : Handle) : Alike (κ := κ) (μ := μ) (copy d) (copy d) := by
  intro w v hw
  rw [run_copy, run_copy, hw.seen, rig?_plain]
  cases hd : w.rig? d with
  | none => exact ⟨rfl, trivial⟩
  | some rig =>
    have blocks (r : Nat) : contents (retainAll (retainAll w.store rig.device.slots)
        (rig.device.synced.getD [])) r = contents w.store r := by
      rw [Counted.contents_retainAll, Counted.contents_retainAll]
    have live {r : Nat} (hr : 0 < rig.device.holds r) : (contents w.store r).isSome := by
      apply Counted.isSome_contents
      rw [hw.counts, held_eq hd]
      exact Nat.add_pos_left hr _
    have liveSynced : ∀ r, some r ∈ rig.device.synced.getD [] → (contents w.store r).isSome := by
      cases hs : rig.device.synced with
      | none => exact fun r hr => absurd hr List.not_mem_nil
      | some before => exact fun r hr => live (Device.holds_synced_pos hs hr)
    refine ⟨?_, ?_, fun r => ?_⟩
    · simp [plain]
    · have rest := plain_congr (w := w) fun r _ => blocks r
      simp only [plain, Bench.mk.injEq] at rest
      simp only [plain, List.map_append, rest]
      have twin : rig.device.plain _ = _ := Device.plain_congr fun r _ => blocks r
      simp only [List.map_cons, List.map_nil, Option.map_some, Rig.plain, twin]
    · -- the copy is one more holder of all that the device refers to
      show refs (retainAll (retainAll w.store rig.device.slots) (rig.device.synced.getD [])) r = _
      rw [Counted.refs_retainAll, Counted.refs_retainAll fun r hr => live (Device.holds_pos hr),
        hw.counts]
      · simp [held, Device.holds]
        omega
      · intro r hr
        rw [Counted.contents_retainAll]
        exact liveSynced r hr

theorem drop (d : Handle) : Alike (κ := κ) (μ := μ) (drop d) (drop d) := by
  intro w v hw
  rw [run_drop, run_drop, hw.seen, rig?_plain]
  cases hd : w.rig? d with
  | none => exact ⟨rfl, trivial⟩
  | some rig =>
    have counts (r : Nat) : refs (releaseAll (releaseAll w.store rig.device.slots)
        (rig.device.synced.getD [])) r = w.others d r := by
      rw [Counted.refs_releaseAll, Counted.refs_releaseAll, hw.counts, held_eq hd, Device.holds]
      omega
    refine ⟨rfl, ?_, counts⟩
    -- what the others hold was not given up with the device
    have rest := plain_congr (w := { w with rack := w.rack.set d none })
      (s := releaseAll (releaseAll w.store rig.device.slots) (rig.device.synced.getD []))
      fun r (hr : 0 < w.others d r) => by
        rw [← counts] at hr
        rw [Counted.contents_releaseAll hr, Counted.contents_releaseAll]
        rw [Counted.refs_releaseAll] at hr
        omega
    refine Eq.trans ?_ rest.symm
    simp only [plain, List.map_set]
    rfl

theorem suspend (d : Handle) : Alike (κ := κ) (μ := μ) (suspend d) (suspend d) := by
  intro w v hw
  rw [run_suspend, run_suspend, hw.seen, rig?_plain]
  cases hd : w.rig? d with
  | none => exact ⟨rfl, trivial⟩
  | some rig =>
    have live : ∀ r, some r ∈ rig.device.slots → (contents w.store r).isSome := fun r hr => by
      apply Counted.isSome_contents
      rw [hw.counts, held_eq hd]
      exact Nat.add_pos_left (Device.holds_pos hr) _
    have blocks (r : Nat) := Counted.contents_retainAll w.store rig.device.slots r
    have rest := plain_congr (w := w) fun r _ => blocks r
    refine ⟨rfl, ?_, fun r => ?_⟩
    · simp only [plain, Bench.mk.injEq] at rest
      simp only [plain, List.map_cons, rest]
      have twin := BlockStore.look_congr fun r (_ : some r ∈ rig.device.slots) => blocks r
      simp only [Suspension.plain, twin]
      rfl
    · refine (Counted.refs_retainAll live r).trans ?_
      rw [hw.counts]
      simp [held]
      omega

theorem discard : Alike (κ := κ) (μ := μ) discard discard := by
  intro w v hw
  obtain rfl := hw.seen
  rw [run_discard, run_discard]
  cases hs : w.suspended with
  | nil =>
    rw [show w.plain.suspended = [] from congrArg (List.map _) hs]
    exact ⟨rfl, rfl, hw.counts⟩
  | cons x rest =>
    rw [show w.plain.suspended = _ :: _ from congrArg (List.map _) hs]
    have counts (r : Nat) : refs (releaseAll w.store x.slots) r =
        held { w with suspended := rest } r := by
      rw [Counted.refs_releaseAll, hw.counts]
      simp [held, hs]
      omega
    have same := plain_congr (w := { w with suspended := rest }) (s := releaseAll w.store x.slots)
      fun r hr => by
        rw [← counts] at hr
        exact Counted.contents_releaseAll hr
    exact ⟨rfl, same.symm, counts⟩

theorem resume (d : Handle) : Alike (κ := κ) (μ := μ) (resume d) (resume d) := by
  intro w v hw
  obtain rfl := hw.seen
  rw [run_resume, run_resume]
  cases hs : w.suspended with
  | nil =>
    rw [show w.plain.suspended = [] from congrArg (List.map _) hs]
    exact ⟨rfl, rfl, hw.counts⟩
  | cons x rest =>
    rw [show w.plain.suspended = _ :: _ from congrArg (List.map _) hs]
    -- the state set aside last is not counted on the bench between its two holders
    refine on_at { w with suspended := rest } d fun rig hd => Flash.Sharing.restore _ ?_
    refine ⟨rfl, fun r => ?_, fun _ => rfl⟩
    refine (hw.counts r).trans ?_
    rw [held_eq (w := w) hd]
    simp [others, held, hs, flash]
    omega

/-! ## Requests -/

/-- No slot dangles, so what is seen counts as allocated. -/
theorem allocated {others : Nat → Nat} {kept : Nat → Option Block} {f : Flash Counted Nat}
    {g : Flash Plain Block} (h : Flash.Sharing others kept f g) :
    f.device.allocated = g.device.allocated := by
  rw [h.seen, Device.allocated, Device.allocated, Flash.plain, Device.plain, BlockStore.look,
    List.filter_map, List.length_map]
  refine congrArg List.length (List.filter_congr fun r hr => ?_)
  cases r with
  | none => rfl
  | some r => exact (h.isSome_contents (Device.holds_pos hr)).symm

theorem blockRefs {others : Nat → Nat} {kept : Nat → Option Block} (cfg : Config) (block : Nat) :
    Preserves (Flash.Sharing others kept) ((fun _ => 0) <$> Flash.blockRefs cfg block)
      ((fun _ => 0) <$> Flash.blockRefs cfg block) := by
  simp only [Flash.blockRefs, map_bind]
  refine (Flash.preserves_contract _).bind fun _ f g h => ?_
  obtain rfl := h.seen
  have slot : f.plain.device.slots[block]? = f.device.slots[block]?.map fun r =>
      r.bind (contents f.store) := BlockStore.getElem?_look ..
  rw [EStateM.run_bind, EStateM.run_bind, Flash.run_slot, Flash.run_slot, slot]
  cases hx : f.device.slots[block]? with
  | none => exact ⟨rfl, h⟩
  | some x =>
    cases x with
    | none => exact ⟨rfl, h⟩
    | some r =>
      obtain ⟨b, hb⟩ := Option.isSome_iff_exists.1
        (h.isSome_contents (Device.holds_pos (List.mem_of_getElem? hx)))
      simp only [Option.map_some, Option.bind_some, hb]
      exact ⟨rfl, h⟩

/-- Only the number of holders of a block is not answered alike. -/
theorem effect {others : Nat → Nat} {kept : Nat → Option Block} (cfg : Config) {r : Request}
    (counts : ∀ block, r ≠ .blockRefs block) :
    Preserves (Flash.Sharing others kept) (r.effect cfg) (r.effect cfg) := by
  have L := Flash.Sharing.lockstep cfg others kept
  by_cases basic : r.isBasic
  · exact L.basic basic
  cases r with
  | blockRefs block => exact absurd rfl (counts block)
  | counter c => exact fun f g hfg => ⟨by rw [hfg.seen]; cases c <;> rfl, hfg⟩
  | setCounter c value =>
    refine Coupled.modify fun f g hfg => ?_
    obtain rfl := hfg.seen
    cases c <;> exact hfg.of_device rfl rfl rfl rfl
  | countdown => exact fun f g hfg => ⟨L.countdown hfg, hfg⟩
  | setCountdown value => exact Coupled.modify fun f g hfg => L.rearm value hfg
  | allocated => exact fun f g hfg => ⟨allocated hfg, hfg⟩
  | image => exact fun f g hfg => ⟨by rw [hfg.seen]; rfl, hfg⟩
  | update u => exact L.uninterrupted u
  | copy => exact .answer _
  | _ => cases basic rfl

theorem direct (d : Handle) {r : Request} (direct : r.isDirect)
    (respond : Responder Counted Nat κ μ) (respond' : Responder Plain Block κ μ) :
    Alike (r.apartRefs <$> perform respond d r) (r.apartRefs <$> perform respond' d r) := by
  by_cases counts : ∃ block, r = .blockRefs block
  · obtain ⟨block, rfl⟩ := counts
    show Alike (Except.map (fun _ => 0) <$> Bench.on d (Flash.blockRefs · block))
      (Except.map (fun _ => 0) <$> Bench.on d (Flash.blockRefs · block))
    rw [← on_map, ← on_map]
    exact on d fun cfg others kept => blockRefs cfg block
  · rw [perform_direct respond d direct, perform_direct respond' d direct]
    exact Coupled.map _ (on d fun cfg others kept => effect cfg fun block hr => counts ⟨block, hr⟩)

theorem fork (d : Handle) : Alike (κ := κ) (μ := μ) (fork d) (fork d) := by
  refine (copy d).bind fun handle => Coupled.bind (?_ : Alike _ _) fun _ => ?_
  · exact fun w v h => ⟨rfl, by rw [h.seen]; rfl, h.counts⟩
  · refine (on d fun cfg others kept => Coupled.modify fun _ _ h =>
      (Flash.Sharing.lockstep cfg others kept).rearm 1 h).bind fun x => ?_
    cases x <;> exact .answer _

/-! ## Runs on both benches -/

/-- An operation on a bench answers as on the bench as it is seen. -/
theorem run_plain {m : BenchM Counted Nat κ μ α} {m' : BenchM Plain Block κ μ α}
    (alike : Alike m m') (h : SeenAs w w.plain) {a : α} {v : Bench Counted Nat κ μ}
    (run : m.run w = .ok a v) :
    m'.run w.plain = .ok a v.plain ∧ SeenAs v v.plain := by
  have same := alike w w.plain h
  rw [run] at same
  obtain ⟨v', run', seen⟩ := same.ok_left
  obtain rfl := seen.seen
  exact ⟨run', seen⟩

/-- What an operation answers on a bench as it is seen, it answers on the bench. -/
theorem run_seen {m : BenchM Counted Nat κ μ α} {m' : BenchM Plain Block κ μ α}
    (alike : Alike m m') (h : SeenAs w w.plain) {a : α} {v' : Bench Plain Block κ μ}
    (run : m'.run w.plain = .ok a v') :
    ∃ v, m.run w = .ok a v ∧ SeenAs v v.plain ∧ v.plain = v' := by
  have same := alike w w.plain h
  rw [run] at same
  obtain ⟨v, run', seen⟩ := same.ok_right
  obtain rfl := seen.seen
  exact ⟨v, run', seen, rfl⟩

end Alike

/-- A bench with shared blocks and the bench as it is seen are in lockstep. Only the numbers of
holders tell them apart. -/
theorem SeenAs.lockstep :
    Lockstep (fun _ _ : Unit => True) Eq (fun _ => True) Request.apartRefs
      (fun _ => SeenAs (κ := κ) (μ := μ)) where
  start := by
    rintro _ d _ rfl u
    exact Alike.on d fun cfg others kept => (Flash.Sharing.lockstep cfg others kept).start u
  complete := by
    rintro _ d _ rfl worn u
    exact Alike.on d fun cfg others kept => (Flash.Sharing.lockstep cfg others kept).complete worn u
  crash := by
    rintro _ d _ rfl u
    exact Alike.on d fun cfg others kept => (Flash.Sharing.lockstep cfg others kept).crash u
  direct := by
    rintro _ d _ rfl r h
    exact Alike.direct d h
  callback := by
    rintro _ w v d _ rfl h
    rw [h.seen, rig?_plain]
    cases w.rig? d <;> rfl
  allowed _ _ _ := trivial
  next h := h
  missing h _ _ := h
  install := by
    rintro _ d _ rfl callback -
    exact Alike.install d callback
  copy := by
    rintro _ d _ rfl _ _
    exact (Alike.copy d).bind fun _ => .answer _
  fork := by
    rintro _ d _ rfl
    exact Alike.fork d
  suspend := by
    rintro _ d _ rfl
    exact (Alike.suspend d).mono (fun _ _ => id) (fun _ _ _ h => ⟨(), trivial, h⟩) fun _ _ => id
  discard _ := Alike.discard
  resume := by
    rintro _ _ d _ rfl -
    exact Alike.resume d
  memory h := by rw [h.seen]; rfl
  setMemory m := fun w v h => ⟨rfl, by rw [h.seen]; rfl, h.counts⟩

/-! ## New benches -/

/-- A new bench shares nothing yet. -/
theorem SeenAs.create (cfg : Config) (memory : μ) :
    match create (S := Counted) (κ := κ) cfg memory, create (S := Plain) cfg memory with
    | .ok w, .ok v => SeenAs w v
    | .error e, .error e' => e = e'
    | _, _ => False := by
  have fresh : (Device.fresh Nat cfg).plain (BlockStore.empty : Counted) =
      Device.fresh Block cfg := by
    simp only [Device.plain, Device.fresh, BlockStore.look, List.map_replicate, Option.bind_none]
    split <;> simp [BlockStore.look]
  have unheld (r : Nat) : (Device.fresh Nat cfg).holds r = 0 := by
    simp only [Device.holds, Device.fresh]
    split <;> simp [List.count_replicate]
  have new (image : Option Image) :
      SeenAs (κ := κ)
        ⟨cfg, BlockStore.empty, image, [some { device := Device.fresh Nat cfg }], [], [], memory⟩
        ⟨cfg, BlockStore.empty, image, [some { device := Device.fresh Block cfg }], [], [],
          memory⟩ := by
    refine ⟨?_, fun r => ?_⟩
    · simp [plain, Rig.plain, fresh]
    · simp [held, unheld, Counted.refs_eq_zero, BlockStore.empty]
  unfold Bench.create
  cases cfg.geometry.check with
  | error m => exact rfl
  | ok _ =>
    cases cfg.image with
    | absent => exact new none
    | writable | sealed => exact new _
    | unwritable => exact rfl

/-- A new bench is seen as a new bench where nothing is shared. -/
theorem plain_create {cfg : Config} {memory : μ} (made : create cfg memory = .ok w) :
    SeenAs w w.plain ∧ create (S := Plain) cfg memory = .ok w.plain := by
  have seen := SeenAs.create (κ := κ) cfg memory
  rw [made] at seen
  cases plain : create (S := Plain) (κ := κ) cfg memory with
  | error e =>
    rw [plain] at seen
    exact seen.elim
  | ok v =>
    rw [plain] at seen
    obtain rfl := seen.seen
    exact ⟨seen, rfl⟩

/-- A bench is made for a geometry that is allowed, with one device. -/
theorem create_eq_ok {S R : Type} [BlockStore S R] {cfg : Config} {memory : μ}
    {w : Bench S R κ μ} :
    create cfg memory = .ok w ↔
      cfg.geometry.check = .ok () ∧ ∃ image, cfg.firstImage = some image ∧
        w = ⟨cfg, BlockStore.empty, image, [some { device := Device.fresh R cfg }], [], [],
          memory⟩ := by
  unfold create Config.firstImage
  cases cfg.geometry.check with
  | error m =>
    constructor
    · intro h
      cases h
    · rintro ⟨h, -⟩
      cases h
  | ok _ =>
    cases cfg.image with
    | unwritable =>
      constructor
      · intro h
        cases h
      · rintro ⟨-, _, h, -⟩
        cases h
    | absent | writable | sealed =>
      constructor
      · intro h
        exact ⟨rfl, _, rfl, (Except.ok.inj h).symm⟩
      · rintro ⟨-, _, h, rfl⟩
        cases h
        rfl

/-- What a computation comes to on a new bench. -/
def onNew (cfg : Config) (m : BenchM Counted Nat Unit Unit α) : Option α :=
  match create cfg () with
  | .error _ => none
  | .ok w =>
    match m.run w with
    | .ok a _ => some a
    | .error .. => none

theorem onNew_eq_some {cfg : Config} {m : BenchM Counted Nat Unit Unit α} {a : α} :
    onNew cfg m = some a ↔ ∃ w v, create cfg () = .ok w ∧ m.run w = .ok a v := by
  unfold onNew
  rcases create cfg () with e | w
  · simp
  · cases ran : m.run w <;> simp [ran]

/-- An answer that is handed on without its failure. -/
theorem toOption_eq_some {ε : Type} {x : Except ε α} {a : α} :
    x.toOption = some a ↔ x = .ok a := by
  cases x <;> simp [Except.toOption]

end Bench

end FaultyFlash
