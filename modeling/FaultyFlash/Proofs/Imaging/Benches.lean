import FaultyFlash.Proofs.Imaging.Devices
import FaultyFlash.Proofs.Probes
import FaultyFlash.Proofs.Sharing.Sound

/-!
# Image files stay faithful

On a bench made with an image file that can be written, the file shows what the device stores, all
along every run of a program on the device: between its operations, whether they succeeded or not,
and in the callbacks that answer losses of power, from their start on. Copies that nobody uses make
no difference.

## Main definitions

* `Bench.Shows cfg d w`: the image file of a bench shows what is stored of a device
* `Bench.StaysImaged`: a sound bench where that is so, compared with itself

## Main results

* `Bench.StaysImaged.lockstep`: operations on the device keep it so
* `Bench.shows_all_along`: so it is all along every run
-/

namespace FaultyFlash

open Flash (Imaged Ends answered)

variable {S R κ μ α : Type}

namespace Bench

/-- The image file of a bench shows what is stored of a device. -/
def Shows [BlockStore S R] (cfg : Config) (d : Handle) (w : Bench S R κ μ) : Prop :=
  ∃ D image, w.view d = some D ∧ w.image = some image ∧ image.Shows cfg (D.slots.stored cfg)

instance [BlockStore S R] (cfg : Config) (d : Handle) :
    DecidablePred (Shows (S := S) (κ := κ) (μ := μ) cfg d) := fun w =>
  match hv : w.view d, hi : w.image with
  | some D, some image => decidable_of_iff (image.Shows cfg (D.slots.stored cfg)) (by
      simp [Shows, hv, hi])
  | none, _ => isFalse (by simp [Shows, hv])
  | _, none => isFalse (by simp [Shows, hi])

/-- A bench with sound devices, compared with itself, whose image file shows what is stored of the
device of a handle. -/
structure StaysImaged (cfg : Config) (d : Handle) (aside : List (Suspension Block))
    (w v : Bench Plain Block κ μ) : Prop where
  sound : StaysSound cfg true (· = d) (fun _ => True) aside w v
  imaged : ∃ r, w.rig? d = some r ∧ Imaged cfg (w.flash r)

namespace StaysImaged

variable {cfg : Config} {d : Handle} {aside inner : List (Suspension Block)}
  {w : Bench Plain Block κ μ}

theorem shows (h : StaysImaged cfg d aside w w) : w.Shows cfg d := by
  obtain ⟨r, hr, imaged⟩ := h.imaged
  obtain ⟨image, hi, shows⟩ := imaged.shown
  refine ⟨r.device, image, ?_, hi, shows⟩
  rw [view, hr]
  exact congrArg some (Device.plain_plain _ _)

/-- What keeps a bench sound, and leaves the image file right, keeps it so. -/
theorem keep {m : BenchM Plain Block κ μ α}
    {post : α → Bench Plain Block κ μ → Bench Plain Block κ μ → Prop}
    (sound : Coupled (StaysSound cfg true (· = d) (fun _ => True) aside) m m post fun _ _ => True)
    (imaged : ∀ w a v, StaysImaged cfg d aside w w → m.run w = .ok a v →
      ∃ r, v.rig? d = some r ∧ Imaged cfg (v.flash r)) :
    Coupled (StaysImaged cfg d aside) m m
      (fun a w v => post a w v ∧ ∃ r, w.rig? d = some r ∧ Imaged cfg (w.flash r))
      fun _ _ => True := by
  intro v w h
  obtain rfl := h.sound.same
  have agree := sound w w h.sound
  cases run : m.run w with
  | error e t => exact ⟨rfl, trivial⟩
  | ok a t =>
    rw [run] at agree
    exact ⟨rfl, agree.2, imaged w a t h run⟩

/-- Likewise where the states set aside are known. -/
theorem keeps {m : BenchM Plain Block κ μ α}
    (sound : Coupled (StaysSound cfg true (· = d) (fun _ => True) aside) m m
      (fun _ => StaysSound cfg true (· = d) (fun _ => True) inner) fun _ _ => True)
    (imaged : ∀ w a v, StaysImaged cfg d aside w w → m.run w = .ok a v →
      ∃ r, v.rig? d = some r ∧ Imaged cfg (v.flash r)) :
    Coupled (StaysImaged cfg d aside) m m (fun _ => StaysImaged cfg d inner) fun _ _ => True :=
  (keep sound imaged).mono (fun _ _ => id) (fun _ _ _ h => ⟨h.1, h.2⟩) fun _ _ => id

/-- What is done to the device by one operation leaves its image file right. -/
theorem imaged_on {op : Config → FlashM Plain Block α}
    (hop : Preserves (Diagonal (Imaged cfg)) (op cfg) (op cfg)) {x : Except Failure α}
    {v : Bench Plain Block κ μ} {r : Rig Block κ} (hr : w.rig? d = some r) (config : w.config = cfg)
    (imaged : Imaged cfg (w.flash r)) (run : (Bench.on d op).run w = .ok x v) :
    ∃ r, v.rig? d = some r ∧ Imaged cfg (v.flash r) := by
  rw [run_on_answered hr, config] at run
  cases run
  refine ⟨_, rig?_settle hr _, ?_⟩
  exact (Flash.answered_of_preserves hop ⟨rfl, imaged⟩).2.2

theorem on {op : Config → FlashM Plain Block α}
    (hop : Preserves (Diagonal (Imaged cfg)) (op cfg) (op cfg))
    (sound : Keeps (StaysSound (κ := κ) (μ := μ) cfg true (· = d) (fun _ => True) aside)
      (Bench.on d op) (Bench.on d op)) :
    Keeps (StaysImaged (κ := κ) (μ := μ) cfg d aside) (Bench.on d op) (Bench.on d op) := by
  apply keeps sound
  intro w x v h run
  obtain ⟨r, hr, imaged⟩ := h.imaged
  exact imaged_on hop hr h.sound.config imaged run

theorem install (callback : Option (Handler κ)) :
    Keeps (StaysImaged (μ := μ) cfg d aside) (install d callback) (install d callback) := by
  apply keeps (StaysSound.install fun _ => trivial)
  intro w x v h run
  obtain ⟨r, hr, imaged⟩ := h.imaged
  rw [run_install, hr] at run
  cases run
  exact ⟨_, rig?_set hr _, imaged⟩

theorem copy :
    Keeps (StaysImaged (κ := κ) (μ := μ) cfg d aside) (copy d) (copy d) := by
  apply keeps (StaysSound.copy d)
  intro w x v h run
  obtain ⟨r, hr, imaged⟩ := h.imaged
  rw [run_copy, hr] at run
  cases run
  exact ⟨r, rig?_append hr _, imaged⟩

theorem fork : Keeps (StaysImaged (κ := κ) (μ := μ) cfg d aside) (fork d) (fork d) := by
  have arms : Keeps (StaysImaged (κ := κ) (μ := μ) cfg d aside)
      (Bench.on d (Request.setCountdown 1).effect) (Bench.on d (Request.setCountdown 1).effect) :=
    on (Imaged.effect cfg (.setCountdown 1) rfl)
      (StaysSound.on fun f hf => ⟨⟨rfl, hf.1.2.slots, hf.1.2.synced⟩, hf.2⟩)
  refine copy.bind fun handle => Coupled.bind (?_ : Keeps (StaysImaged cfg d aside) _ _)
    fun _ => arms.bind fun x => ?_
  · rintro v w ⟨⟨same, config, image, devices, watched, suspended, tables⟩, imaged⟩
    obtain rfl := same
    exact ⟨rfl, ⟨rfl, config, image, devices, watched, suspended, tables⟩, imaged⟩
  · cases x <;> exact .answer _

theorem suspend :
    Coupled (StaysImaged (κ := κ) (μ := μ) cfg d aside) (suspend d) (suspend d)
      (fun _ w v => ∃ inner, SetAside aside inner ∧ StaysImaged cfg d inner w v)
      fun _ _ => True := by
  refine (keep StaysSound.suspend ?_).mono (fun _ _ => id) ?_ fun _ _ => id
  · intro w x v h run
    obtain ⟨r, hr, imaged⟩ := h.imaged
    rw [run_suspend, hr] at run
    cases run
    exact ⟨r, hr, imaged⟩
  · rintro _ w v ⟨⟨inner, aside, sound⟩, imaged⟩
    exact ⟨inner, aside, sound, imaged⟩

theorem discard (hi : SetAside aside inner) :
    Coupled (StaysImaged (κ := κ) (μ := μ) cfg d inner) discard discard
      (fun _ => StaysImaged cfg d aside) fun _ _ => True := by
  apply keeps (StaysSound.discard hi)
  intro w x v h run
  obtain ⟨r, hr, imaged⟩ := h.imaged
  obtain ⟨s, rfl⟩ := hi
  rw [run_discard, h.sound.suspended] at run
  cases run
  exact ⟨r, hr, imaged⟩

/-- The state that was set aside comes back, and the image file follows. -/
theorem resume (hi : SetAside aside inner) :
    Coupled (StaysImaged (κ := κ) (μ := μ) cfg d inner) (resume d) (resume d)
      (fun _ => StaysImaged cfg d aside) fun _ _ => True := by
  apply keeps (StaysSound.resume hi)
  intro w x v h run
  obtain ⟨r, hr, imaged⟩ := h.imaged
  obtain ⟨s, rfl⟩ := hi
  rw [run_resume, h.sound.suspended] at run
  have restores := Imaged.restore (h.sound.tables List.mem_cons_self) s.generator
  exact imaged_on (w := { w with suspended := aside }) restores hr h.sound.config imaged run

/-- Operations on the device leave its image file right. -/
theorem lockstep : Lockstep SetAside (fun a b => a = b ∧ a = d) (fun _ => True) (fun _ x => x)
    (StaysImaged (κ := κ) (μ := μ) cfg d) := by
  have L : Lockstep SetAside (fun a b => a = b ∧ a = d) (fun _ => True) (fun _ x => x)
      (StaysSound (κ := κ) (μ := μ) cfg true (· = d) fun _ => True) :=
    StaysSound.lockstep (fun _ => .inl) fun _ _ => id
  exact {
    start := by
      rintro aside e _ ⟨rfl, rfl⟩ u
      exact on (Imaged.start cfg u) (L.start ⟨rfl, rfl⟩ u)
    complete := by
      rintro aside e _ ⟨rfl, rfl⟩ worn u
      exact on (Imaged.complete cfg worn u) (L.complete ⟨rfl, rfl⟩ worn u)
    crash := by
      rintro aside e _ ⟨rfl, rfl⟩ u
      exact on (Imaged.crash cfg u) (L.crash ⟨rfl, rfl⟩ u)
    direct := by
      rintro aside e _ ⟨rfl, rfl⟩ r hr respond respond'
      have sound := L.direct (i := aside) ⟨rfl, rfl⟩ hr respond respond'
      simp only [id_map', perform_direct respond e hr, perform_direct respond' e hr] at sound ⊢
      exact on (Imaged.effect cfg r hr) sound
    callback := fun h hwv => L.callback h hwv.sound
    allowed := fun _ _ _ => trivial
    next := fun _ => trivial
    missing := fun h _ _ => h.1
    install := by
      rintro aside e _ ⟨rfl, rfl⟩ callback -
      exact install callback
    copy := by
      rintro aside e _ ⟨rfl, rfl⟩ respond respond'
      exact copy.bind fun _ => .answer _
    fork := by
      rintro aside e _ ⟨rfl, rfl⟩
      exact fork
    suspend := by
      rintro aside e _ ⟨rfl, rfl⟩
      exact suspend
    discard := discard
    resume := by
      rintro aside inner e _ ⟨rfl, rfl⟩ hi
      exact resume hi
    memory := fun h => L.memory h.sound
    setMemory := by
      intro aside m
      apply keeps (L.setMemory m)
      intro w x v h run
      cases run
      exact h.imaged }

end StaysImaged

/-! ## From the making of the bench on -/

section Created

variable {cfg : Config} {memory : μ} {w : Bench Counted Nat κ μ}

/-- A new bench with an image file that can be written stays right from then on. -/
theorem through_create (imaged : cfg.image = .writable) (made : create cfg memory = .ok w) :
    Through (StaysImaged cfg 0 []) w w := by
  obtain ⟨seen, plain⟩ := plain_create made
  obtain ⟨geometry, image, first, new⟩ := create_eq_ok.1 plain
  rw [Config.firstImage, imaged] at first
  cases first
  have device : w.plain.rig? 0 = some { device := Device.fresh Block cfg } := by
    rw [new]
    rfl
  have only {d : Handle} {r : Rig Block κ} (hr : w.plain.rig? d = some r) :
      r = { device := Device.fresh Block cfg } := by
    rw [new, rig?_eq_some] at hr
    exact Option.some.inj (List.mem_singleton.1 (List.mem_of_getElem? hr))
  have sound := Device.sound_fresh cfg
  have shows := Image.shows_create cfg
  refine ⟨rfl, seen, ⟨rfl, ?_, ?_, ?_, ?_, ?_, ?_⟩, _, device, by simp [imaged], sound, ?_⟩
  · exact congrArg config new
  · rw [new]
    rfl
  · intro d r hr
    rw [only hr]
    exact sound
  · rintro d rfl
    exact ⟨_, device, trivial⟩
  · rw [new]
  · exact nofun
  · refine ⟨_, by rw [new]; rfl, shows.congr fun b hb k hk => ?_⟩
    simp [Slots.stored, Device.fresh, flash, List.getElem?_replicate, hb]

theorem shows_of_through {aside : List (Suspension Block)} {v : Bench Counted Nat κ μ} {d : Handle}
    (h : Through (StaysImaged cfg d aside) w v) : w.Shows cfg d := by
  obtain ⟨D, image, view, hi, shows⟩ := h.holds.shows
  rw [view_plain] at view
  exact ⟨D, image, view, hi, shows⟩

/-- The image file shows what the device stores, all along every run. No probe notices anything else
that passes where it does, be it between the operations of the program, whatever became of them, or
in the callbacks. -/
theorem shows_all_along (imaged : cfg.image = .writable) (made : create cfg memory = .ok w)
    {probe : BenchM Counted Nat κ μ Unit} (passes : Passes (Shows cfg 0) probe)
    (callbacks : Callbacks κ μ) (depth : Nat) (p : Program κ μ α) :
    w.Shows cfg 0 ∧
    ResultsAgree (fun _ v u => u = v ∧ v.Shows cfg 0) (fun _ _ => True)
      ((p.execute callbacks depth 0).run w) ((p.executeProbed probe callbacks depth 0).run w) := by
  have new := through_create imaged made
  refine ⟨shows_of_through new, ?_⟩
  have L : Lockstep SetAside (fun a b => a = b ∧ a = 0) (fun _ => True) (fun _ x => x)
      fun aside => Through (StaysImaged (κ := κ) (μ := μ) cfg 0 aside) :=
    StaysImaged.lockstep.through
  refine (L.executeProbed (fun aside v u h => ?_) ⟨rfl, rfl⟩ callbacks depth p w w new).mono
    (fun _ v u h => ⟨h.same, shows_of_through h⟩) fun _ _ => id
  obtain rfl := h.same
  exact passes u (shows_of_through h)

end Created

/-- Two blocks of two bytes, with an image file. Lost power takes unsynced updates back. -/
def unsyncedPair : Config where
  geometry := ⟨1, 1, 2, 2⟩
  eraseValue := some 0xff
  crash := .outOfOrder
  image := .writable

/-- Programs both blocks with a sync between, and loses power as it erases the first. -/
def eraseUnsynced : Program Unit Unit Unit :=
  .ask (.update (.prog 0 0 [1, 2])) fun _ => .ask .sync fun _ =>
    .ask (.update (.prog 1 0 [3, 4])) fun _ => .install (some ()) <|
      .ask (.setCountdown 1) fun _ => .ask (.update (.erase 0)) fun _ => .done ()

/-- Programs the second block, which the crash took back, and resumes. -/
def progThenResume : Callbacks Unit Unit := fun _ _ =>
  .ask (.update (.prog 1 0 [5])) fun _ => .done (.ok .resume)

theorem shows_all_along_eraseUnsynced :
    ∃ w v : Bench Counted Nat Unit Unit, create unsyncedPair () = .ok w ∧
      (eraseUnsynced.execute progThenResume 1 0).run w = .ok () v ∧
      (eraseUnsynced.executeProbed (insist (Shows unsyncedPair 0) .exhausted) progThenResume
        1 0).run w = .ok () v ∧
      w.Shows unsyncedPair 0 ∧ v.Shows unsyncedPair 0 := by
  cases made : create (S := Counted) (R := Nat) (κ := Unit) unsyncedPair () with
  | error f => cases made
  | ok w =>
    have ends : (match (eraseUnsynced.execute progThenResume 1 0).run w with
      | .ok .. => true
      | .error .. => false) = true := by
      cases made
      decide +kernel
    obtain ⟨first, all⟩ := shows_all_along rfl made
      (passes_insist (Shows unsyncedPair 0) .exhausted) progThenResume 1 eraseUnsynced
    cases ran : (eraseUnsynced.execute progThenResume 1 0).run w with
    | error h u =>
      rw [ran] at ends
      cases ends
    | ok x v =>
      rw [ran] at all
      obtain ⟨u, probed, rfl, shows⟩ := all.ok_left
      exact ⟨w, u, rfl, ran, probed, first, shows⟩

end Bench

end FaultyFlash
