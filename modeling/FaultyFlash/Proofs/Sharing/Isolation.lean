import FaultyFlash.Proofs.Bystanders
import FaultyFlash.Proofs.Interplay
import FaultyFlash.Proofs.Twins
import FaultyFlash.Proofs.Sharing.Benches

/-!
# Copies are isolated

Devices that share blocks behave as if each had blocks of its own. The reference is the bench whose
store gives every holder a block of its own: there a copy, a sync and a state set aside take every
block along, and nothing is ever shared. Whatever is done to the devices of a bench, in any order
and also by callbacks, the answers are those of the reference, and so are the devices.

## Main definitions

* `Bench.SeenAlike d e`: devices of two benches that are seen as the same

## Main results

* `Bench.Alike.execute`: an interplay answers alike on a bench and on the bench as it is seen
* `Bench.isolation`: so it is from the making of the bench on; what is done to one device is not
  seen on others, and the same program on the same device answers the same
-/

namespace FaultyFlash

variable {κ μ α : Type}

namespace Bench

/-- What happens on a bench, callbacks included, is what happens on the bench as it is seen. -/
theorem Alike.execute {reactions : Reactions κ μ}
    (hc : ∀ code calls d, (reactions code calls d).Blind Request.apartRefs) (depth : Nat)
    {p : Interplay κ μ α} (hp : p.Blind Request.apartRefs) :
    Alike (p.execute reactions depth) (p.execute reactions depth) :=
  SeenAs.lockstep.executeInterplay (i := ()) (fun _ _ => Iff.rfl) (fun _ => Alike.copy)
    (fun _ => Alike.drop) hc depth hp

/-! ## One device and another -/

theorem SeenAs.view {w : Bench Counted Nat κ μ} {v : Bench Plain Block κ μ} (h : SeenAs w v)
    (d : Handle) : w.view d = v.view d := by
  rw [h.seen, view_plain]

/-- A program on one device is not seen on another. -/
theorem view_of_execute {w w' : Bench Counted Nat κ μ} (hw : SeenAs w w.plain)
    {callbacks : Callbacks κ μ}
    (hc : ∀ code calls, (callbacks code calls).Blind Request.apartRefs) {depth : Nat}
    {d e : Handle} {p : Program κ μ α} (hp : p.Blind Request.apartRefs) (he : e ≠ d)
    (live : w.isLive d) {a : α} (run : (p.execute callbacks depth e).run w = .ok a w') :
    w'.view d = w.view d := by
  have seen := SeenAs.lockstep.execute (i := ()) (rfl : e = e) hc depth hp w w.plain hw
  rw [run] at seen
  obtain ⟨v', run', hw'⟩ := seen.ok_left
  obtain ⟨rig, hd⟩ := Option.isSome_iff_exists.1 live
  have hd' := plain_of_rig? hd
  -- on the bench as it is seen, the program leaves the other device as it is
  have L := @StandsBy.lockstep κ μ w.config w.image.isSome d (rig.plain w.store)
  have stood := L.execute (i := ()) ⟨rfl, he⟩ (fun c n => Program.blind_id (callbacks c n)) depth
    (Program.blind_id p) w.plain w.plain ⟨rfl, rfl, rfl, hd'⟩
  rw [run'] at stood
  rw [hw'.view, view, stood.2.rig, view, hd]
  exact congrArg some (Device.plain_plain _ _)

/-- What says nothing about who shares a device's blocks or its image file says nothing about who
shares its blocks. -/
theorem blind_apartRefs {p : Program κ μ α} (hp : p.Blind Request.alone) :
    p.Blind Request.apartRefs :=
  hp.mono fun r x => by cases r <;> cases x <;> rfl

/-- The device `d` of one bench is seen as the device `e` of another, with the same callback, and
the same things are set aside and remembered. -/
structure SeenAlike (d e : Handle) (w v : Bench Counted Nat κ μ) : Prop where
  config : w.config = v.config
  image : w.image.isSome = v.image.isSome
  live : w.isLive d
  view : w.view d = v.view e
  callback : (w.rig? d).map Rig.callback = (v.rig? e).map Rig.callback
  suspended : w.plain.suspended = v.plain.suspended
  memory : w.memory = v.memory

theorem SeenAlike.matching {d e : Handle} {w v : Bench Counted Nat κ μ} (h : SeenAlike d e w v) :
    Matching w.config w.image.isSome d e w.plain v.plain := by
  obtain ⟨rig, hd⟩ := Option.isSome_iff_exists.1 h.live
  have seen := h.view
  have callback := h.callback
  rw [Bench.view, Bench.view, hd] at seen
  rw [hd] at callback
  cases he : v.rig? e with
  | none => simp [he] at callback
  | some rig' =>
    rw [he, Option.map_some, Option.map_some, Option.some.injEq] at seen callback
    exact ⟨⟨rfl, h.config.symm⟩, ⟨rfl, h.image.symm⟩,
      ⟨_, _, plain_of_rig? hd, plain_of_rig? he, seen, callback⟩, Prod.ext h.suspended h.memory⟩

/-- The same program on the same device answers the same. -/
theorem execute_seenAlike {d e : Handle} {w v : Bench Counted Nat κ μ} (hw : SeenAs w w.plain)
    (hv : SeenAs v v.plain) (same : SeenAlike d e w v) {callbacks : Callbacks κ μ}
    (hc : ∀ code calls, (callbacks code calls).Blind Request.alone) (depth : Nat)
    {p : Program κ μ α} (hp : p.Blind Request.alone) :
    ResultsAgree (fun _ w' v' => w'.view d = v'.view e ∧ w'.memory = v'.memory) (fun _ _ => True)
      ((p.execute callbacks depth d).run w) ((p.execute callbacks depth e).run v) := by
  have hc' code calls := blind_apartRefs (hc code calls)
  have hp' := blind_apartRefs hp
  -- each bench does what the bench as it is seen does, and these two do the same
  have left := SeenAs.lockstep.execute (i := ()) (rfl : d = d) hc' depth hp' w w.plain hw
  have right := SeenAs.lockstep.execute (i := ()) (rfl : e = e) hc' depth hp' v v.plain hv
  have across := Matching.lockstep.execute (i := ()) ⟨rfl, rfl⟩ hc depth hp _ _ same.matching
  refine ((left.trans across).trans right.symm).mono ?_ fun _ _ _ => trivial
  rintro a w' v' ⟨u', ⟨u, hw', matching⟩, hv'⟩
  obtain ⟨r, s, hr, hs, same, -⟩ := matching.rigs
  constructor
  · rw [hw'.view, hv'.view, view, view, hr, hs, Option.map_some, Option.map_some, same]
  · rw [SeenAs.lockstep.memory (i := ()) hw', Matching.lockstep.memory (i := ()) matching,
      SeenAs.lockstep.memory (i := ()) hv']

/-- A copy is seen as its source. -/
theorem view_copy {w w' : Bench Counted Nat κ μ} (hw : SeenAs w w.plain) {d e : Handle}
    (run : (copy d).run w = .ok e w') :
    w'.view e = w.view d ∧ ∀ c, w.isLive c → w'.view c = w.view c := by
  have seen := Alike.copy d w w.plain hw
  rw [run] at seen
  obtain ⟨v', run', hw'⟩ := seen.ok_left
  obtain ⟨rig, hd, rfl, rfl⟩ := run_copy_eq_ok.1 run'
  refine ⟨?_, fun c hc => ?_⟩
  · have twin : ((w.plain.rack ++ [some { device := rig.device }])[w.plain.rack.length]?).join =
        some { device := rig.device } := by simp
    rw [hw'.view, hw.view, view, view, hd, rig?, twin]
    rfl
  · rw [← isLive_plain] at hc
    obtain ⟨other, hother⟩ := Option.isSome_iff_exists.1 hc
    rw [hw'.view, hw.view, view, view, hother, rig?, rig?_append hother]

/-- If the source has no callback, which copies do not inherit, nothing else tells them apart. -/
theorem seenAlike_copy {w w' : Bench Counted Nat κ μ} (hw : SeenAs w w.plain) {d e : Handle}
    (run : (copy d).run w = .ok e w') (bare : (w.rig? d).map Rig.callback = some none) :
    SeenAlike e d w' w' := by
  obtain ⟨twin, others⟩ := view_copy hw run
  obtain ⟨rig, hd, none⟩ := Option.map_eq_some_iff.1 bare
  have live : w.isLive d := by rw [isLive, hd]; rfl
  have alike := twin.trans (others d live).symm
  rw [run_copy, hd] at run
  cases run
  have copied : (w.rack ++ [some { device := rig.device }])[w.rack.length]?.join =
      some { device := rig.device } := by simp
  refine ⟨rfl, rfl, ?_, alike, ?_, rfl, rfl⟩
  · rw [isLive, rig?, copied]
    rfl
  · rw [rig?, rig?, copied, rig?_append hd, Option.map_some, Option.map_some, none]

/-- Devices that share blocks are isolated.

Every run from the making of a bench on, of a program that uses all its devices and of callbacks
that do, answers as on the bench where nothing is shared, and leaves every device as it is seen
there. A program on one device is not seen on any other, a copy is seen as its source, and on
devices that are seen as the same a program answers the same. -/
theorem isolation :
    (∀ (cfg : Config) (memory : μ) (reactions : Reactions κ μ) (depth : Nat) (p : Interplay κ μ α),
      (∀ code calls d, (reactions code calls d).Blind Request.apartRefs) →
      p.Blind Request.apartRefs →
      match create (S := Counted) cfg memory, create (S := Plain) cfg memory with
      | .ok w, .ok v =>
        ResultsAgree (fun _ w v => SeenAs w v ∧ ∀ d, w.view d = v.view d) (fun _ _ => True)
          ((p.execute reactions depth).run w) ((p.execute reactions depth).run v)
      | .error e, .error e' => e = e'
      | _, _ => False) ∧
    (∀ (callbacks : Callbacks κ μ) (depth : Nat) (p : Program κ μ α),
      (∀ code calls, (callbacks code calls).Blind Request.apartRefs) →
      p.Blind Request.apartRefs →
      ∀ (w w' : Bench Counted Nat κ μ) (d e : Handle) (a : α), SeenAs w w.plain →
        (p.execute callbacks depth e).run w = .ok a w' →
        e ≠ d → w.isLive d → w'.view d = w.view d) ∧
    (∀ (w w' : Bench Counted Nat κ μ) (d e : Handle), SeenAs w w.plain →
      (copy d).run w = .ok e w' →
      w'.view e = w.view d ∧ (∀ c, w.isLive c → w'.view c = w.view c) ∧
      ((w.rig? d).map Rig.callback = some none → SeenAlike e d w' w')) ∧
    (∀ (callbacks : Callbacks κ μ) (depth : Nat) (p : Program κ μ α),
      (∀ code calls, (callbacks code calls).Blind Request.alone) → p.Blind Request.alone →
      ∀ (w v : Bench Counted Nat κ μ) (d e : Handle), SeenAs w w.plain → SeenAs v v.plain →
        SeenAlike d e w v →
        ResultsAgree (fun _ w' v' => w'.view d = v'.view e ∧ w'.memory = v'.memory)
          (fun _ _ => True) ((p.execute callbacks depth d).run w)
          ((p.execute callbacks depth e).run v)) := by
  refine ⟨fun cfg memory reactions depth p hc hp => ?_, ?_, ?_, ?_⟩
  · have made := SeenAs.create (κ := κ) cfg memory
    revert made
    cases create (S := Counted) (κ := κ) cfg memory with
    | error e => cases create (S := Plain) (κ := κ) cfg memory <;> exact id
    | ok w =>
      cases create (S := Plain) (κ := κ) cfg memory with
      | error e => exact id
      | ok v =>
        intro made
        exact (Alike.execute hc depth hp w v made).mono (fun _ _ _ h => ⟨h, h.view⟩) fun _ _ => id
  · intro callbacks depth p hc hp w w' d e a hw run he live
    exact view_of_execute hw hc hp he live run
  · intro w w' d e hw run
    obtain ⟨twin, others⟩ := view_copy hw run
    exact ⟨twin, others, seenAlike_copy hw run⟩
  · intro callbacks depth p hc hp w v d e hw hv same
    exact execute_seenAlike hw hv same hc depth hp

/-- A new device of one block of two bytes. -/
def newBench : Bench Counted Nat Unit Unit where
  config := { geometry := ⟨1, 1, 2, 1⟩, eraseValue := some 0xff }
  store := BlockStore.empty
  image := none
  rack := [some { device := Device.fresh Nat { geometry := ⟨1, 1, 2, 1⟩ } }]
  memory := ()

/-- Programs the block of the device. -/
def progOnce : Interplay Unit Unit Unit :=
  .ask 0 (.update (.prog 0 0 [1, 2])) fun _ => .done ()

/-- Erases the block. -/
def eraseOnce : Program Unit Unit Unit :=
  .ask (.update (.erase 0)) fun _ => .done ()

/-- Callbacks that only resume. -/
def resumeAlways : Callbacks Unit Unit := fun _ _ => .done (.ok .resume)

/-- The same, on any device. -/
def resumeEach : Reactions Unit Unit := fun _ _ _ => .done (.ok .resume)

/-- Programs the block of the device, copies the device, and erases the block of the copy. -/
def progThenEraseCopy : BenchM Counted Nat Unit Unit Unit := do
  progOnce.execute resumeEach 1
  match (← get).rig? 0, ← copy 0 with
  | some { callback := none, .. }, 1 => eraseOnce.execute resumeAlways 1 1
  | _, _ => throw .exhausted

theorem isolation_progThenEraseCopy :
    ∃ w v u : Bench Counted Nat Unit Unit,
      progThenEraseCopy.run newBench = .ok () u ∧ SeenAs w w.plain ∧
      (copy 0).run w = .ok 1 v ∧ v.view 1 = w.view 0 ∧
      (eraseOnce.execute resumeAlways 1 1).run v = .ok () u ∧ u.view 0 = v.view 0 ∧
      ResultsAgree (fun _ u u' => u.view 1 = u'.view 0 ∧ u.memory = u'.memory) (fun _ _ => True)
        ((eraseOnce.execute resumeAlways 1 1).run v)
        ((eraseOnce.execute resumeAlways 1 0).run v) := by
  have ends : (match progThenEraseCopy.run newBench with
    | .ok .. => true
    | .error .. => false) = true := by decide +kernel
  have made : create (S := Counted) newBench.config () = .ok newBench := rfl
  cases ran : progThenEraseCopy.run newBench with
  | error h u =>
    rw [ran] at ends
    cases ends
  | ok x u =>
    obtain ⟨_, w, programmed, rest⟩ := run_bind_eq_ok.1 ran
    obtain ⟨_, w, got, rest⟩ := run_bind_eq_ok.1 rest
    cases got
    obtain ⟨e, v, copied, rest⟩ := run_bind_eq_ok.1 rest
    obtain ⟨whole, apart, copies, twins⟩ := isolation (κ := Unit) (μ := Unit) (α := Unit)
    have run := whole newBench.config () resumeEach 1 progOnce (fun _ _ _ => trivial)
      ⟨fun _ => rfl, fun _ => trivial⟩
    simp only [made, (plain_create made).2, programmed] at run
    obtain ⟨w', -, hw, -⟩ := run.ok_left
    obtain rfl := hw.seen
    obtain ⟨-, hv⟩ := (Alike.copy 0).run_plain hw copied
    split at rest
    · rename_i device hr
      have live : w.isLive 0 := by rw [isLive, hr]; rfl
      obtain ⟨twin, others, alike⟩ := copies w v 0 1 hw copied
      have same := alike (by rw [hr]; rfl)
      have seen (b : Bench Counted Nat Unit Unit) : b.isLive 0 = (b.view 0).isSome :=
        Option.isSome_map.symm
      have live' : v.isLive 0 := by rw [seen, others 0 live, ← seen, live]
      refine ⟨w, v, u, rfl, hw, copied, twin, rest, ?_, ?_⟩
      · exact apart resumeAlways 1 eraseOnce (fun _ _ => trivial) ⟨fun _ => rfl, fun _ => trivial⟩
          v u 0 1 () hv rest (by decide) live'
      · exact twins resumeAlways 1 eraseOnce (fun _ _ => trivial) ⟨fun _ => rfl, fun _ => trivial⟩
          v v 1 0 hv hv same
    · cases rest

end Bench

end FaultyFlash
