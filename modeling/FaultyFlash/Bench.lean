import FaultyFlash.Device.Crash

/-!
# Test benches

A bench holds a device and the copies made of it, which share a store and an image file. Devices
are named by handles, in the order in which they came to be. A device may carry a callback, which
is asked what to do when the device loses power. Until it has answered, the blocks and the
generator are set aside as they were before power went.

## Main definitions

* `Handler`, `Verdict`: who answers a loss of power, and the answer
* `Rig`, `Suspension`, `Bench`: a device with its callback, a state set aside, and the bench
* `Bench.rig?`: the view of a bench, the device of a handle
* `BenchM`, `Bench.on`: operations on a bench; an operation on one of its devices
* `Bench.create`: a bench with one device
* `Bench.copy`, `Bench.drop`: devices made and given up
* `Bench.suspend`, `Bench.resume`, `Bench.discard`: a state set aside, taken up, and given up

## Main results

* `Bench.run_on`, `Bench.run_copy`, `Bench.run_suspend`, …: the operations as functions of the bench
-/

namespace FaultyFlash

/-- A name of a device on a bench. -/
abbrev Handle := Nat

/-- What becomes of an update during which power was lost. -/
inductive Verdict where
  /-- It is completed as if power had not been lost. -/
  | resume
  /-- It fails, and the device stays as the crash left it. -/
  | abort
  deriving DecidableEq, Repr

/-- Who answers a loss of power; callbacks of a test are given by a code of type `κ`. -/
inductive Handler (κ : Type) where
  /-- Resumes every time. -/
  | ride
  /-- Copies the device for later, and resumes. -/
  | fork
  /-- A callback of the test, and how often it was called. -/
  | custom (code : κ) (calls : Nat)
  deriving DecidableEq, Repr

/-- A device with its callback. -/
structure Rig (R κ : Type) where
  device : Device R
  callback : Option (Handler κ) := none

/-- The blocks and the generator of a device, set aside when it lost power. -/
structure Suspension (R : Type) where
  slots : Slots R
  generator : Generator

/-- A bench of devices. -/
structure Bench (S R κ μ : Type) where
  config : Config
  store : S
  image : Option Image
  /-- The devices by handle; `none` where one was given up. -/
  rack : List (Option (Rig R κ))
  /-- The states set aside, the latest first. -/
  suspended : List (Suspension R) := []
  /-- The devices copied for later, in order. -/
  forks : List Handle := []
  /-- What the test itself remembers. -/
  memory : μ

/-- Why a bench stops working altogether. -/
inductive Halt where
  /-- There is no device of this handle. -/
  | noDevice (handle : Handle)
  /-- A bound on the nesting of callbacks or on the length of a scenario was reached. -/
  | exhausted
  deriving DecidableEq, Repr

/-- Operations on a bench. -/
abbrev BenchM (S R κ μ : Type) := EStateM Halt (Bench S R κ μ)

namespace Bench

variable {S R κ μ : Type}

/-- The device of a handle, unless it was never made or was given up. -/
def rig? (w : Bench S R κ μ) (d : Handle) : Option (Rig R κ) := w.rack[d]?.join

/-- Is there a device of this handle? -/
def isLive (w : Bench S R κ μ) (d : Handle) : Bool := (w.rig? d).isSome

/-- A device of the bench with its surroundings. -/
def flash (w : Bench S R κ μ) (r : Rig R κ) : Flash S R := ⟨w.store, w.image, r.device⟩

/-- The bench after the device of a handle, which was `r`, came to `f`. -/
def settle (w : Bench S R κ μ) (d : Handle) (r : Rig R κ) (f : Flash S R) : Bench S R κ μ :=
  { w with
    store := f.store
    image := f.image
    rack := w.rack.set d (some { r with device := f.device }) }

/-- The device of a handle. -/
def rig (d : Handle) : BenchM S R κ μ (Rig R κ) := fun w =>
  match w.rig? d with
  | some r => .ok r w
  | none => .error (.noDevice d) w

/-- Replaces the device of a handle. -/
def setRig (d : Handle) (r : Option (Rig R κ)) : BenchM S R κ μ Unit :=
  modify fun w => { w with rack := w.rack.set d r }

theorem rig?_eq_some {w : Bench S R κ μ} {d : Handle} {r : Rig R κ} :
    w.rig? d = some r ↔ w.rack[d]? = some (some r) := by
  rw [rig?, Option.join_eq_some_iff]

theorem rig?_settle {w : Bench S R κ μ} {d : Handle} {r : Rig R κ} (h : w.rig? d = some r)
    (f : Flash S R) : (w.settle d r f).rig? d = some { r with device := f.device } := by
  rw [rig?_eq_some] at h ⊢
  exact List.getElem?_set_self (List.getElem?_eq_some_iff.1 h).1

/-- A bench whose device came to nothing new is the bench that it was. -/
theorem settle_flash {w : Bench S R κ μ} {d : Handle} {r : Rig R κ} (h : w.rig? d = some r) :
    w.settle d r (w.flash r) = w := by
  rw [rig?_eq_some] at h
  obtain ⟨inside, stored⟩ := List.getElem?_eq_some_iff.1 h
  have same : w.rack.set d (some r) = w.rack := by rw [← stored, List.set_getElem_self]
  exact congrArg (fun rack => { w with rack := rack }) same

theorem rig?_settle_ne (w : Bench S R κ μ) {d e : Handle} (h : d ≠ e) (r : Rig R κ)
    (f : Flash S R) : (w.settle d r f).rig? e = w.rig? e := by
  simp only [rig?, settle, List.getElem?_set_ne h]

theorem rig?_set {w : Bench S R κ μ} {d : Handle} {r : Rig R κ} (h : w.rig? d = some r)
    (s : Option (Rig R κ)) : (w.rack.set d s)[d]?.join = s := by
  rw [rig?_eq_some] at h
  rw [List.getElem?_set_self (List.getElem?_eq_some_iff.1 h).1, Option.join_some]

/-- A device keeps its handle when others come after it. -/
theorem rig?_append {rack : List (Option (Rig R κ))} {d : Handle} {r : Rig R κ}
    (h : rack[d]?.join = some r) (x : Option (Rig R κ)) : (rack ++ [x])[d]?.join = some r := by
  rw [Option.join_eq_some_iff] at h ⊢
  rw [List.getElem?_append_left (List.getElem?_eq_some_iff.1 h).1, h]

/-- Runs an operation on the device of a handle, and answers with what came of it. -/
def on {α : Type} (d : Handle) (op : Config → FlashM S R α) :
    BenchM S R κ μ (Except Failure α) := fun w =>
  match w.rig? d with
  | none => .error (.noDevice d) w
  | some r =>
    match op w.config (w.flash r) with
    | .ok a f => .ok (.ok a) (w.settle d r f)
    | .error e f => .ok (.error e) (w.settle d r f)

theorem run_rig (d : Handle) (w : Bench S R κ μ) :
    (rig d).run w = match w.rig? d with
      | some r => .ok r w
      | none => .error (.noDevice d) w := rfl

theorem run_on {α : Type} (d : Handle) (op : Config → FlashM S R α) (w : Bench S R κ μ) :
    (on d op).run w = match w.rig? d with
      | none => .error (.noDevice d) w
      | some r => match (op w.config).run (w.flash r) with
        | .ok a f => .ok (.ok a) (w.settle d r f)
        | .error e f => .ok (.error e) (w.settle d r f) := rfl

/-- On a device that there is, an operation answers, whatever comes of it. -/
theorem run_on_of_rig? {α : Type} {d : Handle} {w : Bench S R κ μ} {r : Rig R κ}
    (h : w.rig? d = some r) (op : Config → FlashM S R α) :
    (on d op).run w = match (op w.config).run (w.flash r) with
      | .ok a f => .ok (.ok a) (w.settle d r f)
      | .error e f => .ok (.error e) (w.settle d r f) := by
  rw [run_on, h]

theorem on_map {α β : Type} (d : Handle) (f : α → β) (op : Config → FlashM S R α) :
    (on d fun cfg => f <$> op cfg : BenchM S R κ μ _) = Except.map f <$> on d op := by
  refine funext fun w => ?_
  show (on d _).run w = (Except.map f <$> on d op).run w
  rw [map_eq_pure_bind, EStateM.run_bind]
  cases hd : w.rig? d with
  | none =>
    rw [run_on, run_on, hd]
  | some r =>
    rw [run_on_of_rig? hd, run_on_of_rig? hd, map_eq_pure_bind, EStateM.run_bind]
    cases (op w.config).run (w.flash r) <;> rfl

/-- Installs or removes the callback of a device. -/
def install (d : Handle) (callback : Option (Handler κ)) : BenchM S R κ μ Unit := do
  setRig d (some { ← rig d with callback := callback })

theorem run_install (d : Handle) (callback : Option (Handler κ)) (w : Bench S R κ μ) :
    (install d callback).run w = match w.rig? d with
      | some r => .ok () { w with rack := w.rack.set d (some { r with callback := callback }) }
      | none => .error (.noDevice d) w := by
  simp only [install, EStateM.run_bind, run_rig]
  cases w.rig? d <;> rfl

variable [BlockStore S R]

/-- A bench with one device, of handle zero, on which nothing was written. -/
def create (cfg : Config) (memory : μ) : Except Failure (Bench S R κ μ) := do
  match cfg.geometry.check with
  | .error m => throw (.misuse m)
  | .ok () =>
    let image ← match cfg.image with
      | .absent => pure none
      | .writable | .sealed =>
        pure (some (Image.create cfg.geometry.blockSize cfg.geometry.blockCount cfg.fill))
      | .unwritable => throw (.fault (.io none))
    return {
      config := cfg
      store := BlockStore.empty
      image := image
      rack := [some { device := Device.fresh R cfg }]
      memory := memory }

/-- Copies a device, apart from its callback, and gives the handle of the copy. -/
def copy (d : Handle) : BenchM S R κ μ Handle := do
  let r ← rig d
  -- handles of devices that were given up are not given out again
  let handle := (← get).rack.length
  modify fun w => { w with
    store := BlockStore.retainAll (BlockStore.retainAll w.store r.device.slots)
      (r.device.synced.getD [])
    rack := w.rack ++ [some { device := r.device }] }
  return handle

/-- Gives up a device. -/
def drop (d : Handle) : BenchM S R κ μ Unit := do
  let r ← rig d
  modify fun w => { w with
    store := BlockStore.releaseAll (BlockStore.releaseAll w.store r.device.slots)
      (r.device.synced.getD []) }
  setRig d none

/-- Sets the blocks and the generator of a device aside. -/
def suspend (d : Handle) : BenchM S R κ μ Unit := do
  let r ← rig d
  modify fun w => { w with
    store := BlockStore.retainAll w.store r.device.slots
    suspended := ⟨r.device.slots, r.device.generator⟩ :: w.suspended }

/-- Gives up the state that was set aside last. -/
def discard : BenchM S R κ μ Unit :=
  modify fun w => match w.suspended with
    | [] => w
    | s :: rest => { w with
        store := BlockStore.releaseAll w.store s.slots
        suspended := rest }

/-- Returns a device to the state that was set aside last. -/
def resume (d : Handle) : BenchM S R κ μ (Except Failure Unit) := do
  match (← get).suspended with
  | [] => return .error (.defect .notSuspended)
  | s :: rest =>
    -- what the state holds passes to the device
    modify fun w => { w with suspended := rest }
    on d fun cfg => Flash.restore cfg s.slots s.generator

theorem run_copy (d : Handle) (w : Bench S R κ μ) :
    (copy d).run w = match w.rig? d with
      | some r => .ok w.rack.length { w with
          store := BlockStore.retainAll (BlockStore.retainAll w.store r.device.slots)
            (r.device.synced.getD [])
          rack := w.rack ++ [some { device := r.device }] }
      | none => .error (.noDevice d) w := by
  simp only [copy, EStateM.run_bind, run_rig]
  cases w.rig? d <;> rfl

theorem run_drop (d : Handle) (w : Bench S R κ μ) :
    (drop d).run w = match w.rig? d with
      | some r => .ok () { w with
          store := BlockStore.releaseAll (BlockStore.releaseAll w.store r.device.slots)
            (r.device.synced.getD [])
          rack := w.rack.set d none }
      | none => .error (.noDevice d) w := by
  simp only [drop, EStateM.run_bind, run_rig]
  cases w.rig? d <;> rfl

theorem run_suspend (d : Handle) (w : Bench S R κ μ) :
    (suspend d).run w = match w.rig? d with
      | some r => .ok () { w with
          store := BlockStore.retainAll w.store r.device.slots
          suspended := ⟨r.device.slots, r.device.generator⟩ :: w.suspended }
      | none => .error (.noDevice d) w := by
  simp only [suspend, EStateM.run_bind, run_rig]
  cases w.rig? d <;> rfl

theorem run_discard (w : Bench S R κ μ) :
    discard.run w = .ok () (match w.suspended with
      | [] => w
      | s :: rest => { w with
          store := BlockStore.releaseAll w.store s.slots
          suspended := rest }) := rfl

theorem run_resume (d : Handle) (w : Bench S R κ μ) :
    (resume d).run w = match w.suspended with
      | [] => .ok (.error (.defect .notSuspended)) w
      | s :: rest => (on d fun cfg => Flash.restore cfg s.slots s.generator).run
          { w with suspended := rest } := by
  simp only [resume, EStateM.run_bind, EStateM.run_get]
  cases w.suspended <;> rfl

end Bench

end FaultyFlash
