import FaultyFlash.PingPong
import FaultyFlash.Proofs.Scenario.Breaks

/-!
# The counter recounted

The counter keeps to itself what it mounts and commits. Here it is run with an account of that, in
which every value stands with the number of updates that were begun before. The account is all that
is added: the counter asks what it asks anyway, and one more mount after it ended well.

## Main definitions

* `Program.tallied`: a program that counts its updates
* `PingPong.Account`, `PingPong.Recount`: accounts, and tasks that keep one
* `PingPong.recount`: the counter driven to a target, with an account of that

## Main results

* `PingPong.recount_erases`: but for the account and the last mount, a recount is the counter
* `PingPong.Recount.Course.bind`: the courses of recounts are put together
-/

namespace FaultyFlash

variable {κ μ α β : Type}

/-- Begins an update? -/
def Request.isUpdate : Request → Bool
  | .update _ => true
  | _ => false

/-- A program that counts the updates that it begins, after `k` before. -/
def Program.tallied : Program κ μ α → Nat → Program κ μ (α × Nat)
  | .done a, k => .done (a, k)
  | .ask r next, k => .ask r fun x => (next x).tallied (if r.isUpdate then k + 1 else k)
  | .install callback next, k => .install callback (next.tallied k)
  | .getMemory next, k => .getMemory fun m => (next m).tallied k
  | .setMemory m next, k => .setMemory m (next.tallied k)

/-- But for the count, a program that counts is the program. -/
theorem Program.tallied_erases (p : Program κ μ α) (k : Nat) :
    ((p.tallied k).bind fun x => .done x.1) = p := by
  induction p generalizing k with
  | done a => rfl
  | ask r next ih => simp only [tallied, bind, ih]
  | install callback next ih => simp only [tallied, bind, ih]
  | getMemory next ih => simp only [tallied, bind, ih]
  | setMemory m next ih => simp only [tallied, bind, ih]

instance : LawfulMonad (Program κ μ) :=
  LawfulMonad.mk' _ Program.bind_done (fun _ _ => rfl) Program.bind_assoc

namespace PingPong

/-- What a run of the counter tells of itself. -/
structure Account where
  /-- The updates that were begun. -/
  updates : Nat := 0
  /-- The values that were mounted or committed, each with the updates begun before. -/
  told : List (Nat × UInt32) := []
  /-- How the run ended. -/
  outcome : Except CountError Unit := .ok ()
  /-- What was mounted once more, after the run ended well. -/
  after : Option UInt32 := none

/-- Tasks that keep an account. -/
def Recount (κ μ α : Type) : Type := Account → Program κ μ (Except CountError α × Account)

namespace Recount

/-- Goes on after a task that succeeded. -/
def follow (f : α → Recount κ μ β) :
    Except CountError α × Account → Program κ μ (Except CountError β × Account)
  | (.ok a, acc) => f a acc
  | (.error e, acc) => .done (.error e, acc)

instance : Monad (Recount κ μ) where
  pure a := fun acc => .done (.ok a, acc)
  bind x f := fun acc => (x acc).bind (follow f)

/-- Tells a value. -/
def tell (v : UInt32) : Recount κ μ Unit := fun acc =>
  .done (.ok (), { acc with told := acc.told ++ [(acc.updates, v)] })

/-- Performs a task, and counts its updates. -/
def perform (t : Task κ μ α) : Recount κ μ α := fun acc =>
  (Program.tallied t.run acc.updates).bind fun x =>
    .done (x.1.mapError CountError.device, { acc with updates := x.2 })

/-- Ends a task with a failure. -/
def fail (e : CountError) : Recount κ μ α := fun acc => .done (.error e, acc)

/-- Mounts, and tells the value. -/
def mount : Recount κ μ Record := do
  let r ← perform PingPong.mount
  tell r.value
  return r

/-- Commits a value, and tells it then. -/
def commit (r : Record) (value : UInt32) : Recount κ μ Record := do
  let next ← perform (PingPong.commit r value)
  tell next.value
  return next

/-- Counts up by `n`. -/
def climb : Nat → Record → Recount κ μ Record
  | 0, r => return r
  | n + 1, r => do climb n (← commit r (r.value + 1))

/-- Counts up to a target. -/
def countTo (target : UInt32) : Recount κ μ Unit := do
  let start ← mount
  if start.value > target then
    fail (.miscount (.past target start.value))
  else
    let steps := target.toNat - start.value.toNat
    let _ ← climb steps start
    let reached ← mount
    if reached.value ≠ target then
      fail (.miscount (.short reached.value target))

end Recount

/-- Closes the account of a run, after one more mount if the run ended well. -/
def close : Except CountError Unit × Account → Program κ μ Account
  | (.ok (), acc) => (PingPong.mount.run).bind fun r =>
    .done { acc with outcome := .ok (), after := r.toOption.map Record.value }
  | (.error e, acc) => .done { acc with outcome := .error e }

/-- Counts up to a target with an account of that, and mounts once more if that ends well. -/
def recount (target : UInt32) : Program κ μ Account :=
  (Recount.countTo target {}).bind close

/-! ## Without the account -/

/-- But for the account, the first task is the second. -/
def Recount.Recounts (x : Recount κ μ α) (y : ExceptT CountError (Program κ μ) α) : Prop :=
  ∀ acc, (x acc).bind (fun z => .done z.1) = y.run

namespace Recount.Recounts

theorem pure (a : α) : Recounts (Pure.pure a : Recount κ μ α) (Pure.pure a) := fun _ => rfl

theorem fail (e : CountError) : Recounts (Recount.fail e : Recount κ μ α) (throw e) := fun _ => rfl

theorem bind {x : Recount κ μ α} {y : ExceptT CountError (Program κ μ) α} {f : α → Recount κ μ β}
    {g : α → ExceptT CountError (Program κ μ) β} (h : Recounts x y)
    (hf : ∀ a, Recounts (f a) (g a)) : Recounts (x >>= f) (y >>= g) := by
  intro acc
  have whole : (y >>= g).run = y.run.bind fun z => match z with
      | .ok a => (g a).run
      | .error e => .done (.error e) := by
    rw [ExceptT.run_bind, Program.bind_eq]
    congr 1
    funext z
    cases z <;> rfl
  rw [whole, ← h acc, Program.bind_assoc]
  show ((x acc).bind (follow f)).bind _ = _
  rw [Program.bind_assoc]
  congr 1
  funext z
  rcases z with ⟨e | a, acc⟩
  · rfl
  · exact hf a acc

/-- Telling is no part of a task. -/
theorem tell_bind {v : UInt32} {x : Recount κ μ α} {y : ExceptT CountError (Program κ μ) α}
    (h : Recounts x y) : Recounts (Recount.tell v >>= fun _ => x) y := fun _ => h _

theorem perform (t : Task κ μ α) :
    Recounts (Recount.perform t) (ExceptT.adapt CountError.device t) := by
  intro acc
  show ((t.run.tallied acc.updates).bind _).bind _ = t.run.bind _
  nth_rewrite 2 [← Program.tallied_erases t.run acc.updates]
  rw [Program.bind_assoc, Program.bind_assoc]
  rfl

theorem mount : Recounts (Recount.mount : Recount κ μ Record)
    (ExceptT.adapt CountError.device PingPong.mount) := by
  have told := (perform (κ := κ) (μ := μ) PingPong.mount).bind fun r =>
    tell_bind (v := r.value) (pure r)
  rwa [bind_pure] at told

theorem commit (r : Record) (value : UInt32) :
    Recounts (Recount.commit r value : Recount κ μ Record)
    (ExceptT.adapt CountError.device (PingPong.commit r value)) := by
  have told := (perform (κ := κ) (μ := μ) (PingPong.commit r value)).bind fun r =>
    tell_bind (v := r.value) (pure r)
  rwa [bind_pure] at told

/-- Errors are translated part by part. -/
theorem adapt_bind (t : Task κ μ α) (f : α → Task κ μ β) :
    (ExceptT.adapt CountError.device (t >>= f) : ExceptT CountError (Program κ μ) β) =
      ExceptT.adapt CountError.device t >>= fun a => ExceptT.adapt CountError.device (f a) := by
  apply ExceptT.ext
  have run_adapt {γ : Type} (t : Task κ μ γ) : (ExceptT.adapt CountError.device t :
      ExceptT CountError (Program κ μ) γ).run = Except.mapError CountError.device <$> t.run := rfl
  rw [run_adapt, ExceptT.run_bind, ExceptT.run_bind, run_adapt, map_bind, bind_map_left]
  congr 1
  funext z
  cases z <;> rfl

theorem climb (n : Nat) (r : Record) : Recounts (Recount.climb n r : Recount κ μ Record)
    (ExceptT.adapt CountError.device (PingPong.climb n r)) := by
  induction n generalizing r with
  | zero => exact pure r
  | succ n ih =>
    rw [PingPong.climb, adapt_bind]
    exact (commit r _).bind ih

/-- But for the account, a recount is the counter. -/
theorem countTo (target : UInt32) :
    Recounts (Recount.countTo target : Recount κ μ Unit) (PingPong.countTo target) := by
  refine mount.bind fun start => ?_
  by_cases past : start.value > target
  · simp only [if_pos past]
    exact fail _
  · simp only [if_neg past]
    refine (climb _ start).bind fun _ => mount.bind fun reached => ?_
    by_cases short : reached.value ≠ target
    · simp only [if_pos short]
      exact fail _
    · simp only [if_neg short]
      exact pure ()

end Recount.Recounts

/-- But for the account, a recount is the counter, with one more mount after it ended well. -/
theorem recount_erases (target : UInt32) :
    ((recount target : Program κ μ Account).bind fun acc => .done acc.outcome) =
      (countTo target).run.bind fun
        | .ok () => mount.run.bind fun _ => .done (.ok ())
        | .error e => .done (.error e) := by
  rw [← Recount.Recounts.countTo target {}, recount, Program.bind_assoc, Program.bind_assoc]
  congr 1
  funext z
  rcases z with ⟨e | _, acc⟩
  · rfl
  · show ((PingPong.mount.run).bind _).bind _ = (PingPong.mount.run).bind _
    rw [Program.bind_assoc]
    rfl

end PingPong

end FaultyFlash
