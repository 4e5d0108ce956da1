import FaultyFlash.Request

/-!
# Programs that use a device

A program is a tree: at each node it asks something of the device at hand, or installs a callback,
or looks at or changes what the test remembers, and goes on by the answer. A program sees the
failures of its requests and may go on after them. It uses the device only through its operations:
it puts no other device in its place.

## Main definitions

* `Program κ μ α`: programs with callbacks of code `κ`, memory `μ` and result `α`
* `Program.bind`: one program after another
* `Task κ μ α`: programs that may end in a failure
* `Task.ask`: a request whose failure ends the task
* `Callbacks κ μ`: the callbacks of a test, by their codes

## Main results

* `Program.bind_done`, `Program.bind_assoc`: programs form a monad
-/

namespace FaultyFlash

/-- Programs that use the device at hand, by the operations of devices and in no other way. The
device stays the one that it is: nothing overwrites it by another one. -/
inductive Program (κ μ α : Type) : Type where
  /-- Ends with a result. -/
  | done (a : α)
  /-- Asks something of the device. -/
  | ask (r : Request) (next : Except Failure r.Answer → Program κ μ α)
  /-- Installs a callback on the device, or removes it. -/
  | install (callback : Option κ) (next : Program κ μ α)
  /-- Looks at the memory of the test. -/
  | getMemory (next : μ → Program κ μ α)
  /-- Replaces the memory of the test. -/
  | setMemory (m : μ) (next : Program κ μ α)

namespace Program

variable {κ μ α β γ : Type}

/-- Runs a program, then another by its result. -/
def bind : Program κ μ α → (α → Program κ μ β) → Program κ μ β
  | done a, f => f a
  | ask r next, f => ask r fun x => (next x).bind f
  | install callback next, f => install callback (next.bind f)
  | getMemory next, f => getMemory fun m => (next m).bind f
  | setMemory m next, f => setMemory m (next.bind f)

instance : Monad (Program κ μ) where
  pure := done
  bind := bind

@[simp] theorem pure_eq_done (a : α) : (pure a : Program κ μ α) = done a := rfl

@[simp] theorem bind_eq (p : Program κ μ α) (f : α → Program κ μ β) : p >>= f = p.bind f := rfl

@[simp] theorem done_bind (a : α) (f : α → Program κ μ β) : (done a).bind f = f a := rfl

@[simp] theorem bind_done (p : Program κ μ α) : p.bind done = p := by
  induction p with
  | done a => rfl
  | ask r next ih => simp [bind, ih]
  | install callback next ih => simp [bind, ih]
  | getMemory next ih => simp [bind, ih]
  | setMemory m next ih => simp [bind, ih]

theorem bind_assoc (p : Program κ μ α) (f : α → Program κ μ β) (g : β → Program κ μ γ) :
    (p.bind f).bind g = p.bind fun a => (f a).bind g := by
  induction p with
  | done a => rfl
  | ask r next ih => simp [bind, ih]
  | install callback next ih => simp [bind, ih]
  | getMemory next ih => simp [bind, ih]
  | setMemory m next ih => simp [bind, ih]

/-- Changes the memory of the test. -/
def updateMemory (f : μ → μ) : Program κ μ Unit :=
  getMemory fun m => setMemory (f m) (done ())

end Program

/-- Programs that may end in a failure. -/
abbrev Task (κ μ α : Type) := ExceptT Failure (Program κ μ) α

/-- A request whose failure ends the task. -/
def Task.ask {κ μ : Type} (r : Request) : Task κ μ r.Answer :=
  ExceptT.mk (.ask r .done)

/-- The callbacks of a test as programs: `callbacks c n` is the `n`-th call, from zero, of the
callback of code `c`. Like every program, a callback asks of the device that lost power and does not
exchange it. -/
abbrev Callbacks (κ μ : Type) := κ → Nat → Program κ μ (Except Failure Verdict)

end FaultyFlash
