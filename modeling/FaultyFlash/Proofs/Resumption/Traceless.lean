import FaultyFlash.Proofs.Powered
import FaultyFlash.Proofs.Resumption.Follow

/-!
# A loss of power that is resumed leaves no trace

Whoever uses a device does not notice that power was lost, if the callback resumes: all answers are
those of the device whose power is never lost, and so are the blocks and the generator in the end.

## Main definitions

* `Program.logged`: a program that tells what it was answered
* `Program.armed`, `Program.disarmed`: a program that starts with a countdown and a callback, or
  with the countdown off

## Main results

* `Bench.resumption`: programs do not notice losses of power that are resumed
-/

namespace FaultyFlash

open Flash (answered)

variable {κ μ α β : Type}

namespace Program

/-- What was asked, and the answer. -/
abbrev Exchange := (r : Request) × Except Failure r.Answer

/-- A program that also tells what it was answered, after what was answered before. -/
def logged : Program κ μ α → (before : List Exchange) → Program κ μ (List Exchange × α)
  | .done a, log => .done (log, a)
  | .ask r next, log => .ask r fun x => (next x).logged (log ++ [⟨r, x⟩])
  | .install callback next, log => .install callback (next.logged log)
  | .getMemory next, log => .getMemory fun m => (next m).logged log
  | .setMemory m next, log => .setMemory m (next.logged log)

theorem Asks.logged {ok : Request → Prop} {p : Program κ μ α} (h : p.Asks ok)
    (log : List Exchange) : (p.logged log).Asks ok := by
  induction p generalizing log with
  | done a => exact trivial
  | ask r next ih => exact ⟨h.1, fun x => ih x (h.2 x) _⟩
  | install | getMemory | setMemory => exact h.elim

end Program

/-- No answer of a program on a device by itself reports a loss of power. -/
theorem Program.powered_logged (cfg : Config) (m : μ) (p : Program κ μ α) {log : List Exchange}
    (h : ∀ x ∈ log, x.2 ≠ .error (.fault .powerLoss)) (X : Flash Plain Block) :
    ∀ x ∈ ((p.logged log).alone (fun _ x => x) cfg m X).result.1,
      x.2 ≠ .error (.fault .powerLoss) := by
  induction p generalizing log X m with
  | done a => exact h
  | ask r next ih =>
    refine ih _ _ (fun x hx => ?_) _
    rcases List.mem_append.1 hx with hx | hx
    · exact h x hx
    · -- the device by itself loses no power
      obtain rfl := List.mem_singleton.1 hx
      intro lost
      have run : (r.effect cfg).run X = .error _ (answered (r.effect cfg) X).2 :=
        Flash.answered_eq_error.1 (Prod.ext lost rfl)
      exact Flash.Powered.effect cfg r X _ _ run rfl
  | install callback next ih => exact ih m h X
  | getMemory next ih => exact ih m m h X
  | setMemory n next ih => exact ih n h X

namespace Bench

variable {d : Handle} {code : κ} {w : Bench Counted Nat κ μ}

/-- Setting the countdown of a device is seen as such. -/
theorem alike_setCountdown (d : Handle) (n : UInt32) (respond : Responder Counted Nat κ μ)
    (respond' : Responder Plain Block κ μ) :
    Alike (perform respond d (.setCountdown n)) (perform respond' d (.setCountdown n)) :=
  Alike.on d fun cfg _ _ => Alike.effect (r := .setCountdown n) cfg nofun

/-- A device with a countdown set, where nothing is shared. -/
theorem run_setCountdown {w : Bench Plain Block κ μ} {r : Rig Block κ} (hr : w.rig? d = some r)
    (n : UInt32) (respond : Responder Plain Block κ μ) :
    (perform respond d (.setCountdown n)).run w =
      .ok (.ok ()) (w.settle d r ((w.flash r).rearm n)) := by
  rw [perform_direct respond d (r := .setCountdown n) rfl]
  exact run_on_answered hr _

/-- A device gets a countdown and a callback. -/
theorem attended_of_armed (h : w.WellFormed) {n : UInt32} {respond : Responder Counted Nat κ μ}
    {x : Except Failure Unit} {w1 w2 : Bench Counted Nat κ μ}
    (armed : (perform respond d (.setCountdown n)).run w = .ok x w1)
    (installed : (install d (some (.custom code 0))).run w1 = .ok () w2) :
    ∃ r, w.plain.rig? d = some r ∧ w2.plain.suspended = w.plain.suspended ∧
      w2.plain.rig? d = some ⟨{ r.device with countdown := n }, some (.custom code 0)⟩ ∧
      Attended w.config w.image.isSome d code w2.plain.suspended w2 := by
  obtain ⟨armed', seen⟩ :=
    (alike_setCountdown d n respond fun _ _ => throw .exhausted).run_plain h.seen armed
  obtain ⟨installed', -⟩ := (Alike.install d (some (.custom code 0))).run_plain seen installed
  -- both steps together are an interplay, which leaves the bench well formed
  have wellFormed : w2.WellFormed := by
    let start : Interplay κ μ Unit :=
      .ask d (.setCountdown n) fun _ => .install d (some code) (.done ())
    have run : (start.execute (fun _ _ _ => .done (.ok .resume)) 0).run w = .ok () w2 :=
      run_bind_eq_ok.2 ⟨x, w1, armed, run_bind_eq_ok.2 ⟨(), w2, installed, rfl⟩⟩
    exact h.execute run
  cases hr : w.plain.rig? d with
  | none =>
    have missing : (perform (fun _ _ => throw .exhausted) d (.setCountdown n)).run w.plain =
        .error (.noDevice d) w.plain := by
      rw [perform_direct _ d (r := .setCountdown n) rfl, run_on, hr]
    rw [missing] at armed'
    cases armed'
  | some r =>
    rw [run_setCountdown hr] at armed'
    simp only [EStateM.Result.ok.injEq] at armed'
    rw [← armed'.2, run_install, rig?_settle hr] at installed'
    simp only [EStateM.Result.ok.injEq, true_and] at installed'
    have hr2 : w2.plain.rig? d =
        some ⟨{ r.device with countdown := n }, some (.custom code 0)⟩ := by
      rw [← installed']
      exact rig?_set (rig?_settle hr _) _
    have config : w2.config = w.config := (congrArg Bench.config installed').symm
    have image : w2.image = w.image := (congrArg Bench.image installed').symm
    have attended := wellFormed.through (W := fun e => e = d) (A := IsCall code) fun e he =>
      ⟨_, he ▸ hr2, 0, rfl⟩
    rw [config, image] at attended
    exact ⟨r, rfl, (congrArg Bench.suspended installed').symm, hr2, attended⟩

/-- A program starts with a countdown and a callback on its device. -/
theorem follows_of_armed (h : w.WellFormed) {n : UInt32} {respond : Responder Counted Nat κ μ}
    {x : Except Failure Unit} {w1 w2 : Bench Counted Nat κ μ}
    (armed : (perform respond d (.setCountdown n)).run w = .ok x w1)
    (installed : (install d (some (.custom code 0))).run w1 = .ok () w2) (C : Counter → Prop) :
    ∃ r, w.plain.rig? d = some r ∧
      Follows w.config w.image.isSome C d code w2.plain.suspended ((w.plain.flash r).rearm n)
        w2 := by
  obtain ⟨r, hr, -, hr2, attended⟩ := attended_of_armed h armed installed
  exact ⟨r, hr, attended, attended.holds.config, ⟨rfl, attended.holds.image⟩, _, hr2, .refl C _,
    trivial⟩

/-- A program starts with the countdown of its device off. -/
theorem rests_of_disarmed (h : w.WellFormed) {r : Rig Block κ} (hr : w.plain.rig? d = some r)
    (n : UInt32) (respond : Responder Counted Nat κ μ) :
    ∃ x u, (perform respond d (.setCountdown 0)).run w = .ok x u ∧
      Rests w.config w.image.isSome d ((w.plain.flash r).rearm n) u := by
  have sound := h.devices hr
  have alike := alike_setCountdown (κ := κ) (μ := μ) d 0 respond fun _ _ => throw .exhausted
  obtain ⟨u, run, seen, same⟩ := alike.run_seen h.seen (run_setCountdown hr 0 _)
  refine ⟨_, u, run, seen, ?_⟩
  rw [same]
  exact ⟨rfl, ⟨rfl, rfl⟩, _, rig?_settle hr _, ⟨rfl, sound.slots, sound.synced⟩, trivial⟩

end Bench

/-- A program that first switches the countdown of its device off. -/
def Program.disarmed (p : Program κ μ α) : Program κ μ α := .ask (.setCountdown 0) fun _ => p

/-- A program that first sets the countdown of its device and installs a callback. -/
def Program.armed (n : UInt32) (code : κ) (p : Program κ μ α) : Program κ μ α :=
  .ask (.setCountdown n) fun _ => .install (some code) p

namespace Bench

/-- A loss of power that is resumed leaves no trace.

Every bench that can be reached from a new one is well formed. On a device of a well-formed bench,
whose blocks can be allocated, and whose image file, if there is one, takes what is written to it,
take any program that tells of blocks and draws and any countdown and callback that always resumes,
and may lose power itself. If the program comes to its end, it does so with the same answers while
the countdown is off; none of them reports a loss of power; and it leaves the same blocks and the
same generator, and the same values of all byte counters that the callback leaves alone. (An image
file that refuses to be written lets the update fail before the callback is asked, and nothing is
resumed then.) -/
theorem resumption :
    (∀ (cfg : Config) (memory : μ) (w v : Bench Counted Nat κ μ) (reactions : Reactions κ μ)
        (depth : Nat) (p : Interplay κ μ β) (b : β),
      create cfg memory = .ok w → (p.execute reactions depth).run w = .ok b v → v.WellFormed) ∧
    (∀ (w v : Bench Counted Nat κ μ) (d : Handle) (callbacks : Callbacks κ μ) (code : κ)
        (depth : Nat) (n : UInt32) (p : Program κ μ α) (log : List Program.Exchange) (a : α),
      w.WellFormed → w.config.geometry.blockSize < Config.allocationLimit →
      w.config.image ≠ .sealed → callbacks.Resume code → (p.Asks fun r => r.isTraceless) →
      (((p.logged []).armed n code).execute callbacks depth d).run w = .ok (log, a) v →
      ∃ u, ((p.logged []).disarmed.execute callbacks depth d).run w = .ok (log, a) u ∧
        (∀ x ∈ log, x.2 ≠ .error (.fault .powerLoss)) ∧
        ∃ D E, u.view d = some D ∧ v.view d = some E ∧ D.slots = E.slots ∧
          D.generator = E.generator ∧
          ∀ c, Uncounted callbacks depth code d c → c.get D = c.get E) := by
  constructor
  · intro cfg memory w v reactions depth p b made run
    exact (wellFormed_create made).execute run
  intro w v d callbacks code depth n p log a wellFormed limit taken hc hp run
  obtain ⟨_, w1, armed, rest⟩ := run_bind_eq_ok.1 run
  obtain ⟨_, w2, installed, rest⟩ := run_bind_eq_ok.1 rest
  -- with the countdown armed, the program does what it does on the device by itself
  obtain ⟨r, hr, follows⟩ :=
    follows_of_armed wellFormed armed installed (Uncounted callbacks depth code d)
  obtain ⟨same, followed⟩ := follows.program ⟨wellFormed.roomy limit, taken⟩ hc (fun _ => id)
    (hp.logged []) w.memory rest
  -- and so it does with the countdown off
  obtain ⟨x, u1, disarmed, rests⟩ :=
    rests_of_disarmed wellFormed hr n (respond callbacks depth)
  obtain ⟨u, quiet, rested⟩ := rests.program (respond callbacks depth) (hp.logged []) w.memory
  refine ⟨u, ?_, ?_, ?_⟩
  · rw [same]
    exact run_bind_eq_ok.2 ⟨x, u1, disarmed, quiet⟩
  · have none : ∀ x ∈ ([] : List Program.Exchange), x.2 ≠ .error (.fault .powerLoss) :=
      fun _ hx => absurd hx List.not_mem_nil
    have powered := Program.powered_logged w.config w.memory p none ((w.plain.flash r).rearm n)
    rw [← same] at powered
    exact powered
  · obtain ⟨s, hs, clock, -⟩ := rested.tracks.rig
    obtain ⟨t, ht, alike, -⟩ := followed.tracks.rig
    have alike := (clock.resembles _).trans alike
    exact ⟨s.device, t.device, by rw [view_eq, hs]; rfl, by rw [view_eq, ht]; rfl, alike.slots,
      alike.generator, fun _ hC => alike.counters hC⟩

/-- A new device of one block of two bytes, on which a crash leaves one bit of what it
interrupts. -/
def tornBench : Bench Counted Nat Unit Unit where
  config := { geometry := ⟨1, 1, 2, 1⟩, crash := .someBits }
  store := BlockStore.empty
  image := none
  rack := [some { device := Device.fresh Nat { geometry := ⟨1, 1, 2, 1⟩, crash := .someBits } }]
  memory := ()

/-- Programs a block and reads it. -/
def progThenRead : Program Unit Unit Unit :=
  .ask (.update (.prog 0 0 [1, 2])) fun _ => .ask (.read 0 0 2) fun _ => .done ()

/-- Erases the crashed block, and resumes. -/
def eraseThenResume : Callbacks Unit Unit := fun _ _ =>
  .ask (.update (.erase 0)) fun _ => .ask .copy fun _ => .done (.ok .resume)

theorem resumption_progThenRead :
    ∃ (v u : Bench Counted Nat Unit Unit) (log : List Program.Exchange),
      (((progThenRead.logged []).armed 1 ()).execute eraseThenResume 2 0).run tornBench =
        .ok (log, ()) v ∧
      ((progThenRead.logged []).disarmed.execute eraseThenResume 2 0).run tornBench =
        .ok (log, ()) u ∧
      ∀ x ∈ log, x.2 ≠ .error (.fault .powerLoss) := by
  have ends : (match (((progThenRead.logged []).armed 1 ()).execute eraseThenResume 2 0).run
      tornBench with
    | .ok .. => true
    | .error .. => false) = true := by decide +kernel
  have made : create (S := Counted) tornBench.config () = .ok tornBench := rfl
  cases ran : (((progThenRead.logged []).armed 1 ()).execute eraseThenResume 2 0).run tornBench with
  | error h v =>
    rw [ran] at ends
    cases ends
  | ok x v =>
    obtain ⟨log, a⟩ := x
    have resumes : eraseThenResume.Resume () := ⟨fun _ _ _ => rfl, fun _ _ _ => trivial⟩
    obtain ⟨u, quiet, powered, -⟩ := (resumption (β := Unit)).2 tornBench v 0 eraseThenResume () 2 1
      progThenRead log a (wellFormed_create made) (by decide) (by decide) resumes
      ⟨rfl, fun _ => ⟨rfl, fun _ => trivial⟩⟩ ran
    exact ⟨v, u, log, rfl, quiet, powered⟩

end Bench

end FaultyFlash
