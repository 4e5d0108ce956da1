import FaultyFlash.Proofs.Containment.OutOfOrder
import FaultyFlash.Proofs.Resumption.Traceless
import FaultyFlash.Proofs.Twins
import FaultyFlash.Proofs.Upkeep

/-!
# The last sync and losses of power that are resumed

A loss of power that is resumed brings back the blocks and the generator of its device. It does not
bring back the last sync, to which an out-of-order device returns when it loses power for good. If
the callback does not sync, the last sync is the program's own, and from then on the device cannot
be told from one that never lost power.

## Main definitions

* `Device.Akin T`: devices with equal blocks, generators and last syncs
* `Request.stored`: what an answer says of what is stored
* `Callbacks.Unsynced`: a callback that does not sync
* `Bench.Beside`: a device that may be interrupted, and one whose countdown is off
* `Program.unarmed`: a program that never switches the countdown on
* `Program.afresh`: a program that starts with a callback, a memory and a countdown of its own

## Main results

* `Bench.Upkeep.through`: what operations keep where nothing is shared
* `Bench.Beside.request`, `Bench.Beside.program`: programs keep devices akin
* `Bench.sync_points_stand`: losses of power that are resumed make no difference to later ones
-/

namespace FaultyFlash

open Flash (answered AlikeBy)

variable {κ μ α β : Type}

/-! ## Devices that crash alike -/

/-- Devices with equal blocks, generators and last syncs, whose countdowns are related by `T`. -/
structure Device.Akin (T : UInt32 → UInt32 → Prop) (D E : Device Block) : Prop where
  slots : D.slots = E.slots
  generator : D.generator = E.generator
  synced : D.synced = E.synced
  countdown : T D.countdown E.countdown

/-- The second of two countdowns is off. -/
def SecondOff (_ n : UInt32) : Prop := n = 0

theorem crashLikeness_akin (cfg : Config) (T : UInt32 → UInt32 → Prop) :
    CrashLikeness cfg (Device.Akin T) where
  slots h := h.slots
  generator h := h.generator
  set _ _ h _ := ⟨by simp only [h.slots], h.generator, h.synced, h.countdown⟩
  reseed _ h := ⟨h.slots, rfl, h.synced, h.countdown⟩
  tally c n h := by cases c <;> exact ⟨h.slots, h.generator, h.synced, h.countdown⟩
  sync h := ⟨h.slots, h.generator, by simp only [h.synced, h.slots], h.countdown⟩
  synced h := h.synced
  rollBack h _ _ _ := ⟨rfl, h.generator, h.synced, h.countdown⟩

theorem savedLikeness_akin (cfg : Config) : SavedLikeness cfg (Device.Akin Eq) where
  toCrashLikeness := crashLikeness_akin cfg Eq
  countdown h := h.countdown
  rearm _ h := ⟨h.slots, h.generator, h.synced, rfl⟩
  restore _ _ h := ⟨rfl, rfl, h.synced, h.countdown⟩

/-- An answer, but for what tells who shares a block, the byte counts, the countdown, or the image
file. -/
def Request.stored : Seen
  | .blockRefs _, x => x.map fun _ => 0
  | .counter _, x => x.map fun _ => 0
  | .countdown, x => x.map fun _ => 0
  | .image, x => x.map fun _ => none
  | _, x => x

theorem Request.stored_apartRefs (r : Request) (x : Except Failure r.Answer) :
    r.stored (r.apartRefs x) = r.stored x := by
  cases r <;> cases x <;> rfl

/-- Devices that are akin answer alike, as far as it concerns what is stored. -/
theorem Request.answered_akin {T : UInt32 → UInt32 → Prop} {cfg : Config} {imaged : Bool}
    {r : Request} (rearms : ∀ n, r = .setCountdown n → T n n) {f g : Flash Plain Block}
    (h : AlikeBy (Device.Akin T) imaged f g) :
    r.stored (answered (r.effect cfg) f).1 = r.stored (answered (r.effect cfg) g).1 ∧
      AlikeBy (Device.Akin T) imaged (answered (r.effect cfg) f).2
        (answered (r.effect cfg) g).2 := by
  have L : Flash.CrashLockstep cfg (AlikeBy (Device.Akin T) imaged)
      (Flash.OwnedBy (Device.Akin T) imaged) :=
    (crashLikeness_akin cfg T).lockstep
  have seen (kept : Preserves (AlikeBy (Device.Akin T) imaged) (r.effect cfg) (r.effect cfg)) :=
    (Flash.answered_of_preserves kept h).imp (congrArg r.stored) id
  by_cases basic : r.isBasic
  · exact seen (L.basic basic)
  cases r with
  | blockRefs block => exact seen (Flash.preserves_blockRefs (fun _ _ h => h.1.slots) cfg block)
  | update u => exact seen (L.uninterrupted u)
  | allocated =>
    refine ⟨?_, h⟩
    show Except.ok f.device.allocated = .ok g.device.allocated
    rw [Device.allocated, Device.allocated, h.1.slots]
  | counter | countdown | image | copy => exact ⟨rfl, h⟩
  | setCounter c value =>
    exact ⟨rfl, by cases c <;> exact ⟨h.1.slots, h.1.generator, h.1.synced, h.1.countdown⟩, h.2⟩
  | setCountdown n =>
    exact ⟨rfl, ⟨h.1.slots, h.1.generator, h.1.synced, rearms n rfl⟩, h.2⟩
  | _ => cases basic rfl

/-- How an update starts where power may be lost, and where it cannot be. -/
inductive Start.Spared (cfg : Config) (u : Update) :
    Except Failure Start → Except Failure Start → Prop where
  | refused (e : Failure) : Spared cfg u (.error e) (.error e)
  | ignored : Spared cfg u (.ok .ignored) (.ok .ignored)
  | proceeds (worn : Bool) : Spared cfg u (.ok (.proceed worn)) (.ok (.proceed worn))
  | lost (worn : Bool) (fits : u.Fits cfg) :
    Spared cfg u (.ok (.powerLost worn)) (.ok (.proceed worn))

/-- Updates start alike but for losses of power. -/
theorem Flash.start_akin {cfg : Config} {imaged : Bool} (u : Update) {f g : Flash Plain Block}
    (h : AlikeBy (Device.Akin SecondOff) imaged f g) :
    Start.Spared cfg u (answered (start cfg u) f).1 (answered (start cfg u) g).1 ∧
      AlikeBy (Device.Akin SecondOff) imaged (answered (start cfg u) f).2
        (answered (start cfg u) g).2 := by
  have permitted :
      Preserves (AlikeBy (Device.Akin SecondOff) imaged) (permit cfg u) (permit cfg u) :=
    (crashLikeness_akin cfg SecondOff).lockstep.permit u
  obtain ⟨same, alike, images⟩ := answered_of_preserves permitted h
  have fits {worn : Bool} (h : (answered (permit cfg u) f).1 = .ok (some worn)) : u.Fits cfg :=
    fits_of_permit (answered_eq_ok.1 (Prod.ext h rfl))
  have off : (answered (permit cfg u) g).2.device.countdown = 0 := alike.countdown
  rw [answered_start_eq, answered_start_eq, ← same, off]
  refine ⟨?_, ⟨alike.slots, alike.generator, alike.synced, left_zero _⟩, images⟩
  rcases hp : (answered (permit cfg u) f).1 with e | _ | worn
  · exact .refused e
  · exact .ignored
  · simp only [Except.map, Start.of, if_neg (by decide : (0 : UInt32) ≠ 1)]
    split
    · exact .lost worn (fits hp)
    · exact .proceeds worn

/-! ## Callbacks that do not sync -/

/-- A callback asks for no sync, and leaves itself in its place. -/
def Callbacks.Unsynced (callbacks : Callbacks κ μ) (code : κ) : Prop :=
  ∀ calls, (callbacks code calls).Abides (· ≠ .sync) (fun _ => False) (fun _ => True) fun _ => True

/-- Of a program that only asks, nothing is to be shown but what it asks. -/
theorem Program.Asks.abides {ok : Request → Prop} {p : Program κ μ α} (h : p.Asks ok)
    {A : Option κ → Prop} {F : Failure → Prop} : p.Abides ok A F fun _ => True := by
  induction p with
  | done a => exact trivial
  | ask r next ih => exact ⟨h.1, fun x _ => ih x (h.2 x)⟩
  | install | getMemory | setMemory => exact h.elim

namespace Bench

/-! ### Properties of the bench as it is seen -/

/-- A bench is seen as one with a property, and its store counts every reference. -/
def SeenWith (I : Bench Plain Block κ μ → Prop) (w : Bench Counted Nat κ μ) : Prop :=
  SeenAs w w.plain ∧ I w.plain

variable {I : Bench Plain Block κ μ → Prop}

/-- What keeps a property where nothing is shared keeps it of the bench as it is seen. -/
theorem Alike.upholdsBy (see : α → β) {m : BenchM Counted Nat κ μ α}
    {m' : BenchM Plain Block κ μ α} (alike : Alike (see <$> m) (see <$> m')) {Q : α → Prop}
    (kept : Upholds I m' Q) (hQ : ∀ a b, see b = see a → Q b → Q a) :
    Upholds (Bench.SeenWith I) m Q := by
  rintro w a v ⟨seen, hw⟩ run
  obtain ⟨plain, seen⟩ := alike.run_plain seen (run_map_eq_ok.2 ⟨a, run, rfl⟩)
  obtain ⟨b, run', same⟩ := run_map_eq_ok.1 plain
  obtain ⟨hv, hb⟩ := kept _ _ _ hw run'
  exact ⟨⟨seen, hv⟩, hQ a b same hb⟩

theorem Alike.upholds {m : BenchM Counted Nat κ μ α} {m' : BenchM Plain Block κ μ α}
    (alike : Alike m m') {Q : α → Prop} (kept : Upholds I m' Q) : Upholds (Bench.SeenWith I) m Q :=
  Alike.upholdsBy id (by simpa only [id_map] using alike) kept fun a b (same : b = a) hb =>
    same ▸ hb

/-- Operations on a device keep of a bench as it is seen what they keep where nothing is shared. -/
theorem Upkeep.through {ok : Request → Prop} {A : Option (Handler κ) → Prop} {F : Failure → Prop}
    {d : Handle} (K : Upkeep ok A F d I) : Upkeep ok A F d (Bench.SeenWith I) where
  start u := Alike.upholds (SeenAs.lockstep.start (i := ()) rfl u) (K.start u)
  complete worn u :=
    Alike.upholds (SeenAs.lockstep.complete (i := ()) rfl worn u) (K.complete worn u)
  crash u := Alike.upholds (SeenAs.lockstep.crash (i := ()) rfl u) (K.crash u)
  direct {r} h hr := by
    have alike := Alike.direct (κ := κ) (μ := μ) d hr (fun _ _ => throw .exhausted) fun _ _ =>
      throw .exhausted
    rw [perform_direct _ d hr, perform_direct _ d hr] at alike
    refine Alike.upholdsBy r.apartRefs alike (K.direct h hr) fun x y same hy e failed => ?_
    subst failed
    refine hy e ?_
    cases r <;> cases y <;> first | exact same | cases same
  copy := Alike.upholds (Alike.copy d) K.copy
  fork h := Alike.upholds (Alike.fork d) (K.fork h)
  suspend := Alike.upholds (Alike.suspend d) K.suspend
  discard := Alike.upholds Alike.discard K.discard
  resume := Alike.upholds (Alike.resume d) K.resume
  memory m h := ⟨⟨rfl, h.1.counts⟩, K.memory m h.2⟩
  callback h hr := K.callback h.2 (plain_of_rig? hr)
  install h := Alike.upholds (Alike.install d _) (K.install h)
  next h := K.next h
  unattended := K.unattended

/-- A device has a last sync, and carries the callback `code`. -/
abbrev SyncedAt (d : Handle) (code : κ) (s : Option (Slots Block)) :
    Bench Plain Block κ μ → Prop :=
  Carries d fun r => r.device.synced = s ∧ IsCall code r.callback

/-- Nothing but syncs changes the last sync. -/
theorem SyncedAt.upkeep (d : Handle) (code : κ) (s : Option (Slots Block)) :
    Upkeep (· ≠ .sync) (IsCall code) (fun _ => True) d (SyncedAt (μ := μ) d code s) := by
  have kept {γ : Type} {op : Config → FlashM Plain Block γ}
      (leaves : ∀ cfg, Flash.KeepsSync (op cfg)) :
      Lasts (κ := κ) (fun r => r.device.synced = s ∧ IsCall code r.callback) op
        (FailsBy fun _ => True) :=
    Lasts.of_leaves (fun _ _ same hr => ⟨same.trans hr.1, hr.2⟩) leaves fun _ _ _ _ => trivial
  refine Carries.upkeep (fun u => kept fun cfg => .start cfg u)
    (fun worn u => kept fun cfg => .complete cfg worn u) (fun u => kept fun cfg => .crash cfg u)
    (fun slots g => kept fun cfg => .restore cfg slots g)
    (fun r other => kept fun cfg => .effect cfg other) (fun forks => ?_) (fun _ hr => hr.2)
    (fun _ _ call hr => ⟨hr.1, call⟩) ?_ (fun _ => trivial) trivial
  · obtain ⟨_, fork⟩ := forks
    cases fork
  · rintro _ calls ⟨_, call⟩
    cases call
    exact ⟨calls + 1, rfl⟩

/-- A callback that does not sync keeps the last sync. -/
theorem SyncedAt.responds {callbacks : Callbacks κ μ} {code : κ} (quiet : callbacks.Unsynced code)
    (d : Handle) (s : Option (Slots Block)) (depth : Nat) (handler : Handler κ)
    (call : IsCall code (some handler)) :
    Upholds (Bench.SeenWith (SyncedAt d code s)) (respond callbacks depth handler d)
      (Verdict.By fun _ => True) := by
  refine (SyncedAt.upkeep d code s).through.responds (B := fun _ => False) (fun _ none => none.elim)
    (fun c calls call => ?_) depth handler call
  obtain ⟨_, call⟩ := call
  cases call
  exact (quiet calls).mono fun _ _ => ⟨fun _ _ => trivial, fun _ => trivial⟩

/-! ## Devices that may be interrupted beside devices that may not -/

variable {cfg : Config} {imaged : Bool} {d : Handle} {code : κ} {aside : List (Suspension Block)}
  {v u v' : Bench Counted Nat κ μ}

/-- On the first of two sound benches a device carries the callback `code`, on the second its
countdown is off. Otherwise the devices are akin, and the same is set aside. -/
structure Beside (cfg : Config) (imaged : Bool) (d : Handle) (code : κ)
    (aside : List (Suspension Block)) (v u : Bench Counted Nat κ μ) : Prop where
  attended : Attended cfg imaged d code aside v
  seen : SeenAs u u.plain
  twins : Twins (Device.Akin SecondOff) (fun _ _ => True) (fun a b => a.1 = b.1) cfg imaged d d
    v.plain u.plain

namespace Beside

/-- Operations on the two devices answer as on the devices themselves, as far as it is seen. -/
theorem on (see : Except Failure α → β) {A : β → β → Prop}
    {op op₂ : Config → FlashM Counted Nat α} {op' op₂' : Config → FlashM Plain Block α}
    (alike : Alike (κ := κ) (μ := μ) (see <$> Bench.on d op) (see <$> Bench.on d op'))
    (alike₂ : Alike (κ := κ) (μ := μ) (see <$> Bench.on d op₂) (see <$> Bench.on d op₂'))
    (kept : Keeps
      (Through (StaysSound (κ := κ) (μ := μ) cfg imaged (fun e => e = d) (IsCall code) aside))
      (Bench.on d op) (Bench.on d op))
    (ha : ∀ f g, AlikeBy (Device.Akin SecondOff) imaged f g →
      A (see (answered (op' cfg) f).1) (see (answered (op₂' cfg) g).1) ∧
        AlikeBy (Device.Akin SecondOff) imaged (answered (op' cfg) f).2 (answered (op₂' cfg) g).2)
    (h : Beside cfg imaged d code aside v u) {x : Except Failure α}
    (run : (Bench.on d op).run v = .ok x v') :
    ∃ y u', (Bench.on d op₂).run u = .ok y u' ∧ A (see x) (see y) ∧
      Beside cfg imaged d code aside v' u' := by
  obtain ⟨x', y', w, w', run', run₂', agree, twins⟩ :=
    h.twins.answers (A := fun x y => A (see x) (see y)) ha
  -- the first bench as it is seen takes the same step
  obtain ⟨plain, -⟩ := alike.run_plain h.attended.seen (run_map_eq_ok.2 ⟨x, run, rfl⟩)
  obtain ⟨_, plain, same⟩ := run_map_eq_ok.1 plain
  rw [run'] at plain
  cases plain
  -- and the step of the second as it is seen is one of the second
  obtain ⟨u', run₂, seen, rfl⟩ := alike₂.run_seen h.seen (run_map_eq_ok.2 ⟨y', run₂', rfl⟩)
  obtain ⟨y, run₂, same₂⟩ := run_map_eq_ok.1 run₂
  have attended := kept v v h.attended
  rw [run] at attended
  rw [same, ← same₂] at agree
  exact ⟨y, u', run₂, agree, attended.2, seen, twins⟩

/-- A request that is performed by one operation is answered alike. -/
theorem direct {r : Request} (hr : r.isDirect) (untimed : r.isUntimed)
    {respond respond' : Responder Counted Nat κ μ} (h : Beside cfg imaged d code aside v u)
    {x : Except Failure r.Answer} (run : (perform respond d r).run v = .ok x v') :
    ∃ y u', (perform respond' d r).run u = .ok y u' ∧ r.stored x = r.stored y ∧
      Beside cfg imaged d code aside v' u' := by
  have alike := Alike.direct (κ := κ) (μ := μ) d hr respond fun _ _ => throw .exhausted
  have kept := (attended_lockstep (κ := κ) (μ := μ) cfg imaged d code).direct (i := aside)
    ⟨rfl, rfl⟩ hr respond respond
  simp only [id_map', perform_direct _ d hr] at alike kept run ⊢
  -- a request of the countdown would tell the devices apart, but is not meant here
  have timed (n : UInt32) (same : r = .setCountdown n) : SecondOff n n := by
    subst same
    cases untimed
  obtain ⟨y, u', run', same, beside⟩ := h.on r.apartRefs (A := fun x y => r.stored x = r.stored y)
    alike alike kept (fun f g hfg => by
      rw [r.stored_apartRefs, r.stored_apartRefs]
      exact Request.answered_akin timed hfg) run
  rw [r.stored_apartRefs, r.stored_apartRefs] at same
  exact ⟨y, u', run', same, beside⟩

/-- The countdown of the first device is set, and that of the second switched off. -/
theorem rearm (h : Beside cfg imaged d code aside v u) (n : UInt32)
    {respond : Responder Counted Nat κ μ} (respond' : Responder Counted Nat κ μ)
    {x : Except Failure Unit} (run : (perform respond d (.setCountdown n)).run v = .ok x v') :
    ∃ u', (perform respond' d (.setCountdown 0)).run u = .ok x u' ∧
      Beside cfg imaged d code aside v' u' := by
  have sets (n : UInt32) : Alike (κ := κ) (μ := μ) (Bench.on d (Request.setCountdown n).effect)
      (Bench.on d (Request.setCountdown n).effect) :=
    alike_setCountdown d n respond fun _ _ => throw .exhausted
  have alike (n : UInt32) := Coupled.map id (sets n)
  have kept := (attended_lockstep (κ := κ) (μ := μ) cfg imaged d code).direct (i := aside)
    ⟨rfl, rfl⟩ (r := .setCountdown n) rfl respond respond
  rw [id_map', perform_direct respond d (r := .setCountdown n) rfl] at kept
  rw [perform_direct respond d (r := .setCountdown n) rfl] at run
  have agree (f g : Flash Plain Block) (hfg : AlikeBy (Device.Akin SecondOff) imaged f g) :
      (answered ((Request.setCountdown n).effect cfg) f).1 =
          (answered ((Request.setCountdown 0).effect cfg) g).1 ∧
        AlikeBy (Device.Akin SecondOff) imaged (answered ((Request.setCountdown n).effect cfg) f).2
          (answered ((Request.setCountdown 0).effect cfg) g).2 :=
    ⟨rfl, ⟨hfg.1.slots, hfg.1.generator, hfg.1.synced, rfl⟩, hfg.2⟩
  obtain ⟨y, u', run', rfl, beside⟩ := h.on id (A := fun x y => x = y) (alike n) (alike 0) kept
    agree run
  exact ⟨u', run', beside⟩

/-- The rest of an update that power was not lost for, or that was resumed. -/
theorem complete (worn : Bool) (U : Update) (h : Beside cfg imaged d code aside v u)
    {x : Except Failure Unit} (run : (Bench.on d (Flash.complete · worn U)).run v = .ok x v') :
    ∃ u', (Bench.on d (Flash.complete · worn U)).run u = .ok x u' ∧
      Beside cfg imaged d code aside v' u' := by
  have completed : Alike (κ := κ) (μ := μ) (Bench.on d (Flash.complete · worn U))
      (Bench.on d (Flash.complete · worn U)) :=
    SeenAs.lockstep.complete (i := ()) rfl worn U
  have alike := Coupled.map id completed
  have kept := (attended_lockstep (κ := κ) (μ := μ) cfg imaged d code).complete (i := aside)
    ⟨rfl, rfl⟩ worn U
  have agree (f g : Flash Plain Block) (hfg : AlikeBy (Device.Akin SecondOff) imaged f g) :=
    Flash.answered_of_preserves ((crashLikeness_akin cfg SecondOff).lockstep.complete worn U) hfg
  obtain ⟨y, u', run', rfl, beside⟩ := h.on id (A := fun x y => x = y) alike alike kept agree run
  exact ⟨u', run', beside⟩

/-- After a loss of power that is resumed the devices are akin as before. -/
theorem interrupt (h : Beside cfg imaged d code aside v u) (able : cfg.Able) {U : Update}
    (fits : U.Fits cfg) {callbacks : Callbacks κ μ} (hc : callbacks.Resume code)
    (quiet : callbacks.Unsynced code) {depth : Nat} {x : Except Failure Unit}
    (run : (interrupt (respond callbacks depth) d U).run v = .ok x v') :
    x = .ok () ∧ Beside cfg imaged d code aside v' u := by
  obtain ⟨r, s, hr, hs, akin, -⟩ := h.twins.rigs
  obtain ⟨_, same, call⟩ := h.attended.holds.watched rfl
  cases hr.symm.trans same
  obtain ⟨rfl, attended, t, ht, back⟩ :=
    interrupt_resumes h.attended able fits hc hr run
  -- the last sync is not set aside, so the callback must leave it
  obtain ⟨⟨-, t', ht', synced, -⟩, -⟩ := (SyncedAt.upkeep d code r.device.synced).through.interrupt
    (SyncedAt.responds quiet d r.device.synced depth) U v _ v'
    ⟨h.attended.seen, r, hr, rfl, call⟩ run
  cases ht.symm.trans ht'
  refine ⟨rfl, attended, h.seen, ⟨attended.holds.config, h.twins.config.2⟩,
    ⟨attended.holds.image, h.twins.image.2⟩, ⟨t, s, ht, hs, ?_, trivial⟩, ?_⟩
  · exact ⟨back.slots.symm.trans akin.slots, back.generator.symm.trans akin.generator,
      synced.trans akin.synced, akin.countdown⟩
  · exact (attended.holds.suspended.trans h.attended.holds.suspended.symm).trans h.twins.rest

/-- An update is performed alike, whether it is interrupted or not. -/
theorem update (h : Beside cfg imaged d code aside v u) (able : cfg.Able)
    {callbacks : Callbacks κ μ} (hc : callbacks.Resume code) (quiet : callbacks.Unsynced code)
    {depth : Nat} {respond' : Responder Counted Nat κ μ} {U : Update} {x : Except Failure Unit}
    (run : (update (respond callbacks depth) d U).run v = .ok x v') :
    ∃ u', (Bench.update respond' d U).run u = .ok x u' ∧ Beside cfg imaged d code aside v' u' := by
  obtain ⟨started, w, startRun, rest⟩ := run_bind_eq_ok.1 run
  have starts : Alike (κ := κ) (μ := μ) (Bench.on d (Flash.start · U))
      (Bench.on d (Flash.start · U)) :=
    SeenAs.lockstep.start (i := ()) rfl U
  have alike := Coupled.map id starts
  have kept := (attended_lockstep (κ := κ) (μ := μ) cfg imaged d code).start (i := aside)
    ⟨rfl, rfl⟩ U
  obtain ⟨started', u1, startRun', spared, h1⟩ := h.on id (A := Start.Spared cfg U) alike alike kept
    (fun _ _ => Flash.start_akin U) startRun
  cases spared with
  | refused e =>
    cases rest
    exact ⟨u1, run_bind_eq_ok.2 ⟨_, u1, startRun', rfl⟩, h1⟩
  | ignored =>
    cases rest
    exact ⟨u1, run_bind_eq_ok.2 ⟨_, u1, startRun', rfl⟩, h1⟩
  | proceeds worn =>
    obtain ⟨u', completed, beside⟩ := h1.complete worn U rest
    exact ⟨u', run_bind_eq_ok.2 ⟨_, u1, startRun', completed⟩, beside⟩
  | lost worn fits =>
    -- power is lost on the first bench alone, and the callback brings the device back
    obtain ⟨y, w2, interruptRun, rest⟩ := run_bind_eq_ok.1 rest
    obtain ⟨rfl, h2⟩ := h1.interrupt able fits hc quiet interruptRun
    obtain ⟨u', completed, beside⟩ := h2.complete worn U rest
    exact ⟨u', run_bind_eq_ok.2 ⟨_, u1, startRun', completed⟩, beside⟩

theorem copy (h : Beside cfg imaged d code aside v u) {respond respond' : Responder Counted Nat κ μ}
    {x : Except Failure Unit} (run : (perform respond d .copy).run v = .ok x v') :
    ∃ u', (perform respond' d .copy).run u = .ok x u' ∧ Beside cfg imaged d code aside v' u' := by
  have alike (respond : Responder Counted Nat κ μ) :
      Alike (perform respond d .copy) (perform (fun _ _ => throw .exhausted) d .copy) :=
    SeenAs.lockstep.copy (i := ()) rfl respond _
  obtain ⟨plain, -⟩ := (alike respond).run_plain h.attended.seen run
  have both := Twins.copy (fun _ _ => throw .exhausted) (fun _ _ => throw .exhausted) _ _ h.twins
  rw [plain] at both
  obtain ⟨t, plain', twins⟩ := both.ok_left
  obtain ⟨u', run', seen, rfl⟩ := (alike respond').run_seen h.seen plain'
  have attended := (attended_lockstep (κ := κ) (μ := μ) cfg imaged d code).copy (i := aside)
    ⟨rfl, rfl⟩ respond respond v v h.attended
  rw [run] at attended
  exact ⟨u', run', attended.2, seen, twins⟩

/-- A request is answered alike, as far as it concerns what is stored. -/
theorem request (h : Beside cfg imaged d code aside v u) (able : cfg.Able)
    {callbacks : Callbacks κ μ} (hc : callbacks.Resume code) (quiet : callbacks.Unsynced code)
    {depth : Nat} (respond' : Responder Counted Nat κ μ) {r : Request} (untimed : r.isUntimed)
    {x : Except Failure r.Answer} (run : (perform (respond callbacks depth) d r).run v = .ok x v') :
    ∃ y u', (perform respond' d r).run u = .ok y u' ∧ r.stored x = r.stored y ∧
      Beside cfg imaged d code aside v' u' := by
  by_cases hr : r.isDirect
  · exact h.direct hr untimed run
  cases r with
  | update U =>
    obtain ⟨u', run', beside⟩ := h.update able hc quiet run
    exact ⟨x, u', run', rfl, beside⟩
  | copy =>
    obtain ⟨u', run', beside⟩ := h.copy run
    exact ⟨x, u', run', rfl, beside⟩
  | _ => exact absurd rfl hr

end Beside

end Bench

/-- The same program, but it switches the countdown off wherever it would set it. -/
def Program.unarmed : Program κ μ α → Program κ μ α
  | .done a => .done a
  | .ask (.setCountdown _) next => .ask (.setCountdown 0) fun x => (next x).unarmed
  | .ask r next => .ask r fun x => (next x).unarmed
  | .install callback next => .install callback next.unarmed
  | .getMemory next => .getMemory fun m => (next m).unarmed
  | .setMemory m next => .setMemory m next.unarmed

theorem Program.unarmed_ask {r : Request} (untimed : r.isUntimed)
    (next : Except Failure r.Answer → Program κ μ α) :
    (Program.ask r next).unarmed = .ask r fun x => (next x).unarmed := by
  cases r <;> first | rfl | cases untimed

namespace Bench

variable {cfg : Config} {imaged : Bool} {d : Handle} {code : κ} {aside : List (Suspension Block)}
  {v u v' : Bench Counted Nat κ μ}

/-- A program that is interrupted does what it does where power is never lost. -/
theorem Beside.program (able : cfg.Able) {callbacks : Callbacks κ μ} (hc : callbacks.Resume code)
    (quiet : callbacks.Unsynced code) {depth : Nat} (respond' : Responder Counted Nat κ μ)
    {p : Program κ μ α} (asks : p.Asks fun _ => True) (blind : p.Blind Request.stored)
    (h : Beside cfg imaged d code aside v u) {a : α}
    (run : (p.run (respond callbacks depth) d).run v = .ok a v') :
    ∃ u', (p.unarmed.run respond' d).run u = .ok a u' ∧ Beside cfg imaged d code aside v' u' := by
  induction p generalizing v u with
  | done b =>
    cases run
    exact ⟨u, rfl, h⟩
  | ask r next ih =>
    obtain ⟨x, t, asked, rest⟩ := run_bind_eq_ok.1 run
    by_cases untimed : r.isUntimed
    · obtain ⟨y, u1, asked', same, beside⟩ :=
        h.request able hc quiet respond' untimed asked
      -- the program does not tell the two answers apart
      have goesOn : next x = next y := by rw [blind.1 x, same, ← blind.1 y]
      obtain ⟨u', run', beside⟩ := ih y (asks.2 y) (blind.2 y) beside (goesOn ▸ rest)
      rw [Program.unarmed_ask untimed]
      exact ⟨u', run_bind_eq_ok.2 ⟨y, u1, asked', run'⟩, beside⟩
    · -- where the one program sets the countdown, the other switches it off
      cases r with
      | setCountdown n =>
        obtain ⟨u1, asked', beside⟩ := h.rearm n respond' asked
        obtain ⟨u', run', beside⟩ := ih x (asks.2 x) (blind.2 x) beside rest
        exact ⟨u', run_bind_eq_ok.2 ⟨x, u1, asked', run'⟩, beside⟩
      | _ => exact absurd rfl untimed
  | install | getMemory | setMemory => exact asks.elim

/-- A program starts with a countdown and a callback on its device, or with the countdown off. -/
theorem beside_of_armed {w w1 w2 : Bench Counted Nat κ μ} (h : w.WellFormed) {n : UInt32}
    {respond : Responder Counted Nat κ μ} {x : Except Failure Unit}
    (armed : (perform respond d (.setCountdown n)).run w = .ok x w1)
    (installed : (install d (some (.custom code 0))).run w1 = .ok () w2)
    (respond' : Responder Counted Nat κ μ) :
    ∃ y u, (perform respond' d (.setCountdown 0)).run w = .ok y u ∧
      Beside w.config w.image.isSome d code w2.plain.suspended w2 u := by
  obtain ⟨r, hr, suspended, hr2, attended⟩ := attended_of_armed h armed installed
  have sets : Alike (perform respond' d (.setCountdown 0))
      (perform (fun _ _ => throw .exhausted) d (.setCountdown 0)) :=
    alike_setCountdown d 0 respond' _
  obtain ⟨u, run, seen, same⟩ := sets.run_seen h.seen (run_setCountdown hr 0 _)
  refine ⟨_, u, run, attended, seen, ?_⟩
  rw [same]
  exact ⟨⟨attended.holds.config, rfl⟩, ⟨attended.holds.image, rfl⟩,
    ⟨_, _, hr2, rig?_settle hr _, ⟨rfl, rfl, rfl, rfl⟩, trivial⟩, suspended⟩

end Bench

/-! ## What comes after -/

/-- A program that starts with a callback or none, with a memory and with a countdown of its own. -/
def Program.afresh (callback : Option κ) (m : μ) (n : UInt32) (p : Program κ μ α) : Program κ μ α :=
  .install callback (.setMemory m (.ask (.setCountdown n) fun _ => p))

namespace Bench

variable {cfg : Config} {imaged : Bool} {d : Handle} {code : κ} {aside : List (Suspension Block)}
  {v u : Bench Counted Nat κ μ}

/-- Devices that are akin and count down together are in lockstep, as far as answers concern what is
stored. -/
theorem akin_lockstep (cfg : Config) (imaged : Bool) (d : Handle) :
    Lockstep (fun _ _ : Unit => True) (fun a b => a = d ∧ b = d) (fun _ => True) Request.stored
      fun _ => Twins (κ := κ) (μ := μ) (Device.Akin Eq) Eq Eq cfg imaged d d :=
  Twins.lockstep (savedLikeness_akin cfg) fun r _ => (Twins.onSeen r.stored fun _ _ =>
    Request.answered_akin fun _ _ => rfl).mayFail

/-- Where nothing is shared, a program that starts afresh cannot tell the two devices apart. -/
theorem afresh_agree {callbacks : Callbacks κ μ}
    (hc : ∀ code calls, (callbacks code calls).Blind Request.stored) (depth : Nat)
    {p : Program κ μ α} (hp : p.Blind Request.stored) (callback : Option κ) (m : μ) (n : UInt32) :
    Coupled (Twins (Device.Akin SecondOff) (fun _ _ => True) (fun a b => a.1 = b.1) cfg imaged d d)
      ((p.afresh callback m n).execute callbacks depth d)
      ((p.afresh callback m n).execute callbacks depth d)
      (fun _ => Twins (Device.Akin Eq) Eq Eq cfg imaged d d) fun _ _ => True := by
  have rearmed : Coupled (Twins (κ := κ) (μ := μ) (Device.Akin SecondOff) Eq Eq cfg imaged d d)
      (Bench.on d (Request.setCountdown n).effect) (Bench.on d (Request.setCountdown n).effect)
      (fun _ => Twins (Device.Akin Eq) Eq Eq cfg imaged d d) fun _ _ => True := by
    have agree (f g : Flash Plain Block) (hfg : AlikeBy (Device.Akin SecondOff) imaged f g) :
        id (answered ((Request.setCountdown n).effect cfg) f).1 =
            id (answered ((Request.setCountdown n).effect cfg) g).1 ∧
          AlikeBy (Device.Akin Eq) imaged (answered ((Request.setCountdown n).effect cfg) f).2
            (answered ((Request.setCountdown n).effect cfg) g).2 :=
      ⟨rfl, ⟨hfg.1.slots, hfg.1.generator, hfg.1.synced, rfl⟩, hfg.2⟩
    have sets : Coupled (Twins (κ := κ) (μ := μ) (Device.Akin SecondOff) Eq Eq cfg imaged d d)
        (id <$> Bench.on d (Request.setCountdown n).effect)
        (id <$> Bench.on d (Request.setCountdown n).effect)
        (fun _ => Twins (Device.Akin Eq) Eq Eq cfg imaged d d) fun _ _ => False :=
      Twins.onSeen id agree
    simp only [id_map] at sets
    exact sets.mayFail
  -- callback, memory and countdown become equal in turn, and then the devices are in lockstep
  refine (Twins.install (rfl : callback.map (Handler.custom · 0) = _)).mayFail.bind fun _ => ?_
  refine (Twins.setMemory fun a b same => Prod.ext same rfl).mayFail.bind fun _ => ?_
  exact rearmed.bind fun _ => (akin_lockstep cfg imaged d).execute (i := ()) ⟨rfl, rfl⟩ hc depth hp

/-- What comes of losses of power later does not depend on the earlier ones. -/
theorem Beside.afresh (h : Beside cfg imaged d code aside v u) {callbacks : Callbacks κ μ}
    (hc : ∀ code calls, (callbacks code calls).Blind Request.stored) (depth : Nat)
    {p : Program κ μ α} (hp : p.Blind Request.stored) (callback : Option κ) (m : μ) (n : UInt32) :
    ResultsAgree (fun _ v' u' => ∃ D E, v'.view d = some D ∧ u'.view d = some E ∧
        D.Akin Eq E) (fun _ _ => True)
      (((p.afresh callback m n).execute callbacks depth d).run v)
      (((p.afresh callback m n).execute callbacks depth d).run u) := by
  have hc' code calls := (hc code calls).mono Request.stored_apartRefs
  have hp' : (p.afresh callback m n).Blind Request.apartRefs :=
    ⟨fun _ => rfl, fun _ => hp.mono Request.stored_apartRefs⟩
  -- each bench does what the bench as it is seen does, and these two do the same
  have left := SeenAs.lockstep.execute (i := ()) (rfl : d = d) hc' depth hp' v v.plain
    h.attended.seen
  have right := SeenAs.lockstep.execute (i := ()) (rfl : d = d) hc' depth hp' u u.plain h.seen
  have across := afresh_agree hc depth hp callback m n v.plain u.plain h.twins
  refine ((left.trans across).trans right.symm).mono ?_ fun _ _ _ => trivial
  rintro a v' u' ⟨t', ⟨t, seen, twins⟩, seen'⟩
  obtain ⟨r, s, hr, hs, akin, -⟩ := twins.rigs
  obtain rfl := seen.seen
  obtain rfl := seen'.seen
  exact ⟨_, _, view_of_plain hr, view_of_plain hs, akin⟩

/-! ## The last sync -/

variable {callbacks : Callbacks κ μ} {depth : Nat} {w w1 w2 t t' : Bench Counted Nat κ μ}

/-- A sync takes the blocks as they are. -/
theorem synced_of_sync (h : Attended cfg imaged d code aside t)
    {respond : Responder Counted Nat κ μ} {x : Except Failure Unit}
    (run : (perform respond d .sync).run t = .ok x t') :
    ∃ D, t.view d = some D ∧
      Bench.SeenWith (SyncedAt d code (D.synced.map fun _ => D.slots)) t' := by
  obtain ⟨r, hr, call⟩ := h.holds.watched rfl
  have syncs : Alike (κ := κ) (μ := μ) (Bench.on d (Request.sync.effect))
      (Bench.on d (Request.sync.effect)) :=
    Alike.on d fun cfg _ _ => Alike.effect cfg nofun
  obtain ⟨plain, seen⟩ := syncs.run_plain h.seen run
  have synced : answered (Request.sync.effect t.plain.config) (t.plain.flash r) = _ :=
    Flash.answered_eq_ok.2 (Flash.run_sync_plain _)
  rw [run_on_answered hr, synced] at plain
  simp only [EStateM.Result.ok.injEq] at plain
  refine ⟨r.device, view_of_plain hr, seen, ?_⟩
  rw [← plain.2]
  exact ⟨_, rig?_settle hr _, rfl, call⟩

/-- A program that does not sync keeps the last sync. -/
theorem synced_of_program (quiet : callbacks.Unsynced code) {s : Option (Slots Block)}
    {p : Program κ μ α} (asks : p.Asks (· ≠ .sync)) (h : Bench.SeenWith (SyncedAt d code s) t)
    {a : α} (run : (p.run (respond callbacks depth) d).run t = .ok a t') :
    ∃ E, t'.view d = some E ∧ E.synced = s := by
  have kept := (SyncedAt.upkeep d code s).through.program (B := fun _ => False)
    (SyncedAt.responds quiet d s depth) (fun _ none => none.elim) asks.abides
  obtain ⟨⟨-, r, hr, synced, -⟩, -⟩ := kept t a t' h run
  exact ⟨r.device, view_of_plain hr, synced⟩

/-- Losses of power that are resumed make no difference to those that come later.

Every bench that can be reached from a new one is well formed, and if it is one of out-of-order
devices, these remember a last sync. On a well-formed bench take any program that asks of one device
whatever it likes, and switches its countdown on whenever it likes, and any callback that always
resumes, does what it likes but sync, and may lose power itself. The last sync of the device is then
that of the program: the blocks as they were then, or the last sync that there was if the program
never syncs. If blocks can be allocated, the image file, if there is one, takes what is written to
it, and the program looks only at what is stored, it does the same while the countdown is always
off, and it leaves the same blocks, the same generator and the same last sync. So whatever is done
to the device afterwards, with any callback or none and any countdown, and whatever power is lost on
the way and not resumed, comes to the same, as far as it concerns what is stored, and leaves the
same blocks. -/
theorem sync_points_stand :
    (∀ (cfg : Config) (memory : μ) (w v : Bench Counted Nat κ μ) (reactions : Reactions κ μ)
        (depth : Nat) (p : Interplay κ μ α) (a : α),
      create cfg memory = .ok w → (p.execute reactions depth).run w = .ok a v →
      v.WellFormed ∧
        (cfg.crash = .outOfOrder → ∀ d D, v.view d = some D → D.synced.isSome)) ∧
    (∀ (w v : Bench Counted Nat κ μ) (d : Handle) (callbacks : Callbacks κ μ) (code : κ)
        (depth : Nat) (n : UInt32),
      w.WellFormed → callbacks.Resume code → callbacks.Unsynced code →
      (∀ (p : Program κ μ α) (a : α), (p.Asks (· ≠ .sync)) →
        ((p.armed n code).execute callbacks depth d).run w = .ok a v →
        ∃ D E, w.view d = some D ∧ v.view d = some E ∧ E.synced = D.synced) ∧
      ∀ (p : Program κ μ α) (q : α → Program κ μ β) (b : β), (p.Asks fun _ => True) →
        (∀ a, (q a).Asks (· ≠ .sync)) →
        (((p.bind fun a => .ask .sync fun _ => q a).armed n code).execute callbacks depth d).run w =
          .ok b v →
        ∃ a t D E, ((p.armed n code).execute callbacks depth d).run w = .ok a t ∧
          t.view d = some D ∧ v.view d = some E ∧ E.synced = D.synced.map fun _ => D.slots) ∧
    (∀ (w v : Bench Counted Nat κ μ) (d : Handle) (callbacks : Callbacks κ μ) (code : κ)
        (depth : Nat) (n : UInt32) (p : Program κ μ α) (a : α),
      w.WellFormed → w.config.geometry.blockSize < Config.allocationLimit →
      w.config.image ≠ .sealed → callbacks.Resume code → callbacks.Unsynced code →
      (p.Asks fun _ => True) →
      p.Blind Request.stored → ((p.armed n code).execute callbacks depth d).run w = .ok a v →
      ∃ u, (p.unarmed.disarmed.execute callbacks depth d).run w = .ok a u ∧
        (∃ D E, v.view d = some D ∧ u.view d = some E ∧ D.slots = E.slots ∧
          D.generator = E.generator ∧ D.synced = E.synced) ∧
        ∀ (later : Callbacks κ μ) (nesting : Nat) (callback : Option κ) (m : μ) (k : UInt32)
            (q : Program κ μ β),
          (∀ code calls, (later code calls).Blind Request.stored) → q.Blind Request.stored →
          ResultsAgree
            (fun _ v' u' => ∃ D E, v'.view d = some D ∧ u'.view d = some E ∧ D.Akin Eq E)
            (fun _ _ => True) (((q.afresh callback m k).execute later nesting d).run v)
            (((q.afresh callback m k).execute later nesting d).run u)) := by
  refine ⟨?_, ?_, ?_⟩
  · intro cfg memory w v reactions depth p a made run
    refine ⟨(wellFormed_create made).execute run, fun outOfOrder d D hD => ?_⟩
    obtain ⟨_, history⟩ := ((History.create made).execute run).choose_spec.plain
    obtain ⟨r, hr, rfl⟩ := Option.map_eq_some_iff.1 ((view_eq v d).symm.trans hD)
    rw [(History.synced outOfOrder history).2 d r hr]
    rfl
  · intro w v d callbacks code depth n wellFormed hc quiet
    refine ⟨fun p a asks run => ?_, fun p q b asks asks' run => ?_⟩
    · obtain ⟨_, w1, armed, rest⟩ := run_bind_eq_ok.1 run
      obtain ⟨_, w2, installed, rest⟩ := run_bind_eq_ok.1 rest
      obtain ⟨r, hr, -, hr2, attended⟩ := attended_of_armed wellFormed armed installed
      obtain ⟨E, hE, synced⟩ := synced_of_program quiet asks
        ⟨attended.seen, _, hr2, rfl, 0, rfl⟩ rest
      exact ⟨r.device, E, view_of_plain hr, hE, synced⟩
    · obtain ⟨x, w1, armed, rest⟩ := run_bind_eq_ok.1 run
      obtain ⟨_, w2, installed, rest⟩ := run_bind_eq_ok.1 rest
      rw [Program.run_bind] at rest
      obtain ⟨a, t, played, rest⟩ := run_bind_eq_ok.1 rest
      obtain ⟨y, t', synced, rest⟩ := run_bind_eq_ok.1 rest
      obtain ⟨r, hr, -, hr2, attended⟩ := attended_of_armed wellFormed armed installed
      -- the callback is still there when the program syncs
      have L := attended_lockstep (κ := κ) (μ := μ) w.config w.image.isSome d code
      have kept := L.program (i := w2.plain.suspended) ⟨rfl, rfl⟩ (attended_respond hc depth)
        p.blind_id (asks.installs _) w2 w2 attended
      rw [played] at kept
      obtain ⟨D, hD, point⟩ := synced_of_sync kept.2 synced
      obtain ⟨E, hE, same⟩ := synced_of_program quiet (asks' a) point rest
      have prefixed : ((p.armed n code).execute callbacks depth d).run w = .ok a t :=
        run_bind_eq_ok.2 ⟨x, w1, armed, run_bind_eq_ok.2 ⟨(), w2, installed, played⟩⟩
      exact ⟨a, t, D, E, prefixed, hD, hE, same⟩
  · intro w v d callbacks code depth n p a wellFormed limit taken hc quiet asks blind run
    obtain ⟨_, w1, armed, rest⟩ := run_bind_eq_ok.1 run
    obtain ⟨_, w2, installed, rest⟩ := run_bind_eq_ok.1 rest
    obtain ⟨y, u1, disarmed, beside⟩ :=
      beside_of_armed wellFormed armed installed (respond callbacks depth)
    obtain ⟨u, played, beside⟩ := beside.program ⟨wellFormed.roomy limit, taken⟩ hc quiet
      (respond callbacks depth) asks blind rest
    refine ⟨u, run_bind_eq_ok.2 ⟨y, u1, disarmed, played⟩, ?_, ?_⟩
    · obtain ⟨r, s, hr, hs, akin, -⟩ := beside.twins.rigs
      exact ⟨_, _, view_of_plain hr, view_of_plain hs, akin.slots, akin.generator, akin.synced⟩
    · intro later nesting callback m k q hl hq
      exact beside.afresh hl nesting hq callback m k

/-- Programs the first block. -/
def progFirst : Program Unit Unit Unit := .ask (.update (.prog 0 0 [1, 2])) fun _ => .done ()

/-- Programs the second. -/
def progSecond : Program Unit Unit Unit := .ask (.update (.prog 1 0 [3, 4])) fun _ => .done ()

/-- Programs the first block, syncs, and programs the second. -/
def progsAround : Program Unit Unit Unit :=
  progFirst.bind fun _ => .ask .sync fun _ => progSecond

/-- Erases the first block. -/
def eraseFirst : Program Unit Unit (Except Failure Unit) := .ask (.update (.erase 0)) .done

/-- Runs a program, then loses power for good as the first block is erased. Answers with the last
sync before and the blocks after. -/
def thenCrash (callbacks : Callbacks Unit Unit) (p : Program Unit Unit Unit) :
    BenchM Counted Nat Unit Unit (Option (Slots Block) × Option (Slots Block)) := do
  p.execute callbacks 2 0
  let synced := ((← get).view 0).bind Device.synced
  match ← (eraseFirst.afresh none () 1).execute callbacks 0 0 with
  | .error (.fault .powerLoss) => return (synced, ((← get).view 0).map Device.slots)
  | _ => throw .exhausted

theorem sync_points_stand_scattered :
    ∃ (w t v u v' u' : Bench Counted Nat Unit Unit) (D E D' E' : Device Block),
      create scattered () = .ok w ∧
      ((progFirst.armed 1 ()).execute eraseThenResume 2 0).run w = .ok () t ∧
      ((progsAround.armed 1 ()).execute eraseThenResume 2 0).run w = .ok () v ∧
      (progsAround.unarmed.disarmed.execute eraseThenResume 2 0).run w = .ok () u ∧
      t.view 0 = some D ∧ v.view 0 = some E ∧ E.synced = D.synced.map (fun _ => D.slots) ∧
      E.synced = some [some ⟨0, false, 15, [1, 2]⟩, none] ∧
      ((eraseFirst.afresh none () 1).execute eraseThenResume 0 0).run v =
        .ok (.error (.fault .powerLoss)) v' ∧
      ((eraseFirst.afresh none () 1).execute eraseThenResume 0 0).run u =
        .ok (.error (.fault .powerLoss)) u' ∧
      v'.view 0 = some D' ∧ u'.view 0 = some E' ∧ D'.slots = E'.slots := by
  have ends : (onNew scattered (thenCrash eraseThenResume (progsAround.armed 1 ()))).map Prod.fst =
      some (some [some ⟨0, false, 15, [1, 2]⟩, none]) := by
    decide +kernel
  obtain ⟨x, comes, value⟩ := Option.map_eq_some_iff.1 ends
  obtain ⟨w, v', made, ran⟩ := onNew_eq_some.1 comes
  obtain ⟨_, v, played, rest⟩ := run_bind_eq_ok.1 ran
  obtain ⟨_, _, got, rest⟩ := run_bind_eq_ok.1 rest
  cases got
  obtain ⟨lost, v', crashed, rest⟩ := run_bind_eq_ok.1 rest
  split at rest
  case h_2 => cases rest
  obtain ⟨_, _, got, rest⟩ := run_bind_eq_ok.1 rest
  cases got
  cases rest
  have resumes : eraseThenResume.Resume () := ⟨fun _ _ _ => rfl, fun _ _ _ => trivial⟩
  have quiet : eraseThenResume.Unsynced () := fun _ =>
    ⟨nofun, fun _ _ => ⟨nofun, fun _ _ => trivial⟩⟩
  have first : progFirst.Asks fun _ => True := ⟨trivial, fun _ => trivial⟩
  have second : progSecond.Asks (· ≠ .sync) := ⟨nofun, fun _ => trivial⟩
  have both : progsAround.Asks fun _ => True :=
    ⟨trivial, fun _ => ⟨trivial, fun _ => ⟨trivial, fun _ => trivial⟩⟩⟩
  have blind : progsAround.Blind Request.stored :=
    ⟨fun _ => rfl, fun _ => ⟨fun _ => rfl, fun _ => ⟨fun _ => rfl, fun _ => trivial⟩⟩⟩
  obtain ⟨reachable, syncs, -⟩ :=
    sync_points_stand (κ := Unit) (μ := Unit) (α := Unit) (β := Unit)
  obtain ⟨-, -, crashes⟩ :=
    sync_points_stand (κ := Unit) (μ := Unit) (α := Unit) (β := Except Failure Unit)
  obtain ⟨wellFormed, -⟩ := reachable scattered () w w (fun _ _ _ => .done (.ok .resume)) 0
    (.done ()) () made rfl
  obtain ⟨_, t, D, E, synced, hD, hE, point⟩ :=
    (syncs w v 0 eraseThenResume () 2 1 wellFormed resumes quiet).2 progFirst (fun _ => progSecond)
      () first (fun _ => second) played
  have config : w.config = scattered :=
    congrArg Bench.config (create_eq_ok.1 made).2.choose_spec.2
  have room : w.config.geometry.blockSize < Config.allocationLimit := by
    rw [config]
    decide
  have taken : w.config.image ≠ .sealed := by
    rw [config]
    decide
  obtain ⟨u, undisturbed, -, later⟩ := crashes w v 0 eraseThenResume () 2 1 progsAround ()
    wellFormed room taken resumes quiet both blind played
  have agree := later eraseThenResume 0 none () 1 eraseFirst
    (fun _ _ => ⟨fun _ => rfl, fun _ => ⟨fun _ => rfl, fun _ => trivial⟩⟩)
    ⟨fun _ => rfl, fun _ => trivial⟩
  rw [crashed] at agree
  obtain ⟨u', crashed', D', E', hD', hE', akin⟩ := agree.ok_left
  simp only [hE, Option.bind_some] at value
  exact ⟨w, t, v, u, v', u', D, E, D', E', made, synced, played, undisturbed, hD, hE, point, value,
    crashed, crashed', hD', hE', akin.slots⟩

/-- Syncs on the crashed device, and resumes. -/
def syncThenResume : Callbacks Unit Unit := fun _ _ =>
  .ask .sync fun _ => .done (.ok .resume)

/-- If the callback syncs, a later loss of power returns to what it has synced. -/
theorem sync_points_stand_synced :
    ∃ (w v u : Bench Counted Nat Unit Unit) (s s' : Option (Slots Block)) (xs ys : Slots Block),
      create scattered () = .ok w ∧ syncThenResume.Resume () ∧
      (thenCrash syncThenResume (progSecond.armed 1 ())).run w = .ok (s, some xs) v ∧
      (thenCrash syncThenResume progSecond.unarmed.disarmed).run w = .ok (s', some ys) u ∧
      xs[1]? = some (some ⟨0, false, 15, [3, 4]⟩) ∧ ys[1]? = some none := by
  have resumes : syncThenResume.Resume () := ⟨fun _ _ => rfl, fun _ _ => trivial⟩
  have kept : (onNew scattered (thenCrash syncThenResume (progSecond.armed 1 ()))).map
      (fun x => x.2.map (·[1]?)) = some (some (some (some ⟨0, false, 15, [3, 4]⟩))) := by
    decide +kernel
  have lost : (onNew scattered (thenCrash syncThenResume progSecond.unarmed.disarmed)).map
      (fun x => x.2.map (·[1]?)) = some (some (some none)) := by
    decide +kernel
  obtain ⟨⟨s, blocks⟩, comes, left⟩ := Option.map_eq_some_iff.1 kept
  obtain ⟨⟨s', blocks'⟩, comes', left'⟩ := Option.map_eq_some_iff.1 lost
  obtain ⟨w, v, made, ran⟩ := onNew_eq_some.1 comes
  obtain ⟨w', u, made', ran'⟩ := onNew_eq_some.1 comes'
  cases made.symm.trans made'
  obtain ⟨xs, rfl, there⟩ := Option.map_eq_some_iff.1 left
  obtain ⟨ys, rfl, gone⟩ := Option.map_eq_some_iff.1 left'
  exact ⟨w, v, u, s, s', xs, ys, made, resumes, ran, ran', there, gone⟩

end Bench

end FaultyFlash
