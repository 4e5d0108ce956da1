import FaultyFlash.Proofs.Alone

/-!
# Devices on benches and by themselves

A device on a bench is compared with a device by itself, which answers alike. As long as power is
not lost, a program on the first does what it does on the second, and leaves the rest of the bench
as it is.

## Main definitions

* `Bench.Tracks cfg imaged R P d X`: on a bench, the device of a handle is related to a device by
  itself
* `Bench.Spares ds`, `Bench.Uses d`: what became of a bench on which only some devices were used
* `Request.Calm`, `Request.left`: a request that does not lose power, and what it leaves of a
  countdown

## Main results

* `Bench.Tracks.start`: updates start as on the device by itself, and are counted
* `Bench.Tracks.request`: a request that does not lose power
* `Bench.Tracks.program`: a program, while the countdown is off
-/

namespace FaultyFlash

open Flash (answered AlikeBy)
open Device (Clocked)

variable {κ μ α β : Type}

namespace Bench

/-- The device of a handle is related by `R` to the device `X` by itself, and its callback has the
property `P`. -/
structure Tracks (cfg : Config) (imaged : Bool) (R : Device Block → Device Block → Prop)
    (P : Option (Handler κ) → Prop) (d : Handle) (X : Flash Plain Block)
    (v : Bench Plain Block κ μ) : Prop where
  config : v.config = cfg
  image : X.image.isSome = imaged ∧ v.image.isSome = imaged
  rig : ∃ r, v.rig? d = some r ∧ R X.device r.device ∧ P r.callback

/-- Every device of a bench but those of some handles is left alone. -/
structure Spares (ds : List Handle) (v w : Bench Plain Block κ μ) : Prop where
  config : w.config = v.config
  image : w.image.isSome = v.image.isSome
  suspended : w.suspended = v.suspended
  length : v.rack.length ≤ w.rack.length
  rigs {e : Handle} (he : e ∉ ds) (old : e < v.rack.length) : w.rig? e = v.rig? e

/-- Only the device of a handle is used, and no device is copied for later. -/
structure Uses (d : Handle) (v w : Bench Plain Block κ μ) : Prop extends Spares [d] v w where
  forks : w.forks = v.forks
  memory : w.memory = v.memory

variable {cfg : Config} {R R' : Device Block → Device Block → Prop}
  {P : Option (Handler κ) → Prop} {imaged : Bool} {d : Handle} {X Y : Flash Plain Block}
  {u v w : Bench Plain Block κ μ}

theorem Spares.refl (ds : List Handle) (v : Bench Plain Block κ μ) : Spares ds v v :=
  ⟨rfl, rfl, rfl, Nat.le_refl _, fun _ _ => rfl⟩

theorem Spares.trans {ds : List Handle} (h : Spares ds u v) (h' : Spares ds v w) :
    Spares ds u w where
  config := h'.config.trans h.config
  image := h'.image.trans h.image
  suspended := h'.suspended.trans h.suspended
  length := Nat.le_trans h.length h'.length
  rigs he old := (h'.rigs he (Nat.lt_of_lt_of_le old h.length)).trans (h.rigs he old)

/-- Parts in turn, the later on the devices of the earlier or on new ones. -/
theorem Spares.within {ds es fs : List Handle} (h : Spares ds u v) (h' : Spares es v w)
    (hds : ∀ e ∈ ds, e ∈ fs) (hes : ∀ e ∈ es, e ∈ fs ∨ u.rack.length ≤ e) : Spares fs u w where
  config := h'.config.trans h.config
  image := h'.image.trans h.image
  suspended := h'.suspended.trans h.suspended
  length := Nat.le_trans h.length h'.length
  rigs {e} he old := by
    have apart : e ∉ es := by
      intro mem
      rcases hes e mem with mem | fresh
      · exact he mem
      · exact Nat.not_le.2 old fresh
    rw [h'.rigs apart (Nat.lt_of_lt_of_le old h.length), h.rigs (fun mem => he (hds e mem)) old]

theorem Uses.refl (d : Handle) (v : Bench Plain Block κ μ) : Uses d v v :=
  ⟨.refl _ v, rfl, rfl⟩

theorem Uses.trans (h : Uses d u v) (h' : Uses d v w) : Uses d u w :=
  ⟨h.toSpares.trans h'.toSpares, h'.forks.trans h.forks, h'.memory.trans h.memory⟩

/-- What is done to one device uses that device alone. -/
theorem Uses.settle {r : Rig Block κ} {f : Flash Plain Block}
    (image : f.image.isSome = v.image.isSome) : Uses d v (v.settle d r f) :=
  ⟨⟨rfl, image, rfl, by simp [Bench.settle], fun he _ =>
    rig?_settle_ne v (fun h => he (by simp [h])) r f⟩, rfl, rfl⟩

/-- A copy leaves all devices as they are. -/
theorem Uses.append (x : Option (Rig Block κ)) : Uses d v { v with rack := v.rack ++ [x] } :=
  ⟨⟨rfl, rfl, rfl, by simp, fun {e} _ old => by
    rw [rig?, rig?, List.getElem?_append_left old]⟩, rfl, rfl⟩

namespace Tracks

theorem lt_length (h : Tracks cfg imaged R P d X v) : d < v.rack.length := by
  obtain ⟨r, hr, -⟩ := h.rig
  exact (List.getElem?_eq_some_iff.1 (rig?_eq_some.1 hr)).1

/-- A handle that was not given out yet is not the one of a device that there is. -/
theorem not_mem_of_le (h : Tracks cfg imaged R P d X v) {e : Handle} (fresh : v.rack.length ≤ e) :
    e ∉ [d] := by
  intro mem
  rw [List.mem_singleton.1 mem] at fresh
  exact Nat.not_le.2 h.lt_length fresh

/-- The device of a handle stays as it is where only others are used. -/
theorem of_spares {ds : List Handle} (h : Tracks cfg imaged R P d X v) (s : Spares ds v w)
    (hd : d ∉ ds) : Tracks cfg imaged R P d X w := by
  have old := h.lt_length
  obtain ⟨config, image, r, hr, rest⟩ := h
  exact ⟨s.config.trans config, ⟨image.1, s.image.trans image.2⟩, r, (s.rigs hd old).trans hr, rest⟩

/-- An operation is performed as on the device by itself. -/
theorem on (h : Tracks cfg imaged R P d X v) (op : Config → FlashM Plain Block α)
    {Q : Except Failure α → Prop}
    (ha : ∀ f, AlikeBy R imaged X f → Q (answered (op cfg) f).1 ∧
      AlikeBy R' imaged Y (answered (op cfg) f).2) :
    ∃ x w, (Bench.on d op).run v = .ok x w ∧ Q x ∧ Tracks cfg imaged R' P d Y w ∧ Uses d v w := by
  obtain ⟨rfl, image, r, hr, alike, callback⟩ := h
  obtain ⟨answer, alike', imageY, imageF⟩ := ha (v.flash r) ⟨alike, image⟩
  refine ⟨_, _, run_on_answered hr op, answer, ⟨rfl, ⟨imageY, imageF⟩, ?_⟩,
    .settle (imageF.trans image.2.symm)⟩
  exact ⟨_, rig?_settle hr _, alike', callback⟩

/-- Requests that are performed by one operation are answered as by the device by itself. -/
theorem direct (h : Tracks cfg imaged R P d X v) {seen : Seen} {r : Request} (hr : r.isDirect)
    (agrees : r.Agrees seen cfg (AlikeBy R imaged)) (respond : Responder Plain Block κ μ) :
    ∃ x w, (perform respond d r).run v = .ok x w ∧
      seen r x = seen r (answered (r.effect cfg) X).1 ∧
      Tracks cfg imaged R P d (answered (r.effect cfg) X).2 w ∧ Uses d v w := by
  rw [perform_direct respond d hr]
  exact h.on r.effect (Q := fun x => seen r x = seen r (answered (r.effect cfg) X).1) (agrees X)

theorem copy (h : Tracks cfg imaged R P d X v) (respond : Responder Plain Block κ μ) :
    ∃ w, (perform respond d .copy).run v = .ok (.ok ()) w ∧ Tracks cfg imaged R P d X w ∧
      Uses d v w := by
  obtain ⟨config, image, r, hr, rest⟩ := h
  simp only [perform, EStateM.run_bind, run_copy, hr]
  exact ⟨_, rfl, ⟨config, image, r, rig?_append hr _, rest⟩, .append _⟩

end Tracks

end Bench

/-! ## Updates -/

/-- How an update starts when `n` is left of the countdown. -/
def Start.of (n : UInt32) : Option Bool → Start
  | none => .ignored
  | some worn => if n = 1 then .powerLost worn else .proceed worn

/-- What is left of a countdown after an update that was let through or not. -/
def Flash.left (n : UInt32) : Except Failure (Option Bool) → UInt32
  | .ok (some _) => if n = 0 then 0 else n - 1
  | _ => n

/-- A countdown that is off stays off. -/
theorem Flash.left_zero (x : Except Failure (Option Bool)) : left 0 x = 0 := by
  unfold left
  split <;> rfl

/-- Does a request not lose power while `n` is left of the countdown? -/
def Request.Calm (cfg : Config) (n : UInt32) (X : Flash Plain Block) : Request → Prop
  | .update u => ∀ worn, (answered (Flash.permit cfg u) X).1 = .ok (some worn) → n ≠ 1
  | _ => True

/-- What is left of a countdown after a request. -/
def Request.left (cfg : Config) (n : UInt32) (X : Flash Plain Block) : Request → UInt32
  | .update u => Flash.left n (answered (Flash.permit cfg u) X).1
  | _ => n

theorem Request.left_zero (cfg : Config) (X : Flash Plain Block) (r : Request) :
    r.left cfg 0 X = 0 := by
  cases r <;> first | rfl | exact Flash.left_zero _

theorem Flash.answered_tick {S R : Type} (f : Flash S R) :
    answered tick f =
      if f.device.countdown = 0 then (.ok false, f)
      else (.ok (f.device.countdown = 1), f.rearm (f.device.countdown - 1)) := by
  rw [answered, run_tick]
  by_cases off : f.device.countdown = 0
  · rw [if_pos off, if_pos off]
  · rw [if_neg off, if_neg off]
    rfl

/-- An update that is let through is counted, unless the countdown is off. -/
theorem Flash.answered_start_eq {S R : Type} [BlockStore S R] (cfg : Config) (u : Update)
    (f : Flash S R) :
    answered (start cfg u) f =
      ((answered (permit cfg u) f).1.map (Start.of (answered (permit cfg u) f).2.device.countdown),
        (answered (permit cfg u) f).2.rearm
          (left (answered (permit cfg u) f).2.device.countdown (answered (permit cfg u) f).1)) := by
  unfold start
  rw [answered_bind]
  generalize answered (permit cfg u) f = a
  obtain ⟨x, g⟩ := a
  rcases x with e | _ | worn
  · rfl
  · rfl
  simp only [countDown, answered_bind, answered_tick, left, Except.map, Start.of]
  by_cases off : g.device.countdown = 0
  · have never : g.device.countdown ≠ 1 := by
      rw [off]
      decide
    have stays : g.rearm 0 = g := by
      rw [← off]
      rfl
    simp only [if_pos off, if_neg never, stays]
    rfl
  · simp only [if_neg off]
    by_cases now : g.device.countdown = 1
    · simp only [if_pos now, decide_eq_true now]
      rfl
    · simp only [if_neg now, decide_eq_false now]
      rfl

/-- An update starts as on the device by itself, and is counted if it is let through. -/
theorem Flash.answered_start {cfg : Config} {n : UInt32} {imaged : Bool} {X f : Flash Plain Block}
    (h : AlikeBy (Clocked cfg n) imaged X f) (u : Update) :
    (answered (start cfg u) f).1 = (answered (permit cfg u) X).1.map (Start.of n) ∧
      AlikeBy (Clocked cfg (left n (answered (permit cfg u) X).1)) imaged
        (answered (permit cfg u) X).2 (answered (start cfg u) f).2 := by
  have permitted : Preserves (AlikeBy (Clocked cfg n) imaged) (permit cfg u) (permit cfg u) :=
    (clockedLikeness cfg n).lockstep.permit u
  obtain ⟨same, ⟨clocked, sound⟩, images⟩ := answered_of_preserves permitted h
  have clock : (answered (permit cfg u) f).2.device.countdown = n :=
    congrArg Device.countdown clocked
  rw [answered_start_eq, clock, same]
  refine ⟨rfl, ⟨?_, sound⟩, images⟩
  have rearmed (m : UInt32) := congrArg (fun D : Device Block => { D with countdown := m }) clocked
  exact rearmed _

namespace Bench

variable {cfg : Config} {P : Option (Handler κ) → Prop} {imaged : Bool} {d : Handle}
  {X Y : Flash Plain Block} {v : Bench Plain Block κ μ} {n : UInt32}

namespace Tracks

theorem start (h : Tracks cfg imaged (Clocked cfg n) P d X v) (u : Update) :
    ∃ w, (Bench.on d (Flash.start · u)).run v =
        .ok ((answered (Flash.permit cfg u) X).1.map (Start.of n)) w ∧
      Tracks cfg imaged (Clocked cfg (Flash.left n (answered (Flash.permit cfg u) X).1)) P d
        (answered (Flash.permit cfg u) X).2 w ∧ Uses d v w := by
  obtain ⟨x, w, run, rfl, rest⟩ := h.on (Flash.start · u)
    (Q := fun x => x = (answered (Flash.permit cfg u) X).1.map (Start.of n)) fun f hf =>
      Flash.answered_start hf u
  exact ⟨w, run, rest⟩

/-- An operation that does not look at the countdown is performed as on the device by itself. -/
theorem untimed (h : Tracks cfg imaged (Clocked cfg n) P d X v) (op : Config → FlashM Plain Block α)
    (kept : Preserves (AlikeBy (Clocked cfg n) imaged) (op cfg) (op cfg)) :
    ∃ w, (Bench.on d op).run v = .ok (answered (op cfg) X).1 w ∧
      Tracks cfg imaged (Clocked cfg n) P d (answered (op cfg) X).2 w ∧ Uses d v w := by
  obtain ⟨x, w, run, rfl, rest⟩ := h.on op (Q := fun x => x = (answered (op cfg) X).1)
    fun f hf => (Flash.answered_of_preserves kept hf).imp Eq.symm id
  exact ⟨w, run, rest⟩

/-- An update that does not lose power is performed as on the device by itself. -/
theorem update (h : Tracks cfg imaged (Clocked cfg n) P d X v) {u : Update}
    (calm : ∀ worn, (answered (Flash.permit cfg u) X).1 = .ok (some worn) → n ≠ 1)
    (respond : Responder Plain Block κ μ) :
    ∃ w, (update respond d u).run v = .ok (answered (Flash.uninterrupted cfg u) X).1 w ∧
      Tracks cfg imaged (Clocked cfg (Flash.left n (answered (Flash.permit cfg u) X).1)) P d
        (answered (Flash.uninterrupted cfg u) X).2 w ∧ Uses d v w := by
  obtain ⟨w, run, tracks, uses⟩ := h.start u
  simp only [Bench.update, EStateM.run_bind, run, Flash.uninterrupted, Flash.answered_bind]
  generalize answered (Flash.permit cfg u) X = a at tracks calm ⊢
  obtain ⟨x, Y⟩ := a
  cases x with
  | error e => exact ⟨w, rfl, tracks, uses⟩
  | ok permitted =>
    cases permitted with
    | none => exact ⟨w, rfl, tracks, uses⟩
    | some worn =>
      -- the update was counted without losing power, and is completed
      obtain ⟨t, run', tracks', uses'⟩ := tracks.untimed (Flash.complete · worn u)
        ((clockedLikeness cfg _).lockstep.complete worn u)
      refine ⟨t, ?_, tracks', uses.trans uses'⟩
      simp only [Except.map, Start.of, if_neg (calm worn rfl)]
      exact run'

/-- A request that does not lose power is answered as by the device by itself. -/
theorem request (h : Tracks cfg imaged (Clocked cfg n) P d X v) {seen : Seen} {r : Request}
    (agrees : r.Agrees seen cfg (AlikeBy (Clocked cfg n) imaged)) (calm : r.Calm cfg n X)
    (respond : Responder Plain Block κ μ) :
    ∃ x w, (perform respond d r).run v = .ok x w ∧
      seen r x = seen r (answered (r.effect cfg) X).1 ∧
      Tracks cfg imaged (Clocked cfg (r.left cfg n X)) P d (answered (r.effect cfg) X).2 w ∧
      Uses d v w := by
  by_cases direct : r.isDirect
  · obtain same : r.left cfg n X = n := by cases r <;> first | rfl | cases direct
    rw [same]
    exact h.direct direct agrees respond
  cases r with
  | update u =>
    obtain ⟨w, run, tracks, uses⟩ := h.update calm respond
    exact ⟨_, w, run, rfl, tracks, uses⟩
  | copy =>
    obtain ⟨w, run, tracks, uses⟩ := h.copy respond
    exact ⟨_, w, run, rfl, tracks, uses⟩
  | _ => cases direct rfl

/-- While the countdown is off, a program runs as on the device by itself. -/
theorem program {seen : Seen} {ok : Request → Prop}
    (agrees : ∀ r, ok r → r.Agrees seen cfg (AlikeBy (Clocked cfg 0) imaged))
    (respond : Responder Plain Block κ μ) (m : μ) {p : Program κ μ α} (asks : p.Asks ok)
    (blind : p.Blind seen) (h : Tracks cfg imaged (Clocked cfg 0) P d X v) :
    ∃ w, (p.run respond d).run v = .ok (p.alone seen cfg m X).result w ∧
      Tracks cfg imaged (Clocked cfg 0) P d (p.alone seen cfg m X).device w ∧ Uses d v w := by
  induction p generalizing X v with
  | done a => exact ⟨v, rfl, h, .refl d v⟩
  | ask r next ih =>
    have calm : r.Calm cfg 0 X := by
      cases r <;> first | exact trivial | exact fun _ _ => by decide
    obtain ⟨x, w, run, same, tracks, uses⟩ := h.request (agrees r asks.1) calm respond
    rw [Request.left_zero] at tracks
    obtain ⟨t, run', tracks', uses'⟩ := ih _ (asks.2 _) (blind.2 _) tracks
    refine ⟨t, ?_, tracks', uses.trans uses'⟩
    rw [Program.run, EStateM.run_bind, run]
    -- the rest of the program does not tell the two answers apart
    show ((next x).run respond d).run w = _
    rw [blind.1 x, same]
    exact run'
  | install | getMemory | setMemory => exact asks.elim

end Tracks

end Bench

end FaultyFlash
