import FaultyFlash.Proofs.Outcomes.Requests
import FaultyFlash.Proofs.Pins.Standing
import FaultyFlash.Proofs.Transcripts
import FaultyFlash.Proofs.Wear.Devices

/-!
# Wear of the devices on a bench

As long as no power is lost, no callback is called, so what an interplay does to the devices of a
bench is what it asks. The wear of a block then follows from what was asked of its device and took
effect, and from nothing else: not from who else holds the block, nor from what is asked of others,
nor from whether the image file comes to show it.

## Main definitions

* `Asked.tookEffect`, `Asked.takesLast`: a request that was carried out, and one during which power
  is lost
* `Interplay.transcript`: what an interplay asks, and of which devices
* `Asked.weigh`: what a request makes of the wear of a block of a device
* `Bench.Still d P`: the device of a handle has a property, if it is still there
* `Bench.Quiet`: no countdown runs

## Main results

* `Bench.History.weigh_perform`: what a request makes of the wear of a block
* `Bench.History.weigh_run`: so does an interplay, request by request
* `Bench.Quiet.not_takesLast`: where no countdown runs and none is started, no power is lost
-/

namespace FaultyFlash

open Flash (answered Weighing Reweighs)

variable {S R κ μ α : Type}

theorem Request.carriedOut_apartRefs (r : Request) (x : Except Failure r.Answer) :
    carriedOut (r.apartRefs x) = carriedOut x := by
  cases r <;> cases x <;> rfl

/-! ## What is asked -/

namespace Asked

variable [BlockStore S R]

/-- Was it carried out, and let through if it was an update? It may be that the image file refused
to show what it did. -/
def tookEffect (d : Handle) (a : Asked S R κ μ) : Bool :=
  carriedOut a.answer && (a.request.isDirect || a.counts d)

/-- An update that is let through takes the last of the countdown, so that power is lost. -/
def takesLast (d : Handle) (a : Asked S R κ μ) : Prop := a.counts d ∧ a.bench.left d = 1

/-- What a request makes of the wear `n` of a block of the device `d`. -/
def weigh (cfg : Config) (d : Handle) (block : Nat) (n : UInt32) (a : Handle × Asked S R κ μ) :
    UInt32 :=
  if a.1 = d ∧ a.2.tookEffect d then a.2.request.weigh cfg block n else n

end Asked

/-- What an interplay asks on a bench, and of which devices, the first request first. -/
def Interplay.transcript [BlockStore S R] (respond : Responder S R κ μ) :
    Interplay κ μ α → Bench S R κ μ → List (Handle × Asked S R κ μ)
  | .done _, _ => []
  | .ask d r next, w =>
    match (Bench.perform respond d r).run w with
    | .ok x v => (d, ⟨w, r, x⟩) :: (next x).transcript respond v
    | .error .. => []
  | .copy d next, w =>
    match (Bench.copy d).run w with
    | .ok e v => (next e).transcript respond v
    | .error .. => []
  | .drop d next, w =>
    match (Bench.drop d).run w with
    | .ok _ v => next.transcript respond v
    | .error .. => []
  | .install d callback next, w =>
    match (Bench.install d (callback.map (Handler.custom · 0))).run w with
    | .ok _ v => next.transcript respond v
    | .error .. => []
  | .getMemory next, w => (next w.memory).transcript respond w
  | .setMemory m next, w => next.transcript respond { w with memory := m }

/-! ## How updates start -/

/-- An update that fails to start is not let through. -/
theorem Flash.not_admits_of_start [BlockStore S R] {cfg : Config} {u : Update} {f : Flash S R}
    {e : Failure} (h : (answered (start cfg u) f).1 = .error e) : f.admits cfg u = false := by
  rw [answered_start_eq] at h
  unfold admits
  generalize (answered (permit cfg u) f).1 = permitted at h
  cases permitted with
  | error e => rfl
  | ok worn => cases h

/-- How an update starts tells whether it is let through, and whether power is lost. -/
theorem Flash.admits_of_start [BlockStore S R] {cfg : Config} {u : Update} {f : Flash S R}
    {how : Start} (h : (answered (start cfg u) f).1 = .ok how) :
    (f.admits cfg u = false ∧ how = .ignored) ∨
      (f.admits cfg u ∧ ∃ worn, how = .proceed worn) ∨
      (f.admits cfg u ∧ f.device.countdown = 1) := by
  have leaves : Leaves id (permit cfg u : FlashM S R _) := .permit cfg u
  have same : (answered (permit cfg u) f).2.device = f.device := leaves f
  rw [answered_start_eq, same] at h
  unfold admits
  generalize (answered (permit cfg u) f).1 = permitted at h
  rcases permitted with e | _ | worn
  · cases h
  · cases h
    exact .inl ⟨rfl, rfl⟩
  · by_cases last : f.device.countdown = 1
    · exact .inr (.inr ⟨rfl, last⟩)
    · simp only [Except.map, Start.of, if_neg last] at h
      cases h
      exact .inr (.inl ⟨rfl, worn, rfl⟩)

namespace Bench

variable {cfg : Config} {d e : Handle} {block : Nat} {n k : UInt32}

theorem not_admits_of_start [BlockStore S R] {w v : Bench S R κ μ} {u : Update} {f : Failure}
    (run : (on e (Flash.start · u)).run w = .ok (.error f) v) : w.admits e (.update u) = false := by
  obtain ⟨r, hr, started, -⟩ := run_on_eq_ok.1 run
  rw [admits, hr, Option.elim_some]
  exact Flash.not_admits_of_start started

theorem admits_of_start [BlockStore S R] {w v : Bench S R κ μ} {u : Update} {how : Start}
    (run : (on e (Flash.start · u)).run w = .ok (.ok how) v) :
    (w.admits e (.update u) = false ∧ how = .ignored) ∨
      (w.admits e (.update u) ∧ ∃ worn, how = .proceed worn) ∨
      (w.admits e (.update u) ∧ w.left e = 1) := by
  obtain ⟨r, hr, started, -⟩ := run_on_eq_ok.1 run
  rw [admits, hr, Option.elim_some, left_of_rig? hr]
  exact (Flash.admits_of_start started).imp_right (.imp_right (.imp_right (congrArg UInt32.toNat)))

/-! ## Devices that are still there -/

/-- The device of a handle has a property, if it is still there. -/
structure Still (d : Handle) (P : Device Block → Prop) (v : Bench Plain Block κ μ) : Prop where
  /-- No copy comes to have the handle. -/
  made : d < v.rack.length
  holds {r : Rig Block κ} (h : v.rig? d = some r) : P r.device

/-- The wear of a block of a device, if the device is still there, is `n`. -/
abbrev Weighs (d : Handle) (block : Nat) (n : UInt32) (v : Bench Plain Block κ μ) : Prop :=
  Still d (fun D => D.slots.wear block = n) v

namespace Still

variable {P Q : Device Block → Prop} {v v' : Bench Plain Block κ μ}

/-- A device may be exchanged for another one, or given up. -/
theorem set (h : Still d P v) {y : Option (Rig Block κ)}
    (same : e = d → ∀ r, y = some r → Q r.device) (other : e ≠ d → ∀ D, P D → Q D)
    (rack : v'.rack = v.rack.set e y) : Still d Q v' := by
  refine ⟨by rw [rack, List.length_set]; exact h.made, fun {r} hr => ?_⟩
  rw [rig?_eq_some, rack, List.getElem?_set] at hr
  split at hr
  · next here =>
    split at hr
    · exact same here r (Option.some.inj hr)
    · cases hr
  · next there => exact other there _ (h.holds (rig?_eq_some.2 hr))

/-- A device is copied apart from itself. -/
theorem copy (h : Still d P v) {c : Handle} (run : (Bench.copy e).run v = .ok c v') :
    Still d P v' := by
  obtain ⟨r, -, -, rfl⟩ := run_copy_eq_ok.1 run
  refine ⟨?_, fun {s} hs => ?_⟩
  · simp only [List.length_append]
    exact Nat.lt_of_lt_of_le h.made (Nat.le_add_right ..)
  · rw [rig?_eq_some] at hs
    simp only [List.getElem?_append_left h.made] at hs
    exact h.holds (rig?_eq_some.2 hs)

theorem drop (h : Still d P v) (run : (Bench.drop e).run v = .ok () v') : Still d P v' := by
  obtain ⟨r, -, rfl⟩ := run_drop_eq_ok.1 run
  exact h.set (y := none) (fun _ _ hr => by cases hr) (fun _ _ => id) rfl

theorem install (h : Still d P v) {callback : Option (Handler κ)}
    (run : (Bench.install e callback).run v = .ok () v') : Still d P v' := by
  obtain ⟨r, hr, rfl⟩ := run_install_eq_ok.1 run
  refine h.set (fun same s hs => ?_) (fun _ _ => id) rfl
  cases hs
  subst same
  exact h.holds (r := r) hr

/-- What is carried out on a device does to the wear of a block what it is to do. -/
theorem weigh (h : Weighs d block n v)
    (sound : ∀ {e r}, v.rig? e = some r → r.device.Sound v.config)
    {op : Config → FlashM Plain Block α} (does : Reweighs v.config block n k (op v.config))
    {x : Except Failure α} (run : (on e op).run v = .ok x v') :
    Weighs d block (if e = d ∧ carriedOut x then k else n) v' := by
  obtain ⟨r, hr, rfl, rfl⟩ := run_on_eq_ok.1 run
  refine h.set (y := some _) (fun same s hs => ?_) (fun other D hD => ?_) rfl
  · cases hs
    subst same
    have left := (does (v.flash r) ⟨sound hr, h.holds hr⟩).wear
    simpa only [true_and] using left
  · rw [if_neg fun both => other both.1]
    exact hD

end Still

/-! ## Requests and interplays -/

section

variable {w v : Bench Counted Nat κ μ} {ledger : Ledger} {m : μ}

namespace History

/-- A history goes on with an operation that is an act. -/
theorem goes_on (h : History cfg m w ledger) (a : Act κ μ) {op : BenchM Counted Nat κ μ α} {x : α}
    (run : op.run w = .ok x v) (same : a.perform = (fun _ => ()) <$> op) :
    ∃ ledger, History cfg m v ledger :=
  ⟨_, h.act a (by rw [same]; exact run_map_eq_ok.2 ⟨x, run, rfl⟩)⟩

theorem weigh_on (h : History cfg m w ledger) (weighs : Weighs d block n w.plain)
    {op : Config → FlashM Counted Nat α} {op' : Config → FlashM Plain Block α}
    (alike : Alike (κ := κ) (μ := μ) (on e op) (on e op'))
    (does : Reweighs cfg block n k (op' cfg)) {x : Except Failure α}
    (run : (on e op).run w = .ok x v) :
    Weighs d block (if e = d ∧ carriedOut x then k else n) v.plain := by
  obtain rfl : w.config = cfg := h.plain.2.remembers.1
  exact weighs.weigh h.wellFormed.devices does (alike.run_plain h.wellFormed.seen run).1

/-- A request that is one operation. -/
theorem weigh_direct (h : History cfg m w ledger) (weighs : Weighs d block n w.plain) {r : Request}
    (direct : r.isDirect) {respond : Responder Counted Nat κ μ} {x : Except Failure r.Answer}
    (run : (perform respond e r).run w = .ok x v) :
    Weighs d block (if e = d ∧ carriedOut x then r.weigh cfg block n else n) v.plain := by
  obtain rfl : w.config = cfg := h.plain.2.remembers.1
  -- the answers may tell of other holders of a block, but whether there is one is the same
  have alike := Alike.direct (κ := κ) (μ := μ) e direct respond fun _ _ => throw .exhausted
  obtain ⟨y, ran, same⟩ :=
    run_map_eq_ok.1 (alike.run_plain h.wellFormed.seen (run_map_eq_ok.2 ⟨x, run, rfl⟩)).1
  have answers : carriedOut y = carriedOut x := by
    rw [← r.carriedOut_apartRefs, same, r.carriedOut_apartRefs]
  rw [perform_direct _ e direct] at ran
  rw [← answers]
  exact weighs.weigh h.wellFormed.devices (Reweighs.effect direct) ran

/-- An update during which no power is lost. -/
theorem weigh_update (h : History cfg m w ledger) (weighs : Weighs d block n w.plain) {u : Update}
    (powered : ¬ (w.admits e (.update u) ∧ w.left e = 1)) {respond : Responder Counted Nat κ μ}
    {x : Except Failure Unit} (run : (update respond e u).run w = .ok x v) :
    (∃ ledger, History cfg m v ledger) ∧
      Weighs d block (if e = d ∧ (carriedOut x && w.admits e (.update u)) then
        (Request.update u).weigh cfg block n else n) v.plain := by
  obtain ⟨how, t, started, rest⟩ := run_bind_eq_ok.1 run
  obtain ⟨_, h'⟩ := h.goes_on (.start e u) started rfl
  have weighs' : Weighs d block n t.plain := by
    have kept := h.weigh_on weighs (SeenAs.lockstep.start (i := ()) rfl u)
      (Reweighs.of_keeps (Weighing.start u)) started
    rwa [ite_self] at kept
  rcases how with f | how
  · cases rest
    exact ⟨⟨_, h'⟩, by simpa [not_admits_of_start started] using weighs'⟩
  rcases admits_of_start started with ⟨ignored, rfl⟩ | ⟨admitted, worn, rfl⟩ | lost
  · cases rest
    exact ⟨⟨_, h'⟩, by simpa [ignored] using weighs'⟩
  · refine ⟨h'.goes_on (.complete e worn u) rest rfl, ?_⟩
    rw [admitted, Bool.and_true]
    exact h'.weigh_on weighs' (SeenAs.lockstep.complete (i := ()) rfl worn u)
      (Reweighs.complete worn u) rest
  · exact absurd lost powered

/-- What a request makes of the wear of a block, if no power is lost. -/
theorem weigh_perform (h : History cfg m w ledger) (weighs : Weighs d block n w.plain) {r : Request}
    {respond : Responder Counted Nat κ μ} {x : Except Failure r.Answer}
    (powered : ¬ Asked.takesLast e ⟨w, r, x⟩) (run : (perform respond e r).run w = .ok x v) :
    (∃ ledger, History cfg m v ledger) ∧
      Weighs d block (Asked.weigh cfg d block n (e, ⟨w, r, x⟩)) v.plain := by
  by_cases direct : r.isDirect
  · have weighed := h.weigh_direct weighs direct run
    rw [perform_direct respond e direct] at run
    refine ⟨h.goes_on (.ask e r direct) run rfl, ?_⟩
    have took : Asked.tookEffect d ⟨w, r, x⟩ = carriedOut x := by
      simp [Asked.tookEffect, direct]
    rwa [Asked.weigh, took]
  cases r with
  | update u =>
    obtain ⟨history, weighed⟩ := h.weigh_update weighs powered run
    refine ⟨history, ?_⟩
    by_cases same : e = d
    · subst same
      exact weighed
    · rw [if_neg fun both => same both.1] at weighed
      rwa [Asked.weigh, if_neg fun both => same both.1]
  | copy =>
    obtain ⟨_, _, copied, answer⟩ := run_bind_eq_ok.1 run
    cases answer
    refine ⟨h.goes_on (.copy e) copied rfl, ?_⟩
    rw [Asked.weigh, show Request.weigh cfg block n .copy = n from rfl, ite_self]
    exact weighs.copy ((Alike.copy e).run_plain h.wellFormed.seen copied).1
  | _ => exact absurd rfl direct

/-- What an interplay makes of the wear of a block, if no power is lost. -/
theorem weigh_run (h : History cfg m w ledger) (weighs : Weighs d block n w.plain)
    {respond : Responder Counted Nat κ μ} {p : Interplay κ μ α} {y : α}
    (powered : ∀ a ∈ p.transcript respond w, ¬ a.2.takesLast a.1)
    (run : (p.run respond).run w = .ok y v) :
    (∃ ledger, History cfg m v ledger) ∧
      Weighs d block ((p.transcript respond w).foldl (Asked.weigh cfg d block) n) v.plain := by
  -- by induction on the interplay; the wear before each step is what those before it made of it
  induction p generalizing w ledger n with
  | done a =>
    cases run
    exact ⟨⟨_, h⟩, weighs⟩
  | ask e r next ih =>
    obtain ⟨x, t, performed, rest⟩ := run_bind_eq_ok.1 run
    rw [Interplay.transcript, performed] at powered ⊢
    obtain ⟨⟨_, h'⟩, weighs'⟩ :=
      h.weigh_perform weighs (powered _ List.mem_cons_self) performed
    exact ih x h' weighs' (fun a ha => powered a (List.mem_cons_of_mem _ ha)) rest
  | copy e next ih =>
    obtain ⟨c, t, copied, rest⟩ := run_bind_eq_ok.1 run
    rw [Interplay.transcript, copied] at powered ⊢
    obtain ⟨_, h'⟩ := h.goes_on (.copy e) copied rfl
    exact ih c h' (weighs.copy ((Alike.copy e).run_plain h.wellFormed.seen copied).1) powered rest
  | drop e next ih =>
    obtain ⟨_, t, dropped, rest⟩ := run_bind_eq_ok.1 run
    rw [Interplay.transcript, dropped] at powered ⊢
    obtain ⟨_, h'⟩ := h.goes_on (.drop e) dropped (id_map _).symm
    exact ih h' (weighs.drop ((Alike.drop e).run_plain h.wellFormed.seen dropped).1) powered rest
  | install e callback next ih =>
    obtain ⟨_, t, installed, rest⟩ := run_bind_eq_ok.1 run
    rw [Interplay.transcript, installed] at powered ⊢
    obtain ⟨_, h'⟩ := h.goes_on (.install e _) installed (id_map _).symm
    exact ih h' (weighs.install ((Alike.install e _).run_plain h.wellFormed.seen installed).1)
      powered rest
  | getMemory next ih => exact ih w.memory h weighs powered run
  | setMemory m' next ih =>
    obtain ⟨_, t, remembered, rest⟩ := run_bind_eq_ok.1 run
    obtain ⟨_, h'⟩ := h.goes_on (.remember m') remembered (id_map _).symm
    cases remembered
    exact ih h' ⟨weighs.made, weighs.holds⟩ powered rest

end History

end

/-! ## Power that cannot be lost -/

section

variable [BlockStore S R] {w v : Bench S R κ μ} {respond : Responder S R κ μ}

omit [BlockStore S R] in
/-- No countdown runs. -/
def Quiet (w : Bench S R κ μ) : Prop := ∀ d r, w.rig? d = some r → r.device.countdown = 0

namespace Quiet

omit [BlockStore S R] in
theorem left (h : w.Quiet) (d : Handle) : w.left d = 0 := by
  cases hr : w.rig? d with
  | none => rw [Bench.left, hr, Option.elim_none]
  | some r =>
    rw [left_of_rig? hr, h d r hr]
    rfl

omit [BlockStore S R] in
/-- A device may be exchanged for one whose countdown does not run either, or given up. -/
theorem set (h : w.Quiet) {y : Option (Rig R κ)} (hy : ∀ r, y = some r → r.device.countdown = 0)
    (rack : v.rack = w.rack.set d y) : v.Quiet := by
  intro e r hr
  rw [rig?_eq_some, rack, List.getElem?_set] at hr
  split at hr
  · split at hr
    · exact hy r (Option.some.inj hr)
    · cases hr
  · exact h e r (rig?_eq_some.2 hr)

omit [BlockStore S R] in
theorem on (h : w.Quiet) {op : Config → FlashM S R α}
    (stays : ∀ f, f.device.countdown = 0 → (answered (op w.config) f).2.device.countdown = 0)
    {x : Except Failure α} (run : (Bench.on d op).run w = .ok x v) : v.Quiet := by
  obtain ⟨r, hr, -, rfl⟩ := run_on_eq_ok.1 run
  refine h.set (fun s hs => ?_) rfl
  cases hs
  exact stays _ (h d r hr)

theorem copy (h : w.Quiet) {c : Handle} (run : (Bench.copy d).run w = .ok c v) : v.Quiet := by
  obtain ⟨r, hr, -, rfl⟩ := run_copy_eq_ok.1 run
  intro e s hs
  rw [rig?_eq_some] at hs
  rcases List.mem_append.1 (List.mem_of_getElem? hs) with old | new
  · obtain ⟨i, there⟩ := List.mem_iff_getElem?.1 old
    exact h i s (rig?_eq_some.2 there)
  · cases List.mem_singleton.1 new
    exact h d r hr

theorem update (h : w.Quiet) {u : Update} {x : Except Failure Unit}
    (run : (Bench.update respond d u).run w = .ok x v) : v.Quiet := by
  obtain ⟨how, t, started, rest⟩ := run_bind_eq_ok.1 run
  have quiet : t.Quiet := h.on (fun f hf => by
    have leaves : Flash.Leaves id (Flash.permit w.config u : FlashM S R _) := .permit w.config u
    have same : (answered (Flash.permit w.config u) f).2.device = f.device := leaves f
    rw [Flash.answered_start_eq, same, hf]
    exact Flash.left_zero _) started
  rcases how with e | how
  · cases rest
    exact quiet
  rcases admits_of_start started with ⟨-, rfl⟩ | ⟨-, worn, rfl⟩ | ⟨-, last⟩
  · cases rest
    exact quiet
  · have leaves (cfg : Config) :
        Flash.Leaves Device.countdown (Flash.complete cfg worn u : FlashM S R _) :=
      .complete cfg worn u
    exact quiet.on (fun f hf => (leaves _ f).trans hf) rest
  · -- no update takes the last of a countdown that does not run
    rw [h.left] at last
    cases last

/-- A request that starts no countdown leaves none running. -/
theorem perform (h : w.Quiet) {r : Request} (unarmed : ∀ n, r = .setCountdown n → n = 0)
    {x : Except Failure r.Answer} (run : (Bench.perform respond d r).run w = .ok x v) :
    v.Quiet := by
  by_cases direct : r.isDirect
  · rw [perform_direct respond d direct] at run
    by_cases timed : ∃ n, r = .setCountdown n
    · obtain ⟨n, rfl⟩ := timed
      cases unarmed n rfl
      exact h.on (fun f _ => rfl) run
    · have leaves : Flash.Leaves Device.countdown (r.effect w.config : FlashM S R _) :=
        .remote w.config (fun _ _ _ => rfl) fun n same => absurd ⟨n, same⟩ timed
      exact h.on (fun f hf => (leaves f).trans hf) run
  cases r with
  | update u => exact h.update run
  | copy =>
    obtain ⟨_, _, copied, answer⟩ := run_bind_eq_ok.1 run
    cases answer
    exact h.copy copied
  | _ => exact absurd rfl direct

/-- Where no countdown runs and none is started, no power is lost. -/
theorem not_takesLast (h : w.Quiet) {p : Interplay κ μ α}
    (unarmed : ∀ a ∈ p.transcript respond w, ∀ n, a.2.request = .setCountdown n → n = 0) :
    ∀ a ∈ p.transcript respond w, ¬ a.2.takesLast a.1 := by
  induction p generalizing w with
  | done a => exact fun a ha => absurd ha List.not_mem_nil
  | ask e r next ih =>
    rw [Interplay.transcript] at unarmed ⊢
    cases performed : (Bench.perform respond e r).run w with
    | error f t => exact fun a ha => absurd ha List.not_mem_nil
    | ok x t =>
      rw [performed] at unarmed
      intro a ha
      rcases List.mem_cons.1 ha with rfl | later
      · rintro ⟨-, last⟩
        rw [h.left] at last
        cases last
      · exact ih x (h.perform (unarmed _ List.mem_cons_self) performed)
          (fun a ha => unarmed a (List.mem_cons_of_mem _ ha)) a later
  | copy e next ih =>
    rw [Interplay.transcript] at unarmed ⊢
    cases copied : (Bench.copy e).run w with
    | error f t => exact fun a ha => absurd ha List.not_mem_nil
    | ok c t =>
      rw [copied] at unarmed
      exact ih c (h.copy copied) unarmed
  | drop e next ih =>
    rw [Interplay.transcript] at unarmed ⊢
    cases dropped : (Bench.drop e).run w with
    | error f t => exact fun a ha => absurd ha List.not_mem_nil
    | ok _ t =>
      rw [dropped] at unarmed
      obtain ⟨r, -, rfl⟩ := run_drop_eq_ok.1 dropped
      exact ih (h.set (y := none) (fun _ hr => by cases hr) rfl) unarmed
  | install e callback next ih =>
    rw [Interplay.transcript] at unarmed ⊢
    cases installed : (Bench.install e (callback.map (Handler.custom · 0))).run w with
    | error f t => exact fun a ha => absurd ha List.not_mem_nil
    | ok _ t =>
      rw [installed] at unarmed
      obtain ⟨r, hr, rfl⟩ := run_install_eq_ok.1 installed
      refine ih (h.set (fun s hs => ?_) rfl) unarmed
      cases hs
      exact h e r hr
  | getMemory next ih => exact ih w.memory h unarmed
  | setMemory m next ih => exact ih (w := { w with memory := m }) h unarmed

end Quiet

/-- On a new device without a countdown none runs. -/
theorem quiet_create {m : μ} (off : cfg.countdown = 0) (made : create cfg m = .ok w) : w.Quiet := by
  obtain ⟨-, image, -, rfl⟩ := create_eq_ok.1 made
  intro d r hr
  rw [rig?_eq_some] at hr
  cases List.mem_singleton.1 (List.mem_of_getElem? hr)
  exact off

end

end Bench

end FaultyFlash
