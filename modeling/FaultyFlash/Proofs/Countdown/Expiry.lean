import FaultyFlash.Proofs.Countdown.Silenced

/-!
# The countdown runs out once

A program that leaves the countdown of its device alone, and installs no callback, is told of one
loss of power at most: at the request that takes the last of the countdown. Up to there nothing but
the countdown tells its run from the same run with the countdown off. That request does lose power,
and is told so, unless an image file that refuses to be written is told instead.

## Main definitions

* `Program.Passive`: programs that neither set the countdown of their device nor install a callback
* `Asked.Timed`: what is asked while the device counts down, and what is asked with the countdown
  off

## Main results

* `Program.Passive.run`: the requests of such a program, one by one
* `Bench.expires`: the countdown of a device that can be reached runs out once
-/

namespace FaultyFlash

variable {S R κ μ α β : Type} {cfg : Config} {d : Handle} {k n before : Nat}

/-- A program that neither sets the countdown of its device nor installs a callback on it. -/
def Program.Passive (p : Program κ μ α) : Prop :=
  p.Abides (fun r => ∀ n, r ≠ .setCountdown n) (fun c => c = none) (fun _ => True) fun _ => True

/-- A request of a device that had `n` left of its countdown and took of it `before` times, compared
with the request that is in its place where the countdown is off. Power is lost if it counts as the
`n`-th. Until then, the bench and the answer are the same apart from the countdown. -/
structure Asked.Timed [BlockStore S R] (d : Handle) (k n before : Nat) (a : Asked S R κ μ)
    (quiet : Option (Asked S R κ μ)) : Prop where
  left : a.bench.left d = n - before
  /-- The `n`-th that counts reports the loss of power, or that the image file could not be written
  as power was lost. -/
  last : a.counts d → before + 1 = n → a.answer = .error a.bench.lossReport
  /-- No other reports a loss of power. -/
  lost : a.lostPower → a.counts d ∧ before + 1 = n
  same : before < n → ∃ y, quiet = some ⟨a.bench.silenced d k, a.request, y⟩ ∧
    (¬ (a.counts d ∧ before + 1 = n) →
      a.request.apartCountdown y = a.request.apartCountdown a.answer)

/-- What follows one more request of which it is known whether it took of the countdown. -/
theorem Asked.Timed.after [BlockStore S R] {a : Asked S R κ μ}
    {quiet quiet' : Option (Asked S R κ μ)} {first : Bool}
    (h : a.Timed d k (n - first.toNat) before quiet)
    (goesOn : before + first.toNat < n → quiet' = quiet) :
    a.Timed d k n (before + first.toNat) quiet' where
  left := by rw [h.left, Nat.sub_sub, Nat.add_comm]
  last counts now := h.last counts (by omega)
  lost told := (h.lost told).imp_right fun now => by omega
  same more := by
    rw [goesOn more]
    obtain ⟨y, there, alike⟩ := h.same (by omega)
    exact ⟨y, there, fun spared => alike fun ⟨counts, now⟩ => spared ⟨counts, by omega⟩⟩

namespace Bench

/-- To remove the callback of a device that has none does nothing. -/
theorem Bare.run_install {w : Bench S R κ μ} (h : Bare d w) :
    (install d none).run w = .ok () w := by
  obtain ⟨⟨D, callback⟩, hr, rfl⟩ := h
  rw [Bench.run_install, hr]
  exact congrArg (EStateM.Result.ok ()) (settle_flash hr)

/-- Where the countdown is off, a request is answered, too; and alike, apart from the countdown, if
it does not take the last of the countdown. -/
theorem Ready.perform_silenced {w u : Bench Counted Nat κ μ} (h : Ready cfg d w)
    (later : k ≤ w.rack.length) (respond : Responder Counted Nat κ μ) {r : Request}
    (untimed : ∀ n, r ≠ .setCountdown n) {x : Except Failure r.Answer}
    (performed : (Bench.perform respond d r).run w = .ok x u) :
    ∃ y u', (Bench.perform respond d r).run (w.silenced d k) = .ok y u' ∧
      (¬ (w.admits d r ∧ w.left d = 1) →
        u' = u.silenced d k ∧ r.apartCountdown y = r.apartCountdown x) := by
  by_cases last : w.admits d r ∧ w.left d = 1
  · obtain ⟨s, hs, bare⟩ := h.bare
    have off : Bare d (w.silenced d k) := ⟨_, rig?_silenced hs, bare⟩
    obtain ⟨y, u', quietly, -⟩ := off.perform respond untimed
    exact ⟨y, u', quietly, fun goesOn => absurd last goesOn⟩
  · obtain ⟨y, quietly, same⟩ := h.bare.perform_silenced respond untimed later last performed
    exact ⟨y, _, quietly, fun _ => ⟨rfl, same⟩⟩

end Bench

open Bench

variable {w : Bench Counted Nat κ μ} {p : Program κ μ α}

/-- The requests of a passive program, one by one. If fewer of them count than were left of the
countdown, the program ends as it does with the countdown off. -/
theorem Program.Passive.run (passive : p.Passive) (blind : p.Blind Request.apartCountdown)
    (limit : cfg.geometry.blockSize < Config.allocationLimit) (h : Ready cfg d w)
    (later : k ≤ w.rack.length) (respond : Responder Counted Nat κ μ) :
    ∃ a v, (p.run respond d).run w = .ok a v ∧
      v.left d = w.left d - (p.transcript respond d w).countP (Asked.counts d) ∧
      (∀ (i : Nat) (x : Asked Counted Nat κ μ), (p.transcript respond d w)[i]? = some x →
        x.Timed d k (w.left d) (((p.transcript respond d w).take i).countP (Asked.counts d))
          (p.transcript respond d (w.silenced d k))[i]?) ∧
      ((p.transcript respond d w).countP (Asked.counts d) < w.left d →
        (p.run respond d).run (w.silenced d k) = .ok a (v.silenced d k)) := by
  -- by induction on the program; the two runs go on together until power is lost
  induction p generalizing w with
  | done a =>
    refine ⟨a, w, rfl, ?_, fun i x hx => ?_, fun _ => rfl⟩
    · rw [transcript, List.countP_nil, Nat.sub_zero]
    · simp [transcript] at hx
  | ask r next ih =>
    obtain ⟨x, u, performed, ready, left, lost, last⟩ := h.perform limit respond passive.1
    obtain ⟨y, u', quietly, same⟩ := h.perform_silenced later respond passive.1 performed
    obtain ⟨a, v, ran, left', timed, ends⟩ := ih x (passive.2 x fun _ _ => trivial) (blind.2 x)
      ready (Nat.le_trans later (h.bare.length_perform performed))
    -- while something is left after the request, what follows is the same with the countdown off
    have goesOn (more : (w.admits d r).toNat < w.left d) :
        u' = u.silenced d k ∧ next y = next x := by
      have spared : ¬ (w.admits d r ∧ w.left d = 1) := by
        rintro ⟨counts, one⟩
        rw [counts, one] at more
        exact absurd more (by decide)
      obtain ⟨silenced, seen⟩ := same spared
      exact ⟨silenced, by rw [blind.1 y, seen, ← blind.1 x]⟩
    simp only [transcript, performed, quietly, Program.run, EStateM.run_bind,
      Asked.countP_counts_cons]
    rw [left] at left' timed ends
    refine ⟨a, v, ran, ?_, fun i z hz => ?_, fun more => ?_⟩
    · rw [left', Nat.sub_sub, Nat.add_comm]
    · cases i with
      | zero =>
        obtain rfl := Option.some.inj hz
        refine ⟨rfl, fun counts now => last counts now.symm, fun told => ?_, fun _ => ⟨y, rfl,
          fun spared => (same fun now => spared ⟨now.1, now.2.symm⟩).2⟩⟩
        exact (lost (Asked.lostPower_iff.1 told)).imp_right Eq.symm
      | succ i =>
        rw [List.take_succ_cons, Asked.countP_counts_cons]
        refine (timed i z hz).after fun more => ?_
        obtain ⟨rfl, onward⟩ := goesOn (by omega)
        rw [List.getElem?_cons_succ, onward]
    · obtain ⟨rfl, onward⟩ := goesOn (by omega)
      rw [onward]
      exact ends (by omega)
  | install callback next ih =>
    obtain ⟨rfl, rest⟩ := passive
    have nothing := h.bare.run_install
    have nothing' : (Bench.install d none).run (w.silenced d k) = .ok () (w.silenced d k) := by
      obtain ⟨s, hs, bare⟩ := h.bare
      exact Bare.run_install ⟨_, rig?_silenced hs, bare⟩
    simp only [transcript, Program.run, EStateM.run_bind, Option.map_none, nothing, nothing']
    exact ih rest blind h later
  | getMemory next ih => exact ih w.memory (passive w.memory) (blind w.memory) h later
  | setMemory m next ih => exact ih passive blind (h.remember m) later

namespace Bench

/-- A device of one block of two bytes, which loses power at its second update. -/
def fused : Config where
  geometry := ⟨1, 1, 2, 1⟩
  eraseValue := some 0xff
  countdown := 2
  crash := .someBits

/-- Programs the block, twice without an erase between, and erases it twice. -/
def eraseLate : Program Unit Unit Unit :=
  .ask (.update (.prog 0 0 [1, 2])) fun _ => .ask (.update (.prog 0 0 [1, 2])) fun _ =>
    .ask (.update (.erase 0)) fun _ => .ask (.update (.erase 0)) fun _ => .done ()

end Bench

end FaultyFlash
