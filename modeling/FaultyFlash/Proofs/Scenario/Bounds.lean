import FaultyFlash.Proofs.Scenario.Ends
import FaultyFlash.Proofs.Transcripts

/-!
# How often resuming scenarios lose power

A run of an untimed body loses power only if its countdown is on, and is not more than the updates
that it makes. So if no run makes more than a number of updates that count, a scenario ends as soon
as its schedule has passed that number, or is off. If all runs make just as many updates, unless
power is lost, it does not end before.

## Main definitions

* `Strategy.bound N`: the losses of power of a scenario whose runs make `N` updates
* `Scenario.Entry.transcript`, `Scenario.Entry.toll`: what a run of a program asks, and how many of
  its updates count
* `Scenario.Entry.Thrifty N`, `Scenario.Entry.Spends N`: runs that make at most `N` updates, and
  runs that make just as many, unless power is lost

## Main results

* `Strategy.toNat_log`: the countdowns of the logarithmic strategy
* `Strategy.schedule_bound`, `Strategy.schedule_below`: when a schedule passes a number
* `Scenario.losses_bounded`: how often resuming scenarios lose power
-/

namespace FaultyFlash

variable {κ μ ε : Type}

namespace Strategy

/-- How often a scenario loses power whose runs make `N` updates each, or at most as often. -/
def bound (N : Nat) : Strategy → Nat
  | none => 0
  | linear => N
  | log => if N = 0 then 0 else N.log2 + 1
  | explicit schedule => schedule.length
  | exhaustive _ => 0

variable {strategy : Strategy} {N k : Nat}

/-- The logarithmic strategy names the powers of two in turn. -/
theorem toNat_log {j : Nat} (small : j < 32) : (log.schedule j).toNat = 2 ^ j := by
  have word : j.toUInt32.toNat = j := Nat.mod_eq_of_lt (Nat.lt_trans small (by decide))
  have below : j.toUInt32 < 32 := by
    rw [UInt32.lt_iff_toNat_lt, word]
    exact small
  show (if j.toUInt32 < 32 then 1 <<< j.toUInt32 else (0xffffffff : UInt32)).toNat = 2 ^ j
  rw [if_pos below, UInt32.toNat_shiftLeft, word, Nat.mod_eq_of_lt small]
  show (1 <<< j) % 2 ^ 32 = 2 ^ j
  rw [Nat.one_shiftLeft]
  exact Nat.mod_eq_of_lt (Nat.pow_lt_pow_right (by decide) small)

/-- After so many losses of power a schedule is off, or has passed the number. -/
theorem schedule_bound (strategy : Strategy) (small : N < 0xffffffff) :
    (strategy.schedule (strategy.bound N)).toNat = 0 ∨
      N < (strategy.schedule (strategy.bound N)).toNat := by
  rcases strategy with _ | _ | _ | schedule | depth
  · exact .inl rfl
  · refine .inr ?_
    show N < (linear.schedule N).toNat
    rw [toNat_linear small]
    exact Nat.lt_succ_self N
  · refine .inr ?_
    by_cases none : N = 0
    · subst none
      decide
    rw [bound, if_neg none]
    have words : N.log2 < 32 := (Nat.log2_lt none).2 (Nat.lt_trans small (by decide))
    rcases (Nat.lt_or_eq_of_le words : N.log2 + 1 < 32 ∨ N.log2 + 1 = 32) with more | last
    · rw [toNat_log more]
      exact Nat.lt_log2_self
    · -- past the last power of two that is a word, the countdowns are as long as they can be
      rw [last]
      exact small
  · refine .inl ?_
    show (schedule[schedule.length]?.getD 0).toNat = 0
    rw [List.getElem?_eq_none (Nat.le_refl _)]
    rfl
  · exact .inl rfl

/-- Before, the strategies with longer and longer countdowns are on, and have not passed it. -/
theorem schedule_below (small : N < 0xffffffff) (grows : strategy = .linear ∨ strategy = .log)
    (below : k < strategy.bound N) :
    0 < (strategy.schedule k).toNat ∧ (strategy.schedule k).toNat ≤ N := by
  rcases grows with rfl | rfl
  · have below : k < N := below
    rw [toNat_linear (Nat.lt_trans below small)]
    exact ⟨Nat.succ_pos k, below⟩
  · by_cases none : N = 0
    · subst none
      cases below
    rw [bound, if_neg none] at below
    have words : N.log2 < 32 := (Nat.log2_lt none).2 (Nat.lt_trans small (by decide))
    rw [toNat_log (show k < 32 by omega)]
    refine ⟨Nat.two_pow_pos k, ?_⟩
    calc 2 ^ k ≤ 2 ^ N.log2 := Nat.pow_le_pow_right (by decide) (Nat.le_of_lt_succ below)
      _ ≤ N := Nat.log2_self_le none

end Strategy

namespace Scenario

open Bench

/-! ## What a run takes -/

section

variable (callbacks : Callbacks κ μ) (nesting : Nat) (p : Nat → Program κ μ (Except ε Unit))

/-- The body whose runs are given by programs. -/
abbrev programs : Body Counted Nat κ μ ε := fun n d => (p n).execute callbacks nesting d

/-- What a run of programs asks of its device. -/
def Entry.transcript (e : Entry Counted Nat κ μ ε) : List (Asked Counted Nat κ μ) :=
  (p e.number).transcript (respond callbacks nesting) e.device e.start

/-- How many of the updates of a run count. -/
def Entry.toll (e : Entry Counted Nat κ μ ε) : Nat :=
  (e.transcript callbacks nesting p).countP (Asked.counts e.device)

/-- Was a run told of a loss of power? -/
def Entry.told (e : Entry Counted Nat κ μ ε) : Bool :=
  (e.transcript callbacks nesting p).any Asked.lostPower

variable [PowerLossAware ε]

/-- A run that makes at most `N` updates that count, and ends well, or in a loss of power that it
was told of. -/
structure Entry.Thrifty (N : Nat) (e : Entry Counted Nat κ μ ε) : Prop where
  toll : e.toll callbacks nesting p ≤ N
  ends {x : ε} {v : Bench Counted Nat κ μ} (h : e.outcome = .ok (.error x) v) :
    PowerLossAware.isPowerLoss x = true ∧ e.told callbacks nesting p

/-- A run that ends in a loss of power if it was told of one, and otherwise makes `N` updates that
count. -/
structure Entry.Spends (N : Nat) (e : Entry Counted Nat κ μ ε) : Prop where
  lost (h : e.told callbacks nesting p) : e.LosesPower
  toll (h : ¬ e.told callbacks nesting p) : e.toll callbacks nesting p = N

end

variable {callbacks : Callbacks κ μ} {nesting : Nat} {p : Nat → Program κ μ (Except ε Unit)}
  {cfg : Config} {d : Handle} {w v : Bench Counted Nat κ μ} {s : Nat → UInt32} {i k N limit : Nat}
  {e : Entry Counted Nat κ μ ε}

/-- A run of an untimed program does not get stuck. It is told of a loss of power only if the
countdown is on, and no more is left of it than updates that count; and if so, it is told, unless
the image file refuses to be written. -/
theorem Entry.takes (callbacks : Callbacks κ μ) (nesting : Nat) (untimed : ∀ n, (p n).Untimed)
    (blocks : cfg.geometry.blockSize < Config.allocationLimit) (h : Ready cfg d w) (n : Nat) :
    let e := Entry.of (programs callbacks nesting p) n d w
    (∃ x v, e.outcome = .ok x v ∧ Ready cfg d v) ∧
      (e.told callbacks nesting p →
        0 < w.left d ∧ w.left d ≤ e.toll callbacks nesting p) ∧
      (cfg.image ≠ .sealed → ¬ e.told callbacks nesting p →
        w.left d = 0 ∨ e.toll callbacks nesting p < w.left d) := by
  obtain ⟨x, v, ran, ready, told, spared⟩ :=
    (untimed n).run blocks h (respond callbacks nesting)
  exact ⟨⟨x, v, ran, ready⟩, told, spared⟩

/-- To arm a countdown leaves a bench ready. -/
theorem ready_of_armed (h : Ready cfg d w) {n : UInt32} {x : Except Failure Unit}
    (armed : (arm d n).run w = .ok x v) : Ready cfg d v := by
  -- to arm is to ask for the countdown to be set
  have asked : (perform (fun _ _ => throw .exhausted) d (.setCountdown n)).run w = .ok x v := armed
  have wellFormed := h.wellFormed.perform h.bare asked
  obtain ⟨r, hr, -, rfl⟩ := run_arm_eq_ok.1 armed
  obtain ⟨r', hr', bare⟩ := h.bare
  cases hr.symm.trans hr'
  exact ⟨wellFormed, h.config, ⟨_, rig?_settle hr _, bare⟩⟩

variable [PowerLossAware ε]

/-- Every run of untimed programs starts on a bench that is ready, with the countdown that was armed
for it. -/
theorem starts_ready (untimed : ∀ n, (p n).Untimed)
    (blocks : cfg.geometry.blockSize < Config.allocationLimit) (h : Ready cfg d w)
    (armed : (w.rig? d).map (fun r => r.device.countdown) = some (s i))
    (he : (entries s (programs callbacks nesting p) d limit (.after s i) w)[k]? = some e) :
    ∃ v, e = .of (programs callbacks nesting p) (i + k + 1) d v ∧ Ready cfg d v ∧
      v.left d = (s (i + k)).toNat := by
  obtain ⟨v, rfl, countdown⟩ := starts_armed armed he
  refine ⟨v, rfl, ?_, ?_⟩
  · refine starts_of_keeps (I := Ready cfg d) (fun n w x v hw ran => ?_) ?_ h he
    · obtain ⟨⟨x', v', ran', ready⟩, -⟩ :=
        Entry.takes callbacks nesting untimed blocks hw n
      cases ran.symm.trans ran'
      exact ready
    · exact fun n w x v hw armed => ready_of_armed hw armed
  · obtain ⟨r, hr, last⟩ := Option.map_eq_some_iff.1 countdown
    rw [left_of_rig? hr, last]

/-- A thrifty run loses power only if its countdown is on, and no more than `N` is left of it. A run
that spends as much ends otherwise only if it is off, or more is left, unless the image file refuses
to be written. -/
theorem left_of_run (untimed : ∀ n, (p n).Untimed)
    (blocks : cfg.geometry.blockSize < Config.allocationLimit) (h : Ready cfg d w) (n : Nat) :
    let e := Entry.of (programs callbacks nesting p) n d w
    (e.Thrifty callbacks nesting p N → e.LosesPower → 0 < w.left d ∧ w.left d ≤ N) ∧
      (cfg.image ≠ .sealed → e.Spends callbacks nesting p N → ¬ e.LosesPower →
        w.left d = 0 ∨ N < w.left d) := by
  obtain ⟨-, told, spared⟩ := Entry.takes callbacks nesting untimed blocks h n
  constructor
  · rintro thrifty ⟨x, v, ran, -⟩
    obtain ⟨-, lost⟩ := thrifty.ends ran
    exact ⟨(told lost).1, Nat.le_trans (told lost).2 thrifty.toll⟩
  · intro taken spends goesOn
    have quiet := fun lost => goesOn (spends.lost lost)
    rw [← spends.toll quiet]
    exact spared taken quiet

/-! ## All runs -/

/-- A scenario of thrifty runs comes to a good end as soon as its schedule is off, or has passed
`N`. All its runs lose power but the last. -/
theorem resuming_bounded {b : Nat} (untimed : ∀ n, (p n).Untimed)
    (blocks : cfg.geometry.blockSize < Config.allocationLimit) (ready : Ready cfg d w)
    (armed : (w.rig? d).map (fun r => r.device.countdown) = some (s 0))
    (passed : (s b).toNat = 0 ∨ N < (s b).toNat) (enough : b < limit)
    (thrifty : ∀ e ∈ entries s (programs callbacks nesting p) d limit (.after s 0) w,
      e.Thrifty callbacks nesting p N) :
    ∃ front last v,
      entries s (programs callbacks nesting p) d limit (.after s 0) w = front ++ [last] ∧
      ¬ last.LosesPower ∧ front.length ≤ b ∧
      (resuming s (programs callbacks nesting p) d limit (.after s 0)).run w =
        .ok (.ok (Progress.after s front.length).report.addRun) v := by
  have live : w.isLive d := by
    obtain ⟨r, hr, -⟩ := ready.bare
    exact isLive_of_rig? hr
  have ends {e : Entry Counted Nat κ μ ε}
      (he : (entries s (programs callbacks nesting p) d limit (.after s 0) w)[b]? = some e) :
      ¬ e.LosesPower := by
    intro lost
    obtain ⟨v, rfl, there, left⟩ := starts_ready untimed blocks ready armed he
    obtain ⟨on, few⟩ :=
      (left_of_run untimed blocks there _).1 (thrifty _ (List.mem_of_getElem? he)) lost
    rw [left, Nat.zero_add] at on few
    omega
  have tame : Tame (programs callbacks nesting p) := tame_execute callbacks nesting p
  rcases resuming_ends (s := s) (i := 0) tame limit live with
    ⟨length, lost, -⟩ | ⟨front, last, split, lost, goesOn, comes⟩
  · -- not all of so many runs lose power
    have inside := List.getElem?_eq_getElem
      (l := entries s (programs callbacks nesting p) d limit (.after s 0) w) (i := b) (by omega)
    exact absurd (lost _ (List.mem_of_getElem? inside)) (ends inside)
  have there : (entries s (programs callbacks nesting p) d limit (.after s 0) w)[front.length]? =
      some last := by
    rw [split]
    exact List.getElem?_concat_length
  -- the last run ends, and not by a failure, as it does not lose power
  obtain ⟨v, rfl, start, -⟩ := starts_ready untimed blocks ready armed there
  obtain ⟨⟨x, t, ran, -⟩, -⟩ := Entry.takes callbacks nesting untimed blocks start _
  have well : x = .ok () := by
    rcases x with x | _
    · obtain ⟨loss, -⟩ := (thrifty _ (List.mem_of_getElem? there)).ends ran
      exact absurd ⟨x, t, ran, loss⟩ goesOn
    · rfl
  refine ⟨front, _, t, split, goesOn, Nat.not_lt.1 fun far => ?_, ?_⟩
  · refine ends ?_ (lost _ (List.getElem_mem far))
    rw [split, List.getElem?_append_left far, List.getElem?_eq_getElem far]
  · rw [comes, Entry.concludes, ran, well, Nat.zero_add]
    rfl

variable {strategy : Strategy} {memory : μ}

omit [PowerLossAware ε] in
theorem ready_create (made : create (configFor strategy cfg) memory = .ok w) :
    Ready (configFor strategy cfg) 0 w := by
  have wellFormed := wellFormed_create made
  obtain ⟨-, image, -, rfl⟩ := create_eq_ok.1 made
  exact ⟨wellFormed, rfl, ⟨_, rfl, rfl⟩⟩

/-- How often resuming scenarios lose power.

Let a body be given by programs that touch neither the countdown nor the callback of their device.
If each of its runs makes at most `N` updates that count, and ends well, or in a loss of power that
it was told of, then a scenario that follows a schedule comes to a good end. It loses power never if
the strategy says so, at most `N` times if it is linear, once more than the logarithm of `N` to the
base of two at most if it is logarithmic, or never if `N` is zero, and at most once for each
countdown of a list. If, moreover, each run ends in a loss of power if it was told of one, and makes
just `N` updates otherwise, then it loses power just as often where the countdowns grow, unless the
image file refuses to be written: runs would be told of that instead. -/
theorem losses_bounded (callbacks : Callbacks κ μ) (nesting : Nat)
    {p : Nat → Program κ μ (Except ε Unit)} (untimed : ∀ n, (p n).Untimed)
    (small : N < 0xffffffff) (h : strategy.Resumes)
    (blocks : cfg.geometry.blockSize < Config.allocationLimit)
    (made : create (configFor strategy cfg) memory = .ok w) (enough : strategy.bound N < limit)
    (thrifty : ∀ e ∈ journal strategy (programs callbacks nesting p) limit w,
      e.Thrifty callbacks nesting p N) :
    ∃ (report : Report) (v : Bench Counted Nat κ μ),
      run callbacks nesting limit strategy cfg memory p = .ok ⟨.ok report, some v⟩ ∧
      report.powerLosses ≤ strategy.bound N ∧
      (cfg.image ≠ .sealed →
        (∀ e ∈ journal strategy (programs callbacks nesting p) limit w,
          e.Spends callbacks nesting p N) →
        strategy = .linear ∨ strategy = .log → report.powerLosses = strategy.bound N) := by
  have ready : Ready (configFor strategy cfg) 0 w := ready_create made
  have blocks : (configFor strategy cfg).geometry.blockSize < Config.allocationLimit := blocks
  rw [journal_eq_entries h] at thrifty ⊢
  obtain ⟨front, last, v, split, goesOn, few, comes⟩ := resuming_bounded untimed blocks ready
    (countdown_create made) (strategy.schedule_bound small) enough thrifty
  refine ⟨(Progress.after strategy.schedule front.length).report.addRun, v,
    runBody_eq_ok.2 ⟨w, made, ?_⟩, few, fun taken spends grows => ?_⟩
  · rw [drive_eq_resuming h]
    exact comes
  · refine Nat.le_antisymm few (Nat.not_lt.1 fun short => ?_)
    rw [split] at spends
    have there : (front ++ [last])[front.length]? = some last := List.getElem?_concat_length
    rw [← split] at there
    -- the last run did not use up what was left of the countdown, which was not more than `N`
    obtain ⟨t, rfl, start, left⟩ := starts_ready untimed blocks ready (countdown_create made) there
    have much := (left_of_run untimed blocks start _).2 taken
      (spends _ (List.mem_append_right _ (List.mem_singleton_self _))) goesOn
    rw [left, Nat.zero_add] at much
    have below : front.length < strategy.bound N := short
    have armed := strategy.schedule_below small grows below
    omega

/-- Does a run end as its updates tell, and make `N` of them that count, unless power is lost? -/
def Entry.isExact (callbacks : Callbacks κ μ) (nesting : Nat)
    (p : Nat → Program κ μ (Except ε Unit)) (N : Nat) (e : Entry Counted Nat κ μ ε) : Bool :=
  match e.outcome with
  | .ok (.ok ()) _ => !e.told callbacks nesting p && e.toll callbacks nesting p == N
  | .ok (.error x) _ => PowerLossAware.isPowerLoss x && e.told callbacks nesting p &&
      decide (e.toll callbacks nesting p ≤ N)
  | .error .. => false

theorem Entry.exact (h : e.isExact callbacks nesting p N) :
    e.Thrifty callbacks nesting p N ∧ e.Spends callbacks nesting p N := by
  unfold isExact at h
  split at h
  · next v ran =>
    simp only [Bool.and_eq_true, Bool.not_eq_true', beq_iff_eq] at h
    refine ⟨⟨Nat.le_of_eq h.2, fun failed => ?_⟩, fun told => ?_, fun _ => h.2⟩
    · cases ran.symm.trans failed
    · rw [h.1] at told
      cases told
  · next x v ran =>
    simp only [Bool.and_eq_true, decide_eq_true_eq] at h
    refine ⟨⟨h.2, fun failed => ?_⟩, fun _ => ⟨x, v, ran, h.1.1⟩, fun spared => absurd h.1.2 spared⟩
    cases ran.symm.trans failed
    exact h.1
  · cases h

theorem untimed_rewriteFirst : rewriteFirst.Untimed := by
  refine ⟨nofun, fun x _ => ?_⟩
  rcases x with e | _
  · exact trivial
  · exact ⟨nofun, fun _ _ => trivial⟩

/-- With an erase and a prog in each of its runs, a linear scenario loses power twice. -/
theorem losses_bounded_rewriting : ∃ (report : Report) (v : Bench Counted Nat Unit Unit),
    run (fun _ _ => .done (.ok .resume)) 0 3 .linear frayedPair () (fun _ => rewriteFirst) =
      .ok ⟨.ok report, some v⟩ ∧ report.powerLosses = 2 := by
  obtain ⟨w, made, exact⟩ : ∃ w : Bench Counted Nat Unit Unit,
      create (configFor .linear frayedPair) () = .ok w ∧
        (journal .linear (programs (fun _ _ => .done (.ok .resume)) 0 fun _ => rewriteFirst) 3
          w).all (Entry.isExact (fun _ _ => .done (.ok .resume)) 0 (fun _ => rewriteFirst) 2) := by
    exact ⟨_, rfl, by decide +kernel⟩
  have runs := fun e he => Entry.exact (List.all_eq_true.1 exact e he)
  have follows : Strategy.linear.Resumes := trivial
  obtain ⟨report, v, ran, -, often⟩ := losses_bounded (fun _ _ => .done (.ok .resume)) 0
    (fun _ => untimed_rewriteFirst) (by decide) follows (by decide) made (by decide)
    fun e he => (runs e he).1
  exact ⟨report, v, ran, often (by decide) (fun e he => (runs e he).2) (.inl rfl)⟩

end Scenario

end FaultyFlash
