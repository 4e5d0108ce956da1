import FaultyFlash.Draws
import FaultyFlash.Proofs.Draws.Streams
import Mathlib.Data.FinEnum
import Mathlib.Dynamics.PeriodicPts.Lemmas

/-!
# The orbits of a generator

Each shift of a step can be undone, so a step permutes the words, and it fixes zero. A generator
that is not zero therefore never becomes zero, never meets another one, and comes back to where it
was. Zero counts as all ones, so this holds of every generator from its first word on. Draws of
different kinds take their words from the one stream, so it does not matter in which way the words
are drawn.

## Main definitions

* `Draw.count`, `Draw.total`: the words that a draw takes, and that some draws take
* `Draw.reading`, `Draw.readings`: what draws give, read off the words they take

## Main results

* `Generator.scramble_injective`: a step can be undone
* `Generator.play_eq`: draws of any kinds read the stream of words
* `Generator.orbits`: no state is zero, states do not meet, and every state comes back
-/

namespace FaultyFlash

namespace Draw

/-- The number of words a draw takes. -/
def count : Draw → Nat
  | word => 1
  | below n => if n = 0 then 0 else 1
  | fill len => Generator.wordsFor len

/-- The number of words some draws take. -/
def total (ds : List Draw) : Nat := (ds.map count).sum

/-- What a draw gives, read off the words it takes. -/
def reading (ws : List UInt32) : Draw → Except Defect Drawn
  | word => .ok (.number (ws.headD 0).toNat)
  | below n => if n = 0 then .error .emptyRange else .ok (.number ((ws.headD 0).toNat % n))
  | fill len => .ok (.bytes ((ws.flatMap Bytes.ofWord).take len))

/-- What some draws give, read off words that they take one after another. -/
def readings : List Draw → List UInt32 → List (Except Defect Drawn)
  | [], _ => []
  | d :: ds, ws => d.reading (ws.take d.count) :: readings ds (ws.drop d.count)

end Draw

namespace Generator

open Function (Injective)

/-! ## Draws of different kinds -/

@[simp] theorem length_words (n : Nat) (g : Generator) : (words n g).1.length = n := by
  induction n generalizing g with
  | zero => rfl
  | succ n ih => exact congrArg (· + 1) (ih g.next.2)

theorem words_add (m n : Nat) (g : Generator) :
    (words (m + n) g).1 = (words m g).1 ++ (words n (after m g)).1 := by
  induction m generalizing g with
  | zero => rw [Nat.zero_add]; rfl
  | succ m ih =>
    rw [Nat.add_right_comm]
    exact congrArg (g.next.1 :: ·) (ih g.next.2)

/-- A draw reads the words that it takes. -/
theorem perform_eq (d : Draw) (g : Generator) :
    d.perform g = (d.reading (words d.count g).1, after d.count g) := by
  cases d with
  | word => rfl
  | below n =>
    by_cases h : n = 0
    · subst h
      rfl
    · simp only [Draw.perform, below_of_ne_zero g h, Draw.reading, Draw.count, if_neg h]
      rfl
  | fill len =>
    simp only [Draw.perform, fill_eq]
    rfl

/-- Draws of any kinds read the stream of words. -/
theorem play_eq (ds : List Draw) (g : Generator) :
    (g.play ds).1.map Prod.fst = Draw.readings ds (words (Draw.total ds) g).1 ∧
      (g.play ds).2 = after (Draw.total ds) g := by
  induction ds generalizing g with
  | nil => exact ⟨rfl, rfl⟩
  | cons d ds ih =>
    obtain ⟨readings, last⟩ := ih (after d.count g)
    have total : Draw.total (d :: ds) = d.count + Draw.total ds := List.sum_cons
    have here : (words d.count g).1.length = d.count := length_words d.count g
    constructor
    · rw [total, words_add, Draw.readings, List.take_left' here, List.drop_left' here, ← readings]
      simp only [play, perform_eq, List.map_cons]
    · rw [total, after_add, ← last]
      simp only [play, perform_eq]

/-! ## A step can be undone -/

theorem eq_zero_of_shiftLeft_eq {x s : UInt32} (hs : s.toNat % 32 ≠ 0) (h : x <<< s = x) :
    x = 0 := by
  refine UInt32.toBitVec_inj.1 (BitVec.eq_of_getLsbD_eq fun i hi => ?_)
  -- a bit is the one `s` below it, or is shifted in
  induction i using Nat.strong_induction_on with
  | _ i ih =>
    have bit : x.toBitVec.getLsbD i =
        (decide (i < 32) && !decide (i < s.toNat % 32) &&
          x.toBitVec.getLsbD (i - s.toNat % 32)) := by
      conv_lhs => rw [← h]
      simp [UInt32.toBitVec_shiftLeft]
    rw [bit]
    by_cases low : i < s.toNat % 32
    · simp [low]
    · rw [ih (i - s.toNat % 32) (by omega) (by omega)]
      simp

theorem eq_zero_of_shiftRight_eq {x s : UInt32} (hs : s.toNat % 32 ≠ 0) (h : x >>> s = x) :
    x = 0 := by
  have half : x.toNat / 2 ^ (s.toNat % 32) = x.toNat := by
    rw [← Nat.shiftRight_eq_div_pow, ← UInt32.toNat_shiftRight, h]
  by_contra nonzero
  have positive : 0 < x.toNat := Nat.pos_of_ne_zero fun e => nonzero (UInt32.toNat_inj.1 e)
  exact (Nat.div_lt_self positive (Nat.one_lt_two_pow hs)).ne half

/-- A word combined with a shift of itself can be recovered, as no word but zero is a shift of
itself. -/
theorem injective_xor {f : UInt32 → UInt32} (linear : ∀ x y, f (x ^^^ y) = f x ^^^ f y)
    (fixed : ∀ x, f x = x → x = 0) : Injective fun x => x ^^^ f x := by
  intro x y (h : x ^^^ f x = y ^^^ f y)
  have difference : f (x ^^^ y) = x ^^^ y := by
    rw [linear]
    calc f x ^^^ f y = x ^^^ (x ^^^ f x) ^^^ f y := by
          rw [← UInt32.xor_assoc x x, UInt32.xor_self, UInt32.zero_xor]
      _ = x ^^^ (y ^^^ f y) ^^^ f y := by rw [h]
      _ = x ^^^ y := by rw [UInt32.xor_assoc, UInt32.xor_assoc, UInt32.xor_self, UInt32.xor_zero]
  exact UInt32.xor_eq_zero_iff.1 (fixed _ difference)

/-- A step can be undone. -/
theorem scramble_injective : Injective scramble := by
  have left (s : UInt32) (hs : s.toNat % 32 ≠ 0) : Injective fun x : UInt32 => x ^^^ (x <<< s) :=
    injective_xor (fun _ _ => UInt32.shiftLeft_xor) fun _ => eq_zero_of_shiftLeft_eq hs
  have right (s : UInt32) (hs : s.toNat % 32 ≠ 0) : Injective fun x : UInt32 => x ^^^ (x >>> s) :=
    injective_xor (fun _ _ => UInt32.shiftRight_xor) fun _ => eq_zero_of_shiftRight_eq hs
  exact (left 5 (by decide)).comp ((right 17 (by decide)).comp (left 13 (by decide)))

theorem scramble_eq_zero {x : UInt32} : scramble x = 0 ↔ x = 0 :=
  scramble_injective.eq_iff' rfl

/-! ## The states along the stream -/

variable {g h : Generator}

theorem live_ne_zero (g : Generator) : g.live ≠ 0 := by
  rw [live]
  split
  · decide
  · assumption

theorem live_of_ne_zero (nonzero : g.state ≠ 0) : g.live = g.state := if_neg nonzero

/-- After a word the state is not zero. -/
theorem state_after_ne_zero (k : Nat) (g : Generator) : (after (k + 1) g).state ≠ 0 := by
  rw [after_add]
  exact fun zero => live_ne_zero _ (scramble_eq_zero.1 zero)

/-- After a word the state is the last one. -/
theorem getLast?_words (k : Nat) (g : Generator) :
    (words (k + 1) g).1.getLast? = some (after (k + 1) g).state := by
  rw [words_add, after_add]
  exact List.getLast?_concat

/-- From a state that is not zero, the steps are iterates of one permutation. -/
theorem after_eq_iterate (nonzero : g.state ≠ 0) (k : Nat) :
    after k g = ⟨scramble^[k] g.state⟩ := by
  induction k generalizing g with
  | zero => rfl
  | succ k ih =>
    have step : g.next.2.state = scramble g.state := congrArg scramble (live_of_ne_zero nonzero)
    have later : g.next.2.state ≠ 0 := state_after_ne_zero 0 g
    rw [after_succ, ih later, step, Function.iterate_succ_apply]

/-- Different states that are not zero stay different. -/
theorem after_injective (hg : g.state ≠ 0) (hh : h.state ≠ 0) {k : Nat}
    (same : after k g = after k h) : g = h := by
  rw [after_eq_iterate hg, after_eq_iterate hh, mk.injEq] at same
  exact congrArg mk (scramble_injective.iterate k same)

/-- The states that are not zero are permuted. -/
theorem bijOn_next :
    Set.BijOn (fun x : UInt32 => (next ⟨x⟩).2.state) {x | x ≠ 0} {x | x ≠ 0} := by
  refine ⟨fun x _ => state_after_ne_zero 0 ⟨x⟩, fun x hx y hy same => ?_, fun y hy => ?_⟩
  · exact congrArg state (after_injective (g := ⟨x⟩) (h := ⟨y⟩) hx hy (k := 1) (congrArg mk same))
  · obtain ⟨x, rfl⟩ := Finite.surjective_of_injective scramble_injective y
    have hx : x ≠ 0 := fun zero => hy (scramble_eq_zero.2 zero)
    exact ⟨x, hx, congrArg scramble (live_of_ne_zero (g := ⟨x⟩) hx)⟩

/-- A state that is not zero comes back. -/
theorem exists_period (nonzero : g.state ≠ 0) : ∃ p > 0, ∀ k, after (k + p) g = after k g := by
  obtain ⟨p, positive, returns⟩ := scramble_injective.mem_periodicPts g.state
  refine ⟨p, positive, fun k => ?_⟩
  rw [after_eq_iterate nonzero, after_eq_iterate nonzero, Function.iterate_add_apply, returns]

/-- Whatever draws are made, they read the stream of words, and once there was a word the state is
the last one and not zero. The states that are not zero are permuted by a step, zero counts as
all ones, different states do not meet, and the states from the first word on come back again and
again. -/
theorem orbits :
    (∀ (g : Generator) (ds : List Draw), 1 ≤ Draw.total ds →
      (g.play ds).1.map Prod.fst = Draw.readings ds (words (Draw.total ds) g).1 ∧
        (g.play ds).2 = after (Draw.total ds) g ∧
        (g.play ds).2.state ≠ 0 ∧
        (words (Draw.total ds) g).1.getLast? = some (g.play ds).2.state) ∧
    Set.BijOn (fun x : UInt32 => (next ⟨x⟩).2.state) {x | x ≠ 0} {x | x ≠ 0} ∧
    next ⟨0⟩ = next ⟨0xffffffff⟩ ∧
    (∀ g h : Generator, g.state ≠ 0 → h.state ≠ 0 → g ≠ h →
      ∀ ds es, Draw.total ds = Draw.total es → (g.play ds).2 ≠ (h.play es).2) ∧
    ∀ g : Generator, ∃ p > 0, ∀ k ≥ 1, after (k + p) g = after k g := by
  refine ⟨fun g ds some => ?_, bijOn_next, rfl, fun g h hg hh different ds es even same => ?_,
    fun g => ?_⟩
  · obtain ⟨readings, last⟩ := play_eq ds g
    obtain ⟨k, total⟩ := Nat.exists_eq_add_of_le' some
    rw [last]
    refine ⟨readings, rfl, ?_, ?_⟩
    · rw [total]
      exact state_after_ne_zero k g
    · rw [total]
      exact getLast?_words k g
  · rw [(play_eq ds g).2, (play_eq es h).2, even] at same
    exact different (after_injective hg hh same)
  · -- the states from the first word on are those of the generator after it
    obtain ⟨p, positive, returns⟩ := exists_period (state_after_ne_zero 0 g)
    refine ⟨p, positive, fun k some => ?_⟩
    obtain ⟨k, rfl⟩ := Nat.exists_eq_add_of_le some
    rw [Nat.add_assoc, after_add 1, after_add 1]
    exact returns k

/-- Four words that are drawn in three ways, and two generators that stay apart by three words. -/
theorem orbits_mixed :
    (play ⟨7⟩ [.word, .below 10, .fill 6]).2.state ≠ 0 ∧
      (words 4 ⟨7⟩).1.getLast? = some (play ⟨7⟩ [.word, .below 10, .fill 6]).2.state ∧
      (play ⟨1⟩ [.word, .fill 5]).2 ≠ (play ⟨2⟩ [.fill 9]).2 ∧
      ∃ p > 0, after (1 + p) ⟨0⟩ = after 1 ⟨0⟩ := by
  obtain ⟨mixed, -, -, apart, returns⟩ := orbits
  obtain ⟨-, -, nonzero, last⟩ := mixed ⟨7⟩ [.word, .below 10, .fill 6] (by decide)
  obtain ⟨p, positive, back⟩ := returns ⟨0⟩
  exact ⟨nonzero, last, apart ⟨1⟩ ⟨2⟩ (by decide) (by decide) (by decide) _ _ (by decide),
    p, positive, back 1 (Nat.le_refl 1)⟩

end Generator

end FaultyFlash
