import FaultyFlash.Bytes
import FaultyFlash.Failure

/-!
# The generator of fault decisions

A 32-bit xorshift generator (13, 17, 5). The state zero, a fixed point of the shifts, counts as
all ones.

## Main definitions

* `Generator.next`: the next word
* `Generator.below`: a value below a bound, by remainder
* `Generator.fill`: bytes, from the generator's words, least significant byte first
* `Generator.words`: the stream of words

## Main results

* `Generator.state_next`: the state is the last word drawn
* `Generator.length_fill`: as many bytes as asked for
-/

namespace FaultyFlash

/-- A generator, given by its state. -/
structure Generator where
  state : UInt32
  deriving DecidableEq, Repr

namespace Generator

/-- The three shifts of a step. -/
def scramble (x : UInt32) : UInt32 :=
  let x := x ^^^ (x <<< 13)
  let x := x ^^^ (x >>> 17)
  x ^^^ (x <<< 5)

/-- The state a step starts from: zero counts as all ones. -/
def live (g : Generator) : UInt32 :=
  if g.state = 0 then 0xffffffff else g.state

/-- The next word, and the generator after it. -/
def next (g : Generator) : UInt32 × Generator :=
  let x := scramble g.live
  (x, ⟨x⟩)

/-- A value below `n`: the next word modulo `n`. -/
def below (g : Generator) (n : Nat) : Except Defect (Nat × Generator) :=
  if n = 0 then .error .emptyRange else .ok (g.next.1.toNat % n, g.next.2)

/-- Bytes from the generator: four from each word, the last word cut short. -/
def fill : Nat → Generator → Bytes × Generator
  | 0, g => ([], g)
  | 1, g => ((Bytes.ofWord g.next.1).take 1, g.next.2)
  | 2, g => ((Bytes.ofWord g.next.1).take 2, g.next.2)
  | 3, g => ((Bytes.ofWord g.next.1).take 3, g.next.2)
  | n + 4, g =>
    let rest := fill n g.next.2
    (Bytes.ofWord g.next.1 ++ rest.1, rest.2)

/-- The next `n` words, and the generator after them. -/
def words : Nat → Generator → List UInt32 × Generator
  | 0, g => ([], g)
  | n + 1, g =>
    let rest := words n g.next.2
    (g.next.1 :: rest.1, rest.2)

/-- The text that describes a generator. -/
def describe (g : Generator) : String := s!"Prng \x7b state: {g.state} \x7d"

@[simp] theorem state_next (g : Generator) : g.next.2.state = g.next.1 := rfl

theorem below_zero (g : Generator) : g.below 0 = .error .emptyRange := rfl

theorem below_of_ne_zero (g : Generator) {n : Nat} (h : n ≠ 0) :
    g.below n = .ok (g.next.1.toNat % n, g.next.2) := if_neg h

@[simp] theorem fill_zero (g : Generator) : fill 0 g = ([], g) := by simp [fill]

theorem length_fill (n : Nat) (g : Generator) : (fill n g).1.length = n := by
  fun_induction fill n g with
  | case1 | case2 | case3 | case4 => simp
  | case5 g n rest ih =>
    simp only [List.length_append, Bytes.length_ofWord, rest, ih]
    omega

end Generator

end FaultyFlash
