import FaultyFlash.Generator

/-!
# Draws from a generator

A list of draws from one generator, each shown with the state after it.

## Main definitions

* `Draw`, `Draw.perform`: one draw
* `Generator.play`: draws one after another
-/

namespace FaultyFlash

/-- A draw from a generator. -/
inductive Draw where
  /-- The next word. -/
  | word
  /-- A value below a bound. -/
  | below (n : Nat)
  /-- Some bytes. -/
  | fill (len : Nat)
  deriving DecidableEq, Repr

/-- What a draw gives. -/
inductive Drawn where
  | number (n : Nat)
  | bytes (bs : Bytes)
  deriving DecidableEq, Repr

/-- A draw from a generator. A draw that fails leaves the generator as it was. -/
def Draw.perform (g : Generator) : Draw → Except Defect Drawn × Generator
  | word => (.ok (.number g.next.1.toNat), g.next.2)
  | below n => match g.below n with
    | .ok (v, g') => (.ok (.number v), g')
    | .error e => (.error e, g)
  | fill len =>
    let (bs, g') := Generator.fill len g
    (.ok (.bytes bs), g')

/-- Draws one after another: each with the generator after it, and the generator at the end. -/
def Generator.play (g : Generator) : List Draw → List (Except Defect Drawn × Generator) × Generator
  | [] => ([], g)
  | d :: ds =>
    let (x, g') := d.perform g
    let (xs, last) := g'.play ds
    ((x, g') :: xs, last)

end FaultyFlash
