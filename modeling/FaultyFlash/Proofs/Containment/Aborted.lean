import FaultyFlash.Proofs.Bits
import FaultyFlash.Proofs.Containment.OutOfOrder
import FaultyFlash.Proofs.Unattended

/-!
# What an aborted loss of power leaves

Where a device does not return to its last sync, a loss of power during an update touches the region
of the update and nothing else. How much of the update stays there is a matter of bits: all but one
of them, one alone, none, or all, with reads of one left to chance.

## Main definitions

* `CrashBehavior.Breaks`: what a loss of power leaves of a region
* `Device.Broken`: a device on which an update was broken off

## Main results

* `CrashBehavior.Tears.breaks`: what is left on the block of the update
* `Flash.broken_of_wreck`: where nothing is shared, a loss of power breaks an update off
* `Bench.aborted`: so does every loss of power without a callback in every history of a bench
-/

namespace FaultyFlash

open Flash (answered)

variable {κ μ α : Type} {cfg : Config} {u : Update}

/-- The erases that the block at an address has gone through. -/
def Slots.wear (slots : Slots Block) (block : Nat) : UInt32 := slots[block]?.join.elim 0 Block.wear

/-- Are reads of the block at an address left to chance? -/
def Slots.metastable (slots : Slots Block) (block : Nat) : Bool :=
  slots[block]?.join.elim false Block.metastable

/-- What a loss of power leaves of a region in which `old` was becoming `new`. -/
def CrashBehavior.Breaks (old new now : Bytes) : CrashBehavior → Prop
  | noop => now = old
  | someBits => (old = new → now = old) ∧
      (old ≠ new → ∃ k, Bytes.DifferAt k old now ∧ now.bit k = new.bit k)
  | mostBits => (new = [] → now = []) ∧ (new ≠ [] → ∃ k, Bytes.DifferAt k new now)
  | outOfOrder => now = new
  | metastable => now = new

/-- Of a region that was not changing, a loss of power leaves all, unless it damages a bit. -/
theorem CrashBehavior.breaks_nil (crash : CrashBehavior) : crash.Breaks [] [] [] := by
  cases crash with
  | someBits => exact ⟨id, fun differ => absurd rfl differ⟩
  | mostBits => exact ⟨id, fun differ => absurd rfl differ⟩
  | _ => rfl

/-- A device `D` came to `E` as an update of it was broken off by a loss of power. -/
structure Device.Broken (cfg : Config) (u : Update) (D E : Device Block) : Prop where
  others {i : Nat} (h : i ≠ u.block) : E.slots[i]? = D.slots[i]?
  wear : E.slots.wear u.block = D.slots.wear u.block
  bytesRead : E.bytesRead = D.bytesRead
  bytesProgrammed : E.bytesProgrammed = D.bytesProgrammed
  bytesErased : E.bytesErased = D.bytesErased
  synced : E.synced = D.synced
  countdown : E.countdown = 0
  outside {k : Nat} (h : k < (u.region cfg).1 ∨ (u.region cfg).1 + (u.region cfg).2 ≤ k) :
    (E.slots.stored cfg u.block)[k]? = (D.slots.stored cfg u.block)[k]?
  inside :
    let old := (D.slots.stored cfg u.block).region (u.region cfg).1 (u.region cfg).2
    let now := (E.slots.stored cfg u.block).region (u.region cfg).1 (u.region cfg).2
    cfg.crash.Breaks old (u.outcome cfg old) now
  /-- Nothing but the countdown changes where nothing lands. -/
  idle (h : cfg.crash = .noop ∨ (u.region cfg).2 = 0) : E = { D with countdown := 0 }
  unmarked (h : cfg.crash ≠ .metastable) :
    E.slots.metastable u.block = D.slots.metastable u.block
  marked (h : cfg.crash = .metastable) (some : (u.region cfg).2 ≠ 0) :
    E.slots.metastable u.block = true
  /-- A block that was there keeps its bad bit, unless reads are left to chance and it is not
  pinned. -/
  badBit {b : Block} (h : D.slots[u.block]? = some (some b)) :
    ∃ c, E.slots[u.block]? = some (some c) ∧
      (cfg.crash ≠ .metastable ∨ b.isPinned → c.badBit = b.badBit)

/-! ## What is left on a block -/

namespace CrashBehavior.Tears

variable {crash : CrashBehavior} {b c : Block}

/-- Apart from its bytes, a loss of power changes a block only where it leaves reads to chance. -/
theorem marks (h : crash.Tears cfg u b c) : c.wear = b.wear ∧
    (crash ≠ .metastable → c.metastable = b.metastable) ∧
    (crash = .metastable → c.metastable = true) ∧
    (crash ≠ .metastable ∨ b.isPinned → c.badBit = b.badBit) := by
  by_cases certain : crash = .metastable
  · subst certain
    obtain ⟨bit, -, rfl⟩ := h
    refine ⟨rfl, fun other => absurd rfl other, fun _ => rfl, fun pinned => ?_⟩
    exact if_pos (pinned.resolve_left fun other => other rfl)
  · obtain ⟨same, -⟩ := h.leaves certain
    rw [same]
    exact ⟨rfl, fun _ => rfl, fun metastable => absurd metastable certain, fun _ => rfl⟩

/-- A bit that is inverted in a region leaves what is outside. -/
theorem outside_of_flip? {bs cs : Bytes} {off len bit k : Nat}
    (flipped : bs.flip? (off * 8 + bit) = some cs) (inside : bit < len * 8)
    (h : k < off ∨ off + len ≤ k) : cs[k]? = bs[k]? :=
  Bytes.getElem?_of_flip? flipped (by omega)

/-- What a loss of power leaves outside of the region of an update, and inside. -/
theorem breaks (h : crash.Tears cfg u b c) (some : (u.region cfg).2 ≠ 0)
    (held : (u.region cfg).1 + (u.region cfg).2 ≤ b.data.length) :
    (∀ k, k < (u.region cfg).1 ∨ (u.region cfg).1 + (u.region cfg).2 ≤ k →
      c.data[k]? = b.data[k]?) ∧
    crash.Breaks (b.data.region (u.region cfg).1 (u.region cfg).2)
      (u.outcome cfg (b.data.region (u.region cfg).1 (u.region cfg).2))
      (c.data.region (u.region cfg).1 (u.region cfg).2) := by
  have size := Bytes.length_region held
  have size' := Update.length_outcome_region held
  cases crash with
  | noop => exact h.elim
  | someBits =>
    rcases h with ⟨none, rfl⟩ | ⟨bit, changed, flip⟩
    · -- no bit changes, so there is nothing to leave out
      refine ⟨fun _ _ => rfl, fun _ => rfl, fun differ => ?_⟩
      exact absurd (Bytes.eq_of_diff (size'.trans size.symm) none) differ
    · obtain ⟨-, flipped⟩ := Block.flip?_of_flip flip
      have inside : bit < (u.region cfg).2 * 8 := size ▸ Bytes.lt_of_mem_diff changed
      have changes := Bytes.bit_ne_of_mem_diff changed
      have differ := (Bytes.differAt_of_flip? flipped).region inside held
      refine ⟨fun k => outside_of_flip? flipped inside, fun same => ?_, fun _ => ⟨bit, differ, ?_⟩⟩
      · exact absurd (congrArg (Bytes.bit · bit) same) changes
      · -- the bit is neither what it was nor other than what it becomes
        have inverted := (differ.2 bit).2 rfl
        exact (Bool.eq_not_of_ne inverted).trans (Bool.eq_not_of_ne changes.symm).symm
  | mostBits =>
    obtain ⟨bit, inside, flip⟩ := h
    obtain ⟨-, flipped⟩ := Block.flip?_of_flip flip
    have length := Update.length_onto held
    have differ := (Bytes.differAt_of_flip? flipped).region inside (by rw [length]; exact held)
    rw [Update.region_onto held] at differ
    refine ⟨fun k outside => ?_, fun none => ?_, fun _ => ⟨bit, differ⟩⟩
    · rw [outside_of_flip? flipped inside outside, Update.getElem?_onto held outside]
    · rw [none] at size'
      exact absurd size'.symm some
  | outOfOrder =>
    obtain rfl : c = _ := h
    exact ⟨fun k => Update.getElem?_onto held, Update.region_onto held⟩
  | metastable =>
    obtain ⟨bit, -, rfl⟩ := h
    exact ⟨fun k => Update.getElem?_onto held, Update.region_onto held⟩

end CrashBehavior.Tears

/-! ## What is left of a device -/

theorem Device.Owns.wear {D : Device Block} {block : Nat} {b : Block} (h : D.Owns cfg block b) :
    D.slots.wear block = b.wear := by
  rcases h with h | ⟨h, bit, rfl⟩
  · simp [Slots.wear, h]
  · simp [Slots.wear, h, Block.fresh]

theorem Device.Owns.metastable {D : Device Block} {block : Nat} {b : Block}
    (h : D.Owns cfg block b) : D.slots.metastable block = b.metastable := by
  rcases h with h | ⟨h, bit, rfl⟩
  · simp [Slots.metastable, h]
  · simp [Slots.metastable, h, Block.fresh]

namespace Flash

variable {D : Device Block} {f g : Flash Plain Block}

/-- Where nothing lands, only the countdown changes. -/
theorem broken_of_idle (sound : D.Sound cfg) (fits : u.Fits cfg)
    (h : cfg.crash = .noop ∨ (u.region cfg).2 = 0) :
    Device.Broken cfg u D { D with countdown := 0 } where
  others _ := rfl
  wear := rfl
  bytesRead := rfl
  bytesProgrammed := rfl
  bytesErased := rfl
  synced := rfl
  countdown := rfl
  outside _ := rfl
  inside := by
    have held : (u.region cfg).1 + (u.region cfg).2 ≤ (D.slots.stored cfg u.block).length := by
      rw [sound.slots.length_stored]
      exact fits.region
    rcases h with noop | none
    · rw [noop]
      rfl
    · have size := Bytes.length_region held
      have size' := Update.length_outcome_region held
      rw [none, List.length_eq_zero_iff] at size size'
      simp only [none] at size size' ⊢
      rw [size', size]
      exact cfg.crash.breaks_nil
  idle _ := rfl
  unmarked _ := rfl
  marked certain some := by
    rcases h with noop | none
    · rw [noop] at certain
      cases certain
    · exact absurd none some
  badBit hb := ⟨_, hb, fun _ => rfl⟩

/-- Where a torn block comes in the place of the one there, the update is broken off. -/
theorem broken_of_tears {b c : Block} {x : Generator} (sound : D.Sound cfg) (fits : u.Fits cfg)
    (some : (u.region cfg).2 ≠ 0) (owns : D.Owns cfg u.block b)
    (tears : cfg.crash.Tears cfg u b c) :
    Device.Broken cfg u D
      { D with slots := D.slots.set u.block (.some c), generator := x, countdown := 0 } := by
  have there : (D.slots.set u.block (.some c))[u.block]? = .some (.some c) :=
    List.getElem?_set_self owns.lt_length
  have held : (u.region cfg).1 + (u.region cfg).2 ≤ b.data.length := by
    rw [← owns.stored, sound.slots.length_stored]
    exact fits.region
  have stored : Slots.stored cfg (D.slots.set u.block (.some c)) u.block = c.data :=
    Slots.stored_of_slot there
  obtain ⟨wear, certain, chance, badBit⟩ := tears.marks
  obtain ⟨outside, inside⟩ := tears.breaks some held
  refine ⟨fun {i} hi => List.getElem?_set_ne (Ne.symm hi), ?_, rfl, rfl, rfl, rfl, rfl, ?_, ?_, ?_,
    ?_, ?_, ?_⟩
  · rw [owns.wear, Slots.wear, there]
    exact wear
  · intro k hk
    rw [stored, owns.stored]
    exact outside k hk
  · rw [stored, owns.stored]
    exact inside
  · -- something lands here
    rintro (noop | none)
    · rw [noop] at tears
      exact tears.elim
    · exact absurd none some
  · intro h
    rw [owns.metastable, Slots.metastable, there]
    exact certain h
  · intro h _
    rw [Slots.metastable, there]
    exact chance h
  · intro old h
    obtain rfl := owns.eq_of_slot h
    exact ⟨c, there, badBit⟩

/-- Where nothing is shared and there was no sync, a loss of power breaks the update off. -/
theorem broken_of_wreck (sound : D.Sound cfg) (fits : u.Fits cfg) (unsynced : D.synced = none)
    (hf : f.device = { D with countdown := 0 }) (h : (wreck cfg u).run f = .ok () g) :
    Device.Broken cfg u D g.device := by
  obtain ⟨t, torn, -, stays, -⟩ := wreck_ok h
  rw [stays (by rw [hf]; exact unsynced)]
  rcases torn_of_tear torn with ⟨same, idle⟩ | ⟨some, b, c, x, owns, tears, rfl⟩
  · rw [same, hf]
    exact broken_of_idle sound fits idle.symm
  · rw [placed, hf]
    rw [hf] at owns
    exact broken_of_tears sound fits some owns tears

end Flash

namespace Bench

/-- A device of one block of two bytes, which loses power at its second update. One bit of the
update stays. -/
def crumbling : Config where
  geometry := ⟨1, 1, 2, 1⟩
  eraseValue := some 0xff
  countdown := 2
  crash := .someBits

/-- Programs the block. -/
def progBlock : Interplay Unit Unit Unit := .ask 0 (.update (.prog 0 0 [1, 2])) fun _ => .done ()

/-- Breaks a prog of the block off, and answers what it reports and how the block is seen then. -/
def breakOff : BenchM Counted Nat Unit Unit (Option Failure × Option (Slots Block)) := do
  let answer ← perform (fun _ _ => throw .exhausted) 0 (.update (.prog 0 0 [1, 2]))
  let failure := match answer with
    | .ok () => none
    | .error e => some e
  return (failure, ((← get).view 0).map Device.slots)

-- where the image file refuses to show what is left, that is what the prog reports
example : onNew { crumbling with countdown := 1, image := .sealed } breakOff =
    some (some (.fault (.io none)), some [some ⟨0, false, 15, [0xff, 0xfe]⟩]) := by
  decide +kernel

end Bench

end FaultyFlash
