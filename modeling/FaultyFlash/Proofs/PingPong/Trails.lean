import FaultyFlash.Proofs.PingPong.Counting
import FaultyFlash.Proofs.Scenario.Tellings

/-!
# The counter in scenarios

A scenario that drives the counter to a target ends well if wherever its trails lead the counter is
at a count that commits keep. Its runs are followed by their accounts.

## Main definitions

* `PingPong.losses`: what losses of power would leave
* `PingPong.Sustains`: what is kept where trails lead
* `PingPong.Account.Comes`: the accounts of runs from a count
* `PingPong.accounting`: a body that lists the accounts

## Main results

* `PingPong.crashes_recount`: power is lost in a recount where it is lost in the counter
* `PingPong.Sustains.runs`: scenarios end well, and what their runs come to
-/

namespace FaultyFlash

namespace PingPong

variable {κ μ : Type} {cfg : Config} {m : μ} {target : UInt32}

open Scenario (Kept Tells)

/-! ## The counter with its account and without -/

theorem asks_countTo (target : UInt32) :
    (countTo target : ExceptT CountError (Program κ μ) Unit).run.Asks fun r => r.isAccess := by
  rw [← Recount.Recounts.countTo target {}]
  exact (Recount.Asks.countTo target {}).bind fun _ => trivial

/-- What losses of power would leave of a device, at each update of the counter in turn. -/
def losses (κ : Type) (cfg : Config) (m : μ) (target : UInt32) (X : Flash Plain Block) :
    List (Flash Plain Block) :=
  ((countTo target : ExceptT CountError (Program κ μ) Unit).run.alone
    Request.steady cfg m X).crashes

/-- Power is lost in a recount where it is lost in the counter. -/
theorem crashes_recount (X : Flash Plain Block) :
    ((recount target : Program κ μ Account).alone Request.steady cfg m X).crashes =
      losses κ cfg m target X := by
  have reads (z : Except CountError Unit × Account) :
      (close z : Program κ μ Account).Asks fun r => r.isRead := by
    rcases z with ⟨e | _, acc⟩
    · exact trivial
    · exact asks_mount.bind fun _ => trivial
  rw [losses, ← Recount.Recounts.countTo target {}, recount,
    Program.alone_bind (Recount.Asks.countTo target {}),
    Program.alone_bind (Recount.Asks.countTo target {})]
  simp only [(reads _).crashes]
  rfl

/-! ## What runs come to -/

/-- What a run comes to from a count `k` to its target: the whole account, or what was told before
its update of place `n`, where it was broken off. -/
inductive Account.Comes (target : UInt32) (k : Nat) (n : UInt32) : Account → Prop
  | whole {j : Nat} (bound : k + j = target.toNat) : Comes target k n
      { updates := 2 * j, told := counts k j ++ [(2 * j, target)], after := some target }
  | broken {acc : Account} {i : Nat} (here : n.toNat = i + 1) (inside : k + i / 2 < target.toNat)
      (told : acc.told = counts k (i / 2)) (ends : acc.outcome = .error lost) :
      Comes target k n acc

theorem mem_counts {k j : Nat} {x : Nat × UInt32} (h : x ∈ counts k j) :
    ∃ i ≤ j, x = (2 * i, (k + i).toUInt32) := by
  obtain ⟨i, hi, rfl⟩ := List.mem_map.1 h
  exact ⟨i, Nat.le_of_lt_succ (List.mem_range.1 hi), rfl⟩

namespace Account.Comes

variable {k : Nat} {n : UInt32} {acc : Account} {x : Nat × UInt32}

/-- Every two updates the value that is told is one more, and none is past the target. -/
theorem value (h : acc.Comes target k n) (hx : x ∈ acc.told) :
    x.2.toNat = k + x.1 / 2 ∧ x.2 ≤ target := by
  have counted {j : Nat} (bound : k + j ≤ target.toNat) (hx : x ∈ counts k j) :
      x.2.toNat = k + x.1 / 2 ∧ x.2 ≤ target := by
    obtain ⟨i, inside, rfl⟩ := mem_counts hx
    have word : (k + i).toUInt32.toNat = k + i :=
      Record.toNat_nth (Nat.lt_of_le_of_lt (by omega) target.toNat_lt)
    rw [UInt32.le_iff_toNat_le, word]
    omega
  cases h with
  | @whole j bound =>
    rcases List.mem_append.1 hx with hx | hx
    · exact counted (Nat.le_of_eq bound) hx
    · obtain rfl := List.mem_singleton.1 hx
      have last : target.toNat = k + 2 * j / 2 := by omega
      exact ⟨last, UInt32.le_refl target⟩
  | broken here inside told =>
    rw [told] at hx
    exact counted (Nat.le_of_lt inside) hx

/-- What is told is told in the order of the updates. -/
theorem sorted (h : acc.Comes target k n) : acc.told.Pairwise fun x y => x.2 ≤ y.2 := by
  have order : acc.told.Pairwise fun x y => x.1 ≤ y.1 := by
    have counted (j : Nat) : (counts k j).Pairwise fun x y => x.1 ≤ y.1 := by
      refine List.pairwise_map.2 (List.pairwise_lt_range.imp fun lt => ?_)
      omega
    cases h with
    | whole bound =>
      refine List.pairwise_append.2 ⟨counted _, List.pairwise_singleton _ _, fun x hx y hy => ?_⟩
      obtain ⟨i, inside, rfl⟩ := mem_counts hx
      obtain rfl := List.mem_singleton.1 hy
      omega
    | broken here inside told =>
      rw [told]
      exact counted _
  refine order.imp_of_mem fun {x y} hx hy le => ?_
  rw [UInt32.le_iff_toNat_le, (h.value hx).1, (h.value hy).1]
  omega

/-- A run that does not end well was told of a loss of power. Otherwise another mount finds the
target. -/
theorem ends (h : acc.Comes target k n) :
    acc.outcome = .ok () ∧ acc.after = some target ∨ acc.outcome = .error lost := by
  cases h with
  | whole => exact .inl ⟨rfl, rfl⟩
  | broken _ _ _ ends => exact .inr ends

/-- What a run tells that is broken off it tells before. -/
theorem before (h : acc.Comes target k n) (off : acc.outcome ≠ .ok ()) (hx : x ∈ acc.told) :
    x.1 < n.toNat := by
  cases h with
  | whole => exact absurd rfl off
  | broken here inside told =>
    rw [told] at hx
    obtain ⟨j, le, rfl⟩ := mem_counts hx
    omega

end Account.Comes

/-- What is kept along trails: the counter is at a count that commits keep, and where it is broken
off there by a countdown that is `allowed`, it is kept again. -/
structure Sustains (κ : Type) (cfg : Config) (m : μ) (target : UInt32)
    (allowed : List UInt32 → UInt32 → Prop) (J : List UInt32 → Flash Plain Block → Prop) :
    Prop where
  stages {t : List UInt32} {X : Flash Plain Block} (h : J t X) :
    ∃ k I, k ≤ target.toNat ∧ I k X.device ∧ Stages cfg target.toNat I ∧
      ∀ n i Y, allowed t n → n.toNat = i + 1 → Trail.hit n (losses κ cfg m target X) = some Y →
        k + i / 2 < target.toNat → BrokenOff cfg I k i Y.device → J (t ++ [n]) Y

namespace Sustains

variable {allowed : List UInt32 → UInt32 → Prop} {J : List UInt32 → Flash Plain Block → Prop}

/-- Where something is kept, a run of the counter comes to its target from the count there, and may
be broken off. -/
theorem courses (S : Sustains κ cfg m target allowed J) (suits : Suits cfg)
    (crash : cfg.crash ≠ .metastable) {t : List UInt32} {X : Flash Plain Block} (h : J t X) :
    ∃ k j, ∃ broken : List (Account × Flash Plain Block), ∃ Y E,
      newest cfg X.device.slots = Record.nth k ∧ k + j = target.toNat ∧
      (countTo target : ExceptT CountError (Program κ μ) Unit).run.Course cfg m X
        (broken.map fun x => (.error lost, x.2)) (.ok ()) Y ∧
      (recount target : Program κ μ Account).Course cfg m X
        (broken.map fun x => ({ x.1 with outcome := .error lost }, x.2))
        { updates := 2 * j, told := counts k j ++ [(2 * j, target)], after := some target } E ∧
      broken.length = 2 * j ∧
      ∀ n x, Trail.hit n broken = some x → (allowed t n → J (t ++ [n]) x.2) ∧
        ∃ i, n.toNat = i + 1 ∧ k + i / 2 < target.toNat ∧ x.1.told = counts k (i / 2) := by
  obtain ⟨k, I, bound, start, stages, onward⟩ := S.stages h
  obtain ⟨j, bound⟩ := Nat.exists_eq_add_of_le bound
  obtain ⟨broken, Y, E, bare, closed, breaks⟩ :=
    stages.course_recount (κ := κ) (m := m) suits crash start bound.symm
  have below : k ≤ target.toNat := Nat.le.intro bound.symm
  have newest := (stages.stands start).newest (Nat.lt_of_le_of_lt below target.toNat_lt)
  refine ⟨k, j, broken, Y, E, newest, bound.symm, bare, closed, breaks.length, fun n x hit => ?_⟩
  obtain ⟨i, here, place⟩ := Trail.place_of_hit hit
  have inside : k + i / 2 < target.toNat := by
    have inside := (List.getElem?_eq_some_iff.1 place).1
    rw [breaks.length] at inside
    omega
  have told := breaks.told place
  have off := breaks.off place
  rw [Nat.zero_add] at told
  rw [Nat.mul_zero, Nat.zero_add] at off
  refine ⟨fun ok => onward n i x.2 ok here ?_ inside off, i, here, inside, told⟩
  rw [losses, bare.alone, List.map_map, Trail.hit_map, hit]
  rfl

/-- A program that is broken off as the counter is, and ends well otherwise, ends well along the
trails. -/
theorem keeps {α : Type} {p : Program κ μ α} {ends : α → Except CountError Unit} {f : Account → α}
    (fails : ∀ acc, ends (f acc) = .error lost)
    (courses : ∀ t X, J t X → ∃ k j, ∃ broken : List (Account × Flash Plain Block), ∃ a Y,
      k + j = target.toNat ∧ p.Course cfg m X (broken.map fun x => (f x.1, x.2)) a Y ∧
      ends a = .ok () ∧ broken.length = 2 * j ∧
      ∀ n x, allowed t n → Trail.hit n broken = some x → J (t ++ [n]) x.2) :
    Kept cfg m p ends allowed (2 * target.toNat) J := by
  refine .of_courses fun t X h => ?_
  obtain ⟨k, j, broken, a, Y, bound, course, well, length, onward⟩ := courses t X h
  refine ⟨_, a, Y, course, well, ?_, fun x hx => ?_, fun n x ok hit => ?_⟩
  · rw [List.length_map, length]
    omega
  · obtain ⟨x, -, rfl⟩ := List.mem_map.1 hx
    exact ⟨lost, fails x.1, rfl⟩
  · rw [Trail.hit_map] at hit
    obtain ⟨x, here, rfl⟩ := Option.map_eq_some_iff.1 hit
    exact onward n x ok here

/-- The counter ends well along the trails. -/
theorem kept_countTo (S : Sustains κ cfg m target allowed J) (suits : Suits cfg)
    (crash : cfg.crash ≠ .metastable) :
    Kept cfg m (countTo target : ExceptT CountError (Program κ μ) Unit).run id allowed
      (2 * target.toNat) J := by
  refine keeps (f := fun _ => .error lost) (fun _ => rfl) fun t X h => ?_
  obtain ⟨k, j, broken, Y, -, -, bound, bare, -, length, onward⟩ := S.courses suits crash h
  exact ⟨k, j, broken, _, Y, bound, bare, rfl, length, fun n x ok hit => (onward n x hit).1 ok⟩

/-- So does the counter with its account. -/
theorem kept_recount (S : Sustains κ cfg m target allowed J) (suits : Suits cfg)
    (crash : cfg.crash ≠ .metastable) :
    Kept cfg m (recount target : Program κ μ Account) Account.outcome allowed
      (2 * target.toNat) J := by
  refine keeps (f := fun acc => { acc with outcome := .error lost }) (fun _ => rfl) fun t X h => ?_
  obtain ⟨k, j, broken, -, E, -, bound, -, closed, length, onward⟩ := S.courses suits crash h
  exact ⟨k, j, broken, _, E, bound, closed, rfl, length, fun n x ok hit => (onward n x hit).1 ok⟩

/-- What is told of a run at the end of a trail comes from the count there. -/
theorem comes (S : Sustains κ cfg m target allowed J) (suits : Suits cfg)
    (crash : cfg.crash ≠ .metastable) {schedule : Nat → UInt32} {t : List UInt32} {acc : Account}
    (h : Tells cfg m (recount target : Program κ μ Account) J schedule t acc) :
    ∃ X k, J t X ∧ newest cfg X.device.slots = Record.nth k ∧ k ≤ target.toNat ∧
      acc.Comes target k (schedule t.length) := by
  obtain ⟨X, kept, comes⟩ := h
  obtain ⟨k, j, broken, -, E, newest, bound, -, closed, length, onward⟩ :=
    S.courses suits crash kept
  refine ⟨X, k, kept, newest, Nat.le.intro bound, ?_⟩
  rcases comes with rfl | ⟨Y, hit⟩
  · rw [closed.alone]
    exact .whole bound
  · rw [closed.breaks, Trail.hit_map] at hit
    obtain ⟨x, here, same⟩ := Option.map_eq_some_iff.1 hit
    obtain ⟨rfl, -⟩ := Prod.mk.inj same
    obtain ⟨i, place, inside, told⟩ := (onward _ x here).2
    exact .broken place inside told rfl

end Sustains

/-- A device can be made, with an image file or without. -/
theorem Suits.firstImage (h : Suits cfg) : ∃ image, cfg.firstImage = some image := by
  unfold Config.firstImage
  rcases h.image with absent | writable
  · exact ⟨_, by rw [absent]⟩
  · exact ⟨_, by rw [writable]⟩

/-- A body that drives the counter to a target, and adds its account to a list. -/
abbrev accounting (callbacks : Callbacks κ (List Account)) (nesting : Nat) (target : UInt32) :
    Scenario.Body Counted Nat κ (List Account) CountError :=
  Scenario.telling callbacks nesting (recount target) Account.outcome fun acc accs => accs ++ [acc]

variable {strategy : Strategy} {limit : Nat}

/-- Where something is kept along the trails of a strategy, a scenario that drives the counter to a
target ends well, and its runs come to what they should from the counts that they begin with. -/
theorem Sustains.runs {allowed : List UInt32 → UInt32 → Prop}
    {J : List UInt32 → Flash Plain Block → Prop}
    (S : Sustains κ cfg ([] : List Account) target allowed J)
    (callbacks : Callbacks κ (List Account)) (nesting : Nat) (suits : Suits cfg)
    (crash : cfg.crash ≠ .metastable) (small : 2 * target.toNat < 0xffffffff)
    {image : Option Image} (first : cfg.firstImage = some image)
    (start : J [] (Scenario.origin cfg image))
    (follows : ∀ j < strategy.span (2 * target.toNat),
      allowed ((List.range j).map strategy.schedule) (strategy.schedule j))
    (free : ∀ depth, strategy = .exhaustive depth → ∀ t n, allowed t n)
    (enough : strategy.span (2 * target.toNat) < limit) :
    ∃ report, ∃ w w' : Bench Counted Nat κ (List Account),
      Scenario.run callbacks nesting limit strategy cfg [] (fun _ => countTo target) =
        .ok ⟨.ok report, some w⟩ ∧
      Scenario.runBody strategy cfg [] (accounting callbacks nesting target) limit =
        .ok ⟨.ok report, some w'⟩ ∧
      report.trails = (strategy.found (2 * target.toNat) (losses κ cfg ([] : List Account) target)
        (Scenario.origin cfg image)).map Prod.fst ∧ w'.memory.length = report.runs ∧
      (∀ acc ∈ w'.memory, ∃ k n, acc.Comes target k n) ∧
      List.Forall₂ (fun t acc => ∃ X k, J t X ∧ newest cfg X.device.slots = Record.nth k ∧
        k ≤ target.toNat ∧ acc.Comes target k (strategy.schedule t.length))
        ([] :: report.trails) w'.memory := by
  have untimed {α : Type} {p : Program κ (List Account) α} (asks : p.Asks fun r => r.isAccess) :
      p.Asks (fun r => r.isUntimed) ∧ p.Blind Request.steady :=
    ⟨asks.mono fun _ => Request.isUntimed_of_isAccess,
      asks.blind fun _ => Request.steady_of_isAccess⟩
  obtain ⟨-, w, bare, -⟩ := (S.kept_countTo suits crash).runs callbacks nesting (fun _ m => m)
    (untimed (asks_countTo target)).1 (untimed (asks_countTo target)).2 small suits.limit
    suits.taken suits.geometry first start follows free enough
  obtain ⟨told, w', closed, noted, tells⟩ := (S.kept_recount suits crash).runs callbacks nesting
    (fun acc accs => accs ++ [acc]) (untimed (asks_recount target)).1
    (untimed (asks_recount target)).2 small suits.limit suits.taken suits.geometry first start
    follows free enough
  have same : (fun X => ((recount target : Program κ (List Account) Account).alone
      Request.steady cfg [] X).crashes) = losses κ cfg [] target :=
    funext fun X => crashes_recount X
  rw [same] at closed tells
  rw [Scenario.telling_nothing] at bare
  rw [Scenario.report_eq] at bare closed
  rw [Scenario.noticed_listing, List.nil_append] at noted
  rw [← noted] at tells
  have comes := tells.imp fun t acc h => S.comes suits crash h
  refine ⟨_, w, w', bare, closed, rfl, ?_, fun acc hacc => ?_, comes⟩
  · rw [← comes.length_eq, List.length_cons, List.length_map]
    rfl
  · obtain ⟨i, inside, rfl⟩ := List.getElem_of_mem hacc
    obtain ⟨X, k, -, -, -, run⟩ := comes.get (by rw [comes.length_eq]; exact inside) inside
    exact ⟨k, _, run⟩

/-! ## Two blocks -/

/-- Two blocks of the size of a record. -/
def pairConfig (crash : CrashBehavior) (seed : UInt32) : Config :=
  { geometry := ⟨16, 16, 16, 2⟩, eraseValue := some 0xff, crash := crash, seed := seed }

theorem suits_pairConfig (crash : CrashBehavior) (seed : UInt32) :
    Suits (pairConfig crash seed) where
  geometry := show Geometry.check ⟨16, 16, 16, 2⟩ = .ok () from rfl
  read := Nat.dvd_refl 16
  prog := Nat.dvd_refl 16
  size := Nat.le_refl 16
  limit := show 16 < Config.allocationLimit by decide
  blocks := Nat.le_refl 2
  unworn := rfl
  image := .inl rfl

/-- Two blocks that are one byte larger, which the granularities do not divide. -/
def unevenConfig (crash : CrashBehavior) : Config :=
  { geometry := ⟨16, 16, 17, 2⟩, eraseValue := some 0xff, crash := crash }

/-- Callbacks that resume. The counter installs none. -/
def uncalled : Callbacks Unit (List Account) := fun _ _ => .done (.ok .resume)

end PingPong

end FaultyFlash
