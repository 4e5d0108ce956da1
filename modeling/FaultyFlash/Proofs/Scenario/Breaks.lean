import FaultyFlash.Proofs.Scenario.Bodies

/-!
# Programs that are broken off

A program that loses power is told so by the failure of an update, and comes to an end by itself,
possibly after more requests. What it comes to is found by losing power at each of its updates in
turn.

## Main definitions

* `Program.breaks`: what a program comes to if power is lost at each of its updates in turn
* `Program.Course`: what a program comes to by itself, with and without a loss of power

## Main results

* `Program.Course.bind`: a program after another takes its course from where the first ends
* `Bench.Tracks.broken`: a program on a device that counts down
-/

namespace FaultyFlash

open Flash (answered AlikeBy)
open Device (Clocked)

variable {κ μ α β : Type} {cfg : Config} {m : μ}

namespace Program

/-- What a program comes to on a device by itself, and what it leaves of the device, if power is
lost at each of its updates in turn and then no more. -/
def breaks (cfg : Config) (m : μ) : Program κ μ α → Flash Plain Block → List (α × Flash Plain Block)
  | .done _, _ => []
  | .ask r next, X =>
    let x := answered (r.effect cfg) X
    (r.torn cfg X).map (fun Z =>
        let told := (next (.error (.fault .powerLoss))).alone Request.steady cfg m Z
        (told.result, told.device)) ++
      (next (r.steady x.1)).breaks cfg m x.2
  | .install _ next, X => next.breaks cfg m X
  | .getMemory next, X => (next m).breaks cfg m X
  | .setMemory m next, X => next.breaks cfg m X

/-! ## One program after another -/

/-- Programs that only ask make one that does so. -/
theorem Asks.bind {ok : Request → Prop} {p : Program κ μ α} {f : α → Program κ μ β}
    (h : p.Asks ok) (hf : ∀ a, (f a).Asks ok) : (p.bind f).Asks ok := by
  induction p with
  | done a => exact hf a
  | ask r next ih => exact ⟨h.1, fun x => ih x (h.2 x)⟩
  | install | getMemory | setMemory => exact h.elim

theorem Asks.mono {ok ok' : Request → Prop} {p : Program κ μ α} (h : p.Asks ok)
    (imp : ∀ r, ok r → ok' r) : p.Asks ok' := by
  induction p with
  | done a => exact trivial
  | ask r next ih => exact ⟨imp r h.1, fun x => ih x (h.2 x)⟩
  | install | getMemory | setMemory => exact h.elim

/-- A program that asks only what is seen as it is sees its answers as they are. -/
theorem Asks.blind {ok : Request → Prop} {seen : Seen} {p : Program κ μ α} (h : p.Asks ok)
    (clear : ∀ r, ok r → ∀ x, seen r x = x) : p.Blind seen := by
  induction p with
  | done a => exact trivial
  | ask r next ih => exact ⟨fun x => by rw [clear r h.1 x], fun x => ih x (h.2 x)⟩
  | install | getMemory | setMemory => exact h.elim

/-- A program after another goes on by itself from where the first ends. -/
theorem alone_bind {ok : Request → Prop} {seen : Seen} {p : Program κ μ α} (asks : p.Asks ok)
    (f : α → Program κ μ β) (X : Flash Plain Block) :
    (p.bind f).alone seen cfg m X =
      let first := p.alone seen cfg m X
      let rest := (f first.result).alone seen cfg m first.device
      { rest with crashes := first.crashes ++ rest.crashes } := by
  induction p generalizing X with
  | done a => rfl
  | ask r next ih =>
    simp only [Program.bind, alone, ih _ (asks.2 _), List.append_assoc]
  | install | getMemory | setMemory => exact asks.elim

/-- If it is broken off in the first, it goes on by what the first comes to. -/
theorem breaks_bind {ok : Request → Prop} {p : Program κ μ α} (asks : p.Asks ok)
    (f : α → Program κ μ β) (X : Flash Plain Block) :
    (p.bind f).breaks cfg m X =
      (p.breaks cfg m X).map (fun x =>
          let rest := (f x.1).alone Request.steady cfg m x.2
          (rest.result, rest.device)) ++
        let first := p.alone Request.steady cfg m X
        (f first.result).breaks cfg m first.device := by
  induction p generalizing X with
  | done a => rfl
  | ask r next ih =>
    simp only [Program.bind, breaks, alone, ih _ (asks.2 _), List.map_append, List.map_map,
      List.append_assoc, Function.comp_def, alone_bind (asks.2 _)]
  | install | getMemory | setMemory => exact asks.elim

/-- What a program comes to by itself on a device `X`: with a result and a device if power is not
lost, and with those of a list if power is lost at an update. It ends as soon as it is told of a
loss of power, so it leaves what the loss leaves. -/
structure Course (cfg : Config) (m : μ) (p : Program κ μ α) (X : Flash Plain Block)
    (lost : List (α × Flash Plain Block)) (a : α) (Y : Flash Plain Block) : Prop where
  alone : p.alone Request.steady cfg m X = ⟨lost.map Prod.snd, a, Y⟩
  breaks : p.breaks cfg m X = lost

namespace Course

variable {X Y Z : Flash Plain Block} {a : α} {b : β} {lost : List (α × Flash Plain Block)}
  {lost' : List (β × Flash Plain Block)}

theorem done (a : α) (X : Flash Plain Block) : Course cfg m (.done a : Program κ μ α) X [] a X :=
  ⟨rfl, rfl⟩

/-- A request that does not count. -/
theorem ask {r : Request} {next : Except Failure r.Answer → Program κ μ α}
    {x : Except Failure r.Answer} (answers : answered (r.effect cfg) X = (x, Y))
    (quiet : r.torn cfg X = []) (rest : (next (r.steady x)).Course cfg m Y lost a Z) :
    (Program.ask r next).Course cfg m X lost a Z := by
  refine ⟨?_, ?_⟩
  · simp only [Program.alone, answers, quiet, rest.alone, List.nil_append]
  · simp only [Program.breaks, answers, quiet, rest.breaks, List.map_nil, List.nil_append]

/-- An update that is done, and leaves `W` if power is lost. -/
theorem update {u : Update} {next : Except Failure Unit → Program κ μ α} {W : Flash Plain Block}
    {b : α} (done : answered (Flash.uninterrupted cfg u) X = (.ok (), Y))
    (torn : u.torn cfg X = [W]) (stops : next (.error (.fault .powerLoss)) = .done b)
    (rest : (next (.ok ())).Course cfg m Y lost a Z) :
    (Program.ask (.update u) next).Course cfg m X ((b, W) :: lost) a Z := by
  have answers : answered ((Request.update u).effect cfg) X = (.ok (), Y) := done
  have leaves : (Request.update u).torn cfg X = [W] := torn
  refine ⟨?_, ?_⟩
  · simp only [Program.alone, answers, leaves, rest.alone, Request.steady]
    rfl
  · simp only [Program.breaks, answers, leaves, rest.breaks, stops, Request.steady]
    rfl

/-- A program takes its course from where another ends, and nothing more is done once that one was
broken off. -/
theorem bind {ok : Request → Prop} {p : Program κ μ α} (asks : p.Asks ok)
    {f : α → Program κ μ β} (hp : p.Course cfg m X lost a Y) (hf : (f a).Course cfg m Y lost' b Z)
    (ends : α → β) (stops : ∀ x ∈ lost, f x.1 = .done (ends x.1)) :
    (p.bind f).Course cfg m X (lost.map (fun x => (ends x.1, x.2)) ++ lost') b Z := by
  refine ⟨?_, ?_⟩
  · simp only [alone_bind asks, hp.alone, hf.alone, List.map_append, List.map_map]
    rfl
  · simp only [breaks_bind asks, hp.alone, hp.breaks, hf.breaks]
    congr 1
    refine List.map_congr_left fun x hx => ?_
    rw [stops x hx]
    rfl

/-- A result that is translated. -/
theorem map {ok : Request → Prop} {p : Program κ μ α} (asks : p.Asks ok)
    (hp : p.Course cfg m X lost a Y) (f : α → β) :
    (p.bind fun a => .done (f a)).Course cfg m X (lost.map fun x => (f x.1, x.2)) (f a) Y := by
  have whole := hp.bind (f := fun a => .done (f a)) asks (done (f a) Y) f fun _ _ => rfl
  rwa [List.append_nil] at whole

end Course

end Program

/-! ## Programs on a device that counts down -/

namespace Bench

variable {imaged : Bool} {d : Handle} {X : Flash Plain Block} {v : Bench Plain Block κ μ}
  {n : UInt32}

/-- A program on a device that counts down ends as by itself. If the countdown hits, it ends as by
itself with a loss of power there. -/
theorem Tracks.broken (able : cfg.Able) {p : Program κ μ α} (asks : p.Asks fun r => r.isUntimed)
    (blind : p.Blind Request.steady) (h : Tracks cfg imaged (Clocked cfg n) (· = none) d X v)
    (respond : Responder Plain Block κ μ) (m : μ) :
    ∃ x w, (p.run respond d).run v = .ok x w ∧ Uses d v w ∧
      match Trail.hit n (p.breaks cfg m X) with
      | some (a, Y) => x = a ∧ Tracks cfg imaged (Clocked cfg 0) (· = none) d Y w
      | none => x = (p.alone Request.steady cfg m X).result := by
  induction p generalizing X v n with
  | done a =>
    refine ⟨a, v, rfl, .refl d v, ?_⟩
    rw [Program.breaks, Trail.hit_nil]
    rfl
  | ask r next ih =>
    -- after a request that does not lose power, the rest of the program goes on
    have goesOn (calm : r.Calm cfg n X) :
        ∃ x w, ((Program.ask r next).run respond d).run v = .ok x w ∧ Uses d v w ∧
        match Trail.hit (r.left cfg n X)
            ((next (r.steady (answered (r.effect cfg) X).1)).breaks cfg m
              (answered (r.effect cfg) X).2) with
        | some (a, Y) => x = a ∧ Tracks cfg imaged (Clocked cfg 0) (· = none) d Y w
        | none => x = ((Program.ask r next).alone Request.steady cfg m X).result := by
      obtain ⟨y, t, asked, same, tracks, uses⟩ :=
        h.request (Request.agrees_clocked cfg n asks.1) calm respond
      obtain ⟨x, w, run, uses', ends⟩ := ih _ (asks.2 _) (blind.2 _) tracks
      refine ⟨x, w, run_bind_eq_ok.2 ⟨y, t, asked, ?_⟩, uses.trans uses', ends⟩
      rw [blind.1 y, same]
      exact run
    rcases r.torn_cases able h.sound with ⟨none, calm⟩ | ⟨u, worn, Y, Z, rfl, torn, tears⟩
    · -- the request does not count
      obtain ⟨x, w, run, uses, ends⟩ := goesOn (calm n).1
      refine ⟨x, w, run, uses, ?_⟩
      rw [(calm n).2] at ends
      rw [Program.breaks, none]
      exact ends
    · rw [Program.breaks, Request.torn, torn, List.map_singleton, List.singleton_append,
        Trail.hit_cons]
      by_cases now : n = 1
      · -- power is lost, and the program comes to its end from there
        subst now
        obtain ⟨t, lost, tracks, uses⟩ := h.fired tears respond
        obtain ⟨w, run, tracks', uses'⟩ :=
          tracks.program (fun r hr => Request.agrees_clocked cfg 0 hr) respond m (asks.2 _)
            (blind.2 _)
        exact ⟨_, w, run_bind_eq_ok.2 ⟨_, t, lost, run⟩, uses.trans uses', rfl, tracks'⟩
      · -- the update counts, and the countdown hits one place later in the rest
        obtain ⟨x, w, run, uses, ends⟩ := goesOn fun _ _ => now
        refine ⟨x, w, run, uses, ?_⟩
        have left : (Request.update u).left cfg n X = if n = 0 then 0 else n - 1 := by
          rw [Request.left, tears.permitted, Flash.left]
        rw [left] at ends
        rw [if_neg now]
        exact ends
  | install | getMemory | setMemory => exact asks.elim

end Bench

end FaultyFlash
