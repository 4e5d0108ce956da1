import FaultyFlash.Proofs.Scenario.Refusals
import FaultyFlash.Proofs.Scenario.Replays
import FaultyFlash.Proofs.Sharing.Scenarios
import FaultyFlash.Proofs.Sharing.Sound

/-!
# What exhaustive scenarios find

An exhaustive scenario that ends well finds exactly the lists of countdowns that all fire, each once
and in lexicographic order, and runs the body on the devices that they lead to.

## Main definitions

* `Scenario.origin`: the device of a scenario, but for its countdown

## Main results

* `Scenario.exhaustive_ok`, `Scenario.explicit_runs`: the course of exhaustive scenarios that end
  well, and of scenarios that follow a list of countdowns
* `Scenario.forks_replay`: copies are what the countdowns of their trails lead to
* `Scenario.trails_enumerate`: trails are the lists of countdowns that all fire
-/

namespace FaultyFlash

open Flash (answered)
open Device (Clocked)

variable {S R κ μ α ε : Type}

/-! ## The countdown of the configuration -/

/-- What a request does, and what is seen of its answer, does not depend on the countdown of the
configuration. -/
theorem Request.answered_retimed (cfg : Config) (n : UInt32) (r : Request) (X : Flash Plain Block) :
    r.steady (answered (r.effect { cfg with countdown := n }) X).1 =
        r.steady (answered (r.effect cfg) X).1 ∧
      (answered (r.effect { cfg with countdown := n }) X).2 = (answered (r.effect cfg) X).2 := by
  cases r <;> exact ⟨rfl, rfl⟩

theorem Program.alone_retimed (cfg : Config) (n : UInt32) (m : μ) (p : Program κ μ α)
    (X : Flash Plain Block) :
    p.alone Request.steady { cfg with countdown := n } m X = p.alone Request.steady cfg m X := by
  induction p generalizing m X with
  | done a => rfl
  | ask r next ih =>
    -- neither what is permitted nor what a crash does looks at the countdown
    have torn : r.torn { cfg with countdown := n } X = r.torn cfg X := by cases r <;> rfl
    obtain ⟨answer, state⟩ := r.answered_retimed cfg n X
    simp only [alone, answer, state, torn, ih]
  | install callback next ih => exact ih m X
  | getMemory next ih => exact ih m m X
  | setMemory k next ih => exact ih k X

namespace Scenario

open Bench

/-! ## The start of scenarios -/

/-- The device of a scenario, but for its countdown. -/
def origin (cfg : Config) (image : Option Image) : Flash Plain Block :=
  ⟨{}, image, (Device.fresh Block cfg).stopped⟩

variable {cfg : Config} {strategy : Strategy}

/-- A scenario begins with a new device, whose countdown is the strategy's. -/
theorem tracks_create {w : Bench Counted Nat κ μ} {image : Option Image} {memory : μ}
    (made : create (configFor strategy cfg) memory = .ok w) (first : cfg.firstImage = some image) :
    Tracks (configFor strategy cfg) image.isSome
      (Clocked (configFor strategy cfg) (strategy.schedule 0)) (· = none) 0 (origin cfg image)
      w.plain := by
  obtain ⟨-, image', same, plain⟩ := create_eq_ok.1 (plain_create made).2
  obtain rfl : image' = image := Option.some.inj (same.symm.trans first)
  have config : w.config = configFor strategy cfg := congrArg Bench.config plain
  have there : w.plain.rig? 0 = some ⟨Device.fresh Block (configFor strategy cfg), none⟩ := by
    rw [plain]
    rfl
  -- the new device is the origin, but for the countdown that it is made with
  have sound := (wellFormed_create made).devices there
  rw [config] at sound
  refine ⟨config, ⟨rfl, ?_⟩, _, there, ⟨rfl, sound.slots, sound.synced⟩, rfl⟩
  rw [plain]

variable {callbacks : Callbacks κ μ} {nesting limit depth : Nat}
  {p : Program κ μ (Except ε Unit)} {note : Device Block → μ → μ} {m : μ}

/-! ## What strategies leave alone -/

/-- A body by itself does the same in the configurations of all strategies. -/
theorem solo_configFor : p.solo (configFor strategy cfg) m = p.solo cfg m :=
  funext fun X => Program.alone_retimed cfg (strategy.schedule 0) m p X

theorem crashes_configFor : p.crashes (configFor strategy cfg) m = p.crashes cfg m := by
  funext X
  rw [Program.crashes, solo_configFor]

theorem endsWell_configFor : p.EndsWell (configFor strategy cfg) m = p.EndsWell cfg m := by
  funext X
  rw [Program.EndsWell, solo_configFor]

/-! ## Scenarios on new benches -/

variable [PowerLossAware ε]

/-- No callback is installed on a new bench. -/
theorem guarded_create {w : Bench Counted Nat κ μ} (made : create cfg m = .ok w) :
    Guarded Unattended w.plain := by
  obtain ⟨-, image, -, plain⟩ := create_eq_ok.1 (plain_create made).2
  rw [plain]
  intro d r hr
  rw [rig?_eq_some] at hr
  obtain rfl := Option.some.inj (List.mem_singleton.1 (List.mem_of_getElem? hr))
  exact nofun

variable (callbacks nesting limit note) in
/-- A well-behaved body is run on a new bench as where nothing is shared. -/
theorem drive_plain (hp : p.WellBehaved) {u : Bench Counted Nat κ μ}
    (made : create (configFor strategy cfg) m = .ok u) :
    ResultsAgree (fun _ w v => v = w.plain) (fun _ _ => True)
      ((drive strategy (noted note callbacks nesting p) limit).run u)
      ((drive strategy (noted note callbacks nesting p) limit).run u.plain) := by
  have alike : AlikeUnattended (drive strategy (noted note callbacks nesting p) limit)
      (drive strategy (noted note callbacks nesting p) limit) :=
    alike_drive (alike_noted hp.asks hp.blind) strategy limit
  exact (alike u u.plain ⟨(wellFormed_create made).seen, guarded_create made⟩).mono
    (fun _ _ _ h => h.1.seen) fun _ _ => id

/-- The configuration for a strategy has room for the blocks that a device may need, and an image
file that takes what is written to it if the scenario's has. -/
theorem able_create {u : Bench Counted Nat κ μ}
    (made : create (configFor strategy cfg) m = .ok u)
    (size : cfg.geometry.blockSize < Config.allocationLimit) (taken : cfg.image ≠ .sealed) :
    (configFor strategy cfg).Able := by
  have wellFormed := wellFormed_create made
  obtain ⟨-, image, -, rfl⟩ := create_eq_ok.1 made
  exact ⟨wellFormed.roomy size, taken⟩

/-- The report of an exhaustive scenario that went through all trails. -/
theorem report_eq {σ : Type} (xs : List (List UInt32 × σ)) :
    (Report.addRun {}).extended [] xs = ⟨xs.length + 1, xs.length, xs.map Prod.fst⟩ := by
  simp [Report.addRun, Report.extended, Nat.add_comm]

/-- A scenario that notes nothing just runs the program. -/
theorem run_eq_runBody (strategy : Strategy) (cfg : Config) :
    run (S := Counted) callbacks nesting limit strategy cfg m (fun _ => p) =
      runBody strategy cfg m (noted (fun _ m => m) callbacks nesting p) limit := by
  have same : noted (S := Counted) (fun _ m => m) callbacks nesting p =
      fun _ d => p.execute callbacks nesting d := by
    funext n d w
    show p.execute callbacks nesting d
      { w with memory := (w.view d).elim w.memory fun _ => w.memory } = _
    cases w.view d <;> rfl
  rw [same]
  rfl

section

variable (hp : p.WellBehaved) (size : cfg.geometry.blockSize < Config.allocationLimit)
  (taken : cfg.image ≠ .sealed)

include hp size taken

/-- What an exhaustive scenario that ends well went through. -/
theorem exhaustive_ok {report : Report} {w : Bench Counted Nat κ μ}
    (run : runBody (.exhaustive depth) cfg m (noted note callbacks nesting p) limit =
      .ok ⟨.ok report, some w⟩) :
    cfg.geometry.check = .ok () ∧ ∃ image, cfg.firstImage = some image ∧
      Trail.Passes (p.crashes cfg m) (p.EndsWell cfg m) depth (origin cfg image) ∧
      report = (Report.addRun {}).extended []
        (Trail.reached (p.crashes cfg m) depth (origin cfg image)) ∧
      ∃ handed, w.memory = remembered note handed m ∧ handed.length = report.runs ∧
        handed.map Device.stopped =
          (origin cfg image :: (Trail.reached (p.crashes cfg m) depth (origin cfg image)).map
            Prod.snd).map fun X => X.device.stopped := by
  obtain ⟨u, made, drove⟩ := runBody_eq_ok.1 run
  obtain ⟨geometry, image, first, new⟩ := create_eq_ok.1 made
  -- the scenario ends where nothing is shared as it ends here
  have seen := drive_plain callbacks nesting limit note hp made
  rw [drove] at seen
  obtain ⟨_, layer, rfl⟩ := seen.ok_left
  have none : u.plain.forks = [] := by
    rw [new]
    rfl
  have found : Explores (configFor (.exhaustive depth) cfg) note m p depth [] 0
      (origin cfg image) {} report u.plain w.plain :=
    layer_ok (able_create made size taken) hp depth (tracks_create made first) none layer
  obtain ⟨passes, report, explored⟩ := found
  rw [crashes_configFor] at passes report explored
  rw [endsWell_configFor] at passes
  obtain ⟨handed, memory, same⟩ := explored.noted
  refine ⟨geometry, image, first, passes, report, handed, ?_, ?_, same⟩
  · rw [new] at memory
    exact memory
  · have length := congrArg List.length same
    rw [List.length_map, List.length_map, List.length_cons, List.length_map] at length
    rw [length, report, report_eq]

variable (callbacks nesting limit note) in
/-- The course of a scenario that follows a list of countdowns. -/
theorem explicit_runs (geometry : cfg.geometry.check = .ok ()) {image : Option Image}
    (first : cfg.firstImage = some image) {t : List UInt32}
    (enough : (Trail.visited (p.crashes cfg m) (origin cfg image) t).length ≤ limit) :
    ∃ last result handed, ∃ w : Bench Counted Nat κ μ,
      runBody (.explicit t) cfg m (noted note callbacks nesting p) limit = .ok ⟨result, some w⟩ ∧
      w.memory = remembered note handed m ∧ handed.map Device.stopped =
        (Trail.visited (p.crashes cfg m) (origin cfg image) t).map (fun X => X.device.stopped) ∧
      (Trail.visited (p.crashes cfg m) (origin cfg image) t).getLast? = some last ∧
      match (p.solo cfg m last).result with
      | .ok () => ∃ r, result = .ok r ∧
          r.powerLosses + 1 = (Trail.visited (p.crashes cfg m) (origin cfg image) t).length
      | .error e => result = .error e := by
  obtain ⟨u, made⟩ : ∃ u, create (S := Counted) (κ := κ) (configFor (.explicit t) cfg) m = .ok u :=
    ⟨_, create_eq_ok.2 ⟨geometry, image, first, rfl⟩⟩
  have follows : ∀ j, (Strategy.explicit t).schedule (0 + j) = t[j]?.getD 0 := by
    intro j
    rw [Nat.zero_add]
    rfl
  have crashes : p.crashes (configFor (.explicit t) cfg) m = p.crashes cfg m := crashes_configFor
  rw [← crashes] at enough
  -- the course of the scenario where nothing is shared
  obtain ⟨last, result, v, resumed, ⟨handed, memory, same⟩, final, ends⟩ :=
    resuming_runs callbacks nesting note m (able_create made size taken) hp enough
      (q := ⟨{}, [(Strategy.explicit t).schedule 0]⟩) follows (tracks_create made first)
  rw [crashes] at same final ends
  rw [solo_configFor] at ends
  -- it takes the same course on the bench, and begins with the memory `m`
  have seen := drive_plain callbacks nesting limit note hp made
  have drove : (drive (.explicit t) (noted note callbacks nesting p) limit).run u.plain =
      .ok result v := resumed
  rw [drove] at seen
  obtain ⟨w, run, rfl⟩ := seen.ok_right
  have new : u.plain.memory = m := by
    obtain ⟨-, image, -, rfl⟩ := create_eq_ok.1 made
    rfl
  rw [new] at memory
  refine ⟨last, result, handed, w, runBody_eq_ok.2 ⟨u, made, run⟩, memory, same, final, ?_⟩
  cases ended : (p.solo cfg m last).result with
  | error e =>
    rw [ended] at ends
    exact ends
  | ok _ =>
    rw [ended] at ends
    obtain ⟨r, rfl, losses⟩ := ends
    exact ⟨r, rfl, losses.trans (Nat.zero_add _)⟩

/-- A scenario that follows countdowns and ends well lost power at those that hit. -/
theorem explicit_losses (geometry : cfg.geometry.check = .ok ()) {image : Option Image}
    (first : cfg.firstImage = some image) {t : List UInt32}
    (enough : (Trail.visited (p.crashes cfg m) (origin cfg image) t).length ≤ limit) {r : Report}
    {w : Bench Counted Nat κ μ}
    (run : runBody (.explicit t) cfg m (noted note callbacks nesting p) limit =
      .ok ⟨.ok r, some w⟩) :
    (Trail.visited (p.crashes cfg m) (origin cfg image) t).length = r.powerLosses + 1 := by
  obtain ⟨last, result, _, _, course, -, -, -, ends⟩ :=
    explicit_runs callbacks nesting limit note hp size taken geometry first enough
  obtain rfl : result = .ok r := by
    rw [course] at run
    cases run
    rfl
  cases ended : (p.solo cfg m last).result with
  | error e =>
    rw [ended] at ends
    cases ends
  | ok _ =>
    rw [ended] at ends
    obtain ⟨_, same, losses⟩ := ends
    cases same
    exact losses.symm

/-- A scenario that follows countdowns takes no more runs than there are countdowns that hit, and
one. -/
theorem explicit_ends (geometry : cfg.geometry.check = .ok ()) {image : Option Image}
    (first : cfg.firstImage = some image) {t : List UInt32}
    (enough : (Trail.visited (p.crashes cfg m) (origin cfg image) t).length ≤ limit) :
    runBody (S := Counted) (.explicit t) cfg m (noted note callbacks nesting p) limit ≠
      .error .exhausted := by
  intro exhausted
  obtain ⟨_, _, _, _, run, -⟩ :=
    explicit_runs callbacks nesting limit note hp size taken geometry first enough
  rw [exhausted] at run
  cases run

variable (callbacks nesting note) in
/-- A scenario whose countdowns all fire loses power at each of them, and ends well if the body does
by itself on the device that they lead to. -/
theorem explicit_leads (geometry : cfg.geometry.check = .ok ()) {image : Option Image}
    (first : cfg.firstImage = some image) {t : List UInt32} {Y : Flash Plain Block}
    (leads : Trail.Leads (p.crashes cfg m) (origin cfg image) t Y)
    (well : p.EndsWell cfg m Y) (enough : t.length < limit) :
    ∃ r handed, ∃ w : Bench Counted Nat κ μ,
      runBody (.explicit t) cfg m (noted note callbacks nesting p) limit = .ok ⟨.ok r, some w⟩ ∧
      r.powerLosses = t.length ∧ w.memory = remembered note handed m ∧
      handed.length = t.length + 1 ∧
      ∃ E, handed.getLast? = some E ∧ E.stopped = Y.device.stopped := by
  obtain ⟨count, final⟩ := leads
  obtain ⟨last, result, handed, w, run, memory, same, final', ends⟩ :=
    explicit_runs callbacks nesting limit note hp size taken geometry first
      (Nat.le_trans (Nat.le_of_eq count) enough)
  obtain rfl : Y = last := Option.some.inj (final.symm.trans final')
  have well : (p.solo cfg m Y).result = .ok () := well
  rw [well] at ends
  obtain ⟨r, rfl, losses⟩ := ends
  have length := congrArg List.length same
  rw [List.length_map, List.length_map, count] at length
  -- the last device that the body is handed is the one that the countdowns lead to
  have lasts := congrArg List.getLast? same
  rw [List.getLast?_map, List.getLast?_map, final] at lasts
  obtain ⟨E, hE, stopped⟩ := Option.map_eq_some_iff.1 lasts
  exact ⟨r, handed, w, run, Nat.succ.inj (losses.trans count), memory, length, E, hE, stopped⟩

end

/-! ## What is found -/

/-- Copies are what the countdowns of their trails lead to.

Let an exhaustive scenario with a well-behaved body end well, where blocks can be allocated. Then
the body is handed one device after another, and the device that follows the trail `t`, which is
the copy taken at its last loss of power, is what a scenario that follows the countdowns `t` hands
to the body in the end, in all but the countdown. That scenario ends well, too, and loses power at
each of them. -/
theorem forks_replay (hp : p.WellBehaved) (size : cfg.geometry.blockSize < Config.allocationLimit)
    {report : Report} {w : Bench Counted Nat κ μ}
    (run : runBody (.exhaustive depth) cfg m (noted note callbacks nesting p) limit =
      .ok ⟨.ok report, some w⟩) :
    ∃ handed, w.memory = remembered note handed m ∧ handed.length = report.runs ∧
      ∀ i t, report.trails[i]? = some t → ∀ limit', t.length < limit' →
        ∃ r handed', ∃ w' : Bench Counted Nat κ μ,
          runBody (.explicit t) cfg m (noted note callbacks nesting p) limit' =
            .ok ⟨.ok r, some w'⟩ ∧
          r.powerLosses = t.length ∧ w'.memory = remembered note handed' m ∧
          handed'.length = t.length + 1 ∧
          ∃ D E, handed[i + 1]? = some D ∧ handed'.getLast? = some E ∧ D.stopped = E.stopped := by
  rcases Decidable.em (cfg.image = .sealed) with refuses | taken
  · -- no device is copied
    obtain ⟨rfl, D, memory⟩ := exhaustive_refusing hp refuses run
    exact ⟨[D], memory, rfl, nofun⟩
  obtain ⟨geometry, image, first, passes, rfl, handed, memory, length, same⟩ :=
    exhaustive_ok hp size taken run
  rw [report_eq] at length ⊢
  refine ⟨handed, memory, length, ?_⟩
  intro i t ht limit' enough
  -- the trail stands at its place together with the device that it leads to
  rw [List.getElem?_map, Option.map_eq_some_iff] at ht
  obtain ⟨⟨_, Y⟩, hx, rfl⟩ := ht
  have mem := List.mem_of_getElem? hx
  obtain ⟨-, -, leads⟩ := (Trail.mem_reached passes).1 mem
  obtain ⟨r, handed', w', replay, losses, memory', length', E, hE, stopped⟩ :=
    explicit_leads callbacks nesting note hp size taken geometry first leads
      (Trail.ok_of_mem_reached passes mem) enough
  -- the body is handed that device right after the ones of the trails before
  have there := congrArg (·[i + 1]?) same
  simp only [List.getElem?_map, List.map_cons, List.getElem?_cons_succ, hx, Option.map_some]
    at there
  obtain ⟨D, hD, stopped'⟩ := Option.map_eq_some_iff.1 there
  exact ⟨r, handed', w', replay, losses, memory', length', D, E, hD, hE,
    stopped'.trans stopped.symm⟩

/-- Programs a block, and erases it. -/
def progThenErase : Program Unit (List (Device Block)) (Except Failure Unit) :=
  .ask (.update (.prog 0 0 [1, 2])) fun
    | .ok () => .ask (.update (.erase 0)) .done
    | .error e => .done (.error e)

theorem wellBehaved_progThenErase : progThenErase.WellBehaved where
  asks := by
    refine ⟨rfl, fun x => ?_⟩
    cases x with
    | ok _ => exact ⟨rfl, fun _ => trivial⟩
    | error e => exact trivial
  blind := by
    refine ⟨fun x => rfl, fun x => ?_⟩
    cases x with
    | ok _ => exact ⟨fun _ => rfl, fun _ => trivial⟩
    | error e => exact trivial
  heeds := by
    have other (x : Except Failure Unit) (hx : x ≠ .error (.fault .powerLoss)) (e : Failure)
        (h : x = .error e) : PowerLossAware.isPowerLoss e = false := by
      subst h
      cases e with
      | fault f => cases f <;> first | rfl | exact absurd rfl hx
      | _ => rfl
    refine ⟨⟨_, rfl, rfl⟩, fun x hx => ?_⟩
    cases x with
    | ok _ => exact ⟨⟨_, rfl, rfl⟩, other⟩
    | error e =>
      intro e' h
      exact other _ hx e' h

/-- One block of two bytes, on which a crash leaves one bit of what it interrupts. -/
def tornConfig : Config := { geometry := ⟨1, 1, 2, 1⟩, crash := .someBits }

/-- The body that is explored, with a list of the devices that it is handed. -/
def progThenEraseBody : Body Counted Nat Unit (List (Device Block)) Failure :=
  noted (fun D m => m ++ [D]) (fun _ _ => .done (.ok .resume)) 0 progThenErase

/-- A list of the devices that a body is handed. -/
theorem remembered_append (handed before : List (Device Block)) :
    remembered (fun D m => m ++ [D]) handed before = before ++ handed := by
  induction handed generalizing before with
  | nil => exact (List.append_nil _).symm
  | cons D handed ih => exact (ih _).trans (List.append_assoc ..)

theorem exhaustive_progThenErase : ∃ report w,
    runBody (.exhaustive 2) tornConfig [] progThenEraseBody 0 = .ok ⟨.ok report, some w⟩ ∧
      report.trails = [[1], [1, 1], [1, 2], [2], [2, 1], [2, 2]] := by
  have ends : ended (runBody (.exhaustive 2) tornConfig [] progThenEraseBody 0) =
      some (.ok ⟨7, 6, [[1], [1, 1], [1, 2], [2], [2, 1], [2, 2]]⟩) := by decide +kernel
  obtain ⟨w, ran⟩ := ended_eq_some.1 ends
  exact ⟨_, w, ran, rfl⟩

theorem forks_replay_progThenErase : ∃ w w' : Bench Counted Nat Unit (List (Device Block)),
    ∃ (report r : Report) (D E : Device Block),
      runBody (.exhaustive 2) tornConfig [] progThenEraseBody 0 = .ok ⟨.ok report, some w⟩ ∧
      runBody (.explicit [1, 2]) tornConfig [] progThenEraseBody 3 = .ok ⟨.ok r, some w'⟩ ∧
      w.memory[3]? = some D ∧ w'.memory.getLast? = some E ∧ D.stopped = E.stopped := by
  obtain ⟨report, w, ran, trails⟩ := exhaustive_progThenErase
  obtain ⟨handed, memory, -, replays⟩ := forks_replay wellBehaved_progThenErase (by decide) ran
  obtain ⟨r, handed', w', run, -, memory', -, D, E, hD, hE, same⟩ :=
    replays 2 [1, 2] (by rw [trails]; rfl) 3 (by decide)
  rw [remembered_append] at memory memory'
  exact ⟨w, w', report, r, D, E, ran, run, memory ▸ hD, memory' ▸ hE, same⟩

/-- Trails are the lists of countdowns that all fire.

Let an exhaustive scenario with a well-behaved body end well, where blocks can be allocated. Its
trails are the lists of at most `depth` positive countdowns, but not the empty one, such that a
scenario that follows them loses power at each. That one ends well then; no other loses power as
often, however it ends. Each trail is found once, the trails are in lexicographic order, and each
stands right before its extensions. The body is run once, and once more for every trail. -/
theorem trails_enumerate (hp : p.WellBehaved)
    (size : cfg.geometry.blockSize < Config.allocationLimit) {report : Report}
    {w : Bench Counted Nat κ μ}
    (run : runBody (.exhaustive depth) cfg m (noted note callbacks nesting p) limit =
      .ok ⟨.ok report, some w⟩) :
    (∀ t, t ∈ report.trails ↔ 1 ≤ t.length ∧ t.length ≤ depth ∧ (∀ n ∈ t, 0 < n) ∧
      ∃ r, ∃ w' : Bench Counted Nat κ μ,
        runBody (.explicit t) cfg m (noted note callbacks nesting p) (t.length + 1) =
          .ok ⟨.ok r, some w'⟩ ∧ r.powerLosses = t.length) ∧
    (∀ t, 1 ≤ t.length → t.length ≤ depth →
      runBody (S := Counted) (.explicit t) cfg m (noted note callbacks nesting p) t.length =
        .error .exhausted → t ∈ report.trails) ∧
    report.trails.Nodup ∧ report.trails.Pairwise (· < ·) ∧
    (∀ t ∈ report.trails, ∃ before below after, report.trails = before ++ t :: below ++ after ∧
      (∀ s ∈ below, t <+: s) ∧ ∀ s ∈ before ++ after, ¬ t <+: s) ∧
    report.runs = report.powerLosses + 1 ∧ report.powerLosses = report.trails.length ∧
    ∃ handed, w.memory = remembered note handed m ∧ handed.length = report.runs := by
  rcases Decidable.em (cfg.image = .sealed) with refuses | taken
  · -- no device is copied, and no countdown fires
    obtain ⟨u, made, -⟩ := runBody_eq_ok.1 run
    obtain ⟨geometry, image, first, -⟩ := create_eq_ok.1 made
    obtain ⟨rfl, D, memory⟩ := exhaustive_refusing hp refuses run
    have spared := explicit_refusing callbacks nesting note m hp size geometry first refuses
    refine ⟨fun t => ⟨nofun, ?_⟩, fun t nonempty _ exhausted => ?_, .nil, .nil, nofun, rfl, rfl,
      [D], memory, rfl⟩
    · rintro ⟨nonempty, -, -, r, w', replay, losses⟩
      obtain ⟨result, v, course, none⟩ := spared t (Nat.succ_pos _)
      cases replay.symm.trans course
      rw [none r rfl] at losses
      exact absurd losses (Nat.ne_of_lt nonempty)
    · obtain ⟨result, v, course, -⟩ := spared t nonempty
      cases exhausted.symm.trans course
  obtain ⟨geometry, image, first, passes, rfl, handed, memory, length, -⟩ :=
    exhaustive_ok hp size taken run
  rw [report_eq] at length ⊢
  have sorted := Trail.sorted_reached passes
  refine ⟨?found, ?others, ?once, sorted, ?blocks, rfl, ?losses, handed, memory, length⟩
  case found =>
    intro t
    rw [Trail.mem_trails passes]
    constructor
    · rintro ⟨nonempty, short, count⟩
      obtain ⟨Y, leads⟩ := Trail.exists_leads count
      have reached := (Trail.mem_reached passes).2 ⟨List.length_pos_iff.1 nonempty, short, leads⟩
      have positive : ∀ n ∈ t, 0 < n := fun n hn => UInt32.pos_iff_ne_zero.2 (leads.ne_zero n hn)
      obtain ⟨r, _, w', replay, losses, -⟩ := explicit_leads callbacks nesting note hp size taken
        geometry first leads (Trail.ok_of_mem_reached passes reached) (Nat.lt_succ_self _)
      exact ⟨nonempty, short, positive, r, w', replay, losses⟩
    · rintro ⟨nonempty, short, -, r, w', replay, losses⟩
      have count :=
        explicit_losses hp size taken geometry first (Trail.length_visited_le t) replay
      rw [losses] at count
      exact ⟨nonempty, short, count⟩
  case others =>
    -- a scenario in which power is lost less often comes to an end
    intro t nonempty short exhausted
    rw [Trail.mem_trails passes]
    refine ⟨nonempty, short, Decidable.byContradiction fun fewer => ?_⟩
    have enough : (Trail.visited (p.crashes cfg m) (origin cfg image) t).length ≤ t.length :=
      Nat.le_of_lt_succ (Nat.lt_of_le_of_ne (Trail.length_visited_le t) fewer)
    exact explicit_ends hp size taken geometry first enough exhausted
  case once =>
    refine sorted.imp fun {s t} lt same => ?_
    rw [same] at lt
    exact List.lt_irrefl t lt
  case blocks =>
    intro t ht
    exact Trail.exists_block sorted ht
  case losses => rw [List.length_map]

theorem trails_enumerate_progThenErase :
    ∃ (report : Report) (w : Bench Counted Nat Unit (List (Device Block))),
      runBody (.exhaustive 2) tornConfig [] progThenEraseBody 0 = .ok ⟨.ok report, some w⟩ ∧
      report.runs = 7 ∧ w.memory.length = 7 ∧
      ∃ r, ∃ w' : Bench Counted Nat Unit (List (Device Block)),
        runBody (.explicit [2, 1]) tornConfig [] progThenEraseBody 3 = .ok ⟨.ok r, some w'⟩ ∧
          r.powerLosses = 2 := by
  obtain ⟨report, w, ran, trails⟩ := exhaustive_progThenErase
  obtain ⟨found, -, -, -, -, runs, losses, handed, memory, length⟩ :=
    trails_enumerate wellBehaved_progThenErase (by decide) ran
  have mem : [2, 1] ∈ report.trails := by
    rw [trails]
    decide
  obtain ⟨-, -, -, r, w', replay, lost⟩ := (found [2, 1]).1 mem
  have seven : report.runs = 7 := by rw [runs, losses, trails]; rfl
  rw [remembered_append] at memory
  exact ⟨report, w, ran, seven, by rw [memory]; exact length.trans seven, r, w', replay, lost⟩

end Scenario

end FaultyFlash
