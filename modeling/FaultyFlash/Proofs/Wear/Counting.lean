import FaultyFlash.Proofs.Wear.Benches

/-!
# Blocks wear out

Below the greatest word, an endurance tells after how many erases a block is worn out, and a block
that was marked bad stays bad. An endurance that is the greatest word is never exceeded, not even by
a block that is marked bad.

## Main definitions

* `Asked.erases`: an erase of a block of a device that took effect

## Main results

* `Asked.toNat_foldl_weigh`: the wear of a block counts its erases
* `Asked.lt_foldl_weigh`: wear that exceeds the endurance stays above it
* `Bench.wear_counts`: wear and bad blocks, on all benches with a history
-/

namespace FaultyFlash

variable {κ μ α : Type} {cfg : Config} {d : Handle} {block : Nat} {n : UInt32}

namespace Asked

variable {S R : Type} [BlockStore S R]

/-- Was it an erase of a block of the device `d` that took effect? -/
def erases (d : Handle) (block : Nat) (a : Handle × Asked S R κ μ) : Bool :=
  decide (a.1 = d) && a.2.tookEffect d && decide (a.2.request = .update (.erase block))

/-- A request that does not set the wear of a block adds one to it, if it is an erase of the block
that takes effect, or nothing. -/
theorem toNat_weigh {a : Handle × Asked S R κ μ}
    (unset : a.1 = d → a.2.request ≠ .markBad block ∧ a.2.request ≠ .markGood block ∧
      ∀ k, a.2.request ≠ .setWear block k) :
    (weigh cfg d block n a).toNat = min (n.toNat + (erases d block a).toNat) (2 ^ 32 - 1) := by
  have bound := n.toNat_lt
  by_cases took : a.1 = d ∧ a.2.tookEffect d = true
  · obtain ⟨bad, good, set⟩ := unset took.1
    rw [weigh, if_pos took, Request.weigh_of_unset bad good set, erases, decide_eq_true took.1,
      took.2, Bool.true_and, Bool.true_and]
    by_cases erase : a.2.request = .update (.erase block)
    · rw [if_pos erase, decide_eq_true erase, Bool.toNat_true, Config.toNat_successor]
    · rw [if_neg erase, decide_eq_false erase, Bool.toNat_false]
      omega
  · have none : (decide (a.1 = d) && a.2.tookEffect d) = false := by
      rwa [Bool.eq_false_iff, ne_eq, Bool.and_eq_true, decide_eq_true_iff]
    rw [weigh, if_neg took, erases, none, Bool.false_and, Bool.toNat_false]
    omega

/-- As long as nothing sets it, the wear of a block counts its erases, up to the greatest word. -/
theorem toNat_foldl_weigh (cfg : Config) (n : UInt32) {as : List (Handle × Asked S R κ μ)}
    (unset : ∀ a ∈ as, a.1 = d → a.2.request ≠ .markBad block ∧ a.2.request ≠ .markGood block ∧
      ∀ k, a.2.request ≠ .setWear block k) :
    (as.foldl (weigh cfg d block) n).toNat =
      min (n.toNat + as.countP (erases d block)) (2 ^ 32 - 1) := by
  induction as generalizing n with
  | nil =>
    have bound := n.toNat_lt
    rw [List.foldl_nil, List.countP_nil]
    omega
  | cons a as ih =>
    rw [List.foldl_cons, ih _ fun a ha => unset a (List.mem_cons_of_mem _ ha),
      toNat_weigh (unset a List.mem_cons_self), List.countP_cons]
    cases erases d block a <;> simp only [Bool.toNat_true, Bool.toNat_false, if_true,
      Bool.false_eq_true, if_false] <;> omega

/-- Wear that exceeds the endurance stays above it as long as nothing lowers it. -/
theorem lt_foldl_weigh (below : cfg.endurance ≠ 0xffffffff) (worn : cfg.endurance < n)
    {as : List (Handle × Asked S R κ μ)}
    (spared : ∀ a ∈ as, a.1 = d →
      a.2.request ≠ .markGood block ∧ ∀ k, a.2.request ≠ .setWear block k) :
    cfg.endurance < as.foldl (weigh cfg d block) n := by
  induction as generalizing n with
  | nil => exact worn
  | cons a as ih =>
    refine ih ?_ fun a ha => spared a (List.mem_cons_of_mem _ ha)
    unfold weigh
    split
    · next took =>
      obtain ⟨good, set⟩ := spared a List.mem_cons_self took.1
      exact Request.lt_weigh below worn good set
    · exact worn

end Asked

namespace Bench

variable {w v : Bench Counted Nat κ μ} {ledger : Ledger} {m : μ}
  {respond : Responder Counted Nat κ μ}

/-- A request that was answered keeps to its contract, so the block that it names is there. -/
theorem inside_of_ok {r : Request} (direct : r.isDirect) (names : r.block? = some block)
    {a : r.Answer} (run : (perform respond d r).run w = .ok (.ok a) v) :
    ∃ s, w.rig? d = some s ∧ block < w.config.geometry.blockCount := by
  rw [perform_direct respond d direct] at run
  obtain ⟨s, hs, answer, -⟩ := run_on_eq_ok.1 run
  have lawful : r.Lawful w.config none := by
    refine Classical.byContradiction fun broken => ?_
    obtain ⟨m, refused⟩ := Flash.effect_misused names direct broken (w.flash s)
    rw [refused] at answer
    cases answer
  exact ⟨s, hs, lawful.inside names⟩

/-- The wear of a block of a device that is there. -/
theorem weighs_of_rig? {r : Rig Nat κ} (hr : w.rig? d = some r) (block : Nat) :
    Weighs d block ((r.device.plain w.store).slots.wear block) w.plain := by
  have there := plain_of_rig? hr
  refine ⟨(List.getElem?_eq_some_iff.1 (rig?_eq_some.1 there)).1, fun {s} hs => ?_⟩
  cases there.symm.trans hs
  rfl

namespace History

/-- A device that is still there tells the wear of a block, and by that whether it is bad. -/
theorem told (h : History cfg m v ledger) (weighs : Weighs d block n v.plain) (live : v.isLive d)
    (inside : block < cfg.geometry.blockCount) (respond : Responder Counted Nat κ μ) :
    (perform respond d (.wear block)).run v = .ok (.ok n) v ∧
      (perform respond d (.isBad block)).run v = .ok (.ok (cfg.isWorn n)) v := by
  obtain ⟨r, hr⟩ := Option.isSome_iff_exists.1 live
  obtain rfl : v.config = cfg := h.plain.2.remembers.1
  have wear : (r.device.plain v.store).slots.wear block = n := weighs.holds (plain_of_rig? hr)
  have finds := h.wellFormed.finds hr block
  constructor
  · exact (run_on_answered hr (Flash.wear · block)).trans
      (by rw [finds.wear inside, wear, settle_flash hr])
  · exact (run_on_answered hr (Flash.isBad · block)).trans
      (by rw [finds.isBad inside, wear, settle_flash hr])

/-- The wear that is told is the wear of a block of the device. -/
theorem weighs_of_told (h : History cfg m w ledger)
    (run : (perform respond d (.wear block)).run w = .ok (.ok n) v) :
    block < cfg.geometry.blockCount ∧ Weighs d block n w.plain := by
  obtain ⟨r, hr, inside⟩ := inside_of_ok (r := .wear block) rfl rfl run
  obtain rfl : w.config = cfg := h.plain.2.remembers.1
  have weighs := weighs_of_rig? hr block
  have same := (h.told weighs (Option.isSome_iff_exists.2 ⟨r, hr⟩) inside respond).1
  cases run.symm.trans same
  exact ⟨inside, weighs⟩

/-- A block that was marked bad has the least wear that wears a block out. -/
theorem weighs_of_markBad (h : History cfg m w ledger)
    (run : (perform respond d (.markBad block)).run w = .ok (.ok ()) v) :
    block < cfg.geometry.blockCount ∧ (∃ ledger, History cfg m v ledger) ∧
      Weighs d block cfg.wornOut v.plain := by
  obtain ⟨r, hr, inside⟩ := inside_of_ok (r := .markBad block) rfl rfl run
  obtain rfl : w.config = cfg := h.plain.2.remembers.1
  have weighs := h.weigh_direct (weighs_of_rig? hr block) (r := .markBad block) rfl run
  rw [if_pos ⟨rfl, rfl⟩, Request.weigh, if_pos rfl] at weighs
  exact ⟨inside, h.goes_on (.ask d (.markBad block) rfl) run rfl, weighs⟩

end History

/-- On a new device no block has any wear. -/
theorem wear_create (made : create cfg m = .ok w) (inside : block < cfg.geometry.blockCount)
    (respond : Responder Counted Nat κ μ) :
    (perform respond 0 (.wear block)).run w = .ok (.ok 0) w := by
  have h : History cfg m w _ := .create made
  have weighs : Weighs 0 block 0 w.plain := by
    obtain ⟨-, image, -, plain⟩ := create_eq_ok.1 (plain_create made).2
    rw [plain]
    refine ⟨Nat.zero_lt_one, fun {r} hr => ?_⟩
    rw [rig?_eq_some] at hr
    cases List.mem_singleton.1 (List.mem_of_getElem? hr)
    show Slots.wear (List.replicate cfg.geometry.blockCount none) block = 0
    rw [Slots.wear, List.getElem?_replicate]
    split <;> rfl
  have live : w.isLive 0 := by
    obtain ⟨-, image, -, rfl⟩ := create_eq_ok.1 made
    rfl
  exact (h.told weighs live inside respond).1

/-- Blocks wear out by their erases, below the greatest word.

Whatever interplays and their callbacks do to a bench with a history, such as a new one, goes on
with it. On a new device no block has any wear. If no countdown runs on a bench, an interplay that
starts none loses no power. On a bench with a history, let an interplay be run that loses no power,
and let a device be there at its end. If a block of the device had been marked bad before, it is
bad, unless the interplay set its wear or made it good. If none of these was asked for the block,
nor that it be marked bad, its wear has grown by as many of the erases that the interplay asked of
the device as took effect, up to the greatest word; and the block is bad if, and only if, there were
more of them, with the wear before, than the endurance. (An erase that the image file refuses to
show took effect all the same.) -/
theorem wear_counts (cfg : Config) (m : μ) :
    (∀ (reactions : Reactions κ μ) (depth : Nat) (p : Interplay κ μ α)
      (w v : Bench Counted Nat κ μ) (ledger : Ledger) (a : α), History cfg m w ledger →
        (p.execute reactions depth).run w = .ok a v → ∃ ledger, History cfg m v ledger) ∧
    (∀ (w : Bench Counted Nat κ μ) (respond : Responder Counted Nat κ μ), create cfg m = .ok w →
      (∀ block < cfg.geometry.blockCount,
        (perform respond 0 (.wear block)).run w = .ok (.ok 0) w) ∧
      (cfg.countdown = 0 → w.Quiet)) ∧
    ∀ (w : Bench Counted Nat κ μ) (respond : Responder Counted Nat κ μ) (p : Interplay κ μ α),
      (w.Quiet → (∀ a ∈ p.transcript respond w, ∀ n, a.2.request = .setCountdown n → n = 0) →
        ∀ a ∈ p.transcript respond w, ¬ a.2.takesLast a.1) ∧
      ∀ (v : Bench Counted Nat κ μ) (d : Handle) (block : Nat) (a : α),
        (∀ a ∈ p.transcript respond w, ¬ a.2.takesLast a.1) →
        (p.run respond).run w = .ok a v → v.isLive d →
        (∀ (u : Bench Counted Nat κ μ) (ledger : Ledger), History cfg m u ledger →
          (perform respond d (.markBad block)).run u = .ok (.ok ()) w →
          0 < cfg.endurance → cfg.endurance ≠ 0xffffffff →
          (∀ a ∈ p.transcript respond w, a.1 = d →
            a.2.request ≠ .markGood block ∧ ∀ k, a.2.request ≠ .setWear block k) →
          (perform respond d (.isBad block)).run v = .ok (.ok true) v) ∧
        ∀ (ledger : Ledger) (n : UInt32), History cfg m w ledger →
          (perform respond d (.wear block)).run w = .ok (.ok n) w →
          (∀ a ∈ p.transcript respond w, a.1 = d → a.2.request ≠ .markBad block ∧
            a.2.request ≠ .markGood block ∧ ∀ k, a.2.request ≠ .setWear block k) →
          let erases := n.toNat + (p.transcript respond w).countP (Asked.erases d block)
          ∃ k, (perform respond d (.wear block)).run v = .ok (.ok k) v ∧
            k.toNat = min erases (2 ^ 32 - 1) ∧
            (0 < cfg.endurance → cfg.endurance ≠ 0xffffffff →
              (perform respond d (.isBad block)).run v =
                .ok (.ok (decide (cfg.endurance.toNat < erases))) v) := by
  refine ⟨fun reactions depth p w v ledger a h run => h.execute run,
    fun w respond made => ⟨fun block inside => wear_create made inside respond,
      fun off => quiet_create off made⟩,
    fun w respond p => ⟨fun quiet unarmed => quiet.not_takesLast unarmed,
      fun v d block a powered run live => ⟨?_, ?_⟩⟩⟩
  · intro u ledger h marked limited below spared
    obtain ⟨inside, ⟨_, h'⟩, weighs⟩ := h.weighs_of_markBad marked
    obtain ⟨⟨_, history⟩, weighs⟩ := h'.weigh_run weighs powered run
    have worn := Asked.lt_foldl_weigh below (Config.lt_wornOut below) spared
    rw [(history.told weighs live inside respond).2, Config.isWorn_iff.2 ⟨limited, worn⟩]
  · intro ledger n h before unset
    obtain ⟨inside, weighs⟩ := h.weighs_of_told before
    obtain ⟨⟨_, history⟩, weighs⟩ := h.weigh_run weighs powered run
    have counted := Asked.toNat_foldl_weigh cfg n unset
    obtain ⟨wear, bad⟩ := history.told weighs live inside respond
    refine ⟨_, wear, counted, fun limited below => ?_⟩
    rw [bad, Config.isWorn_eq_of_toNat below limited counted]

/-- A device of two blocks of two bytes that survive one erase. Worn blocks ignore erases. -/
def brittle : Config where
  geometry := ⟨1, 1, 2, 2⟩
  eraseValue := some 0xff
  endurance := 1
  worn := .eraseNoop

/-- Erases the first block three times, and uses the second one. -/
def wearDown : Interplay Unit Unit Unit :=
  .ask 0 (.update (.erase 0)) fun _ => .ask 0 (.update (.erase 0)) fun _ =>
    .ask 0 (.update (.erase 0)) fun _ => .ask 0 (.update (.erase 1)) fun _ =>
      .ask 0 (.update (.prog 1 0 [5])) fun _ => .done ()

/-- Marks the second block bad and wears the first one down. Answers what comes of the mark, what is
asked after it, how many erases of the first block take effect, and whether the device is there. -/
def markAndWear : BenchM Counted Nat Unit Unit (Option Unit × List Request × Nat × Bool) := do
  let marked ← perform (fun _ _ => throw .exhausted) 0 (.markBad 1)
  let asked := wearDown.transcript (fun _ _ => throw .exhausted) (← get)
  wearDown.run fun _ _ => throw .exhausted
  let live := (← get).isLive 0
  return (marked.toOption, asked.map (·.2.request), asked.countP (Asked.erases 0 0), live)

theorem wear_counts_brittle : ∃ u w v : Bench Counted Nat Unit Unit, create brittle () = .ok u ∧
    (perform (fun _ _ => throw .exhausted) 0 (.markBad 1)).run u = .ok (.ok ()) w ∧
    (wearDown.run fun _ _ => throw .exhausted).run w = .ok () v ∧
    (perform (fun _ _ => throw .exhausted) 0 (.isBad 1)).run v = .ok (.ok true) v ∧
    (∃ k, (perform (fun _ _ => throw .exhausted) 0 (.wear 0)).run v = .ok (.ok k) v ∧
      k.toNat = 2) ∧
    (perform (fun _ _ => throw .exhausted) 0 (.isBad 0)).run v = .ok (.ok true) v := by
  have comes : onNew brittle markAndWear = some (some (), [.update (.erase 0), .update (.erase 0),
      .update (.erase 0), .update (.erase 1), .update (.prog 1 0 [5])], 2, true) := by
    decide +kernel
  obtain ⟨u, _, made, ran⟩ := onNew_eq_some.1 comes
  obtain ⟨x, w, marked, ran⟩ := run_bind_eq_ok.1 ran
  obtain ⟨_, _, got, ran⟩ := run_bind_eq_ok.1 ran
  cases got
  obtain ⟨_, v, run, ran⟩ := run_bind_eq_ok.1 ran
  obtain ⟨_, _, got, told⟩ := run_bind_eq_ok.1 ran
  cases got
  simp only [EStateM.run_pure, EStateM.Result.ok.injEq, Prod.mk.injEq] at told
  obtain ⟨⟨hx, requests, erases, live⟩, rfl⟩ := told
  obtain rfl := toOption_eq_some.1 hx
  obtain ⟨-, fresh, wears⟩ := wear_counts (α := Unit) brittle ()
  have h : History brittle () u _ := .create made
  obtain ⟨none, quiet⟩ := fresh u (fun _ _ => throw .exhausted) made
  -- neither the mark nor what comes after it asks for what would spoil the count
  have harmless : ∀ a ∈ wearDown.transcript (fun _ _ => throw .exhausted) w,
      (∀ n, a.2.request = .setCountdown n → n = 0) ∧ a.2.request ≠ .markBad 0 ∧
        ∀ block, a.2.request ≠ .markGood block ∧ ∀ k, a.2.request ≠ .setWear block k := by
    intro a ha
    have asked := List.mem_map_of_mem (f := fun a => a.2.request) ha
    rw [requests] at asked
    simp only [List.mem_cons, List.not_mem_nil, or_false] at asked
    rcases asked with same | same | same | same | same <;> rw [same] <;> simp
  -- the second block was marked bad
  obtain ⟨calm, ends⟩ := wears w (fun _ _ => throw .exhausted) wearDown
  have powered := calm ((quiet rfl).perform (r := .markBad 1) (by simp) marked) fun a ha =>
    (harmless a ha).1
  have second := (ends v 0 1 () powered run live).1 u _ h marked (by decide) (by decide)
    fun a ha _ => (harmless a ha).2.2 1
  -- the first one is counted from the new device on
  obtain ⟨calm, ends⟩ :=
    wears u (fun _ _ => throw .exhausted) (.ask 0 (.markBad 1) fun _ => wearDown)
  have whole : Interplay.transcript (fun _ _ => throw .exhausted)
      (.ask 0 (.markBad 1) fun _ => wearDown) u = (0, ⟨u, .markBad 1, .ok ()⟩) ::
        wearDown.transcript (fun _ _ => throw .exhausted) w := by
    rw [Interplay.transcript, marked]
  rw [whole] at calm ends
  have powered := calm (quiet rfl) fun a ha => (List.mem_cons.1 ha).elim
    (fun first => by rw [first]; simp) fun later => (harmless a later).1
  obtain ⟨k, wear, count, bad⟩ := (ends v 0 0 () powered (run_bind_eq_ok.2 ⟨_, w, marked, run⟩)
    live).2 _ 0 h (none 0 (by decide)) fun a ha _ => (List.mem_cons.1 ha).elim
      (fun first => by rw [first]; simp)
      fun later => ⟨(harmless a later).2.1, (harmless a later).2.2 0⟩
  have two : List.countP (Asked.erases 0 0) ((0, ⟨u, .markBad 1, .ok ()⟩) ::
      wearDown.transcript (fun _ _ => throw .exhausted) w) = 2 := by
    rw [List.countP_cons, erases]
    rfl
  rw [two] at count bad
  exact ⟨u, w, v, made, marked, run, second, ⟨k, wear, count⟩, bad (by decide) (by decide)⟩

/-- A device of one block of two bytes whose endurance is the greatest word. -/
def lasting : Config where
  geometry := ⟨1, 1, 2, 1⟩
  endurance := 0xffffffff

/-- There a block that is marked bad is not bad. -/
theorem wear_counts_lasting : 0 < lasting.endurance ∧
    ∃ w v : Bench Counted Nat Unit Unit, create lasting () = .ok w ∧
      (perform (fun _ _ => throw .exhausted) 0 (.markBad 0)).run w = .ok (.ok ()) v ∧
      (perform (fun _ _ => throw .exhausted) 0 (.isBad 0)).run v = .ok (.ok false) v := by
  obtain ⟨w, v, made, marked, live⟩ : ∃ w v : Bench Counted Nat Unit Unit,
      create lasting () = .ok w ∧
        (perform (fun _ _ => throw .exhausted) 0 (.markBad 0)).run w = .ok (.ok ()) v ∧
        v.isLive 0 = true :=
    ⟨_, _, rfl, rfl, rfl⟩
  have h : History lasting () w _ := .create made
  obtain ⟨inside, ⟨_, h'⟩, weighs⟩ := h.weighs_of_markBad marked
  have answered := (h'.told weighs live inside fun _ _ => throw .exhausted).2
  rw [Config.isWorn_greatest rfl] at answered
  exact ⟨by decide, w, v, made, marked, answered⟩

end Bench

end FaultyFlash
