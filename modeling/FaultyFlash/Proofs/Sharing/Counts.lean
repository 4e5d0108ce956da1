import FaultyFlash.Proofs.Scenario.Drives
import FaultyFlash.Proofs.Sharing.Places
import FaultyFlash.Proofs.Sharing.Sound

/-!
# Holders of blocks

On every bench that can be reached, the number of holders that is told of a block is the number of
slots that refer to it, in devices, in their last syncs and in states set aside while power is lost;
slots of different addresses share no block; a device that is given up takes its own references with
it; and what changes a block leaves the device as its only holder.

## Main definitions

* `Flash.Private`: nobody else holds a block of the device
* `Request.target?`: the block that a request changes
* `Bench.Exact`: a well-formed bench with blocks at their places
* `Bench.Accounted`: the references on a bench are accounted for

## Main results

* `Flash.Private.complete`, `Flash.Private.effect`: what is changed is held by nobody else
* `Bench.Exact.lockstep`: operations leave a bench exact
* `Bench.Exact.accounted`: on an exact bench references are accounted for
* `Bench.accounted_all_along`: so they are all along every run and every scenario
-/

namespace FaultyFlash

open BlockStore (refs contents retainAll releaseAll)

variable {κ μ α ε : Type}

/-- The block that a request changes, if it changes one. -/
def Request.target? : Request → Option Nat
  | .update u => some u.block
  | .setWear block _ | .markBad block | .markGood block | .setBadBit block _
  | .randomizeBadBit block | .flipBit block _ => some block
  | _ => none

/-! ## Changed blocks -/

namespace Flash

variable {cfg : Config} {block : Nat} {f : Flash Counted Nat}

/-- The store counts the references of the device, and maybe those of others. -/
def Counts (f : Flash Counted Nat) : Prop := ∀ r, f.device.holds r ≤ refs f.store r

/-- Nobody else holds the block at an address. -/
def Private (block : Nat) (f : Flash Counted Nat) : Prop :=
  ∃ r, f.device.slots[block]? = some (some r) ∧ refs f.store r = 1

/-- The others hold what the device does not. -/
theorem Counts.sharing (h : f.Counts) :
    Sharing (fun r => refs f.store r - f.device.holds r) (contents f.store) f f.plain where
  seen := rfl
  counts r := by
    have least := h r
    omega
  kept _ := rfl

namespace Private

theorem own (cfg : Config) (block : Nat) :
    Ends Counts (Flash.own cfg block) (fun _ => Private block) fun _ => True := by
  apply Ends.of_run
  intro f h
  have agree := Sharing.own cfg block _ _ h.sharing
  cases run : (Flash.own cfg block).run f with
  | error e g => trivial
  | ok b g =>
    rw [run] at agree
    obtain ⟨_, -, -, r, hr, one, -⟩ := agree.ok_left
    exact ⟨r, hr, one⟩

/-- A block that is changed in place keeps its holder. -/
theorem put (block : Nat) (c : Block) :
    Ends (Private block) (Flash.put block c) (fun _ => Private block) fun _ => True := by
  apply Ends.of_run
  rintro f ⟨r, hr, one⟩
  obtain ⟨inside, -⟩ := List.getElem?_eq_some_iff.1 hr
  simp only [Flash.put, EStateM.run_bind, run_slot, hr, EStateM.run_get, Counted.replace_eq]
  exact ⟨r, List.getElem?_set_self inside, (Counted.refs_replace ..).trans one⟩

theorem amend (cfg : Config) (block : Nat) (change : Block → Except Defect Block) :
    Ends Counts (Flash.amend cfg block change) (fun _ => Private block) fun _ => True := by
  refine (own cfg block).bind fun b => ?_
  rcases change b with d | c
  · exact .raise _ fun _ _ h => ⟨h.1, trivial⟩
  · exact put block c

/-- Only the store and the table matter. -/
theorem congr (h : f.Private block) {g : Flash Counted Nat} (store : g.store = f.store)
    (slots : g.device.slots = f.device.slots) : g.Private block := by
  obtain ⟨r, hr, one⟩ := h
  refine ⟨r, slots ▸ hr, ?_⟩
  rw [store]
  exact one

theorem save (cfg : Config) (block off len : Nat) :
    Ends (Private block) (Flash.save cfg block off len) (fun _ => Private block) fun _ => True :=
  (preserves_save (fun _ _ h => h.congr rfl rfl) cfg block off len).mono (fun _ _ => id)
    (fun _ _ _ => id) fun _ _ h => ⟨h.1, trivial⟩

/-- Counting comes last. -/
theorem count (c : Counter) (n : UInt64) :
    Ends (Private block) (modifyDevice fun d => c.set (c.get d + n) d) (fun _ => Private block)
      fun _ => True := by
  apply Coupled.modify
  rintro _ f ⟨rfl, h⟩
  exact ⟨rfl, h.congr rfl (c.slots_set ..)⟩

theorem drawn (n : Nat) : Ends Counts (Flash.drawBelow n) (fun _ => Counts) fun _ => True := by
  refine (preserves_drawBelow ?_ ?_ n).mono (fun _ _ => id) (fun _ _ _ => id)
    fun _ _ h => ⟨h.1, trivial⟩
  · rintro _ f ⟨rfl, -⟩
    rfl
  · rintro _ f x ⟨rfl, h⟩
    exact ⟨rfl, h⟩

/-- An update that is completed leaves its block to the device alone. -/
theorem complete (worn : Bool) (u : Update) :
    Ends Counts (Flash.complete cfg worn u) (fun _ => Private u.block) fun _ => True := by
  rcases u with ⟨block, off, data⟩ | block
  · exact (amend cfg block _).bind fun _ => (save cfg block off data.length).bind fun _ =>
      count .bytesProgrammed _
  · have rest (bit : Option Nat) := (amend cfg block fun b => .ok (erased cfg bit b)).bind fun _ =>
      (save cfg block 0 cfg.geometry.blockSize).bind fun _ =>
        count .bytesErased cfg.geometry.blockSize.toUInt64
    have looked : Ends Counts (Flash.fetch block) (fun _ => Counts) fun _ => True :=
      (preserves_of_answered (answered_fetch block)).mono (fun _ _ => id) (fun _ _ _ => id)
        fun _ _ h => ⟨h.1, trivial⟩
    refine looked.bind fun stored => ?_
    dsimp only
    split
    · exact rest none
    · exact ((drawn _).bind fun bit => .answer (some bit)).bind rest

theorem contracted {r : Except Misuse Unit} {op : FlashM Counted Nat Unit}
    (h : Ends Counts op (fun _ => Private block) fun _ => True) :
    Ends Counts (do contract r; op) (fun _ => Private block) fun _ => True := by
  refine ((preserves_contract r).mono (fun _ _ => id) (fun _ _ _ => id)
    fun _ _ h => ⟨h.1, trivial⟩).bind fun _ => h

/-- So does a change behind the back of the user. -/
theorem effect {r : Request} (direct : r.isDirect) (target : r.target? = some block) :
    Ends Counts (r.effect cfg) (fun _ => Private block) fun _ => True := by
  cases r with
  | setWear | markBad | markGood =>
    cases target
    exact contracted (amend cfg block _)
  | setBadBit =>
    cases target
    exact contracted (contracted (amend cfg block _))
  | randomizeBadBit =>
    cases target
    exact contracted ((drawn _).bind fun _ => amend cfg block _)
  | flipBit =>
    cases target
    exact contracted (contracted ((amend cfg block _).bind fun _ => save cfg block _ 1))
  | update => cases direct
  | _ => cases target

end Private

end Flash

/-! ## Exact benches -/

namespace Bench

/-- The references on a bench are accounted for. -/
structure Accounted (w : Bench Counted Nat κ μ) : Prop where
  /-- The holders of a block are the slots that refer to it. -/
  counts (r : Nat) : refs w.store r = w.held r
  /-- They are told of each block of a device, and a block has none only if it was never
  written. -/
  answered {d : Handle} {r : Rig Nat κ} (hr : w.rig? d = some r) {block : Nat}
    (hb : block < w.config.geometry.blockCount) :
    ∃ x, r.device.slots[block]? = some x ∧ (x.elim 0 w.held = 0 ↔ x = none) ∧
      ∀ respond, (perform respond d (.blockRefs block)).run w = .ok (.ok (x.elim 0 w.held)) w
  /-- Slots of different addresses share no block. -/
  apart {slots slots' : Slots Nat} (hs : w.HasTable slots) (hs' : w.HasTable slots') {i j r : Nat}
    (hi : slots[i]? = some (some r)) (hj : slots'[j]? = some (some r)) : i = j
  /-- A device that is given up takes its own references with it, and no others. -/
  dropped {d : Handle} {r : Rig Nat κ} (hr : w.rig? d = some r) :
    ∃ v, (drop d).run w = .ok () v ∧ (∀ e, e ≠ d → v.rig? e = w.rig? e) ∧
      ∀ b, refs v.store b + r.device.holds b = refs w.store b
  /-- What changes a block leaves the device as its only holder, unless an update is ignored. -/
  seized {reactions : Reactions κ μ} {depth : Nat} {d : Handle} {r : Request} {block : Nat}
    (target : r.target? = some block)
    (heeded : ∀ u v, r = .update u → (on d (Flash.start · u)).run w ≠ .ok (.ok .ignored) v)
    {x : r.Answer} {v : Bench Counted Nat κ μ}
    (run : ((Interplay.ask d r .done).execute reactions depth).run w = .ok (.ok x) v) :
    ∀ respond, (perform respond d (.blockRefs block)).run v = .ok (.ok 1) v

/-- A well-formed bench with blocks at their places. -/
structure Exact (w : Bench Counted Nat κ μ) : Prop extends WellFormed w where
  placed : w.Placed

namespace Exact

/-- A bench that stays exact, compared with itself. -/
abbrev Stays (cfg : Config) (imaged : Bool) (aside : List (Suspension Block))
    (w v : Bench Counted Nat κ μ) : Prop :=
  Through (StaysSound cfg imaged (fun _ => False) (fun _ => True) aside) w v ∧ Diagonal Placed w v

variable {cfg : Config} {imaged : Bool} {aside : List (Suspension Block)}
  {w v : Bench Counted Nat κ μ} {d : Handle}

theorem stays (h : w.Exact) : Stays w.config w.image.isSome w.plain.suspended w w :=
  ⟨h.through fun _ => False.elim, rfl, h.placed⟩

theorem of_stays (geometry : cfg.geometry.check = .ok ()) (h : Stays cfg imaged aside w v) :
    v = w ∧ w.Exact :=
  ⟨h.2.1, wellFormed_of_through geometry h.1, h.2.2⟩

/-- Operations leave a bench exact. -/
theorem lockstep (cfg : Config) (imaged : Bool) :
    Lockstep SetAside (fun a b => a = b ∧ True) (fun _ => True) (fun _ x => x)
      (Stays (κ := κ) (μ := μ) cfg imaged) :=
  (Through.lockstep cfg imaged).both Placed.lockstep

theorem copies (aside : List (Suspension Block)) (d : Handle) :
    Keeps (Stays (κ := κ) (μ := μ) cfg imaged aside) (copy d) (copy d) :=
  (Through.copy d).both (Placed.copy d)

theorem drops (aside : List (Suspension Block)) (d : Handle) :
    Keeps (Stays (κ := κ) (μ := μ) cfg imaged aside) (drop d) (drop d) :=
  (Through.drop d).both (Placed.drop d)

theorem kept {m : BenchM Counted Nat κ μ α}
    (keeps : Keeps (Stays w.config w.image.isSome w.plain.suspended) m m) (h : w.Exact) {a : α}
    (run : m.run w = .ok a v) : v.Exact := by
  have agree := keeps w w h.stays
  rw [run] at agree
  exact (of_stays h.geometry agree.2).2

/-! ## Accounts of references -/

/-- A device refers to blocks no more often than they have holders. -/
theorem counts_flash (h : w.Exact) {r : Rig Nat κ} (hr : w.rig? d = some r) :
    (w.flash r).Counts := by
  intro b
  show r.device.holds b ≤ refs w.store b
  rw [h.seen.counts, held_eq hr]
  exact Nat.le_add_right _ _

theorem slot (h : w.Exact) {r : Rig Nat κ} (hr : w.rig? d = some r) {block : Nat} :
    block < r.device.slots.length ↔ block < w.config.geometry.blockCount := by
  have seen := plain_of_rig? hr
  have length := (h.devices seen).slots.length
  rw [Rig.plain, Device.plain, BlockStore.length_look] at length
  rw [length]

/-- The holders that are told of a block are the slots that refer to it. -/
theorem answered (h : w.Exact) {r : Rig Nat κ} (hr : w.rig? d = some r) {block : Nat}
    {x : Option Nat} (hx : r.device.slots[block]? = some x)
    (respond : Responder Counted Nat κ μ) :
    (perform respond d (.blockRefs block)).run w = .ok (.ok (x.elim 0 w.held)) w := by
  have inside := (h.slot hr).1 (List.getElem?_eq_some_iff.1 hx).1
  have asked : (Flash.blockRefs w.config block).run (w.flash r) =
      .ok (x.elim 0 w.held) (w.flash r) := by
    have slot : (w.flash r).device.slots[block]? = some x := hx
    simp only [Flash.blockRefs, EStateM.run_bind, Flash.run_contract, Geometry.checkBlock,
      if_pos inside, Flash.run_slot, slot]
    rcases x with _ | b
    · rfl
    · rw [Option.elim_some, ← h.seen.counts]
      rfl
  show (on d (Flash.blockRefs · block)).run w = _
  rw [run_on_of_rig? hr, asked]
  exact congrArg (EStateM.Result.ok _) (settle_flash hr)

theorem dropped (h : w.Exact) {r : Rig Nat κ} (hr : w.rig? d = some r) :
    ∃ v, (drop d).run w = .ok () v ∧ (∀ e, e ≠ d → v.rig? e = w.rig? e) ∧
      ∀ b, refs v.store b + r.device.holds b = refs w.store b := by
  refine ⟨_, by rw [run_drop, hr], fun e he => ?_, fun b => ?_⟩
  · simp only [rig?, List.getElem?_set_ne he.symm]
  · have least := h.counts_flash hr b
    simp only [Counted.refs_releaseAll, flash, Device.holds] at least ⊢
    omega

/-- What leaves a block to the device alone is told. -/
theorem told (h : v.Exact) {r : Rig Nat κ} (hr : v.rig? d = some r) {block : Nat}
    (alone : (v.flash r).Private block) (respond : Responder Counted Nat κ μ) :
    (perform respond d (.blockRefs block)).run v = .ok (.ok 1) v := by
  obtain ⟨b, hb, one⟩ := alone
  have held : v.held b = 1 := (h.seen.counts b).symm.trans one
  rw [h.answered hr hb, Option.elim_some, held]

/-- An operation on the device leaves a block to it alone. -/
theorem private_of_on (h : w.Exact) {op : Config → FlashM Counted Nat α} {block : Nat}
    (alone : Flash.Ends Flash.Counts (op w.config) (fun _ => Flash.Private block) fun _ => True)
    {x : α} (run : (on d op).run w = .ok (.ok x) v) :
    ∃ r, v.rig? d = some r ∧ (v.flash r).Private block := by
  obtain ⟨r, hr, -⟩ := run_on_eq_ok.1 run
  obtain ⟨f, ran, rfl⟩ := on_ok hr run
  have left := alone.run (h.counts_flash hr)
  rw [ran] at left
  exact ⟨_, rig?_settle hr f, left⟩

/-- A loss of power, with all that its callback does, leaves the bench exact. -/
theorem kept_interrupt (h : w.Exact) {reactions : Reactions κ μ} {depth : Nat} {u : Update}
    {x : Except Failure Unit}
    (run : (interrupt (respondBy (fun respond code calls d => (reactions code calls d).run respond)
      depth) d u).run w = .ok x v) : v.Exact := by
  have L := lockstep (κ := κ) (μ := μ) w.config w.image.isSome
  have answers := L.reactions (fun _ _ => and_iff_left trivial) copies drops
    (fun code calls d => (reactions code calls d).blind_id) depth
  exact h.kept (L.interrupt ⟨rfl, trivial⟩ answers u) run

/-- An update that is not ignored as it starts ends with its completion. -/
theorem private_of_update (h : w.Exact) {reactions : Reactions κ μ} {depth : Nat} {u : Update}
    (heeded : ∀ v, (on d (Flash.start · u)).run w ≠ .ok (.ok .ignored) v)
    (run : (update (respondBy (fun respond code calls d => (reactions code calls d).run respond)
      depth) d u).run w = .ok (.ok ()) v) :
    ∃ r, v.rig? d = some r ∧ (v.flash r).Private u.block := by
  have L := lockstep (κ := κ) (μ := μ) w.config w.image.isSome
  obtain ⟨started, w1, start, rest⟩ := run_bind_eq_ok.1 run
  have h1 : w1.Exact := h.kept (L.start ⟨rfl, trivial⟩ u) start
  rcases started with e | _ | worn | worn
  · cases rest
  · exact absurd start (heeded w1)
  · exact h1.private_of_on (Flash.Private.complete worn u) rest
  · -- whatever happens while power is lost, the update goes on from an exact bench
    obtain ⟨resumed, w2, interrupted, rest⟩ := run_bind_eq_ok.1 rest
    have h2 : w2.Exact := h1.kept_interrupt interrupted
    rcases resumed with e | _
    · cases rest
    · exact h2.private_of_on (Flash.Private.complete worn u) rest

/-- What changes a block leaves the device as its only holder. -/
theorem seized (h : w.Exact) {reactions : Reactions κ μ} {depth : Nat} {r : Request} {block : Nat}
    (target : r.target? = some block)
    (heeded : ∀ u v, r = .update u → (on d (Flash.start · u)).run w ≠ .ok (.ok .ignored) v)
    {x : r.Answer} (run : ((Interplay.ask d r .done).execute reactions depth).run w =
      .ok (.ok x) v) (respond : Responder Counted Nat κ μ) :
    (perform respond d (.blockRefs block)).run v = .ok (.ok 1) v := by
  have exact' : v.Exact := h.kept ((lockstep w.config w.image.isSome).executeInterplay
    (fun _ _ => and_iff_left trivial) copies drops
    (fun code calls d => (reactions code calls d).blind_id) depth (Interplay.blind_id _)) run
  obtain ⟨_, _, performed, same⟩ := run_bind_eq_ok.1 run
  cases same
  suffices alone : ∃ r, v.rig? d = some r ∧ (v.flash r).Private block by
    obtain ⟨s, hs, alone⟩ := alone
    exact exact'.told hs alone respond
  by_cases direct : r.isDirect
  · rw [perform_direct _ d direct] at performed
    exact h.private_of_on (Flash.Private.effect direct target) performed
  · cases r with
    | update u =>
      cases target
      exact h.private_of_update (fun v => heeded u v rfl) performed
    | copy => cases target
    | _ => exact absurd rfl direct

theorem accounted (h : w.Exact) : w.Accounted where
  counts := h.seen.counts
  answered {d r} hr {block} hb := by
    have inside := (h.slot hr).2 hb
    refine ⟨_, List.getElem?_eq_getElem inside, ?_,
      h.answered hr (List.getElem?_eq_getElem inside)⟩
    rcases hx : r.device.slots[block] with _ | b
    · simp
    · have held : 0 < r.device.holds b := Device.holds_pos (hx ▸ List.getElem_mem inside)
      have least := held_eq hr b
      simp only [Option.elim_some, reduceCtorEq, iff_false]
      omega
  apart := h.placed.apart
  dropped := h.dropped
  seized := by
    intro reactions depth d r block target heeded x v run
    exact h.seized target heeded run

/-- A new bench is exact. -/
theorem create {memory : μ} (made : Bench.create cfg memory = .ok w) : w.Exact where
  toWellFormed := wellFormed_create made
  placed := by
    obtain ⟨-, image, -, rfl⟩ := create_eq_ok.1 made
    refine ⟨fun _ => 0, fun slots hs i r hi => ?_⟩
    -- the tables of a new device are empty
    have mem := List.mem_of_getElem? hi
    rcases hs with ⟨d, rig, hr, hs⟩ | ⟨s, hs, -⟩
    · rw [rig?_eq_some] at hr
      obtain rfl := Option.some.inj (List.mem_singleton.1 (List.mem_of_getElem? hr))
      rcases hs with rfl | hs
      · simp [Device.fresh] at mem
      · simp only [Device.fresh] at hs
        split at hs
        · cases hs
          simp at mem
        · cases hs
    · cases hs

/-- What a scenario does besides running its body leaves a bench exact. -/
theorem driven (cfg : Config) (imaged : Bool) (aside : List (Suspension Block)) :
    Scenario.Driven (Stays (κ := κ) (μ := μ) cfg imaged aside) where
  install d handler _ := (lockstep cfg imaged).install ⟨rfl, trivial⟩ trivial
  arm d n := Scenario.keeps_arm (lockstep cfg imaged) ⟨rfl, trivial⟩ n
  drop := drops aside
  forks h := by rw [h.2.1]
  forget := by
    apply Coupled.modify
    rintro w _ ⟨⟨rfl, seen, -, config, image, devices, watched, suspended, tables⟩, -, placed⟩
    exact ⟨⟨rfl, ⟨rfl, seen.counts⟩, rfl, config, image, devices, watched, suspended, tables⟩, rfl,
      placed⟩

end Exact

/-- The references on a bench are accounted for, all along every run from its making on, whatever is
copied, given up, synced and taken up again, and all along every scenario. No probe notices anything
else that passes where they are, be it between the operations, whatever became of them, or in the
callbacks. -/
theorem accounted_all_along [PowerLossAware ε] {cfg : Config} {memory : μ}
    {w : Bench Counted Nat κ μ} (made : Bench.create cfg memory = .ok w)
    {probe : BenchM Counted Nat κ μ Unit} (passes : Passes Accounted probe) :
    w.Accounted ∧
    (∀ (reactions : Reactions κ μ) (depth : Nat) (p : Interplay κ μ α),
      ResultsAgree (fun _ v u => u = v ∧ v.Accounted) (fun _ _ => True)
        ((p.execute reactions depth).run w) ((p.executeProbed probe reactions depth).run w)) ∧
    ∀ (callbacks : Callbacks κ μ) (nesting : Nat) (strategy : Strategy) (limit : Nat)
      (body : Nat → Program κ μ (Except ε Unit)),
      ResultsAgree (fun _ v u => u = v ∧ v.Accounted) (fun _ _ => True)
        ((Scenario.drive strategy (fun n d => (body n).execute callbacks nesting d) limit).run w)
        ((Scenario.drive strategy
          (fun n d => (body n).executeProbed probe callbacks nesting d) limit).run w) := by
  have new := Exact.create made
  have L := Exact.lockstep (κ := κ) (μ := μ) w.config w.image.isSome
  have passes' (aside : List (Suspension Block)) (v u : Bench Counted Nat κ μ)
      (h : Exact.Stays w.config w.image.isSome aside v u) : probe.run u = .ok () u := by
    obtain ⟨rfl, exact'⟩ := Exact.of_stays new.geometry h
    exact passes u exact'.accounted
  have ends {β : Type} {m m' : BenchM Counted Nat κ μ β}
      (keeps : Keeps (Exact.Stays w.config w.image.isSome w.plain.suspended) m m') :
      ResultsAgree (fun _ v u => u = v ∧ v.Accounted) (fun _ _ => True) (m.run w) (m'.run w) := by
    refine (keeps w w new.stays).mono (fun _ v u h => ?_) fun _ _ => id
    obtain ⟨rfl, exact'⟩ := Exact.of_stays new.geometry h
    exact ⟨rfl, exact'.accounted⟩
  refine ⟨new.accounted, fun reactions depth p => ?_, ?_⟩
  · exact ends (L.executeInterplayProbed passes' (fun _ _ => and_iff_left trivial) Exact.copies
      Exact.drops reactions depth p)
  · intro callbacks nesting strategy limit body
    exact ends ((Exact.driven _ _ _).keeps_drive (fun n d =>
      L.executeProbed passes' ⟨rfl, trivial⟩ callbacks nesting (body n)) strategy limit)

/-- Two blocks of two bytes. Lost power takes unsynced updates back. -/
def twoBlocks : Config where
  geometry := ⟨1, 1, 2, 2⟩
  eraseValue := some 0xff
  crash := .outOfOrder

/-- Copies a device after a sync, loses power as it erases the first block, and gives the copy
up. -/
def copyThenErase : Interplay Unit Unit Unit :=
  .ask 0 (.update (.prog 0 0 [1, 2])) fun _ => .ask 0 .sync fun _ => .copy 0 fun e =>
    .install 0 (some ()) <| .ask 0 (.setCountdown 1) fun _ =>
      .ask 0 (.update (.erase 0)) fun _ => .drop e (.done ())

/-- Copies the device that lost power, and resumes. -/
def copyThenResume : Reactions Unit Unit := fun _ _ d => .copy d fun _ => .done (.ok .resume)

/-- Where all references are counted, a probe passes that counts them. -/
theorem accounted_all_along_copyThenErase :
    ∃ w v : Bench Counted Nat Unit Unit, create twoBlocks () = .ok w ∧
      (copyThenErase.execute copyThenResume 1).run w = .ok () v ∧
      (copyThenErase.executeProbed
        (insist (fun w => ∀ r < w.store.cells.size, refs w.store r = w.held r) .exhausted)
        copyThenResume 1).run w = .ok () v ∧
      w.Accounted ∧ v.Accounted := by
  cases made : create (S := Counted) (R := Nat) (κ := Unit) twoBlocks () with
  | error f => cases made
  | ok w =>
    have ends : (match (copyThenErase.execute copyThenResume 1).run w with
      | .ok .. => true
      | .error .. => false) = true := by
      cases made
      decide +kernel
    have passes : Passes (Accounted (κ := Unit) (μ := Unit))
        (insist (fun w => ∀ r < w.store.cells.size, refs w.store r = w.held r) .exhausted) := by
      intro v hv
      exact passes_insist _ _ v fun r _ => hv.counts r
    obtain ⟨first, all, -⟩ := accounted_all_along (α := Unit) (ε := Failure) made passes
    have agree := all copyThenResume 1 copyThenErase
    cases ran : (copyThenErase.execute copyThenResume 1).run w with
    | error h u =>
      rw [ran] at ends
      cases ends
    | ok x v =>
      rw [ran] at agree
      obtain ⟨u, probed, rfl, accounted⟩ := agree.ok_left
      exact ⟨w, u, rfl, ran, probed, first, accounted⟩

end Bench

end FaultyFlash
