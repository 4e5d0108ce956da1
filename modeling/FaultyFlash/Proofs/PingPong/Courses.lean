import FaultyFlash.Proofs.PingPong.Recount
import FaultyFlash.Proofs.Stability

/-!
# Mounts and commits

On a device that tells what it stores, a mount finds the newer of the records in the first two
blocks, and a commit writes a record over one of these blocks. The commit can be broken off at its
erase and at its prog.

## Main definitions

* `PingPong.Suits`: the devices that the counter is for
* `PingPong.lead`, `PingPong.newest`: where records are, and what is mounted
* `PingPong.Recount.Course`: what a recount comes to

## Main results

* `PingPong.course_mount`, `PingPong.course_commit`: what mounts and commits come to
-/

namespace FaultyFlash

open Flash (answered)

variable {κ μ α β : Type} {cfg : Config} {m : μ}

/-- Is a request a read, an update or a sync? -/
def Request.isAccess : Request → Bool
  | .read .. | .update _ | .sync => true
  | _ => false

/-- Is a request a read? -/
def Request.isRead : Request → Bool
  | .read .. => true
  | _ => false

theorem Request.isAccess_of_isRead {r : Request} (h : r.isRead) : r.isAccess := by
  cases r <;> first | rfl | cases h

theorem Request.isUntimed_of_isAccess {r : Request} (h : r.isAccess) : r.isUntimed := by
  cases r <;> first | rfl | cases h

theorem Request.steady_of_isAccess {r : Request} (h : r.isAccess) (x : Except Failure r.Answer) :
    r.steady x = x := by
  cases r <;> first | rfl | cases h

/-- Power cannot be lost in a program that only reads. -/
theorem Program.Asks.crashes {seen : Seen} {p : Program κ μ α} (h : p.Asks fun r => r.isRead)
    (X : Flash Plain Block) : (p.alone seen cfg m X).crashes = [] := by
  induction p generalizing X with
  | done a => rfl
  | ask r next ih =>
    have quiet : r.torn cfg X = [] := by
      have read := h.1
      cases r <;> first | rfl | cases read
    simp only [alone, quiet, ih _ (h.2 _), List.nil_append]
  | install | getMemory | setMemory => exact h.elim

/-- A program that counts its updates asks what it asks anyway. -/
theorem Program.Asks.tallied {ok : Request → Prop} {p : Program κ μ α} (h : p.Asks ok) (k : Nat) :
    (p.tallied k).Asks ok := by
  induction p generalizing k with
  | done a => exact trivial
  | ask r next ih => exact ⟨h.1, fun x => ih x (h.2 x) _⟩
  | install | getMemory | setMemory => exact h.elim

namespace PingPong

/-- The devices that the counter is for: records can be read and programmed, there are two blocks
for them, wear is off, and the image file can be made and written, if there is one. -/
structure Suits (cfg : Config) : Prop where
  geometry : cfg.geometry.check = .ok ()
  read : cfg.geometry.readSize ∣ Record.size
  prog : cfg.geometry.progSize ∣ Record.size
  size : Record.size ≤ cfg.geometry.blockSize
  limit : cfg.geometry.blockSize < Config.allocationLimit
  blocks : 2 ≤ cfg.geometry.blockCount
  unworn : cfg.endurance = 0
  image : cfg.image = .absent ∨ cfg.image = .writable

namespace Suits

variable {block : Nat}

theorem taken (h : Suits cfg) : cfg.image ≠ .sealed := by
  rcases h.image with absent | writable
  · simp [absent]
  · simp [writable]

theorem certain (h : Suits cfg) (crash : cfg.crash ≠ .metastable) : cfg.Certain := by
  refine ⟨⟨⟨?_, h.limit⟩, h.taken⟩, h.unworn, crash⟩
  have size : 16 ≤ cfg.geometry.blockSize := h.size
  unfold Geometry.blockBits
  omega

theorem checkBlock (h : Suits cfg) (inside : block < 2) (op : Operation) :
    cfg.geometry.checkBlock op block = .ok () :=
  if_pos (Nat.lt_of_lt_of_le inside h.blocks)

/-- Records lie where they can be read and programmed. -/
theorem checkRegion (h : Suits cfg) (inside : block < 2) (op : Operation) {granularity : Nat}
    (aligned : granularity ∣ Record.size) :
    cfg.geometry.checkRegion op granularity block 0 Record.size = .ok () := by
  have block := h.checkBlock inside op
  have multiple : Record.size % granularity = 0 := Nat.mod_eq_zero_of_dvd aligned
  have size := h.size
  unfold Geometry.checkRegion
  rw [block]
  simp [multiple, bind, Except.bind, Nat.not_lt.2 size]
  rfl

end Suits

/-- The bytes of a block that hold its record. -/
def lead (cfg : Config) (slots : Slots Block) (block : Nat) : Bytes :=
  (slots.stored cfg block).take Record.size

/-- The record that is mounted. -/
def newest (cfg : Config) (slots : Slots Block) : Record :=
  (Record.newer (Record.decode (lead cfg slots 0)) (Record.decode (lead cfg slots 1))).getD
    Record.blank

/-- The block of the record after `r`. -/
def Record.target (r : Record) : Nat := ((r.revision + 1) % 2).toNat

theorem Record.target_lt (r : Record) : r.target < 2 := by
  unfold target
  rw [UInt32.toNat_mod]
  exact Nat.mod_lt _ (by decide)

/-! ## What recounts ask -/

/-- A recount reads, updates and syncs, and asks nothing else. -/
abbrev Recount.Asks (x : Recount κ μ α) : Prop := ∀ acc, (x acc).Asks fun r => r.isAccess

/-- A mount only reads. -/
theorem asks_mount : (mount : Task κ μ Record).run.Asks fun r => r.isRead := by
  refine ⟨rfl, fun x => ?_⟩
  rcases x with e | first
  · exact trivial
  refine ⟨rfl, fun x => ?_⟩
  rcases x with e | second
  · exact trivial
  · exact trivial

theorem asks_commit (r : Record) (value : UInt32) :
    (commit r value : Task κ μ Record).run.Asks fun r => r.isAccess := by
  refine ⟨rfl, fun x => ?_⟩
  rcases x with e | _
  · exact trivial
  refine ⟨rfl, fun x => ?_⟩
  rcases x with e | _
  · exact trivial
  refine ⟨rfl, fun x => ?_⟩
  rcases x with e | _
  · exact trivial
  · exact trivial

namespace Recount.Asks

theorem pure (a : α) : Recount.Asks (Pure.pure a : Recount κ μ α) := fun _ => trivial

theorem fail (e : CountError) : Recount.Asks (Recount.fail e : Recount κ μ α) := fun _ => trivial

theorem bind {x : Recount κ μ α} {f : α → Recount κ μ β} (h : Recount.Asks x)
    (hf : ∀ a, Recount.Asks (f a)) : Recount.Asks (x >>= f) := by
  refine fun acc => (h acc).bind fun z => ?_
  rcases z with ⟨e | a, acc⟩
  · exact trivial
  · exact hf a acc

theorem perform {t : Task κ μ α} (h : t.run.Asks fun r => r.isAccess) :
    Recount.Asks (Recount.perform t) :=
  fun acc => (h.tallied acc.updates).bind fun _ => trivial

theorem tell (v : UInt32) : Recount.Asks (Recount.tell v : Recount κ μ Unit) := fun _ => trivial

theorem mount : Recount.Asks (Recount.mount : Recount κ μ Record) :=
  (perform (asks_mount.mono fun _ => Request.isAccess_of_isRead)).bind fun r =>
    (tell r.value).bind fun _ => pure r

theorem commit (r : Record) (value : UInt32) :
    Recount.Asks (Recount.commit r value : Recount κ μ Record) :=
  (perform (asks_commit r value)).bind fun r => (tell r.value).bind fun _ => pure r

theorem climb (n : Nat) (r : Record) : Recount.Asks (Recount.climb n r : Recount κ μ Record) := by
  induction n generalizing r with
  | zero => exact pure r
  | succ n ih => exact (commit r _).bind ih

theorem countTo (target : UInt32) : Recount.Asks (Recount.countTo target : Recount κ μ Unit) := by
  refine mount.bind fun start => ?_
  by_cases past : start.value > target
  · simp only [if_pos past]
    exact fail _
  · simp only [if_neg past]
    refine (climb _ start).bind fun _ => mount.bind fun reached => ?_
    by_cases short : reached.value ≠ target
    · simp only [if_pos short]
      exact fail _
    · simp only [if_neg short]
      exact pure ()

end Recount.Asks

theorem asks_recount (target : UInt32) :
    (recount target : Program κ μ Account).Asks fun r => r.isAccess := by
  refine (Recount.Asks.countTo target {}).bind fun z => ?_
  rcases z with ⟨e | _, acc⟩
  · exact trivial
  · exact (asks_mount.mono fun _ => Request.isAccess_of_isRead).bind fun _ => trivial

/-! ## Courses -/

/-- A loss of power, as the counter reports it. -/
abbrev lost : CountError := .device (.fault .powerLoss)

/-- What a recount that succeeds comes to. When power is lost at an update, it ends with that and
with an account and a device of a list. -/
abbrev Recount.Course (cfg : Config) (m : μ) (x : Recount κ μ α) (acc : Account)
    (X : Flash Plain Block) (broken : List (Account × Flash Plain Block)) (a : α) (acc' : Account)
    (Y : Flash Plain Block) : Prop :=
  (x acc).Course cfg m X (broken.map fun z => ((.error lost, z.1), z.2)) (.ok a, acc') Y

namespace Recount.Course

variable {X Y Z : Flash Plain Block} {acc acc' acc'' : Account} {a : α} {b : β}
  {broken broken' : List (Account × Flash Plain Block)}

theorem pure (a : α) (acc : Account) (X : Flash Plain Block) :
    Recount.Course cfg m (Pure.pure a : Recount κ μ α) acc X [] a acc X :=
  .done _ X

/-- One recount after another. -/
theorem bind {x : Recount κ μ α} {f : α → Recount κ μ β} (asks : Recount.Asks x)
    (h : Recount.Course cfg m x acc X broken a acc' Y)
    (hf : Recount.Course cfg m (f a) acc' Y broken' b acc'' Z) :
    Recount.Course cfg m (x >>= f) acc X (broken ++ broken') b acc'' Z := by
  have stops : ∀ z ∈ broken.map fun z => ((Except.error lost, z.1), z.2),
      follow f z.1 = .done (.error lost, z.1.2) := by
    intro z hz
    obtain ⟨z, -, rfl⟩ := List.mem_map.1 hz
    rfl
  have whole := Program.Course.bind (asks acc) h (f := follow f) hf
    (fun z : Except CountError α × Account => (.error lost, z.2)) stops
  rw [List.map_map] at whole
  unfold Recount.Course
  rw [List.map_append]
  exact whole

end Recount.Course

section Courses

variable {X : Flash Plain Block}

/-- The record of a block is read. -/
theorem reads (suits : Suits cfg) (crash : cfg.crash ≠ .metastable) (stable : X.device.Stable cfg)
    {block : Nat} (inside : block < 2) :
    ∃ Y, answered ((Request.read block 0 Record.size).effect cfg) X =
        (.ok (lead cfg X.device.slots block), Y) ∧
      Y.device.slots = X.device.slots ∧ Y.device.synced = X.device.synced := by
  obtain ⟨Y, run, same⟩ := Flash.read_stable (suits.certain crash) stable
    (suits.checkRegion inside .read suits.read)
  exact ⟨Y, Flash.answered_eq_ok.2 run, same⟩

/-- The records of both blocks are read, one after the other. -/
theorem reads_both (suits : Suits cfg) (crash : cfg.crash ≠ .metastable)
    (stable : X.device.Stable cfg) :
    ∃ Y Z, answered ((Request.read 0 0 Record.size).effect cfg) X =
        (.ok (lead cfg X.device.slots 0), Y) ∧
      answered ((Request.read 1 0 Record.size).effect cfg) Y =
        (.ok (lead cfg X.device.slots 1), Z) ∧
      Z.device.slots = X.device.slots ∧ Z.device.synced = X.device.synced := by
  obtain ⟨Y, first, slots, synced⟩ := reads suits crash stable Nat.zero_lt_two
  obtain ⟨Z, second, slots', synced'⟩ :=
    reads suits crash (stable.congr slots synced) Nat.one_lt_two
  rw [slots] at second
  exact ⟨Y, Z, first, second, slots'.trans slots, synced'.trans synced⟩

/-- A mount finds the newest record, and leaves the blocks alone. -/
theorem course_mount (suits : Suits cfg) (crash : cfg.crash ≠ .metastable)
    (stable : X.device.Stable cfg) (acc : Account) :
    ∃ Y, Recount.Course cfg m (Recount.mount : Recount κ μ Record) acc X []
        (newest cfg X.device.slots)
        { acc with told := acc.told ++ [(acc.updates, (newest cfg X.device.slots).value)] } Y ∧
      Y.device.slots = X.device.slots ∧ Y.device.synced = X.device.synced := by
  obtain ⟨Y, Z, first, second, same⟩ := reads_both suits crash stable
  exact ⟨Z, .ask first rfl (.ask second rfl (.done _ Z)), same⟩

/-- What an erase leaves of the bytes of a record. -/
def cleared (cfg : Config) (bs : Bytes) : Bytes :=
  cfg.eraseValue.elim bs (List.replicate Record.size)

/-- By a commit after `r` of a record `next` a device `D` comes to `E`. If power is lost at the
erase, it comes to `F`, and if power is lost at the prog, to `G`. -/
structure Commits (cfg : Config) (r next : Record) (D F G E : Device Block) : Prop where
  erasing : cfg.crash.Leaves (lead cfg D.slots r.target) (cleared cfg (lead cfg D.slots r.target))
    (lead cfg F.slots r.target)
  writing : cfg.crash.Leaves (cleared cfg (lead cfg D.slots r.target)) next.encode
    (lead cfg G.slots r.target)
  written : lead cfg E.slots r.target = next.encode
  others {i : Nat} (h : i ≠ r.target) :
    lead cfg F.slots i = lead cfg (D.synced.getD D.slots) i ∧
      lead cfg G.slots i = lead cfg (D.synced.getD D.slots) i ∧
      lead cfg E.slots i = lead cfg D.slots i
  synced : F.synced = D.synced ∧ G.synced = D.synced ∧ E.synced = D.synced.map fun _ => E.slots
  stable : F.Stable cfg ∧ G.Stable cfg ∧ E.Stable cfg

/-- What is erased of a record. -/
theorem take_onto_erase (suits : Suits cfg) {slots : Slots Block} (sound : slots.Sound cfg)
    (block : Nat) :
    ((Update.erase block).onto cfg (slots.stored cfg block)).take Record.size =
      cleared cfg (lead cfg slots block) := by
  have size := sound.length_stored block
  rw [Update.onto_erase size, cleared, lead]
  rcases cfg.eraseValue with _ | v
  · rfl
  · rw [Option.elim_some, Option.elim_some, List.take_replicate, size, Nat.min_eq_left suits.size]

/-- What is written of a record. -/
theorem take_onto_prog (cfg : Config) (block : Nat) (r : Record) (old : Bytes) :
    ((Update.prog block 0 r.encode).onto cfg old).take Record.size = r.encode := by
  show ([] ++ r.encode ++ old.drop (0 + r.encode.length)).take Record.size = r.encode
  rw [List.nil_append]
  exact List.take_left' r.length_encode

/-- A commit erases the older record and writes a new one. It can be broken off at both. -/
theorem course_commit (suits : Suits cfg) (crash : cfg.crash ≠ .metastable)
    (stable : X.device.Stable cfg) (acc : Account) (r : Record) (value : UInt32) :
    ∃ F G E, Recount.Course cfg m (Recount.commit r value : Recount κ μ Record) acc X
        [({ acc with updates := acc.updates + 1 }, F), ({ acc with updates := acc.updates + 2 }, G)]
        ⟨r.revision + 1, value⟩
        { acc with
          updates := acc.updates + 2
          told := acc.told ++ [(acc.updates + 2, value)] } E ∧
      Commits cfg r ⟨r.revision + 1, value⟩ X.device F.device G.device E.device := by
  have certain := suits.certain crash
  have erasable : (Update.erase r.target).Ready cfg X.device := suits.checkBlock r.target_lt .erase
  obtain ⟨X', erased, landed⟩ := erasable.lands certain stable
  obtain ⟨F, tornF, leftF⟩ := erasable.leavesTorn certain stable
  have clearing : X'.device.slots.stored cfg r.target =
      (Update.erase r.target).onto cfg (X.device.slots.stored cfg r.target) := landed.landed
  let next : Record := ⟨r.revision + 1, value⟩
  have writable : (Update.prog r.target 0 next.encode).Ready cfg X'.device := by
    refine ⟨suits.checkRegion r.target_lt .prog suits.prog, fun v hv => ?_⟩
    have blank := take_onto_erase suits stable.slots.toSound r.target
    rw [← clearing, cleared, hv] at blank
    exact blank
  obtain ⟨E, written, landed'⟩ := writable.lands certain landed.stable
  obtain ⟨G, tornG, leftG⟩ := writable.leavesTorn certain landed.stable
  have synced : answered (Request.sync.effect cfg) E = (.ok (), { E with device :=
      { E.device with synced := E.device.synced.map fun _ => E.device.slots } }) :=
    Flash.answered_eq_ok.2 (Flash.run_sync_plain E)
  refine ⟨F, G, _,
    .update erased tornF rfl (.update written tornG rfl (.ask synced rfl (.done _ _))), ?_⟩
  have cleared : lead cfg X'.device.slots r.target =
      cleared cfg (lead cfg X.device.slots r.target) := by
    rw [lead, clearing, take_onto_erase suits stable.slots.toSound]
  have written : lead cfg E.device.slots r.target = next.encode := by
    have whole := congrArg (List.take Record.size) landed'.landed
    rwa [take_onto_prog] at whole
  refine ⟨?erasing, ?writing, written, fun {i} hi => ?others,
    ⟨leftF.synced, leftG.synced.trans landed.synced, ?synced⟩, leftF.stable, leftG.stable, ?stable⟩
  case erasing =>
    rw [← take_onto_erase suits stable.slots.toSound]
    exact leftF.left.take Record.size
  case writing =>
    have writing := leftG.left.take Record.size
    rw [take_onto_prog] at writing
    rw [← cleared]
    exact writing
  case others =>
    have lead_congr {slots slots' : Slots Block}
        (same : slots.stored cfg i = slots'.stored cfg i) : lead cfg slots i = lead cfg slots' i :=
      congrArg (List.take Record.size) same
    refine ⟨lead_congr (leftF.others hi), lead_congr ?_, lead_congr ?_⟩
    · rw [leftG.others hi, landed.synced]
      -- without a last sync, the other blocks stay as they are
      rcases X.device.synced with _ | before
      · exact landed.others hi
      · rfl
    · exact (landed'.others hi).trans (landed.others hi)
  case synced =>
    rw [← landed.synced, ← landed'.synced]
  case stable => exact landed'.stable.mark

end Courses

end PingPong

end FaultyFlash
