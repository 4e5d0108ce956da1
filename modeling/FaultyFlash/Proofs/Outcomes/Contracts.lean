import FaultyFlash.Proofs.Bits
import FaultyFlash.Proofs.Unattended

/-!
# What is refused

What becomes of a request that names a block is decided before anything is done: by its contract, by
whether the block is worn out, and by how worn blocks misbehave. A request that breaks its contract,
one that a worn block fails, and an update that a worn block ignores leave the device, its store and
its image file as they are.

## Main definitions

* `Request.block?`: the block that a request names
* `Request.Lawful`: the contract of a request, where some block is found at the address
* `Request.Fails`, `Request.Ignored`: a worn block fails a request, or ignores it
* `Flash.Finds`: which block is found at an address of a device

## Main results

* `Flash.Finds.permit_misused`, `Flash.Finds.permit_lawful`: what becomes of an update
* `Flash.effect_misused`, `Flash.Finds.effect_fails`: other requests that are refused
* `Bench.WellFormed.finds`: what is found at an address of a device is what is seen there
-/

namespace FaultyFlash

open Flash (answered)

variable {S R α β : Type} {cfg : Config} {block off len granularity : Nat} {x : Option Block}

/-- The block that a request names. -/
def Request.block? : Request → Option Nat
  | .read block _ _ | .wear block | .isBad block | .badBit block | .isMetastable block
  | .blockRefs block | .crc block | .setWear block _ | .markBad block | .markGood block
  | .setBadBit block _ | .randomizeBadBit block | .flipBit block _ => some block
  | .update u => some u.block
  | _ => none

/-! ## Contracts -/

/-- A device has the block, and a region of it is aligned and stays within it. -/
structure Geometry.Allows (g : Geometry) (granularity block off len : Nat) : Prop where
  block : block < g.blockCount
  aligned : off % granularity = 0 ∧ len % granularity = 0
  region : off + len ≤ g.blockSize

/-- Is the block that is found at an address, if any, worn out? -/
def Config.isBad (cfg : Config) (x : Option Block) : Bool := x.elim false fun b => cfg.isWorn b.wear

/-- Erases are simulated, and a region of a block that is not worn out holds another byte than
erased flash. -/
def Config.Unerased (cfg : Config) (x : Option Block) (off len : Nat) : Prop :=
  ∃ value b, cfg.eraseValue = some value ∧ x = some b ∧ cfg.isBad x = false ∧
    ∃ byte ∈ b.data.region off len, byte ≠ value

namespace Request

/-- The contract of a request that names a block, where `x` is found at the address. -/
def Lawful (cfg : Config) (x : Option Block) : Request → Prop
  | .read block off len => cfg.geometry.Allows cfg.geometry.readSize block off len
  | .update (.prog block off data) =>
    cfg.geometry.Allows cfg.geometry.progSize block off data.length ∧
      ¬ cfg.Unerased x off data.length
  | .setBadBit block bit | .flipBit block bit =>
    block < cfg.geometry.blockCount ∧ bit < cfg.geometry.blockBits
  | r => ∀ block, r.block? = some block → block < cfg.geometry.blockCount

/-- The contract is about a block of the device. -/
theorem Lawful.inside {r : Request} (h : r.Lawful cfg x) (names : r.block? = some block) :
    block < cfg.geometry.blockCount := by
  cases r with
  | read =>
    cases names
    exact Geometry.Allows.block h
  | update u =>
    cases names
    cases u with
    | prog => exact h.1.block
    | erase => exact h _ rfl
  | setBadBit | flipBit =>
    cases names
    exact h.1
  | _ => exact h _ names

/-- How worn blocks misbehave if they fail a request. -/
def failing : Request → Option WornBehavior
  | .read .. => some .readError
  | .update (.prog ..) => some .progError
  | .update (.erase _) => some .eraseError
  | _ => none

/-- How worn blocks misbehave if they ignore a request. -/
def voiding : Request → Option WornBehavior
  | .update (.prog ..) => some .progNoop
  | .update (.erase _) => some .eraseNoop
  | _ => none

/-- The block that is found is worn out and fails the request. -/
def Fails (cfg : Config) (x : Option Block) (r : Request) : Prop :=
  cfg.isBad x ∧ r.failing = some cfg.worn

/-- The block that is found is worn out and ignores the request. -/
def Ignored (cfg : Config) (x : Option Block) (r : Request) : Prop :=
  cfg.isBad x ∧ r.voiding = some cfg.worn

end Request

theorem Geometry.checkBlock_of_lt {g : Geometry} {op : Operation} (h : block < g.blockCount) :
    g.checkBlock op block = .ok () := if_pos h

theorem Geometry.checkBlock_of_not_lt {g : Geometry} {op : Operation} (h : ¬ block < g.blockCount) :
    g.checkBlock op block = .error (.invalidBlock op block) := if_neg h

theorem Geometry.Allows.check {g : Geometry} (h : g.Allows granularity block off len)
    (op : Operation) : g.checkRegion op granularity block off len = .ok () := by
  obtain ⟨inside, ⟨start, length⟩, region⟩ := h
  rw [checkRegion, checkBlock_of_lt inside]
  simp [start, length, Nat.not_lt.2 region, bind, Except.bind, pure, Except.pure]

theorem Geometry.check_of_not_allows {g : Geometry} (h : ¬ g.Allows granularity block off len)
    (op : Operation) : ∃ m, g.checkRegion op granularity block off len = .error m := by
  rw [checkRegion]
  by_cases inside : block < g.blockCount
  · rw [checkBlock_of_lt inside]
    by_cases aligned : off % granularity ≠ 0 ∨ len % granularity ≠ 0
    · exact ⟨_, if_pos aligned⟩
    · have beyond : g.blockSize < off + len := by
        refine Nat.not_le.1 fun region => h ⟨inside, ?_, region⟩
        simpa only [not_or, not_not] using aligned
      refine ⟨_, (if_neg aligned).trans (if_pos beyond)⟩
  · rw [checkBlock_of_not_lt inside]
    exact ⟨_, rfl⟩

namespace Flash

/-- An operation goes on where its contract is kept. -/
theorem answered_contract_ok {c : Except Misuse α} {a : α} (h : c = .ok a)
    (k : α → FlashM S R β) (f : Flash S R) :
    answered (contract c >>= k) f = answered (k a) f := by
  rw [answered_bind, h]
  rfl

/-- An operation whose contract is broken is over. -/
theorem answered_contract_error {c : Except Misuse α} {m : Misuse} (h : c = .error m)
    (k : α → FlashM S R β) (f : Flash S R) :
    answered (contract c >>= k) f = (.error (.misuse m), f) := by
  rw [answered_bind, h]
  rfl

variable [BlockStore S R] {f : Flash S R} {u : Update} {r : Request}

/-- Where the device has the address, `x` is found there, and blocks have the configured size. -/
structure Finds (cfg : Config) (block : Nat) (x : Option Block) (f : Flash S R) : Prop where
  found (h : block < cfg.geometry.blockCount) : answered (fetch block) f = (.ok x, f)
  size {b : Block} (h : x = some b) : b.data.length = cfg.geometry.blockSize

namespace Finds

theorem isWorn (h : Finds cfg block x f) (inside : block < cfg.geometry.blockCount) :
    answered (Flash.isWorn cfg block) f = (.ok (cfg.isBad x), f) := by
  rw [Flash.isWorn, answered_bind, h.found inside]
  rfl

theorem badBit (h : Finds cfg block x f) (inside : block < cfg.geometry.blockCount) :
    answered (Flash.badBit cfg block) f = (.ok (x.map Block.badBitPos), f) := by
  rw [Flash.badBit, answered_contract_ok (Geometry.checkBlock_of_lt inside), answered_bind,
    h.found inside]
  rfl

theorem region (h : Finds cfg block x f) {b : Block} (hx : x = some b)
    (fits : off + len ≤ cfg.geometry.blockSize) :
    b.region off len = .ok (b.data.region off len) :=
  Block.region_of_le (by rw [h.size hx]; exact fits)

/-- A region that must be erased and is not is refused, on a block that is not worn out. -/
theorem checkErased (h : Finds cfg block x f) (good : cfg.isBad x = false)
    (inside : block < cfg.geometry.blockCount) (fits : off + len ≤ cfg.geometry.blockSize) :
    (cfg.Unerased x off len → ∃ m,
        answered (Flash.checkErased cfg block off len) f = (.error (.misuse m), f)) ∧
      (¬ cfg.Unerased x off len →
        answered (Flash.checkErased cfg block off len) f = (.ok (), f)) := by
  rw [Flash.checkErased, answered_bind, h.found inside]
  cases he : cfg.eraseValue with
  | none =>
    refine ⟨?_, fun _ => rfl⟩
    rintro ⟨value, b, some, -⟩
    rw [he] at some
    cases some
  | some value =>
    cases hx : x with
    | none =>
      refine ⟨?_, fun _ => rfl⟩
      rintro ⟨_, b, -, none, -⟩
      cases none
    | some b =>
      have erased : (b.data.region off len).all (· == value) = true ↔
          ¬ cfg.Unerased (some b) off len := by
        simp only [List.all_eq_true, beq_iff_eq, Config.Unerased, not_exists, not_and]
        constructor
        · rintro all value' b' same found - byte mem other
          cases he.symm.trans same
          cases found
          exact other (all byte mem)
        · exact fun spared byte mem =>
            not_not.1 (spared value b he rfl (hx ▸ good) byte mem)
      have looked : answered (Flash.sound (b.region off len) : FlashM S R Bytes) f =
          (.ok (b.data.region off len), f) := by
        rw [h.region hx fits]
        rfl
      simp only [answered_bind, looked]
      by_cases all : (b.data.region off len).all (· == value) = true
      · rw [all]
        exact ⟨fun unerased => absurd unerased (erased.1 all), fun _ => rfl⟩
      · rw [Bool.not_eq_true] at all
        rw [all]
        refine ⟨fun _ => ⟨.notErased block off, rfl⟩, fun spared => ?_⟩
        rw [erased.2 spared] at all
        cases all

/-! ## Updates -/

/-- What becomes of a prog whose region is one that it may name. -/
theorem permit_prog {data : Bytes} (h : Finds cfg block x f)
    (allowed : cfg.geometry.Allows cfg.geometry.progSize block off data.length) :
    answered (permit cfg (.prog block off data)) f =
      if cfg.isBad x && cfg.worn = .progError then (.error (.fault (.corrupt block)), f)
      else if cfg.isBad x && cfg.worn = .progNoop then (.ok none, f)
      else if cfg.isBad x then (.ok (some true), f)
      else match answered (Flash.checkErased cfg block off data.length) f with
        | (.ok _, g) => (.ok (some false), g)
        | (.error e, g) => (.error e, g) := by
  rw [permit, answered_contract_ok (allowed.check .prog), answered_bind, h.isWorn allowed.block]
  dsimp only
  by_cases failed : (cfg.isBad x && decide (cfg.worn = .progError)) = true
  · rw [if_pos failed, if_pos failed]
    rfl
  rw [if_neg failed, if_neg failed]
  by_cases ignored : (cfg.isBad x && decide (cfg.worn = .progNoop)) = true
  · rw [if_pos ignored, if_pos ignored]
    rfl
  rw [if_neg ignored, if_neg ignored]
  cases cfg.isBad x with
  | true => rfl
  | false =>
    show answered (Flash.checkErased cfg block off data.length >>= fun _ => pure (some false)) f = _
    rw [answered_bind, if_neg Bool.false_ne_true]
    rcases answered (Flash.checkErased cfg block off data.length) f with ⟨_ | _, g⟩ <;> rfl

/-- What becomes of an erase of a block that the device has. -/
theorem permit_erase (h : Finds cfg block x f) (inside : block < cfg.geometry.blockCount) :
    answered (permit cfg (.erase block)) f =
      if cfg.isBad x && cfg.worn = .eraseError then (.error (.fault (.corrupt block)), f)
      else if cfg.isBad x && cfg.worn = .eraseNoop then (.ok none, f)
      else (.ok (some (cfg.isBad x)), f) := by
  rw [permit, answered_contract_ok (Geometry.checkBlock_of_lt inside), answered_bind,
    h.isWorn inside]
  dsimp only
  by_cases failed : (cfg.isBad x && decide (cfg.worn = .eraseError)) = true
  · rw [if_pos failed, if_pos failed]
    rfl
  rw [if_neg failed, if_neg failed]
  by_cases ignored : (cfg.isBad x && decide (cfg.worn = .eraseNoop)) = true
  · rw [if_pos ignored, if_pos ignored]
    rfl
  · rw [if_neg ignored, if_neg ignored]
    rfl

/-- An update that breaks its contract is refused. -/
theorem permit_misused (h : Finds cfg u.block x f) (broken : ¬ (Request.update u).Lawful cfg x) :
    ∃ m, answered (permit cfg u) f = (.error (.misuse m), f) := by
  cases u with
  | prog block off data =>
    change Finds cfg block x f at h
    by_cases allowed : cfg.geometry.Allows cfg.geometry.progSize block off data.length
    · -- what is left of the contract is that the region must be erased, if the block is good
      have unerased : cfg.Unerased x off data.length :=
        Classical.byContradiction fun spared => broken ⟨allowed, spared⟩
      have good : cfg.isBad x = false := by
        obtain ⟨_, _, -, -, good, -⟩ := unerased
        exact good
      obtain ⟨m, refused⟩ := (h.checkErased good allowed.block allowed.region).1 unerased
      refine ⟨m, ?_⟩
      rw [h.permit_prog allowed, good]
      simp [refused]
    · obtain ⟨m, refused⟩ := Geometry.check_of_not_allows allowed .prog
      exact ⟨m, answered_contract_error refused _ f⟩
  | erase block =>
    have outside : ¬ block < cfg.geometry.blockCount := by
      refine fun inside => broken fun b hb => ?_
      cases hb
      exact inside
    exact ⟨_, answered_contract_error (Geometry.checkBlock_of_not_lt outside) _ f⟩

/-- A worn block may fail an update that keeps to its contract, ignore it, or let it through. -/
theorem permit_lawful (h : Finds cfg u.block x f) (lawful : (Request.update u).Lawful cfg x) :
    ((Request.update u).Fails cfg x →
        answered (permit cfg u) f = (.error (.fault (.corrupt u.block)), f)) ∧
      ((Request.update u).Ignored cfg x → answered (permit cfg u) f = (.ok none, f)) ∧
      (¬ (Request.update u).Fails cfg x → ¬ (Request.update u).Ignored cfg x →
        answered (permit cfg u) f = (.ok (some (cfg.isBad x)), f)) := by
  cases u with
  | prog block off data =>
    change Finds cfg block x f at h
    obtain ⟨allowed, erased⟩ := lawful
    have spared (good : cfg.isBad x = false) :=
      (h.checkErased good allowed.block allowed.region).2 erased
    simp only [h.permit_prog allowed, Request.Fails, Request.Ignored, Request.failing,
      Request.voiding, Option.some.injEq, Update.block]
    cases bad : cfg.isBad x with
    | true => cases cfg.worn <;> simp
    | false => simp [spared bad]
  | erase block =>
    change Finds cfg block x f at h
    simp only [h.permit_erase (lawful block rfl), Request.Fails, Request.Ignored, Request.failing,
      Request.voiding, Option.some.injEq, Update.block]
    cases cfg.isBad x with
    | true => cases cfg.worn <;> simp
    | false => simp

end Finds

/-- An update that is refused leaves all as it is. -/
theorem answered_unattended_of_error {e : Failure} (h : answered (permit cfg u) f = (.error e, f)) :
    answered (unattended cfg u) f = (.error e, f) := by
  rw [unattended, answered_bind, answered_start_eq, h]
  rfl

/-- So does one that is ignored. -/
theorem answered_unattended_of_ignored (h : answered (permit cfg u) f = (.ok none, f)) :
    answered (unattended cfg u) f = (.ok (), f) := by
  rw [unattended, answered_bind, answered_start_eq, h]
  rfl

/-! ## Other requests -/

/-- A request that breaks its contract is refused. -/
theorem effect_misused (names : r.block? = some block) (direct : r.isDirect)
    (broken : ¬ r.Lawful cfg x) (f : Flash S R) :
    ∃ m, answered (r.effect cfg) f = (.error (.misuse m), f) := by
  have pair {block bit : Nat} {op : Operation} {m : Misuse} {k : FlashM S R Unit}
      (h : ¬ (block < cfg.geometry.blockCount ∧ bit < cfg.geometry.blockBits)) :
      ∃ m', answered (do
          contract (cfg.geometry.checkBlock op block)
          contract (if bit < cfg.geometry.blockBits then .ok () else .error m)
          k) f = (.error (.misuse m'), f) := by
    by_cases inside : block < cfg.geometry.blockCount
    · have outside : ¬ bit < cfg.geometry.blockBits := fun held => h ⟨inside, held⟩
      rw [answered_contract_ok (Geometry.checkBlock_of_lt inside)]
      exact ⟨m, answered_contract_error (if_neg outside) _ f⟩
    · exact ⟨_, answered_contract_error (Geometry.checkBlock_of_not_lt inside) _ f⟩
  cases r with
  | read block off len =>
    obtain ⟨m, refused⟩ := Geometry.check_of_not_allows broken .read
    exact ⟨m, answered_contract_error refused _ f⟩
  | update u => cases direct
  | setBadBit block bit => exact pair broken
  | flipBit block bit => exact pair broken
  | wear | isBad | badBit | isMetastable | blockRefs | crc | setWear | markBad | markGood
  | randomizeBadBit =>
    have outside : ¬ block < cfg.geometry.blockCount := by
      refine fun inside => broken fun b hb => ?_
      cases names
      cases hb
      exact inside
    cases names
    exact ⟨_, answered_contract_error (Geometry.checkBlock_of_not_lt outside) _ f⟩
  | _ => cases names

/-- A worn block that fails reads fails a read that keeps to its contract. -/
theorem Finds.effect_fails (h : Finds cfg block x f) (names : r.block? = some block)
    (direct : r.isDirect) (lawful : r.Lawful cfg x) (fails : r.Fails cfg x) :
    answered (r.effect cfg) f = (.error (.fault (.corrupt block)), f) := by
  obtain ⟨bad, behavior⟩ := fails
  cases r with
  | read block off len =>
    cases names
    have allowed : cfg.geometry.Allows cfg.geometry.readSize block off len := lawful
    have readError : cfg.worn = .readError := (Option.some.inj behavior).symm
    cases x with
    | none => cases bad
    | some b =>
      show answered (Flash.read cfg block off len) f = _
      rw [Flash.read, answered_contract_ok (allowed.check .read), answered_bind,
        h.found allowed.block]
      have worn : (cfg.isWorn b.wear && decide (cfg.worn = .readError)) = true := by
        rw [readError]
        simpa [Config.isBad] using bad
      simp only [worn, if_true]
      rfl
  | update u => cases direct
  | _ => cases behavior

end Flash

/-- What is found at an address of a device is what is seen there. -/
theorem Bench.WellFormed.finds {κ μ : Type} {w : Bench Counted Nat κ μ} (h : w.WellFormed)
    {d : Handle} {s : Rig Nat κ} (hs : w.rig? d = some s) (block : Nat) :
    Flash.Finds w.config block (s.device.plain w.store).slots[block]?.join (w.flash s) := by
  have sound : (s.device.plain w.store).Sound w.config := h.devices (Bench.plain_of_rig? hs)
  refine ⟨fun inside => ?_, fun {b} hb => ?_⟩
  · obtain ⟨slot, there, -⟩ := sound.slot inside
    have looked := (Flash.Sharing.lockstep w.config _ _).toLooking.look block (h.seen.flash hs)
    rw [Flash.run_fetch_plain, show (w.plain.flash (s.plain w.store)).device.slots[block]? =
      some slot from there] at looked
    obtain ⟨f, ran, rfl, -⟩ := looked.ok_right
    rw [there]
    exact Flash.answered_eq_ok.2 ran
  · exact sound.slots.size (List.mem_of_getElem? (Option.join_eq_some_iff.1 hb))

end FaultyFlash
