import FaultyFlash.Proofs.Strict.Devices

/-!
# What never slips on any device

What neither writes the image file nor changes a block by its own size does, on every device whose
blocks can be allocated, what it does where numbers are not bounded: draws and countdowns, the
making of blocks, the checks before an update, and the damage of lost power.

## Main results

* `Strict.own_eq`, `Strict.amend_eq`: blocks are made and changed without a slip
* `Strict.start_eq`, `Strict.tear_eq`: updates start, and are torn, without a slip
-/

namespace FaultyFlash

namespace Strict

variable {S R α β : Type} {cfg : Config} {u : Update} {block off len : Nat}

theorem plain_bind (op : FlashM S R α) (k : α → FlashM S R β) :
    plain (op >>= k) = plain op >>= fun a => plain (k a) := widen_bind ..

theorem value_ok (a : α) : value (.ok a) = (pure a : StrictM S R α) := rfl

theorem value_defect (x : Except Defect α) :
    value (x.mapError .defect) = (plain (Flash.sound x) : StrictM S R α) := by
  cases x <;> rfl

theorem value_misuse (x : Except Misuse α) :
    value (x.mapError .misuse) = (plain (Flash.contract x) : StrictM S R α) := by
  cases x <;> rfl

/-- A value that is drawn is below its bound. -/
theorem drawBelow_congr {n : Nat} {k k' : Nat → StrictM S R α} (h : ∀ v < n, k v = k' v) :
    plain (Flash.drawBelow n) >>= k = plain (Flash.drawBelow n) >>= k' := by
  refine funext fun f => ?_
  show (plain (Flash.drawBelow n) >>= k).run f = (plain (Flash.drawBelow n) >>= k').run f
  rw [EStateM.run_bind, EStateM.run_bind, run_widen]
  by_cases none : n = 0
  · subst none
    rfl
  · rw [Flash.run_drawBelow none]
    exact congrArg (EStateM.run · _) (h _ (Nat.mod_lt _ (Nat.pos_of_ne_zero none)))

/-- The countdown goes down to zero and no further. -/
theorem tick_eq : tick = (plain Flash.tick : StrictM S R Bool) := by
  rw [tick, Flash.tick, plain_bind]
  refine bind_congr fun f => ?_
  by_cases off : f.device.countdown = 0
  · simp only [if_pos off]
    rfl
  · have some : 1 ≤ f.device.countdown.toNat := by
      have : f.device.countdown.toNat ≠ 0 := fun zero => off (UInt32.toNat_inj.1 zero)
      omega
    have less : (f.device.countdown.toNat - 1).toUInt32 = f.device.countdown - 1 := by
      refine UInt32.toNat_inj.1 ?_
      have fits := f.device.countdown.toNat_lt
      have one : (1 : UInt32) ≤ f.device.countdown := UInt32.le_iff_toNat_le.2 some
      rw [UInt32.toNat_sub_of_le _ _ one]
      exact Nat.mod_eq_of_lt (by omega)
    simp only [if_neg off, minus_eq some, value_ok, pure_bind, less, plain_bind]
    rfl

section Roomy

variable (room : cfg.Roomy)

include room

/-- What is left to chance in a region of a block is answered without a slip. -/
theorem sense_eq {b : Block} (size : b.data.length = cfg.geometry.blockSize)
    (inside : off + len ≤ cfg.geometry.blockSize) :
    sense b off len = (plain (Flash.sense b off len) : StrictM S R Bytes) := by
  have bits := bits_lt room
  have start : off * 8 < 2 ^ 64 := by omega
  rw [sense, Flash.sense, region_eq (region_lt room inside), value_defect, plain_bind]
  refine bind_congr fun stored => ?_
  rw [covers_eq room size inside, value_ok, pure_bind]
  cases b.metastable with
  | false => rfl
  | true =>
    cases covers : b.covers off len with
    | false => rfl
    | true =>
      have place := (Block.bit_of_covers covers).1
      have after : off * 8 ≤ b.badBitPos := by omega
      have distance : (do minus (← badBitPos b) (← word (off * 8))) =
          Except.ok (b.badBitPos - off * 8) := by
        rw [badBitPos_eq room size, word_eq start]
        exact minus_eq after
      simp only [distance, value_ok, pure_bind, if_true]
      refine Eq.trans (bind_congr fun drawn => ?_) (plain_bind ..).symm
      split
      · cases stored.flip? (b.badBitPos - off * 8) <;> rfl
      · rfl

variable [BlockStore S R]

/-- Blocks are made a device's own without a slip. -/
theorem own_eq (block : Nat) :
    own cfg block = (plain (Flash.own cfg block) : StrictM S R Block) := by
  rw [own, Flash.own, plain_bind]
  refine bind_congr fun x => ?_
  cases x with
  | none =>
    simp only [allocate, Flash.allocate, blockBits_eq room, value_ok, pure_bind, plain_bind]
    refine bind_congr fun bit => ?_
    split
    · rfl
    · simp only [plain_bind]
      rfl
  | some r =>
    simp only [plain_bind]
    refine bind_congr fun b => bind_congr fun f => ?_
    split
    · rfl
    · simp only [plain_bind]
      rfl

/-- A change that never slips is made without a slip. -/
theorem amend_eq (block : Nat) {careful : Block → Except Slip Block}
    {change : Block → Except Defect Block}
    (h : ∀ b, careful b = (change b).mapError .defect) :
    amend cfg block careful = (plain (Flash.amend cfg block change) : StrictM S R Unit) := by
  simp only [amend, Flash.amend, own_eq room, h, value_defect, plain_bind]

theorem checkErased_eq (inside : off + len ≤ cfg.geometry.blockSize) :
    checkErased cfg block off len =
      (plain (Flash.checkErased cfg block off len) : StrictM S R Unit) := by
  rw [checkErased, Flash.checkErased, plain_bind]
  refine bind_congr fun x => ?_
  cases cfg.eraseValue with
  | none => rfl
  | some erased =>
    cases x with
    | none => rfl
    | some b =>
      simp only [region_eq (region_lt room inside), value_defect, plain_bind]
      refine bind_congr fun old => ?_
      split <;> rfl

/-- Updates are refused and let through without a slip. -/
theorem permit_eq (geometry : cfg.geometry.check = .ok ()) (u : Update) :
    permit cfg u = (plain (Flash.permit cfg u) : StrictM S R (Option Bool)) := by
  cases u with
  | erase block => rfl
  | prog block off data =>
    have granular := (Geometry.of_check geometry).2.1
    simp only [permit, Flash.permit, checkRegion_eq granular, value_misuse]
    cases allowed : cfg.geometry.checkRegion .prog cfg.geometry.progSize block off data.length with
    | error m => rfl
    | ok _ =>
      have inside := (Geometry.of_checkRegion allowed).2
      simp only [plain_bind, checkErased_eq room inside]
      refine bind_congr fun _ => bind_congr fun worn => ?_
      by_cases refused : (worn && cfg.worn = .progError) = true
      · simp only [refused, if_true]
        rfl
      by_cases ignored : (worn && cfg.worn = .progNoop) = true
      · simp only [refused, ignored, if_true]
        rfl
      simp only [refused, ignored]
      cases worn with
      | true => rfl
      | false => exact (plain_bind (Flash.checkErased cfg block off _) fun _ => pure _).symm

theorem start_eq (geometry : cfg.geometry.check = .ok ()) (u : Update) :
    start cfg u = (plain (Flash.start cfg u) : StrictM S R Start) := by
  rw [start, Flash.start, plain_bind, permit_eq room geometry]
  refine bind_congr fun x => ?_
  cases x with
  | none => rfl
  | some worn =>
    simp only [Flash.countDown, tick_eq, plain_bind]
    refine bind_congr fun lost => ?_
    cases lost <;> rfl

/-! ## Losing power -/

theorem tearBit_eq (fits : u.Fits cfg) :
    tearBit cfg u (u.region cfg).1 (u.region cfg).2 =
      (plain (Flash.tearBit cfg u (u.region cfg).1 (u.region cfg).2) : StrictM S R Unit) := by
  have inside := region_lt room fits.region
  have bits := bits_lt room
  simp only [tearBit, Flash.tearBit, own_eq room, region_eq inside, plain_bind]
  refine bind_congr fun b => ?_
  cases held : b.region (u.region cfg).1 (u.region cfg).2 with
  | error d => rfl
  | ok old =>
    obtain ⟨cut, within⟩ := Block.region_ok held
    have length : old.length = (u.region cfg).2 := by
      rw [cut, List.length_take, List.length_drop]
      omega
    -- the bits that change are bits of the region
    have changed : ∀ bit ∈ Bytes.diff old (u.outcome cfg old), bit < (u.region cfg).2 * 8 :=
      fun bit hbit => length ▸ Bytes.lt_of_mem_diff hbit
    have listed : (Bytes.diff old (u.outcome cfg old)).mapM word = .ok _ :=
      mapM_word fun bit hbit => by
        have := changed bit hbit
        have := fits.region
        omega
    have read : plain (Flash.sound (.ok old)) = (pure old : StrictM S R Bytes) := rfl
    simp only [mapError_ok, value_ok, pure_bind, listed, read]
    cases (Bytes.diff old (u.outcome cfg old)).isEmpty with
    | true => rfl
    | false =>
      refine (bind_congr fun n => ?_).trans (plain_bind ..).symm
      cases drawn : (Bytes.diff old (u.outcome cfg old))[n]? with
      | none => rfl
      | some bit =>
        have within := changed bit (List.mem_of_getElem? drawn)
        have placed := position_of_region room fits.region within
        simp only [placed, bind, Except.bind]
        exact (congrArg (· >>= _) (value_defect _)).trans (plain_bind ..).symm

/-- What is left of an update that fits is left without a slip. -/
theorem tear_eq (fits : u.Fits cfg) :
    tear cfg u = (plain (Flash.tear cfg u) : StrictM S R Unit) := by
  have bits := bits_lt room
  have counted : (u.region cfg).2 * 8 < 2 ^ 64 := by
    have := fits.region
    omega
  unfold tear Flash.tear
  dsimp only
  split
  · rfl
  cases cfg.crash with
  | noop => rfl
  | someBits => exact tearBit_eq room fits
  | outOfOrder => exact amend_eq room u.block fun b => landed_eq room fits
  | mostBits =>
    simp only [word_eq counted, value_ok, pure_bind]
    refine (drawBelow_congr fun bit within => ?_).trans (plain_bind ..).symm
    have placed := position_of_region room fits.region within
    refine amend_eq room u.block (landed_bind_eq room fits fun c => ?_)
    rw [placed]
    rfl
  | metastable =>
    simp only [word_eq counted, value_ok, pure_bind]
    refine (drawBelow_congr fun bit within => ?_).trans (plain_bind ..).symm
    have placed := position_of_region room fits.region within
    refine amend_eq room u.block (landed_bind_eq room fits fun c => ?_)
    rw [placed]
    cases c.isPinned <;> rfl

end Roomy

end Strict

end FaultyFlash
