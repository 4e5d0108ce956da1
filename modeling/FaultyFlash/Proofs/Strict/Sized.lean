import FaultyFlash.Proofs.Invariants
import FaultyFlash.Proofs.Strict.Exact

/-!
# Strict operations never slip

Where the blocks of a device have the configured size, and its image file, if it has one, is
addressed by words, strict operations do what operations do where numbers are not bounded.

## Main definitions

* `Config.Addressed`: the image file of a device is addressed by words
* `Flash.Sized`: a device with stored blocks of the configured size

## Main results

* `Strict.agrees_complete`, `Strict.agrees_crash`, `Strict.agrees_restore`, `Strict.agrees_effect`:
  updates, losses of power, returns and requests never slip
-/

namespace FaultyFlash

/-! ## Image files -/

/-- The image file of a device, if it has one, is addressed by words. -/
def Config.Addressed (cfg : Config) (imaged : Bool) : Prop :=
  imaged → cfg.geometry.blockSize * cfg.geometry.blockCount < 2 ^ 63

namespace Flash

variable {S R α : Type} [BlockStore S R]

/-- The stored blocks of a device have the configured size. -/
def Sized (cfg : Config) (f : Flash S R) : Prop :=
  ∀ block b g, (fetch block).run f = .ok (some b) g → b.data.length = cfg.geometry.blockSize

/-- So has a block that is made the device's own. -/
theorem Sized.own {cfg : Config} {f g : Flash S R} {block : Nat} {b : Block} (h : f.Sized cfg)
    (owns : (Flash.own cfg block).run f = .ok b g) :
    b.data.length = cfg.geometry.blockSize := by
  obtain ⟨x, t, slotted, owns⟩ := run_bind_eq_ok.1 owns
  cases x with
  | none =>
    obtain ⟨bit, s, drawn, made⟩ := run_bind_eq_ok.1 owns
    by_cases full : Config.allocationLimit ≤ cfg.geometry.blockSize
    · rw [if_pos full] at made
      cases made
    · rw [if_neg full] at made
      obtain ⟨r, _, -, made⟩ := run_bind_eq_ok.1 made
      obtain ⟨_, _, -, made⟩ := run_bind_eq_ok.1 made
      cases made
      exact List.length_replicate
  | some r =>
    obtain ⟨c, s, found, rest⟩ := run_bind_eq_ok.1 owns
    have looked : (fetch block).run f = .ok (some c) s :=
      run_bind_eq_ok.2 ⟨some r, t, slotted, run_bind_eq_ok.2 ⟨c, s, found, rfl⟩⟩
    obtain ⟨v, _, -, rest⟩ := run_bind_eq_ok.1 rest
    by_cases alone : BlockStore.refs v.store r = 1
    · rw [if_pos alone] at rest
      cases rest
      exact h block _ _ looked
    · rw [if_neg alone] at rest
      obtain ⟨_, _, -, rest⟩ := run_bind_eq_ok.1 rest
      cases rest
      exact h block _ _ looked

end Flash

namespace Strict

open Flash (HasImage Sized Ends imagedLockstep)

variable {S R α : Type} [BlockStore S R] {cfg : Config} {imaged : Bool} {u : Update}
  {block off len : Nat}

omit [BlockStore S R] in
/-- What is taken over as it is leaves what it leaves. -/
theorem agrees_of_ends {pre err : Flash S R → Prop} {op : FlashM S R α}
    {post : α → Flash S R → Prop} (h : Ends pre op post err) :
    Agrees .failed pre (plain op) op post := by
  refine .same fun f hf a g run => ?_
  have ends := h.run hf
  rwa [run] at ends

omit [BlockStore S R] in
/-- What neither makes nor removes an image file. -/
theorem agrees_plain {op : FlashM S R α} (h : Preserves (Diagonal (HasImage imaged)) op op) :
    Agrees .failed (HasImage imaged) (plain op) op fun _ => HasImage imaged :=
  agrees_of_ends h

omit [BlockStore S R] in
theorem agrees_modifyDevice (g : Device R → Device R) :
    Agrees .failed (HasImage imaged) (plain (Flash.modifyDevice (S := S) g)) (Flash.modifyDevice g)
      fun _ => HasImage imaged :=
  agrees_plain (Coupled.modify fun _ _ h => ⟨by rw [h.1], h.2⟩)

omit [BlockStore S R] in
theorem agrees_modifyStore (g : S → S) :
    Agrees .failed (HasImage imaged) (plain (Flash.modifyStore (R := R) g)) (Flash.modifyStore g)
      fun _ => HasImage imaged :=
  agrees_plain (Coupled.modify fun _ _ h => ⟨by rw [h.1], h.2⟩)

section

variable (room : cfg.Roomy) (addressed : cfg.Addressed imaged)

include room addressed

/-- The place of a region in the image file is a word. -/
theorem agrees_save (inside : block < cfg.geometry.blockCount)
    (within : off + len ≤ cfg.geometry.blockSize) :
    Agrees .failed (HasImage imaged) (save cfg block off len : StrictM S R Unit)
      (Flash.save cfg block off len) fun _ => HasImage imaged := by
  have kept := agrees_plain ((imagedLockstep (S := S) (R := R) imaged cfg).save block
    off len)
  refine fun f hf => ⟨?_, (kept f hf).2⟩
  rw [save, Flash.save, widen_bind, EStateM.run_bind, EStateM.run_bind, widen_get, EStateM.run_get]
  cases there : f.image with
  | none => simp only [there]; rfl
  | some image =>
    have size : cfg.geometry.blockSize * cfg.geometry.blockCount < 2 ^ 63 :=
      addressed (by rw [← hf, there]; rfl)
    have before : (block + 1) * cfg.geometry.blockSize ≤
        cfg.geometry.blockCount * cfg.geometry.blockSize := Nat.mul_le_mul_right _ inside
    rw [Nat.mul_comm cfg.geometry.blockSize] at size
    rw [Nat.succ_mul] at before
    have start : block * cfg.geometry.blockSize < 2 ^ 64 := by omega
    have pos : block * cfg.geometry.blockSize + off < 2 ^ 64 := by omega
    simp only [there, word_eq start, word_eq pos, value_ok, pure_bind, widen_bind]
    refine congrArg (EStateM.run · f) (bind_congr fun x => ?_)
    cases x with
    | none => rfl
    | some b =>
      simp only [region_eq (region_lt room within), value_defect, widen_bind]
      rfl

theorem agrees_saveAll : Agrees .failed (HasImage imaged) (saveAll cfg : StrictM S R Unit)
    (Flash.saveAll cfg) fun _ => HasImage imaged := by
  refine Agrees.get_bind fun f hf => ?_
  split
  · refine (Agrees.forM _ fun block hb => ?_).mono (fun g hg => hg ▸ hf) fun _ _ => id
    exact agrees_save room addressed (List.mem_range.1 hb) (by omega)
  · exact .answer _ fun g hg => hg ▸ hf

/-! ## Operations -/

/-- Losing power during an update that fits never slips. -/
theorem agrees_crash (fits : u.Fits cfg) :
    Agrees .failed (HasImage imaged) (crash cfg u : StrictM S R Unit) (Flash.crash cfg u)
      fun _ => HasImage imaged := by
  have L := imagedLockstep (S := S) (R := R) imaged cfg
  rw [crash, tear_eq room fits]
  refine (agrees_plain (L.tear u)).bind fun _ => Agrees.get_bind fun f hf => ?_
  cases synced : f.device.synced with
  | none =>
    have saved := agrees_save (S := S) (R := R) room addressed fits.block
      (Nat.le_of_eq (Nat.zero_add _))
    exact saved.mono (fun g hg => hg ▸ hf) fun _ _ => id
  | some before =>
    have back : Agrees .failed (fun g => g = f) (plain (Flash.rollBack before u.block))
        (Flash.rollBack before u.block) fun _ => HasImage imaged := by
      refine .same ?_
      rintro _ rfl a g run
      have rolled := L.rollBack u.block ⟨rfl, hf⟩ synced synced
      rw [run] at rolled
      exact rolled.2.2
    exact back.bind fun _ => agrees_saveAll room addressed

/-- Nor does the return to a state that was set aside. -/
theorem agrees_restore (slots : Slots R) (generator : Generator) :
    Agrees .failed (HasImage imaged) (restore cfg slots generator : StrictM S R Unit)
      (Flash.restore cfg slots generator) fun _ => HasImage imaged := by
  refine Agrees.get_bind fun f hf => ?_
  have rest := (agrees_modifyStore (BlockStore.releaseAll (S := S) · f.device.slots)).bind fun _ =>
    (agrees_modifyDevice fun d => { d with slots := slots, generator := generator }).bind fun _ =>
      agrees_saveAll room addressed
  exact rest.mono (fun g hg => hg ▸ hf) fun _ _ => id

omit addressed in
/-- A change of blocks of the configured size never slips if it does not slip itself. -/
theorem agrees_amend {careful : Block → Except Slip Block} {change : Block → Except Defect Block}
    (same : ∀ b, b.data.length = cfg.geometry.blockSize →
      careful b = (change b).mapError .defect)
    (keeps : ∀ b c, change b = .ok c → c.data.length = b.data.length) :
    Agrees .failed (fun f => HasImage imaged f ∧ f.Sized cfg)
      (amend cfg block careful : StrictM S R Unit) (Flash.amend cfg block change)
      fun _ => HasImage imaged := by
  have kept := agrees_plain ((imagedLockstep (S := S) (R := R) imaged cfg).amend block
    change keeps)
  rintro f ⟨hf, sized⟩
  refine ⟨?_, (kept f hf).2⟩
  rw [amend, Flash.amend, own_eq room, widen_bind, EStateM.run_bind, EStateM.run_bind, run_widen]
  cases owns : (Flash.own cfg block).run f with
  | error e g => rfl
  | ok b g =>
    dsimp only
    rw [same b (sized.own owns), value_defect, widen_bind]

/-- An update that fits is completed without a slip. -/
theorem agrees_complete (fits : u.Fits cfg) (worn : Bool) :
    Agrees .failed (fun f => HasImage imaged f ∧ f.Sized cfg)
      (complete cfg worn u : StrictM S R Unit) (Flash.complete cfg worn u)
      fun _ => HasImage imaged := by
  have L := imagedLockstep (S := S) (R := R) imaged cfg
  cases u with
  | prog block off data =>
    refine (agrees_amend room (fun b size => ?_) fun _ _ => Flash.length_programmed).bind
      fun _ => (agrees_save room addressed fits.block fits.region).bind fun _ =>
        agrees_plain (L.count .bytesProgrammed _)
    exact programmed_eq room size fits.region
  | erase block =>
    have erases (bit : Option Nat) :
        amend cfg block (fun b => .ok (Flash.erased cfg bit b)) =
          (plain (Flash.amend cfg block fun b => .ok (Flash.erased cfg bit b)) :
            StrictM S R Unit) :=
      amend_eq room block fun _ => rfl
    have rest (bit : Option Nat) :=
      (agrees_plain (L.amend block (fun b => .ok (Flash.erased cfg bit b)) fun _ _ h => by
        cases h; simp)).bind fun _ => (agrees_save room addressed fits.block fits.region).bind
          fun _ => agrees_plain (L.count .bytesErased cfg.geometry.blockSize.toUInt64)
    rw [complete, Flash.complete]
    simp only [erases, blockBits_eq room, value_ok, pure_bind]
    have fetched := agrees_plain (L.fetch block)
    refine (fetched.mono (fun f hf => hf.1) fun _ _ => id).bind fun stored => ?_
    split
    · exact rest none
    · have drawn := agrees_plain (L.drawBelow cfg.geometry.blockBits)
      exact (drawn.bind fun bit => .answer (some bit) fun _ => id).bind rest

/-! ## Requests -/

omit [BlockStore S R] room addressed in
/-- Where only the answers matter, computations that do the same agree. -/
theorem agrees_of_eq {pre : Flash S R → Prop} {c : StrictM S R α} {op : FlashM S R α}
    (h : c = plain op) : Agrees .failed pre c op fun _ _ => True :=
  h ▸ .same fun _ _ _ _ _ => trivial

omit room addressed in
/-- What is done with a block that is found may depend on its size. -/
theorem agrees_fetch {pre : Flash S R → Prop} {ck : Option Block → StrictM S R α}
    {mk : Option Block → FlashM S R α} (sized : ∀ f, pre f → f.Sized cfg)
    (none : ck none = plain (mk none))
    (some : ∀ b, b.data.length = cfg.geometry.blockSize → ck (some b) = plain (mk (some b))) :
    Agrees .failed pre (plain (Flash.fetch block) >>= ck) (Flash.fetch block >>= mk)
      fun _ _ => True := by
  refine fun f hf => ⟨?_, fun _ _ _ => trivial⟩
  rw [widen_bind, EStateM.run_bind, EStateM.run_bind, run_widen]
  cases found : (Flash.fetch block).run f with
  | error e g => rfl
  | ok x g =>
    cases x with
    | none => exact congrArg (EStateM.run · g) none
    | some b => exact congrArg (EStateM.run · g) (some b (sized f hf block b g found))

omit [BlockStore S R] room addressed in
/-- What is allowed goes on, and what is not is refused. -/
theorem agrees_contract {pre : Flash S R → Prop} {post : α → Flash S R → Prop}
    {c : Except Misuse Unit} {ck : Unit → StrictM S R α} {mk : Unit → FlashM S R α}
    (h : c = .ok () → Agrees .failed pre (ck ()) (mk ()) post) :
    Agrees .failed pre (plain (Flash.contract c) >>= ck) (Flash.contract c >>= mk) post := by
  cases c with
  | error m => exact .raise (f := Slip.failed) (Failure.misuse m)
  | ok _ => exact h rfl

omit addressed in
theorem agrees_read (geometry : cfg.geometry.check = .ok ()) :
    Agrees .failed (fun f => HasImage imaged f ∧ f.Sized cfg)
      (read cfg block off len : StrictM S R Bytes) (Flash.read cfg block off len)
      fun _ _ => True := by
  have granular := (Geometry.of_check geometry).1
  rw [read, Flash.read, checkRegion_eq granular, value_misuse]
  refine agrees_contract fun allowed => ?_
  have inside := (Geometry.of_checkRegion allowed).2
  refine agrees_fetch (fun f hf => hf.2) rfl fun b size => ?_
  simp only [sense_eq room size inside]
  split
  · rfl
  · simp only [plain_bind]
    rfl

/-- What is asked of a device is answered without a slip. -/
theorem agrees_effect (geometry : cfg.geometry.check = .ok ()) {r : Request} (direct : r.isDirect) :
    Agrees .failed (fun f => HasImage imaged f ∧ f.Sized cfg)
      (effect r cfg : StrictM S R r.Answer) (r.effect cfg) fun _ _ => True := by
  cases r with
  | read block off len => exact agrees_read room geometry
  | badBit block =>
    refine agrees_contract fun _ => agrees_fetch (fun f hf => hf.2) rfl fun b size => ?_
    simp only [badBitPos_eq room size]
    rfl
  | setWear block wear | markBad block | markGood block =>
    exact agrees_contract fun _ => agrees_of_eq (amend_eq room block fun _ => rfl)
  | setBadBit block bit =>
    refine agrees_contract fun _ => ?_
    rw [blockBits_eq room]
    exact agrees_contract fun _ => agrees_of_eq (amend_eq room block fun _ => rfl)
  | randomizeBadBit block =>
    refine agrees_contract fun _ => ?_
    rw [blockBits_eq room, value_ok, pure_bind]
    refine agrees_of_eq (Eq.trans (bind_congr fun bit => ?_) (plain_bind ..).symm)
    exact amend_eq room block fun _ => rfl
  | flipBit block bit =>
    refine agrees_contract fun allowed => ?_
    rw [blockBits_eq room]
    refine agrees_contract fun within => ?_
    have flips : amend cfg block (flip · bit) =
        (plain (Flash.amend cfg block (Block.flip · bit)) : StrictM S R Unit) :=
      amend_eq room block fun _ => rfl
    have inside : block < cfg.geometry.blockCount := Geometry.of_checkBlock allowed
    have held : bit / 8 + 1 ≤ cfg.geometry.blockSize := by
      split at within
      · next bits =>
        unfold Geometry.blockBits at bits
        omega
      · cases within
    rw [flips]
    have changed := (imagedLockstep (S := S) (R := R) imaged cfg).amend block (Block.flip · bit)
      fun _ _ => Block.length_flip
    exact ((agrees_plain changed).mono (fun f hf => hf.1) fun _ _ => id).bind fun _ =>
      (agrees_save room addressed inside held).mono (fun _ => id) fun _ _ _ => trivial
  | update u => cases direct
  | _ => exact agrees_of_eq rfl

end

end Strict

end FaultyFlash
