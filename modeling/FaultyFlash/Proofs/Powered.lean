import FaultyFlash.Proofs.Lockstep

/-!
# Who reports a loss of power

Only an update whose loss of power was answered by no callback, or by one that aborts, reports it.
As long as power is not lost, no request does.

## Main definitions

* `Flash.Powered op`: an operation never reports a loss of power

## Main results

* `Flash.Powered.effect`: as long as power is not lost, no request reports it lost
-/

namespace FaultyFlash

namespace Flash

variable {S R α β : Type}

/-- The operation never reports a loss of power. -/
def Powered (op : FlashM S R α) : Prop :=
  ∀ f e g, op.run f = .error e g → e ≠ .fault .powerLoss

namespace Powered

theorem pure (a : α) : Powered (Pure.pure a : FlashM S R α) := by
  intro f e g h
  cases h

theorem raise {e : Failure} (h : e ≠ .fault .powerLoss) : Powered (throw e : FlashM S R α) := by
  intro f e' g run
  cases run
  exact h

theorem bind {m : FlashM S R α} {k : α → FlashM S R β} (hm : Powered m) (hk : ∀ a, Powered (k a)) :
    Powered (m >>= k) := by
  intro f e g run
  rw [EStateM.run_bind] at run
  cases hr : m.run f with
  | ok a t =>
    rw [hr] at run
    exact hk a t e g run
  | error e' t =>
    rw [hr] at run
    cases run
    exact hm f _ _ hr

/-- A refusal before the rest. -/
theorem refuse {c : Prop} [Decidable c] {e : Failure} {k : PUnit → FlashM S R α}
    (he : e ≠ .fault .powerLoss) (hk : ∀ u, Powered (k u)) :
    Powered (if c then throw e >>= k else k ⟨⟩) := by
  split
  · exact (raise he).bind hk
  · exact hk _

theorem get_bind {k : Flash S R → FlashM S R α} (h : ∀ f, Powered (k f)) : Powered (get >>= k) :=
  fun f e g run => h f f e g run

theorem modify (f : Flash S R → Flash S R) : Powered (modify f : FlashM S R Unit) := by
  intro s e g run
  cases run

theorem contract (x : Except Misuse α) : Powered (Flash.contract x : FlashM S R α) := by
  cases x with
  | ok a => exact pure a
  | error m => exact raise nofun

theorem sound (x : Except Defect α) : Powered (Flash.sound x : FlashM S R α) := by
  cases x with
  | ok a => exact pure a
  | error d => exact raise nofun

theorem modifyDevice (f : Device R → Device R) : Powered (Flash.modifyDevice (S := S) f) :=
  modify _

theorem forM (xs : List α) {f : α → FlashM S R Unit} (h : ∀ x, Powered (f x)) :
    Powered (xs.forM f) := by
  induction xs with
  | nil => exact pure ()
  | cons x xs ih => exact (h x).bind fun _ => ih

theorem foldlM {f : α → β → FlashM S R α} (xs : List β) (h : ∀ a x, Powered (f a x)) (a : α) :
    Powered (xs.foldlM f a) := by
  induction xs generalizing a with
  | nil => exact pure a
  | cons x xs ih =>
    rw [List.foldlM_cons]
    exact (h a x).bind ih

/-! ## Draws and blocks -/

theorem draw : Powered (Flash.draw : FlashM S R UInt32) :=
  get_bind fun _ => (modifyDevice _).bind fun _ => pure _

theorem drawBelow (n : Nat) : Powered (Flash.drawBelow n : FlashM S R Nat) :=
  get_bind fun _ => (sound _).bind fun _ => (modifyDevice _).bind fun _ => pure _

theorem drawBytes (n : Nat) : Powered (Flash.drawBytes n : FlashM S R Bytes) :=
  get_bind fun _ => (modifyDevice _).bind fun _ => pure _

theorem slot (block : Nat) : Powered (Flash.slot block : FlashM S R (Option R)) := by
  refine get_bind fun f => ?_
  cases f.device.slots[block]? with
  | none => exact raise nofun
  | some r => exact pure r

variable [BlockStore S R]

omit [BlockStore S R] in
theorem modifyStore (f : S → S) : Powered (Flash.modifyStore (R := R) f) := modify _

theorem alloc (b : Block) : Powered (Flash.alloc b : FlashM S R R) :=
  get_bind fun _ => (modifyStore _).bind fun _ => pure _

theorem deref (block : Nat) (r : R) : Powered (Flash.deref block r : FlashM S R Block) := by
  refine get_bind fun f => ?_
  cases BlockStore.contents f.store r with
  | none => exact raise nofun
  | some b => exact pure b

theorem fetch (block : Nat) : Powered (Flash.fetch block : FlashM S R (Option Block)) := by
  refine (slot block).bind fun r => ?_
  cases r with
  | none => exact pure none
  | some r => exact (deref block r).bind fun _ => pure _

theorem own (cfg : Config) (block : Nat) : Powered (Flash.own cfg block : FlashM S R Block) := by
  refine (slot block).bind fun r => ?_
  cases r with
  | none =>
    refine (drawBelow _).bind fun bit => ?_
    split
    · exact raise nofun
    · exact (alloc _).bind fun _ => (modifyDevice _).bind fun _ => pure _
  | some r =>
    refine (deref block r).bind fun b => get_bind fun f => ?_
    split
    · exact pure b
    · refine Powered.bind ?_ fun _ => pure b
      exact (alloc b).bind fun _ => (modifyStore _).bind fun _ => modifyDevice _

theorem put (block : Nat) (b : Block) : Powered (Flash.put block b : FlashM S R Unit) := by
  refine (slot block).bind fun r => ?_
  cases r with
  | none => exact raise nofun
  | some r => exact get_bind fun _ => (modifyStore _).bind fun _ => modifyDevice _

theorem amend (cfg : Config) (block : Nat) (change : Block → Except Defect Block) :
    Powered (Flash.amend cfg block change : FlashM S R Unit) :=
  (own cfg block).bind fun _ => (sound _).bind fun _ => put block _

omit [BlockStore S R] in
theorem writeOut (cfg : Config) (image : Image) :
    Powered (Flash.writeOut cfg image : FlashM S R Unit) := by
  unfold Flash.writeOut
  split
  · exact raise nofun
  · exact modify _

theorem save (cfg : Config) (block off len : Nat) :
    Powered (Flash.save cfg block off len : FlashM S R Unit) := by
  refine get_bind fun f => ?_
  cases f.image with
  | none => exact pure ()
  | some image =>
    refine (fetch block).bind fun stored => ?_
    cases stored with
    | none => exact (pure _).bind fun _ => writeOut cfg _
    | some b => exact (sound _).bind fun _ => writeOut cfg _

theorem saveAll (cfg : Config) : Powered (Flash.saveAll cfg : FlashM S R Unit) := by
  refine get_bind fun f => ?_
  split
  · exact forM _ fun block => save cfg block 0 _
  · exact pure ()

/-! ## Questions, reads and tampering -/

variable (cfg : Config)

theorem isWorn (block : Nat) : Powered (Flash.isWorn cfg block : FlashM S R Bool) :=
  (fetch block).bind fun _ => pure _

theorem crc (block : Nat) : Powered (Flash.crc cfg block : FlashM S R UInt32) := by
  refine (contract _).bind fun _ => (fetch block).bind fun stored => ?_
  cases stored <;> exact pure _

omit [BlockStore S R] in
theorem sense (b : Block) (off len : Nat) : Powered (Flash.sense b off len : FlashM S R Bytes) := by
  refine (sound _).bind fun stored => ?_
  split
  · refine draw.bind fun w => ?_
    split
    · cases flipped : stored.flip? (b.badBitPos - off * 8) with
      | some answered =>
        simp only [flipped]
        exact pure answered
      | none =>
        simp only [flipped]
        exact Powered.bind (raise (by simp)) fun _ => pure _
    · exact pure _
  · exact pure _

theorem read (block off len : Nat) :
    Powered (Flash.read cfg block off len : FlashM S R Bytes) := by
  refine (contract _).bind fun _ => (fetch block).bind fun stored => ?_
  have count (answered : Bytes) : Powered (S := S) (R := R) do
      Flash.modifyDevice fun d => { d with bytesRead := d.bytesRead + len.toUInt64 }
      return answered :=
    (modifyDevice _).bind fun _ => pure _
  cases stored with
  | none => exact (pure _).bind count
  | some b =>
    exact refuse (by simp) fun _ => (sense b off len).bind count

theorem setWear (block : Nat) (wear : UInt32) :
    Powered (Flash.setWear cfg block wear : FlashM S R Unit) :=
  (contract _).bind fun _ => amend cfg block _

/-! ## Updates -/

theorem checkErased (block off len : Nat) :
    Powered (Flash.checkErased cfg block off len : FlashM S R Unit) := by
  refine (fetch block).bind fun stored => ?_
  cases cfg.eraseValue with
  | none => exact pure ()
  | some value =>
    cases stored with
    | none => exact pure ()
    | some b =>
      refine (sound _).bind fun old => ?_
      split
      · exact raise nofun
      · exact pure ()

theorem permit (u : Update) : Powered (Flash.permit cfg u : FlashM S R (Option Bool)) := by
  cases u with
  | prog block off data =>
    refine (contract _).bind fun _ => (isWorn cfg block).bind fun worn => ?_
    refine refuse (by simp) fun _ => ?_
    by_cases ignored : (worn && cfg.worn = .progNoop) = true
    · simp only [ignored, if_true]
      exact pure none
    · simp only [ignored]
      cases worn with
      | true => exact pure _
      | false => exact (checkErased cfg block off _).bind fun _ => pure _
  | erase block =>
    refine (contract _).bind fun _ => (isWorn cfg block).bind fun worn => ?_
    refine refuse (by simp) fun _ => ?_
    by_cases ignored : (worn && cfg.worn = .eraseNoop) = true
    · simp only [ignored, if_true]
      exact pure none
    · simp only [ignored]
      exact pure _

theorem start (u : Update) : Powered (Flash.start cfg u : FlashM S R Start) := by
  refine (permit cfg u).bind fun permitted => ?_
  rcases permitted with _ | worn
  · exact pure _
  refine Powered.bind (get_bind fun f => ?_) fun lost => ?_
  · dsimp only
    split
    · exact pure _
    · exact (modifyDevice _).bind fun _ => pure _
  · rcases lost with _ | _ <;> exact pure _

theorem complete (worn : Bool) (u : Update) :
    Powered (Flash.complete cfg worn u : FlashM S R Unit) := by
  cases u with
  | prog block off data =>
    exact (amend cfg block _).bind fun _ => (save cfg block off _).bind fun _ => modifyDevice _
  | erase block =>
    have rest (bit : Option Nat) := (amend (S := S) cfg block fun b => .ok (erased cfg bit b)).bind
      fun _ => (save cfg block 0 cfg.geometry.blockSize).bind fun _ => modifyDevice fun d =>
        { d with bytesErased := d.bytesErased + cfg.geometry.blockSize.toUInt64 }
    refine (fetch block).bind fun stored => ?_
    dsimp only
    split
    · exact (pure _).bind rest
    · exact ((drawBelow _).bind fun bit => pure (some bit)).bind rest

theorem uninterrupted (u : Update) : Powered (Flash.uninterrupted cfg u : FlashM S R Unit) := by
  refine (permit cfg u).bind fun permitted => ?_
  cases permitted with
  | none => exact pure ()
  | some worn => exact complete cfg worn u

/-! ## What is left by a loss of power -/

theorem tearBit (u : Update) (off len : Nat) :
    Powered (Flash.tearBit cfg u off len : FlashM S R Unit) := by
  refine (own cfg u.block).bind fun b => (sound _).bind fun old => ?_
  dsimp only
  split
  · refine (drawBelow _).bind fun n => ?_
    rcases (Bytes.diff old (u.outcome cfg old))[n]? with _ | bit
    · exact pure ()
    · exact (sound _).bind fun _ => put u.block _
  · exact pure ()

theorem tear (u : Update) : Powered (Flash.tear cfg u : FlashM S R Unit) := by
  unfold Flash.tear
  dsimp only
  split
  · exact pure ()
  rcases cfg.crash with _ | _ | _ | _ | _
  · exact pure ()
  · exact tearBit cfg u _ _
  · exact (drawBelow _).bind fun _ => amend cfg u.block _
  · exact amend cfg u.block _
  · exact (drawBelow _).bind fun _ => amend cfg u.block _

theorem rollBack (synced : Slots R) (block : Nat) :
    Powered (Flash.rollBack synced block : FlashM S R Unit) := by
  refine get_bind fun f => refuse (by simp) fun _ => (slot block).bind fun x => ?_
  exact get_bind fun _ => (modifyStore _).bind fun _ => (modifyStore _).bind fun _ => modifyDevice _

/-- Losing power is reported by the update, not by what the loss does to the device. -/
theorem crash (u : Update) : Powered (Flash.crash cfg u : FlashM S R Unit) := by
  refine (tear cfg u).bind fun _ => get_bind fun f => ?_
  rcases f.device.synced with _ | synced
  · exact save cfg u.block 0 _
  · exact (rollBack synced u.block).bind fun _ => saveAll cfg

/-- Neither is it reported by the return to a state that was set aside. -/
theorem restore (slots : Slots R) (generator : Generator) :
    Powered (Flash.restore cfg slots generator : FlashM S R Unit) :=
  get_bind fun _ => (modifyStore _).bind fun _ => (modifyDevice _).bind fun _ => saveAll cfg

/-! ## Requests -/

/-- As long as power is not lost, no request reports a loss of it. -/
theorem effect (r : Request) : Powered (r.effect cfg : FlashM S R r.Answer) := by
  cases r with
  | read block off len => exact read cfg block off len
  | update u => exact uninterrupted cfg u
  | sync =>
    refine get_bind fun f => ?_
    cases f.device.synced with
    | none => exact pure ()
    | some old =>
      exact get_bind fun _ => (modifyStore _).bind fun _ => (modifyStore _).bind fun _ =>
        modifyDevice _
  | wear block | badBit block | isMetastable block =>
    exact (contract _).bind fun _ => (fetch block).bind fun _ => pure _
  | isBad block => exact (contract _).bind fun _ => isWorn cfg block
  | blockRefs block =>
    refine (contract _).bind fun _ => (slot block).bind fun r => ?_
    cases r with
    | none => exact pure 0
    | some r => exact get_bind fun _ => pure _
  | crc block => exact crc cfg block
  | fingerprint =>
    exact foldlM _ (fun _ block => (crc cfg block).bind fun _ => pure _) _
  | setWear block wear => exact setWear cfg block wear
  | markBad block => exact setWear cfg block _
  | markGood block => exact setWear cfg block _
  | setBadBit block bit =>
    exact (contract _).bind fun _ => (contract _).bind fun _ => amend cfg block _
  | randomizeBadBit block =>
    exact (contract _).bind fun _ => (drawBelow _).bind fun _ => amend cfg block _
  | flipBit block bit =>
    exact (contract _).bind fun _ => (contract _).bind fun _ => (amend cfg block _).bind fun _ =>
      save cfg block _ 1
  | drawBytes len => exact drawBytes len
  | setCounter c value => exact modifyDevice (c.set value)
  | setCountdown value => exact modifyDevice fun dev => { dev with countdown := value }
  | counter | countdown | generator | allocated | image =>
    exact get_bind fun _ => pure _
  | config => exact pure cfg
  | copy => exact pure ()

end Powered

end Flash

end FaultyFlash
