import FaultyFlash.Proofs.Lockstep

/-!
# What operations leave as it is

Most operations leave a part of the device alone. What only looks at blocks or writes the image file
leaves all of it. And whatever is done to its blocks, loss of power and tampering included, leaves
the countdown, and what the device remembers of its last sync.

## Main definitions

* `Flash.Leaves part op`: an operation leaves a part of the device as it is
* `Device.Remote part`: a part of devices that blocks, draws and byte counters do not concern
* `Flash.KeepsSync op`: an operation leaves what the device remembers of its last sync

## Main results

* `Flash.Leaves.permit`, `Flash.Leaves.saveAll`: what leaves the whole device
* `Flash.Leaves.remote`: what a request that is not made to change a remote part leaves
* `Flash.Leaves.effect`: every request but a sync leaves the last sync
* `Flash.Leaves.start`, `Flash.Leaves.crash`, `Flash.Leaves.restore`: so do the parts of an
  update that loses power
-/

namespace FaultyFlash

/-- A part of devices that their blocks, their draws and their byte counters do not concern. -/
class Device.Remote {R γ : Type} (part : Device R → γ) : Prop where
  slots (D : Device R) (slots : Slots R) : part { D with slots := slots } = part D
  generator (D : Device R) (generator : Generator) :
    part { D with generator := generator } = part D
  counter (D : Device R) (c : Counter) (value : UInt64) : part (c.set value D) = part D

instance {R : Type} : Device.Remote (Device.synced (R := R)) where
  slots _ _ := rfl
  generator _ _ := rfl
  counter D c value := c.synced_set value D

instance {R : Type} : Device.Remote (Device.countdown (R := R)) where
  slots _ _ := rfl
  generator _ _ := rfl
  counter D c value := c.countdown_set value D

namespace Flash

open Device (Remote)

variable {S R α β γ : Type}

/-- The operation leaves a part of the device as it is. -/
def Leaves (part : Device R → γ) (op : FlashM S R α) : Prop :=
  ∀ f, part (answered op f).2.device = part f.device

/-- The operation leaves what the device remembers of its last sync. -/
abbrev KeepsSync (op : FlashM S R α) : Prop := Leaves Device.synced op

namespace Leaves

variable {part : Device R → γ}

theorem pure (a : α) : Leaves part (Pure.pure a : FlashM S R α) := by
  intro f
  rfl

theorem raise (e : Failure) : Leaves part (throw e : FlashM S R α) := by
  intro f
  rfl

theorem bind {m : FlashM S R α} {k : α → FlashM S R β} (hm : Leaves part m)
    (hk : ∀ a, Leaves part (k a)) : Leaves part (m >>= k) := by
  intro f
  have first := hm f
  rw [answered_bind]
  generalize answered m f = x at first ⊢
  obtain ⟨x, g⟩ := x
  rcases x with e | a
  · exact first
  · exact (hk a g).trans first

theorem map (f : α → β) {m : FlashM S R α} (hm : Leaves part m) : Leaves part (f <$> m) := by
  rw [map_eq_pure_bind]
  exact hm.bind fun _ => pure _

theorem get_bind {k : Flash S R → FlashM S R α} (h : ∀ f, Leaves part (k f)) :
    Leaves part (get >>= k) :=
  fun f => h f f

theorem modify {g : Flash S R → Flash S R} (h : ∀ f, part (g f).device = part f.device) :
    Leaves part (modify g : FlashM S R Unit) :=
  h

theorem modifyDevice {g : Device R → Device R} (h : ∀ d, part (g d) = part d) :
    Leaves part (Flash.modifyDevice (S := S) g) :=
  fun f => h f.device

theorem modifyStore (g : S → S) : Leaves part (Flash.modifyStore (R := R) g) := by
  intro f
  rfl

theorem contract (x : Except Misuse α) : Leaves part (Flash.contract x : FlashM S R α) := by
  rcases x with m | a
  · exact raise _
  · exact pure a

theorem sound (x : Except Defect α) : Leaves part (Flash.sound x : FlashM S R α) := by
  rcases x with d | a
  · exact raise _
  · exact pure a

theorem forM (xs : List α) {f : α → FlashM S R Unit} (h : ∀ x, Leaves part (f x)) :
    Leaves part (xs.forM f) := by
  induction xs with
  | nil => exact pure ()
  | cons x xs ih => exact (h x).bind fun _ => ih

theorem foldlM {f : α → β → FlashM S R α} (xs : List β) (h : ∀ a x, Leaves part (f a x)) (a : α) :
    Leaves part (xs.foldlM f a) := by
  induction xs generalizing a with
  | nil => exact pure a
  | cons x xs ih =>
    rw [List.foldlM_cons]
    exact (h a x).bind ih

/-! ## Slots and draws -/

theorem slot (block : Nat) : Leaves part (Flash.slot block : FlashM S R (Option R)) := by
  refine get_bind fun f => ?_
  rcases f.device.slots[block]? with _ | r
  · exact raise _
  · exact pure r

section

variable [Remote part]

theorem draw : Leaves part (Flash.draw : FlashM S R UInt32) :=
  fun f => Remote.generator f.device _

theorem drawBelow (n : Nat) : Leaves part (Flash.drawBelow n : FlashM S R Nat) :=
  get_bind fun _ => (sound _).bind fun _ => .bind (modifyDevice fun d => Remote.generator d _)
    fun _ => pure _

theorem drawBytes (n : Nat) : Leaves part (Flash.drawBytes n : FlashM S R Bytes) :=
  fun f => Remote.generator f.device _

theorem setSlot (block : Nat) (r : R) : Leaves part (Flash.setSlot (S := S) block r) :=
  fun f => Remote.slots f.device _

theorem sense (b : Block) (off len : Nat) :
    Leaves part (Flash.sense b off len : FlashM S R Bytes) := by
  refine (sound _).bind fun stored => ?_
  split
  · refine draw.bind fun w => ?_
    split
    · rcases flipped : stored.flip? (b.badBitPos - off * 8) with _ | answered
      · simp only [flipped]
        exact (raise _).bind fun _ => pure _
      · simp only [flipped]
        exact pure answered
    · exact pure _
  · exact pure _

end

/-! ## Looking at blocks -/

variable [BlockStore S R]

theorem alloc (b : Block) : Leaves part (Flash.alloc b : FlashM S R R) := by
  intro f
  rfl

theorem deref (block : Nat) (r : R) : Leaves part (Flash.deref block r : FlashM S R Block) := by
  refine get_bind fun f => ?_
  rcases BlockStore.contents f.store r with _ | b
  · exact raise _
  · exact pure b

theorem fetch (block : Nat) : Leaves part (Flash.fetch block : FlashM S R (Option Block)) := by
  refine (slot block).bind fun r => ?_
  rcases r with _ | r
  · exact pure none
  · exact (deref block r).bind fun _ => pure _

omit [BlockStore S R] in
theorem writeOut (cfg : Config) (image : Image) :
    Leaves part (Flash.writeOut cfg image : FlashM S R Unit) := by
  unfold Flash.writeOut
  split
  · exact raise _
  · exact modify fun _ => rfl

theorem save (cfg : Config) (block off len : Nat) :
    Leaves part (Flash.save cfg block off len : FlashM S R Unit) := by
  refine get_bind fun f => ?_
  rcases f.image with _ | image
  · exact pure ()
  · refine (fetch block).bind fun stored => ?_
    rcases stored with _ | b
    · exact (pure _).bind fun _ => writeOut cfg _
    · exact (sound _).bind fun _ => writeOut cfg _

theorem saveAll (cfg : Config) : Leaves part (Flash.saveAll cfg : FlashM S R Unit) := by
  refine get_bind fun f => ?_
  split
  · exact forM _ fun block => save cfg block 0 _
  · exact pure ()

variable (cfg : Config)

theorem isWorn (block : Nat) : Leaves part (Flash.isWorn cfg block : FlashM S R Bool) :=
  (fetch block).bind fun _ => pure _

theorem crc (block : Nat) : Leaves part (Flash.crc cfg block : FlashM S R UInt32) := by
  refine (contract _).bind fun _ => (fetch block).bind fun stored => ?_
  rcases stored with _ | b <;> exact pure _

theorem checkErased (block off len : Nat) :
    Leaves part (Flash.checkErased cfg block off len : FlashM S R Unit) := by
  refine (fetch block).bind fun stored => ?_
  rcases cfg.eraseValue with _ | value
  · exact pure ()
  rcases stored with _ | b
  · exact pure ()
  refine (sound _).bind fun old => ?_
  split
  · exact raise _
  · exact pure ()

theorem permit (u : Update) : Leaves part (Flash.permit cfg u : FlashM S R (Option Bool)) := by
  rcases u with ⟨block, off, data⟩ | ⟨block⟩
  · refine (contract _).bind fun _ => (isWorn cfg block).bind fun worn => ?_
    dsimp only
    split
    · exact (raise _).bind fun _ => by
        split
        · exact pure _
        · split
          · exact (checkErased cfg block off _).bind fun _ => pure _
          · exact pure _
    · split
      · exact pure _
      · split
        · exact (checkErased cfg block off _).bind fun _ => pure _
        · exact pure _
  · refine (contract _).bind fun _ => (isWorn cfg block).bind fun worn => ?_
    dsimp only
    split
    · exact (raise _).bind fun _ => by
        split <;> exact pure _
    · split <;> exact pure _

/-! ## Changing blocks -/

section

variable [Remote part]

theorem own (cfg : Config) (block : Nat) :
    Leaves part (Flash.own cfg block : FlashM S R Block) := by
  refine (slot block).bind fun r => ?_
  rcases r with _ | r
  · refine (drawBelow _).bind fun bit => ?_
    split
    · exact raise _
    · exact (alloc _).bind fun r => (setSlot block r).bind fun _ => pure _
  · refine (deref block r).bind fun b => get_bind fun f => ?_
    split
    · exact pure b
    · refine Leaves.bind ?_ fun _ => pure b
      exact (alloc b).bind fun r' => (modifyStore _).bind fun _ => setSlot block r'

theorem put (block : Nat) (b : Block) : Leaves part (Flash.put block b : FlashM S R Unit) := by
  refine (slot block).bind fun r => ?_
  rcases r with _ | r
  · exact raise _
  · exact get_bind fun _ => (modifyStore _).bind fun _ => setSlot block _

theorem amend (cfg : Config) (block : Nat) (change : Block → Except Defect Block) :
    Leaves part (Flash.amend cfg block change : FlashM S R Unit) :=
  (own cfg block).bind fun _ => (sound _).bind fun _ => put block _

theorem adopt (slots : Slots R) : Leaves part (Flash.adopt slots : FlashM S R Unit) :=
  fun f => Remote.slots f.device slots

/-! ## Reads and tampering -/

theorem read (block off len : Nat) :
    Leaves part (Flash.read cfg block off len : FlashM S R Bytes) := by
  refine (contract _).bind fun _ => (fetch block).bind fun stored => ?_
  have count (answered : Bytes) : Leaves (S := S) part do
      Flash.modifyDevice fun d => { d with bytesRead := d.bytesRead + len.toUInt64 }
      return answered :=
    .bind (modifyDevice fun d => Remote.counter d .bytesRead _) fun _ => pure _
  rcases stored with _ | b
  · exact (pure _).bind count
  · dsimp only
    split
    · exact (raise _).bind fun _ => (sense b off len).bind count
    · exact (sense b off len).bind count

theorem setWear (block : Nat) (wear : UInt32) :
    Leaves part (Flash.setWear cfg block wear : FlashM S R Unit) :=
  (contract _).bind fun _ => amend cfg block _

/-! ## Updates -/

theorem start (u : Update) : KeepsSync (Flash.start cfg u : FlashM S R Start) := by
  refine (permit cfg u).bind fun permitted => ?_
  rcases permitted with _ | worn
  · exact pure _
  refine Leaves.bind (get_bind fun f => ?_) fun lost => ?_
  · dsimp only
    split
    · exact pure _
    · exact .bind (modifyDevice fun _ => rfl) fun _ => pure _
  · rcases lost with _ | _ <;> exact pure _

theorem complete (worn : Bool) (u : Update) :
    Leaves part (Flash.complete cfg worn u : FlashM S R Unit) := by
  rcases u with ⟨block, off, data⟩ | ⟨block⟩
  · exact (amend cfg block _).bind fun _ => (save cfg block off _).bind fun _ =>
      modifyDevice fun d => Remote.counter d .bytesProgrammed _
  · have erases (bit : Option Nat) : Leaves (S := S) part
        (Flash.amend cfg block fun b => .ok (erased cfg bit b)) := amend cfg block _
    have rest (bit : Option Nat) := (erases bit).bind fun _ =>
      (save cfg block 0 cfg.geometry.blockSize).bind fun _ => modifyDevice (g := fun d =>
          { d with bytesErased := d.bytesErased + cfg.geometry.blockSize.toUInt64 }) fun d =>
          Remote.counter d .bytesErased _
    refine (fetch block).bind fun stored => ?_
    dsimp only
    split
    · exact (pure _).bind rest
    · exact ((drawBelow _).map some).bind rest

theorem uninterrupted (u : Update) : Leaves part (Flash.uninterrupted cfg u : FlashM S R Unit) := by
  refine (permit cfg u).bind fun permitted => ?_
  rcases permitted with _ | worn
  · exact pure ()
  · exact complete cfg worn u

/-! ## Losing power -/

theorem tearBit (u : Update) (off len : Nat) :
    Leaves part (Flash.tearBit cfg u off len : FlashM S R Unit) := by
  refine (own cfg u.block).bind fun b => (sound _).bind fun old => ?_
  dsimp only
  split
  · refine (drawBelow _).bind fun n => ?_
    rcases (Bytes.diff old (u.outcome cfg old))[n]? with _ | bit
    · exact pure ()
    · exact (sound _).bind fun _ => put u.block _
  · exact pure ()

theorem tear (u : Update) : Leaves part (Flash.tear cfg u : FlashM S R Unit) := by
  unfold Flash.tear
  dsimp only
  split
  · exact pure ()
  rcases cfg.crash with _ | _ | _ | _ | _
  · exact pure ()
  · exact tearBit cfg u _ _
  · exact (drawBelow _).bind fun _ => amend cfg u.block _
  · exact amend cfg u.block _
  · exact (drawBelow _).bind fun _ => amend cfg u.block _

theorem rollBack (synced : Slots R) (block : Nat) :
    Leaves part (Flash.rollBack synced block : FlashM S R Unit) := by
  refine get_bind fun f => ?_
  dsimp only
  split
  · exact (raise _).bind fun _ => (slot block).bind fun _ => adopt _
  · exact (slot block).bind fun _ => adopt _

theorem crash (u : Update) : Leaves part (Flash.crash cfg u : FlashM S R Unit) := by
  refine (tear cfg u).bind fun _ => get_bind fun f => ?_
  rcases f.device.synced with _ | synced
  · exact save cfg u.block 0 _
  · exact (rollBack synced u.block).bind fun _ => saveAll cfg

theorem restore (slots : Slots R) (generator : Generator) :
    Leaves part (Flash.restore cfg slots generator : FlashM S R Unit) :=
  get_bind fun _ => (modifyStore _).bind fun _ => .bind
    (modifyDevice fun d => (Remote.generator { d with slots := slots } _).trans (Remote.slots d _))
    fun _ => saveAll cfg

/-- A request leaves a remote part that it is not made to change. -/
theorem remote {r : Request}
    (sync : r = .sync → ∀ (D : Device R) slots, part { D with synced := slots } = part D)
    (timed : ∀ n, r = .setCountdown n → ∀ D : Device R, part { D with countdown := n } = part D) :
    Leaves part (r.effect cfg : FlashM S R r.Answer) := by
  cases r with
  | read block off len => exact read cfg block off len
  | update u => exact uninterrupted cfg u
  | sync =>
    refine get_bind fun f => ?_
    rcases f.device.synced with _ | old
    · exact pure ()
    · exact get_bind fun _ => (modifyStore _).bind fun _ => (modifyStore _).bind fun _ =>
        modifyDevice fun D => sync rfl D _
  | wear block | badBit block | isMetastable block =>
    exact (contract _).bind fun _ => (fetch block).bind fun _ => pure _
  | isBad block => exact (contract _).bind fun _ => isWorn cfg block
  | blockRefs block =>
    refine (contract _).bind fun _ => (slot block).bind fun r => ?_
    rcases r with _ | r
    · exact pure 0
    · exact get_bind fun _ => pure _
  | crc block => exact crc cfg block
  | fingerprint => exact foldlM _ (fun _ block => (crc cfg block).bind fun _ => pure _) _
  | setWear block wear => exact setWear cfg block wear
  | markBad block => exact setWear cfg block _
  | markGood block => exact setWear cfg block _
  | setBadBit block bit =>
    exact (contract _).bind fun _ => (contract _).bind fun _ => amend cfg block _
  | randomizeBadBit block =>
    exact (contract _).bind fun _ => (drawBelow _).bind fun _ => amend cfg block _
  | flipBit block bit =>
    exact (contract _).bind fun _ => (contract _).bind fun _ => (amend cfg block _).bind fun _ =>
      save cfg block _ 1
  | drawBytes len => exact drawBytes len
  | setCounter c value => exact modifyDevice fun D => Remote.counter D c value
  | setCountdown value => exact modifyDevice fun D => timed value rfl D
  | counter | countdown | generator | allocated | image => exact get_bind fun _ => pure _
  | config => exact pure cfg
  | copy => exact pure ()

end

/-- Every request but a sync leaves the sync point where it is. -/
theorem effect {r : Request} (h : r ≠ .sync) : KeepsSync (r.effect cfg : FlashM S R r.Answer) :=
  remote cfg (fun sync => absurd sync h) fun _ _ _ => rfl

end Leaves

end Flash

end FaultyFlash
