import FaultyFlash.Proofs.Coupling
import FaultyFlash.Request

/-!
# Devices in lockstep

Two devices, which may keep their blocks in stores of different kinds, are compared through a
relation between them. If the primitive operations answer alike and keep the relation, so does
everything that is made of them: reads, questions, tampering, and updates on both sides of a loss
of power.

## Main definitions

* `Flash.Looking I`: what is looked at, drawn and counted keeps the relation `I`
* `Flash.Lockstep cfg I Owned`: the primitive operations keep the relation `I`; between a block
  being made the device's own and being changed, the devices are related by `Owned`
* `Flash.CrashLockstep cfg I Owned`: so does the return to the last sync
* `Flash.TimedLockstep cfg I Owned`: so does the countdown
* `Flash.answered`: an operation as a function from a device to an answer and a device
* `Request.effect`: what a request does to a device, as long as power is not lost

## Main results

* `Bench.run_on_eq_ok`, `Bench.run_copy_eq_ok`, …: what an operation on a bench did if it answered
* `Flash.Looking.read`, `Flash.Lockstep.complete`, …: what uses a device keeps the relation
* `Flash.CrashLockstep.crash`, `Flash.Looking.start`: so does what loses power
-/

namespace FaultyFlash

namespace Flash

variable {S R S' R' α β : Type}

/-- A device with another generator. -/
def reseed (f : Flash S R) (g : Generator) : Flash S R :=
  { f with device := { f.device with generator := g } }

/-- A device with another countdown. -/
def rearm (f : Flash S R) (countdown : UInt32) : Flash S R :=
  { f with device := { f.device with countdown := countdown } }

/-- A device that counted some more bytes. -/
def tally (f : Flash S R) (c : Counter) (n : UInt64) : Flash S R :=
  { f with device := c.set (c.get f.device + n) f.device }

/-! ## Answers -/

/-- What an operation answers, and the device that it leaves. -/
def answered (op : FlashM S R α) (f : Flash S R) : Except Failure α × Flash S R :=
  match op.run f with
  | .ok a g => (.ok a, g)
  | .error e g => (.error e, g)

theorem answered_eq_ok {op : FlashM S R α} {f g : Flash S R} {a : α} :
    answered op f = (.ok a, g) ↔ op.run f = .ok a g := by
  unfold answered
  cases op.run f <;> simp

theorem answered_eq_error {op : FlashM S R α} {f g : Flash S R} {e : Failure} :
    answered op f = (.error e, g) ↔ op.run f = .error e g := by
  unfold answered
  cases op.run f <;> simp

theorem answered_of_preserves {I : Flash S R → Flash S' R' → Prop}
    {op : FlashM S R α} {op' : FlashM S' R' α} (h : Preserves I op op') {f : Flash S R}
    {g : Flash S' R'} (hfg : I f g) :
    (answered op f).1 = (answered op' g).1 ∧ I (answered op f).2 (answered op' g).2 := by
  have run := h f g hfg
  unfold answered
  cases hf : op.run f with
  | ok a s =>
    rw [hf] at run
    obtain ⟨t, ht, hst⟩ := run.ok_left
    rw [ht]
    exact ⟨rfl, hst⟩
  | error e s =>
    rw [hf] at run
    obtain ⟨t, ht, hst⟩ := run.error_left
    rw [ht]
    exact ⟨rfl, hst⟩

theorem answered_bind (op : FlashM S R α) (k : α → FlashM S R β) (f : Flash S R) :
    answered (op >>= k) f = match answered op f with
      | (.ok a, g) => answered (k a) g
      | (.error e, g) => (.error e, g) := by
  unfold answered
  rw [EStateM.run_bind]
  cases op.run f <;> rfl

/-! ## Primitive operations -/

variable [BlockStore S R] [BlockStore S' R']

/-- What is looked at, drawn and counted keeps a relation between devices. -/
structure Looking (I : Flash S R → Flash S' R' → Prop) : Prop where
  /-- Looking at a block changes nothing. -/
  look {f : Flash S R} {g : Flash S' R'} (block : Nat) (h : I f g) :
    ResultsAgree (fun _ s t => s = f ∧ t = g) (fun s t => s = f ∧ t = g)
      ((Flash.fetch block).run f) ((Flash.fetch block).run g)
  generator {f : Flash S R} {g : Flash S' R'} (h : I f g) :
    f.device.generator = g.device.generator
  reseed {f : Flash S R} {g : Flash S' R'} (x : Generator) (h : I f g) :
    I (f.reseed x) (g.reseed x)
  tally {f : Flash S R} {g : Flash S' R'} (c : Counter) (n : UInt64) (h : I f g) :
    I (f.tally c n) (g.tally c n)

/-- The primitive operations keep a relation between devices. -/
structure Lockstep (cfg : Config) (I : Flash S R → Flash S' R' → Prop)
    (Owned : Nat → Block → Flash S R → Flash S' R' → Prop) : Prop extends Looking I where
  own (block : Nat) : Coupled I (Flash.own cfg block) (Flash.own cfg block) (Owned block) I
  put (block : Nat) {b c : Block} (size : c.data.length = b.data.length) :
    Coupled (Owned block b) (Flash.put block c) (Flash.put block c) (fun _ => I) I
  of_owned {block : Nat} {b : Block} {f : Flash S R} {g : Flash S' R'} (h : Owned block b f g) :
    I f g
  reseed_owned {block : Nat} {b : Block} {f : Flash S R} {g : Flash S' R'} (x : Generator)
    (h : Owned block b f g) : Owned block b (f.reseed x) (g.reseed x)
  image {f : Flash S R} {g : Flash S' R'} (h : I f g) : f.image.isSome = g.image.isSome
  write {f : Flash S R} {g : Flash S' R'} {i j : Image} (size block off : Nat) (data : Bytes)
    (h : I f g) (hi : f.image = some i) (hj : g.image = some j) :
    I { f with image := some (i.write size block off data) }
      { g with image := some (j.write size block off data) }
  sync : Preserves I (Flash.sync (S := S)) (Flash.sync (S := S'))

/-- The primitive operations and the return to the last sync keep a relation between devices. -/
structure CrashLockstep (cfg : Config) (I : Flash S R → Flash S' R' → Prop)
    (Owned : Nat → Block → Flash S R → Flash S' R' → Prop) : Prop
    extends Lockstep cfg I Owned where
  synced {f : Flash S R} {g : Flash S' R'} (h : I f g) :
    f.device.synced.isSome = g.device.synced.isSome
  rollBack {f : Flash S R} {g : Flash S' R'} {s : Slots R} {t : Slots R'} (block : Nat)
    (h : I f g) (hs : f.device.synced = some s) (ht : g.device.synced = some t) :
    ResultsAgree (fun _ => I) I ((Flash.rollBack s block).run f) ((Flash.rollBack t block).run g)

/-- All primitive operations keep a relation between devices, and they count down together. -/
structure TimedLockstep (cfg : Config) (I : Flash S R → Flash S' R' → Prop)
    (Owned : Nat → Block → Flash S R → Flash S' R' → Prop) : Prop
    extends CrashLockstep cfg I Owned where
  countdown {f : Flash S R} {g : Flash S' R'} (h : I f g) :
    f.device.countdown = g.device.countdown
  rearm {f : Flash S R} {g : Flash S' R'} (n : UInt32) (h : I f g) : I (f.rearm n) (g.rearm n)

/-! ## Pieces that no store enters -/

section Pieces

variable {I : Flash S R → Flash S' R' → Prop}

omit [BlockStore S R] [BlockStore S' R'] in
theorem preserves_contract (x : Except Misuse α) : Preserves I (contract x) (contract x) := by
  cases x with
  | ok a => exact Coupled.pure a fun _ _ => id
  | error m => exact Coupled.raise _ fun _ _ => id

omit [BlockStore S R] [BlockStore S' R'] in
theorem preserves_sound (x : Except Defect α) : Preserves I (sound x) (sound x) := by
  cases x with
  | ok a => exact Coupled.pure a fun _ _ => id
  | error d => exact Coupled.raise _ fun _ _ => id

omit [BlockStore S R] [BlockStore S' R'] in
/-- Draws answer alike on devices with equal generators. -/
theorem preserves_drawBelow (generator : ∀ f g, I f g → f.device.generator = g.device.generator)
    (reseed : ∀ f g x, I f g → I (f.reseed x) (g.reseed x)) (n : Nat) :
    Preserves I (drawBelow n) (drawBelow n) := by
  intro f g h
  by_cases hn : n = 0
  · subst hn
    exact ⟨rfl, h⟩
  · rw [run_drawBelow hn, run_drawBelow hn, generator f g h]
    exact ⟨rfl, reseed f g _ h⟩

end Pieces

/-! ## Looking, drawing and counting -/

namespace Looking

variable {I : Flash S R → Flash S' R' → Prop} (L : Looking I)

include L

theorem draw : Preserves I Flash.draw Flash.draw := by
  intro f g h
  rw [run_draw, run_draw, L.generator h]
  exact ⟨rfl, L.reseed _ h⟩

theorem drawBelow (n : Nat) : Preserves I (Flash.drawBelow n) (Flash.drawBelow n) :=
  preserves_drawBelow (fun _ _ => L.generator) (fun _ _ x => L.reseed x) n

theorem drawBytes (n : Nat) : Preserves I (Flash.drawBytes n) (Flash.drawBytes n) := by
  intro f g h
  rw [run_drawBytes, run_drawBytes, L.generator h]
  exact ⟨rfl, L.reseed _ h⟩

/-- Counting bytes is the last thing a read or an update does. -/
theorem count (c : Counter) (n : UInt64) :
    Preserves I (modifyDevice fun d => c.set (c.get d + n) d)
      (modifyDevice fun d => c.set (c.get d + n) d) :=
  Coupled.modify fun _ _ => L.tally c n

theorem fetch (block : Nat) : Preserves I (Flash.fetch block) (Flash.fetch block) :=
  fun _ _ h => (L.look block h).mono (fun _ _ _ ⟨hs, ht⟩ => hs ▸ ht ▸ h)
    fun _ _ ⟨hs, ht⟩ => hs ▸ ht ▸ h

variable {cfg : Config}

/-! ## Questions -/

theorem isWorn (block : Nat) : Preserves I (Flash.isWorn cfg block) (Flash.isWorn cfg block) :=
  (L.fetch block).bind fun _ => Coupled.pure _ fun _ _ => id

theorem wear (block : Nat) : Preserves I (Flash.wear cfg block) (Flash.wear cfg block) :=
  (preserves_contract _).bind fun _ => (L.fetch block).bind fun _ => Coupled.pure _ fun _ _ => id

theorem isBad (block : Nat) : Preserves I (Flash.isBad cfg block) (Flash.isBad cfg block) :=
  (preserves_contract _).bind fun _ => L.isWorn block

theorem badBit (block : Nat) : Preserves I (Flash.badBit cfg block) (Flash.badBit cfg block) :=
  (preserves_contract _).bind fun _ => (L.fetch block).bind fun _ => Coupled.pure _ fun _ _ => id

theorem isMetastable (block : Nat) :
    Preserves I (Flash.isMetastable cfg block) (Flash.isMetastable cfg block) :=
  (preserves_contract _).bind fun _ => (L.fetch block).bind fun _ => Coupled.pure _ fun _ _ => id

theorem crc (block : Nat) : Preserves I (Flash.crc cfg block) (Flash.crc cfg block) := by
  refine (preserves_contract _).bind fun _ => (L.fetch block).bind fun stored => ?_
  cases stored <;> exact Coupled.pure _ fun _ _ => id

theorem fingerprint : Preserves I (Flash.fingerprint cfg) (Flash.fingerprint cfg) :=
  Coupled.foldlM _ (fun _ block => (L.crc block).bind fun _ => Coupled.pure _ fun _ _ => id) _

/-! ## Reading -/

theorem sense (b : Block) (off len : Nat) :
    Preserves I (Flash.sense b off len) (Flash.sense b off len) := by
  refine (preserves_sound _).bind fun stored => ?_
  split
  · refine L.draw.bind fun w => ?_
    split
    · cases flipped : stored.flip? (b.badBitPos - off * 8) with
      | some answered =>
        simp only [flipped]
        exact Coupled.pure _ fun _ _ => id
      | none =>
        simp only [flipped]
        exact (Coupled.raise _ fun _ _ => id).bind fun _ => Coupled.pure _ fun _ _ => id
    · exact Coupled.pure _ fun _ _ => id
  · exact Coupled.pure _ fun _ _ => id

theorem read (block off len : Nat) :
    Preserves I (Flash.read cfg block off len) (Flash.read cfg block off len) := by
  refine (preserves_contract _).bind fun _ => (L.fetch block).bind fun stored => ?_
  cases stored with
  | none => exact (L.count .bytesRead _).bind fun _ => Coupled.pure _ fun _ _ => id
  | some b =>
    by_cases worn : (cfg.isWorn b.wear && cfg.worn = .readError) = true
    · simp only [worn, if_true]
      exact Coupled.raise _ fun _ _ => id
    · simp only [worn]
      exact (L.sense b off len).bind fun _ =>
        (L.count .bytesRead _).bind fun _ => Coupled.pure _ fun _ _ => id

/-! ## Permits -/

theorem checkErased (block off len : Nat) :
    Preserves I (Flash.checkErased cfg block off len) (Flash.checkErased cfg block off len) := by
  refine (L.fetch block).bind fun stored => ?_
  cases cfg.eraseValue with
  | none => exact Coupled.pure _ fun _ _ => id
  | some value =>
    cases stored with
    | none => exact Coupled.pure _ fun _ _ => id
    | some b =>
      refine (preserves_sound _).bind fun old => ?_
      split
      · exact Coupled.raise _ fun _ _ => id
      · exact Coupled.pure _ fun _ _ => id

theorem permit (u : Update) : Preserves I (Flash.permit cfg u) (Flash.permit cfg u) := by
  cases u with
  | prog block off data =>
    refine (preserves_contract _).bind fun _ => (L.isWorn block).bind fun worn => ?_
    by_cases refused : (worn && cfg.worn = .progError) = true
    · simp only [refused, if_true]
      exact Coupled.raise _ fun _ _ => id
    by_cases ignored : (worn && cfg.worn = .progNoop) = true
    · simp only [refused, ignored, if_true]
      exact Coupled.pure _ fun _ _ => id
    simp only [refused, ignored]
    cases worn with
    | true => exact Coupled.pure _ fun _ _ => id
    | false => exact (L.checkErased block off _).bind fun _ => Coupled.pure _ fun _ _ => id
  | erase block =>
    refine (preserves_contract _).bind fun _ => (L.isWorn block).bind fun worn => ?_
    by_cases refused : (worn && cfg.worn = .eraseError) = true
    · simp only [refused, if_true]
      exact Coupled.raise _ fun _ _ => id
    by_cases ignored : (worn && cfg.worn = .eraseNoop) = true
    · simp only [refused, ignored, if_true]
      exact Coupled.pure _ fun _ _ => id
    simp only [refused, ignored]
    exact Coupled.pure _ fun _ _ => id

end Looking

namespace Lockstep

variable {cfg : Config} {I : Flash S R → Flash S' R' → Prop}
  {Owned : Nat → Block → Flash S R → Flash S' R' → Prop} (L : Lockstep cfg I Owned)

include L

/-- A block is changed alike by a change that keeps its size. -/
theorem amend (block : Nat) (change : Block → Except Defect Block)
    (size : ∀ b c, change b = .ok c → c.data.length = b.data.length) :
    Preserves I (Flash.amend cfg block change) (Flash.amend cfg block change) := by
  refine (L.own block).bind fun b => ?_
  cases hc : change b with
  | ok c => exact L.put block (size b c hc)
  | error d => exact Coupled.raise _ fun _ _ => L.of_owned

/-! ## The image file -/

omit L [BlockStore S R] [BlockStore S' R'] in
/-- A write to two image files fails on both or on none. -/
theorem writeOut {J : Flash S R → Flash S' R' → Prop} {i j : Image} (keep : ∀ s t, J s t → I s t)
    (write : ∀ s t, J s t → I { s with image := some i } { t with image := some j }) :
    Coupled J (Flash.writeOut cfg i) (Flash.writeOut cfg j) (fun _ => I) I := by
  unfold Flash.writeOut
  split
  · exact Coupled.raise _ keep
  · exact Coupled.modify write

theorem save (block off len : Nat) :
    Preserves I (Flash.save cfg block off len) (Flash.save cfg block off len) := by
  refine Coupled.get_bind fun f g h => ?_
  have image := L.image h
  cases hf : f.image with
  | none =>
    cases hg : g.image with
    | none => exact Coupled.pure _ fun _ _ h => h.2.2
    | some j => simp [hf, hg] at image
  | some i =>
    cases hg : g.image with
    | none => simp [hf, hg] at image
    | some j =>
      -- the images were read before the block, so the states between must be these very ones
      refine Coupled.bind
        (?_ : Coupled _ _ _ (fun _ s t => s = f ∧ t = g ∧ I s t) _) fun stored => ?_
      · rintro s t ⟨rfl, rfl, -⟩
        exact (L.look block h).mono (fun _ _ _ ⟨hs, ht⟩ => ⟨hs, ht, hs ▸ ht ▸ h⟩)
          fun _ _ ⟨hs, ht⟩ => hs ▸ ht ▸ h
      · cases stored with
        | none =>
          exact writeOut (fun _ _ h => h.2.2) fun s t ⟨hs, ht, h⟩ =>
            L.write _ _ _ _ h (hs ▸ hf) (ht ▸ hg)
        | some b =>
          show Coupled _ (Flash.sound (b.region off len) >>= _) (Flash.sound _ >>= _) _ _
          cases b.region off len with
          | ok data =>
            exact writeOut (fun _ _ h => h.2.2) fun s t ⟨hs, ht, h⟩ =>
              L.write _ _ _ _ h (hs ▸ hf) (ht ▸ hg)
          | error d => exact Coupled.raise _ fun _ _ h => h.2.2

theorem saveAll : Preserves I (Flash.saveAll cfg) (Flash.saveAll cfg) := by
  refine Coupled.get_bind fun f g h => ?_
  rw [L.image h]
  split
  · exact (Coupled.forM _ fun block => L.save block 0 _).mono (fun _ _ h => h.2.2)
      (fun _ _ _ => id) fun _ _ => id
  · exact Coupled.pure _ fun _ _ h => h.2.2

/-! ## Tampering -/

theorem setWear (block : Nat) (wear : UInt32) :
    Preserves I (Flash.setWear cfg block wear) (Flash.setWear cfg block wear) :=
  (preserves_contract _).bind fun _ => L.amend block _ fun _ _ h => by cases h; rfl

theorem setBadBit (block bit : Nat) :
    Preserves I (Flash.setBadBit cfg block bit) (Flash.setBadBit cfg block bit) :=
  (preserves_contract _).bind fun _ => (preserves_contract _).bind fun _ =>
    L.amend block _ fun _ _ h => by cases h; rfl

theorem randomizeBadBit (block : Nat) :
    Preserves I (Flash.randomizeBadBit cfg block) (Flash.randomizeBadBit cfg block) :=
  (preserves_contract _).bind fun _ => (L.drawBelow _).bind fun _ =>
    L.amend block _ fun _ _ h => by cases h; rfl

theorem flipBit (block bit : Nat) :
    Preserves I (Flash.flipBit cfg block bit) (Flash.flipBit cfg block bit) :=
  (preserves_contract _).bind fun _ => (preserves_contract _).bind fun _ =>
    (L.amend block _ fun _ _ => Block.length_flip).bind fun _ => L.save block _ 1

/-! ## Updates -/

theorem complete (worn : Bool) (u : Update) :
    Preserves I (Flash.complete cfg worn u) (Flash.complete cfg worn u) := by
  cases u with
  | prog block off data =>
    exact (L.amend block _ fun _ _ => length_programmed).bind fun _ =>
      (L.save block off _).bind fun _ => L.count .bytesProgrammed _
  | erase block =>
    refine (L.fetch block).bind fun stored => ?_
    -- whether a bad bit is drawn or not, what follows is the same
    have rest (bit : Option Nat) :=
      (L.amend block (fun b => .ok (erased cfg bit b)) fun _ _ h => by cases h; simp).bind
        fun _ => (L.save block 0 cfg.geometry.blockSize).bind
          fun _ => L.count .bytesErased cfg.geometry.blockSize.toUInt64
    dsimp only
    split
    · exact rest none
    · exact ((L.drawBelow _).bind fun bit => Coupled.pure (some bit) fun _ _ => id).bind rest

end Lockstep

/-! ## Requests -/

end Flash

/-- An update during which power is not lost. -/
def Flash.uninterrupted {S R : Type} [BlockStore S R] (cfg : Config) (u : Update) :
    FlashM S R Unit := do
  match ← permit cfg u with
  | none => return
  | some worn => complete cfg worn u

/-- What a request does to the device, as long as power is not lost. -/
def Request.effect {S R : Type} [BlockStore S R] :
    (r : Request) → Config → FlashM S R r.Answer
  | .read block off len => (Flash.read · block off len)
  | .update u => (Flash.uninterrupted · u)
  | .sync => fun _ => Flash.sync
  | .wear block => (Flash.wear · block)
  | .isBad block => (Flash.isBad · block)
  | .badBit block => (Flash.badBit · block)
  | .isMetastable block => (Flash.isMetastable · block)
  | .blockRefs block => (Flash.blockRefs · block)
  | .crc block => (Flash.crc · block)
  | .fingerprint => Flash.fingerprint
  | .setWear block w => (Flash.setWear · block w)
  | .markBad block => (Flash.markBad · block)
  | .markGood block => (Flash.markGood · block)
  | .setBadBit block bit => (Flash.setBadBit · block bit)
  | .randomizeBadBit block => (Flash.randomizeBadBit · block)
  | .flipBit block bit => (Flash.flipBit · block bit)
  | .drawBytes len => fun _ => Flash.drawBytes len
  | .counter c => fun _ => do return c.get (← get).device
  | .setCounter c value => fun _ => Flash.modifyDevice (c.set value)
  | .countdown => fun _ => do return (← get).device.countdown
  | .setCountdown value => fun _ => Flash.modifyDevice fun dev => { dev with countdown := value }
  | .generator => fun _ => do return (← get).device.generator
  | .allocated => fun _ => do return (← get).device.allocated
  | .config => fun cfg => pure cfg
  | .image => fun _ => do return (← get).image
  | .copy => fun _ => pure ()

/-- Is a request performed by one operation on the device? -/
def Request.isDirect : Request → Bool
  | .update _ | .copy => false
  | _ => true

/-- Is a request answered by looking at blocks and by draws? -/
def Request.onlyLooks : Request → Bool
  | .read .. | .wear _ | .isBad _ | .badBit _ | .isMetastable _ | .crc _ | .fingerprint
  | .drawBytes _ | .generator | .config => true
  | _ => false

/-- Is a request answered from blocks and draws alone? -/
def Request.isBasic : Request → Bool
  | .update _ | .blockRefs _ | .counter _ | .setCounter .. | .countdown | .setCountdown _
  | .allocated | .image | .copy => false
  | _ => true

namespace Bench

variable {S R κ μ α : Type} [BlockStore S R]

omit [BlockStore S R] in
/-- On a device that there is, an operation answers as on the device with its surroundings. -/
theorem run_on_answered {d : Handle} {w : Bench S R κ μ} {r : Rig R κ} (h : w.rig? d = some r)
    (op : Config → FlashM S R α) :
    (on d op).run w = .ok (Flash.answered (op w.config) (w.flash r)).1
      (w.settle d r (Flash.answered (op w.config) (w.flash r)).2) := by
  rw [run_on_of_rig? h, Flash.answered]
  cases (op w.config).run (w.flash r) <;> rfl

omit [BlockStore S R] in
/-- What an operation on a device did to the device, if it ended well. -/
theorem on_ok {d : Handle} {w v : Bench S R κ μ} {r : Rig R κ} (h : w.rig? d = some r)
    {op : Config → FlashM S R α} {a : α} (run : (on d op).run w = .ok (.ok a) v) :
    ∃ f, (op w.config).run (w.flash r) = .ok a f ∧ v = w.settle d r f := by
  rw [run_on_answered h] at run
  injection run with answer state
  exact ⟨_, Flash.answered_eq_ok.1 (Prod.ext answer rfl), state.symm⟩

omit [BlockStore S R] in
/-- Likewise if it failed. -/
theorem on_failed {d : Handle} {w v : Bench S R κ μ} {r : Rig R κ} (h : w.rig? d = some r)
    {op : Config → FlashM S R α} {e : Failure} (run : (on d op).run w = .ok (.error e) v) :
    ∃ f, (op w.config).run (w.flash r) = .error e f ∧ v = w.settle d r f := by
  rw [run_on_answered h] at run
  injection run with answer state
  exact ⟨_, Flash.answered_eq_error.1 (Prod.ext answer rfl), state.symm⟩

/-! ## Operations that answered -/

section Answered

variable {S R κ μ α : Type} {d : Handle} {w v : Bench S R κ μ}

theorem run_rig_eq_ok {r : Rig R κ} : (rig d).run w = .ok r v ↔ w.rig? d = some r ∧ w = v := by
  rw [run_rig]
  cases w.rig? d <;> simp

theorem run_on_eq_ok {op : Config → FlashM S R α} {x : Except Failure α} :
    (on d op).run w = .ok x v ↔ ∃ r, w.rig? d = some r ∧
      (Flash.answered (op w.config) (w.flash r)).1 = x ∧
      w.settle d r (Flash.answered (op w.config) (w.flash r)).2 = v := by
  cases hr : w.rig? d with
  | none => simp [run_on, hr]
  | some r => simp [run_on_answered hr]

theorem run_install_eq_ok {c : Option (Handler κ)} {x : Unit} :
    (install d c).run w = .ok x v ↔ ∃ r, w.rig? d = some r ∧
      { w with rack := w.rack.set d (some { r with callback := c }) } = v := by
  rw [run_install]
  cases w.rig? d <;> simp

variable [BlockStore S R]

theorem run_copy_eq_ok {e : Handle} : (copy d).run w = .ok e v ↔ ∃ r, w.rig? d = some r ∧
    w.rack.length = e ∧ { w with
      store := BlockStore.retainAll (BlockStore.retainAll w.store r.device.slots)
        (r.device.synced.getD [])
      rack := w.rack ++ [some { device := r.device }] } = v := by
  rw [run_copy]
  cases w.rig? d <;> simp

theorem run_drop_eq_ok {x : Unit} : (drop d).run w = .ok x v ↔ ∃ r, w.rig? d = some r ∧ { w with
    store := BlockStore.releaseAll (BlockStore.releaseAll w.store r.device.slots)
      (r.device.synced.getD [])
    rack := w.rack.set d none } = v := by
  rw [run_drop]
  cases w.rig? d <;> simp

theorem run_suspend_eq_ok {x : Unit} : (suspend d).run w = .ok x v ↔ ∃ r, w.rig? d = some r ∧
    { w with
      store := BlockStore.retainAll w.store r.device.slots
      suspended := ⟨r.device.slots, r.device.generator⟩ :: w.suspended } = v := by
  rw [run_suspend]
  cases w.rig? d <;> simp

end Answered

theorem perform_direct (respond : Responder S R κ μ) (d : Handle) {r : Request} (h : r.isDirect) :
    perform respond d r = on d r.effect := by
  cases r <;> first | rfl | cases h

end Bench

namespace Flash

variable {S R S' R' : Type} [BlockStore S R] [BlockStore S' R']

/-- Neither the landing of an update nor a change after it touches the size. -/
theorem length_landed_bind {cfg : Config} {u : Update} {off len : Nat}
    {change : Block → Except Defect Block}
    (size : ∀ b c, change b = .ok c → c.data.length = b.data.length) {b c : Block}
    (h : (do change (← landed cfg u off len b)) = .ok c) : c.data.length = b.data.length := by
  rcases hl : landed cfg u off len b with d | l
  · rw [hl] at h
    cases h
  · rw [hl] at h
    exact (size l c h).trans (length_landed hl)

/-- Requests that only look are answered alike. -/
theorem Looking.looks {I : Flash S R → Flash S' R' → Prop} (L : Looking I) {cfg : Config}
    {r : Request} (looks : r.onlyLooks) : Preserves I (r.effect cfg) (r.effect cfg) := by
  cases r with
  | read block off len => exact L.read block off len
  | wear block => exact L.wear block
  | isBad block => exact L.isBad block
  | badBit block => exact L.badBit block
  | isMetastable block => exact L.isMetastable block
  | crc block => exact L.crc block
  | fingerprint => exact L.fingerprint
  | drawBytes len => exact L.drawBytes len
  | generator => exact fun f g hfg => ⟨L.generator hfg, hfg⟩
  | config => exact Coupled.pure _ fun _ _ => id
  | _ => cases looks

namespace Lockstep

variable {cfg : Config} {I : Flash S R → Flash S' R' → Prop}
  {Owned : Nat → Block → Flash S R → Flash S' R' → Prop} (L : Lockstep cfg I Owned)

include L

/-- Requests that are answered from blocks and draws are answered alike. -/
theorem basic {r : Request} (basic : r.isBasic) : Preserves I (r.effect cfg) (r.effect cfg) := by
  by_cases looks : r.onlyLooks
  · exact L.looks looks
  cases r with
  | sync => exact L.sync
  | setWear block wear => exact L.setWear block wear
  | markBad block => exact L.setWear block _
  | markGood block => exact L.setWear block _
  | setBadBit block bit => exact L.setBadBit block bit
  | randomizeBadBit block => exact L.randomizeBadBit block
  | flipBit block bit => exact L.flipBit block bit
  | _ => first | exact absurd rfl looks | cases basic

theorem uninterrupted (u : Update) :
    Preserves I (Flash.uninterrupted cfg u) (Flash.uninterrupted cfg u) := by
  refine (L.permit u).bind fun permitted => ?_
  cases permitted with
  | none => exact Coupled.pure _ fun _ _ => id
  | some worn => exact L.complete worn u

/-! ## Losing power -/

theorem tearBit (u : Update) (off len : Nat) :
    Preserves I (Flash.tearBit cfg u off len) (Flash.tearBit cfg u off len) := by
  refine (L.own u.block).bind fun b => ?_
  have owned : ∀ f g, Owned u.block b f g → I f g := fun _ _ => L.of_owned
  cases b.region off len with
  | error d => exact Coupled.raise _ owned
  | ok old =>
    show Coupled _ (if _ then _ else _) (if _ then _ else _) _ _
    split
    · -- the block is owned until it is put back, so draws must keep it owned
      refine Coupled.bind ((preserves_drawBelow (fun f g h => L.generator (owned f g h))
        (fun _ _ x => L.reseed_owned x) _).mono (fun _ _ => id) (fun _ _ _ => id) owned)
          fun n => ?_
      cases (Bytes.diff old (u.outcome cfg old))[n]? with
      | none => exact Coupled.pure _ owned
      | some bit =>
        cases flipped : b.flip (off * 8 + bit) with
        | ok c =>
          simp only [flipped]
          exact L.put u.block (Block.length_flip flipped)
        | error d =>
          simp only [flipped]
          exact Coupled.raise _ owned
    · exact Coupled.pure _ owned

/-- A bit is drawn and the update lands, changed once more at that bit. -/
theorem drawAndLand (u : Update) (off len bits : Nat) (change : Nat → Block → Except Defect Block)
    (size : ∀ bit b c, change bit b = .ok c → c.data.length = b.data.length) :
    Preserves I
      (do
        let bit ← Flash.drawBelow bits
        Flash.amend cfg u.block fun b => do change bit (← landed cfg u off len b))
      (do
        let bit ← Flash.drawBelow bits
        Flash.amend cfg u.block fun b => do change bit (← landed cfg u off len b)) :=
  (L.drawBelow bits).bind fun bit => L.amend u.block _ fun _ _ => length_landed_bind (size bit)

theorem tear (u : Update) : Preserves I (Flash.tear cfg u) (Flash.tear cfg u) := by
  unfold Flash.tear
  dsimp only
  split
  · exact Coupled.pure _ fun _ _ => id
  cases cfg.crash with
  | noop => exact Coupled.pure _ fun _ _ => id
  | someBits => exact L.tearBit u _ _
  | mostBits => exact L.drawAndLand u _ _ _ _ fun _ _ _ => Block.length_flip
  | outOfOrder => exact L.amend u.block _ fun _ _ => length_landed
  | metastable => exact L.drawAndLand u _ _ _ _ fun _ _ _ h => by cases h; rfl

end Lockstep

section Crash

variable {cfg : Config} {I : Flash S R → Flash S' R' → Prop}
  {Owned : Nat → Block → Flash S R → Flash S' R' → Prop}

theorem CrashLockstep.crash (L : CrashLockstep cfg I Owned) (u : Update) :
    Preserves I (Flash.crash cfg u) (Flash.crash cfg u) := by
  refine (L.tear u).bind fun _ => Coupled.get_bind fun f g h => ?_
  -- both devices return to a last sync, or neither does
  have synced := L.synced h
  cases hf : f.device.synced with
  | none =>
    cases hg : g.device.synced with
    | none => exact (L.save u.block 0 _).mono (fun _ _ h => h.2.2) (fun _ _ _ => id) fun _ _ => id
    | some t => simp [hf, hg] at synced
  | some s =>
    cases hg : g.device.synced with
    | none => simp [hf, hg] at synced
    | some t =>
      refine Coupled.bind (?_ : Coupled _ _ _ (fun _ => I) I) fun _ => L.saveAll
      rintro _ _ ⟨rfl, rfl, h⟩
      exact L.rollBack u.block h hf hg

/-- Updates start alike on devices that count down together. -/
theorem Looking.start {I : Flash S R → Flash S' R' → Prop} (L : Looking I)
    (countdown : ∀ f g, I f g → f.device.countdown = g.device.countdown)
    (rearm : ∀ f g n, I f g → I (f.rearm n) (g.rearm n)) (u : Update) :
    Preserves I (Flash.start cfg u) (Flash.start cfg u) := by
  have tick : Preserves I Flash.tick Flash.tick := by
    intro f g h
    rw [run_tick, run_tick, countdown f g h]
    by_cases off : g.device.countdown = 0
    · rw [if_pos off, if_pos off]
      exact ⟨rfl, h⟩
    · rw [if_neg off, if_neg off]
      exact ⟨rfl, rearm f g _ h⟩
  refine (L.permit u).bind fun permitted => ?_
  cases permitted with
  | none => exact Coupled.pure _ fun _ _ => id
  | some worn =>
    refine tick.bind fun lost => ?_
    cases lost <;> exact Coupled.pure _ fun _ _ => id

theorem TimedLockstep.start (L : TimedLockstep cfg I Owned) (u : Update) :
    Preserves I (Flash.start cfg u) (Flash.start cfg u) :=
  L.toLooking.start (fun _ _ => L.countdown) (fun _ _ n => L.rearm n) u

end Crash

end Flash

end FaultyFlash
