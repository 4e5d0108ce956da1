import FaultyFlash.Request
import FaultyFlash.Store.Plain

/-!
# Bulk draws as pieces of the word stream

A generator gives a stream of words, and the words a stream of bytes, least significant byte first.
Bytes that are drawn at once are a piece of that stream. A draw takes whole words: what it leaves of
its last word is lost. So two draws one after another are one draw of both lengths if the first
takes whole words only, and otherwise skip the rest of a word.

## Main definitions

* `Generator.wordsFor`: how many words some bytes take
* `Generator.stream`, `Generator.after`: the bytes of the next words, and the generator after them
* `Bench.reseed`: a bench with the generator of one device replaced
* `Bench.drawTwice`: two draws of bytes from a device

## Main results

* `Generator.fill_eq`: drawn bytes are a piece of the stream
* `Generator.fill_add`, `Generator.fill_fill`: two draws of bytes
* `Generator.draws_are_stream`: the same of generators and of the devices of a bench
-/

namespace FaultyFlash

namespace Generator

/-- The number of words that `n` bytes take. -/
def wordsFor (n : Nat) : Nat := (n + 3) / 4

/-- The bytes of the next `n` words, each least significant byte first. -/
def stream (n : Nat) (g : Generator) : Bytes := (words n g).1.flatMap Bytes.ofWord

/-- The generator after `n` words. -/
def after (n : Nat) (g : Generator) : Generator := (words n g).2

@[simp] theorem after_zero (g : Generator) : after 0 g = g := rfl

theorem after_succ (n : Nat) (g : Generator) : after (n + 1) g = after n g.next.2 := rfl

@[simp] theorem stream_zero (g : Generator) : stream 0 g = [] := rfl

theorem stream_succ (n : Nat) (g : Generator) :
    stream (n + 1) g = Bytes.ofWord g.next.1 ++ stream n g.next.2 := rfl

@[simp] theorem length_stream (n : Nat) (g : Generator) : (stream n g).length = 4 * n := by
  induction n generalizing g with
  | zero => rfl
  | succ n ih =>
    rw [stream_succ, List.length_append, Bytes.length_ofWord, ih]
    omega

theorem after_add (m n : Nat) (g : Generator) : after (m + n) g = after n (after m g) := by
  induction m generalizing g with
  | zero => rw [Nat.zero_add, after_zero]
  | succ m ih => rw [Nat.add_right_comm, after_succ, ih, after_succ]

theorem stream_add (m n : Nat) (g : Generator) :
    stream (m + n) g = stream m g ++ stream n (after m g) := by
  induction m generalizing g with
  | zero => rw [Nat.zero_add, stream_zero, after_zero, List.nil_append]
  | succ m ih =>
    rw [Nat.add_right_comm, stream_succ, ih, ← List.append_assoc, ← stream_succ, after_succ]

/-- Drawn bytes are a piece of the stream, and take as many words as hold them. -/
theorem fill_eq (n : Nat) (g : Generator) :
    fill n g = ((stream (wordsFor n) g).take n, after (wordsFor n) g) := by
  fun_induction fill n g with
  | case1 => rfl
  | case2 | case3 | case4 => rfl
  | case5 n g rest ih =>
    have more : wordsFor (n + 4) = wordsFor n + 1 := by
      unfold wordsFor
      omega
    have cut (w : UInt32) (xs : Bytes) :
        (Bytes.ofWord w ++ xs).take (n + 4) = Bytes.ofWord w ++ xs.take n := by
      rw [Nat.add_comm, ← Bytes.length_ofWord w, List.take_length_add_append]
    simp only [more, stream_succ, after_succ, rest, ih]
    exact congrArg (·, after (wordsFor n) g.next.2) (cut _ _).symm

/-- A draw after another goes on with the next word, also where the first left part of one. -/
theorem fill_fill (m n : Nat) (g : Generator) :
    fill n (fill m g).2 =
      (((stream (wordsFor m + wordsFor n) g).drop (4 * wordsFor m)).take n,
        after (wordsFor m + wordsFor n) g) := by
  rw [fill_eq m, fill_eq n, stream_add, after_add,
    List.drop_left' (length_stream (wordsFor m) g)]

/-- After whole words, two draws are one draw of both lengths. -/
theorem fill_add {m : Nat} (whole : 4 ∣ m) (n : Nat) (g : Generator) :
    fill (m + n) g = ((fill m g).1 ++ (fill n (fill m g).2).1, (fill n (fill m g).2).2) := by
  obtain ⟨k, rfl⟩ := whole
  have first : wordsFor (4 * k) = k := by
    unfold wordsFor
    omega
  have both : wordsFor (4 * k + n) = k + wordsFor n := by
    unfold wordsFor
    omega
  have all : (stream k g).length = 4 * k := length_stream k g
  rw [fill_fill, fill_eq (4 * k), fill_eq (4 * k + n), first, both, stream_add, ← all,
    List.take_length_add_append, List.take_length, List.drop_left]

end Generator

namespace Bench

variable {S R κ μ : Type}

/-- The bench with a generator put into the device of a handle, which is `r`. -/
def reseed (w : Bench S R κ μ) (d : Handle) (r : Rig R κ) (g : Generator) : Bench S R κ μ :=
  { w with rack := w.rack.set d (some { r with device := { r.device with generator := g } }) }

theorem rig?_reseed {w : Bench S R κ μ} {d : Handle} {r : Rig R κ} (h : w.rig? d = some r)
    (g : Generator) :
    (w.reseed d r g).rig? d = some { r with device := { r.device with generator := g } } :=
  rig?_set h _

/-- A generator that was put in is forgotten with the next one. -/
theorem reseed_reseed (w : Bench S R κ μ) (d : Handle) (r : Rig R κ) (g g' : Generator) :
    (w.reseed d r g).reseed d { r with device := { r.device with generator := g } } g' =
      w.reseed d r g' := by
  simp only [reseed, List.set_set]

variable [BlockStore S R]

/-- Draws `m` and then `n` bytes from a device. -/
def drawTwice (respond : Responder S R κ μ) (d : Handle) (m n : Nat) :
    BenchM S R κ μ (Except Failure Bytes × Except Failure Bytes) := do
  let first ← perform respond d (.drawBytes m)
  let second ← perform respond d (.drawBytes n)
  return (first, second)

/-- A device draws bytes as its generator does, and nothing else changes. -/
theorem run_drawBytes {w : Bench S R κ μ} {d : Handle} {r : Rig R κ} (h : w.rig? d = some r)
    (respond : Responder S R κ μ) (n : Nat) :
    (perform respond d (.drawBytes n)).run w =
      .ok (.ok (Generator.fill n r.device.generator).1)
        (w.reseed d r (Generator.fill n r.device.generator).2) := by
  rw [perform, run_on_of_rig? h]
  rfl

theorem run_drawTwice {w : Bench S R κ μ} {d : Handle} {r : Rig R κ} (h : w.rig? d = some r)
    (respond : Responder S R κ μ) (m n : Nat) :
    (drawTwice respond d m n).run w =
      let once := Generator.fill m r.device.generator
      let again := Generator.fill n once.2
      .ok (.ok once.1, .ok again.1) (w.reseed d r again.2) := by
  rw [drawTwice, EStateM.run_bind, run_drawBytes h]
  simp only [EStateM.run_bind, run_drawBytes (rig?_reseed h _), reseed_reseed, EStateM.run_pure]

end Bench

namespace Generator

open Bench (perform drawTwice reseed)

/-- Drawn bytes are the first bytes of the words that hold them, of which a draw takes every one. So
two draws are one draw of both lengths if the first takes whole words, and always take the words
of both. Devices draw bytes in the same way, and nothing else on the bench changes by it. -/
theorem draws_are_stream {S R κ μ : Type} [BlockStore S R] :
    (∀ n g, fill n g = ((stream (wordsFor n) g).take n, after (wordsFor n) g)) ∧
    (∀ m n g, 4 ∣ m →
      fill (m + n) g = ((fill m g).1 ++ (fill n (fill m g).2).1, (fill n (fill m g).2).2)) ∧
    (∀ m n g, fill n (fill m g).2 =
      (((stream (wordsFor m + wordsFor n) g).drop (4 * wordsFor m)).take n,
        after (wordsFor m + wordsFor n) g)) ∧
    ∀ (w : Bench S R κ μ) (d : Handle) (r : Rig R κ) (respond : Responder S R κ μ),
      w.rig? d = some r →
        (∀ n, (perform respond d (.drawBytes n)).run w =
          .ok (.ok ((stream (wordsFor n) r.device.generator).take n))
            (w.reseed d r (after (wordsFor n) r.device.generator))) ∧
        (∀ m n, 4 ∣ m → ∃ (xs ys : Bytes) (v : Bench S R κ μ),
          (drawTwice respond d m n).run w = .ok (.ok xs, .ok ys) v ∧
            (perform respond d (.drawBytes (m + n))).run w = .ok (.ok (xs ++ ys)) v) ∧
        ∀ m n, (drawTwice respond d m n).run w =
          .ok (.ok ((stream (wordsFor m) r.device.generator).take m),
              .ok (((stream (wordsFor m + wordsFor n) r.device.generator).drop
                (4 * wordsFor m)).take n))
            (w.reseed d r (after (wordsFor m + wordsFor n) r.device.generator)) := by
  refine ⟨fill_eq, fun m n g whole => fill_add whole n g, fill_fill,
    fun w d r respond live => ⟨fun n => ?_, fun m n whole => ?_, fun m n => ?_⟩⟩
  · rw [Bench.run_drawBytes live, fill_eq]
  · refine ⟨_, _, _, Bench.run_drawTwice live respond m n, ?_⟩
    rw [Bench.run_drawBytes live, fill_add whole]
  · rw [Bench.run_drawTwice live]
    simp only [fill_fill]
    rw [fill_eq]

/-- A device whose generator starts at seven. -/
def seeded : Config where
  geometry := ⟨1, 1, 8, 1⟩
  seed := 7

/-- Six bytes are the four of one word and two of the next. -/
theorem draws_are_stream_seeded : ∃ (w v : Bench Plain Block Unit Unit) (xs ys : Bytes),
    Bench.create seeded () = .ok w ∧ fill 6 ⟨7⟩ = (xs ++ ys, after 2 ⟨7⟩) ∧
      (drawTwice (fun _ _ => throw .exhausted) 0 4 2).run w = .ok (.ok xs, .ok ys) v ∧
      (perform (fun _ _ => throw .exhausted) 0 (.drawBytes 6)).run w = .ok (.ok (xs ++ ys)) v := by
  obtain ⟨-, split, -, benches⟩ := draws_are_stream (S := Plain) (κ := Unit) (μ := Unit)
  obtain ⟨once, -, twice⟩ := benches
    ⟨seeded, BlockStore.empty, none, [some { device := Device.fresh Block seeded }], [], [], ()⟩ 0 _
    (fun _ _ => throw .exhausted) rfl
  have both := split 4 2 ⟨7⟩ (by decide)
  refine ⟨_, _, (fill 4 ⟨7⟩).1, (fill 2 (fill 4 ⟨7⟩).2).1, rfl, both, twice 4 2, ?_⟩
  rw [once 6]
  rfl

end Generator

end FaultyFlash
