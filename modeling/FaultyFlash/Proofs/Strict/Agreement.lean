import FaultyFlash.Proofs.Coupling

/-!
# Computations that could fail in more ways

A computation that checks more than another one can fail where the other one cannot. If it never
does, it is the other one. What is to be known for that is carried along as what holds of the states
between the steps.

## Main definitions

* `widen f m`: a computation whose failures count as failures of another kind
* `Agrees f pre c m post`: from states with `pre`, `c` does what `m` does, and leaves `post`

## Main results

* `widen_bind`: widening goes through the parts of a computation
* `Agrees.bind`, `Agrees.forM`: agreement is put together of the agreement of the parts
-/

namespace FaultyFlash

variable {ε ε' σ α β : Type} {f : ε → ε'}

/-- A computation whose failures count as failures of another kind. -/
abbrev widen (f : ε → ε') (m : EStateM ε σ α) : EStateM ε' σ α := EStateM.adaptExcept f m

theorem run_widen (f : ε → ε') (m : EStateM ε σ α) (s : σ) :
    (widen f m).run s = match m.run s with
      | .ok a t => .ok a t
      | .error e t => .error (f e) t := by
  cases h : m.run s <;> simp only [widen, EStateM.adaptExcept, EStateM.run] at h ⊢ <;> rw [h]

theorem widen_get (f : ε → ε') : widen f (get : EStateM ε σ σ) = get := rfl

theorem widen_bind (f : ε → ε') (m : EStateM ε σ α) (k : α → EStateM ε σ β) :
    widen f (m >>= k) = widen f m >>= fun a => widen f (k a) := by
  refine funext fun s => ?_
  show (widen f (m >>= k)).run s = (widen f m >>= fun a => widen f (k a)).run s
  rw [run_widen, EStateM.run_bind, EStateM.run_bind, run_widen]
  cases m.run s with
  | ok a t => exact (run_widen f (k a) t).symm
  | error e t => rfl

/-- From states with `pre`, the computation `c` does what `m` does. If they answer, the state that
is left has `post`. -/
def Agrees (f : ε → ε') (pre : σ → Prop) (c : EStateM ε' σ α) (m : EStateM ε σ α)
    (post : α → σ → Prop) : Prop :=
  ∀ s, pre s → c.run s = (widen f m).run s ∧ ∀ a t, m.run s = .ok a t → post a t

namespace Agrees

variable {pre pre' : σ → Prop} {c : EStateM ε' σ α} {m : EStateM ε σ α} {post post' : α → σ → Prop}

/-- What is not changed agrees with itself. -/
theorem same (h : ∀ s, pre s → ∀ a t, m.run s = .ok a t → post a t) :
    Agrees f pre (widen f m) m post :=
  fun s hs => ⟨rfl, h s hs⟩

theorem mono (h : Agrees f pre c m post) (hpre : ∀ s, pre' s → pre s)
    (hpost : ∀ a s, post a s → post' a s) : Agrees f pre' c m post' :=
  fun s hs => ⟨(h s (hpre s hs)).1, fun a t run => hpost a t ((h s (hpre s hs)).2 a t run)⟩

theorem bind {ck : α → EStateM ε' σ β} {mk : α → EStateM ε σ β} {after : β → σ → Prop}
    (h : Agrees f pre c m post) (hk : ∀ a, Agrees f (post a) (ck a) (mk a) after) :
    Agrees f pre (c >>= ck) (m >>= mk) after := by
  intro s hs
  obtain ⟨first, ends⟩ := h s hs
  rw [widen_bind, EStateM.run_bind, EStateM.run_bind, first, run_widen]
  cases run : m.run s with
  | ok a t =>
    have next := hk a t (ends a t run)
    refine ⟨next.1, fun b u ran => next.2 b u ?_⟩
    rwa [EStateM.run_bind, run] at ran
  | error e t =>
    refine ⟨rfl, fun b u ran => ?_⟩
    rw [EStateM.run_bind, run] at ran
    cases ran

theorem answer (a : α) (h : ∀ s, pre s → post a s) : Agrees f pre (pure a) (pure a) post := by
  refine fun s hs => ⟨rfl, fun b t run => ?_⟩
  cases run
  exact h s hs

theorem raise (e : ε) : Agrees f pre (throw (f e)) (throw e) post :=
  fun s _ => ⟨rfl, fun b t run => by cases run⟩

/-- A computation that looks at its state first may be looked at state by state. -/
theorem get_bind {ck : σ → EStateM ε' σ β} {mk : σ → EStateM ε σ β} {after : β → σ → Prop}
    (h : ∀ s, pre s → Agrees f (fun t => t = s) (ck s) (mk s) after) :
    Agrees f pre (get >>= ck) (get >>= mk) after :=
  fun s hs => h s hs s rfl

/-- A loop agrees if each of its rounds does. -/
theorem forM {ck : β → EStateM ε' σ PUnit} {mk : β → EStateM ε σ PUnit} (xs : List β)
    (h : ∀ x ∈ xs, Agrees f pre (ck x) (mk x) fun _ => pre) :
    Agrees f pre (xs.forM ck) (xs.forM mk) fun _ => pre := by
  induction xs with
  | nil => exact answer _ fun _ => id
  | cons x xs ih =>
    exact (h x List.mem_cons_self).bind fun _ => ih fun y hy => h y (List.mem_cons_of_mem _ hy)

end Agrees

end FaultyFlash
