/-!
# Coupled computations

Two computations over states of different types are coupled if they answer alike from states that
are related: with the same value in states related again, or with the same failure. Couplings are
closed under the ways in which computations are put together, so two devices are compared by
comparing their primitive operations.

## Main definitions

* `ResultsAgree post err`: results with one answer, in related states
* `Coupled pre m m' post err`: computations that answer alike from related states
* `Preserves I m m'`: computations that answer alike and keep a relation, whatever they answer

## Main results

* `Coupled.bind`, `Coupled.forM`, `Coupled.foldlM`: couplings of composed computations
-/

namespace FaultyFlash

variable {ε σ σ' α β : Type}

/-- The same answer, in states related by `post`, or the same failure, in states related by
`err`. -/
def ResultsAgree (post : α → σ → σ' → Prop) (err : σ → σ' → Prop) :
    EStateM.Result ε σ α → EStateM.Result ε σ' α → Prop
  | .ok a s, .ok a' s' => a = a' ∧ post a s s'
  | .error e s, .error e' s' => e = e' ∧ err s s'
  | _, _ => False

/-- From states related by `pre`, the computations answer alike. -/
def Coupled (pre : σ → σ' → Prop) (m : EStateM ε σ α) (m' : EStateM ε σ' α)
    (post : α → σ → σ' → Prop) (err : σ → σ' → Prop) : Prop :=
  ∀ s s', pre s s' → ResultsAgree post err (m.run s) (m'.run s')

/-- The computations answer alike and keep a relation, whatever they answer. -/
abbrev Preserves (I : σ → σ' → Prop) (m : EStateM ε σ α) (m' : EStateM ε σ' α) : Prop :=
  Coupled I m m' (fun _ => I) I

variable {pre mid : σ → σ' → Prop} {err : σ → σ' → Prop}

theorem ResultsAgree.mono {post post' : α → σ → σ' → Prop} {err' : σ → σ' → Prop}
    {r : EStateM.Result ε σ α} {r' : EStateM.Result ε σ' α} (h : ResultsAgree post err r r')
    (hpost : ∀ a s s', post a s s' → post' a s s') (herr : ∀ s s', err s s' → err' s s') :
    ResultsAgree post' err' r r' := by
  cases r <;> cases r' <;> simp only [ResultsAgree] at h ⊢
  · exact ⟨h.1, hpost _ _ _ h.2⟩
  · exact ⟨h.1, herr _ _ h.2⟩

theorem ResultsAgree.symm {post : α → σ → σ' → Prop} {r : EStateM.Result ε σ α}
    {r' : EStateM.Result ε σ' α} (h : ResultsAgree post err r r') :
    ResultsAgree (fun a s' s => post a s s') (fun s' s => err s s') r' r := by
  cases r <;> cases r' <;> simp only [ResultsAgree] at h ⊢
  · exact ⟨h.1.symm, h.1 ▸ h.2⟩
  · exact ⟨h.1.symm, h.2⟩

theorem ResultsAgree.trans {σ'' : Type} {post : α → σ → σ' → Prop} {post' : α → σ' → σ'' → Prop}
    {err' : σ' → σ'' → Prop} {r : EStateM.Result ε σ α} {r' : EStateM.Result ε σ' α}
    {r'' : EStateM.Result ε σ'' α} (h : ResultsAgree post err r r')
    (h' : ResultsAgree post' err' r' r'') :
    ResultsAgree (fun a s s'' => ∃ s', post a s s' ∧ post' a s' s'')
      (fun s s'' => ∃ s', err s s' ∧ err' s' s'') r r'' := by
  cases r <;> cases r' <;> cases r'' <;> simp only [ResultsAgree] at h h' ⊢
  · exact ⟨h.1.trans h'.1, _, h.2, h.1 ▸ h'.2⟩
  · exact ⟨h.1.trans h'.1, _, h.2, h'.2⟩

/-- What the second computation answers, the first answers too. -/
theorem ResultsAgree.ok_right {post : α → σ → σ' → Prop} {r : EStateM.Result ε σ α} {a : α}
    {s' : σ'} (h : ResultsAgree post err r (.ok a s')) : ∃ s, r = .ok a s ∧ post a s s' := by
  cases r with
  | ok b s =>
    obtain ⟨rfl, h⟩ := h
    exact ⟨s, rfl, h⟩
  | error => exact h.elim

/-- Where the first computation fails, the second fails too. -/
theorem ResultsAgree.error_left {post : α → σ → σ' → Prop} {r' : EStateM.Result ε σ' α} {e : ε}
    {s : σ} (h : ResultsAgree post err (.error e s) r') : ∃ s', r' = .error e s' ∧ err s s' := by
  cases r' with
  | ok => exact h.elim
  | error e' s' =>
    obtain ⟨rfl, h⟩ := h
    exact ⟨s', rfl, h⟩

/-- What the first computation answers, the second answers too. -/
theorem ResultsAgree.ok_left {post : α → σ → σ' → Prop} {r' : EStateM.Result ε σ' α} {a : α}
    {s : σ} (h : ResultsAgree post err (.ok a s) r') : ∃ s', r' = .ok a s' ∧ post a s s' := by
  cases r' with
  | ok b s' =>
    obtain ⟨rfl, h⟩ := h
    exact ⟨s', rfl, h⟩
  | error => exact h.elim

/-- A computation put together answers if both of its parts do. -/
theorem run_bind_eq_ok {m : EStateM ε σ α} {k : α → EStateM ε σ β} {s t : σ} {b : β} :
    (m >>= k).run s = .ok b t ↔ ∃ a u, m.run s = .ok a u ∧ (k a).run u = .ok b t := by
  rw [EStateM.run_bind]
  cases hm : m.run s with
  | ok a u =>
    refine ⟨fun h => ⟨a, u, rfl, h⟩, ?_⟩
    rintro ⟨_, _, same, h⟩
    cases same
    exact h
  | error e u =>
    refine ⟨nofun, ?_⟩
    rintro ⟨_, _, same, -⟩
    cases same

theorem run_map_eq_ok {f : α → β} {m : EStateM ε σ α} {s t : σ} {b : β} :
    (f <$> m).run s = .ok b t ↔ ∃ a, m.run s = .ok a t ∧ f a = b := by
  rw [map_eq_pure_bind, run_bind_eq_ok]
  constructor
  · rintro ⟨a, u, run, answer⟩
    cases answer
    exact ⟨a, run, rfl⟩
  · rintro ⟨a, run, rfl⟩
    exact ⟨a, t, run, rfl⟩

namespace Coupled

/-- What a coupling tells of a run and itself. -/
theorem after {pre err : σ → σ → Prop} {m : EStateM ε σ α} {post : α → σ → σ → Prop} {s t : σ}
    {a : α} (h : Coupled pre m m post err) (hs : pre s s) (run : m.run s = .ok a t) :
    post a t t := by
  have kept := h s s hs
  rw [run] at kept
  exact kept.2

theorem mono {m : EStateM ε σ α} {m' : EStateM ε σ' α} {pre' : σ → σ' → Prop}
    {post post' : α → σ → σ' → Prop} {err' : σ → σ' → Prop} (h : Coupled pre m m' post err)
    (hpre : ∀ s s', pre' s s' → pre s s') (hpost : ∀ a s s', post a s s' → post' a s s')
    (herr : ∀ s s', err s s' → err' s s') : Coupled pre' m m' post' err' :=
  fun s s' hs => (h s s' (hpre s s' hs)).mono hpost herr

/-- What fails on neither side may fail. -/
theorem mayFail {m : EStateM ε σ α} {m' : EStateM ε σ' α} {post : α → σ → σ' → Prop}
    (h : Coupled pre m m' post fun _ _ => False) : Coupled pre m m' post err :=
  h.mono (fun _ _ => id) (fun _ _ _ => id) fun _ _ => False.elim

theorem pure {post : α → σ → σ' → Prop} (a : α) (h : ∀ s s', pre s s' → post a s s') :
    Coupled (ε := ε) pre (Pure.pure a) (Pure.pure a) post err :=
  fun s s' hs => ⟨rfl, h s s' hs⟩

/-- An answer given at once keeps any relation. -/
theorem answer {I : σ → σ' → Prop} (a : α) :
    Coupled (ε := ε) I (Pure.pure a) (Pure.pure a) (fun _ => I) err :=
  pure a fun _ _ => id

/-- From one state a computation answers like itself. -/
theorem same {pre : σ → σ → Prop} (h : ∀ s s', pre s s' → s' = s) (m : EStateM ε σ α) :
    Coupled pre m m (fun _ s s' => s' = s) fun s s' => s' = s := by
  intro s s' hs
  obtain rfl := h s s' hs
  cases m.run s' <;> exact ⟨rfl, rfl⟩

theorem raise {post : α → σ → σ' → Prop} (e : ε) (h : ∀ s s', pre s s' → err s s') :
    Coupled pre (throw e : EStateM ε σ α) (throw e : EStateM ε σ' α) post err :=
  fun s s' hs => ⟨rfl, h s s' hs⟩

/-- Couplings are put together at states that couple what comes after. -/
theorem bind {m : EStateM ε σ α} {m' : EStateM ε σ' α} {k : α → EStateM ε σ β}
    {k' : α → EStateM ε σ' β} {mid : α → σ → σ' → Prop} {post : β → σ → σ' → Prop}
    (hm : Coupled pre m m' mid err) (hk : ∀ a, Coupled (mid a) (k a) (k' a) post err) :
    Coupled pre (m >>= k) (m' >>= k') post err := by
  intro s s' hs
  have h := hm s s' hs
  rw [EStateM.run_bind, EStateM.run_bind]
  cases hr : m.run s with
  | ok a t =>
    rw [hr] at h
    obtain ⟨t', ht', hmid⟩ := h.ok_left
    rw [ht']
    exact hk a t t' hmid
  | error e t =>
    -- what comes after is not reached on either side
    rw [hr] at h
    cases hr' : m'.run s' with
    | ok => rw [hr'] at h; exact h.elim
    | error => rw [hr'] at h; exact h

/-- Computations whose answers agree as far as they are seen may be followed by what looks no
further. -/
theorem bind_seen {γ : Type} {seen : α → γ} {m : EStateM ε σ α} {m' : EStateM ε σ' γ}
    {k : α → EStateM ε σ β} {k' : γ → EStateM ε σ' β} {mid : γ → σ → σ' → Prop}
    {post : β → σ → σ' → Prop} (hm : Coupled pre (seen <$> m) m' mid err)
    (hk : ∀ a, Coupled (mid (seen a)) (k a) (k' (seen a)) post err) :
    Coupled pre (m >>= k) (m' >>= k') post err := by
  intro s s' hs
  have h := hm s s' hs
  rw [map_eq_pure_bind, EStateM.run_bind] at h
  rw [EStateM.run_bind, EStateM.run_bind]
  cases hr : m.run s with
  | ok a t =>
    rw [hr] at h
    obtain ⟨t', ht', hmid⟩ := h.ok_left
    rw [ht']
    exact hk a t t' hmid
  | error e t =>
    rw [hr] at h
    obtain ⟨t', ht', herr⟩ := h.error_left
    rw [ht']
    exact ⟨rfl, herr⟩

/-- What answers on one side alone, and keeps the relation, may come first. -/
theorem skip {m : EStateM ε σ α} {k : α → EStateM ε σ β} {m' : EStateM ε σ' β}
    {post : β → σ → σ' → Prop} (hm : ∀ s s', pre s s' → ∃ a t, m.run s = .ok a t ∧ pre t s')
    (hk : ∀ a, Coupled pre (k a) m' post err) : Coupled pre (m >>= k) m' post err := by
  intro s s' hs
  obtain ⟨a, t, run, ht⟩ := hm s s' hs
  rw [EStateM.run_bind, run]
  exact hk a t s' ht

/-- What does nothing on one side alone may come last. -/
theorem skip_last {m : EStateM ε σ α} {k : α → EStateM ε σ α} {m' : EStateM ε σ' α}
    {post : α → σ → σ' → Prop} (hm : Coupled pre m m' post err)
    (hk : ∀ a s s', post a s s' → (k a).run s = .ok a s) : Coupled pre (m >>= k) m' post err := by
  rw [← bind_pure m']
  refine hm.bind fun a s s' h => ?_
  rw [hk a s s' h]
  exact ⟨rfl, h⟩

theorem map {I : σ → σ' → Prop} {m : EStateM ε σ α} {m' : EStateM ε σ' α} (f : α → β)
    (h : Coupled pre m m' (fun _ => I) err) :
    Coupled pre (f <$> m) (f <$> m') (fun _ => I) err := by
  rw [map_eq_pure_bind, map_eq_pure_bind]
  exact h.bind fun _ => pure _ fun _ _ => id

/-- A computation that looks at its state first may be compared state by state. -/
theorem get_bind {k : σ → EStateM ε σ β} {k' : σ' → EStateM ε σ' β} {post : β → σ → σ' → Prop}
    (h : ∀ s s', pre s s' →
      Coupled (fun t t' => t = s ∧ t' = s' ∧ pre t t') (k s) (k' s') post err) :
    Coupled pre (get >>= k) (get >>= k') post err :=
  fun s s' hs => h s s' hs s s' ⟨rfl, rfl, hs⟩

theorem modify {f : σ → σ} {g : σ' → σ'} {post : PUnit → σ → σ' → Prop}
    (h : ∀ s s', pre s s' → post ⟨⟩ (f s) (g s')) :
    Coupled (ε := ε) pre (modify f) (modify g) post err :=
  fun s s' hs => ⟨rfl, h s s' hs⟩

/-- A loop keeps what each of its rounds keeps. -/
theorem forM {I : σ → σ' → Prop} {f : β → EStateM ε σ PUnit} {g : β → EStateM ε σ' PUnit}
    (xs : List β) (h : ∀ x, Preserves I (f x) (g x)) :
    Preserves I (xs.forM f) (xs.forM g) := by
  induction xs with
  | nil => exact pure _ fun _ _ => id
  | cons x xs ih => exact (h x).bind fun _ => ih

/-- A fold keeps what each of its steps keeps. -/
theorem foldlM {I : σ → σ' → Prop} {f : α → β → EStateM ε σ α} {g : α → β → EStateM ε σ' α}
    (xs : List β) (h : ∀ a x, Preserves I (f a x) (g a x)) (a : α) :
    Preserves I (xs.foldlM f a) (xs.foldlM g a) := by
  induction xs generalizing a with
  | nil => exact pure _ fun _ _ => id
  | cons x xs ih =>
    rw [List.foldlM_cons, List.foldlM_cons]
    exact (h a x).bind ih

end Coupled

end FaultyFlash
