import FaultyFlash.Proofs.Benches

/-!
# Callbacks that are allowed

Callbacks get onto a bench only by being installed, and copies carry none. So a property of all
callbacks on a bench is kept by whatever installs none without it.

## Main definitions

* `Bench.Guarded A`: all callbacks on a bench have the property `A`
* `Bench.Guards A m`: an operation keeps it that way

## Main results

* `Bench.Lockstep.guarded`: benches in lockstep stay so where only some callbacks are allowed
-/

namespace FaultyFlash

namespace Bench

variable {S R S' R' κ μ α β ι : Type} {A : Option (Handler κ) → Prop}

/-- All callbacks on a bench have the property `A`. -/
def Guarded (A : Option (Handler κ) → Prop) (v : Bench S R κ μ) : Prop :=
  ∀ d r, v.rig? d = some r → A r.callback

/-- An operation leaves only callbacks with the property `A`, where there were only such. -/
def Guards (A : Option (Handler κ) → Prop) (m : BenchM S R κ μ α) : Prop :=
  ∀ v x w, Guarded A v → m.run v = .ok x w → Guarded A w

/-- A device may be exchanged for one whose callback is allowed, or given up. -/
theorem Guarded.set {v : Bench S R κ μ} (h : Guarded A v) (d : Handle) {x : Option (Rig R κ)}
    (hx : ∀ r, x = some r → A r.callback) {w : Bench S R κ μ} (hw : w.rack = v.rack.set d x) :
    Guarded A w := by
  intro e r hr
  rw [rig?_eq_some, hw, List.getElem?_set] at hr
  split at hr
  · split at hr
    · exact hx r (Option.some.inj hr)
    · cases hr
  · exact h e r (rig?_eq_some.2 hr)

namespace Guards

theorem pure (a : α) : Guards A (Pure.pure a : BenchM S R κ μ α) := by
  intro v x w h run
  cases run
  exact h

theorem bind {m : BenchM S R κ μ α} {k : α → BenchM S R κ μ β} (hm : Guards A m)
    (hk : ∀ a, Guards A (k a)) : Guards A (m >>= k) := by
  intro v x w h run
  obtain ⟨a, u, first, rest⟩ := run_bind_eq_ok.1 run
  exact hk a u x w (hm v a u h first) rest

theorem map (f : α → β) {m : BenchM S R κ μ α} (hm : Guards A m) : Guards A (f <$> m) := by
  rw [map_eq_pure_bind]
  exact hm.bind fun _ => pure _

theorem modify (f : Bench S R κ μ → Bench S R κ μ) (hf : ∀ v, (f v).rack = v.rack) :
    Guards A (modify f : BenchM S R κ μ PUnit) := by
  intro v x w h run d r hr
  cases run
  rw [rig?, hf] at hr
  exact h d r hr

/-- Operations on a device leave its callback. -/
theorem on (d : Handle) (op : Config → FlashM S R α) : Guards A (on (κ := κ) (μ := μ) d op) := by
  intro v x w h run
  obtain ⟨r, hr, -, rfl⟩ := run_on_eq_ok.1 run
  refine h.set d (fun s hs => ?_) rfl
  cases hs
  exact h d r hr

theorem install (d : Handle) {callback : Option (Handler κ)} (hA : A callback) :
    Guards A (install (S := S) (R := R) (μ := μ) d callback) := by
  intro v x w h run
  obtain ⟨r, -, rfl⟩ := run_install_eq_ok.1 run
  refine h.set d (fun s hs => ?_) rfl
  cases hs
  exact hA

variable [BlockStore S R]

theorem copy (none : A none) (d : Handle) : Guards A (copy (S := S) (R := R) (μ := μ) d) := by
  intro v x w h run
  obtain ⟨r, -, -, rfl⟩ := run_copy_eq_ok.1 run
  intro e s hs
  rw [rig?_eq_some, List.getElem?_append] at hs
  split at hs
  · exact h e s (rig?_eq_some.2 hs)
  · -- the copy is the only device after the others, and carries no callback
    obtain rfl := Option.some.inj (List.mem_singleton.1 (List.mem_of_getElem? hs))
    exact none

theorem drop (d : Handle) : Guards A (drop (S := S) (R := R) (μ := μ) d) := by
  intro v x w h run
  obtain ⟨r, -, rfl⟩ := run_drop_eq_ok.1 run
  exact h.set d (fun _ hs => by cases hs) rfl

theorem fork (none : A none) (d : Handle) : Guards A (fork (S := S) (R := R) (μ := μ) d) := by
  refine (copy none d).bind fun handle => bind (modify _ ?_) fun _ => (on d _).bind fun x => ?_
  · exact fun _ => rfl
  · cases x <;> exact pure _

theorem suspend (d : Handle) : Guards A (suspend (S := S) (R := R) (μ := μ) d) := by
  intro v x w h run
  obtain ⟨r, -, rfl⟩ := run_suspend_eq_ok.1 run
  exact h

theorem discard : Guards A (discard (S := S) (R := R) (μ := μ)) := by
  refine modify _ fun v => ?_
  cases v.suspended <;> rfl

theorem resume (d : Handle) : Guards A (resume (S := S) (R := R) (μ := μ) d) := by
  intro v x w h run
  rw [run_resume] at run
  cases hs : v.suspended with
  | nil =>
    rw [hs] at run
    cases run
    exact h
  | cons s rest =>
    rw [hs] at run
    exact on d _ { v with suspended := rest } x w h run

end Guards

/-- A coupling stays one where only some callbacks are allowed, if no others are installed. -/
theorem coupled_guarded {m : BenchM S R κ μ α} {m' : BenchM S' R' κ μ α}
    {pre : Bench S R κ μ → Bench S' R' κ μ → Prop}
    {post : α → Bench S R κ μ → Bench S' R' κ μ → Prop}
    {err : Bench S R κ μ → Bench S' R' κ μ → Prop} (h : Coupled pre m m' post err)
    (guards : Guards A m') :
    Coupled (fun w v => pre w v ∧ Guarded A v) m m' (fun a w v => post a w v ∧ Guarded A v)
      err := by
  rintro w v ⟨hwv, guarded⟩
  have agree := h w v hwv
  cases run' : m'.run v with
  | ok a v' =>
    rw [run'] at agree
    obtain ⟨w', run, kept⟩ := agree.ok_right
    rw [run]
    exact ⟨rfl, kept, guards v a v' guarded run'⟩
  | error e v' =>
    rw [run'] at agree
    cases run : m.run w with
    | ok a w' =>
      rw [run] at agree
      exact agree.elim
    | error e' w' =>
      rw [run] at agree
      exact agree

variable [BlockStore S R] [BlockStore S' R']

/-- Benches in lockstep stay so where only some callbacks are allowed. -/
theorem Lockstep.guarded {Inner : ι → ι → Prop} {H : Handle → Handle → Prop} {seen : Seen}
    {J : ι → Bench S R κ μ → Bench S' R' κ μ → Prop} (L : Lockstep Inner H (fun _ => True) seen J)
    (none : A none) (next : ∀ code calls, A (some (.custom code calls)) →
      A (some (.custom code (calls + 1)))) :
    Lockstep Inner H A seen fun i w v => J i w v ∧ Guarded A v where
  start h u := coupled_guarded (L.start h u) (.on _ _)
  complete h worn u := coupled_guarded (L.complete h worn u) (.on _ _)
  crash h u := coupled_guarded (L.crash h u) (.on _ _)
  direct {i d e} h r hr respond respond' := by
    refine coupled_guarded (L.direct h hr respond respond') (Guards.map _ ?_)
    rw [perform_direct respond' e hr]
    exact .on _ _
  callback h hwv := L.callback h hwv.1
  allowed {i w v d e r} h hwv hr := by
    have same := L.callback h hwv.1
    rw [hr, Option.map_some] at same
    obtain ⟨s, hs, callback⟩ := Option.map_eq_some_iff.1 same.symm
    exact callback ▸ hwv.2 e s hs
  next := next _ _
  missing h hwv := L.missing h hwv.1
  install h _ hA := coupled_guarded (L.install h trivial) (.install _ hA)
  copy h respond respond' := coupled_guarded (L.copy h respond respond')
    ((Guards.copy none _).bind fun _ => .pure _)
  fork h := coupled_guarded (L.fork h) (.fork none _)
  suspend h := (coupled_guarded (L.suspend h) (.suspend _)).mono (fun _ _ => id)
    (fun _ _ _ ⟨⟨j, hij, hwv⟩, guarded⟩ => ⟨j, hij, hwv, guarded⟩) fun _ _ => id
  discard hij := coupled_guarded (L.discard hij) .discard
  resume h hij := coupled_guarded (L.resume h hij) (.resume _)
  memory hwv := L.memory hwv.1
  setMemory m := coupled_guarded (L.setMemory m) (.modify _ fun _ => rfl)

end Bench

end FaultyFlash
