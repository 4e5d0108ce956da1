import FaultyFlash.Proofs.Upkeep
import FaultyFlash.Scenario

/-!
# Bodies that give up no device

A bench on which a program runs only grows: the devices on it stay, and those copied for later are
new and differ from one another. A scenario relies on this when it gives its devices up.

## Main definitions

* `Bench.Grew w v`: what became of a bench that only grew
* `Scenario.Tame body`: benches only grow as a body runs

## Main results

* `Scenario.tame_execute`: bodies that are programs are tame
-/

namespace FaultyFlash

variable {S R κ μ ε α : Type}

namespace Bench

/-- A bench `w` only grew, to `v`. -/
structure Grew (w v : Bench S R κ μ) : Prop where
  live {e : Handle} (h : w.isLive e) : v.isLive e
  length : w.rack.length ≤ v.rack.length
  forks : ∃ hs, v.forks = w.forks ++ hs ∧ hs.Nodup ∧ ∀ e ∈ hs, w.rack.length ≤ e ∧ v.isLive e

variable {u v w : Bench S R κ μ} {d e : Handle}

theorem isLive_iff : w.isLive d ↔ ∃ r, w.rig? d = some r := Option.isSome_iff_exists

theorem isLive_of_rig? {r : Rig R κ} (h : w.rig? d = some r) : w.isLive d := isLive_iff.2 ⟨r, h⟩

/-- Handles of devices were given out. -/
theorem lt_length_of_isLive (h : w.isLive d) : d < w.rack.length := by
  obtain ⟨r, hr⟩ := isLive_iff.1 h
  exact (List.getElem?_eq_some_iff.1 (rig?_eq_some.1 hr)).1

/-- A device exchanged for another leaves all handles in use. -/
theorem isLive_set {r : Rig R κ} (h : w.isLive e) (hv : v.rack = w.rack.set d (some r)) :
    v.isLive e := by
  rw [isLive_iff] at h ⊢
  obtain ⟨r', hr⟩ := h
  rw [rig?, hv]
  by_cases same : d = e
  · subst same
    exact ⟨r, rig?_set hr _⟩
  · rw [List.getElem?_set_ne same]
    exact ⟨r', hr⟩

/-- Giving a device up leaves the others. -/
theorem isLive_drop [BlockStore S R] (h : w.isLive e) (apart : e ≠ d) {x : Unit}
    (run : (drop d).run w = .ok x v) : v.isLive e := by
  obtain ⟨r, -, rfl⟩ := run_drop_eq_ok.1 run
  rw [isLive_iff] at h ⊢
  obtain ⟨r', hr'⟩ := h
  exact ⟨r', by rw [rig?, List.getElem?_set_ne apart.symm]; exact hr'⟩

namespace Grew

theorem refl (w : Bench S R κ μ) : Grew w w where
  live := id
  length := Nat.le_refl _
  forks := ⟨[], (List.append_nil _).symm, List.nodup_nil, nofun⟩

/-- A bench may grow further without more copies for later. -/
theorem step (h : Grew w v) (live : ∀ e, v.isLive e → u.isLive e)
    (length : v.rack.length ≤ u.rack.length) (forks : u.forks = v.forks) : Grew w u where
  live he := live _ (h.live he)
  length := Nat.le_trans h.length length
  forks := by
    obtain ⟨hs, same, nodup, fresh⟩ := h.forks
    exact ⟨hs, forks.trans same, nodup, fun e he => ⟨(fresh e he).1, live e (fresh e he).2⟩⟩

/-- A device may be exchanged for another. -/
theorem set (h : Grew w v) {r : Rig R κ} (rack : u.rack = v.rack.set d (some r))
    (forks : u.forks = v.forks) : Grew w u :=
  h.step (fun _ he => isLive_set he rack) (by simp [rack]) forks

theorem upholds_on (d : Handle) (op : Config → FlashM S R α) :
    Upholds (Grew w) (on d op) fun _ => True := by
  intro v x u h run
  obtain ⟨r, -, -, rfl⟩ := run_on_eq_ok.1 run
  exact ⟨h.set rfl rfl, trivial⟩

theorem upholds_install (d : Handle) (c : Option (Handler κ)) :
    Upholds (Grew w) (install d c) fun _ => True := by
  intro v x u h run
  obtain ⟨r, -, rfl⟩ := run_install_eq_ok.1 run
  exact ⟨h.set rfl rfl, trivial⟩

variable [BlockStore S R]

/-- A copy is a device that was not there. -/
theorem copied (h : Grew w v) {n : Handle} (run : (Bench.copy d).run v = .ok n u) :
    Grew w u ∧ u.forks = v.forks ∧ n = v.rack.length ∧ u.isLive n := by
  obtain ⟨r, -, rfl, rfl⟩ := run_copy_eq_ok.1 run
  refine ⟨h.step (fun e he => ?_) (by simp) rfl, rfl, rfl,
    isLive_of_rig? (r := ⟨r.device, none⟩) ?_⟩
  · obtain ⟨r', hr'⟩ := isLive_iff.1 he
    exact isLive_of_rig? (rig?_append hr' _)
  · rw [rig?_eq_some, List.getElem?_append_right (Nat.le_refl _), Nat.sub_self]
    rfl

theorem upholds_copy (d : Handle) : Upholds (Grew w) (Bench.copy d) fun _ => True :=
  fun _ _ _ h run => ⟨(h.copied run).1, trivial⟩

/-- A copy for later is a device that was not there. -/
theorem upholds_fork (d : Handle) : Upholds (Grew w) (fork d) fun _ => True := by
  intro v x u h run
  obtain ⟨n, v1, copied, run⟩ := run_bind_eq_ok.1 run
  obtain ⟨h1, same, rfl, there⟩ := h.copied copied
  obtain ⟨_, v2, noted, run⟩ := run_bind_eq_ok.1 run
  cases noted
  -- the handle that is noted is fresh: those noted before are handles of devices that were there
  have h2 : Grew w { v1 with forks := v1.forks ++ [v.rack.length] } := by
    obtain ⟨hs, forks, nodup, fresh⟩ := h.forks
    obtain ⟨hs', forks', -, fresh'⟩ := h1.forks
    obtain rfl : hs' = hs := List.append_cancel_left (forks'.symm.trans (same.trans forks))
    refine ⟨h1.live, h1.length, hs' ++ [v.rack.length], ?_, ?_, fun e he => ?_⟩
    · rw [forks', List.append_assoc]
    · refine List.nodup_append.2 ⟨nodup, List.pairwise_singleton _ _, fun a ha b hb => ?_⟩
      obtain rfl := List.mem_singleton.1 hb
      exact Nat.ne_of_lt (lt_length_of_isLive (fresh a ha).2)
    · rcases List.mem_append.1 he with he | he
      · exact fresh' e he
      · obtain rfl := List.mem_singleton.1 he
        exact ⟨h.length, there⟩
  refine Upholds.bind (P := fun _ => True) (upholds_on d _) (fun y _ => ?_) _ x u h2 run
  cases y <;> exact .pure trivial

omit [BlockStore S R] in
theorem aside (w : Bench S R κ μ) : Aside (Grew w) :=
  fun _ _ _ h => h.step (fun _ => id) (Nat.le_refl _) rfl

/-- Whatever a program does to its device, the bench only grows. -/
theorem upkeep (w : Bench S R κ μ) (d : Handle) :
    Upkeep (fun _ => True) (fun _ => True) (fun _ => True) d (Grew w) where
  start _ := (upholds_on d _).mono fun _ _ _ _ => trivial
  complete _ _ := (upholds_on d _).mono fun _ _ _ _ => trivial
  crash _ := (upholds_on d _).mono fun _ _ _ _ => trivial
  direct _ _ := (upholds_on d _).mono fun _ _ _ _ => trivial
  copy := upholds_copy d
  fork _ := (upholds_fork d).mono fun _ _ => ⟨fun _ _ => trivial, fun _ => trivial⟩
  suspend := (aside w).suspend
  discard := (aside w).discard
  resume := (aside w).resume (fun _ _ => (upholds_on d _).mono fun _ _ _ _ => trivial) trivial
  memory _ h := h.step (fun _ => id) (Nat.le_refl _) rfl
  callback _ _ := trivial
  install _ := upholds_install d _
  next _ := trivial
  unattended _ := trivial

end Grew

end Bench

/-- Of a program of which nothing is asked, nothing is to be shown. -/
theorem Program.abides_of_forall {ok : Request → Prop} {A : Option κ → Prop} {F : Failure → Prop}
    {P : α → Prop} (hok : ∀ r, ok r) (hA : ∀ c, A c) (hP : ∀ a, P a) (p : Program κ μ α) :
    p.Abides ok A F P := by
  induction p with
  | done a => exact hP a
  | ask r next ih => exact ⟨hok r, fun x _ => ih x⟩
  | install callback next ih => exact ⟨hA callback, ih⟩
  | getMemory next ih => exact ih
  | setMemory m next ih => exact ih

namespace Scenario

/-- A body gives up no device, and what it copies for later was not there. -/
def Tame (body : Body S R κ μ ε) : Prop :=
  ∀ n d w x v, (body n d).run w = .ok x v → Bench.Grew w v

/-- Bodies that are programs are tame. -/
theorem tame_execute [BlockStore S R] (callbacks : Callbacks κ μ) (nesting : Nat)
    (p : Nat → Program κ μ (Except ε Unit)) :
    Tame (S := S) (R := R) fun n d => (p n).execute callbacks nesting d := by
  intro n d w x v run
  have anything {P : Except Failure Verdict → Prop} (hP : ∀ a, P a) (code : κ) (calls : Nat) :
      (callbacks code calls).Abides (fun _ => True) (fun _ => True) (fun _ => True) P :=
    Program.abides_of_forall (fun _ => trivial) (fun _ => trivial) hP _
  have kept := (Bench.Grew.upkeep w d).execute (P := fun _ => True) (fun _ _ => trivial)
    (fun code calls _ => anything (fun _ => ⟨fun _ _ => trivial, fun _ => trivial⟩) code calls)
    nesting (Program.abides_of_forall (A := fun _ => True) (fun _ => trivial) (fun _ => trivial)
      (fun _ => trivial) (p n))
  exact (kept w x v (.refl w) run).1

end Scenario

end FaultyFlash
