import JointController.Library.Runs

/-!
# Observers of a run

An observer follows the runs of a system and notes what a property needs to know about their past.
It sees the state before a step and the label, and the system does not see the observer.

* `observed step next`: the system with an observer, with `observed_eq_some`.
* `exec_observed`, `exists_exec_observed`: the observed runs are the runs of the system.
-/

namespace Runs

variable {σ κ μ : Type*} {step : σ → κ → Option σ} {next : σ → κ → μ → μ}

/-- The system with an observer. -/
def observed (step : σ → κ → Option σ) (next : σ → κ → μ → μ) (s : σ × μ) (l : κ) :
    Option (σ × μ) :=
  (step s.1 l).map fun s' => (s', next s.1 l s.2)

theorem observed_eq_some {s s' : σ × μ} {l : κ} :
    observed step next s l = some s' ↔ step s.1 l = some s'.1 ∧ s'.2 = next s.1 l s.2 := by
  unfold observed
  rw [Option.map_eq_some_iff]
  constructor
  · rintro ⟨t, ht, rfl⟩
    exact ⟨ht, rfl⟩
  · rintro ⟨hstep, hnext⟩
    exact ⟨s'.1, hstep, Prod.ext rfl hnext.symm⟩

/-- The observer does not disturb the runs. -/
theorem exec_observed (ls : List κ) : ∀ (s : σ) (m : μ),
    exec step s ls = (exec (observed step next) (s, m) ls).map Prod.fst := by
  induction ls with
  | nil => exact fun _ _ => rfl
  | cons l ls ih =>
    intro s m
    rw [exec_cons, exec_cons]
    unfold observed
    cases h : step s l with
    | none => rfl
    | some t => exact ih t (next s l m)

theorem exists_exec_observed {ls : List κ} {s s' : σ} (m : μ) (h : exec step s ls = some s') :
    ∃ m', exec (observed step next) (s, m) ls = some (s', m') := by
  rw [exec_observed ls s m, Option.map_eq_some_iff] at h
  obtain ⟨t, ht, rfl⟩ := h
  exact ⟨t.2, ht⟩

end Runs
