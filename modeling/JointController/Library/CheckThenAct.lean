import JointController.Library.Runs

/-!
# Checks that have to last until the act

Threads that check a condition of a shared state, and act on it in a later step.  The check is worth
something when the condition lasts in between.

* `Guarded between guard`: the condition holds for each thread that is between its check and its
  act.
* `throughout_guarded`: along every run whose steps leave it alone in between, each act finds its
  condition.
-/

namespace CheckThenAct

variable {σ κ τ : Type*} {step : σ → κ → Option σ} {between guard : σ → τ → Prop}

/-- The condition of each thread that is between its check and its act. -/
def Guarded (between guard : σ → τ → Prop) (s : σ) : Prop := ∀ t, between s t → guard s t

/-- A thread goes in between by a step that establishes its condition. -/
def Checked (step : σ → κ → Option σ) (between guard : σ → τ → Prop) : Prop :=
  ∀ s l s' t, step s l = some s' → ¬ between s t → between s' t → guard s' t

/-- A step that leaves alone the conditions of the threads that stay in between. -/
def Spares (step : σ → κ → Option σ) (between guard : σ → τ → Prop) (C : σ → κ → Prop) : Prop :=
  ∀ s l s' t, step s l = some s' → C s l → between s t → between s' t → guard s t → guard s' t

/-- The step lemma. -/
theorem Guarded.next {C : σ → κ → Prop} (hcheck : Checked step between guard)
    (hspares : Spares step between guard C) {s s' : σ} {l : κ} (h : Guarded between guard s)
    (hC : C s l) (hstep : step s l = some s') : Guarded between guard s' := by
  intro t ht'
  by_cases ht : between s t
  · exact hspares s l s' t hstep hC ht ht' (h t ht)
  · exact hcheck s l s' t hstep ht ht'

/-- So each act finds its condition. -/
theorem throughout_guarded {C : σ → κ → Prop} {acts : σ → κ → τ → Prop}
    (hcheck : Checked step between guard) (hspares : Spares step between guard C)
    (hacts : ∀ s l t, acts s l t → between s t) {s : σ} {ls : List κ}
    (h : Guarded between guard s) (hls : Runs.Meets step C s ls) :
    Runs.Throughout step (fun s l _ => ∀ t, acts s l t → guard s t) s ls :=
  Runs.throughout_of_meets (fun _ _ _ hs hC hstep => hs.next hcheck hspares hC hstep)
    (fun s l _ hs _ _ t ht => hs t (hacts s l t ht)) h hls

end CheckThenAct
