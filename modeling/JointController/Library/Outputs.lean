import JointController.Library.Runs

/-!
# What a run puts out

A step may put out something: messages, notes, answers.  The outputs of a run are those of its
steps, the oldest first.

* `outputs step out`: the outputs of a run, up to the first label that is not enabled.
* `outputs_append`: the outputs of two runs behind one another.
* `outputs_invariant`: an invariant of the outputs so far and of the state.
* `outputs_balance`: what becomes owed is put out in order, except for what is still pending.
-/

namespace Runs

variable {σ κ ω : Type*} {step : σ → κ → Option σ} {out : σ → κ → List ω}

/-- The outputs of a run. -/
def outputs (step : σ → κ → Option σ) (out : σ → κ → List ω) : σ → List κ → List ω
  | _, [] => []
  | s, l :: ls => (step s l).elim [] fun s' => out s l ++ outputs step out s' ls

@[simp] theorem outputs_nil (s : σ) : outputs step out s [] = [] := rfl

theorem outputs_cons {s s' : σ} {l : κ} (h : step s l = some s') (ls : List κ) :
    outputs step out s (l :: ls) = out s l ++ outputs step out s' ls := by
  rw [outputs, h]
  rfl

theorem outputs_stuck {s : σ} {l : κ} (h : step s l = none) (ls : List κ) :
    outputs step out s (l :: ls) = [] := by
  rw [outputs, h]
  rfl

/-- The outputs of two runs behind one another. -/
theorem outputs_append {ls ls' : List κ} {s s' : σ} (h : exec step s ls = some s') :
    outputs step out s (ls ++ ls') = outputs step out s ls ++ outputs step out s' ls' := by
  induction ls generalizing s with
  | nil =>
    obtain rfl := Option.some_inj.mp h
    rfl
  | cons l ls ih =>
    obtain ⟨t, hst, hts⟩ := exec_cons_eq_some.mp h
    rw [List.cons_append, outputs_cons hst, outputs_cons hst, ih hts, List.append_assoc]

/-- An invariant of the outputs so far and of the state, along a run whose states satisfy `P`. -/
theorem outputs_invariant {P : σ → Prop} {I : List ω → σ → Prop} {Q : List ω → Prop}
    (hstep : ∀ os s l s', P s → I os s → step s l = some s' → I (os ++ out s l) s')
    (hQ : ∀ os s, I os s → Q os) {ls : List κ} :
    ∀ {os : List ω} {s : σ}, I os s → Always step P s ls → Q (os ++ outputs step out s ls) := by
  induction ls with
  | nil =>
    intro os s hI _
    rw [outputs_nil, List.append_nil]
    exact hQ os s hI
  | cons l ls ih =>
    intro os s hI hP
    cases hl : step s l with
    | none =>
      rw [outputs_stuck hl, List.append_nil]
      exact hQ os s hI
    | some s' =>
      rw [outputs_cons hl, ← List.append_assoc]
      exact ih (hstep os s l s' hP.head hI hl) (hP.2 s' hl)

/-- What reads lists of outputs piece by piece reads the outputs of a run. -/
theorem outputs_read {α : Type*} {read : List ω → List α} (hnil : read [] = [])
    (happend : ∀ os os', read (os ++ os') = read os ++ read os') {ls : List κ} :
    ∀ {s : σ}, outputs step (fun s l => read (out s l)) s ls = read (outputs step out s ls) := by
  induction ls with
  | nil =>
    intro s
    exact hnil.symm
  | cons l ls ih =>
    intro s
    cases hl : step s l with
    | none => rw [outputs_stuck hl, outputs_stuck hl, hnil]
    | some s' => rw [outputs_cons hl, outputs_cons hl, happend, ih]

/-- The balance of a run: what is pending at first and what becomes owed is put out in order, except
for what is still pending. -/
theorem outputs_balance {I : σ → Prop} {C : σ → κ → Prop} {owed : σ → κ → List ω}
    {pending : σ → List ω} (hinv : ∀ s l s', I s → C s l → step s l = some s' → I s')
    (hstep : ∀ s l s', I s → C s l → step s l = some s' →
      pending s ++ owed s l = out s l ++ pending s') {ls : List κ} :
    ∀ {s s' : σ}, I s → Meets step C s ls → exec step s ls = some s' →
      pending s ++ outputs step owed s ls = outputs step out s ls ++ pending s' := by
  induction ls with
  | nil =>
    intro s s' _ _ h
    obtain rfl := Option.some_inj.mp h
    rw [outputs_nil, outputs_nil, List.append_nil, List.nil_append]
  | cons l ls ih =>
    intro s s' hI hC h
    obtain ⟨t, hst, hts⟩ := exec_cons_eq_some.mp h
    rw [outputs_cons hst, outputs_cons hst, ← List.append_assoc, hstep s l t hI hC.1 hst,
      List.append_assoc, ih (hinv s l t hI hC.1 hst) (hC.2 t hst) hts, List.append_assoc]

/-- The states of every run satisfy a property that all states have. -/
theorem always_of_forall {P : σ → Prop} (hP : ∀ s, P s) :
    ∀ (ls : List κ) (s : σ), Always step P s ls
  | [], s => hP s
  | _ :: ls, s => ⟨hP s, fun s' _ => always_of_forall hP ls s'⟩

end Runs
