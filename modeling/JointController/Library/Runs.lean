import Mathlib.Data.List.Induction

/-!
# Runs of a partial step function

A system is a step function `step : σ → κ → Option σ`: from a state, a label either leads to one
next state or is disabled.  This file is about finite runs of such a system.

* `exec`: the state a list of labels leads to, with `exec_append`, `exec_map`, `exec_invariant` and
  the induction rule `exec_induction`.
* `Reachable`: the states some run leads to, with the induction rule `Reachable.induction`.
* `Always P`, `Visits P`: every state of a run satisfies `P`, some state does.
* `Meets C`, `Somewhere C`: every step of a run meets `C`, some step does.
* `Throughout R`: every step of a run satisfies `R`, a relation of the states around it.
* `passes`, `finds`, `holdsAlong`: tests of the steps and of the states of a run, which can be
  evaluated.
* `always_of_meets`: an invariant that is kept by the steps meeting `C` holds along every run
  whose steps all meet `C`.
* `throughout_of_meets`: what the steps meeting `C` satisfy from an invariant that they keep.
* `always_iff_meets`: when a step that fails `C` leaves the invariant at once, the run keeps the
  property exactly when all its steps meet `C`.
* `always_iff_meets_from`: the same for all lists of labels.
* `throughout_iff_meets_from`: the same for a relation of the states around each step.
* `visits_iff_somewhere`: when exactly the steps meeting `C` establish `P`, a run visits `P`
  exactly when one of its steps meets `C`.
-/

namespace Runs

variable {σ κ : Type*} {step : σ → κ → Option σ}

/-! ## Runs and reachable states -/

/-- The state that the labels of a list lead to, if none of them is disabled on the way. -/
def exec (step : σ → κ → Option σ) : σ → List κ → Option σ
  | s, [] => some s
  | s, l :: ls => (step s l).bind fun s' => exec step s' ls

@[simp] theorem exec_nil (s : σ) : exec step s [] = some s := rfl

theorem exec_cons (s : σ) (l : κ) (ls : List κ) :
    exec step s (l :: ls) = (step s l).bind fun s' => exec step s' ls := rfl

theorem exec_cons_eq_some {s s' : σ} {l : κ} {ls : List κ} :
    exec step s (l :: ls) = some s' ↔ ∃ t, step s l = some t ∧ exec step t ls = some s' := by
  rw [exec_cons, Option.bind_eq_some_iff]

theorem exec_append (s : σ) (ls ls' : List κ) :
    exec step s (ls ++ ls') = (exec step s ls).bind fun t => exec step t ls' := by
  induction ls generalizing s with
  | nil => rfl
  | cons l ls ih =>
    rw [List.cons_append, exec_cons, exec_cons, Option.bind_assoc]
    congr 1
    funext t
    exact ih t

/-- A system whose steps are those of another one under a projection has its runs. -/
theorem exec_map {τ : Type*} {step' : τ → κ → Option τ} {f : σ → τ}
    (hstep : ∀ s l, (step s l).map f = step' (f s) l) :
    ∀ (ls : List κ) (s : σ), (exec step s ls).map f = exec step' (f s) ls
  | [], _ => rfl
  | l :: ls, s => by
    rw [exec_cons, exec_cons, ← hstep s l]
    cases step s l with
    | none => rfl
    | some t => exact exec_map hstep ls t

/-- A property kept by every step holds at the end of every run that starts in it. -/
theorem exec_invariant {I : σ → Prop}
    (hstep : ∀ s l s', I s → step s l = some s' → I s') :
    ∀ {ls : List κ} {s s' : σ}, I s → exec step s ls = some s' → I s'
  | [], s, s', hs, h => by
    rw [exec_nil, Option.some_inj] at h
    exact h ▸ hs
  | l :: ls, s, s', hs, h => by
    obtain ⟨t, hst, hts⟩ := exec_cons_eq_some.mp h
    exact exec_invariant hstep (hstep s l t hs hst) hts

/-- The states that some run from `s₀` leads to. -/
def Reachable (step : σ → κ → Option σ) (s₀ s : σ) : Prop :=
  ∃ ls, exec step s₀ ls = some s

/-- The induction rule of the reachable states: a property of the first state that every step
from a reachable state keeps holds of all of them. -/
theorem Reachable.induction {s₀ s : σ} {I : σ → Prop} (h : Reachable step s₀ s) (h₀ : I s₀)
    (hstep : ∀ s l s', I s → step s l = some s' → I s') : I s := by
  obtain ⟨ls, hls⟩ := h
  exact exec_invariant hstep h₀ hls

/-- A run that can be evaluated shows a reachable state. -/
theorem reachable_of_run (step : σ → κ → Option σ) (s₀ : σ) (ls : List κ) (P : σ → Bool)
    (h : (exec step s₀ ls).any P = true) :
    ∃ s, exec step s₀ ls = some s ∧ Reachable step s₀ s ∧ P s = true := by
  obtain ⟨s, hs, hP⟩ := (Option.any_eq_true _ _).mp h
  exact ⟨s, hs, ⟨ls, hs⟩, hP⟩

/-- The induction rule of the runs: a property of a run and of the state that it leads to holds of
all runs when it holds of the empty one and every further step keeps it. -/
theorem exec_induction {s₀ : σ} {I : List κ → σ → Prop} (h₀ : I [] s₀)
    (hstep : ∀ ls s l s', exec step s₀ ls = some s → I ls s → step s l = some s' →
      I (ls ++ [l]) s') {ls : List κ} : ∀ {s : σ}, exec step s₀ ls = some s → I ls s := by
  induction ls using List.reverseRecOn with
  | nil =>
    intro s h
    rw [exec_nil, Option.some_inj] at h
    exact h ▸ h₀
  | append_singleton ls l ih =>
    intro s' h
    rw [exec_append, Option.bind_eq_some_iff] at h
    obtain ⟨s, hs, hl⟩ := h
    obtain ⟨t, ht, htnil⟩ := exec_cons_eq_some.mp hl
    obtain rfl := Option.some_inj.mp htnil
    exact hstep ls s l t hs (ih hs) ht

/-! ## Properties along a run -/

/-- Every state visited by the run satisfies `P`, the first one included. -/
def Always (step : σ → κ → Option σ) (P : σ → Prop) : σ → List κ → Prop
  | s, [] => P s
  | s, l :: ls => P s ∧ ∀ s', step s l = some s' → Always step P s' ls

/-- Some state visited by the run satisfies `P`. -/
def Visits (step : σ → κ → Option σ) (P : σ → Prop) : σ → List κ → Prop
  | s, [] => P s
  | s, l :: ls => P s ∨ ∃ s', step s l = some s' ∧ Visits step P s' ls

/-- Every step of the run meets `C`, a condition on the state before the step and its label. -/
def Meets (step : σ → κ → Option σ) (C : σ → κ → Prop) : σ → List κ → Prop
  | _, [] => True
  | s, l :: ls => C s l ∧ ∀ s', step s l = some s' → Meets step C s' ls

/-- Every step of the run satisfies `R`, a relation of the states around it and its label. -/
def Throughout (step : σ → κ → Option σ) (R : σ → κ → σ → Prop) : σ → List κ → Prop
  | _, [] => True
  | s, l :: ls => ∀ s', step s l = some s' → R s l s' ∧ Throughout step R s' ls

/-- Some step of the run meets `C`. -/
def Somewhere (step : σ → κ → Option σ) (C : σ → κ → Prop) : σ → List κ → Prop
  | _, [] => False
  | s, l :: ls => C s l ∨ ∃ s', step s l = some s' ∧ Somewhere step C s' ls

theorem Always.head {P : σ → Prop} {s : σ} {ls : List κ} (h : Always step P s ls) : P s := by
  cases ls with
  | nil => exact h
  | cons l ls => exact h.1

theorem Always.mono {P Q : σ → Prop} (hPQ : ∀ s, P s → Q s) :
    ∀ {ls : List κ} {s : σ}, Always step P s ls → Always step Q s ls
  | [], s, h => hPQ s h
  | _ :: _, s, h => ⟨hPQ s h.1, fun s' hs' => (h.2 s' hs').mono hPQ⟩

/-- The last state of a run satisfies what all its states satisfy. -/
theorem Always.last {P : σ → Prop} :
    ∀ {ls : List κ} {s s' : σ}, Always step P s ls → exec step s ls = some s' → P s'
  | [], s, s', h, hs' => by
    rw [exec_nil, Option.some_inj] at hs'
    exact hs' ▸ h
  | l :: ls, s, s', h, hs' => by
    obtain ⟨t, hst, hts⟩ := exec_cons_eq_some.mp hs'
    exact (h.2 t hst).last hts

/-- An invariant that the steps meeting `C` keep holds along every run whose steps meet `C`. -/
theorem always_of_meets {I : σ → Prop} {C : σ → κ → Prop}
    (hstep : ∀ s l s', I s → C s l → step s l = some s' → I s') :
    ∀ {ls : List κ} {s : σ}, I s → Meets step C s ls → Always step I s ls
  | [], _, hs, _ => hs
  | l :: _, s, hs, h =>
    ⟨hs, fun s' hs' => always_of_meets hstep (hstep s l s' hs h.1 hs') (h.2 s' hs')⟩

/-- A run whose steps meet `C` may go on with another such step. -/
theorem Meets.snoc {C : σ → κ → Prop} {l : κ} :
    ∀ {ls : List κ} {s t : σ}, Meets step C s ls → exec step s ls = some t → C t l →
      Meets step C s (ls ++ [l])
  | [], s, t, _, ht, hl => by
    rw [exec_nil, Option.some_inj] at ht
    exact ⟨ht ▸ hl, fun _ _ => trivial⟩
  | _ :: _, s, t, h, ht, hl => by
    obtain ⟨u, hu, hut⟩ := exec_cons_eq_some.mp ht
    refine ⟨h.1, fun u' hu' => ?_⟩
    obtain rfl : u' = u := Option.some_inj.mp (hu'.symm.trans hu)
    exact (h.2 u' hu').snoc hut hl

/-- Every step of the run passes a test. -/
def passes (step : σ → κ → Option σ) (test : σ → κ → Bool) : σ → List κ → Bool
  | _, [] => true
  | s, l :: ls => test s l && (step s l).all fun s' => passes step test s' ls

/-- A test may rely on an invariant that the steps which pass it keep. -/
theorem meets_of_passes_of_invariant {C : σ → κ → Prop} {I : σ → Prop} {test : σ → κ → Bool}
    (hkept : ∀ s l s', I s → test s l = true → step s l = some s' → I s')
    (htest : ∀ s l, I s → test s l = true → C s l) :
    ∀ {ls : List κ} {s : σ}, I s → passes step test s ls = true → Meets step C s ls
  | [], _, _, _ => trivial
  | l :: ls, s, hs, h => by
    rw [passes, Bool.and_eq_true, Option.all_eq_true] at h
    refine ⟨htest s l hs h.1, fun s' hs' => ?_⟩
    exact meets_of_passes_of_invariant hkept htest (hkept s l s' hs h.1 hs') (h.2 s' hs')

theorem meets_of_passes {C : σ → κ → Prop} {test : σ → κ → Bool}
    (htest : ∀ s l, test s l = true → C s l) {ls : List κ} {s : σ}
    (h : passes step test s ls = true) : Meets step C s ls :=
  meets_of_passes_of_invariant (I := fun _ => True) (fun _ _ _ _ _ _ => trivial)
    (fun s l _ => htest s l) trivial h

/-- Some step of the run passes a test. -/
def finds (step : σ → κ → Option σ) (test : σ → κ → Bool) : σ → List κ → Bool
  | _, [] => false
  | s, l :: ls => test s l || (step s l).any fun s' => finds step test s' ls

/-- No step passes a test for steps that fail `R`, when all steps satisfy it. -/
theorem Throughout.finds_eq_false {R : σ → κ → σ → Prop} {test : σ → κ → Bool}
    (htest : ∀ s l, test s l = true → ∃ s', step s l = some s' ∧ ¬ R s l s') :
    ∀ {ls : List κ} {s : σ}, Throughout step R s ls → finds step test s ls = false
  | [], _, _ => rfl
  | l :: ls, s, h => by
    rw [finds, Bool.or_eq_false_iff]
    constructor
    · cases hl : test s l with
      | false => rfl
      | true =>
        obtain ⟨s', hs', hfails⟩ := htest s l hl
        exact (hfails (h s' hs').1).elim
    · cases hs' : step s l with
      | none => rfl
      | some s' => exact Throughout.finds_eq_false htest (h s' hs').2

/-- Every state of the run passes a test. -/
def holdsAlong (step : σ → κ → Option σ) (test : σ → Bool) : σ → List κ → Bool
  | s, [] => test s
  | s, l :: ls => test s && (step s l).all fun s' => holdsAlong step test s' ls

theorem always_of_holdsAlong {P : σ → Prop} {test : σ → Bool} (htest : ∀ s, test s = true → P s) :
    ∀ {ls : List κ} {s : σ}, holdsAlong step test s ls = true → Always step P s ls
  | [], s, h => htest s h
  | l :: ls, s, h => by
    rw [holdsAlong, Bool.and_eq_true, Option.all_eq_true] at h
    exact ⟨htest s h.1, fun s' hs' => always_of_holdsAlong htest (h.2 s' hs')⟩

/-- When the steps that meet `C` keep an invariant `I`, which gives `P`, and a step from the
invariant to a state with `P` has to meet `C`, the runs along which `P` holds are exactly those
whose steps all meet `C`.  The last label of a run has to be enabled for the second direction,
which is why the run is given with the state it ends in. -/
theorem always_iff_meets {I P : σ → Prop} {C : σ → κ → Prop}
    (hstep : ∀ s l s', I s → C s l → step s l = some s' → I s')
    (hP : ∀ s, I s → P s)
    (hC : ∀ s l s', I s → step s l = some s' → P s' → C s l) :
    ∀ {ls : List κ} {s s' : σ}, I s → exec step s ls = some s' →
      (Always step P s ls ↔ Meets step C s ls)
  | [], s, _, hs, _ => ⟨fun _ => trivial, fun _ => hP s hs⟩
  | l :: ls, s, s', hs, h => by
    obtain ⟨t, hst, hts⟩ := exec_cons_eq_some.mp h
    constructor
    · intro hall
      have hCl : C s l := hC s l t hs hst (hall.2 t hst).head
      refine ⟨hCl, fun u hu => ?_⟩
      have hut : u = t := Option.some_inj.mp (hu.symm.trans hst)
      subst hut
      exact (always_iff_meets hstep hP hC (hstep s l u hs hCl hst) hts).mp (hall.2 u hst)
    · intro hm
      exact (always_of_meets hstep hs hm).mono hP

/-- When a step that meets `A` satisfies `R` from an invariant exactly when it meets `C`, so does a
run whose steps all meet `A`. -/
theorem throughout_iff_meets_within {I : σ → Prop} {A C : σ → κ → Prop} {R : σ → κ → σ → Prop}
    (hinv : ∀ s l s', I s → A s l → step s l = some s' → I s')
    (hiff : ∀ s l s', I s → A s l → step s l = some s' → (R s l s' ↔ C s l)) :
    ∀ {ls : List κ} {s s' : σ}, I s → Meets step A s ls → exec step s ls = some s' →
      (Throughout step R s ls ↔ Meets step C s ls)
  | [], _, _, _, _, _ => Iff.rfl
  | l :: ls, s, s', hs, hA, h => by
    obtain ⟨t, hst, hts⟩ := exec_cons_eq_some.mp h
    have hnext : ∀ u, step s l = some u → u = t := fun u hu =>
      Option.some_inj.mp (hu.symm.trans hst)
    have hstep := hiff s l t hs hA.1 hst
    have ih := throughout_iff_meets_within hinv hiff (hinv s l t hs hA.1 hst) (hA.2 t hst) hts
    constructor
    · intro hall
      refine ⟨hstep.mp (hall t hst).1, fun u hu => ?_⟩
      rw [hnext u hu]
      exact ih.mp (hall t hst).2
    · rintro ⟨hC, hmeets⟩ u hu
      rw [hnext u hu]
      exact ⟨hstep.mpr hC, ih.mpr (hmeets t hst)⟩

/-- The same without the end of the run, when every disabled label meets `C`. -/
theorem always_iff_meets_from {I P : σ → Prop} {C : σ → κ → Prop}
    (hstep : ∀ s l s', I s → C s l → step s l = some s' → I s')
    (hP : ∀ s, I s → P s)
    (hC : ∀ s l s', I s → step s l = some s' → P s' → C s l)
    (hdisabled : ∀ s l, step s l = none → C s l) :
    ∀ {ls : List κ} {s : σ}, I s → (Always step P s ls ↔ Meets step C s ls)
  | [], s, hs => ⟨fun _ => trivial, fun _ => hP s hs⟩
  | l :: ls, s, hs => by
    constructor
    · intro hall
      have hCl : C s l := by
        cases hl : step s l with
        | none => exact hdisabled s l hl
        | some t => exact hC s l t hs hl (hall.2 t hl).head
      exact ⟨hCl, fun t ht => (always_iff_meets_from hstep hP hC hdisabled
        (hstep s l t hs hCl ht)).mp (hall.2 t ht)⟩
    · intro hm
      exact (always_of_meets hstep hs hm).mono hP

/-- When the steps that meet `C` keep an invariant, from which a step satisfies `R` exactly when it
meets `C`, so does a run.  A disabled label has to meet `C`, which makes this a statement about all
lists of labels. -/
theorem throughout_iff_meets_from {I : σ → Prop} {C : σ → κ → Prop} {R : σ → κ → σ → Prop}
    (hinv : ∀ s l s', I s → C s l → step s l = some s' → I s')
    (hiff : ∀ s l s', I s → step s l = some s' → (R s l s' ↔ C s l))
    (hdisabled : ∀ s l, step s l = none → C s l) :
    ∀ {ls : List κ} {s : σ}, I s → (Throughout step R s ls ↔ Meets step C s ls)
  | [], _, _ => Iff.rfl
  | l :: ls, s, hs => by
    cases hstep : step s l with
    | none =>
      have hnone {s' : σ} (h : step s l = some s') : False :=
        Option.some_ne_none s' (h.symm.trans hstep)
      exact ⟨fun _ => ⟨hdisabled s l hstep, fun _ h => (hnone h).elim⟩, fun _ _ h => (hnone h).elim⟩
    | some t =>
      have hnext : ∀ u, step s l = some u → u = t := fun u hu =>
        Option.some_inj.mp (hu.symm.trans hstep)
      have hl := hiff s l t hs hstep
      constructor
      · intro hall
        have hC := hl.mp (hall t hstep).1
        refine ⟨hC, fun u hu => ?_⟩
        rw [hnext u hu]
        exact (throughout_iff_meets_from hinv hiff hdisabled (hinv s l t hs hC hstep)).mp
          (hall t hstep).2
      · rintro ⟨hC, hmeets⟩ u hu
        rw [hnext u hu]
        exact ⟨hl.mpr hC, (throughout_iff_meets_from hinv hiff hdisabled
          (hinv s l t hs hC hstep)).mpr (hmeets t hstep)⟩

theorem meets_of_forall {C : σ → κ → Prop} (h : ∀ s l, C s l) :
    ∀ {ls : List κ} {s : σ}, Meets step C s ls
  | [], _ => trivial
  | l :: _, s => ⟨h s l, fun _ _ => meets_of_forall h⟩

/-- When a step satisfies `R` exactly when it meets `C`, so does a run. -/
theorem throughout_iff_meets {R : σ → κ → σ → Prop} {C : σ → κ → Prop}
    (hstep : ∀ s l s', step s l = some s' → (R s l s' ↔ C s l)) {ls : List κ} {s s' : σ}
    (h : exec step s ls = some s') : Throughout step R s ls ↔ Meets step C s ls :=
  throughout_iff_meets_within (I := fun _ => True) (A := fun _ _ => True)
    (fun _ _ _ _ _ _ => trivial)
    (fun s l s' _ _ => hstep s l s') trivial (meets_of_forall fun _ _ => trivial) h

/-- When the steps that meet `C` keep an invariant `I` and satisfy `R` from it, every step of a run
whose steps all meet `C` satisfies `R`. -/
theorem throughout_of_meets {I : σ → Prop} {C : σ → κ → Prop} {R : σ → κ → σ → Prop}
    (hstep : ∀ s l s', I s → C s l → step s l = some s' → I s')
    (hR : ∀ s l s', I s → C s l → step s l = some s' → R s l s') :
    ∀ {ls : List κ} {s : σ}, I s → Meets step C s ls → Throughout step R s ls
  | [], _, _, _ => trivial
  | l :: _, s, hs, h => fun s' hs' =>
    ⟨hR s l s' hs h.1 hs', throughout_of_meets hstep hR (hstep s l s' hs h.1 hs') (h.2 s' hs')⟩

/-- An invariant that every step keeps carries what each step satisfies from it along every run. -/
theorem throughout_of_invariant {I : σ → Prop} {R : σ → κ → σ → Prop}
    (hstep : ∀ s l s', I s → step s l = some s' → I s')
    (hR : ∀ s l s', I s → step s l = some s' → R s l s') :
    ∀ {ls : List κ} {s : σ}, I s → Throughout step R s ls
  | [], _, _ => trivial
  | l :: _, s, hs => fun s' hs' =>
    ⟨hR s l s' hs hs', throughout_of_invariant hstep hR (hstep s l s' hs hs')⟩

/-- The steps of the rest of a run satisfy what all its steps satisfy. -/
theorem Throughout.of_append {R : σ → κ → σ → Prop} {ls' : List κ} :
    ∀ {ls : List κ} {s t : σ}, Throughout step R s (ls ++ ls') → exec step s ls = some t →
      Throughout step R t ls'
  | [], s, t, h, ht => by
    rw [exec_nil, Option.some_inj] at ht
    exact ht ▸ h
  | _ :: _, s, t, h, ht => by
    obtain ⟨u, hu, hut⟩ := exec_cons_eq_some.mp ht
    exact Throughout.of_append (h u hu).2 hut

/-- The last step of a run satisfies what all its steps satisfy. -/
theorem Throughout.last {R : σ → κ → σ → Prop} {l : κ} {ls : List κ} {s t t' : σ}
    (h : Throughout step R s (ls ++ [l])) (ht : exec step s ls = some t)
    (ht' : step t l = some t') : R t l t' :=
  (h.of_append ht t' ht').1

/-- A run all of whose states are outside `P` does not visit it. -/
theorem Always.not_visits {P : σ → Prop} :
    ∀ {ls : List κ} {s : σ}, Always step (fun s => ¬ P s) s ls → ¬ Visits step P s ls
  | [], _, h, hvis => h hvis
  | _ :: _, _, h, hvis =>
    hvis.elim h.1 fun ⟨s', hs', hvis'⟩ => (h.2 s' hs').not_visits hvis'

theorem Visits.head {P : σ → Prop} {s : σ} {ls : List κ} (h : P s) : Visits step P s ls := by
  cases ls with
  | nil => exact h
  | cons l ls => exact Or.inl h

/-- When, from the states of an invariant outside `P`, exactly the steps that meet `C` lead into
`P`, a run of allowed steps that starts outside `P` visits it exactly when one of its steps meets
`C`. -/
theorem visits_iff_somewhere {I P : σ → Prop} {A C : σ → κ → Prop}
    (hinv : ∀ s l s', I s → ¬ P s → A s l → step s l = some s' → I s')
    (hPC : ∀ s l s', I s → ¬ P s → A s l → step s l = some s' → (P s' ↔ C s l)) :
    ∀ {ls : List κ} {s s' : σ}, I s → ¬ P s → Meets step A s ls →
      exec step s ls = some s' → (Visits step P s ls ↔ Somewhere step C s ls)
  | [], s, s', _, hnP, _, _ => ⟨fun h => (hnP h).elim, fun h => h.elim⟩
  | l :: ls, s, s', hs, hnP, hA, h => by
    obtain ⟨t, hst, hts⟩ := exec_cons_eq_some.mp h
    have hiff := hPC s l t hs hnP hA.1 hst
    by_cases hPt : P t
    · exact ⟨fun _ => Or.inl (hiff.mp hPt), fun _ => Or.inr ⟨t, hst, Visits.head hPt⟩⟩
    · have ih := visits_iff_somewhere hinv hPC (hinv s l t hs hnP hA.1 hst) hPt (hA.2 t hst) hts
      constructor
      · rintro (hPs | ⟨u, hu, hvis⟩)
        · exact (hnP hPs).elim
        · have hut : u = t := Option.some_inj.mp (hu.symm.trans hst)
          subst hut
          exact Or.inr ⟨u, hu, ih.mp hvis⟩
      · rintro (hCs | ⟨u, hu, hsome⟩)
        · exact (hPt (hiff.mpr hCs)).elim
        · have hut : u = t := Option.some_inj.mp (hu.symm.trans hst)
          subst hut
          exact Or.inr ⟨u, hu, ih.mpr hsome⟩

end Runs
