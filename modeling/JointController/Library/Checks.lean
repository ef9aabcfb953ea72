import Mathlib.Data.List.Basic

/-!
# Checks that fail with a reason

A check is an `Except ε Unit`: it passes, or it fails with a reason.  Validators are sequences of
checks, loops of checks and chains of guards.

* `Checks.refuse`: the check of one condition, with `refuse_eq_ok`.
* `Checks.bind_eq_ok`: a sequence passes when both parts do, with `Checks.bind_eq_ok_iff_exists` for
  parts that return values.
* `Checks.forM_eq_ok`: a loop passes when every iteration does.
* `Checks.guard_eq_ok`: a guard in front of a check.
* `Checks.mapError_eq_ok`: a check with its reason rewritten.
* `Checks.reason`: the reason of a check that fails with a text.
-/

namespace Checks

variable {ε α : Type*}

/-- The check that fails when `c` holds. -/
def refuse (c : Prop) [Decidable c] (e : ε) : Except ε Unit := if c then .error e else .ok ()

@[simp] theorem refuse_eq_ok {c : Prop} [Decidable c] {e : ε} : refuse c e = .ok () ↔ ¬ c := by
  by_cases h : c
  · simp [refuse, h]
  · simp [refuse, h]

/-- The reason of a check that fails. -/
def reason : Except String Unit → String
  | .ok _ => ""
  | .error e => e

theorem bind_eq_ok_iff_exists.{v} {δ κ : Type v} {x : Except ε δ} {f : δ → Except ε κ} {b : κ} :
    (x >>= f) = .ok b ↔ ∃ a, x = .ok a ∧ f a = .ok b := by
  cases x with
  | ok a => simp [bind, Except.bind]
  | error e => simp [bind, Except.bind]

@[simp] theorem bind_eq_ok {x : Except ε Unit} {y : Unit → Except ε Unit} :
    (x >>= y) = .ok () ↔ x = .ok () ∧ y () = .ok () :=
  bind_eq_ok_iff_exists.trans ⟨fun ⟨_, h⟩ => h, fun h => ⟨(), h⟩⟩

@[simp] theorem guard_eq_ok {c : Prop} [Decidable c] {e : ε} {x : Except ε Unit} :
    (if c then .error e else x) = .ok () ↔ ¬ c ∧ x = .ok () := by
  by_cases h : c
  · simp [h]
  · simp [h]

@[simp] theorem mapError_eq_ok {δ : Type*} {f : ε → δ} {x : Except ε Unit} :
    x.mapError f = .ok () ↔ x = .ok () := by
  cases x with
  | ok u => simp [Except.mapError]
  | error e => simp [Except.mapError]

theorem forM_eq_ok {f : α → Except ε Unit} {l : List α} :
    l.forM f = .ok () ↔ ∀ a ∈ l, f a = .ok () := by
  induction l with
  | nil => simp [pure, Except.pure]
  | cons a l ih =>
    have hcons : (a :: l).forM f = (f a >>= fun _ => l.forM f) := rfl
    rw [hcons, bind_eq_ok, ih, List.forall_mem_cons]

end Checks
