import Mathlib.Logic.Function.Basic

/-!
# A critical section behind a flag

Threads with a local state each, and one flag that they share.  The states that satisfy `inside`
are those in the critical section.  The section is exclusive when at most one thread is inside and
the flag is set exactly while one is.

* `Exclusive`: the invariant.
* `Exclusive.enter`, `Exclusive.leave`, `Exclusive.stay`: a thread that finds the flag clear may go
  in, the thread inside may leave and clear the flag, and a thread may move on either side.
* `Exclusive.flag_clear_of_enter`: a thread that has gone in without breaking the exclusion has
  found the flag clear.
-/

namespace CriticalSection

variable {ι α : Type*} {inside : α → Prop} {threads : ι → α} {flag : Bool}

/-- At most one thread is inside. -/
def AtMostOne (inside : α → Prop) (threads : ι → α) : Prop :=
  ∀ i j, inside (threads i) → inside (threads j) → i = j

/-- At most one thread is inside, and the flag is set exactly while one is. -/
structure Exclusive (inside : α → Prop) (threads : ι → α) (flag : Bool) : Prop where
  unique : AtMostOne inside threads
  flagged : flag = true ↔ ∃ i, inside (threads i)

theorem Exclusive.empty (h : ∀ i, ¬ inside (threads i)) : Exclusive inside threads false :=
  ⟨fun i _ hi => absurd hi (h i), fun hf => (nomatch hf), fun ⟨i, hi⟩ => absurd hi (h i)⟩

theorem Exclusive.not_inside (h : Exclusive inside threads false) (i : ι) :
    ¬ inside (threads i) := fun hi => nomatch h.flagged.mpr ⟨i, hi⟩

variable [DecidableEq ι]

/-- A thread other than the one that moves stays where it is. -/
theorem inside_update {i j : ι} {a : α} (h : inside (Function.update threads i a j)) :
    j = i ∧ inside a ∨ j ≠ i ∧ inside (threads j) := by
  by_cases hj : j = i
  · subst hj
    rw [Function.update_self] at h
    exact .inl ⟨rfl, h⟩
  · rw [Function.update_of_ne hj] at h
    exact .inr ⟨hj, h⟩

/-- A thread that finds the flag clear goes in and sets it. -/
theorem Exclusive.enter (h : Exclusive inside threads false) (i : ι) {a : α} (ha : inside a) :
    Exclusive inside (Function.update threads i a) true := by
  refine ⟨fun j k hj hk => ?_, fun _ => ⟨i, by rwa [Function.update_self]⟩, fun _ => rfl⟩
  rcases inside_update hj with ⟨rfl, -⟩ | ⟨-, hj⟩
  · rcases inside_update hk with ⟨rfl, -⟩ | ⟨-, hk⟩
    · rfl
    · exact absurd hk (h.not_inside k)
  · exact absurd hj (h.not_inside j)

/-- The thread inside leaves and clears the flag. -/
theorem Exclusive.leave (h : Exclusive inside threads flag) {i : ι} (hi : inside (threads i))
    {a : α} (ha : ¬ inside a) : Exclusive inside (Function.update threads i a) false := by
  refine .empty fun j hj => ?_
  rcases inside_update hj with ⟨-, hin⟩ | ⟨hne, hin⟩
  · exact ha hin
  · exact hne (h.unique j i hin hi)

/-- A thread moves on without crossing the border. -/
theorem Exclusive.stay (h : Exclusive inside threads flag) {i : ι} {a : α}
    (ha : inside a ↔ inside (threads i)) :
    Exclusive inside (Function.update threads i a) flag := by
  have hsame : ∀ j, inside (Function.update threads i a j) ↔ inside (threads j) := by
    intro j
    by_cases hj : j = i
    · rw [hj, Function.update_self, ha]
    · rw [Function.update_of_ne hj]
  refine ⟨fun j k hj hk => h.unique j k ((hsame j).mp hj) ((hsame k).mp hk), ?_⟩
  rw [h.flagged]
  exact exists_congr fun j => (hsame j).symm

/-- A thread that has gone in next to no other has found the flag clear. -/
theorem Exclusive.flag_clear_of_enter (h : Exclusive inside threads flag) {i : ι}
    (hi : ¬ inside (threads i)) {a : α} (ha : inside a)
    (hafter : AtMostOne inside (Function.update threads i a)) : flag = false := by
  refine Bool.eq_false_iff.mpr fun hflag => ?_
  obtain ⟨j, hj⟩ := h.flagged.mp hflag
  have hne : j ≠ i := fun heq => hi (heq ▸ hj)
  have hij : i = j :=
    hafter i j (by rwa [Function.update_self]) (by rwa [Function.update_of_ne hne])
  exact hne hij.symm

end CriticalSection
