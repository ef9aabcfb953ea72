import Mathlib.Logic.Function.Basic
import Mathlib.Data.List.Basic
import Mathlib.Order.Nat

/-!
# Numbered changes and their announcements

A shared value changes under a lock, and each change is announced after the lock has been released,
by the thread that made it.  The changes are numbered from 1 on, and the number 0 stands for the
first value.  A thread owes the announcements that it has not made yet.

* `Announced`: every change is announced or owed by some thread.
* `Announced.change`, `Announced.announce`, `Announced.stay`: what a thread may do.
* `Announced.head`: when the announcements were made in the order of the changes and no thread owes
  one, the last announcement is that of the last change.
-/

namespace Announcements

variable {ι : Type*} {latest : ℕ} {owed : ι → List ℕ} {announced : List ℕ}

/-- Every change up to the latest is announced or owed, and nothing else is.  The announcements
stand with the newest first. -/
structure Announced (latest : ℕ) (owed : ι → List ℕ) (announced : List ℕ) : Prop where
  covered : ∀ k ≤ latest, k ∈ announced ∨ ∃ i, k ∈ owed i
  announced_le : ∀ k ∈ announced, k ≤ latest
  owed_le : ∀ i, ∀ k ∈ owed i, k ≤ latest

theorem Announced.start (h : ∀ i, owed i = []) : Announced 0 owed [0] where
  covered := fun k hk => .inl (by rw [Nat.le_zero.mp hk]; exact List.mem_cons_self)
  announced_le := fun k hk => (List.mem_singleton.mp hk).le
  owed_le := fun i k hk => by
    rw [h i] at hk
    exact nomatch hk

/-- When nothing is owed and the announcements were made in order, the last one is the latest. -/
theorem Announced.head (h : Announced latest owed announced) (howed : ∀ i, owed i = [])
    (hordered : announced.Pairwise fun newer older => older < newer) :
    announced.head? = some latest := by
  have hmem : latest ∈ announced := by
    rcases h.covered latest le_rfl with hmem | ⟨i, hi⟩
    · exact hmem
    · rw [howed i] at hi
      exact nomatch hi
  cases announced with
  | nil => exact nomatch hmem
  | cons k older =>
    rcases List.mem_cons.mp hmem with rfl | hlater
    · rfl
    · have hlt := (List.pairwise_cons.mp hordered).1 latest hlater
      exact absurd (h.announced_le k List.mem_cons_self) (Nat.not_le.mpr hlt)

variable [DecidableEq ι] {i : ι}

/-- A thread goes on without announcing. -/
theorem Announced.stay (h : Announced latest owed announced) {ks : List ℕ} (hks : ks = owed i) :
    Announced latest (Function.update owed i ks) announced := by
  rw [hks, Function.update_eq_self]
  exact h

/-- A thread makes the first announcement that it owes. -/
theorem Announced.announce (h : Announced latest owed announced) {k : ℕ} {ks : List ℕ}
    (hk : owed i = k :: ks) :
    Announced latest (Function.update owed i ks) (k :: announced) := by
  have hle : k ≤ latest := h.owed_le i k (by rw [hk]; exact List.mem_cons_self)
  refine ⟨fun n hn => ?_, fun n hn => ?_, fun j n hn => ?_⟩
  · rcases h.covered n hn with hdone | ⟨j, hj⟩
    · exact .inl (List.mem_cons_of_mem k hdone)
    · by_cases hij : j = i
      · subst hij
        rw [hk] at hj
        rcases List.mem_cons.mp hj with rfl | hrest
        · exact .inl List.mem_cons_self
        · exact .inr ⟨j, by rwa [Function.update_self]⟩
      · exact .inr ⟨j, by rwa [Function.update_of_ne hij]⟩
  · rcases List.mem_cons.mp hn with rfl | hn
    · exact hle
    · exact h.announced_le n hn
  · by_cases hij : j = i
    · subst hij
      rw [Function.update_self] at hn
      exact h.owed_le j n (by rw [hk]; exact List.mem_cons_of_mem k hn)
    · rw [Function.update_of_ne hij] at hn
      exact h.owed_le j n hn

/-- A thread that owes nothing makes a change. -/
theorem Announced.change (h : Announced latest owed announced) (hi : owed i = []) :
    Announced (latest + 1) (Function.update owed i [latest + 1]) announced := by
  refine ⟨fun n hn => ?_, fun n hn => (h.announced_le n hn).trans (Nat.le_succ _), fun j n hn => ?_⟩
  · rcases Nat.lt_or_eq_of_le hn with hlt | rfl
    · rcases h.covered n (Nat.lt_succ_iff.mp hlt) with hdone | ⟨j, hj⟩
      · exact .inl hdone
      · have hij : j ≠ i := by
          rintro rfl
          rw [hi] at hj
          exact nomatch hj
        exact .inr ⟨j, by rwa [Function.update_of_ne hij]⟩
    · exact .inr ⟨i, by rw [Function.update_self]; exact List.mem_singleton_self _⟩
  · by_cases hij : j = i
    · subst hij
      rw [Function.update_self] at hn
      exact (List.mem_singleton.mp hn).le
    · rw [Function.update_of_ne hij] at hn
      exact (h.owed_le j n hn).trans (Nat.le_succ _)

end Announcements
