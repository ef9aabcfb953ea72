import Mathlib.Data.List.Basic
import Mathlib.Data.List.Count
import Mathlib.Tactic.Ring

/-!
# Bounded retries with a pause after each

Something is retried on request, at most `max` times, and after each attempt the next `pause` ticks
are idle.  A tick that is not idle and makes no attempt is a refusal.

* `Retries.tick`, `Retries.outcomes`: one tick, and the outcomes of a list of ticks.
* `count_tried_le`: there are at most as many attempts as are left.
* `tried_spacing`: two attempts are more than `pause` ticks apart.
* `refused_final_iff`: the refusals come only after the last attempt exactly when every tick at
  which an attempt is due asks for it.
-/

/-- A budget of attempts, `used` of which are spent, and the ticks that are still idle. -/
structure Retries where
  max : ℕ
  pause : ℕ
  used : ℕ
  waiting : ℕ

namespace Retries

/-- What a tick does. -/
inductive Outcome where
  | paused
  | tried
  | refused
  deriving DecidableEq

open Outcome

variable (r : Retries)

/-- A tick, which may be asked to try. -/
def tick (asked : Bool) : Outcome × Retries :=
  if 0 < r.waiting then (paused, { r with waiting := r.waiting - 1 })
  else if asked = true ∧ r.used < r.max then
    (tried, { r with used := r.used + 1, waiting := r.pause })
  else (refused, r)

/-- The outcomes of ticks one after the other. -/
def outcomes : Retries → List Bool → List Outcome
  | _, [] => []
  | r, asked :: rest => (r.tick asked).1 :: outcomes (r.tick asked).2 rest

@[simp] theorem outcomes_nil : r.outcomes [] = [] := rfl

@[simp] theorem outcomes_cons (asked : Bool) (rest : List Bool) :
    r.outcomes (asked :: rest) = (r.tick asked).1 :: (r.tick asked).2.outcomes rest := rfl

theorem length_outcomes (asked : List Bool) : (r.outcomes asked).length = asked.length := by
  induction asked generalizing r with
  | nil => rfl
  | cons a rest ih => simp [ih]

theorem tick_waiting (h : 0 < r.waiting) (asked : Bool) :
    r.tick asked = (paused, { r with waiting := r.waiting - 1 }) := if_pos h

theorem tick_tried (h : r.waiting = 0) (hleft : r.used < r.max) :
    r.tick true = (tried, { r with used := r.used + 1, waiting := r.pause }) := by
  rw [tick, if_neg (by omega), if_pos ⟨rfl, hleft⟩]

theorem tick_refused {asked : Bool} (h : r.waiting = 0) (hno : ¬ (asked = true ∧ r.used < r.max)) :
    r.tick asked = (refused, r) := by
  rw [tick, if_neg (by omega), if_neg hno]

/-- The three things that a tick can do. -/
theorem tick_cases (asked : Bool) :
    (0 < r.waiting ∧ r.tick asked = (paused, { r with waiting := r.waiting - 1 })) ∨
    (r.waiting = 0 ∧ asked = true ∧ r.used < r.max ∧
      r.tick asked = (tried, { r with used := r.used + 1, waiting := r.pause })) ∨
    (r.waiting = 0 ∧ ¬ (asked = true ∧ r.used < r.max) ∧ r.tick asked = (refused, r)) := by
  by_cases hwaiting : 0 < r.waiting
  · exact Or.inl ⟨hwaiting, r.tick_waiting hwaiting asked⟩
  · have h0 : r.waiting = 0 := by omega
    by_cases htry : asked = true ∧ r.used < r.max
    · obtain ⟨rfl, hleft⟩ := htry
      exact Or.inr (Or.inl ⟨h0, rfl, hleft, r.tick_tried h0 hleft⟩)
    · exact Or.inr (Or.inr ⟨h0, htry, r.tick_refused h0 htry⟩)

/-! ## Number and spacing of the attempts -/

/-- There are at most as many attempts as are left. -/
theorem count_tried_le (asked : List Bool) : (r.outcomes asked).count tried ≤ r.max - r.used := by
  induction asked generalizing r with
  | nil => simp
  | cons a rest ih =>
    obtain ⟨-, htick⟩ | ⟨-, -, hleft, htick⟩ | ⟨-, -, htick⟩ := r.tick_cases a
    · have h := ih { r with waiting := r.waiting - 1 }
      simpa [htick] using h
    · have h := ih { r with used := r.used + 1, waiting := r.pause }
      simp only [outcomes_cons, htick, List.count_cons_self]
      have hused : r.max - (r.used + 1) + 1 = r.max - r.used := by omega
      rw [← hused]
      exact Nat.succ_le_succ h
    · simpa [htick] using ih r

/-- The idle ticks come first. -/
theorem waiting_le_of_tried {asked : List Bool} {j : ℕ} (h : (r.outcomes asked)[j]? = some tried) :
    r.waiting ≤ j := by
  induction asked generalizing r j with
  | nil => simp at h
  | cons a rest ih =>
    by_cases hwaiting : 0 < r.waiting
    · rw [outcomes_cons, r.tick_waiting hwaiting] at h
      cases j with
      | zero => cases h
      | succ j =>
        have hle : r.waiting - 1 ≤ j := ih { r with waiting := r.waiting - 1 } h
        omega
    · omega

/-- Two attempts are more than a pause apart. -/
theorem tried_spacing {asked : List Bool} {i j : ℕ} (hij : i < j)
    (hi : (r.outcomes asked)[i]? = some tried) (hj : (r.outcomes asked)[j]? = some tried) :
    i + r.pause < j := by
  induction asked generalizing r i j with
  | nil => simp at hi
  | cons a rest ih =>
    obtain ⟨j, rfl⟩ : ∃ k, j = k + 1 := ⟨j - 1, by omega⟩
    rw [outcomes_cons, List.getElem?_cons_succ] at hj
    cases i with
    | zero =>
      -- the first attempt starts the pause that the rest of the ticks begin with
      obtain ⟨-, htick⟩ | ⟨-, -, -, htick⟩ | ⟨-, -, htick⟩ := r.tick_cases a
      · rw [outcomes_cons, htick] at hi
        cases hi
      · rw [htick] at hj
        have hle : r.pause ≤ j := waiting_le_of_tried _ hj
        omega
      · rw [outcomes_cons, htick] at hi
        cases hi
    | succ i =>
      rw [outcomes_cons, List.getElem?_cons_succ] at hi
      have hpause : (r.tick a).2.pause = r.pause := by
        obtain ⟨-, htick⟩ | ⟨-, -, -, htick⟩ | ⟨-, -, htick⟩ := r.tick_cases a <;> rw [htick]
      have hlt := ih (r.tick a).2 (by omega) hi hj
      omega

/-! ## Refusals -/

/-- Every refusal comes when all attempts are used up. -/
def RefusedFinal (asked : List Bool) : Prop :=
  ∀ i, (r.outcomes asked)[i]? = some refused →
    r.used + ((r.outcomes asked).take i).count tried = r.max

/-- Every tick at which an attempt is due asks for it.  With all of them made, the attempts are due
when the first pause is over, and then every `pause + 1` ticks. -/
def AskedWhenDue (asked : List Bool) : Prop :=
  ∀ k, r.used + k < r.max → asked[r.waiting + k * (r.pause + 1)]? ≠ some false

theorem refusedFinal_cons_iff {a : Bool} {rest : List Bool} (h : (r.tick a).1 ≠ refused)
    (hmax : (r.tick a).2.max = r.max)
    (hused : (r.tick a).2.used = r.used + [(r.tick a).1].count tried) :
    r.RefusedFinal (a :: rest) ↔ (r.tick a).2.RefusedFinal rest := by
  have hcount (i : ℕ) : r.used + ((r.outcomes (a :: rest)).take (i + 1)).count tried =
      (r.tick a).2.used + (((r.tick a).2.outcomes rest).take i).count tried := by
    rw [outcomes_cons, List.take_succ_cons, ← List.singleton_append, List.count_append, hused]
    omega
  unfold RefusedFinal
  constructor
  · intro hfinal i hi
    have hat := hfinal (i + 1) (by rw [outcomes_cons, List.getElem?_cons_succ]; exact hi)
    rw [← hcount, hat, hmax]
  · intro hfinal i hi
    cases i with
    | zero =>
      rw [outcomes_cons, List.getElem?_cons_zero, Option.some_inj] at hi
      exact absurd hi h
    | succ i =>
      rw [outcomes_cons, List.getElem?_cons_succ] at hi
      rw [hcount, hfinal i hi, hmax]

theorem askedWhenDue_waiting (h : 0 < r.waiting) (a : Bool) (rest : List Bool) :
    r.AskedWhenDue (a :: rest) ↔ AskedWhenDue { r with waiting := r.waiting - 1 } rest := by
  have hindex (k : ℕ) : (a :: rest)[r.waiting + k * (r.pause + 1)]? =
      rest[r.waiting - 1 + k * (r.pause + 1)]? := by
    have hsucc : r.waiting + k * (r.pause + 1) = r.waiting - 1 + k * (r.pause + 1) + 1 := by omega
    rw [hsucc, List.getElem?_cons_succ]
  simp [AskedWhenDue, hindex]

theorem askedWhenDue_tried (h : r.waiting = 0) (rest : List Bool) :
    r.AskedWhenDue (true :: rest) ↔
      AskedWhenDue { r with used := r.used + 1, waiting := r.pause } rest := by
  have hindex (k : ℕ) : (true :: rest)[r.waiting + (k + 1) * (r.pause + 1)]? =
      rest[r.pause + k * (r.pause + 1)]? := by
    have hsucc : r.waiting + (k + 1) * (r.pause + 1) = r.pause + k * (r.pause + 1) + 1 := by
      rw [h]
      ring
    rw [hsucc, List.getElem?_cons_succ]
  constructor
  · intro hdue k hk
    rw [← hindex]
    exact hdue (k + 1)
      (by show r.used + (k + 1) < r.max; have : r.used + 1 + k < r.max := hk; omega)
  · intro hdue k hk
    cases k with
    | zero => simp [h]
    | succ k =>
      rw [hindex]
      exact hdue k (by show r.used + 1 + k < r.max; omega)

/-- With no attempt left, all refusals come when the attempts are used up. -/
theorem refusedFinal_of_used_up (h : r.used = r.max) (asked : List Bool) :
    r.RefusedFinal asked := by
  intro i _
  have hnone : (r.outcomes asked).count tried = 0 := by
    have hle := r.count_tried_le asked
    omega
  have htake : ((r.outcomes asked).take i).count tried ≤ (r.outcomes asked).count tried :=
    (List.take_sublist i _).count_le tried
  omega

/-- No attempt follows a refusal that comes when all attempts are used up. -/
theorem RefusedFinal.not_tried {r : Retries} {asked : List Bool} (h : r.RefusedFinal asked)
    {i j : ℕ} (hij : i < j) (hi : (r.outcomes asked)[i]? = some refused) :
    (r.outcomes asked)[j]? ≠ some tried := by
  intro hj
  have htotal := r.count_tried_le asked
  have hat := h i hi
  have hsplit : ((r.outcomes asked).take i).count tried + ((r.outcomes asked).drop i).count tried =
      (r.outcomes asked).count tried := by
    rw [← List.count_append, List.take_append_drop]
  have hmem : tried ∈ (r.outcomes asked).drop i := by
    refine List.mem_of_getElem? (i := j - i) ?_
    rw [List.getElem?_drop, show i + (j - i) = j by omega]
    exact hj
  have hpos : 0 < ((r.outcomes asked).drop i).count tried := List.count_pos_iff.mpr hmem
  omega

/-- The refusals come only when all attempts are used up exactly when every tick at which an attempt
is due asks for it. -/
theorem refused_final_iff (h : r.used ≤ r.max) (asked : List Bool) :
    r.RefusedFinal asked ↔ r.AskedWhenDue asked := by
  induction asked generalizing r with
  | nil => simp [RefusedFinal, AskedWhenDue]
  | cons a rest ih =>
    obtain ⟨hwaiting, htick⟩ | ⟨h0, rfl, hleft, htick⟩ | ⟨h0, hno, htick⟩ := r.tick_cases a
    · rw [refusedFinal_cons_iff r (by rw [htick]; exact Outcome.noConfusion) (by rw [htick])
        (by rw [htick]; simp), htick, r.askedWhenDue_waiting hwaiting]
      exact ih _ h
    · rw [refusedFinal_cons_iff r (by rw [htick]; exact Outcome.noConfusion) (by rw [htick])
        (by rw [htick]; simp), htick, r.askedWhenDue_tried h0]
      exact ih _ hleft
    · by_cases hleft : r.used < r.max
      · -- an attempt is due and not asked for
        have ha : a = false := by simpa [hleft] using hno
        constructor
        · intro hfinal
          have hat := hfinal 0 (by rw [outcomes_cons, htick]; rfl)
          simp at hat
          omega
        · intro hdue
          have hat := hdue 0 (by omega)
          simp [h0, ha] at hat
      · exact iff_of_true (r.refusedFinal_of_used_up (by omega) _) (fun k hk => by omega)

end Retries
