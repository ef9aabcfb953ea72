import Mathlib.Algebra.Order.Group.Abs
import Mathlib.Algebra.Order.Ring.Int
import Mathlib.Tactic.Ring

/-!
# Distances of signed 32-bit words

The difference of two signed words wraps around, and the smallest word has no absolute value.  So a
program that compares `|x - y|` with a window in 32 bits takes some far values for near ones.

* `abs32`: the absolute value in 32 bits, with `toInt_abs32`.
* `Wraps`: the distances that the comparison gets wrong.
* `abs32_sub_le_iff`: the other distances are compared as integers.
* `abs32_lt_iff`: the absolute value of every word but the smallest is.
-/

namespace SignedWords

/-- `x >= 0 ? x : -x` in 32 bits. -/
def abs32 (x : Int32) : Int32 := if 0 ≤ x then x else -x

theorem toInt_bounds (x : Int32) : -2 ^ 31 ≤ x.toInt ∧ x.toInt < 2 ^ 31 :=
  ⟨x.le_toInt, x.toInt_lt⟩

theorem zero_le_iff (x : Int32) : 0 ≤ x ↔ 0 ≤ x.toInt := Int32.le_iff_toInt_le

/-- The smallest word is its own absolute value. -/
theorem toInt_abs32 (x : Int32) :
    (abs32 x).toInt = if x.toInt = -2 ^ 31 then -2 ^ 31 else |x.toInt| := by
  obtain ⟨hlow, hhigh⟩ := toInt_bounds x
  unfold abs32
  by_cases hx : 0 ≤ x
  · have hpos := (zero_le_iff x).mp hx
    rw [if_pos hx, if_neg (by omega), abs_of_nonneg hpos]
  · have hneg : x.toInt < 0 := by
      have := mt (zero_le_iff x).mpr hx
      omega
    rw [if_neg hx, Int32.toInt_neg]
    by_cases hmin : x.toInt = -2 ^ 31
    · rw [if_pos hmin, hmin]
      decide
    · rw [if_neg hmin, abs_of_neg hneg]
      exact Int.bmod_eq_of_le (by omega) (by omega)

/-- The distances that a comparison with a window in 32 bits gets wrong. -/
def Wraps (window distance : ℤ) : Prop :=
  distance = 2 ^ 31 ∨ 2 ^ 32 - window ≤ distance

instance (window distance : ℤ) : Decidable (Wraps window distance) :=
  inferInstanceAs (Decidable (_ ∨ _))

/-- The wrapped difference of two words. -/
theorem toInt_sub_cases (x y : Int32) :
    (-2 ^ 31 ≤ x.toInt - y.toInt ∧ x.toInt - y.toInt < 2 ^ 31 ∧
      (x - y).toInt = x.toInt - y.toInt) ∨
    (2 ^ 31 ≤ x.toInt - y.toInt ∧ (x - y).toInt = x.toInt - y.toInt - 2 ^ 32) ∨
    (x.toInt - y.toInt < -2 ^ 31 ∧ (x - y).toInt = x.toInt - y.toInt + 2 ^ 32) := by
  obtain ⟨hxlow, hxhigh⟩ := toInt_bounds x
  obtain ⟨hylow, hyhigh⟩ := toInt_bounds y
  have hdiff : (x - y).toInt = (x.toInt - y.toInt).bmod (2 ^ 32) := Int32.toInt_sub x y
  rw [hdiff, Int.bmod_eq_emod]
  split <;> omega

/-- Any other distance is compared as an integer. -/
theorem abs32_sub_le_iff {x y window : Int32} (hwindow : 0 ≤ window.toInt)
    (h : ¬ Wraps window.toInt |x.toInt - y.toInt|) :
    abs32 (x - y) ≤ window ↔ |x.toInt - y.toInt| ≤ window.toInt := by
  obtain ⟨hxlow, hxhigh⟩ := toInt_bounds x
  obtain ⟨hylow, hyhigh⟩ := toInt_bounds y
  have hwhigh := (toInt_bounds window).2
  have hfar : |x.toInt - y.toInt| ≠ 2 ^ 31 := fun hd => h (Or.inl hd)
  have hmin : x.toInt - y.toInt ≠ -2 ^ 31 := by
    intro hd
    rw [hd] at hfar
    exact hfar rfl
  obtain ⟨hlow, hhigh⟩ := abs_lt.mp (lt_of_not_ge fun hd => h (Or.inr hd))
  rw [Int32.le_iff_toInt_le, toInt_abs32, abs_le]
  obtain ⟨hge, hlt, hdiff⟩ | ⟨hge, hdiff⟩ | ⟨hlt, hdiff⟩ := toInt_sub_cases x y
  · rw [if_neg (by omega), hdiff, abs_le]
  · -- A distance of at least `2 ^ 31` is compared as its complement.
    have hne : x.toInt - y.toInt ≠ 2 ^ 31 := by
      intro hd
      rw [hd] at hfar
      exact hfar rfl
    rw [if_neg (by omega), abs_le]
    omega
  · rw [if_neg (by omega), abs_le]
    omega

/-- The absolute value of every word but the smallest is compared as an integer. -/
theorem abs32_lt_iff {x bound : Int32} (h : x.toInt ≠ -2 ^ 31) :
    abs32 x < bound ↔ |x.toInt| < bound.toInt := by
  rw [Int32.lt_iff_toInt_lt, toInt_abs32, if_neg h]

end SignedWords
