import Mathlib.Algebra.Order.Floor.Ring
import Mathlib.Data.Rat.Floor
import Mathlib.Tactic.Linarith

/-!
# Truncated products

A cast of C drops the fraction of a number.  So a count that is multiplied by a gain below one and
cast back gets smaller, unless it is zero.

* `truncate`: the cast, with `abs_truncate_le`.
* `natAbs_truncate_lt`: a gain below one makes a count smaller.
* `Shrinks`: a map that makes all but one value smaller, with `Shrinks.iterate_eq`: repeated, it
  ends there.
-/

namespace TruncatedGain

/-- A number without its fraction. -/
def truncate (q : ℚ) : ℤ := if 0 ≤ q then ⌊q⌋ else ⌈q⌉

/-- A truncated number is not larger. -/
theorem abs_truncate_le (q : ℚ) : |(truncate q : ℚ)| ≤ |q| := by
  unfold truncate
  split_ifs with h
  · have hfloor : (0 : ℚ) ≤ ⌊q⌋ := Int.cast_nonneg (Int.floor_nonneg.mpr h)
    rw [abs_of_nonneg h, abs_of_nonneg hfloor]
    exact Int.floor_le q
  · have hq : q ≤ 0 := (not_le.mp h).le
    have hceil : ((⌈q⌉ : ℤ) : ℚ) ≤ 0 := by
      exact_mod_cast Int.ceil_le.mpr (by exact_mod_cast hq)
    rw [abs_of_nonpos hq, abs_of_nonpos hceil]
    exact neg_le_neg (Int.le_ceil q)

/-- A gain below one makes a count smaller. -/
theorem natAbs_truncate_lt {c : ℤ} {gain : ℚ} (hc : c ≠ 0) (hgain : 0 ≤ gain) (hlt : gain < 1) :
    (truncate (c * gain)).natAbs < c.natAbs := by
  have hpos : (0 : ℚ) < |(c : ℚ)| := abs_pos.mpr (Int.cast_ne_zero.mpr hc)
  have hsmall : |(c : ℚ) * gain| < |(c : ℚ)| := by
    rw [abs_mul, abs_of_nonneg hgain]
    exact mul_lt_of_lt_one_right hpos hlt
  have hcast : |(truncate (c * gain) : ℚ)| < |(c : ℚ)| := (abs_truncate_le _).trans_lt hsmall
  rw [← Int.cast_abs, ← Int.cast_abs, Int.cast_lt, Int.abs_eq_natAbs, Int.abs_eq_natAbs] at hcast
  exact Int.ofNat_lt.mp hcast

/-! ## Maps that shrink -/

/-- A map keeps one value and makes all others smaller. -/
structure Shrinks {α : Type*} (size : α → ℕ) (z : α) (f : α → α) : Prop where
  keeps : f z = z
  lt : ∀ a, a ≠ z → size (f a) < size a

variable {α : Type*} {size : α → ℕ} {z : α} {f : α → α}

/-- Repeated as often as a value is large, it ends at the one that it keeps. -/
theorem Shrinks.iterate_eq (h : Shrinks size z f) {n : ℕ} {a : α} (ha : size a ≤ n) :
    f^[n] a = z := by
  induction n generalizing a with
  | zero =>
    by_contra hne
    have hlt := h.lt a hne
    omega
  | succ n ih =>
    by_cases hz : a = z
    · rw [hz]
      exact Function.iterate_fixed h.keeps (n + 1)
    · rw [Function.iterate_succ_apply]
      have hlt := h.lt a hz
      exact ih (by omega)

/-- Only the value that it keeps stays when it is repeated. -/
theorem Shrinks.stays_iff (h : Shrinks size z f) (a : α) : (∀ n, f^[n] a = a) ↔ a = z := by
  constructor
  · intro hstays
    by_contra hne
    have hlt := h.lt a hne
    rw [show f a = a from hstays 1] at hlt
    exact lt_irrefl _ hlt
  · rintro rfl n
    exact Function.iterate_fixed h.keeps n

end TruncatedGain
