import Mathlib.Algebra.Order.Field.Basic
import Mathlib.Order.Interval.Set.UnorderedInterval
import Mathlib.Tactic.FieldSimp
import Mathlib.Tactic.LinearCombination
import Mathlib.Tactic.Linarith
import Mathlib.Tactic.Positivity
import Mathlib.Tactic.Ring

/-!
# Polynomials of degree five between two states of motion

A motion from one position and velocity to another, with no acceleration at either end, is a
polynomial of degree five in the time.  A motion between two rests is one fixed curve, stretched
to the distance and to the duration, and its greatest speed and acceleration are known exactly.

* `Quintic.between`: the polynomial, and its values at the two ends.
* `Quintic.blend`, `Quintic.speedShape` and `Quintic.accelerationShape`: the fixed curve, with
  `speedShape_le` and `accelerationShape_sq_le`.
* `Quintic.rest_position_mem_uIcc`, `Quintic.abs_rest_velocity_le` and
  `Quintic.rest_acceleration_le_iff`: a motion between two rests.
* `runningMax` and `peak`: the largest of finitely many samples.
-/

variable {K : Type*} [Field K]

/-- The coefficients of a polynomial of degree five. -/
structure Quintic (K : Type*) where
  a0 : K
  a1 : K
  a2 : K
  a3 : K
  a4 : K
  a5 : K

namespace Quintic

/-! ## The polynomial and its derivatives -/

section Evaluation

variable (q : Quintic K) (t : K)

/-- The value. -/
def position : K :=
  q.a0 + q.a1 * t + q.a2 * t ^ 2 + q.a3 * t ^ 3 + q.a4 * t ^ 4 + q.a5 * t ^ 5

/-- The first derivative. -/
def velocity : K :=
  q.a1 + 2 * q.a2 * t + 3 * q.a3 * t ^ 2 + 4 * q.a4 * t ^ 3 + 5 * q.a5 * t ^ 4

/-- The second derivative. -/
def acceleration : K := 2 * q.a2 + 6 * q.a3 * t + 12 * q.a4 * t ^ 2 + 20 * q.a5 * t ^ 3

end Evaluation

/-- From position `p` and velocity `v` to position `p'` and velocity `v'` in the time `T`, with no
acceleration at either end. -/
def between (p v p' v' T : K) : Quintic K where
  a0 := p
  a1 := v
  a2 := 0
  a3 := (10 * (p' - p) - (6 * v + 4 * v') * T) / T ^ 3
  a4 := (-15 * (p' - p) + (8 * v + 7 * v') * T) / T ^ 4
  a5 := (6 * (p' - p) - (3 * v + 3 * v') * T) / T ^ 5

section Ends

variable (p v p' v' : K) {T : K}

@[simp] theorem between_position_zero : (between p v p' v' T).position 0 = p := by
  simp [between, position]

@[simp] theorem between_velocity_zero : (between p v p' v' T).velocity 0 = v := by
  simp [between, velocity]

@[simp] theorem between_acceleration_zero : (between p v p' v' T).acceleration 0 = 0 := by
  simp [between, acceleration]

theorem between_position_end (hT : T ≠ 0) : (between p v p' v' T).position T = p' := by
  simp only [between, position]
  field_simp
  ring

theorem between_velocity_end (hT : T ≠ 0) : (between p v p' v' T).velocity T = v' := by
  simp only [between, velocity]
  field_simp
  ring

theorem between_acceleration_end (hT : T ≠ 0) : (between p v p' v' T).acceleration T = 0 := by
  simp only [between, acceleration]
  field_simp
  ring

end Ends

/-! ## The curve of a motion between two rests -/

/-- The part of the way that is covered at the part `x` of the time. -/
def blend (x : K) : K := x ^ 3 * (10 - 15 * x + 6 * x ^ 2)

/-- The derivative of `blend`. -/
def speedShape (x : K) : K := 30 * (x * (1 - x)) ^ 2

/-- The second derivative of `blend`. -/
def accelerationShape (x : K) : K := 60 * (x * (1 - x)) * (1 - 2 * x)

/-- The rest of the way looks from its end as the way covered looks from its start. -/
theorem one_sub_blend (x : K) : 1 - blend x = blend (1 - x) := by
  simp only [blend]
  ring

section Rest

variable (p p' : K) {T : K}

theorem rest_position (hT : T ≠ 0) (x : K) :
    (between p 0 p' 0 T).position (T * x) = p + (p' - p) * blend x := by
  simp only [between, position, blend]
  field_simp
  ring

theorem rest_velocity (hT : T ≠ 0) (x : K) :
    (between p 0 p' 0 T).velocity (T * x) = (p' - p) / T * speedShape x := by
  simp only [between, velocity, speedShape]
  field_simp
  ring

theorem rest_acceleration (hT : T ≠ 0) (x : K) :
    (between p 0 p' 0 T).acceleration (T * x) = (p' - p) / T ^ 2 * accelerationShape x := by
  simp only [between, acceleration, accelerationShape]
  field_simp
  ring

end Rest

variable [LinearOrder K] [IsStrictOrderedRing K] {x : K}

/-! ### Bounds of the curve -/

theorem blend_nonneg (hx : 0 ≤ x) : 0 ≤ blend x := by
  have hsquare : 0 < 10 - 15 * x + 6 * x ^ 2 := by nlinarith [sq_nonneg (4 * x - 5)]
  exact mul_nonneg (pow_nonneg hx 3) hsquare.le

theorem blend_le_one (hx : x ≤ 1) : blend x ≤ 1 := by
  have hrest : 0 ≤ blend (1 - x) := blend_nonneg (sub_nonneg.mpr hx)
  rw [← one_sub_blend] at hrest
  exact sub_nonneg.mp hrest

/-- The product of the two parts of a whole is greatest at the middle. -/
theorem mul_one_sub_le (x : K) : x * (1 - x) ≤ 1 / 4 := by
  nlinarith [sq_nonneg (2 * x - 1)]

theorem speedShape_nonneg (x : K) : 0 ≤ speedShape x :=
  mul_nonneg (by norm_num) (sq_nonneg _)

/-- The greatest speed is 15/8 of the mean speed, reached at the middle. -/
theorem speedShape_le (hx : 0 ≤ x) (hx' : x ≤ 1) : speedShape x ≤ 15 / 8 := by
  have hproduct : 0 ≤ x * (1 - x) := mul_nonneg hx (sub_nonneg.mpr hx')
  have hsquare : (x * (1 - x)) ^ 2 ≤ (1 / 4) ^ 2 := pow_le_pow_left₀ hproduct (mul_one_sub_le x) 2
  simp only [speedShape]
  linarith

theorem speedShape_half : speedShape (1 / 2 : K) = 15 / 8 := by
  norm_num [speedShape]

/-- With `u` for the square of `1 - 2 x`, the bound is `u (1 - u)² ≤ 4 / 27`. -/
theorem accelerationShape_sq_le (hx : 0 ≤ x) (hx' : x ≤ 1) :
    3 * accelerationShape x ^ 2 ≤ 100 := by
  have hfactor : 0 ≤ (4 - 3 * (1 - 2 * x) ^ 2) * (1 - 3 * (1 - 2 * x) ^ 2) ^ 2 := by
    have hu : (1 - 2 * x) ^ 2 ≤ 1 := by nlinarith
    exact mul_nonneg (by linarith) (sq_nonneg _)
  have hidentity : 100 - 3 * accelerationShape x ^ 2 =
      25 * ((4 - 3 * (1 - 2 * x) ^ 2) * (1 - 3 * (1 - 2 * x) ^ 2) ^ 2) := by
    simp only [accelerationShape]
    ring
  linarith

/-- The bound is the least one: the point with `1 - 2 x = r / 10` is beyond every smaller `r`. -/
theorem exists_lt_accelerationShape {r : K} (hr : 0 < r) (hr' : 3 * r ^ 2 < 100) :
    ∃ x : K, 0 ≤ x ∧ x < 1 ∧ r < accelerationShape x := by
  have hten : r < 10 := by nlinarith
  refine ⟨(1 - r / 10) / 2, by linarith, by linarith, ?_⟩
  have hvalue : accelerationShape ((1 - r / 10) / 2) = r * (3 / 2 * (1 - r ^ 2 / 100)) := by
    simp only [accelerationShape]
    ring
  have hfactor : 1 < 3 / 2 * (1 - r ^ 2 / 100) := by linarith
  rw [hvalue]
  exact lt_mul_of_one_lt_right hr hfactor

/-! ### Motions between two rests -/

section Motion

variable (p p' : K) {T t : K}

/-- A time within the duration is a part of it. -/
theorem exists_part (hT : 0 < T) (ht : 0 ≤ t) (ht' : t ≤ T) : ∃ x, 0 ≤ x ∧ x ≤ 1 ∧ t = T * x :=
  ⟨t / T, div_nonneg ht hT.le, (div_le_one hT).mpr ht', (mul_div_cancel₀ t hT.ne').symm⟩

/-- The way leads through the positions between the two ends only. -/
theorem rest_position_mem_uIcc (hT : 0 < T) (ht : 0 ≤ t) (ht' : t ≤ T) :
    (between p 0 p' 0 T).position t ∈ Set.uIcc p p' := by
  obtain ⟨x, hx, hx', rfl⟩ := exists_part hT ht ht'
  rw [rest_position p p' hT.ne', Set.mem_uIcc]
  have hlow := blend_nonneg hx
  have hhigh := blend_le_one hx'
  rcases le_total p p' with h | h
  · exact Or.inl ⟨by nlinarith, by nlinarith⟩
  · exact Or.inr ⟨by nlinarith, by nlinarith⟩

theorem abs_rest_velocity_le (hT : 0 < T) (ht : 0 ≤ t) (ht' : t ≤ T) :
    |(between p 0 p' 0 T).velocity t| ≤ |p' - p| / T * (15 / 8) := by
  obtain ⟨x, hx, hx', rfl⟩ := exists_part hT ht ht'
  rw [rest_velocity p p' hT.ne', abs_mul, abs_div, abs_of_pos hT,
    abs_of_nonneg (speedShape_nonneg x)]
  exact mul_le_mul_of_nonneg_left (speedShape_le hx hx') (by positivity)

/-- The acceleration keeps below a bound at every time exactly when the distance keeps below
`√3 / 10` of the bound times the squared duration. -/
theorem rest_acceleration_le_iff (hT : 0 < T) {bound : K} (hbound : 0 < bound) :
    (∀ t, 0 ≤ t → t < T → |(between p 0 p' 0 T).acceleration t| ≤ bound) ↔
      100 * (p' - p) ^ 2 ≤ 3 * (bound * T ^ 2) ^ 2 := by
  have hsquare : 0 < T ^ 2 := by positivity
  constructor
  · intro hle
    by_contra! hlt
    have hne : 0 < |p' - p| := by
      rw [abs_pos]
      intro hzero
      rw [hzero] at hlt
      nlinarith [mul_pos hbound hsquare]
    have hratio : 3 * (bound * T ^ 2 / |p' - p|) ^ 2 < 100 := by
      rw [div_pow, sq_abs, ← mul_div_assoc, div_lt_iff₀ (by rw [← sq_abs]; positivity)]
      exact hlt
    obtain ⟨x, hx, hx', hbeyond⟩ := exists_lt_accelerationShape (by positivity) hratio
    have hpart : |(between p 0 p' 0 T).acceleration (T * x)| ≤ bound :=
      hle (T * x) (by positivity) (by nlinarith)
    rw [rest_acceleration p p' hT.ne', abs_mul, abs_div, abs_of_pos hsquare,
      div_mul_eq_mul_div, div_le_iff₀ hsquare] at hpart
    rw [div_lt_iff₀ hne] at hbeyond
    nlinarith [le_abs_self (accelerationShape x)]
  · intro hle t ht ht'
    obtain ⟨x, hx, hx', rfl⟩ := exists_part hT ht ht'.le
    rw [rest_acceleration p p' hT.ne', abs_mul, abs_div, abs_of_pos hsquare, div_mul_eq_mul_div,
      div_le_iff₀ hsquare, ← abs_mul]
    refine abs_le_of_sq_le_sq ?_ (by positivity)
    have hshape := mul_le_mul_of_nonneg_left (accelerationShape_sq_le hx hx') (sq_nonneg (p' - p))
    rw [mul_pow]
    linarith

end Motion

end Quintic

/-! ## The largest sample -/

section Samples

variable {ι R : Type*} [LinearOrder R] (f : ι → R) (m : R) (l : List ι) {b : R}

/-- The largest of a first value and of the values along a list. -/
def runningMax : R := l.foldl (fun m i => if m < f i then f i else m) m

/-- The running maximum keeps below a bound exactly when its start and all the values do. -/
theorem runningMax_le_iff : runningMax f m l ≤ b ↔ m ≤ b ∧ ∀ i ∈ l, f i ≤ b := by
  induction l generalizing m with
  | nil => simp [runningMax]
  | cons i l ih =>
      rw [runningMax, List.foldl_cons, ← runningMax, ih, List.forall_mem_cons, ← and_assoc]
      refine and_congr_left fun _ => ?_
      split_ifs with h
      · exact ⟨fun hi => ⟨h.le.trans hi, hi⟩, fun hi => hi.2⟩
      · exact ⟨fun hm => ⟨hm, (not_lt.mp h).trans hm⟩, fun hm => hm.1⟩

theorem le_runningMax_start : m ≤ runningMax f m l := ((runningMax_le_iff f m l).mp le_rfl).1

theorem le_runningMax {i : ι} (hi : i ∈ l) : f i ≤ runningMax f m l :=
  ((runningMax_le_iff f m l).mp le_rfl).2 i hi

/-- The largest of the samples with the numbers from 0 to `n`, and of zero. -/
def peak [Zero R] (n : ℕ) (f : ℕ → R) : R := runningMax f 0 (List.range (n + 1))

variable [Zero R] (n : ℕ) (f : ℕ → R)

theorem peak_le_iff : peak n f ≤ b ↔ 0 ≤ b ∧ ∀ i ≤ n, f i ≤ b := by
  simp only [peak, runningMax_le_iff, List.mem_range, Nat.lt_succ_iff]

theorem le_peak {i : ℕ} (hi : i ≤ n) : f i ≤ peak n f :=
  ((peak_le_iff n f).mp le_rfl).2 i hi

theorem lt_peak_iff (hb : 0 ≤ b) : b < peak n f ↔ ∃ i ≤ n, b < f i := by
  rw [← not_le, peak_le_iff, and_iff_right hb]
  push Not
  rfl

end Samples
