import JointController.Library.Double
import Mathlib.Data.Rat.Floor
import Mathlib.Tactic.Linarith

/-!
# The nearest integer

* `NearestInteger.nearest`: the integer next to a number, the even one of two, with
  `abs_sub_nearest_le`.
* `NearestInteger.remainder`: the IEEE remainder.  `abs_remainder_le_abs_sub`: no multiple of the
  modulus is closer to the number than the remainder says.
* `NearestInteger.fixedText`: a number with six decimals.
-/

namespace NearestInteger

/-- The nearest integer, and of two the even one. -/
def nearest (q : ℚ) : ℤ :=
  let below := ⌊q⌋
  let rest := q - below
  if rest < 1 / 2 then below
  else if 1 / 2 < rest then below + 1
  else if below % 2 = 0 then below else below + 1

theorem abs_sub_nearest_le (q : ℚ) : |q - nearest q| ≤ 1 / 2 := by
  have hbelow : (⌊q⌋ : ℚ) ≤ q := Int.floor_le q
  have habove : q < ⌊q⌋ + 1 := Int.lt_floor_add_one q
  unfold nearest
  dsimp only
  rw [abs_le]
  split_ifs with hless hmore heven
  · constructor <;> linarith
  · push_cast
    constructor <;> linarith
  · constructor <;> linarith
  · push_cast
    constructor <;> linarith

/-- No integer is nearer. -/
theorem abs_sub_nearest_le_abs_sub (q : ℚ) (k : ℤ) : |q - nearest q| ≤ |q - k| := by
  have hnear := abs_sub_nearest_le q
  by_cases hk : k = nearest q
  · rw [hk]
  · have hapart : (1 : ℚ) ≤ |(nearest q : ℚ) - k| := by
      have hpos : 1 ≤ |nearest q - k| := Int.one_le_abs (sub_ne_zero.mpr (Ne.symm hk))
      exact_mod_cast hpos
    have htriangle : |(nearest q : ℚ) - k| ≤ |(nearest q : ℚ) - q| + |q - k| :=
      abs_sub_le _ _ _
    rw [abs_sub_comm _ q] at htriangle
    linarith

/-! ## The remainder -/

/-- `std::remainder`. -/
def remainder : Double → Double → Double
  | .finite x, .finite y => if y = 0 then .nan else .finite (x - nearest (x / y) * y)
  | .finite x, .posInf | .finite x, .negInf => .finite x
  | _, _ => .nan

theorem remainder_finite (x : ℚ) {y : ℚ} (hy : y ≠ 0) :
    remainder (.finite x) (.finite y) = .finite (x - nearest (x / y) * y) := if_neg hy

theorem abs_remainder_le_abs_sub (x : ℚ) {y : ℚ} (hy : y ≠ 0) (k : ℤ) :
    |x - nearest (x / y) * y| ≤ |x - k * y| := by
  have hscaled : ∀ j : ℤ, |x - j * y| = |x / y - j| * |y| := by
    intro j
    rw [← abs_mul, sub_mul, div_mul_cancel₀ x hy]
  rw [hscaled, hscaled]
  exact mul_le_mul_of_nonneg_right (abs_sub_nearest_le_abs_sub _ _) (abs_nonneg y)

/-! ## Text -/

/-- A magnitude in millionths. -/
def millionthsText (n : ℕ) : String :=
  let decimals := toString (n % 1000000)
  toString (n / 1000000) ++ "." ++ "".pushn '0' (6 - decimals.length) ++ decimals

/-- `std::to_string` of a `double`. -/
def fixedText : Double → String
  | .finite q => (if q < 0 then "-" else "") ++ millionthsText (nearest (|q| * 1000000)).toNat
  | .posInf => "inf"
  | .negInf => "-inf"
  | .nan => "nan"

end NearestInteger
