import Mathlib.Data.Rat.Defs
import Mathlib.Algebra.Order.Ring.Rat
import Mathlib.Algebra.Order.Group.Abs

/-!
# Floating-point values with exact arithmetic

A `Double` is a rational number, an infinity or not-a-number.  Comparisons follow IEEE 754: a
comparison with `nan` is false, and the infinities lie outside every finite value.  The arithmetic
of finite values is exact, there is no rounding and no signed zero.

* `Double.isFinite` and `Double.value`.
* `<` and `≤`: decidable, with `finite_lt_finite`, `finite_le_finite` and their failure at `nan`.
* `+`, `-`, `*` and `Double.abs`.
* `Double.clamp`, `Double.min`, `Double.max`: selections by comparisons.
-/

/-- A rational number, an infinity or not-a-number. -/
inductive Double where
  | finite : ℚ → Double
  | posInf : Double
  | negInf : Double
  | nan : Double
  deriving DecidableEq

namespace Double

instance : Inhabited Double := ⟨finite 0⟩

instance : Zero Double := ⟨finite 0⟩

/-! ## Finite values -/

/-- Neither infinite nor `nan`. -/
def isFinite : Double → Bool
  | finite _ => true
  | _ => false

/-- The number of a finite value. -/
def value : Double → ℚ
  | finite q => q
  | _ => 0

/-! ## Comparisons -/

/-- The IEEE comparison `x < y`. -/
def lt : Double → Double → Bool
  | finite p, finite q => decide (p < q)
  | finite _, posInf => true
  | negInf, finite _ => true
  | negInf, posInf => true
  | _, _ => false

/-- The IEEE comparison `x <= y`. -/
def le : Double → Double → Bool
  | finite p, finite q => decide (p ≤ q)
  | finite _, posInf => true
  | negInf, finite _ => true
  | negInf, posInf => true
  | posInf, posInf => true
  | negInf, negInf => true
  | _, _ => false

instance : LT Double := ⟨fun x y => lt x y = true⟩

instance : LE Double := ⟨fun x y => le x y = true⟩

instance (x y : Double) : Decidable (x < y) := inferInstanceAs (Decidable (lt x y = true))

instance (x y : Double) : Decidable (x ≤ y) := inferInstanceAs (Decidable (le x y = true))

@[simp] theorem finite_lt_finite {p q : ℚ} : finite p < finite q ↔ p < q :=
  decide_eq_true_iff

@[simp] theorem finite_le_finite {p q : ℚ} : finite p ≤ finite q ↔ p ≤ q :=
  decide_eq_true_iff

@[simp] theorem not_nan_lt (x : Double) : ¬ nan < x := by
  cases x <;> exact Bool.false_ne_true

@[simp] theorem not_lt_nan (x : Double) : ¬ x < nan := by
  cases x <;> exact Bool.false_ne_true

theorem lt_irrefl (x : Double) : ¬ x < x := by
  cases x with
  | finite q => simp
  | posInf => exact Bool.false_ne_true
  | negInf => exact Bool.false_ne_true
  | nan => exact not_nan_lt nan

/-! ## Arithmetic -/

/-- Negation. -/
def neg : Double → Double
  | finite q => finite (-q)
  | posInf => negInf
  | negInf => posInf
  | nan => nan

/-- Addition; opposite infinities have no sum. -/
def add : Double → Double → Double
  | finite p, finite q => finite (p + q)
  | finite _, posInf => posInf
  | finite _, negInf => negInf
  | posInf, finite _ => posInf
  | negInf, finite _ => negInf
  | posInf, posInf => posInf
  | negInf, negInf => negInf
  | _, _ => nan

/-- An infinity with the sign of a number, which zero does not have. -/
def infinity (sign : ℚ) : Double := if 0 < sign then posInf else if sign < 0 then negInf else nan

/-- Multiplication; zero and an infinity have no product. -/
def mul : Double → Double → Double
  | finite p, finite q => finite (p * q)
  | finite p, posInf => infinity p
  | finite p, negInf => infinity (-p)
  | posInf, finite q => infinity q
  | negInf, finite q => infinity (-q)
  | posInf, posInf => posInf
  | posInf, negInf => negInf
  | negInf, posInf => negInf
  | negInf, negInf => posInf
  | _, _ => nan

instance : Neg Double := ⟨neg⟩

instance : Mul Double := ⟨mul⟩

instance : Add Double := ⟨add⟩

instance : Sub Double := ⟨fun x y => x + -y⟩

/-- The absolute value. -/
def abs : Double → Double
  | finite q => finite |q|
  | posInf => posInf
  | negInf => posInf
  | nan => nan

@[simp] theorem abs_finite (q : ℚ) : abs (finite q) = finite |q| := rfl

/-- The value itself, or the bound that it lies beyond. -/
def clamp (x low high : Double) : Double := if x < low then low else if high < x then high else x

theorem isFinite_clamp {x low high : Double} (hx : x.isFinite = true) (hlow : low.isFinite = true)
    (hhigh : high.isFinite = true) : (x.clamp low high).isFinite = true := by
  unfold clamp
  split_ifs
  exacts [hlow, hhigh, hx]

/-- The second value if it is smaller, else the first. -/
def min (x y : Double) : Double := if y < x then y else x

/-- The second value if it is larger, else the first. -/
def max (x y : Double) : Double := if x < y then y else x

end Double
