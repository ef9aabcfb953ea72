import Mathlib.Algebra.Order.Floor.Ring
import Mathlib.Data.Rat.Floor
import Mathlib.Tactic.Linarith

/-!
# Units of the lift drive

The drive counts positions and velocities in command units, and the joint is measured in metres.

* `LiftUnitConfig`: the conversion, as the configuration has validated it.
* `positionUnitsToM`, `velocityUnitsToMps`, `rpmToMps`: from the drive to the joint.
* `wireRpmToVelocityUnits`: from the wire to the drive, saturated at 32 bits.
* `wireRpmToVelocityUnits_zero`, `wireRpmToVelocityUnits_bounds`.
-/

namespace JointController

namespace Hardware

/-- `LiftUnitConfig`, with what `validate_lift_units` has checked. -/
structure LiftUnitConfig where
  leadMmPerRev : ℚ
  liftSign : ℚ
  commandUnitsPerRev : ℕ
  effectiveCommandUnitsPerRev : ℚ
  leadMmPerRev_pos : 0 < leadMmPerRev
  liftSign_abs : 1 / 2 ≤ |liftSign|
  commandUnitsPerRev_pos : 0 < commandUnitsPerRev

namespace LiftUnitConfig

variable (u : LiftUnitConfig)

/-- `effective_command_units_per_rev`. -/
def effectiveUnits : ℚ :=
  if 0 < u.effectiveCommandUnitsPerRev then u.effectiveCommandUnitsPerRev else u.commandUnitsPerRev

/-- `position_units_to_m`. -/
def positionUnitsToM (actualPositionUnits zeroOffsetUnits : ℤ) : ℚ :=
  u.liftSign * (actualPositionUnits - zeroOffsetUnits) / u.effectiveUnits * u.leadMmPerRev / 1000

/-- `velocity_units_to_mps`. -/
def velocityUnitsToMps (actualVelocityUnitsPerS : ℤ) : ℚ :=
  u.liftSign * actualVelocityUnitsPerS / u.effectiveUnits * u.leadMmPerRev / 1000

/-- `rpm_to_mps`. -/
def rpmToMps (jointRpm : ℚ) : ℚ := u.liftSign * jointRpm * u.leadMmPerRev / 60000

/-- `std::llround`: a half is rounded away from zero. -/
def llround (x : ℚ) : ℤ := if 0 ≤ x then ⌊x + 1 / 2⌋ else -⌊-x + 1 / 2⌋

/-- `std::numeric_limits<int32_t>::max()`. -/
def int32Max : ℤ := 2147483647

/-- `std::numeric_limits<int32_t>::min()`. -/
def int32Min : ℤ := -2147483648

/-- `wire_rpm_to_velocity_units`. -/
def wireRpmToVelocityUnits (wireRpm : ℚ) : ℤ :=
  let units := wireRpm / 60 * u.effectiveUnits
  if int32Max ≤ units then int32Max
  else if units ≤ int32Min then int32Min
  else llround units

theorem wireRpmToVelocityUnits_zero : u.wireRpmToVelocityUnits 0 = 0 := by
  have hmax : ¬ (int32Max : ℚ) ≤ 0 := by norm_num [int32Max]
  have hmin : ¬ (0 : ℚ) ≤ int32Min := by norm_num [int32Min]
  unfold wireRpmToVelocityUnits
  simp only [zero_div, zero_mul]
  rw [if_neg hmax, if_neg hmin]
  norm_num [llround]

theorem llround_bounds {x : ℚ} {low high : ℤ} (hlow : (low : ℚ) < x) (hhigh : x < high) :
    low ≤ llround x ∧ llround x ≤ high := by
  unfold llround
  split_ifs with h
  · constructor
    · refine Int.le_floor.mpr ?_
      linarith
    · refine Int.lt_add_one_iff.mp (Int.floor_lt.mpr ?_)
      push_cast
      linarith
  · constructor
    · refine Int.neg_le_neg_iff.mp ?_
      rw [neg_neg]
      refine Int.lt_add_one_iff.mp (Int.floor_lt.mpr ?_)
      push_cast
      linarith
    · refine Int.neg_le_neg_iff.mp ?_
      rw [neg_neg]
      refine Int.le_floor.mpr ?_
      push_cast
      linarith

/-- A velocity command saturates at 32 bits. -/
theorem wireRpmToVelocityUnits_bounds (wireRpm : ℚ) :
    int32Min ≤ u.wireRpmToVelocityUnits wireRpm ∧ u.wireRpmToVelocityUnits wireRpm ≤ int32Max := by
  unfold wireRpmToVelocityUnits
  dsimp only
  split_ifs with hmax hmin
  · exact ⟨by decide, le_rfl⟩
  · exact ⟨le_rfl, by decide⟩
  · exact llround_bounds (not_le.mp hmin) (not_le.mp hmax)

end LiftUnitConfig

end Hardware

end JointController
