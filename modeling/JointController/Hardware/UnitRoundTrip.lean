import JointController.Hardware.Motion
import JointController.Hardware.System
import Mathlib.Algebra.Order.Field.Basic
import Mathlib.Tactic.FieldSimp
import Mathlib.Tactic.Ring

/-!
# From the command to the feedback

A joint velocity goes to the wire with the sign of the lift and to the drive in its units, and the
feedback comes back with the same sign.

* `deriveCommandUnitsPerRev`, `unitConfig`: the units, from what the drive reports.
* `abs_llround_sub_le`, `wireRpmToVelocityUnits_near_iff`: what rounding and saturation lose.
* `unitsConsistent`: the feedback is the velocity that was asked for, up to half a unit, as long as
  it fits in 32 bits; otherwise it is the largest with the same sign.
-/

namespace JointController

namespace Hardware

namespace LiftUnitConfig

/-! ## The units of the drive -/

/-- What the drive reports about its units. -/
structure DriveRatios where
  encoderCountsPerRev : UInt32
  gearRatioNumerator : UInt32
  gearRatioDenominator : UInt32
  feedUnitsPerRev : UInt32
  p0008CommandUnitsPerRev : UInt32
  deriving DecidableEq

namespace DriveRatios

variable (r : DriveRatios)

/-- `std::numeric_limits<uint32_t>::max()`. -/
def uint32Max : ℤ := 4294967295

/-- The command units per revolution, before they are checked. -/
def unitsPerRev : ℚ :=
  if r.p0008CommandUnitsPerRev ≠ 0 then r.p0008CommandUnitsPerRev.toNat
  else if r.feedUnitsPerRev ≠ r.encoderCountsPerRev then r.feedUnitsPerRev.toNat
  else r.encoderCountsPerRev.toNat * r.gearRatioDenominator.toNat / r.gearRatioNumerator.toNat

/-- `derive_command_units_per_rev`. -/
def deriveCommandUnitsPerRev : Except String ℚ :=
  if r.encoderCountsPerRev = 0 ∨ r.gearRatioNumerator = 0 ∨ r.gearRatioDenominator = 0 ∨
      r.feedUnitsPerRev = 0 then
    .error "608F/6091/6092 values must be non-zero"
  else if r.unitsPerRev < 1 ∨ uint32Max < r.unitsPerRev then
    .error "effective command units/rev is outside uint32 range"
  else .ok r.unitsPerRev

theorem deriveCommandUnitsPerRev_bounds {units : ℚ} (h : r.deriveCommandUnitsPerRev = .ok units) :
    1 ≤ units ∧ units ≤ uint32Max := by
  unfold deriveCommandUnitsPerRev at h
  split_ifs at h with hzero hrange
  obtain ⟨hlow, hhigh⟩ := not_or.mp hrange
  obtain rfl := Except.ok.inj h
  exact ⟨not_lt.mp hlow, not_lt.mp hhigh⟩

/-- The rounded units fit in 32 bits. -/
theorem llround_units_bounds {units : ℚ} (h : r.deriveCommandUnitsPerRev = .ok units) :
    0 < llround units ∧ llround units ≤ uint32Max := by
  obtain ⟨hlow, hhigh⟩ := r.deriveCommandUnitsPerRev_bounds h
  have hnonneg : 0 ≤ units := zero_le_one.trans hlow
  unfold llround
  rw [if_pos hnonneg]
  constructor
  · refine Int.lt_of_lt_of_le Int.one_pos (Int.le_floor.mpr ?_)
    push_cast
    linarith
  · refine Int.lt_add_one_iff.mp (Int.floor_lt.mpr ?_)
    push_cast
    linarith

/-- The conversion that is configured from the ratios of a drive. -/
def unitConfig {units : ℚ} (h : r.deriveCommandUnitsPerRev = .ok units) (leadMmPerRev liftSign : ℚ)
    (hlead : 0 < leadMmPerRev) (hsign : 1 / 2 ≤ |liftSign|) : LiftUnitConfig where
  leadMmPerRev := leadMmPerRev
  liftSign := liftSign
  commandUnitsPerRev := (llround units).toNat
  effectiveCommandUnitsPerRev := units
  leadMmPerRev_pos := hlead
  liftSign_abs := hsign
  commandUnitsPerRev_pos := Int.lt_toNat.mpr (r.llround_units_bounds h).1

/-- The conversion uses the units of the drive as they are, and not the rounded ones. -/
theorem effectiveUnits_unitConfig {units : ℚ} (h : r.deriveCommandUnitsPerRev = .ok units)
    (leadMmPerRev liftSign : ℚ) (hlead : 0 < leadMmPerRev) (hsign : 1 / 2 ≤ |liftSign|) :
    (r.unitConfig h leadMmPerRev liftSign hlead hsign).effectiveUnits = units :=
  if_pos (one_pos.trans_le (r.deriveCommandUnitsPerRev_bounds h).1)

end DriveRatios

/-! ## Rounding and saturation -/

/-- Rounding loses at most a half. -/
theorem abs_llround_sub_le (x : ℚ) : |(llround x : ℚ) - x| ≤ 1 / 2 := by
  unfold llround
  split_ifs with h
  · have hle := Int.floor_le (x + 1 / 2)
    have hlt := Int.lt_floor_add_one (x + 1 / 2)
    exact abs_le.mpr ⟨by linarith, by linarith⟩
  · have hle := Int.floor_le (-x + 1 / 2)
    have hlt := Int.lt_floor_add_one (-x + 1 / 2)
    push_cast
    exact abs_le.mpr ⟨by linarith, by linarith⟩

/-- Rounding keeps the sign. -/
theorem mul_llround_nonneg (x : ℚ) : 0 ≤ x * llround x := by
  unfold llround
  split_ifs with h
  · refine mul_nonneg h (Int.cast_nonneg (Int.floor_nonneg.mpr ?_))
    linarith
  · have hx : x ≤ 0 := (not_le.mp h).le
    have hfloor : (0 : ℚ) ≤ ⌊-x + 1 / 2⌋ := by
      refine Int.cast_nonneg (Int.floor_nonneg.mpr ?_)
      linarith
    push_cast
    exact mul_nonneg_of_nonpos_of_nonpos hx (neg_nonpos.mpr hfloor)

variable (u : LiftUnitConfig)

/-- A velocity in the units of the drive, before it is rounded. -/
def wireUnits (wireRpm : ℚ) : ℚ := wireRpm / 60 * u.effectiveUnits

theorem wireRpmToVelocityUnits_of_le {wireRpm : ℚ} (h : int32Max ≤ u.wireUnits wireRpm) :
    u.wireRpmToVelocityUnits wireRpm = int32Max :=
  if_pos h

theorem wireRpmToVelocityUnits_of_ge {wireRpm : ℚ} (h : u.wireUnits wireRpm ≤ int32Min) :
    u.wireRpmToVelocityUnits wireRpm = int32Min := by
  have hmax : ¬ int32Max ≤ u.wireUnits wireRpm := by
    have hlt : (int32Min : ℚ) < int32Max := by decide
    exact not_le.mpr (h.trans_lt hlt)
  unfold wireRpmToVelocityUnits
  exact (if_neg hmax).trans (if_pos h)

theorem wireRpmToVelocityUnits_of_lt {wireRpm : ℚ} (hmin : int32Min < u.wireUnits wireRpm)
    (hmax : u.wireUnits wireRpm < int32Max) :
    u.wireRpmToVelocityUnits wireRpm = llround (u.wireUnits wireRpm) := by
  unfold wireRpmToVelocityUnits
  exact (if_neg (not_le.mpr hmax)).trans (if_neg (not_le.mpr hmin))

/-- A command is at most half a unit off exactly if it is at most half a unit out of range. -/
theorem wireRpmToVelocityUnits_near_iff (wireRpm : ℚ) :
    |(u.wireRpmToVelocityUnits wireRpm : ℚ) - u.wireUnits wireRpm| ≤ 1 / 2 ↔
      int32Min - 1 / 2 ≤ u.wireUnits wireRpm ∧ u.wireUnits wireRpm ≤ int32Max + 1 / 2 := by
  have hends : (int32Min : ℚ) + 1 ≤ int32Max := by norm_num [int32Min, int32Max]
  rcases le_or_gt (int32Max : ℚ) (u.wireUnits wireRpm) with hmax | hmax
  · rw [u.wireRpmToVelocityUnits_of_le hmax, abs_le]
    constructor
    · rintro ⟨hlow, -⟩
      exact ⟨by linarith, by linarith⟩
    · rintro ⟨-, hhigh⟩
      exact ⟨by linarith, by linarith⟩
  rcases le_or_gt (u.wireUnits wireRpm) int32Min with hmin | hmin
  · rw [u.wireRpmToVelocityUnits_of_ge hmin, abs_le]
    constructor
    · rintro ⟨-, hhigh⟩
      exact ⟨by linarith, by linarith⟩
    · rintro ⟨hlow, -⟩
      exact ⟨by linarith, by linarith⟩
  · rw [u.wireRpmToVelocityUnits_of_lt hmin hmax]
    exact iff_of_true (abs_llround_sub_le _) ⟨by linarith, by linarith⟩

/-- Neither rounding nor saturation inverts a command. -/
theorem wireUnits_mul_nonneg (wireRpm : ℚ) :
    0 ≤ u.wireUnits wireRpm * u.wireRpmToVelocityUnits wireRpm := by
  have hmaxPos : (0 : ℚ) ≤ int32Max := by decide
  have hminNeg : (int32Min : ℚ) ≤ 0 := by decide
  rcases le_or_gt (int32Max : ℚ) (u.wireUnits wireRpm) with hmax | hmax
  · rw [u.wireRpmToVelocityUnits_of_le hmax]
    exact mul_nonneg (hmaxPos.trans hmax) hmaxPos
  rcases le_or_gt (u.wireUnits wireRpm) int32Min with hmin | hmin
  · rw [u.wireRpmToVelocityUnits_of_ge hmin]
    exact mul_nonneg_of_nonpos_of_nonpos (hmin.trans hminNeg) hminNeg
  · rw [u.wireRpmToVelocityUnits_of_lt hmin hmax]
    exact mul_llround_nonneg _

/-! ## One unit as a velocity -/

theorem effectiveUnits_pos : 0 < u.effectiveUnits := by
  unfold effectiveUnits
  split_ifs with h
  · exact h
  · exact Nat.cast_pos.mpr u.commandUnitsPerRev_pos

theorem liftSign_ne_zero : u.liftSign ≠ 0 := by
  intro h
  have habs := u.liftSign_abs
  rw [h, abs_zero] at habs
  linarith

/-- The velocity of one unit of the drive. -/
def unitMps : ℚ := u.velocityUnitsToMps 1

theorem velocityUnitsToMps_eq (n : ℤ) : u.velocityUnitsToMps n = n * u.unitMps := by
  unfold unitMps velocityUnitsToMps
  push_cast
  ring

theorem unitMps_ne_zero : u.unitMps ≠ 0 := by
  have hsign := u.liftSign_ne_zero
  have hunits := u.effectiveUnits_pos.ne'
  have hlead := u.leadMmPerRev_pos.ne'
  unfold unitMps velocityUnitsToMps
  positivity

end LiftUnitConfig

/-! ## From the joint to the wire and back -/

namespace MotionContext

open LiftUnitConfig

variable (p : HardwareParameters) (jointRpm : ℚ)

/-- The sign of the lift is the configured one, since a validated sign is not small. -/
theorem sign_eq : sign p = p.units.liftSign := by
  have habs := p.units.liftSign_abs
  unfold sign
  rw [if_pos (by linarith)]

/-- The wire velocity of a joint velocity. -/
def wireRpm : ℚ := jointRpm / sign p

/-- The command that is sent to the drive for a joint velocity. -/
def sentUnits : ℤ := p.units.wireRpmToVelocityUnits (wireRpm p jointRpm)

/-- The feedback of a drive that moves as it was told. -/
def feedbackMps : ℚ := p.units.velocityUnitsToMps (sentUnits p jointRpm)

/-- A joint velocity in metres per second. -/
def jointMps : ℚ := jointRpm * p.units.leadMmPerRev / 60000

/-- The feedback of a drive that could be told a fraction of a unit. -/
theorem wireUnits_mul_unitMps :
    p.units.wireUnits (wireRpm p jointRpm) * p.units.unitMps = jointMps p jointRpm := by
  have hsign := p.units.liftSign_ne_zero
  have hunits := p.units.effectiveUnits_pos.ne'
  unfold wireUnits wireRpm unitMps velocityUnitsToMps jointMps
  rw [sign_eq]
  field_simp
  ring

theorem feedbackMps_sub_jointMps : feedbackMps p jointRpm - jointMps p jointRpm =
    (sentUnits p jointRpm - p.units.wireUnits (wireRpm p jointRpm)) * p.units.unitMps := by
  unfold feedbackMps
  rw [velocityUnitsToMps_eq, ← wireUnits_mul_unitMps]
  ring

/-- The feedback does not have the other sign. -/
theorem jointRpm_mul_feedbackMps_nonneg : 0 ≤ jointRpm * feedbackMps p jointRpm := by
  have hlead := p.units.leadMmPerRev_pos
  have hjoint : jointRpm = jointMps p jointRpm * (60000 / p.units.leadMmPerRev) := by
    unfold jointMps
    field_simp
  have hfeedback : feedbackMps p jointRpm = sentUnits p jointRpm * p.units.unitMps :=
    p.units.velocityUnitsToMps_eq _
  have hproduct : jointRpm * feedbackMps p jointRpm =
      p.units.wireUnits (wireRpm p jointRpm) * sentUnits p jointRpm *
        (p.units.unitMps * p.units.unitMps) * (60000 / p.units.leadMmPerRev) := by
    calc jointRpm * feedbackMps p jointRpm
        = jointMps p jointRpm * (60000 / p.units.leadMmPerRev) * feedbackMps p jointRpm := by
          rw [← hjoint]
      _ = _ := by
          rw [hfeedback, ← wireUnits_mul_unitMps]
          ring
  rw [hproduct]
  have hwire := p.units.wireUnits_mul_nonneg (wireRpm p jointRpm)
  exact mul_nonneg (mul_nonneg hwire (mul_self_nonneg _)) (by positivity)

/-- The feedback of what is sent is the joint velocity. -/
structure UnitsConsistent : Prop where
  /-- Up to half a unit, exactly if the command is at most half a unit out of the 32-bit range. -/
  near_iff : |feedbackMps p jointRpm - jointMps p jointRpm| ≤ |p.units.velocityUnitsToMps 1| / 2 ↔
    int32Min - 1 / 2 ≤ p.units.wireUnits (wireRpm p jointRpm) ∧
      p.units.wireUnits (wireRpm p jointRpm) ≤ int32Max + 1 / 2
  /-- Never with the other sign. -/
  sign : 0 ≤ jointRpm * feedbackMps p jointRpm
  /-- The command saturates. -/
  above : int32Max ≤ p.units.wireUnits (wireRpm p jointRpm) → sentUnits p jointRpm = int32Max
  below : p.units.wireUnits (wireRpm p jointRpm) ≤ int32Min → sentUnits p jointRpm = int32Min
  range : int32Min ≤ sentUnits p jointRpm ∧ sentUnits p jointRpm ≤ int32Max

/-- Command and feedback agree for every configuration and every joint velocity. -/
theorem unitsConsistent : UnitsConsistent p jointRpm where
  near_iff := by
    have hpos : 0 < |p.units.unitMps| := abs_pos.mpr p.units.unitMps_ne_zero
    rw [feedbackMps_sub_jointMps, abs_mul, ← wireRpmToVelocityUnits_near_iff]
    show _ * |p.units.unitMps| ≤ |p.units.unitMps| / 2 ↔ _
    rw [div_eq_inv_mul, ← one_div, mul_le_mul_iff_of_pos_right hpos]
    rfl
  sign := jointRpm_mul_feedbackMps_nonneg p jointRpm
  above := p.units.wireRpmToVelocityUnits_of_le
  below := p.units.wireRpmToVelocityUnits_of_ge
  range := p.units.wireRpmToVelocityUnits_bounds _

/-- A bench with a fine encoder. -/
def fineBench : HardwareParameters :=
  { bench with units := { bench.units with effectiveCommandUnitsPerRev := 1000000000 } }

/-- On it a permitted velocity does not fit in 32 bits, and the feedback is far below it. -/
theorem feedbackMps_fineBench : (360 : ℚ) ≤ fineBench.maxRpm ∧
    ¬ |feedbackMps fineBench 360 - jointMps fineBench 360| ≤
      |fineBench.units.velocityUnitsToMps 1| / 2 := by
  decide +kernel

end MotionContext

end Hardware

end JointController
