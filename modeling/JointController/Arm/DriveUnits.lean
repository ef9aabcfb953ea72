import JointController.Library.TruncatedGain
import Mathlib.Data.Rat.Lemmas

/-!
# The drive units of the arm

`get_joint_real` converts the registers of a drive to the state of a joint and `set_joint_desire`
converts a desired state back.  Numbers are exact rationals.  A literal with the suffix `f` is the
single-precision number next to it, and a cast drops the fraction.

For a `ZERO` class motor the two position factors are no inverses: the product is a little below
one.  `holdMeasured` sends the measured position back.

* `holdMeasured_shrinks`: it moves every count but zero towards zero.
* `isHeld_iff`: only the count zero is held.
* `holdMeasured_iterate`: held for long enough, every axis drifts to zero.
-/

namespace JointController.Arm.DriveUnits

open TruncatedGain

/-- `ec_app_axis_read_reg_t`: what the conversion reads of it. -/
structure AxisReadReg where
  ecModestate : UInt8
  axisPosition : Int32
  axisVelocity : Int32
  axisEffort : Int32
  axisErrorCode : UInt16
  deriving DecidableEq

/-- `ec_app_axis_write_reg_t`: what the conversion writes of it. -/
structure AxisWriteReg where
  ecMode : UInt8
  axisPosition : Int32
  axisVelocity : Int32
  axisEffort : Int32
  axisCounter : UInt8
  deriving DecidableEq

/-- `MotorState`: what the conversions read and write of it. -/
structure MotorState where
  position : ℚ
  velocity : ℚ
  effort : ℚ
  errorCode : ℚ
  powerEnable : ℚ

/-! ## Constants -/

/-- The classes of `Motor_class`. -/
def MotorClass.zero : UInt8 := 1
def MotorClass.hc : UInt8 := 2
def MotorClass.fhdl : UInt8 := 3

/-- The modes of `RunMode` that the conversion looks at. -/
def RunMode.cubicPolynomial : UInt8 := 0
def RunMode.ruckig : UInt8 := 1
def RunMode.velocity : UInt8 := 2
def RunMode.effort : UInt8 := 3
def RunMode.externalPositionStream : UInt8 := 5

/-- The modes of `motor_mode`. -/
def MotorMode.csp : UInt8 := 8
def MotorMode.csv : UInt8 := 9
def MotorMode.cst : UInt8 := 10

/-- `1.1984224905356572107172559292906e-5`. -/
def radPerCount : ℚ := 1.1984224905356572107172559292906e-5

/-- `83443.026803763621f`, in single precision. -/
def countsPerRad : ℚ := 10680707 / 128

/-- `20860.713019171f`, in single precision. -/
def hcCountsPerRad : ℚ := 10680685 / 512

/-- `333778.371161549f`, in single precision. -/
def fhdlCountsPerRad : ℚ := 2670227 / 8

/-! ## The conversions -/

/-- `(int32_t)`.  Out of range it is undefined in C; the processor gives the least number. -/
def toInt32 (q : ℚ) : Int32 :=
  if Int32.minValue.toInt ≤ truncate q ∧ truncate q ≤ Int32.maxValue.toInt then
    Int32.ofInt (truncate q)
  else Int32.minValue

/-- `get_joint_real`. -/
def getJointReal (realReg : AxisReadReg) (motorState : MotorState) (motorClass motorCW : UInt8) :
    MotorState :=
  let position : ℚ := realReg.axisPosition.toInt
  let velocity : ℚ := realReg.axisVelocity.toInt
  let effort : ℚ := realReg.axisEffort.toInt
  let motorState := { motorState with errorCode := realReg.axisErrorCode.toNat }
  if motorClass = MotorClass.zero then
    if motorCW = 1 then
      { motorState with
        position := position * -radPerCount
        velocity := velocity * -radPerCount
        effort := effort * 0.001 * -2.55
        powerEnable := realReg.ecModestate.toNat }
    else
      { motorState with
        position := position * radPerCount
        velocity := velocity * radPerCount
        effort := effort * 0.001 * 2.55
        powerEnable := realReg.ecModestate.toNat }
  else if motorClass = MotorClass.hc then
    { motorState with
      position := position * -0.000047937 / 101
      velocity := velocity * -0.000047937 / 101
      effort := effort * -0.001 * 2.55 * 101
      powerEnable := realReg.ecModestate.toNat }
  else if motorClass = MotorClass.fhdl then
    if motorCW = 1 then
      { motorState with
        position := position * 0.000002996 * 16
        velocity := velocity * 0.000002996 * 16
        effort := effort * 0.001 * 2.55
        powerEnable := realReg.ecModestate.toNat }
    else
      { motorState with
        position := position * -0.000002996 * 16
        velocity := velocity * -0.000002996 * 16
        effort := effort * -0.001 * 2.55
        powerEnable := realReg.ecModestate.toNat }
  else motorState

/-- The mode that `set_joint_desire` requests of a `ZERO` class motor. -/
def zeroEcMode (motorMode ecMode : UInt8) : UInt8 :=
  if motorMode = RunMode.cubicPolynomial ∨ motorMode = RunMode.ruckig ∨
      motorMode = RunMode.externalPositionStream then MotorMode.csp
  else if motorMode = RunMode.velocity then MotorMode.csv
  else if motorMode = RunMode.effort then MotorMode.cst
  else ecMode

/-- `set_joint_desire`, with its static counter `num`. -/
def setJointDesire (num : UInt8) (desireReg : AxisWriteReg) (motorDesire : MotorState)
    (motorClass motorCW motorMode : UInt8) : UInt8 × AxisWriteReg :=
  if motorClass = MotorClass.zero then
    let desireReg := { desireReg with ecMode := zeroEcMode motorMode desireReg.ecMode }
    if motorCW = 1 then
      (num, { desireReg with
        axisPosition := toInt32 (motorDesire.position * -countsPerRad)
        axisVelocity := toInt32 (motorDesire.velocity * -countsPerRad)
        axisEffort := toInt32 (motorDesire.effort * -1) })
    else
      (num, { desireReg with
        axisPosition := toInt32 (motorDesire.position * countsPerRad)
        axisVelocity := toInt32 (motorDesire.velocity * countsPerRad)
        axisEffort := toInt32 (motorDesire.effort * 1) })
  else if motorClass = MotorClass.hc then
    (num, { desireReg with
      ecMode := 8
      axisPosition := toInt32 (motorDesire.position * -hcCountsPerRad * 101) })
  else if motorClass = MotorClass.fhdl then
    let gain := if motorCW = 1 then fhdlCountsPerRad else -fhdlCountsPerRad
    let next := num + 1
    (if next > 250 then 0 else next,
      { desireReg with
        axisVelocity := toInt32 (motorDesire.velocity * gain * 0.0625)
        axisCounter := num })
  else (num, desireReg)

/-! ## Holding a measured position -/

/-- The registers of a drive at a count. -/
def readAt (reg : AxisReadReg) (c : Int32) : AxisReadReg := { reg with axisPosition := c }

variable (num : UInt8) (readReg : AxisReadReg) (writeReg : AxisWriteReg) (state : MotorState)
variable (motorCW motorMode : UInt8)

/-- The count that is sent when the measured position is sent back to a `ZERO` class motor. -/
def holdMeasured (c : Int32) : Int32 :=
  (setJointDesire num writeReg (getJointReal (readAt readReg c) state MotorClass.zero motorCW)
    MotorClass.zero motorCW motorMode).2.axisPosition

/-- The measured position is sent back as exactly the count that was read, and it does not drift
when this is repeated. -/
def IsHeld (c : Int32) : Prop :=
  holdMeasured num readReg writeReg state motorCW motorMode c = c ∧
    ∀ n, (holdMeasured num readReg writeReg state motorCW motorMode)^[n] c = c

/-- The count that is sent is the product with both factors, for either direction. -/
theorem holdMeasured_eq (c : Int32) :
    holdMeasured num readReg writeReg state motorCW motorMode c =
      toInt32 (c.toInt * (radPerCount * countsPerRad)) := by
  unfold holdMeasured setJointDesire getJointReal readAt
  rw [if_pos rfl, if_pos rfl]
  by_cases hcw : motorCW = 1
  · rw [if_pos hcw, if_pos hcw]
    show toInt32 (c.toInt * -radPerCount * -countsPerRad) = _
    rw [mul_assoc, neg_mul_neg]
  · rw [if_neg hcw, if_neg hcw]
    show toInt32 (c.toInt * radPerCount * countsPerRad) = _
    rw [mul_assoc]

theorem gain_nonneg : 0 ≤ radPerCount * countsPerRad := by
  decide +kernel

theorem gain_lt_one : radPerCount * countsPerRad < 1 := by
  decide +kernel

/-- A number that is smaller than a count is in the range of the cast. -/
theorem toInt_toInt32 {q : ℚ} {c : Int32} (h : (truncate q).natAbs < c.toInt.natAbs) :
    (toInt32 q).toInt = truncate q := by
  have hlow := c.le_toInt
  have hhigh := c.toInt_lt
  have hmin : Int32.minValue.toInt = -2147483648 := by decide
  have hmax : Int32.maxValue.toInt = 2147483647 := by decide
  unfold toInt32
  rw [if_pos ⟨by omega, by omega⟩]
  exact Int32.toInt_ofInt_of_le (by omega) (by omega)

/-- Every count but zero is sent back smaller. -/
theorem holdMeasured_shrinks :
    Shrinks (fun c : Int32 => c.toInt.natAbs) 0
      (holdMeasured num readReg writeReg state motorCW motorMode) where
  keeps := by
    rw [holdMeasured_eq]
    decide +kernel
  lt c hc := by
    have hne : c.toInt ≠ 0 := fun h => hc (Int32.toInt_inj.mp h)
    have hlt := natAbs_truncate_lt hne gain_nonneg gain_lt_one
    show (holdMeasured num readReg writeReg state motorCW motorMode c).toInt.natAbs < _
    rw [holdMeasured_eq, toInt_toInt32 hlt]
    exact hlt

/-- Held for long enough, every axis drifts to the count zero. -/
theorem holdMeasured_iterate (c : Int32) :
    (holdMeasured num readReg writeReg state motorCW motorMode)^[c.toInt.natAbs] c = 0 :=
  (holdMeasured_shrinks num readReg writeReg state motorCW motorMode).iterate_eq le_rfl

/-- A measured position is held exactly if its count is zero. -/
theorem isHeld_iff (c : Int32) :
    IsHeld num readReg writeReg state motorCW motorMode c ↔ c = 0 := by
  have hshrinks := holdMeasured_shrinks num readReg writeReg state motorCW motorMode
  constructor
  · rintro ⟨-, hstays⟩
    exact (hshrinks.stays_iff c).mp hstays
  · intro hc
    have hstays := (hshrinks.stays_iff c).mpr hc
    exact ⟨hstays 1, hstays⟩

/-- The count one is sent back as zero, so it is not held. -/
theorem not_isHeld_one :
    ¬ IsHeld 0 ⟨0, 0, 0, 0, 0⟩ ⟨0, 0, 0, 0, 0⟩ ⟨0, 0, 0, 0, 0⟩ 0 0 1 := by
  rintro ⟨hexact, -⟩
  revert hexact
  decide +kernel

end JointController.Arm.DriveUnits
