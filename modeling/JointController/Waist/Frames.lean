import JointController.Hardware.Units

/-!
# The CAN frames of the waist drive

* `Frame`: what goes over the bus, with `Frame.releasesMotor`, the `0x100` frames that enable the
  motor and release the brake.
* `buildPositionFrameCommand`, `buildClearErrorFrameCommand`, `buildSdoWriteU16` and the others:
  the frames that the driver sends.
* `parseFeedback`: the `0x300` frames that it listens to.
* `releasesMotor_buildPositionFrameCommand`, and its failure at the other frames.
-/

namespace JointController

namespace Waist

/-- A classic or FD frame with a standard identifier. -/
structure Frame where
  canId : ℕ
  payload : List UInt8
  deriving DecidableEq

/-! ## Identifiers -/

/-- `kSyncId`. -/
def kSyncId : ℕ := 0x080

/-- `kFrameCommandBaseId`. -/
def kFrameCommandBaseId : ℕ := 0x100

/-- `kFeedbackBaseId`. -/
def kFeedbackBaseId : ℕ := 0x300

/-- `kSdoTxBaseId`. -/
def kSdoTxBaseId : ℕ := 0x600

/-- `frame_command_id`. -/
def frameCommandId (nodeId : ℕ) : ℕ := kFrameCommandBaseId ||| nodeId &&& 0x7F

/-- `feedback_id`. -/
def feedbackId (nodeId : ℕ) : ℕ := kFeedbackBaseId ||| nodeId &&& 0x7F

/-- `sdo_tx_id`. -/
def sdoTxId (nodeId : ℕ) : ℕ := kSdoTxBaseId ||| nodeId &&& 0x7F

/-- Only the identifiers of the SDO requests have the bit of `0x400`. -/
theorem sdoTxId_ne_frameCommandId (nodeId : ℕ) : sdoTxId nodeId ≠ frameCommandId nodeId := by
  intro h
  have hsdo : (sdoTxId nodeId).testBit 10 = true := by
    unfold sdoTxId kSdoTxBaseId
    rw [Nat.testBit_or]
    exact Bool.or_eq_true_iff.mpr (Or.inl (by decide))
  have hcommand : (frameCommandId nodeId).testBit 10 = false := by
    have hmask : (0x7F : ℕ).testBit 10 = false := by decide
    unfold frameCommandId kFrameCommandBaseId
    rw [Nat.testBit_or, Nat.testBit_and, hmask, Bool.and_false]
    decide
  rw [h, hcommand] at hsdo
  cases hsdo

/-! ## Frame commands -/

/-- `kFrameControlEnable`. -/
def kFrameControlEnable : UInt8 := 0x80

/-- `kFrameControlBrakeRelease`. -/
def kFrameControlBrakeRelease : UInt8 := 0x40

/-- `kFrameControlClearError`. -/
def kFrameControlClearError : UInt8 := 0x20

/-- `kFrameModeProfilePosition`. -/
def kFrameModeProfilePosition : UInt8 := 0x01

/-- A frame command whose control byte enables the motor and releases the brake. -/
def Frame.releasesMotor (nodeId : ℕ) (f : Frame) : Bool :=
  f.canId == frameCommandId nodeId && f.payload.head?.any fun control =>
    control &&& kFrameControlEnable != 0 && control &&& kFrameControlBrakeRelease != 0

/-- The two bytes of `static_cast<int16_t>(std::clamp(value, -32768, 32767))`, the high one
first. -/
def i16Bytes (value : ℤ) : List UInt8 :=
  let word := (Int16.ofInt (max (-32768) (min value 32767))).toUInt16
  [(word >>> 8).toUInt8, word.toUInt8]

/-- `build_position_frame_command`; the eighth byte is not sent. -/
def buildPositionFrameCommand (nodeId : ℕ) (targetRaw acceleration velocity : ℤ) : Frame where
  canId := frameCommandId nodeId
  payload := (kFrameControlEnable ||| kFrameControlBrakeRelease ||| kFrameModeProfilePosition <<< 1)
    :: (i16Bytes targetRaw ++ i16Bytes acceleration ++ i16Bytes velocity)

/-- `build_clear_error_frame_command`; the eighth byte is not sent. -/
def buildClearErrorFrameCommand (nodeId : ℕ) (clearError : Bool) : Frame where
  canId := frameCommandId nodeId
  payload := (if clearError then kFrameControlClearError else 0) :: List.replicate 6 0

/-- The vendor's sync frame, which asks for one feedback sample. -/
def syncFrame : Frame := ⟨kSyncId, []⟩

@[simp] theorem releasesMotor_buildPositionFrameCommand (nodeId : ℕ)
    (targetRaw acceleration velocity : ℤ) :
    (buildPositionFrameCommand nodeId targetRaw acceleration velocity).releasesMotor nodeId =
      true := by
  have hcontrol : ((kFrameControlEnable ||| kFrameControlBrakeRelease |||
      kFrameModeProfilePosition <<< 1) &&& kFrameControlEnable != 0 &&
      (kFrameControlEnable ||| kFrameControlBrakeRelease |||
        kFrameModeProfilePosition <<< 1) &&& kFrameControlBrakeRelease != 0) = true := by decide
  simp [Frame.releasesMotor, buildPositionFrameCommand, hcontrol]

@[simp] theorem releasesMotor_buildClearErrorFrameCommand (nodeId : ℕ) (clearError : Bool) :
    (buildClearErrorFrameCommand nodeId clearError).releasesMotor nodeId = false := by
  have hcontrol : ∀ b : Bool,
      (if b then kFrameControlClearError else 0) &&& kFrameControlEnable = 0 := by decide
  simp [Frame.releasesMotor, buildClearErrorFrameCommand, hcontrol clearError]

@[simp] theorem releasesMotor_syncFrame (nodeId : ℕ) : syncFrame.releasesMotor nodeId = false := by
  simp [Frame.releasesMotor, syncFrame]

/-! ## Requests of the object dictionary -/

/-- The objects that the driver reads or writes. -/
def kIndexControlword : UInt16 := 0x6040

/-- `kIndexMode`. -/
def kIndexMode : UInt16 := 0x6060

/-- `kIndexActualPosition`. -/
def kIndexActualPosition : UInt16 := 0x6064

/-- `kIndexSetZeroPosition`. -/
def kIndexSetZeroPosition : UInt16 := 0x2531

/-- `kIndexTargetVelocity`. -/
def kIndexTargetVelocity : UInt16 := 0x60FF

/-- An expedited SDO request to subindex 0. -/
def sdoRequest (nodeId : ℕ) (command : UInt8) (index : UInt16) (value : List UInt8) : Frame where
  canId := sdoTxId nodeId
  payload := [command, index.toUInt8, (index >>> 8).toUInt8, 0] ++ value

/-- `build_sdo_write_i8`. -/
def buildSdoWriteI8 (nodeId : ℕ) (index : UInt16) (value : UInt8) : Frame :=
  sdoRequest nodeId 0x2F index [value, 0, 0, 0]

/-- `build_sdo_write_u16`. -/
def buildSdoWriteU16 (nodeId : ℕ) (index value : UInt16) : Frame :=
  sdoRequest nodeId 0x2B index [value.toUInt8, (value >>> 8).toUInt8, 0, 0]

/-- `build_sdo_write_u32`, which `build_sdo_write_i32` is of the same 32 bits. -/
def buildSdoWriteU32 (nodeId : ℕ) (index : UInt16) (value : UInt32) : Frame :=
  sdoRequest nodeId 0x23 index
    [value.toUInt8, (value >>> 8).toUInt8, (value >>> 16).toUInt8, (value >>> 24).toUInt8]

/-- `build_sdo_read`. -/
def buildSdoRead (nodeId : ℕ) (index : UInt16) : Frame :=
  sdoRequest nodeId 0x40 index [0, 0, 0, 0]

@[simp] theorem releasesMotor_sdoRequest (nodeId : ℕ) (command : UInt8) (index : UInt16)
    (value : List UInt8) :
    (sdoRequest nodeId command index value).releasesMotor nodeId = false := by
  simp [Frame.releasesMotor, sdoRequest, sdoTxId_ne_frameCommandId nodeId]

/-! ## Feedback -/

/-- `Feedback`. -/
structure Feedback where
  positionRaw : Int16
  velocityRpm : Int16
  currentMa : Int16
  errorCode : UInt16
  temperatureTenthC : Int16
  mode : UInt8
  state : UInt8
  deriving DecidableEq

/-- `kFeedbackStateEnabled`. -/
def kFeedbackStateEnabled : UInt8 := 0x80

/-- `kFeedbackStateBrakeReleased`. -/
def kFeedbackStateBrakeReleased : UInt8 := 0x40

/-- `kFeedbackStateError`. -/
def kFeedbackStateError : UInt8 := 0x20

/-- Two bytes, the high one first. -/
def beToU16 (high low : UInt8) : UInt16 := high.toUInt16 <<< 8 ||| low.toUInt16

/-- `parse_feedback`. -/
def parseFeedback (nodeId : ℕ) (f : Frame) : Option Feedback :=
  if f.canId = feedbackId nodeId then
    match f.payload with
    | p₁ :: p₀ :: v₁ :: v₀ :: c₁ :: c₀ :: e₁ :: e₀ :: t₁ :: t₀ :: mode :: state :: _ =>
      some {
        positionRaw := (beToU16 p₁ p₀).toInt16
        velocityRpm := (beToU16 v₁ v₀).toInt16
        currentMa := (beToU16 c₁ c₀).toInt16
        errorCode := beToU16 e₁ e₀
        temperatureTenthC := (beToU16 t₁ t₀).toInt16
        mode := mode
        state := state }
    | _ => none
  else none

/-! ## Positions -/

/-- The value of the constant `kPi`. -/
def kPi : ℚ := 3.14159265358979323846

/-- `deg_to_raw`. -/
def degToRaw (deg : ℚ) : ℤ :=
  Hardware.LiftUnitConfig.llround (max (-180) (min deg 180) / 180 * 32768)

/-- `raw_to_rad`. -/
def rawToRad (raw : ℤ) : ℚ := raw / 32768 * kPi

end Waist

end JointController
