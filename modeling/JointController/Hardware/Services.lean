import JointController.Hardware.State

/-!
# The services of the lift hardware

The handlers run one at a time on the service thread.  Two of them wait for the control cycle, and
are modelled by the points where they wait.

* `handleBrakeCommand`, `handleResetVelocity`, `handleResetHold`, `handleResetZero`, `handleEstop`,
  `handleSafetyReset`: the handlers that answer at once.
* `completePendingZero`: the new zero offset is saved, by the status timer.
* `handleHome`, `handleSetDriveZero`: the maintenance handlers up to where they wait first.
* `LiftHardware.maintain`: what a maintenance handler does when it has waited.
-/

namespace JointController

namespace Hardware

/-- The answer of a service. -/
structure ServiceResponse where
  success : Bool
  message : String
  deriving DecidableEq

namespace LiftHardware

variable (p : HardwareParameters) (hw : LiftHardware) (now : ℕ)

/-! ## The brake and the takeover -/

/-- `handle_brake_command`. -/
def handleBrakeCommand (data : Bool) : ServiceResponse × LiftHardware :=
  if data ∧ ¬ p.brakeControlEnabled then
    (⟨false, "brake_control_enabled is false; unlock refused"⟩, hw)
  else if data ∧ hw.estopLatched then
    (⟨false, "brake release refused while emergency stop is latched"⟩, hw)
  else if data ∧ hw.motionBlocked then
    (⟨false, "brake release refused while a latched lift motion fault is active"⟩, hw)
  else if ¬ data then
    (⟨true, "controlled stop and brake lock requested; Quick Stop is sent on the next 10 ms " ++
      "cycle and LD3M-EC drives BR+/BR- automatically"⟩,
      { hw with
        brake := { hw.brake with
          requestEnable := false
          serviceDisableLatched := true
          stopRequested := true
          unlocked := false
          stopTimeout := false }
        takeover := { hw.takeover with velocityRequest := false, velocityStopPending := false } })
  else
    (⟨true, "Operation enabled requested; brake unlock and P04.38 release timing are checked " ++
      "before motion"⟩,
      { hw with brake := { hw.brake with
        requestEnable := true
        serviceDisableLatched := false
        stopRequested := false
        stopTimeout := false } })

/-- A reset search may start at the current position. -/
def homingWindow : Bool :=
  decide (hw.feedback.positionM ≤ p.positionMaxM + p.resetMaxSearchTravelM + p.commandEpsilonM) &&
    decide (p.positionMinM - p.resetMaxSearchTravelM - p.commandEpsilonM ≤ hw.feedback.positionM)

/-- `handle_reset_velocity`. -/
def handleResetVelocity (data : Bool) : ServiceResponse × LiftHardware :=
  if ¬ data then
    (⟨true, "reset velocity takeover stopped; controlled zero-speed hold requested"⟩,
      { hw with takeover := { hw.takeover with
        velocityRequest := false
        velocityStopPending := true
        holdTargetM := hw.feedback.positionM
        holdRequest := true } })
  else if hw.estopLatched then
    (⟨false, "reset velocity refused while emergency stop is latched"⟩, hw)
  else if ¬ p.resetVelocityDebugEnabled then
    (⟨false, "reset velocity debug takeover is disabled by configuration"⟩, hw)
  else if ¬ p.brakeControlEnabled then
    (⟨false, "reset velocity refused because brake_control_enabled is false"⟩, hw)
  else if ¬ hw.feedbackIsFresh p now then
    (⟨false, "reset velocity refused because PDO feedback is stale"⟩, hw)
  else if ¬ hw.homingWindow p then
    (⟨false, "reset velocity refused because the current position is outside the bounded homing " ++
      "search window; move the lift toward the valid range first"⟩, hw)
  else if hw.motionBlocked then
    (⟨false, "reset velocity refused while a latched motion fault is active"⟩, hw)
  else
    (⟨true,
      if hw.takeover.velocityRequest then "reset velocity watchdog refreshed"
      else "bounded reset velocity takeover requested through CSV/PDO"⟩,
      { hw with
        brake := { hw.brake with requestEnable := true }
        takeover := { hw.takeover with
          velocityRequest := true
          searchStartPositionM :=
            if hw.takeover.velocityRequest then hw.takeover.searchStartPositionM
            else hw.feedback.positionM
          velocityStopPending := false
          holdRequest := false
          velocityStartTime := now } })

/-- `handle_reset_hold`. -/
def handleResetHold (data : Bool) : ServiceResponse × LiftHardware :=
  if ¬ data then
    (⟨true, "reset hold released"⟩,
      { hw with takeover := { hw.takeover with holdRequest := false } })
  else if hw.estopLatched then
    (⟨false, "reset hold refused while emergency stop is latched"⟩, hw)
  else if ¬ hw.feedbackIsFresh p now then
    (⟨false, "reset hold refused because PDO feedback is stale"⟩, hw)
  else
    (⟨true, "reset hold captured the current host position and uses CSV/PDO velocity control"⟩,
      { hw with takeover := { hw.takeover with
        holdTargetM := hw.feedback.positionM
        holdRequest := true } })

/-! ## The zero offset -/

/-- `handle_reset_zero`. -/
def handleResetZero : ServiceResponse × LiftHardware :=
  if hw.estopLatched then
    (⟨false, "zero refused while emergency stop is latched"⟩, hw)
  else if ¬ hw.feedbackIsFresh p now ∨ ¬ hw.stationary p then
    (⟨false, "zero refused until PDO feedback is fresh and velocity is near zero"⟩, hw)
  else
    (⟨true, "zero request accepted; drive will stop, disable and persist the current 6064h as a " ++
      "host zero offset (no HM or P00.15 write)"⟩,
      { hw with
        takeover := { hw.takeover with
          velocityRequest := false
          velocityStopPending := true
          holdRequest := false }
        brake := { hw.brake with requestEnable := false, stopRequested := true, unlocked := false }
        zero := { hw.zero with requestPending := true } })

/-- The conditions under which a zero request is completed. -/
def zeroReady : Bool :=
  hw.active && hw.zero.requestPending && hw.zero.disableObserved &&
    (!p.brakeControlEnabled || !hw.brake.unlocked) && hw.feedbackIsFresh p now && hw.stationary p

/-- `complete_pending_zero`: the offset is saved, or the failure to save it blocks the motion. -/
def completePendingZero (saveOk : Bool) : LiftHardware :=
  if ¬ hw.zeroReady p now then hw
  else
    let done := { hw.zero with requestPending := false, disableObserved := false }
    if ¬ p.usePersistentZeroOffset then
      { hw with
        zero := { done with offsetUnits := 0, offsetUnitsAtomic := 0, offsetLoaded := false }
        errorReasonCode := 0 }
    else if ¬ saveOk then
      { hw with
        zero := done
        errorReasonCode := 4
        motionBlocked := true
        latchedMotionReasonCode := 4 }
    else
      { hw with
        zero := { done with offsetUnitsAtomic := hw.feedback.positionUnits, applyPending := true }
        errorReasonCode := 0 }

/-! ## The emergency stop -/

/-- `handle_estop`. -/
def handleEstop : ServiceResponse × LiftHardware :=
  (⟨true,
    "lift emergency stop latched; next 100 Hz cycle forces zero 60FFh and CiA 402 Quick Stop"⟩,
    { hw with
      estopLatched := true
      errorReasonCode := 8
      latchedMotionReasonCode := 8
      brake := { hw.brake with requestEnable := false, stopRequested := true, unlocked := false }
      takeover := { hw.takeover with
        velocityRequest := false
        velocityStopPending := true
        holdRequest := false
        holdTargetM := hw.feedback.positionM }
      zero := { hw.zero with requestPending := false } })

/-- The upper controller asks for the position that the lift has, and for no motion. -/
def commandCleared : Bool :=
  decide ((hw.transmitted.position - .finite hw.feedback.positionM).abs ≤
      .finite p.commandEpsilonM) &&
    decide (hw.transmitted.velocity.abs ≤ .finite p.stationaryVelocityThresholdMps) &&
    decide (hw.transmitted.acceleration.abs ≤ .finite (1 / 10 ^ 6))

/-- The conditions of a safety reset. -/
def safetyResetReady : Bool :=
  hw.active && hw.transport.linkState == .operational && hw.feedbackIsFresh p now &&
    !hw.transport.faultActive && hw.feedback.errorCode == 0 && hw.feedback.modeDisplay == 9 &&
    hw.stationary p && hw.commandCleared p

/-- `handle_safety_reset`. -/
def handleSafetyReset : ServiceResponse × LiftHardware :=
  if ¬ hw.estopLatched ∧ ¬ hw.motionBlocked then
    (⟨true, "lift safety state is not latched"⟩, hw)
  else if ¬ hw.safetyResetReady p now then
    (⟨false, "safety reset refused: require Operational/fresh PDO, CSV mode, no fault, " ++
      "stationary feedback and cleared upper command"⟩, hw)
  else
    (⟨true, "safety reset accepted; HOLD current position, old motion is not resumed"⟩,
      { hw with
        takeover := { hw.takeover with
          holdTargetM := hw.feedback.positionM
          holdRequest := true
          velocityRequest := false
          velocityStopPending := false }
        brake := { hw.brake with requestEnable := false, stopRequested := true }
        motionBlocked := false
        latchedMotionReasonCode := 0
        positionLimitViolation := false
        limitRecoveryActive := false
        modeMismatchCycles := 0
        cia402 := hw.cia402.reset
        estopLatched := false
        errorReasonCode := 0
        continuityResetPending := true })

/-! ## Drive maintenance -/

/-- A maintenance handler stops the drive before it goes on. -/
def stopForMaintenance : LiftHardware :=
  { hw with
    brake := { hw.brake with requestEnable := false, stopRequested := true }
    takeover := { hw.takeover with velocityRequest := false, holdRequest := false } }

/-- `handle_home`, up to the wait for the drive to stop.  Without an answer it waits. -/
def handleHome : Option ServiceResponse × LiftHardware :=
  if hw.estopLatched ∨ hw.motionBlocked then
    (some ⟨false, "homing refused while the lift safety state is latched"⟩, hw)
  else if ¬ p.brakeControlEnabled then
    (some ⟨false, "homing refused because brake_control_enabled is false"⟩, hw)
  else if hw.homing.active ∨ hw.homing.driveZeroPending then
    (some ⟨false, "another drive maintenance operation is already active"⟩, hw)
  else if ¬ hw.feedbackIsFresh p now ∨ ¬ hw.stationary p then
    (some ⟨false, "homing requires fresh, stationary PDO feedback"⟩, hw)
  else (none, { hw.stopForMaintenance with maintenance := .homeStops })

/-- `handle_set_drive_zero`, up to the wait for the drive to stop. -/
def handleSetDriveZero : Option ServiceResponse × LiftHardware :=
  if hw.estopLatched then
    (some ⟨false, "drive zero refused while emergency stop is latched"⟩, hw)
  else if hw.homing.driveZeroPending ∨ hw.homing.active then
    (some ⟨false, "another drive maintenance operation is already active"⟩,
      { hw with homing := { hw.homing with driveZeroPending := true } })
  else if ¬ hw.feedbackIsFresh p now ∨ ¬ hw.stationary p then
    (some ⟨false, "drive zero requires fresh, stationary PDO feedback"⟩,
      { hw with homing := { hw.homing with driveZeroPending := false } })
  else
    (none, { hw.stopForMaintenance with
      homing := { hw.homing with driveZeroPending := true }
      maintenance := .driveZeroStops })

/-- What a maintenance handler finds when it looks again: the time, whether its deadline has passed,
how many of its SDO writes the drive accepts and whether the offset can be saved. -/
structure MaintenanceInput where
  now : ℕ
  timedOut : Bool
  acceptedWrites : ℕ
  saveOk : Bool
  deriving DecidableEq

/-- An SDO write: index, subindex and bytes. -/
structure SdoWrite where
  index : ℕ
  subindex : ℕ
  value : List ℕ
  deriving DecidableEq

/-- `encode_u32_le`. -/
def encodeU32Le (value : ℕ) : List ℕ :=
  [value % 256, value / 256 % 256, value / 65536 % 256, value / 16777216 % 256]

/-- `encode_i32_le`. -/
def encodeI32Le (value : ℤ) : List ℕ := encodeU32Le (value % 2 ^ 32).toNat

/-- The writes that set a homing run up. -/
def homingWrites : List SdoWrite :=
  [⟨0x6098, 0, [(p.homingMethod % 256).toNat]⟩,
    ⟨0x6099, 1, encodeU32Le p.homingSpeedHighUnitsS⟩,
    ⟨0x6099, 2, encodeU32Le p.homingSpeedLowUnitsS⟩,
    ⟨0x609a, 0, encodeU32Le p.homingAccelerationUnitsS2⟩,
    ⟨0x607c, 0, encodeI32Le p.homingOffsetUnits⟩, ⟨0x6060, 0, [6]⟩]

/-- The condition that `wait_for_drive_stop` waits for. -/
def driveStopped : Bool :=
  !hw.powerEnabled && hw.feedbackIsFresh p now && hw.stationary p &&
    hw.brake.stopPhase == .disabled

variable (m : MaintenanceInput)

/-- A wait is given up. -/
def waitFails : Bool := !hw.active || m.timedOut

/-- `handle_home` behind the first stop. -/
def homeStopped : Option ServiceResponse × LiftHardware :=
  if hw.waitFails m then
    (some ⟨false, "homing refused because the controlled drive stop timed out"⟩,
      { hw with maintenance := .idle })
  else if ¬ hw.driveStopped p m.now then (none, hw)
  else if m.acceptedWrites < (homingWrites p).length then
    (some ⟨false, "LD3M HM parameters or 6060h=6 could not be written"⟩,
      { hw with maintenance := .idle })
  else
    (none, { hw with
      homing := { hw.homing with
        complete := false
        failed := false
        active := true
        startRequested := true }
      brake := { hw.brake with
        serviceDisableLatched := false
        stopRequested := false
        requestEnable := true }
      maintenance := .homeSearches })

/-- `handle_home` behind the homing run. -/
def homeSearched : Option ServiceResponse × LiftHardware :=
  if ¬ hw.waitFails m ∧ ¬ hw.homing.failed ∧ ¬ hw.homing.complete then (none, hw)
  else
    let homed := !hw.waitFails m && !hw.homing.failed
    (none, { hw with
      brake := { hw.brake with requestEnable := false, stopRequested := true }
      maintenance := .homeDisables homed })

/-- `handle_home` behind the second stop. -/
def homeDisabled (homed : Bool) : Option ServiceResponse × LiftHardware :=
  if hw.waitFails m then
    (some ⟨false, "homing stopped, but the controlled disable timed out"⟩,
      { hw with homing := { hw.homing with active := false }, maintenance := .idle })
  else if ¬ hw.driveStopped p m.now then (none, hw)
  else
    -- 6060h=9
    let failed := !homed || m.acceptedWrites == 0
    let homing := { hw.homing with active := false, startRequested := false, failed := failed }
    if failed then
      (some ⟨false, "LD3M homing failed or timed out; the drive remains disabled"⟩,
        { hw with homing := homing, maintenance := .idle })
    else
      (none, { hw with
        homing := homing
        zero := { hw.zero with requestPending := true, disableObserved := false }
        maintenance := .homeSavesZero })

/-- `handle_home` while it waits for the host zero. -/
def homeSavesZero : Option ServiceResponse × LiftHardware :=
  let failure : ServiceResponse :=
    ⟨false, "homing completed, but the host zero offset could not be saved"⟩
  if hw.waitFails m then (some failure, { hw with maintenance := .idle })
  else
    let hw := hw.completePendingZero p m.now m.saveOk
    if hw.zero.requestPending then (none, hw)
    else if hw.errorReasonCode = 0 then
      (some ⟨true, "LD3M HM homing completed, CSV mode restored and zero saved"⟩,
        { hw with maintenance := .idle })
    else (some failure, { hw with maintenance := .idle })

/-- `handle_set_drive_zero` behind the stop. -/
def driveZeroStopped : Option ServiceResponse × LiftHardware :=
  let hwDone := { hw with
    homing := { hw.homing with driveZeroPending := false }
    maintenance := .idle }
  if hw.waitFails m then
    (some ⟨false, "drive zero refused because the controlled drive stop timed out"⟩, hwDone)
  else if ¬ hw.driveStopped p m.now then (none, hw)
  else if m.acceptedWrites = 0 then
    (some ⟨false, "LD3M P00.15=9 (2015h) was refused by the drive"⟩, hwDone)
  else
    let bumped := { hwDone with
      zero := { hwDone.zero with generation := hwDone.zero.generation + 1 } }
    -- the handler publishes the status, which completes a pending zero
    (some ⟨true,
      "LD3M P00.15=9 accepted while disabled; power-cycle/restart the drive and verify " ++
      "its absolute position before motion. This does not set the ROS coordinate zero."⟩,
      bumped.completePendingZero p m.now m.saveOk)

/-- A maintenance handler looks again. -/
def maintain : Option ServiceResponse × LiftHardware :=
  match hw.maintenance with
  | .idle => (none, hw)
  | .homeStops => hw.homeStopped p m
  | .homeSearches => hw.homeSearched m
  | .homeDisables homed => hw.homeDisabled p m homed
  | .homeSavesZero => hw.homeSavesZero p m
  | .driveZeroStops => hw.driveZeroStopped p m

end LiftHardware

end Hardware

end JointController
