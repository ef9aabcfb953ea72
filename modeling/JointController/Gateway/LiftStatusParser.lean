import JointController.Library.Checks
import JointController.Library.FlatJson

/-!
# The status of the lift driver in the lower gateway

`lift_status_parser.cpp` reads the status text of the lift driver and decides on it whether the lift
may be powered and moved.  The reader of JSON is a parameter.

* `LiftDriverStatus`, `parseLiftDriverStatus`: what is read from a status text.
* `evaluateLiftSafety`: why a status blocks the motion.
* `liftPowerStateMatches`, `liftEnablePreconditionsMet`, `liftMotionPreconditionsMet`.
* `Reads`: the fields of a status are those of the members, with `parse_reads`.
* `shows_of_met`: what a status shows on which the motion is accepted.
-/

namespace JointController

namespace Gateway

namespace LiftStatusParser

open FlatJson

/-- `LiftDriverStatus`. -/
structure LiftDriverStatus where
  feedbackFresh : Bool
  ethercatOperational : Bool
  workingCounter : ℤ
  workingCounterOk : Bool
  initialized : Bool
  cia402State : String
  statusWord : UInt16
  errorCode : UInt16
  modeDisplay : ℤ
  commandEnabled : Bool
  enabled : Bool
  brakeUnlocked : Bool
  estopLatched : Bool
  motionBlocked : Bool
  quickStopActive : Bool
  position : Double
  velocity : Double
  commandPosition : Double
  commandVelocity : Double
  commandAcceleration : Double
  pdoTargetAvailable : Bool
  targetRpm : Double
  targetVelocityUnits : ℤ
  velocityModeActive : Bool
  faultReason : String

/-! ## Members -/

/-- The members of a JSON object. -/
abbrev Members := List (List Char × Value)

/-- `isMember`. -/
def isMember (root : Members) (name : String) : Bool := (find root name.toList).isSome

/-- `requiredBool`. -/
def requiredBool (root : Members) (name : String) : Except String Bool :=
  match find root name.toList with
  | some (.boolean value) => .ok value
  | _ => .error ("missing or invalid boolean field '" ++ name ++ "'")

/-- The integer of a value for which `isIntegral` holds. -/
def integral : Value → Option ℤ
  | .integer n => some n
  | .real (.finite q) => if q.den = 1 then some q.num else none
  | _ => none

/-- `requiredInteger`. -/
def requiredInteger (root : Members) (name : String) (minimum maximum : ℤ) : Except String ℤ :=
  match (find root name.toList).bind integral with
  | none => .error ("missing or invalid integer field '" ++ name ++ "'")
  | some value =>
    if value < minimum ∨ maximum < value then
      .error ("integer field '" ++ name ++ "' is out of range")
    else .ok value

/-- The number of a value for which `isNumeric` holds. -/
def numeric : Value → Option Double
  | .integer n => some (.finite n)
  | .real x => some x
  | _ => none

/-- `requiredDouble`. -/
def requiredDouble (root : Members) (name : String) : Except String Double :=
  match (find root name.toList).bind numeric with
  | none => .error ("missing or invalid numeric field '" ++ name ++ "'")
  | some value =>
    if value.isFinite then .ok value
    else .error ("numeric field '" ++ name ++ "' is not finite")

/-- `requiredString`. -/
def requiredString (root : Members) (name : String) : Except String String :=
  match find root name.toList with
  | some (.text value) => .ok (String.ofList value)
  | _ => .error ("missing or invalid string field '" ++ name ++ "'")

theorem requiredBool_of_find {root : Members} {name : String} {b : Bool}
    (h : find root name.toList = some (.boolean b)) : requiredBool root name = .ok b := by
  simp only [requiredBool, h]

theorem requiredString_of_find {root : Members} {name : String} {s : String}
    (h : find root name.toList = some (.text s.toList)) : requiredString root name = .ok s := by
  simp only [requiredString, h, String.ofList_toList]

/-- An integer that is read is the one of its member. -/
theorem eq_of_requiredInteger {root : Members} {name : String} {minimum maximum n value : ℤ}
    (h : find root name.toList = some (.integer n))
    (hread : requiredInteger root name minimum maximum = .ok value) : value = n := by
  simp only [requiredInteger, h, Option.bind_some, integral] at hread
  split at hread
  · cases hread
  · exact (Except.ok.inj hread).symm

/-! ## The status text -/

/-- `parseObject`. -/
def parseObject (parse : List Char → Except String Document) (json : List Char) :
    Except String Members :=
  match parse json with
  | .error error => .error ("invalid JSON: " ++ error)
  | .ok .other => .error "JSON root is not an object"
  | .ok (.object root) => .ok root

/-- The diagnostics of the target, which an older driver does not publish: `target_rpm`,
`target_velocity_units` and `velocity_mode_active`. -/
def parseTarget (root : Members) : Except String (Option (Double × ℤ × Bool)) :=
  if isMember root "target_rpm" ∨ isMember root "target_velocity_units" ∨
      isMember root "velocity_mode_active" then do
    let targetRpm ← requiredDouble root "target_rpm"
    let targetVelocityUnits ←
      requiredInteger root "target_velocity_units" (-2 ^ 31) (2 ^ 31 - 1)
    let velocityModeActive ← requiredBool root "velocity_mode_active"
    .ok (some (targetRpm, targetVelocityUnits, velocityModeActive))
  else .ok none

/-- The fields of a status, in the order in which they are read. -/
def parseFields (root : Members) : Except String LiftDriverStatus := do
  let feedbackFresh ← requiredBool root "feedback_fresh"
  let ethercatOperational ← requiredBool root "ethercat_operational"
  let workingCounter ← requiredInteger root "working_counter" (-2 ^ 31) (2 ^ 31 - 1)
  let workingCounterOk ← requiredBool root "working_counter_ok"
  let initialized ← requiredBool root "initialized"
  let cia402State ← requiredString root "cia402_state"
  let statusWord ← requiredInteger root "status_word" 0 65535
  let errorCode ← requiredInteger root "error_code" 0 65535
  let modeDisplay ← requiredInteger root "mode_display" (-128) 127
  let commandEnabled ← requiredBool root "power_enable_command"
  let enabled ← requiredBool root "power_enabled"
  let brakeUnlocked ← requiredBool root "brake_unlocked"
  let estopLatched ← requiredBool root "estop_latched"
  let motionBlocked ← requiredBool root "motion_blocked"
  let quickStopActive ← requiredBool root "quick_stop_active"
  let position ← requiredDouble root "position"
  let velocity ← requiredDouble root "velocity"
  let commandPosition ← requiredDouble root "command_position"
  let commandVelocity ← requiredDouble root "command_velocity"
  let commandAcceleration ← requiredDouble root "command_acceleration"
  let faultReason ← requiredString root "fault_reason"
  let target ← parseTarget root
  .ok
    { feedbackFresh, ethercatOperational, workingCounter, workingCounterOk, initialized
      cia402State
      statusWord := UInt16.ofNat statusWord.toNat
      errorCode := UInt16.ofNat errorCode.toNat
      modeDisplay, commandEnabled, enabled, brakeUnlocked, estopLatched, motionBlocked
      quickStopActive, position, velocity, commandPosition, commandVelocity, commandAcceleration
      pdoTargetAvailable := target.isSome
      targetRpm := (target.map Prod.fst).getD 0
      targetVelocityUnits := (target.map fun t => t.2.1).getD 0
      velocityModeActive := (target.map fun t => t.2.2).getD false
      faultReason }

/-- `parseLiftDriverStatus`. -/
def parseLiftDriverStatus (parse : List Char → Except String Document) (json : List Char) :
    Except String LiftDriverStatus := do
  let root ← parseObject parse json
  parseFields root

/-- `LiftControlStatus`. -/
structure LiftControlStatus where
  faultReason : String
  mode : String
  trajectoryActive : Bool
  jogActive : Bool

/-- `parseLiftControlStatus`.  An older controller does not publish `fault_reason`. -/
def parseLiftControlStatus (parse : List Char → Except String Document) (json : List Char) :
    Except String LiftControlStatus := do
  let root ← parseObject parse json
  let mode ← requiredString root "mode"
  let trajectoryActive ← requiredBool root "trajectory_active"
  let jogActive ← requiredBool root "jog_active"
  let faultReason := (requiredString root "fault_reason").toOption.getD ""
  .ok { faultReason, mode, trajectoryActive, jogActive }

/-! ## The decisions -/

/-- `kExpectedLiftModeDisplay`: CSV. -/
def expectedLiftModeDisplay : ℤ := 9

/-- The CiA 402 state in a status word, by `kCia402StateMask`. -/
def cia402StateBits (statusWord : UInt16) : UInt16 := statusWord &&& 0x006f

/-- `LiftSafetyStatus`. -/
structure LiftSafetyStatus where
  fault : Bool
  motionBlocked : Bool
  faultReason : String

/-- `isEmptyFaultReason`. -/
def isEmptyFaultReason (reason : String) : Bool :=
  reason == "" || reason == "none" || reason == "N/A"

namespace LiftDriverStatus

variable (status : LiftDriverStatus)

/-- The link of the driver has recovered. -/
def communicationRecovered : Bool :=
  status.feedbackFresh && status.ethercatOperational && status.workingCounterOk &&
    status.initialized

/-- `liftPowerStateMatches`. -/
def liftPowerStateMatches (enabled : Bool) : Bool :=
  status.communicationRecovered &&
    if enabled then
      status.commandEnabled && status.enabled && status.brakeUnlocked &&
        status.cia402State == "operation_enabled" && cia402StateBits status.statusWord == 0x0027
    else
      !status.commandEnabled && !status.enabled && !status.brakeUnlocked &&
        (cia402StateBits status.statusWord == 0x0021 || cia402StateBits status.statusWord == 0x0023)

/-- The drive reports a fault. -/
def fault : Bool :=
  status.cia402State == "fault" || status.cia402State == "fault_reaction_active" ||
    status.errorCode != 0

/-- A motion latch of the driver counts unless its reason is the ambiguous one of older drivers, or
a PDO exchange that has recovered. -/
def latchCounts : Bool :=
  status.motionBlocked && status.faultReason != "CiA 402 fault or mode mismatch" &&
    !(status.communicationRecovered && status.faultReason == "PDO exchange failed")

/-- The reasons that block the motion. -/
def reasons : List String :=
  (if status.fault then
    ["CiA 402 fault: state=" ++ status.cia402State ++ " status_word=" ++
      toString status.statusWord.toNat ++ " error_code=" ++ toString status.errorCode.toNat]
    else []) ++
  (if status.modeDisplay ≠ expectedLiftModeDisplay then
    ["operation mode mismatch: expected_mode=" ++ toString expectedLiftModeDisplay ++
      " (CSV) actual_mode=" ++ toString status.modeDisplay]
    else []) ++
  (if status.estopLatched then ["emergency stop latched"] else []) ++
  (if status.quickStopActive then ["CiA 402 quick stop active"] else []) ++
  (if status.latchCounts then
    [if isEmptyFaultReason status.faultReason then "lift driver reported a motion safety latch"
      else status.faultReason]
    else [])

/-- `evaluateLiftSafety`. -/
def evaluateLiftSafety : LiftSafetyStatus where
  fault := status.fault
  motionBlocked := !status.reasons.isEmpty
  faultReason := String.intercalate "; " status.reasons

/-- `liftEnablePreconditionsMet`. -/
def liftEnablePreconditionsMet (workspaceRunning : Bool) : Except String Unit := do
  Checks.refuse (¬ workspaceRunning) "lift power enable requires workspace RUNNING"
  Checks.refuse (¬ status.feedbackFresh) "lift power enable requires fresh PDO feedback"
  Checks.refuse (¬ status.ethercatOperational) "lift power enable requires EtherCAT Operational"
  Checks.refuse (¬ status.workingCounterOk) "lift power enable requires a complete WorkingCounter"
  Checks.refuse (¬ status.initialized) "lift power enable requires initialized hardware"
  let safety := status.evaluateLiftSafety
  Checks.refuse
    (status.estopLatched ∨ status.quickStopActive ∨ safety.fault ∨ safety.motionBlocked)
    (if safety.faultReason = "" then "lift power enable rejected by the current safety state"
      else safety.faultReason)

/-- How a flag is written. -/
def flagText (b : Bool) : String := if b then "true" else "false"

/-- `liftMotionPreconditionsMet`. -/
def liftMotionPreconditionsMet (workspaceRunning : Bool) : Except String Unit := do
  status.liftEnablePreconditionsMet workspaceRunning
  Checks.refuse (¬ status.liftPowerStateMatches true)
    ("lift motion requires confirmed Operation Enabled and brake release: " ++
      "command_enabled=" ++ flagText status.commandEnabled ++
      " enabled=" ++ flagText status.enabled ++
      " brake_unlocked=" ++ flagText status.brakeUnlocked ++
      " cia402_state=" ++ status.cia402State ++
      " status_word=" ++ toString status.statusWord.toNat)

/-! ## What an accepted status shows -/

/-- The driver reports a drive in operation enabled whose brake is released, and no stop. -/
structure ShowsMotion : Prop where
  feedbackFresh : status.feedbackFresh = true
  initialized : status.initialized = true
  commandEnabled : status.commandEnabled = true
  enabled : status.enabled = true
  brakeUnlocked : status.brakeUnlocked = true
  operationEnabled : cia402StateBits status.statusWord = 0x0027
  estopLatched : status.estopLatched = false
  quickStopActive : status.quickStopActive = false
  errorCode : status.errorCode = 0

variable {status}

theorem shows_of_met {workspaceRunning : Bool}
    (h : status.liftMotionPreconditionsMet workspaceRunning = .ok ()) : status.ShowsMotion := by
  simp only [liftMotionPreconditionsMet, liftEnablePreconditionsMet, Checks.bind_eq_ok,
    Checks.refuse_eq_ok, not_not, not_or] at h
  obtain ⟨⟨-, -, -, -, -, hestop, hquickStop, hfault, -⟩, hpower⟩ := h
  simp only [liftPowerStateMatches, communicationRecovered, if_true, Bool.and_eq_true,
    beq_iff_eq] at hpower
  obtain ⟨⟨⟨⟨hfresh, -⟩, -⟩, hinitialized⟩, ⟨⟨⟨hcommand, henabled⟩, hbrake⟩, -⟩, hbits⟩ := hpower
  have hnoFault : status.fault = false := eq_false_of_ne_true hfault
  simp only [fault, Bool.or_eq_false_iff, bne_eq_false_iff_eq] at hnoFault
  exact ⟨hfresh, hinitialized, hcommand, henabled, hbrake, hbits, eq_false_of_ne_true hestop,
    eq_false_of_ne_true hquickStop, hnoFault.2⟩

end LiftDriverStatus

/-- `liftCommandRequestValid`. -/
def liftCommandRequestValid (jointNames : List String) (values : List Double)
    (velocityMps accelerationMps2 : Double) (expectedJointName : String) : Except String Unit :=
  Checks.refuse
    (jointNames ≠ [expectedJointName] ∨ values.length ≠ 1 ∨ ¬ (values.headD 0).isFinite ∨
      ¬ velocityMps.isFinite ∨ velocityMps ≤ 0 ∨
      ¬ accelerationMps2.isFinite ∨ accelerationMps2 ≤ 0)
    ("lift command requires joint_names=['" ++ expectedJointName ++
      "'], one finite target, vel>0 m/s and acc>0 m/s^2")

/-! ## The members of an accepted text -/

/-- The flags, the states and the codes of a status are those of the members. -/
structure Reads (root : Members) (status : LiftDriverStatus) : Prop where
  feedbackFresh : requiredBool root "feedback_fresh" = .ok status.feedbackFresh
  ethercatOperational : requiredBool root "ethercat_operational" = .ok status.ethercatOperational
  workingCounterOk : requiredBool root "working_counter_ok" = .ok status.workingCounterOk
  initialized : requiredBool root "initialized" = .ok status.initialized
  cia402State : requiredString root "cia402_state" = .ok status.cia402State
  statusWord : ∃ n, requiredInteger root "status_word" 0 65535 = .ok n ∧
    status.statusWord = UInt16.ofNat n.toNat
  errorCode : ∃ n, requiredInteger root "error_code" 0 65535 = .ok n ∧
    status.errorCode = UInt16.ofNat n.toNat
  modeDisplay : requiredInteger root "mode_display" (-128) 127 = .ok status.modeDisplay
  commandEnabled : requiredBool root "power_enable_command" = .ok status.commandEnabled
  enabled : requiredBool root "power_enabled" = .ok status.enabled
  brakeUnlocked : requiredBool root "brake_unlocked" = .ok status.brakeUnlocked
  estopLatched : requiredBool root "estop_latched" = .ok status.estopLatched
  motionBlocked : requiredBool root "motion_blocked" = .ok status.motionBlocked
  quickStopActive : requiredBool root "quick_stop_active" = .ok status.quickStopActive
  faultReason : requiredString root "fault_reason" = .ok status.faultReason

theorem parseFields_reads {root : Members} {status : LiftDriverStatus}
    (h : parseFields root = .ok status) : Reads root status := by
  simp only [parseFields, Checks.bind_eq_ok_iff_exists] at h
  obtain ⟨_, h1, _, h2, _, -, _, h4, _, h5, _, h6, _, h7, _, h8, _, h9, _, h10, _, h11, _, h12, _,
    h13, _, h14, _, h15, _, -, _, -, _, -, _, -, _, -, _, h21, _, -, hstatus⟩ := h
  obtain rfl := (Except.ok.inj hstatus).symm
  exact ⟨h1, h2, h4, h5, h6, ⟨_, h7, rfl⟩, ⟨_, h8, rfl⟩, h9, h10, h11, h12, h13, h14, h15, h21⟩

theorem parse_reads {parse : List Char → Except String Document} {json : List Char}
    {status : LiftDriverStatus} (h : parseLiftDriverStatus parse json = .ok status) :
    ∃ root, parse json = .ok (.object root) ∧ Reads root status := by
  obtain ⟨root, hroot, hfields⟩ := Checks.bind_eq_ok_iff_exists.mp h
  refine ⟨root, ?_, parseFields_reads hfields⟩
  unfold parseObject at hroot
  split at hroot
  · cases hroot
  · cases hroot
  · cases hroot
    assumption

end LiftStatusParser

end Gateway

end JointController
