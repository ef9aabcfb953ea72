import JointController.Hardware.MotionReason
import JointController.Library.FlatJson

/-!
# The status text of the lift driver

`publish_driver_status` writes the state of the hardware as one JSON object.

* `NumberFormat`, `StatusCopies`: how numbers are printed, and the copies that only the text shows.
* `statusMembers`, `publishDriverStatus`: the members and the text.
* `statusMembers_plain`: the text is one of a flat object with different keys.
-/

namespace JointController

namespace Hardware

open FlatJson

/-! ## What the text shows -/

/-- The text of a floating-point number, as a stream prints it. -/
structure NumberText where
  chars : List Char
  ofNumber : ∀ c ∈ chars, ofNumber c = true

/-- How a stream prints floating-point numbers, with its default precision and with
`std::setprecision(9)`. -/
structure NumberFormat where
  print : Double → NumberText
  printFine : Double → NumberText

/-- A text that needs no escapes. -/
structure PlainText where
  chars : List Char
  plain : ∀ c ∈ chars, plain c = true

/-- The jump that `latch_motion_fault` was called for last. -/
structure JumpDetails where
  previousPositionM : Double
  currentPositionM : Double
  deltaM : Double
  intervalMs : Double
  source : ℕ
  epoch : ℕ

/-- The copies that only the status text shows, and the configured name of the backend. -/
structure StatusCopies where
  targetWireRpm : Double
  targetVelocityUnits : ℤ
  faultResetAttempts : ℕ
  recoveryExhausted : Bool
  feedbackBaselineValid : Bool
  feedbackEpoch : ℕ
  jump : JumpDetails
  backendName : PlainText

/-- `link_state_string`. -/
def linkStateString : EthercatLinkState → String
  | .offline => "offline"
  | .init => "init"
  | .preOperational => "pre_operational"
  | .safeOperational => "safe_operational"
  | .operational => "operational"

/-- `cia_state_string`. -/
def ciaStateString : Cia402State → String
  | .notReadyToSwitchOn => "not_ready"
  | .switchOnDisabled => "switch_on_disabled"
  | .readyToSwitchOn => "ready_to_switch_on"
  | .switchedOn => "switched_on"
  | .operationEnabled => "operation_enabled"
  | .quickStopActive => "quick_stop_active"
  | .faultReactionActive => "fault_reaction_active"
  | .fault => "fault"
  | .unknown => "unknown"

/-- `brake_stop_phase_string`. -/
def brakeStopPhaseString : BrakeStopPhase → String
  | .disabled => "disabled"
  | .idle => "idle"
  | .quickStop => "quick_stop"

/-- The name of the source of a jump. -/
def sourceName : ℕ → String
  | 1 => "mock"
  | 2 => "etherlab"
  | 3 => "real_sdk"
  | _ => "unknown"

/-- What the text of a jump goes on with. -/
def JumpDetails.text (format : NumberFormat) (thresholdM : ℚ) (jump : JumpDetails) : String :=
  String.ofList (format.printFine jump.previousPositionM).chars ++ "m current=" ++
    String.ofList (format.printFine jump.currentPositionM).chars ++ "m delta=" ++
    String.ofList (format.printFine jump.deltaM).chars ++ "m threshold=" ++
    String.ofList (format.printFine (.finite thresholdM)).chars ++ "m interval=" ++
    String.ofList (format.printFine jump.intervalMs).chars ++ "ms source=" ++
    sourceName jump.source ++ " epoch=" ++ String.ofList (integerText jump.epoch)

/-! ## Members -/

/-- A member of the status text. -/
abbrev StatusMember := String × Literal

namespace StatusMember

/-- A text. -/
def name (key value : String) : StatusMember := (key, .text value.toList)

/-- A flag. -/
def flag (key : String) (value : Bool) : StatusMember := (key, .boolean value)

/-- An integer. -/
def count (key : String) (value : ℤ) : StatusMember := (key, .integer value)

/-- A floating-point number. -/
def quantity (format : NumberFormat) (key : String) (value : Double) : StatusMember :=
  (key, .number (format.print value).chars)

end StatusMember

namespace LiftHardware

open StatusMember

variable (p : HardwareParameters) (format : NumberFormat) (shown : StatusCopies)
  (hw : LiftHardware) (now : ℕ)

/-- `feedback_age_ms`. -/
def feedbackAgeMs : ℚ :=
  if 0 < hw.feedback.lastFeedbackNs ∧ hw.feedback.lastFeedbackNs ≤ now then
    ((now - hw.feedback.lastFeedbackNs : ℕ) : ℚ) / 10 ^ 6
  else -1

/-- `feedback_fresh`. -/
def publishedFresh : Bool := hw.feedbackIsFresh p now && !hw.transport.faultActive

/-- `ethercat_operational`. -/
def ethercatOperational : Bool := hw.transport.linkState == .operational

/-- `working_counter_ok`. -/
def workingCounterOk : Bool := decide (p.expectedWorkingCounter ≤ hw.transport.workingCounter)

/-- `quick_stop_active`. -/
def quickStopActive : Bool :=
  hw.brake.stopPhase == .quickStop ||
    parseCia402Status hw.feedback.statusWord == .quickStopActive

/-- `effective_enable_command`. -/
def effectiveEnableCommand : Bool := hw.powerCommandRequested || hw.brake.requestEnable

/-- The members of the status text. -/
def statusMembers : List StatusMember :=
  let state := parseCia402Status hw.feedback.statusWord
  let quantity := quantity format
  let details := shown.jump.text format p.maxFeedbackJumpM
  [name "component" "lift",
    name "link_state" (linkStateString hw.transport.linkState),
    name "cia402_state" (ciaStateString state),
    count "status_word" hw.feedback.statusWord.toNat,
    count "error_code" hw.feedback.errorCode.toNat,
    count "mode" hw.feedback.modeDisplay,
    count "mode_display" hw.feedback.modeDisplay,
    quantity "feedback_age_ms" (.finite (hw.feedbackAgeMs now)),
    flag "feedback_fresh" (hw.publishedFresh p now),
    flag "pdo_fresh" (hw.publishedFresh p now),
    flag "ethercat_operational" hw.ethercatOperational,
    count "working_counter" hw.transport.workingCounter,
    flag "working_counter_ok" (hw.workingCounterOk p),
    flag "transport_recovering" hw.transport.faultActive,
    count "transport_recovery_healthy_cycles" hw.transport.recoveryHealthyCycles,
    flag "initialized" hw.initialized,
    flag "power_enable_command" hw.effectiveEnableCommand,
    flag "power_enabled" hw.powerEnabled,
    flag "servo_online" (hw.ethercatOperational && hw.publishedFresh p now),
    flag "brake_unlocked" hw.brake.unlocked,
    flag "brake_unlocked_inferred" hw.brake.unlocked,
    flag "estop_latched" hw.estopLatched,
    flag "motion_blocked" hw.motionBlocked,
    flag "position_limit_violation" hw.positionLimitViolation,
    flag "limit_recovery_active" hw.limitRecoveryActive,
    count "position_limit_recovery_max_rpm" p.positionLimitRecoveryMaxRpm,
    flag "quick_stop_active" hw.quickStopActive,
    quantity "position" (.finite hw.feedback.positionM),
    quantity "velocity" (.finite hw.feedback.hwVelocityMps),
    quantity "command_position" hw.transmitted.position,
    quantity "command_velocity" hw.transmitted.velocity,
    quantity "command_acceleration" hw.transmitted.acceleration,
    count "zero_generation" hw.zero.generation,
    quantity "filtered_velocity" (.finite hw.feedback.velocityMps),
    quantity "target_rpm" shown.targetWireRpm,
    count "target_velocity_units" shown.targetVelocityUnits,
    flag "velocity_mode_active" (decide (.finite p.commandEpsilonRpm < shown.targetWireRpm.abs)),
    flag "reset_velocity_active" hw.takeover.velocityRequest,
    quantity "reset_search_start_position" (.finite hw.takeover.searchStartPositionM),
    quantity "reset_max_search_travel" (.finite p.resetMaxSearchTravelM),
    flag "reset_hold_active" hw.takeover.holdRequest,
    flag "homing_active" hw.homing.active,
    flag "homing_complete" hw.homing.complete,
    flag "homing_failed" hw.homing.failed,
    count "homing_method" p.homingMethod,
    name "brake_stop_phase" (brakeStopPhaseString hw.brake.stopPhase),
    flag "brake_stop_timeout" hw.brake.stopTimeout,
    name "brake_feedback" "inferred_from_cia402_and_timing",
    flag "limit_switch_enabled" p.limitSwitchEnabled,
    count "actual_position_units" hw.feedback.positionUnits,
    count "zero_offset_units" hw.zero.offsetUnitsAtomic,
    flag "zero_offset_valid" hw.zero.offsetLoaded,
    quantity "effective_command_units_per_rev" (.finite p.units.effectiveUnits),
    quantity "effective_lead_mm_per_rev" (.finite p.units.leadMmPerRev),
    quantity "position_m_per_unit"
      (.finite (p.units.leadMmPerRev / (1000 * p.units.effectiveUnits))),
    flag "feedback_baseline_valid" shown.feedbackBaselineValid,
    count "feedback_epoch" shown.feedbackEpoch,
    ("feedback_source", .text shown.backendName.chars),
    quantity "max_feedback_jump_m" (.finite p.maxFeedbackJumpM),
    count "fault_reset_attempts" shown.faultResetAttempts,
    count "mode_mismatch_cycles" hw.modeMismatchCycles,
    count "mode_mismatch_debounce_cycles" p.modeMismatchDebounceCycles,
    flag "recovery_exhausted" shown.recoveryExhausted,
    name "fault_reason" (hw.faultReason details),
    name "last_error" (detailedErrorReason details hw.errorReasonCode)]

/-- The status text. -/
def statusText : List Char :=
  objectText ((hw.statusMembers p format shown now).map fun m => (m.1.toList, m.2))

/-- `publish_driver_status`: a zero that is pending is completed first. -/
def publishDriverStatus (saveOk : Bool) : List Char × LiftHardware :=
  let hw := hw.completePendingZero p now saveOk
  (hw.statusText p format shown now, hw)

/-! ## The text is one of a flat object -/

/-- The keys of the status text. -/
def statusKeys : List String :=
  ["component", "link_state", "cia402_state", "status_word", "error_code", "mode", "mode_display",
    "feedback_age_ms", "feedback_fresh", "pdo_fresh", "ethercat_operational", "working_counter",
    "working_counter_ok", "transport_recovering", "transport_recovery_healthy_cycles",
    "initialized", "power_enable_command", "power_enabled", "servo_online", "brake_unlocked",
    "brake_unlocked_inferred", "estop_latched", "motion_blocked", "position_limit_violation",
    "limit_recovery_active", "position_limit_recovery_max_rpm", "quick_stop_active", "position",
    "velocity", "command_position", "command_velocity", "command_acceleration", "zero_generation",
    "filtered_velocity", "target_rpm", "target_velocity_units", "velocity_mode_active",
    "reset_velocity_active", "reset_search_start_position", "reset_max_search_travel",
    "reset_hold_active", "homing_active", "homing_complete", "homing_failed", "homing_method",
    "brake_stop_phase", "brake_stop_timeout", "brake_feedback", "limit_switch_enabled",
    "actual_position_units", "zero_offset_units", "zero_offset_valid",
    "effective_command_units_per_rev", "effective_lead_mm_per_rev", "position_m_per_unit",
    "feedback_baseline_valid", "feedback_epoch", "feedback_source", "max_feedback_jump_m",
    "fault_reset_attempts", "mode_mismatch_cycles", "mode_mismatch_debounce_cycles",
    "recovery_exhausted", "fault_reason", "last_error"]

theorem statusMembers_keys :
    (hw.statusMembers p format shown now).map Prod.fst = statusKeys := rfl

theorem statusKeys_nodup : statusKeys.Nodup := by simp [statusKeys]

theorem plain_ofList {l : List Char} (h : l.all plain = true) :
    ∀ c ∈ (String.ofList l).toList, plain c = true := by
  rw [String.toList_ofList]
  exact List.all_eq_true.mp h

theorem statusKeys_plain : ∀ k ∈ statusKeys, ∀ c ∈ k.toList, plain c = true := by
  simp only [statusKeys, List.forall_mem_cons]
  and_intros
  all_goals first | exact plain_ofList rfl | exact fun _ h => absurd h List.not_mem_nil

theorem errorReasonText_plain (code : ℕ) : ∀ c ∈ (errorReasonText code).toList, plain c = true := by
  unfold errorReasonText
  split <;> exact plain_ofList rfl

/-- What is printed for a number needs no escapes. -/
theorem ofNumber_plain {c : Char} (h : ofNumber c = true) : plain c = true := by
  simp only [ofNumber, Bool.or_eq_true, beq_iff_eq] at h
  rcases h with (((((((h | rfl) | rfl) | rfl) | rfl) | rfl) | rfl) | rfl) | rfl
  · have hne {c' : Char} (hc' : c'.isDigit = false) : c ≠ c' := by
      rintro rfl
      exact absurd h (Bool.eq_false_iff.mp hc')
    have hdigit : 48 ≤ c.toNat := by
      simp only [Char.isDigit, Bool.and_eq_true, decide_eq_true_eq] at h
      exact UInt32.le_iff_toNat_le.mp h.1
    simp only [plain, Bool.and_eq_true, bne_iff_ne, decide_eq_true_eq]
    exact ⟨⟨hne (by decide), hne (by decide)⟩, by omega⟩
  all_goals decide

theorem printed_plain (t : NumberText) : ∀ c ∈ (String.ofList t.chars).toList, plain c = true := by
  rw [String.toList_ofList]
  exact fun c hc => ofNumber_plain (t.ofNumber c hc)

theorem append_plain {s t : String} (hs : ∀ c ∈ s.toList, plain c = true)
    (ht : ∀ c ∈ t.toList, plain c = true) : ∀ c ∈ (s ++ t).toList, plain c = true := by
  rw [String.toList_append]
  intro c hc
  rcases List.mem_append.mp hc with hc | hc
  · exact hs c hc
  · exact ht c hc

theorem details_plain (thresholdM : ℚ) (jump : JumpDetails) :
    ∀ c ∈ (jump.text format thresholdM).toList, plain c = true := by
  have hsource : ∀ c ∈ (sourceName jump.source).toList, plain c = true := by
    unfold sourceName
    split <;> exact plain_ofList rfl
  have hepoch : ∀ c ∈ (String.ofList (integerText jump.epoch)).toList, plain c = true := by
    rw [String.toList_ofList]
    intro c hc
    refine ofNumber_plain ?_
    rcases mem_integerText hc with hc | rfl
    · simp [ofNumber, hc]
    · decide
  have hnext {s : String} (hs : ∀ c ∈ s.toList, plain c = true) (label : String)
      (hlabel : ∀ c ∈ label.toList, plain c = true) (t : NumberText) :
      ∀ c ∈ (s ++ label ++ String.ofList t.chars).toList, plain c = true :=
    append_plain (append_plain hs hlabel) (printed_plain t)
  have hnumbers := hnext (hnext (hnext (hnext (printed_plain (format.printFine
    jump.previousPositionM)) "m current=" (plain_ofList rfl)
    (format.printFine jump.currentPositionM)) "m delta=" (plain_ofList rfl)
    (format.printFine jump.deltaM)) "m threshold=" (plain_ofList rfl)
    (format.printFine (.finite thresholdM))) "m interval=" (plain_ofList rfl)
    (format.printFine jump.intervalMs)
  exact append_plain (append_plain (append_plain (append_plain hnumbers (plain_ofList rfl)) hsource)
    (plain_ofList rfl)) hepoch

theorem detailedErrorReason_plain (thresholdM : ℚ) (jump : JumpDetails) (code : ℕ) :
    ∀ c ∈ (detailedErrorReason (jump.text format thresholdM) code).toList, plain c = true := by
  unfold detailedErrorReason
  split
  · exact errorReasonText_plain code
  · exact append_plain (plain_ofList rfl) (details_plain format thresholdM jump)

theorem flag_plain (key : String) (value : Bool) : (flag key value).2.Plain := trivial

theorem count_plain (key : String) (value : ℤ) : (count key value).2.Plain := trivial

theorem quantity_plain (key : String) (value : Double) :
    (quantity format key value).2.Plain := (format.print value).ofNumber

theorem name_plain (key : String) {value : String} (h : ∀ c ∈ value.toList, plain c = true) :
    (name key value).2.Plain := h

/-- The literals of the status text need no escapes. -/
theorem statusMembers_literals : ∀ m ∈ hw.statusMembers p format shown now, m.2.Plain := by
  have hlink (l : EthercatLinkState) : ∀ c ∈ (linkStateString l).toList, plain c = true := by
    cases l <;> exact plain_ofList rfl
  have hstate (s : Cia402State) : ∀ c ∈ (ciaStateString s).toList, plain c = true := by
    cases s <;> exact plain_ofList rfl
  have hphase (b : BrakeStopPhase) : ∀ c ∈ (brakeStopPhaseString b).toList, plain c = true := by
    cases b <;> exact plain_ofList rfl
  have hreason (code : ℕ) := detailedErrorReason_plain format p.maxFeedbackJumpM shown.jump code
  simp only [statusMembers, faultReason, List.forall_mem_cons]
  and_intros
  all_goals
    first
      | with_reducible exact flag_plain _ _
      | with_reducible exact count_plain _ _
      | with_reducible exact quantity_plain _ _ _
      | with_reducible exact name_plain _ (hlink _)
      | with_reducible exact name_plain _ (hstate _)
      | with_reducible exact name_plain _ (hphase _)
      | with_reducible exact name_plain _ (hreason _)
      | exact shown.backendName.plain
      | exact fun _ h => absurd h List.not_mem_nil
      | exact name_plain _ (plain_ofList rfl)

/-- The status text is one of a flat object. -/
theorem statusMembers_plain :
    PlainObject ((hw.statusMembers p format shown now).map fun m => (m.1.toList, m.2)) where
  nodup := by
    have hkeys := List.Nodup.map (fun _ _ h => String.toList_injective h) statusKeys_nodup
    rw [← statusMembers_keys p format shown hw now, List.map_map] at hkeys
    rw [List.map_map]
    exact hkeys
  keys := by
    intro m hm
    obtain ⟨member, hmember, rfl⟩ := List.mem_map.mp hm
    exact statusKeys_plain member.1
      (statusMembers_keys p format shown hw now ▸ List.mem_map_of_mem hmember)
  literals := by
    intro m hm
    obtain ⟨member, hmember, rfl⟩ := List.mem_map.mp hm
    exact statusMembers_literals p format shown hw now member hmember

end LiftHardware

end Hardware

end JointController
