import JointController.Gateway.ProxyCourse

/-!
# The lift status of the lower gateway

`publishLiftSnapshot` tells the Heavy gateway and the operator how the lift is.  It puts together
the last messages of the driver, of the controller and of the joint.

* `LiftSnapshot`: the fields of `LiftStatus`, and the joint state that goes out with it.
* `LiftFeedback.issues`: what is missing for a valid status.
* `LiftFeedback.publishLiftSnapshot`: the status at a time.
* `Explained`: a status that is valid exactly when nothing is missing, and that never shows a fault
  or a blocked motion without a reason.
* `motionBlocked_eq_false`: when the motion is not blocked.

How a stream prints a number is a parameter.  The stamps, the rates and the values of the
diagnostics are left out.
-/

namespace JointController

namespace Gateway

namespace Proxy

open LiftStatusParser

/-! ## The status -/

/-- `LiftStatus`, with the joint state that is published with it. -/
structure LiftSnapshot where
  jointName : String
  status : LiftStatus
  quickStop : Bool
  fault : Bool
  statusWord : UInt16
  controllerMode : String
  faultReason : String
  message : String
  joint : Option JointState

namespace LiftFeedback

variable (cfg : LiftParameters) (f : LiftFeedback) (now : ℤ)

/-- `driver_fresh`. -/
def driverFresh : Bool := f.driver.fresh now (Power.milliseconds cfg.statusStaleMs)

/-- `control_fresh`. -/
def controlFresh : Bool := f.control.fresh now (Power.milliseconds cfg.statusStaleMs)

/-- `joint_fresh`. -/
def jointFresh : Bool := f.joint.fresh now (Power.milliseconds cfg.jointStateStaleMs)

/-- `valid`. -/
def snapshotValid : Bool :=
  f.driverFresh cfg now && f.controlFresh cfg now && f.jointFresh cfg now &&
    f.driver.value.communicationRecovered

/-- What a fresh driver status says is wrong with the link. -/
def linkIssues (status : LiftDriverStatus) : List String :=
  (if ¬ status.feedbackFresh then ["lift PDO feedback stale"] else []) ++
  (if ¬ status.ethercatOperational then ["lift EtherCAT not operational"] else []) ++
  (if ¬ status.workingCounterOk then ["lift WorkingCounter invalid"] else []) ++
  (if ¬ status.initialized then ["lift hardware not initialized"] else [])

/-- `issues`. -/
def issues : List String :=
  f.driver.issues "lift driver status" now (Power.milliseconds cfg.statusStaleMs) ++
  f.control.issues "lift control status" now (Power.milliseconds cfg.statusStaleMs) ++
  f.joint.issues "lift joint state" now (Power.milliseconds cfg.jointStateStaleMs) ++
  (if f.driverFresh cfg now then linkIssues f.driver.value else [])

/-- `motion_blocked`. -/
def motionBlocked : Bool :=
  !f.snapshotValid cfg now ||
    (f.driverFresh cfg now && f.driver.value.evaluateLiftSafety.motionBlocked)

/-- `controller_mode`. -/
def controllerMode : String := if f.controlFresh cfg now then f.control.value.mode else ""

/-- The reason of the drive or, where it has none, that of the controller. -/
def ownReason : String :=
  let reason := if f.driverFresh cfg now then f.driver.value.evaluateLiftSafety.faultReason else ""
  if reason = "" ∧ f.controlFresh cfg now ∧ f.control.value.faultReason ≠ "" then
    f.control.value.faultReason
  else reason

/-- The message of a lift that may move. -/
def readyText (print : Double → String) : String :=
  let driver := f.driver.value
  "lift feedback ready; measured_position=" ++ print f.joint.value.position ++
    "; measured_velocity=" ++ print (f.joint.value.velocity.getD 0) ++
    "; command_position=" ++ print driver.commandPosition ++
    "; command_velocity=" ++ print driver.commandVelocity ++
    "; controller_mode=" ++ f.controllerMode cfg now ++
    if driver.pdoTargetAvailable then
      "; pdo_target_rpm=" ++ print driver.targetRpm ++
        "; pdo_target_velocity_units=" ++ toString driver.targetVelocityUnits ++
        "; velocity_mode_active=" ++ LiftDriverStatus.flagText driver.velocityModeActive
    else "; pdo_target=unavailable"

/-- `message`. -/
def snapshotMessage (print : Double → String) : String :=
  if f.issues cfg now ≠ [] then String.intercalate "; " (f.issues cfg now)
  else if f.motionBlocked cfg now then
    if f.ownReason cfg now = "" then "lift motion blocked by the current safety state"
    else "lift motion blocked: " ++ f.ownReason cfg now
  else f.readyText cfg now print

/-- `fault_reason`. -/
def snapshotReason : String :=
  let message := String.intercalate "; " (f.issues cfg now)
  if f.issues cfg now = [] then f.ownReason cfg now
  else if f.ownReason cfg now = "" then message
  else f.ownReason cfg now ++ "; " ++ message

/-- `publishLiftSnapshot`. -/
def publishLiftSnapshot (print : Double → String) : LiftSnapshot :=
  let driver := f.driver.value
  let driverFresh := f.driverFresh cfg now
  let controlFresh := f.controlFresh cfg now
  { jointName := cfg.liftJointName
    status :=
      { valid := f.snapshotValid cfg now
        feedbackFresh := f.snapshotValid cfg now
        ethercatOperational := driverFresh && driver.ethercatOperational
        workingCounterOk := driverFresh && driver.workingCounterOk
        initialized := driverFresh && driver.initialized
        commandEnabled := driverFresh && driver.commandEnabled
        enabled := driverFresh && driver.enabled
        brakeUnlocked := driverFresh && driver.brakeUnlocked
        estop := driverFresh && driver.estopLatched
        motionBlocked := f.motionBlocked cfg now
        trajectoryActive := controlFresh && f.control.value.trajectoryActive
        jogActive := controlFresh && f.control.value.jogActive
        errorCode := driver.errorCode.toNat
        cia402State := driver.cia402State }
    quickStop := driverFresh && driver.quickStopActive
    fault := driverFresh && driver.evaluateLiftSafety.fault
    statusWord := driver.statusWord
    controllerMode := f.controllerMode cfg now
    faultReason := f.snapshotReason cfg now
    message := f.snapshotMessage cfg now print
    joint :=
      if f.jointFresh cfg now then
        some ⟨[cfg.liftJointName], [f.joint.value.position], f.joint.value.velocity.toList⟩
      else none }

/-! ## What is missing, and why the motion is blocked -/

variable {cfg f now}

/-- Texts that say something are joined to one that does. -/
theorem intercalate_ne_empty {texts : List String} (hsome : texts ≠ [])
    (htexts : ∀ text ∈ texts, text ≠ "") : String.intercalate "; " texts ≠ "" := by
  cases texts with
  | nil => exact absurd rfl hsome
  | cons text rest =>
    have htext := htexts text List.mem_cons_self
    cases rest with
    | nil => rwa [String.intercalate_singleton]
    | cons next rest =>
      rw [String.intercalate_cons_cons]
      simp [htext]

theorem channel_issues_eq_nil {α : Type} {c : Channel α} {name : String} {timeout : ℤ} :
    c.issues name now timeout = [] ↔ c.fresh now timeout = true := by
  unfold Channel.issues Channel.fresh
  cases hreceived : c.received with
  | false => simp
  | true =>
    cases hvalid : c.valid with
    | false => simp
    | true => by_cases hlate : c.Late now timeout <;> simp [hlate]

theorem channel_issues_ne {α : Type} {c : Channel α} {name : String} {timeout : ℤ} :
    ∀ text ∈ c.issues name now timeout, text ≠ "" := by
  unfold Channel.issues
  split_ifs <;> simp

theorem linkIssues_eq_nil {status : LiftDriverStatus} :
    linkIssues status = [] ↔ status.communicationRecovered = true := by
  unfold linkIssues LiftDriverStatus.communicationRecovered
  simp only [List.append_eq_nil_iff, ite_eq_right_iff, reduceCtorEq, imp_false, not_not,
    Bool.and_eq_true]

theorem issues_eq_nil : f.issues cfg now = [] ↔ f.snapshotValid cfg now = true := by
  unfold issues snapshotValid
  simp only [List.append_eq_nil_iff, channel_issues_eq_nil, ite_eq_right_iff, linkIssues_eq_nil,
    Bool.and_eq_true]
  constructor
  · rintro ⟨⟨⟨hdriver, hcontrol⟩, hjoint⟩, hlink⟩
    exact ⟨⟨⟨hdriver, hcontrol⟩, hjoint⟩, hlink hdriver⟩
  · rintro ⟨⟨⟨hdriver, hcontrol⟩, hjoint⟩, hlink⟩
    exact ⟨⟨⟨hdriver, hcontrol⟩, hjoint⟩, fun _ => hlink⟩

theorem issues_ne : ∀ text ∈ f.issues cfg now, text ≠ "" := by
  unfold issues linkIssues
  intro text htext
  simp only [List.mem_append] at htext
  rcases htext with ((hdriver | hcontrol) | hjoint) | hlink
  · exact channel_issues_ne text hdriver
  · exact channel_issues_ne text hcontrol
  · exact channel_issues_ne text hjoint
  · split_ifs at hlink <;> revert text <;> simp

/-- Every reason for which the motion is blocked says something. -/
theorem reasons_ne {status : LiftDriverStatus} : ∀ text ∈ status.reasons, text ≠ "" := by
  have hlatch : ∀ text ∈ (if status.latchCounts then
      [if isEmptyFaultReason status.faultReason then "lift driver reported a motion safety latch"
        else status.faultReason]
      else []), text ≠ "" := by
    split_ifs with hcounts hempty
    · simp
    · simp only [isEmptyFaultReason, Bool.or_eq_true, beq_iff_eq, not_or] at hempty
      simpa using hempty.1.1
    · simp
  unfold LiftDriverStatus.reasons
  intro text htext
  simp only [List.mem_append] at htext
  rcases htext with (((hfault | hmode) | hestop) | hquickStop) | hcounts
  · split_ifs at hfault <;> revert text <;> simp
  · split_ifs at hmode <;> revert text <;> simp
  · split_ifs at hestop <;> revert text <;> simp
  · split_ifs at hquickStop <;> revert text <;> simp
  · exact hlatch text hcounts

/-- A drive whose motion is blocked gives a reason. -/
theorem faultReason_ne {status : LiftDriverStatus}
    (h : status.evaluateLiftSafety.motionBlocked = true) :
    status.evaluateLiftSafety.faultReason ≠ "" := by
  refine intercalate_ne_empty ?_ reasons_ne
  rintro hnil
  unfold LiftDriverStatus.evaluateLiftSafety at h
  rw [hnil] at h
  cases h

/-- A fault blocks the motion. -/
theorem motionBlocked_of_fault {status : LiftDriverStatus}
    (h : status.evaluateLiftSafety.fault = true) :
    status.evaluateLiftSafety.motionBlocked = true := by
  by_contra hblocked
  have hnil : status.reasons = [] := by
    unfold LiftDriverStatus.evaluateLiftSafety at hblocked
    simpa using hblocked
  exact blocked_of_reasons_eq_nil hnil (.inr (.inr (.inl h)))

theorem snapshotReason_ne_of_issues (h : f.issues cfg now ≠ []) :
    f.snapshotReason cfg now ≠ "" := by
  have hmessage := intercalate_ne_empty h issues_ne
  unfold snapshotReason
  dsimp only
  rw [if_neg h]
  split_ifs with hown
  · exact hmessage
  · simp [hown]

theorem snapshotReason_ne_of_own (h : f.ownReason cfg now ≠ "") :
    f.snapshotReason cfg now ≠ "" := by
  unfold snapshotReason
  dsimp only
  rw [if_neg h]
  split_ifs
  · exact h
  · simp [h]

theorem ownReason_ne_of_driver (hfresh : f.driverFresh cfg now = true)
    (h : f.driver.value.evaluateLiftSafety.faultReason ≠ "") : f.ownReason cfg now ≠ "" := by
  unfold ownReason
  dsimp only
  rw [if_pos hfresh, if_neg fun hcontrol => h hcontrol.1]
  exact h

theorem ownReason_ne_of_control (hfresh : f.controlFresh cfg now = true)
    (h : f.control.value.faultReason ≠ "") : f.ownReason cfg now ≠ "" := by
  unfold ownReason
  dsimp only
  generalize (if f.driverFresh cfg now then f.driver.value.evaluateLiftSafety.faultReason
    else "") = reason
  split_ifs with hown
  · exact h
  · exact fun hempty => hown ⟨hempty, hfresh, h⟩

theorem snapshotMessage_ne (print : Double → String) : f.snapshotMessage cfg now print ≠ "" := by
  unfold snapshotMessage
  split_ifs with hissues
  · exact intercalate_ne_empty hissues issues_ne
  · simp
  · simp
  · unfold readyText
    simp [String.append_assoc]

end LiftFeedback

/-- A status says what it shows: it is valid exactly when nothing is missing, a fault or a blocked
motion comes with a reason, so does a fault of the controller that has one, and a motion that is not
blocked is backed by fresh feedback without anything that blocks it. -/
structure Explained (cfg : LiftParameters) (f : LiftFeedback) (now : ℤ) (x : LiftSnapshot) :
    Prop where
  valid : x.status.valid = true ↔ f.issues cfg now = []
  reason : x.fault = true ∨ x.status.motionBlocked = true → x.faultReason ≠ ""
  latched : x.controllerMode = "fault" → f.control.value.faultReason ≠ "" → x.faultReason ≠ ""
  message : x.message ≠ ""
  unblocked : x.status.motionBlocked = false ↔
    f.driverFresh cfg now = true ∧ f.controlFresh cfg now = true ∧ f.jointFresh cfg now = true ∧
      Clear f.driver.value
  joint : x.joint.isSome = true ↔ f.jointFresh cfg now = true

/-- The motion is not blocked exactly on fresh feedback without anything that blocks it. -/
theorem motionBlocked_eq_false {cfg : LiftParameters} {f : LiftFeedback} {now : ℤ} :
    f.motionBlocked cfg now = false ↔
      f.driverFresh cfg now = true ∧ f.controlFresh cfg now = true ∧ f.jointFresh cfg now = true ∧
        Clear f.driver.value := by
  have hblocked : f.driver.value.evaluateLiftSafety.motionBlocked = false ↔
      f.driver.value.reasons = [] := by
    unfold LiftDriverStatus.evaluateLiftSafety
    simp
  unfold LiftFeedback.motionBlocked LiftFeedback.snapshotValid
  constructor
  · intro h
    simp only [Bool.or_eq_false_iff, Bool.not_eq_false', Bool.and_eq_true] at h
    obtain ⟨⟨⟨⟨hdriver, hcontrol⟩, hjoint⟩, hlink⟩, hsafety⟩ := h
    rw [hdriver, Bool.true_and] at hsafety
    exact ⟨hdriver, hcontrol, hjoint, hlink, hblocked.mp hsafety⟩
  · rintro ⟨hdriver, hcontrol, hjoint, hclear⟩
    rw [hdriver, hcontrol, hjoint, hclear.recovered, hblocked.mpr hclear.unblocked]
    rfl

/-- Every status that is published says what it shows. -/
theorem explained_publishLiftSnapshot (cfg : LiftParameters) (f : LiftFeedback) (now : ℤ)
    (print : Double → String) : Explained cfg f now (f.publishLiftSnapshot cfg now print) where
  valid := LiftFeedback.issues_eq_nil.symm
  reason := by
    intro h
    by_cases hissues : f.issues cfg now = []
    · have hvalid := LiftFeedback.issues_eq_nil.mp hissues
      have hboth : f.driverFresh cfg now = true ∧
          f.driver.value.evaluateLiftSafety.motionBlocked = true := by
        rcases h with hfault | hblocked
        · obtain ⟨hfresh, hfault⟩ := (Bool.and_eq_true _ _).mp hfault
          exact ⟨hfresh, LiftFeedback.motionBlocked_of_fault hfault⟩
        · change (!f.snapshotValid cfg now || _) = true at hblocked
          rw [hvalid, Bool.not_true, Bool.false_or] at hblocked
          exact (Bool.and_eq_true _ _).mp hblocked
      exact LiftFeedback.snapshotReason_ne_of_own
        (LiftFeedback.ownReason_ne_of_driver hboth.1 (LiftFeedback.faultReason_ne hboth.2))
    · exact LiftFeedback.snapshotReason_ne_of_issues hissues
  latched := by
    intro hmode hreason
    have hfresh : f.controlFresh cfg now = true := by
      by_contra hold
      change f.controllerMode cfg now = "fault" at hmode
      unfold LiftFeedback.controllerMode at hmode
      rw [if_neg hold] at hmode
      exact absurd hmode (by decide)
    exact LiftFeedback.snapshotReason_ne_of_own
      (LiftFeedback.ownReason_ne_of_control hfresh hreason)
  message := LiftFeedback.snapshotMessage_ne print
  unblocked := motionBlocked_eq_false
  joint := by
    unfold LiftFeedback.publishLiftSnapshot
    dsimp only
    split_ifs with hfresh
    · exact ⟨fun _ => hfresh, fun _ => rfl⟩
    · exact ⟨fun h => absurd h Bool.false_ne_true, fun h => absurd h hfresh⟩

end Proxy

end Gateway

end JointController
