import Mathlib.Data.Int.Notation
import Mathlib.Data.Nat.Notation
import Mathlib.Logic.Basic
import Mathlib.Tactic.SplitIfs

/-!
# The CiA 402 state machine of the drive

What the drive reports in its status word, and the control word that answers it.

* `parseCia402Status`: the state of the drive.
* `Cia402Controller.step`: the decision of a cycle.
* `step_allowMotion`: motion is allowed only to a healthy drive in operation enabled.
* `step_enabled`, `step_enables`: what an enable request is answered with, and when it is.
* `step_stopped`: without an enable request the control word stops the drive.
-/

namespace JointController

namespace Hardware

/-- `Cia402State`. -/
inductive Cia402State where
  | notReadyToSwitchOn
  | switchOnDisabled
  | readyToSwitchOn
  | switchedOn
  | operationEnabled
  | quickStopActive
  | faultReactionActive
  | fault
  | unknown
  deriving DecidableEq

/-- `parse_cia402_status`: bits 4 and 5 are not looked at in ordinary states. -/
def parseCia402Status (statusWord : UInt16) : Cia402State :=
  let word := statusWord &&& 0x006f
  if word = 0x0000 then .notReadyToSwitchOn
  else if word = 0x0040 then .switchOnDisabled
  else if word = 0x0021 then .readyToSwitchOn
  else if word = 0x0023 then .switchedOn
  else if word = 0x0027 then .operationEnabled
  else if word = 0x0007 then .quickStopActive
  else if word = 0x000f then .faultReactionActive
  else if word = 0x0028 then .fault
  else if word = 0x0008 then .fault
  else .unknown

/-- `Cia402Inputs`. -/
structure Cia402Inputs where
  statusWord : UInt16
  errorCode : UInt16
  modeDisplay : ℤ
  expectedMode : ℤ
  linkOperational : Bool
  pdoFresh : Bool
  workingCounterOk : Bool
  requestEnable : Bool
  requestQuickStop : Bool
  requestFaultReset : Bool

/-- `Cia402Decision`. -/
structure Cia402Decision where
  state : Cia402State
  controlWord : UInt16
  modeOk : Bool
  healthOk : Bool
  allowMotion : Bool
  fault : Bool
  recoveryExhausted : Bool

namespace Cia402Inputs

variable (inputs : Cia402Inputs)

/-- The state of the drive. -/
def state : Cia402State := parseCia402Status inputs.statusWord

/-- 6061h shows the mode that is expected. -/
def modeOk : Bool := inputs.modeDisplay == inputs.expectedMode

/-- The drive reports a fault. -/
def fault : Bool := inputs.state == .fault || inputs.errorCode != 0

/-- The link and the drive are healthy. -/
def healthOk : Bool :=
  inputs.linkOperational && inputs.pdoFresh && inputs.workingCounterOk && inputs.modeOk &&
    !inputs.fault

end Cia402Inputs

/-- The answer to a quick stop request.  0x000B keeps the drive powered and clears the quick stop
bit. -/
def quickStopWord : Cia402State → UInt16
  | .switchedOn | .operationEnabled | .quickStopActive => 0x000b
  | _ => 0x0006

/-- The answer to an enable request. -/
def enableWord : Cia402State → UInt16
  | .switchOnDisabled | .notReadyToSwitchOn => 0x0006
  | .readyToSwitchOn => 0x0007
  | .switchedOn | .operationEnabled => 0x000f
  | .quickStopActive => 0x000f
  | .faultReactionActive | .fault | .unknown => 0x0006

/-- `Cia402Controller`. -/
structure Cia402Controller where
  maxFaultResetAttempts : ℕ
  faultResetBackoffCycles : ℕ
  faultResetAttempts : ℕ := 0
  faultResetBackoffRemaining : ℕ := 0
  recoveryExhausted : Bool := false
  deriving DecidableEq

namespace Cia402Controller

variable (c : Cia402Controller) (inputs : Cia402Inputs)

/-- `reset`. -/
def reset : Cia402Controller :=
  { c with faultResetAttempts := 0, faultResetBackoffRemaining := 0, recoveryExhausted := false }

/-- A decision that forbids motion. -/
def forbids (controlWord : UInt16) (recoveryExhausted : Bool) : Cia402Decision where
  state := inputs.state
  controlWord := controlWord
  modeOk := inputs.modeOk
  healthOk := inputs.healthOk
  allowMotion := false
  fault := inputs.fault
  recoveryExhausted := recoveryExhausted

/-- The fault branch of `step`: bounded attempts to reset the fault, each followed by a pause. -/
def faultStep : Cia402Decision × Cia402Controller :=
  if 0 < c.faultResetBackoffRemaining then
    (forbids inputs 0x0006 c.recoveryExhausted,
      { c with faultResetBackoffRemaining := c.faultResetBackoffRemaining - 1 })
  else if inputs.requestFaultReset ∧ c.faultResetAttempts < c.maxFaultResetAttempts then
    (forbids inputs 0x0080 c.recoveryExhausted,
      { c with
        faultResetAttempts := c.faultResetAttempts + 1
        faultResetBackoffRemaining := c.faultResetBackoffCycles })
  else (forbids inputs 0x0006 true, { c with recoveryExhausted := true })

/-- `step`. -/
def step : Cia402Decision × Cia402Controller :=
  if inputs.fault then c.faultStep inputs
  else if ¬ inputs.healthOk then (forbids inputs 0x0006 false, c.reset)
  else if inputs.requestQuickStop then (forbids inputs (quickStopWord inputs.state) false, c.reset)
  else if ¬ inputs.requestEnable then (forbids inputs 0x0006 false, c.reset)
  else
    ({ state := inputs.state
       controlWord := enableWord inputs.state
       modeOk := inputs.modeOk
       healthOk := inputs.healthOk
       allowMotion := inputs.state == .operationEnabled
       fault := inputs.fault
       recoveryExhausted := false }, c.reset)

/-- Motion is allowed only to a healthy drive that is in operation enabled, on request. -/
theorem step_allowMotion (h : (c.step inputs).1.allowMotion = true) :
    inputs.state = .operationEnabled ∧ inputs.healthOk = true ∧ inputs.fault = false ∧
      inputs.requestEnable = true ∧ inputs.requestQuickStop = false := by
  unfold step at h
  split at h
  · unfold faultStep at h
    split_ifs at h <;> cases h
  · rename_i hfault
    split at h
    · cases h
    · rename_i hhealth
      split at h
      · cases h
      · rename_i hquick
        split at h
        · cases h
        · rename_i henable
          exact ⟨beq_iff_eq.mp h, not_not.mp hhealth, eq_false_of_ne_true hfault,
            not_not.mp henable, eq_false_of_ne_true hquick⟩

/-- The decision for a healthy drive that is asked to enable. -/
theorem step_enabled (hhealth : inputs.healthOk = true) (hquick : inputs.requestQuickStop = false)
    (henable : inputs.requestEnable = true) :
    (c.step inputs).1.controlWord = enableWord inputs.state ∧
      (c.step inputs).1.allowMotion = (inputs.state == .operationEnabled) := by
  have hfault : ¬ inputs.fault = true := by
    intro hfault
    unfold Cia402Inputs.healthOk at hhealth
    rw [hfault, Bool.not_true, Bool.and_false] at hhealth
    exact Bool.false_ne_true hhealth
  unfold step
  rw [if_neg hfault, if_neg (not_not.mpr hhealth),
    if_neg (by rw [hquick]; exact Bool.false_ne_true),
    if_neg (not_not.mpr henable)]
  exact ⟨rfl, rfl⟩

/-- The states in which the drive is switched on further by an enable request. -/
def answersEnable : Cia402State → Bool
  | .readyToSwitchOn | .switchedOn | .operationEnabled | .quickStopActive => true
  | _ => false

/-- The control words that switch the drive on further. -/
def enabling (controlWord : UInt16) : Bool := controlWord == 0x0007 || controlWord == 0x000f

theorem enabling_enableWord (state : Cia402State) :
    enabling (enableWord state) = answersEnable state := by
  cases state <;> rfl

theorem not_enabling_quickStopWord (state : Cia402State) :
    enabling (quickStopWord state) = false := by
  cases state <;> rfl

theorem not_enabling_faultStep : enabling (c.faultStep inputs).1.controlWord = false := by
  unfold faultStep
  split_ifs <;> rfl

/-- A cycle sends an enabling control word exactly when a healthy drive is asked to enable and is in
a state that answers. -/
theorem step_enables : enabling (c.step inputs).1.controlWord = true ↔
    inputs.healthOk = true ∧ inputs.requestEnable = true ∧ inputs.requestQuickStop = false ∧
      answersEnable inputs.state = true := by
  unfold step
  split
  · rename_i hfault
    have hhealth : inputs.healthOk = false := by
      unfold Cia402Inputs.healthOk
      rw [hfault, Bool.not_true, Bool.and_false]
    simp [not_enabling_faultStep, hhealth]
  · split
    · rename_i hhealth
      simp [forbids, enabling, hhealth]
    · rename_i hhealth
      split
      · rename_i hquick
        simp [forbids, not_enabling_quickStopWord, hquick]
      · rename_i hquick
        split
        · rename_i henable
          simp [forbids, enabling, henable]
        · rename_i henable
          simp [enabling_enableWord, not_not.mp hhealth, not_not.mp henable, hquick]

/-- Without an enable request and without a fault reset the drive is stopped or shut down. -/
theorem step_stopped (henable : inputs.requestEnable = false)
    (hreset : inputs.requestFaultReset = false) :
    (c.step inputs).1.allowMotion = false ∧
      ((c.step inputs).1.controlWord = 0x000b ∨ (c.step inputs).1.controlWord = 0x0006) := by
  have hquick (state : Cia402State) :
      quickStopWord state = 0x000b ∨ quickStopWord state = 0x0006 := by
    cases state <;> decide
  unfold step
  split
  · unfold faultStep
    split
    · exact ⟨rfl, Or.inr rfl⟩
    · split
      · rename_i hattempt
        cases hattempt.1.symm.trans hreset
      · exact ⟨rfl, Or.inr rfl⟩
  · split
    · exact ⟨rfl, Or.inr rfl⟩
    · split
      · exact ⟨rfl, hquick inputs.state⟩
      · rw [if_pos (by rw [henable]; exact Bool.false_ne_true)]
        exact ⟨rfl, Or.inr rfl⟩

end Cia402Controller

end Hardware

end JointController
