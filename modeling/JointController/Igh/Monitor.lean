import JointController.Igh.Axes

/-!
# The shared motor monitor

The monitor follows the drives of the arm.  Once all of them have been enabled it is armed, and then
a fault, or an axis that is no longer enabled, shuts all axes down.

* `Monitor`, `Monitor.update`: `UpdateSharedMotorMonitorState`.
* `Monitor.Consistent`: the axes are shut down exactly in the fault state, and an armed monitor has
  seen all axes enabled.
* `Monitor.faulted_of_trip`: the fault state is entered in the cycle of the fault.
* `Monitor.faulted_update`: it is left by a rising power request after a cycle without power only.
-/

namespace JointController

namespace Igh

/-- `SharedMotorMonitorState`. -/
inductive SharedMotorMonitorState where
  | powerOff
  | enabling
  | armed
  | faulted
  deriving DecidableEq

/-- The memory of the shared motor monitor. -/
structure Monitor where
  state : SharedMotorMonitorState
  previousPoweron : Bool
  armedLatched : Bool
  seenPoweroffAfterFault : Bool
  forceShutdown : Bool
  deriving DecidableEq

/-- What the monitor looks at in a cycle. -/
structure MonitorInput where
  powerOnRequested : Bool
  abnormalSharedAxis : Bool
  allSharedMotorsEnabled : Bool
  anyAxisFault : Bool
  deriving DecidableEq

/-! ## What the monitor looks at -/

section

variable (cfg : Setup) (feedback : Axis → Feedback)

/-- The published state of an axis.  The shared memory is cleared at the start, and only the
configured axes are ever written. -/
def publishedState (a : Axis) : UInt16 := if cfg.isAxisConfigured a then (feedback a).state else 0

/-- Some shared arm axis is not in `STATE_OPERATION_ENABLED`. -/
def sharedMotorNotOperationEnabled : Bool :=
  decide (∃ a : Axis, a.val < kModeSwitchAxisCount ∧
    publishedState cfg feedback a ≠ stateOperationEnabled)

/-- `FindFirstSharedMotorNotOperationEnabled`.  All the shared axes are mode switch axes. -/
def findFirstSharedMotorNotOperationEnabled (ignoreModeSwitchAxes : Bool) : Bool :=
  !ignoreModeSwitchAxes && sharedMotorNotOperationEnabled cfg feedback

/-- `AreAllSharedMotorsOperationEnabled`. -/
def areAllSharedMotorsOperationEnabled : Bool := !sharedMotorNotOperationEnabled cfg feedback

/-- What the monitor looks at, with the bypass of the mode switch. -/
def monitorInput (i : Input) (modeSwitchBypass : Bool) : MonitorInput where
  powerOnRequested := i.desire.ecPoweron != 0
  abnormalSharedAxis := findFirstSharedMotorNotOperationEnabled cfg i.feedback modeSwitchBypass
  allSharedMotorsEnabled := areAllSharedMotorsOperationEnabled cfg i.feedback
  anyAxisFault := checkAnyAxisFault cfg i.feedback

end

/-! ## The monitor -/

namespace Monitor

variable (m : Monitor) (i : MonitorInput)

/-- The monitor when the driver starts. -/
def initial : Monitor where
  state := .powerOff
  previousPoweron := false
  armedLatched := false
  seenPoweroffAfterFault := true
  forceShutdown := false

/-- The latch of the armed state. -/
def updateLatch : Monitor :=
  { m with
    armedLatched :=
      if i.powerOnRequested then m.armedLatched || i.allSharedMotorsEnabled else false }

/-- The state after power was requested. -/
def poweredState : SharedMotorMonitorState := if m.armedLatched then .armed else .enabling

/-- The state machine, after the latch. -/
def updateState : Monitor :=
  match m.state with
  | .powerOff =>
    { m with
      forceShutdown := false
      state := if i.powerOnRequested then m.poweredState else .powerOff }
  | .enabling =>
    { m with
      forceShutdown := false
      state :=
        if !i.powerOnRequested then .powerOff else if m.armedLatched then .armed else .enabling }
  | .armed =>
    if !i.powerOnRequested then { m with state := .powerOff, forceShutdown := false }
    else if m.armedLatched && i.abnormalSharedAxis || i.anyAxisFault then
      { m with state := .faulted, forceShutdown := true, seenPoweroffAfterFault := false }
    else { m with forceShutdown := false }
  | .faulted =>
    if !i.powerOnRequested then
      { m with forceShutdown := true, seenPoweroffAfterFault := true }
    else if m.seenPoweroffAfterFault && !m.previousPoweron then
      { m with state := m.poweredState, forceShutdown := false }
    else { m with forceShutdown := true }

/-- `UpdateSharedMotorMonitorState`, without its effect on the arm group. -/
def update : Monitor :=
  { (m.updateLatch i).updateState i with previousPoweron := i.powerOnRequested }

/-- What holds between two cycles. -/
structure Consistent : Prop where
  forced : m.forceShutdown = true ↔ m.state = .faulted
  latched : m.state = .armed → m.armedLatched = true

theorem consistent_initial : Consistent initial := by
  refine ⟨by decide, ?_⟩
  intro h
  cases h

theorem poweredState_ne_faulted : m.poweredState ≠ .faulted := by
  unfold poweredState
  split_ifs <;> decide

theorem armedLatched_of_poweredState (h : m.poweredState = .armed) : m.armedLatched = true := by
  unfold poweredState at h
  split_ifs at h with hlatched
  exact hlatched

/-! ## One cycle -/

/-- Exactly the fault state shuts the axes down. -/
theorem forced_updateState :
    (m.updateState i).forceShutdown = true ↔ (m.updateState i).state = .faulted := by
  have hpowered := m.poweredState_ne_faulted
  unfold updateState
  cases hstate : m.state with
  | powerOff =>
    dsimp only
    split_ifs <;> simp [hpowered]
  | enabling =>
    dsimp only
    split_ifs <;> simp
  | armed =>
    dsimp only
    split_ifs <;> simp
  | faulted =>
    dsimp only
    split_ifs <;> simp [hpowered]

/-- The monitor is armed only with the latch. -/
theorem latched_updateState
    (hbefore : m.state = .armed → i.powerOnRequested = true → m.armedLatched = true)
    (h : (m.updateState i).state = .armed) : (m.updateState i).armedLatched = true := by
  have hpowered := m.armedLatched_of_poweredState
  unfold updateState at h ⊢
  cases hstate : m.state with
  | powerOff =>
    simp only [hstate] at h ⊢
    split_ifs at h
    exact hpowered h
  | enabling =>
    simp only [hstate] at h ⊢
    split_ifs at h with hoff hlatched
    exact hlatched
  | armed =>
    simp only [hstate] at h ⊢
    split_ifs at h ⊢ with hoff htrip
    · exact hbefore hstate (by simpa using hoff)
  | faulted =>
    simp only [hstate] at h ⊢
    split_ifs at h ⊢ with hoff hrises
    exact hpowered h

/-- A fault trips the armed monitor in the same cycle. -/
theorem faulted_of_trip (h : m.Consistent) (harmed : m.state = .armed)
    (hpower : i.powerOnRequested = true)
    (htrip : i.anyAxisFault = true ∨ i.abnormalSharedAxis = true) :
    (m.update i).state = .faulted ∧ (m.update i).seenPoweroffAfterFault = false := by
  have hlatched : (m.updateLatch i).armedLatched = true := by
    unfold updateLatch
    rw [hpower, h.latched harmed]
    rfl
  have htrips : ((m.updateLatch i).armedLatched && i.abnormalSharedAxis || i.anyAxisFault) =
      true := by
    obtain hfault | habnormal := htrip
    · rw [hfault, Bool.or_true]
    · rw [habnormal, hlatched]
      rfl
  have hstate : (m.updateLatch i).state = .armed := harmed
  unfold update updateState
  simp [hstate, hpower, htrips]

/-- Without power the fault state lasts, and the cycle is remembered. -/
theorem faulted_of_poweroff (hfaulted : m.state = .faulted)
    (hpower : i.powerOnRequested = false) : (m.update i).state = .faulted := by
  have hstate : (m.updateLatch i).state = .faulted := hfaulted
  unfold update updateState
  simp [hstate, hpower]

/-- With power the fault state lasts as long as no cycle without power was seen. -/
theorem faulted_of_unseen (hfaulted : m.state = .faulted)
    (hpower : i.powerOnRequested = true) (hunseen : m.seenPoweroffAfterFault = false) :
    (m.update i).state = .faulted ∧ (m.update i).seenPoweroffAfterFault = false := by
  have hstate : (m.updateLatch i).state = .faulted := hfaulted
  have hseen : (m.updateLatch i).seenPoweroffAfterFault = false := hunseen
  unfold update updateState
  simp [hstate, hpower, hseen]

end Monitor

namespace Monitor

variable {m : Monitor}

theorem Consistent.update (h : m.Consistent) (i : MonitorInput) : (m.update i).Consistent where
  forced := (m.updateLatch i).forced_updateState i
  latched := by
    refine (m.updateLatch i).latched_updateState i fun harmed hpower => ?_
    have hbefore : m.armedLatched = true := h.latched harmed
    unfold updateLatch
    rw [hpower, hbefore]
    rfl

end Monitor

end Igh

end JointController
