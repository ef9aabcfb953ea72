import JointController.Arm.Processor
import JointController.Library.Observers

/-!
# The arms after an interruption

When the position control of the arms is interrupted, the joints have to stay where they are
measured afterwards, until a new position command comes.

* `Call`, `Processor.step`: the calls of the processor, in any order.
* `SeatNote`, `seatNote`: an observer follows the interruptions, the pose that is captured after
  them, and whether the target of the external stream is older.
* `Reseats`: a cycle commands the captured pose, and no older target of the stream.
* `Settled`: the cycle finds no external stream, no motion of the CUBIC planner and no targets from
  before the pose.
* `Seated`: what the processor keeps while it holds a pose.
* `reseats_of_settled`: the rule holds along every run of such cycles.
* `not_reseats_streamRun`: a stream from before the interruption is commanded again.
-/

namespace JointController

namespace Arm

/-! ## Calls -/

/-- A call of the processor.  A command for the local planners is planned at once, at a time. -/
inductive Call where
  | updateJointState (feedback : Joints JointFeedback)
  | requestControlMode (mode : ControlMode) (now : ℕ)
  | requestPowerEnable (enable : Bool)
  | processHeavyPositionCommand (s : HeavyArmSetpoint)
  | processHeavyHoldPositionCommand (position : Joints Double)
  | requestPositionHold
  | clearHeavyPositionStream
  | processNewCommand (m : ServoMessage) (time : Double)
  | processNewArmJointCommand (m : ArmJointMessage) (time : Double)
  | updateJointCommands (simulated : Bool) (now : Double)
  | reset

namespace Processor

variable {e : Planners} (p : ArmParameters) (a : Processor e)

/-- A command is planned when it asks for it. -/
def planned (r : Bool × Processor e) (time : Double) : Processor e :=
  if r.1 then r.2.commandArmPlan p time else r.2

/-- The processor after a call. -/
def call : Call → Processor e
  | .updateJointState feedback => a.updateJointState feedback
  | .requestControlMode mode now => a.requestControlMode mode now
  | .requestPowerEnable enable => a.requestPowerEnable enable
  | .processHeavyPositionCommand s => (a.processHeavyPositionCommand p s).2
  | .processHeavyHoldPositionCommand position => (a.processHeavyHoldPositionCommand p position).2
  | .requestPositionHold => a.requestPositionHold.2
  | .clearHeavyPositionStream => a.clearHeavyPositionStream
  | .processNewCommand m time => planned p (a.processNewCommand p m) time
  | .processNewArmJointCommand m time => planned p (a.processNewArmJointCommand p m) time
  | .updateJointCommands simulated now => (a.updateJointCommands simulated now).1
  | .reset => a.reset

/-- A call as a step. -/
def step (p : ArmParameters) (a : Processor e) (c : Call) : Option (Processor e) :=
  some (a.call p c)

/-- After the way back from EFFORT, the pose of that moment is held. -/
def waitsForCommand : Bool :=
  a.positionControlState == .effortToPositionHold ||
    a.positionControlState == .waitFreshPositionTarget

end Processor

/-! ## The rule -/

/-- What an observer knows about the position control: it is executing commands; it was interrupted,
and maybe a request has captured the measured pose since; it has taken a command before it went on;
or it has to hold the pose that was captured. -/
inductive Phase where
  | executing
  | interrupted (captured : Option (Joints Double))
  | overtaken
  | holding (pose : Joints Double)

/-- The phase after a position command was taken.  A command before the first executing cycle does
not end the hold. -/
def Phase.afterCommand : Phase → Phase
  | .executing | .holding _ => .executing
  | .interrupted _ | .overtaken => .overtaken

/-- The phase after a request has captured the measured pose. -/
def Phase.afterCapture (measured : Joints Double) : Phase → Phase
  | .executing | .holding _ => .holding measured
  | .interrupted _ | .overtaken => .interrupted (some measured)

/-- The phase after a cycle that executes commands. -/
def Phase.afterExecution (measured : Joints Double) : Phase → Phase
  | .interrupted captured => .holding (captured.getD measured)
  | .overtaken => .holding measured
  | phase => phase

/-- What the observer notes: the phase, and that the target of the external stream is older than the
last interruption. -/
structure SeatNote where
  phase : Phase
  stale : Bool

/-- The position control is interrupted. -/
def SeatNote.interrupted : SeatNote := ⟨.interrupted none, true⟩

/-- A command of a local planner is taken or refused. -/
def SeatNote.planned (n : SeatNote) (accepted : Bool) : SeatNote :=
  if accepted then { n with phase := n.phase.afterCommand } else n

/-- A Heavy command, with its own target, is taken or refused. -/
def SeatNote.heavy (n : SeatNote) (accepted : Bool) : SeatNote :=
  if accepted then ⟨n.phase.afterCommand, false⟩ else n

variable {e : Planners}

/-- What the observer notes in a cycle. -/
def cycleNote (a : Processor e) (simulated : Bool) (n : SeatNote) : SeatNote :=
  if a.executionAllowed simulated then
    if a.activeControlMode = .position then
      { n with phase := n.phase.afterExecution a.measured }
    else n
  else .interrupted

/-- The observer. -/
def seatNote (p : ArmParameters) (a : Processor e) (c : Call) (n : SeatNote) : SeatNote :=
  match c with
  | .requestControlMode .effort _ => .interrupted
  | .requestControlMode .position _ =>
    if a.isPositionCommandReady then n else { n with phase := n.phase.afterCapture a.measured }
  | .requestPowerEnable enable => if a.powerEnabled && !enable then .interrupted else n
  | .requestPositionHold =>
    if a.activeControlMode = .position then { n with phase := n.phase.afterCapture a.measured }
    else n
  | .updateJointCommands simulated _ => cycleNote a simulated n
  | .reset => .interrupted
  | .processHeavyPositionCommand s => n.heavy (a.processHeavyPositionCommand p s).1.isOk
  | .processHeavyHoldPositionCommand position =>
    n.heavy (a.processHeavyHoldPositionCommand p position).1.isOk
  | .processNewCommand m _ => n.planned (!a.refusesServo m)
  | .processNewArmJointCommand _ _ => n.planned (!a.refusesPosition)
  | .updateJointState _ | .clearHeavyPositionStream => n

/-- The processor with another target of the external stream. -/
def Processor.withStream (a : Processor e) (target : Joints MotorState) : Processor e :=
  { a with externalStreamTarget := target }

/-- A cycle commands the pose that it has to hold, and its commands do not depend on a target of the
external stream from before the last interruption. -/
structure Reseats (s : Processor e × SeatNote) (c : Call) (s' : Processor e × SeatNote) : Prop where
  holds : ∀ simulated now pose, c = .updateJointCommands simulated now →
    s.1.executionAllowed simulated = true → s.1.activeControlMode = .position →
    s'.2.phase = .holding pose →
    ∀ i, ((s.1.updateJointCommands simulated now).2 i).position = pose i
  forgets : ∀ simulated now, c = .updateJointCommands simulated now → s.2.stale = true →
    ∀ target, ((s.1.withStream target).updateJointCommands simulated now).2 =
      (s.1.updateJointCommands simulated now).2

/-- A cycle that executes and has to hold a pose finds no external stream; it finds no motion of the
CUBIC planner when it would execute one; and the first such cycle finds no targets of a command that
was taken during the interruption. -/
def Settled (s : Processor e × SeatNote) : Call → Prop
  | .updateJointCommands simulated _ =>
    s.1.executionAllowed simulated = true → s.1.activeControlMode = .position →
      match s.2.phase with
      | .executing => True
      | .overtaken => s.1.externalPositionStreamActive = false ∧
          s.1.positionTargetsInitialized = false
      | .interrupted none => s.1.externalPositionStreamActive = false
      | .interrupted (some _) | .holding _ => s.1.externalPositionStreamActive = false ∧
          (s.1.waitsForCommand = false → s.1.interpolationMode = .cubicPolynomial →
            s.1.planner.allAxesStopped = true)
  | _ => True

/-! ## A held pose -/

/-- What the processor keeps while it holds a pose. -/
structure Seated (a : Processor e) (pose : Joints Double) : Prop where
  position : a.activeControlMode = .position
  initialized : a.positionTargetsInitialized = true
  getPos : a.getPos = pose
  desired : ∀ i, (a.motorStateDesired i).position = pose i
  atRest : a.inputJointPlan.AtRest pose

namespace Seated

variable {a : Processor e} {pose : Joints Double} {now : Double}

/-- The targets are taken from the measured pose. -/
theorem sync (h : a.activeControlMode = .position) :
    Seated a.syncPositionTargetsToCurrent a.measured :=
  ⟨h, rfl, rfl, fun _ => rfl, ⟨rfl, rfl, rfl, rfl, rfl, rfl⟩⟩

theorem requestPositionHold (h : a.activeControlMode = .position) :
    Seated a.requestPositionHold.2 a.measured := by
  unfold Processor.requestPositionHold CommandProcessor.requestPositionHold
  rw [if_neg (not_not.mpr h)]
  exact ⟨h, rfl, rfl, fun _ => rfl, ⟨rfl, rfl, rfl, rfl, rfl, rfl⟩⟩

/-- The targets are commanded. -/
theorem desire (h : Seated a pose) (state : RobotState) : Seated (a.desire a.getPos state) pose :=
  ⟨h.position, h.initialized, h.getPos, fun i => congrFun h.getPos i, h.atRest⟩

/-- Ruckig stays at the pose. -/
theorem executeRuckig (hrest : e.otg.KeepsRest) (h : Seated a pose) :
    Seated a.executeRuckig pose := by
  have hkept := hrest a.otgJointPlan a.inputJointPlan a.outputJointPlan pose h.atRest
  unfold Processor.executeRuckig
  dsimp only
  split
  · rename_i output otg heq
    rw [heq] at hkept
    have houtput : output = ⟨pose, fun _ => 0, fun _ => 0⟩ := hkept rfl
    subst houtput
    exact ⟨h.position, h.initialized, h.getPos, fun _ => rfl,
      ⟨rfl, rfl, rfl, h.atRest.targetPosition, h.atRest.targetVelocity,
        h.atRest.targetAcceleration⟩⟩
  · exact ⟨h.position, h.initialized, h.getPos, fun i => congrFun h.atRest.targetPosition i,
      ⟨h.atRest.targetPosition, rfl, rfl, h.atRest.targetPosition, rfl, rfl⟩⟩
  · exact ⟨h.position, h.initialized, h.getPos, h.desired, h.atRest⟩

/-- The CUBIC planner stays at the pose when it has stopped. -/
theorem executeCubic (h : Seated a pose) (hstopped : a.planner.allAxesStopped = true) :
    Seated (a.executeCubic now) pose := by
  unfold Processor.executeCubic
  rw [hstopped]
  exact h.desire .stopped

/-- A cycle goes on with the pose. -/
theorem execute (hrest : e.otg.KeepsRest) (h : Seated a pose)
    (hstream : a.externalPositionStreamActive = false)
    (hcubic : a.waitsForCommand = false → a.interpolationMode = .cubicPolynomial →
      a.planner.allAxesStopped = true) : Seated (a.execute now) pose := by
  have hseats : a.seats = false := by
    unfold Processor.seats
    rw [h.initialized]
    exact Bool.and_false _
  have hmode : ¬ a.activeControlMode = .effort := by
    rw [h.position]
    rintro ⟨⟩
  unfold Processor.execute Processor.executeTargets
  simp only [hseats, Bool.false_eq_true, if_false, if_neg hmode, hstream]
  by_cases hwaits : a.positionControlState = .effortToPositionHold ∨
      a.positionControlState = .waitFreshPositionTarget
  · rw [if_pos hwaits]
    exact h.desire .stopped
  · rw [if_neg hwaits]
    have hfree : a.waitsForCommand = false := by
      unfold Processor.waitsForCommand
      simpa using hwaits
    cases hinterp : a.interpolationMode with
    | ruckig => exact h.executeRuckig hrest
    | cubicPolynomial => exact h.executeCubic (hcubic hfree hinterp)

theorem computeArmTorques (h : Seated a pose) : Seated a.computeArmTorques pose :=
  ⟨h.position, h.initialized, h.getPos, h.desired, h.atRest⟩

theorem transitionPositionHoldToWait (h : Seated a pose) :
    Seated a.transitionPositionHoldToWait pose :=
  ⟨h.position, h.initialized, h.getPos, h.desired, h.atRest⟩

theorem jointCommand (h : Seated a pose) (mode : HardwareCommandMode) (i : Fin 14) :
    (a.jointCommand mode i).position = pose i := by
  have hmode : ¬ a.activeControlMode = .effort := by
    rw [h.position]
    rintro ⟨⟩
  unfold Processor.jointCommand
  rw [if_neg hmode]
  exact h.desired i

/-- A cycle with execution writes what it has then. -/
theorem cycle {simulated : Bool} (hallowed : a.executionAllowed simulated = true)
    (h : Seated (a.computeArmTorques.execute now) pose) :
    Seated (a.updateJointCommands simulated now).1 pose ∧
      ∀ i, ((a.updateJointCommands simulated now).2 i).position = pose i := by
  have hallowed' : a.computeArmTorques.executionAllowed simulated = true := hallowed
  unfold Processor.updateJointCommands
  dsimp only
  rw [if_pos hallowed']
  exact ⟨h.transitionPositionHoldToWait, h.jointCommand _⟩

/-- The first cycle after an interruption commands the measured pose. -/
theorem first (hposition : a.activeControlMode = .position)
    (hinitialized : a.positionTargetsInitialized = false) : Seated (a.execute now) a.measured := by
  have hseats : a.seats = true := by
    unfold Processor.seats
    rw [hposition, hinitialized]
    rfl
  have hsync := sync hposition
  have hmode : ¬ a.syncPositionTargetsToCurrent.activeControlMode = .effort := by
    rw [hsync.position]
    rintro ⟨⟩
  unfold Processor.execute Processor.executeTargets
  simp only [hseats, if_true, if_neg hmode]
  exact hsync.desire .stopped

end Seated

/-! ## The stream and the cycle -/

namespace Processor

variable {a : Processor e} {now : Double} {target : Joints MotorState}

/-- The control mode stays, and the stream stays on or off. -/
structure SameMode (a a' : Processor e) : Prop where
  mode : a'.activeControlMode = a.activeControlMode
  stream : a'.externalPositionStreamActive = a.externalPositionStreamActive

theorem sameMode_executeRuckig (a : Processor e) : SameMode a a.executeRuckig := by
  unfold executeRuckig
  dsimp only
  split <;> exact ⟨rfl, rfl⟩

theorem sameMode_executeCubic (a : Processor e) (now : Double) :
    SameMode a (a.executeCubic now) := by
  unfold executeCubic
  dsimp only
  split_ifs <;> exact ⟨rfl, rfl⟩

theorem sameMode_executeTargets (a : Processor e) (seated : Bool) (now : Double) :
    SameMode a (a.executeTargets seated now) := by
  unfold executeTargets
  split_ifs
  · exact ⟨rfl, rfl⟩
  · exact ⟨rfl, rfl⟩
  · exact ⟨rfl, rfl⟩
  · exact ⟨rfl, rfl⟩
  · split
    · exact sameMode_executeRuckig a
    · exact sameMode_executeCubic a now

/-- A cycle switches neither the control mode nor the stream. -/
theorem sameMode_updateJointCommands (a : Processor e) (simulated : Bool) (now : Double) :
    SameMode a (a.updateJointCommands simulated now).1 := by
  unfold updateJointCommands execute
  dsimp only
  split_ifs
  · obtain ⟨hmode, hstream⟩ :=
      sameMode_executeTargets a.computeArmTorques.syncPositionTargetsToCurrent
        a.computeArmTorques.seats now
    exact ⟨hmode, hstream⟩
  · obtain ⟨hmode, hstream⟩ :=
      sameMode_executeTargets a.computeArmTorques a.computeArmTorques.seats now
    exact ⟨hmode, hstream⟩
  · exact ⟨rfl, rfl⟩

theorem executeRuckig_withStream :
    (a.withStream target).executeRuckig = a.executeRuckig.withStream target := by
  unfold executeRuckig withStream
  dsimp only
  split <;> rfl

theorem executeCubic_withStream :
    (a.withStream target).executeCubic now = (a.executeCubic now).withStream target := by
  unfold executeCubic withStream
  dsimp only
  split_ifs <;> rfl

/-- Without the stream its target does not matter. -/
theorem executeTargets_withStream
    (hstream : a.activeControlMode = .position → a.externalPositionStreamActive = false)
    (seated : Bool) :
    (a.withStream target).executeTargets seated now =
      (a.executeTargets seated now).withStream target := by
  unfold executeTargets
  by_cases heffort : a.activeControlMode = .effort
  · rw [if_pos heffort]
    exact if_pos heffort
  have hposition : a.activeControlMode = .position := by
    cases h : a.activeControlMode with
    | position => rfl
    | effort => exact (heffort h).elim
  have hoff : ¬ a.externalPositionStreamActive = true := by
    rw [hstream hposition]
    exact Bool.false_ne_true
  rw [if_neg heffort]
  refine (if_neg heffort).trans ?_
  cases seated with
  | true => rfl
  | false =>
    simp only [Bool.false_eq_true, if_false]
    rw [if_neg hoff]
    refine (if_neg hoff).trans ?_
    by_cases hwaits : a.positionControlState = .effortToPositionHold ∨
        a.positionControlState = .waitFreshPositionTarget
    · rw [if_pos hwaits]
      exact if_pos hwaits
    · rw [if_neg hwaits]
      refine (if_neg hwaits).trans ?_
      have hinterpolation : (a.withStream target).interpolationMode = a.interpolationMode := rfl
      rw [hinterpolation]
      cases a.interpolationMode with
      | ruckig => exact executeRuckig_withStream
      | cubicPolynomial => exact executeCubic_withStream

/-- When no stream is executed, the commands do not depend on its target. -/
theorem updateJointCommands_withStream (simulated : Bool)
    (hstream : a.executionAllowed simulated = true → a.activeControlMode = .position →
      a.externalPositionStreamActive = false) :
    ((a.withStream target).updateJointCommands simulated now).2 =
      (a.updateJointCommands simulated now).2 := by
  have hmode : (a.withStream target).currentHardwareCommandMode = a.currentHardwareCommandMode :=
    rfl
  have hallowed : (a.withStream target).computeArmTorques.executionAllowed simulated =
      a.computeArmTorques.executionAllowed simulated := rfl
  unfold updateJointCommands
  dsimp only
  rw [hmode, hallowed]
  by_cases h : a.executionAllowed simulated = true
  · have h' : a.computeArmTorques.executionAllowed simulated = true := h
    rw [if_pos h', if_pos h']
    have hseats : (a.withStream target).computeArmTorques.seats = a.computeArmTorques.seats := rfl
    have hseated : (if a.computeArmTorques.seats then
          (a.withStream target).computeArmTorques.syncPositionTargetsToCurrent
          else (a.withStream target).computeArmTorques) =
        (if a.computeArmTorques.seats then a.computeArmTorques.syncPositionTargetsToCurrent
          else a.computeArmTorques).withStream target := by
      split_ifs <;> rfl
    have hoff : (if a.computeArmTorques.seats then
        a.computeArmTorques.syncPositionTargetsToCurrent
        else a.computeArmTorques).activeControlMode = .position →
        (if a.computeArmTorques.seats then a.computeArmTorques.syncPositionTargetsToCurrent
          else a.computeArmTorques).externalPositionStreamActive = false := by
      split_ifs <;> exact hstream h
    unfold execute
    rw [hseats, hseated, executeTargets_withStream hoff]
    rfl
  · have h' : ¬ a.computeArmTorques.executionAllowed simulated = true := h
    rw [if_neg h', if_neg h']
    rfl

end Processor

/-! ## One call -/

/-- A pose is held, or it is the one to go on with. -/
def Phase.Keeps (pose : Joints Double) (phase : Phase) : Prop :=
  phase = .holding pose ∨ phase = .interrupted (some pose)

/-- What holds between two calls. -/
structure Sound (s : Processor e × SeatNote) : Prop where
  seated : ∀ pose, s.2.phase.Keeps pose → Seated s.1 pose
  waiting : ∀ pose, s.2.phase = .holding pose → s.1.externalPositionStreamActive = true →
    s.1.positionControlState = .effortToPositionHold
  released : s.2.phase = .executing → s.2.stale = true → s.1.externalPositionStreamActive = false
  unseated : s.2.phase = .interrupted none → s.1.activeControlMode = .position →
    s.1.positionTargetsInitialized = false

variable {p : ArmParameters} {a a' : Processor e} {n : SeatNote} {pose : Joints Double}

theorem sound_interrupted {stale : Bool}
    (h : a.activeControlMode = .position → a.positionTargetsInitialized = false) :
    Sound (a, ⟨.interrupted none, stale⟩) := by
  refine ⟨?_, fun _ h => (by cases h), fun h => (by cases h), fun _ => h⟩
  rintro _ (⟨⟨⟩⟩ | ⟨⟨⟩⟩)

theorem sound_overtaken (a : Processor e) (stale : Bool) : Sound (a, ⟨.overtaken, stale⟩) := by
  refine ⟨?_, fun _ h => (by cases h), fun h => (by cases h), fun h => (by cases h)⟩
  rintro _ (⟨⟨⟩⟩ | ⟨⟨⟩⟩)

theorem sound_executing {stale : Bool}
    (h : stale = true → a.externalPositionStreamActive = false) :
    Sound (a, ⟨.executing, stale⟩) := by
  refine ⟨?_, fun _ h => (by cases h), fun _ => h, fun h => (by cases h)⟩
  rintro _ (⟨⟨⟩⟩ | ⟨⟨⟩⟩)

theorem sound_holding {stale : Bool} (h : Seated a pose)
    (hstream : a.externalPositionStreamActive = false ∨
      a.positionControlState = .effortToPositionHold) :
    Sound (a, ⟨.holding pose, stale⟩) := by
  refine ⟨?_, ?_, fun h => (by cases h), fun h => (by cases h)⟩
  · rintro _ (⟨⟨⟩⟩ | ⟨⟨⟩⟩)
    exact h
  · rintro _ ⟨⟩ hactive
    obtain hoff | hstate := hstream
    · rw [hoff] at hactive
      cases hactive
    · exact hstate

/-- A request captures the pose. -/
theorem sound_afterCapture {stale : Bool} {phase : Phase} (h : Seated a pose)
    (hstream : a.externalPositionStreamActive = false ∨
      a.positionControlState = .effortToPositionHold) :
    Sound (a, ⟨phase.afterCapture pose, stale⟩) := by
  have hcaptured : Sound (a, ⟨.interrupted (some pose), stale⟩) := by
    refine ⟨?_, fun _ h => (by cases h), fun h => (by cases h), fun h => (by cases h)⟩
    rintro _ (⟨⟨⟩⟩ | ⟨⟨⟩⟩)
    exact h
  cases phase with
  | executing => exact sound_holding h hstream
  | holding _ => exact sound_holding h hstream
  | interrupted _ => exact hcaptured
  | overtaken => exact hcaptured

/-- A call that leaves the targets and the control mode alone. -/
structure Processor.Keeps (a a' : Processor e) : Prop where
  activeControlMode : a'.activeControlMode = a.activeControlMode
  positionControlState : a'.positionControlState = a.positionControlState
  initialized : a'.positionTargetsInitialized = a.positionTargetsInitialized
  getPos : a'.getPos = a.getPos
  desired : a'.motorStateDesired = a.motorStateDesired
  inputJointPlan : a'.inputJointPlan = a.inputJointPlan
  stream : a'.externalPositionStreamActive = true → a.externalPositionStreamActive = true

theorem Processor.Keeps.refl (a : Processor e) : a.Keeps a := ⟨rfl, rfl, rfl, rfl, rfl, rfl, id⟩

theorem Processor.Keeps.seated (h : a.Keeps a') (hs : Seated a pose) : Seated a' pose where
  position := h.activeControlMode.trans hs.position
  initialized := h.initialized.trans hs.initialized
  getPos := h.getPos.trans hs.getPos
  desired := fun i => by
    rw [h.desired]
    exact hs.desired i
  atRest := h.inputJointPlan ▸ hs.atRest

theorem Sound.keeps (hs : Sound (a, n)) (h : a.Keeps a') : Sound (a', n) where
  seated := fun pose hpose => h.seated (hs.seated pose hpose)
  waiting := fun pose hpose hstream =>
    h.positionControlState.trans (hs.waiting pose hpose (h.stream hstream))
  released := fun hexecuting hstale => by
    have hoff := hs.released hexecuting hstale
    cases hstream : a'.externalPositionStreamActive with
    | false => rfl
    | true =>
      rw [h.stream hstream] at hoff
      cases hoff
  unseated := fun hinterrupted hmode =>
    h.initialized.trans (hs.unseated hinterrupted (h.activeControlMode.symm.trans hmode))

/-- A command after which no older target is in the stream. -/
theorem sound_afterCommand {stale : Bool}
    (hexecuting : n.phase = .executing → stale = true → a'.externalPositionStreamActive = false)
    (hholding : ∀ pose, n.phase = .holding pose → stale = true →
      a'.externalPositionStreamActive = false) : Sound (a', ⟨n.phase.afterCommand, stale⟩) := by
  cases hphase : n.phase with
  | executing => exact sound_executing (hexecuting hphase)
  | interrupted _ => exact sound_overtaken a' stale
  | overtaken => exact sound_overtaken a' stale
  | holding pose => exact sound_executing (hholding pose hphase)

namespace Processor

theorem externalPositionStreamActive_commandArmPlan (a : Processor e) (time : Double) :
    (a.commandArmPlan p time).externalPositionStreamActive = a.externalPositionStreamActive := by
  unfold commandArmPlan
  split_ifs
  · rfl
  · rfl
  · cases a.interpolationMode with
    | ruckig => rfl
    | cubicPolynomial =>
      dsimp only
      unfold planCubic
      split_ifs <;> rfl

theorem externalPositionStreamActive_planned (r : Bool × Processor e) (time : Double) :
    (planned p r time).externalPositionStreamActive = r.2.externalPositionStreamActive := by
  unfold planned
  split_ifs
  · exact externalPositionStreamActive_commandArmPlan r.2 time
  · rfl

/-- A servo command ends the stream. -/
theorem externalPositionStreamActive_processNewCommand (m : ServoMessage) :
    (a.processNewCommand p m).2.externalPositionStreamActive = false := by
  have hmode : ∀ (a : Processor e) (runMode : ℤ),
      (a.updateInterpolationMode runMode).2.externalPositionStreamActive =
        a.externalPositionStreamActive := by
    intro a runMode
    unfold updateInterpolationMode
    dsimp only
    split_ifs <;> rfl
  unfold processNewCommand
  dsimp only
  split_ifs
  · rfl
  · exact hmode _ _
  · exact hmode _ _

theorem externalPositionStreamActive_processNewArmJointCommand (m : ArmJointMessage) :
    (a.processNewArmJointCommand p m).2.externalPositionStreamActive =
      a.externalPositionStreamActive := by
  unfold processNewArmJointCommand
  split_ifs <;> rfl

/-- A refused servo command ends the stream and changes nothing else. -/
theorem keeps_processNewCommand {m : ServoMessage} (time : Double) (h : a.refusesServo m = true) :
    a.Keeps (planned p (a.processNewCommand p m) time) := by
  have hrefuses : { a with externalPositionStreamActive := false }.refusesServo m = true := h
  unfold processNewCommand planned
  dsimp only
  rw [if_pos hrefuses]
  exact ⟨rfl, rfl, rfl, rfl, rfl, rfl, fun h => by cases h⟩

theorem keeps_processNewArmJointCommand {m : ArmJointMessage} (time : Double)
    (h : a.refusesPosition = true) :
    a.Keeps (planned p (a.processNewArmJointCommand p m) time) := by
  unfold processNewArmJointCommand planned
  rw [if_pos h]
  exact Keeps.refl a

theorem keeps_processHeavyPositionCommand {s : HeavyArmSetpoint}
    (h : (a.processHeavyPositionCommand p s).1.isOk = false) :
    a.Keeps (a.processHeavyPositionCommand p s).2 := by
  unfold processHeavyPositionCommand CommandProcessor.processHeavyPositionCommand at h ⊢
  dsimp only at h ⊢
  split at h
  · exact Keeps.refl a
  · cases h

/-- The loop of a HOLD changes targets of the stream only. -/
theorem holdTargets_snd (position : Joints Double) (joints : List (Fin 14)) :
    ∀ c : CommandProcessor, ∃ target, (CommandProcessor.holdTargets p position joints c).2 =
      { c with externalStreamTarget := target } := by
  induction joints with
  | nil => exact fun c => ⟨c.externalStreamTarget, rfl⟩
  | cons i joints ih =>
    intro c
    unfold CommandProcessor.holdTargets
    split_ifs
    · exact ⟨c.externalStreamTarget, rfl⟩
    · exact ih _

theorem keeps_processHeavyHoldPositionCommand {position : Joints Double}
    (h : (a.processHeavyHoldPositionCommand p position).1.isOk = false) :
    a.Keeps (a.processHeavyHoldPositionCommand p position).2 := by
  unfold processHeavyHoldPositionCommand CommandProcessor.processHeavyHoldPositionCommand at h ⊢
  dsimp only at h ⊢
  split_ifs at h ⊢ with hmode
  · exact Keeps.refl a
  · obtain ⟨target, htarget⟩ :=
      holdTargets_snd (p := p) position (List.finRange 14) a.toCommandProcessor
    split at h
    · rename_i reason c heq
      rw [heq] at htarget
      obtain rfl : c = { a.toCommandProcessor with externalStreamTarget := target } := htarget
      exact ⟨rfl, rfl, rfl, rfl, rfl, rfl, id⟩
    · cases h

end Processor

/-- A cycle keeps what holds between two calls, and it commands the pose that it has to hold. -/
theorem Sound.updateJointCommands (hrest : e.otg.KeepsRest) (hs : Sound (a, n)) (simulated : Bool)
    (now : Double) (hC : Settled (a, n) (.updateJointCommands simulated now)) :
    Sound ((a.updateJointCommands simulated now).1, cycleNote a simulated n) ∧
      ∀ pose, a.executionAllowed simulated = true → a.activeControlMode = .position →
        (cycleNote a simulated n).phase = .holding pose →
        ∀ i, ((a.updateJointCommands simulated now).2 i).position = pose i := by
  obtain ⟨hsame, hstream⟩ := a.sameMode_updateJointCommands simulated now
  unfold cycleNote
  cases hallowed : a.executionAllowed simulated with
  | false =>
    refine ⟨sound_interrupted fun _ => ?_, fun _ h => by cases h⟩
    have hrefused : ¬ a.computeArmTorques.executionAllowed simulated = true := by
      rw [show a.computeArmTorques.executionAllowed simulated = false from hallowed]
      exact Bool.false_ne_true
    unfold Processor.updateJointCommands
    dsimp only
    rw [if_neg hrefused]
    rfl
  | true =>
    by_cases hmode : a.activeControlMode = .position
    · have hC' := hC hallowed hmode
      simp only [if_true, if_pos hmode]
      -- A cycle without the stream that is seated commands its pose, and goes on with it.
      have hholds : ∀ pose stale, a.externalPositionStreamActive = false →
          Seated (a.computeArmTorques.execute now) pose →
          Sound ((a.updateJointCommands simulated now).1, ⟨.holding pose, stale⟩) ∧
            ∀ pose', True → a.activeControlMode = .position →
              Phase.holding pose = .holding pose' →
              ∀ i, ((a.updateJointCommands simulated now).2 i).position = pose' i := by
        intro pose stale hoff hseated
        obtain ⟨hnext, hwritten⟩ := hseated.cycle hallowed
        refine ⟨sound_holding hnext (Or.inl (hstream.trans hoff)), ?_⟩
        rintro _ - - ⟨⟩
        exact hwritten
      obtain ⟨phase, stale⟩ := n
      cases phase with
      | executing =>
        refine ⟨sound_executing fun hstale => ?_, fun _ _ _ h => by cases h⟩
        rw [hstream]
        exact hs.released rfl hstale
      | interrupted captured =>
        cases captured with
        | none =>
          have hseated : Seated (a.computeArmTorques.execute now) a.measured :=
            Seated.first hmode (hs.unseated rfl hmode)
          exact hholds _ _ hC' hseated
        | some pose =>
          have hseated : Seated (a.computeArmTorques.execute now) pose :=
            (hs.seated pose (Or.inr rfl)).computeArmTorques.execute hrest hC'.1 hC'.2
          exact hholds _ _ hC'.1 hseated
      | overtaken =>
        have hseated : Seated (a.computeArmTorques.execute now) a.measured :=
          Seated.first hmode hC'.2
        exact hholds _ _ hC'.1 hseated
      | holding pose =>
        have hseated : Seated (a.computeArmTorques.execute now) pose :=
          (hs.seated pose (Or.inl rfl)).computeArmTorques.execute hrest hC'.1 hC'.2
        exact hholds _ _ hC'.1 hseated
    · simp only [if_true, if_neg hmode]
      refine ⟨?_, fun _ _ h => (hmode h).elim⟩
      obtain ⟨phase, stale⟩ := n
      cases phase with
      | executing =>
        refine sound_executing fun hstale => ?_
        rw [hstream]
        exact hs.released rfl hstale
      | interrupted captured =>
        cases captured with
        | none => exact sound_interrupted fun hposition => (hmode (hsame.symm.trans hposition)).elim
        | some pose => exact (hmode (hs.seated pose (Or.inr rfl)).position).elim
      | overtaken => exact sound_overtaken _ _
      | holding pose => exact (hmode (hs.seated pose (Or.inl rfl)).position).elim

/-- A Heavy command brings a target of its own. -/
theorem sound_heavy {accepted : Bool} (hs : Sound (a, n)) (hkeeps : accepted = false → a.Keeps a') :
    Sound (a', n.heavy accepted) := by
  cases haccepted : accepted with
  | true => exact sound_afterCommand (fun _ h => by cases h) (fun _ _ h => by cases h)
  | false => exact hs.keeps (hkeeps haccepted)

theorem Sound.requestControlMode (hs : Sound (a, n)) (mode : ControlMode) (now : ℕ) :
    Sound (a.requestControlMode mode now, seatNote p a (.requestControlMode mode now) n) := by
  cases mode with
  | effort =>
    refine sound_interrupted fun hposition => ?_
    unfold Processor.requestControlMode at hposition
    dsimp only at hposition
    split_ifs at hposition with heffort
    rw [heffort.1] at hposition
    cases hposition
  | position =>
    unfold Processor.requestControlMode seatNote
    by_cases hready : a.activeControlMode = .position ∧ a.positionControlState = .positionActive
    · have hready' : a.isPositionCommandReady = true := by
        unfold CommandProcessor.isPositionCommandReady
        simpa using hready
      simp only [if_pos hready, if_pos hready']
      exact hs
    · have hready' : ¬ a.isPositionCommandReady = true := by
        unfold CommandProcessor.isPositionCommandReady
        simpa using hready
      simp only [if_neg hready, if_neg hready']
      have hseated : Seated { a with activeControlMode := .position }.syncPositionTargetsToCurrent
          a.measured := Seated.sync rfl
      refine sound_afterCapture ?_ (Or.inr rfl)
      exact ⟨hseated.position, hseated.initialized, hseated.getPos, hseated.desired,
        hseated.atRest⟩

theorem Sound.requestPowerEnable (hs : Sound (a, n)) (enable : Bool) :
    Sound (a.requestPowerEnable enable, seatNote p a (.requestPowerEnable enable) n) := by
  unfold Processor.requestPowerEnable seatNote
  cases hpower : a.powerEnabled with
  | true =>
    cases enable with
    | true => exact hs
    | false => exact sound_interrupted fun _ => rfl
  | false =>
    cases enable with
    | true => exact hs.keeps ⟨rfl, rfl, rfl, rfl, rfl, rfl, id⟩
    | false => exact hs

theorem Sound.requestPositionHold (hs : Sound (a, n)) :
    Sound (a.requestPositionHold.2, seatNote p a .requestPositionHold n) := by
  unfold seatNote
  by_cases hmode : a.activeControlMode = .position
  · have hoff : a.requestPositionHold.2.externalPositionStreamActive = false := by
      unfold Processor.requestPositionHold CommandProcessor.requestPositionHold
      rw [if_neg (not_not.mpr hmode)]
      rfl
    simp only [if_pos hmode]
    exact sound_afterCapture (Seated.requestPositionHold hmode) (Or.inl hoff)
  · have hsame : a.requestPositionHold.2 = a := by
      unfold Processor.requestPositionHold CommandProcessor.requestPositionHold
      rw [if_pos hmode]
      rfl
    simp only [if_neg hmode]
    rw [hsame]
    exact hs

/-- A servo command ends the stream. -/
theorem Sound.processNewCommand (hs : Sound (a, n)) (m : ServoMessage) (time : Double) :
    Sound (Processor.planned p (a.processNewCommand p m) time,
      n.planned (!a.refusesServo m)) := by
  have hoff : (Processor.planned p (a.processNewCommand p m) time).externalPositionStreamActive =
      false :=
    (Processor.externalPositionStreamActive_planned _ time).trans
      (Processor.externalPositionStreamActive_processNewCommand m)
  cases hrefuses : a.refusesServo m with
  | true => exact hs.keeps (Processor.keeps_processNewCommand time hrefuses)
  | false => exact sound_afterCommand (fun _ _ => hoff) (fun _ _ _ => hoff)

/-- A joint command is taken in a cycle after the one of the way back from EFFORT. -/
theorem Sound.processNewArmJointCommand (hs : Sound (a, n)) (m : ArmJointMessage)
    (time : Double) :
    Sound (Processor.planned p (a.processNewArmJointCommand p m) time,
      n.planned (!a.refusesPosition)) := by
  have hstream : (Processor.planned p (a.processNewArmJointCommand p m)
      time).externalPositionStreamActive = a.externalPositionStreamActive :=
    (Processor.externalPositionStreamActive_planned _ time).trans
      (Processor.externalPositionStreamActive_processNewArmJointCommand m)
  cases hrefuses : a.refusesPosition with
  | true => exact hs.keeps (Processor.keeps_processNewArmJointCommand time hrefuses)
  | false =>
    refine sound_afterCommand (fun hphase hstale => ?_) (fun pose hphase _ => ?_)
    · rw [hstream]
      exact hs.released hphase hstale
    · rw [hstream]
      cases hactive : a.externalPositionStreamActive with
      | false => rfl
      | true =>
        have hstate := hs.waiting pose hphase hactive
        unfold Processor.refusesPosition at hrefuses
        rw [hstate] at hrefuses
        simp at hrefuses

/-- The step lemma. -/
theorem Sound.next (hrest : e.otg.KeepsRest) {s s' : Processor e × SeatNote} {c : Call}
    (hs : Sound s) (hC : Settled s c)
    (h : Runs.observed (Processor.step p) (seatNote p) s c = some s') : Sound s' := by
  obtain ⟨a, n⟩ := s
  obtain ⟨a', n'⟩ := s'
  obtain ⟨hstep, hnote⟩ := Runs.observed_eq_some.mp h
  obtain rfl : n' = seatNote p a c n := hnote
  obtain rfl : a.call p c = a' := Option.some_inj.mp hstep
  cases c with
  | updateJointState feedback => exact hs.keeps ⟨rfl, rfl, rfl, rfl, rfl, rfl, id⟩
  | requestControlMode mode now => exact hs.requestControlMode mode now
  | requestPowerEnable enable => exact hs.requestPowerEnable enable
  | processHeavyPositionCommand s =>
    exact sound_heavy hs Processor.keeps_processHeavyPositionCommand
  | processHeavyHoldPositionCommand position =>
    exact sound_heavy hs Processor.keeps_processHeavyHoldPositionCommand
  | requestPositionHold => exact hs.requestPositionHold
  | clearHeavyPositionStream =>
    exact hs.keeps ⟨rfl, rfl, rfl, rfl, rfl, rfl, fun h => by cases h⟩
  | processNewCommand m time => exact hs.processNewCommand m time
  | processNewArmJointCommand m time => exact hs.processNewArmJointCommand m time
  | updateJointCommands simulated now => exact (hs.updateJointCommands hrest simulated now hC).1
  | reset => exact sound_interrupted fun _ => rfl

/-- A cycle commands the held pose, and no older target of the stream. -/
theorem Sound.reseats (hrest : e.otg.KeepsRest) {s s' : Processor e × SeatNote} {c : Call}
    (hs : Sound s) (hC : Settled s c)
    (h : Runs.observed (Processor.step p) (seatNote p) s c = some s') : Reseats s c s' := by
  obtain ⟨a, n⟩ := s
  obtain ⟨a', n'⟩ := s'
  obtain ⟨-, hnote⟩ := Runs.observed_eq_some.mp h
  obtain rfl : n' = seatNote p a c n := hnote
  constructor
  · rintro simulated now pose rfl hallowed hmode hholding
    exact (hs.updateJointCommands hrest simulated now hC).2 pose hallowed hmode hholding
  · rintro simulated now rfl hstale target
    refine Processor.updateJointCommands_withStream simulated fun hallowed hmode => ?_
    have hC' := hC hallowed hmode
    obtain ⟨phase, stale⟩ := n
    cases phase with
    | executing => exact hs.released rfl hstale
    | interrupted captured =>
      cases captured with
      | none => exact hC'
      | some pose => exact hC'.1
    | overtaken => exact hC'.1
    | holding pose => exact hC'.1

/-- The processor and the observer at the start. -/
def observedInitial (e : Planners) : Processor e × SeatNote := (.initial e, .interrupted)

/-- When Ruckig keeps a pose at rest, every run of such cycles commands the measured pose after an
interruption until a new position command, and no target of the stream from before it. -/
theorem reseats_of_settled (p : ArmParameters) (e : Planners) (hrest : e.otg.KeepsRest)
    {calls : List Call}
    (h : Runs.Meets (Runs.observed (Processor.step p) (seatNote p)) Settled (observedInitial e)
      calls) :
    Runs.Throughout (Runs.observed (Processor.step p) (seatNote p)) Reseats (observedInitial e)
      calls :=
  Runs.throughout_of_meets (fun _ _ _ hs hC hstep => hs.next hrest hC hstep)
    (fun _ _ _ hs hC hstep => hs.reseats hrest hC hstep) (sound_interrupted fun _ => rfl) h

/-! ## Interrupted arms -/

/-- A Ruckig that has finished as soon as it is called. -/
def finishedRuckig : Ruckig where
  State := Unit
  initial := ()
  update := fun _ input _ => (.finished, ⟨input.targetPosition, fun _ => 0, fun _ => 0⟩, ())

theorem keepsRest_finishedRuckig : finishedRuckig.KeepsRest := fun _ _ _ _ _ h => by cases h

/-- Planners for arms that only hold a pose. -/
def holdPlanners : Planners where
  otg := finishedRuckig
  quintic := ⟨fun _ _ duration => duration, fun _ _ _ => 0, fun _ _ => ⟨0, 0, 0⟩⟩
  toFloat := id

/-- Arms with the default limits. -/
def defaultArm : ArmParameters where
  jointNames := List.replicate 14 "joint"
  model := ⟨[], [], []⟩
  heavyMaxVelocityRadS := 1
  heavyMaxAccelerationRadS2 := 1
  jointNames_length := List.length_replicate
  heavyMaxVelocity_pos := zero_lt_one
  heavyMaxAcceleration_pos := zero_lt_one

/-- All joints are measured at a position, with a status. -/
def measuredAt (position status : ℚ) : Call :=
  .updateJointState fun _ => ⟨.finite position, 0, .finite status⟩

/-- A cycle. -/
def cycleCall : Call := .updateJointCommands false 0

/-- The external stream moves all joints to a position. -/
def streamTo (position : ℚ) : Call :=
  .processHeavyPositionCommand
    ⟨1, 1, Command.fieldPosition, fun _ => .finite position, fun _ => 0, fun _ => 0⟩

/-- The drives are disabled on the way to a target of the stream, and enabled again. -/
def streamRun : List Call :=
  [measuredAt 0 39, cycleCall, streamTo (1 / 2), cycleCall, measuredAt (1 / 4) 64, cycleCall,
    measuredAt (1 / 4) 39, cycleCall]

/-- A joint has to be held at a position, and a cycle commands another one. -/
def commandsOther (s : Processor holdPlanners × SeatNote) : Bool :=
  (s.1.executionAllowed false && s.1.activeControlMode == .position) &&
    match s.2.phase with
    | .holding pose => ((s.1.updateJointCommands false 0).2 0).position != pose 0
    | _ => false

/-- The second cycle after the interruption commands the old target of the stream. -/
theorem not_reseats_streamRun :
    ¬ Runs.Throughout (Runs.observed (Processor.step defaultArm) (seatNote defaultArm)) Reseats
      (observedInitial holdPlanners) (streamRun ++ [cycleCall]) := by
  intro h
  obtain ⟨⟨a, phase, stale⟩, hs, -, hlast⟩ := Runs.reachable_of_run
    (Runs.observed (Processor.step defaultArm) (seatNote defaultArm))
    (observedInitial holdPlanners) streamRun commandsOther (by decide +kernel)
  obtain ⟨hexecutes, hother⟩ := Bool.and_eq_true_iff.mp hlast
  obtain ⟨hallowed, hposition⟩ := Bool.and_eq_true_iff.mp hexecutes
  have hmode : a.activeControlMode = .position := eq_of_beq hposition
  cases phase with
  | executing => cases hother
  | interrupted captured => cases hother
  | overtaken => cases hother
  | holding pose =>
    have hnote : (cycleNote a false ⟨.holding pose, stale⟩).phase = .holding pose := by
      unfold cycleNote
      rw [if_pos hallowed, if_pos hmode]
      rfl
    have hheld := (h.last hs rfl).holds false 0 pose rfl hallowed hmode hnote 0
    exact bne_iff_ne.mp hother hheld

/-- An interruption by a switch to EFFORT, and one by the drives. -/
def holdRun : List Call :=
  [measuredAt 0 39, cycleCall, .requestControlMode .effort 1, cycleCall,
    .requestControlMode .position 2, cycleCall, cycleCall, measuredAt (1 / 4) 64, cycleCall,
    measuredAt (1 / 4) 39, cycleCall, cycleCall]

/-- A test for a settled cycle. -/
def settles (s : Processor e × SeatNote) : Call → Bool
  | .updateJointCommands _ _ =>
    s.1.activeControlMode == .effort ||
      match s.2.phase with
      | .executing => true
      | .interrupted none => !s.1.externalPositionStreamActive
      | .overtaken => false
      | .interrupted (some _) | .holding _ =>
        !s.1.externalPositionStreamActive && s.1.planner.allAxesStopped
  | _ => true

theorem settled_of_settles (s : Processor e × SeatNote) (c : Call) (h : settles s c = true) :
    Settled s c := by
  obtain ⟨a, phase, stale⟩ := s
  cases c with
  | updateJointCommands simulated now =>
    intro _ hmode
    have hfree : ¬ (a.activeControlMode == .effort) = true := by
      rw [hmode]
      decide
    have hphase := (Bool.or_eq_true_iff.mp h).resolve_left hfree
    have hfree : !a.externalPositionStreamActive && a.planner.allAxesStopped →
        a.externalPositionStreamActive = false ∧ (a.waitsForCommand = false →
          a.interpolationMode = .cubicPolynomial → a.planner.allAxesStopped = true) := by
      intro h
      obtain ⟨hstream, hstopped⟩ := Bool.and_eq_true_iff.mp h
      exact ⟨(Bool.not_eq_true' _).mp hstream, fun _ _ => hstopped⟩
    cases phase with
    | executing => trivial
    | interrupted captured =>
      cases captured with
      | none => exact (Bool.not_eq_true' _).mp hphase
      | some pose => exact hfree hphase
    | overtaken => cases hphase
    | holding pose => exact hfree hphase
  | _ => trivial

/-- Without a stream the measured pose is held after both interruptions. -/
theorem reseats_holdRun :
    Runs.Throughout (Runs.observed (Processor.step defaultArm) (seatNote defaultArm)) Reseats
      (observedInitial holdPlanners) holdRun :=
  reseats_of_settled defaultArm holdPlanners keepsRest_finishedRuckig
    (Runs.meets_of_passes settled_of_settles (by decide +kernel))

end Arm

end JointController
