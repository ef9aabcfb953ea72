import JointController.Library.Double

/-!
# The motion profile of the lift

`LiftMotionProfile` keeps the input of an online trajectory generator and the sample that it
computed last.  The generator itself is a parameter.

* `LiftMotionLimits`: the limits that `LiftMotionProfile::configure` accepts.
* `TrajectoryGenerator`: the generator, with the square root of the braking distance.
* `LiftMotionProfile`, with `reset`, `hold`, `setPositionTarget`, `setVelocityTarget`,
  `requestSoftStop` and `update`.
-/

namespace JointController

namespace Lift

/-! ## Limits and samples -/

/-- `LiftMotionLimits`, as `LiftMotionProfile::configure` accepts them. -/
structure LiftMotionLimits where
  minPositionM : ℚ
  maxPositionM : ℚ
  maxVelocityMps : ℚ
  maxAccelerationMps2 : ℚ
  maxJerkMps3 : ℚ
  defaultVelocityScale : ℚ
  position_lt : minPositionM < maxPositionM
  maxVelocity_pos : 0 < maxVelocityMps
  maxAcceleration_pos : 0 < maxAccelerationMps2
  maxJerk_pos : 0 < maxJerkMps3
  defaultVelocityScale_pos : 0 < defaultVelocityScale
  defaultVelocityScale_le : defaultVelocityScale ≤ 1

/-- A position clamped to the software travel. -/
def LiftMotionLimits.clampPosition (l : LiftMotionLimits) (x : Double) : Double :=
  x.clamp (.finite l.minPositionM) (.finite l.maxPositionM)

/-- A velocity clamped to the velocity limit. -/
def LiftMotionLimits.clampVelocity (l : LiftMotionLimits) (v : Double) : Double :=
  v.clamp (.finite (-l.maxVelocityMps)) (.finite l.maxVelocityMps)

/-- An acceleration clamped to the acceleration limit. -/
def LiftMotionLimits.clampAcceleration (l : LiftMotionLimits) (a : Double) : Double :=
  a.clamp (.finite (-l.maxAccelerationMps2)) (.finite l.maxAccelerationMps2)

/-- `LiftMotionSample`. -/
structure LiftMotionSample where
  positionM : Double
  velocityMps : Double
  accelerationMps2 : Double
  jerkMps3 : Double
  finished : Bool
  valid : Bool
  deriving DecidableEq

/-- A standing sample at a position. -/
def LiftMotionSample.standing (position : Double) : LiftMotionSample :=
  ⟨position, 0, 0, 0, true, true⟩

/-! ## The trajectory generator -/

/-- `ruckig::ControlInterface`. -/
inductive ControlInterface where
  | position | velocity
  deriving DecidableEq

/-- `ruckig::InputParameter<1>`. -/
structure GeneratorInput where
  controlInterface : ControlInterface
  currentPosition : Double
  currentVelocity : Double
  currentAcceleration : Double
  targetPosition : Double
  targetVelocity : Double
  targetAcceleration : Double
  maxVelocity : Double
  maxAcceleration : Double
  maxJerk : Double

/-- `ruckig::Result`: `error` stands for the values below `Working`. -/
inductive GeneratorResult where
  | working | finished | error
  deriving DecidableEq

/-- `ruckig::OutputParameter<1>`. -/
structure GeneratorOutput where
  newPosition : Double
  newVelocity : Double
  newAcceleration : Double
  newJerk : Double

/-- The online trajectory generator with what it remembers between two calls, and the square root
of the standard library. -/
structure TrajectoryGenerator where
  Memory : Type
  initial : Memory
  reset : Memory → Memory
  update : Memory → (deltaTime : Double) → GeneratorInput →
    GeneratorResult × GeneratorOutput × Memory
  sqrt : Double → Double

/-! ## The profile -/

/-- `LiftProfileMode`. -/
inductive LiftProfileMode where
  | hold | position | velocity | softStop
  deriving DecidableEq

/-- `LiftMotionProfile`, after it has been configured. -/
structure LiftMotionProfile (otg : TrajectoryGenerator) where
  input : GeneratorInput
  memory : otg.Memory
  mode : LiftProfileMode
  state : LiftMotionSample

namespace LiftMotionProfile

variable {otg : TrajectoryGenerator} (l : LiftMotionLimits) (profile : LiftMotionProfile otg)

/-- `target_position_m`. -/
def targetPositionM : Double := profile.input.targetPosition

/-- `normalized_scale`. -/
def normalizedScale (requested : Double) : Double :=
  if ¬ requested.isFinite ∨ requested ≤ 0 then .finite l.defaultVelocityScale
  else requested.clamp (.finite (1 / 100)) (.finite 1)

/-- `limit_aware_velocity`: the velocity from which the lift can still brake before the limit. -/
def limitAwareVelocity (otg : TrajectoryGenerator) (currentPosition requested : Double) : Double :=
  let brakingLimit (distance : Double) : Double :=
    otg.sqrt (.finite (2 * l.maxAccelerationMps2) * distance)
  if (0 : Double) < requested then
    requested.min (brakingLimit (Double.max 0 (.finite l.maxPositionM - currentPosition)))
  else if requested < 0 then
    requested.max (-brakingLimit (Double.max 0 (currentPosition - .finite l.minPositionM)))
  else 0

/-- `apply_limits`. -/
def applyLimits (velocityScale : Double) (input : GeneratorInput) : GeneratorInput :=
  { input with
    maxVelocity := .finite l.maxVelocityMps * normalizedScale l velocityScale
    maxAcceleration := .finite l.maxAccelerationMps2
    maxJerk := .finite l.maxJerkMps3 }

/-- `reset`. -/
def reset (position velocity acceleration : Double) : LiftMotionProfile otg :=
  let position := l.clampPosition position
  let velocity := l.clampVelocity velocity
  let acceleration := l.clampAcceleration acceleration
  { input := applyLimits l (.finite l.defaultVelocityScale)
      { profile.input with
        currentPosition := position
        currentVelocity := velocity
        currentAcceleration := acceleration
        targetPosition := position
        targetVelocity := 0
        targetAcceleration := 0
        controlInterface := .position }
    memory := otg.reset profile.memory
    mode := .hold
    state := ⟨position, velocity, acceleration, 0, true, true⟩ }

/-- `hold`. -/
def hold (position : Double) : LiftMotionProfile otg := profile.reset l position 0 0

/-- `set_position_target`, and whether it has accepted the target. -/
def setPositionTarget (position velocity acceleration velocityScale accelerationLimit : Double) :
    Bool × LiftMotionProfile otg :=
  if ¬ position.isFinite ∨ ¬ velocity.isFinite ∨ ¬ acceleration.isFinite ∨
      ¬ accelerationLimit.isFinite then (false, profile)
  else
    let input := applyLimits l (normalizedScale l velocityScale)
      { profile.input with
        controlInterface := .position
        targetPosition := l.clampPosition position
        targetVelocity := l.clampVelocity velocity
        targetAcceleration := l.clampAcceleration acceleration }
    (true,
      { profile with
        input := { input with
          maxAcceleration :=
            if (0 : Double) < accelerationLimit then input.maxAcceleration.min accelerationLimit
            else input.maxAcceleration }
        memory := otg.reset profile.memory
        mode := .position })

/-- `set_velocity_target`, and whether it has accepted the target. -/
def setVelocityTarget (velocity velocityScale : Double) : Bool × LiftMotionProfile otg :=
  if ¬ velocity.isFinite then (false, profile)
  else
    let input := applyLimits l (normalizedScale l velocityScale)
      { profile.input with controlInterface := .velocity }
    (true,
      { profile with
        input := { input with
          targetVelocity := limitAwareVelocity l otg input.currentPosition
            (velocity.clamp (-input.maxVelocity) input.maxVelocity)
          targetAcceleration := 0 }
        memory := otg.reset profile.memory
        mode := .velocity })

/-- `request_soft_stop`. -/
def requestSoftStop : LiftMotionProfile otg :=
  { profile with
    input := applyLimits l (.finite l.defaultVelocityScale)
      { profile.input with
        controlInterface := .velocity
        targetVelocity := 0
        targetAcceleration := 0 }
    memory := otg.reset profile.memory
    mode := .softStop }

/-- The profile after the generator has worked, before the travel limits are enforced. -/
def advance (result : GeneratorResult) (output : GeneratorOutput) (memory : otg.Memory)
    (input : GeneratorInput) : LiftMotionProfile otg :=
  let position := l.clampPosition output.newPosition
  { profile with
    input := { input with
      currentPosition := output.newPosition
      currentVelocity := output.newVelocity
      currentAcceleration := output.newAcceleration }
    memory := memory
    state :=
      { positionM := position
        velocityMps := output.newVelocity
        accelerationMps2 := output.newAcceleration
        jerkMps3 := output.newJerk
        finished := result == .finished
        valid := position.isFinite && output.newVelocity.isFinite &&
          output.newAcceleration.isFinite && output.newJerk.isFinite } }

/-- The profile after the generator has rejected its input. -/
def reject (input : GeneratorInput) (memory : otg.Memory) : LiftMotionProfile otg :=
  { profile with input, memory, state := { profile.state with valid := false } }

/-- `update`.  The sample that it returns is the state that it leaves. -/
def update (cycleSec : Double) : LiftMotionProfile otg :=
  if ¬ cycleSec.isFinite ∨ cycleSec ≤ 0 then
    { profile with state := { profile.state with valid := false } }
  else if profile.mode = .hold then
    { profile with state := { profile.state with finished := true } }
  else
    let target :=
      if profile.mode = .velocity then
        limitAwareVelocity l otg profile.input.currentPosition profile.input.targetVelocity
      else profile.input.targetVelocity
    let input : GeneratorInput := { profile.input with targetVelocity := target }
    match otg.update profile.memory (cycleSec.clamp (.finite (1 / 1000)) (.finite (1 / 10)))
        input with
    | (.error, _, memory) => profile.reject input memory
    | (result, output, memory) =>
      let next := profile.advance l result output memory input
      if next.state.positionM ≤ .finite l.minPositionM ∧ next.state.velocityMps < 0 then
        next.reset l (.finite l.minPositionM) 0 0
      else if .finite l.maxPositionM ≤ next.state.positionM ∧ 0 < next.state.velocityMps then
        next.reset l (.finite l.maxPositionM) 0 0
      else next

end LiftMotionProfile

end Lift

end JointController
