import JointController.Arm.HeavyCommand

/-!
# The local planners of the arm controller

Commands that are no Heavy commands go through one of two planners.  Ruckig is a library, and it is
a parameter here.  The CUBIC planner is modelled with its flags, and its polynomials are a
parameter.

* `Ruckig`, with `InputParameter`, `OutputParameter` and `Ruckig.KeepsRest`.
* `SingleAxisCubicPlanner`, with `plan` and `update`.
* `MultiAxisCubicPlanner`, with `plan`, `update` and `allAxesStopped`.
-/

namespace JointController

namespace Arm

/-! ## Ruckig -/

/-- `Result`, with one value for all the errors. -/
inductive RuckigResult where
  | working
  | finished
  | error
  deriving DecidableEq

/-- `Synchronization`, as far as the controller sets it. -/
inductive Synchronization where
  | phase
  | none
  deriving DecidableEq

/-- `InputParameter<14>`. -/
structure InputParameter where
  currentPosition : Joints Double
  currentVelocity : Joints Double
  currentAcceleration : Joints Double
  targetPosition : Joints Double
  targetVelocity : Joints Double
  targetAcceleration : Joints Double
  maxVelocity : Joints Double
  maxAcceleration : Joints Double
  maxJerk : Joints Double
  enabled : Joints Bool
  synchronization : Synchronization

/-- `OutputParameter<14>`, without the trajectory. -/
structure OutputParameter where
  newPosition : Joints Double
  newVelocity : Joints Double
  newAcceleration : Joints Double

/-- `Ruckig<14>`.  The trajectory that an output carries from one call to the next is part of the
state. -/
structure Ruckig where
  State : Type
  initial : State
  update : State → InputParameter → OutputParameter → RuckigResult × OutputParameter × State

/-- The current state and the target are a pose at rest. -/
structure InputParameter.AtRest (input : InputParameter) (pose : Joints Double) : Prop where
  currentPosition : input.currentPosition = pose
  currentVelocity : input.currentVelocity = fun _ => 0
  currentAcceleration : input.currentAcceleration = fun _ => 0
  targetPosition : input.targetPosition = pose
  targetVelocity : input.targetVelocity = fun _ => 0
  targetAcceleration : input.targetAcceleration = fun _ => 0

/-- Ruckig stays where it is when it is at rest at its target. -/
def Ruckig.KeepsRest (r : Ruckig) : Prop :=
  ∀ state input output pose, input.AtRest pose → (r.update state input output).1 = .working →
    (r.update state input output).2.1 = ⟨pose, fun _ => 0, fun _ => 0⟩

/-- `pass_to_input`. -/
def OutputParameter.passToInput (output : OutputParameter) (input : InputParameter) :
    InputParameter :=
  { input with
    currentPosition := output.newPosition
    currentVelocity := output.newVelocity
    currentAcceleration := output.newAcceleration }

/-! ## One axis of the CUBIC planner -/

/-- `MotionConstraints`. -/
structure MotionConstraints where
  maxVelocity : Double
  maxAcceleration : Double
  minPosition : Double
  maxPosition : Double

/-- `TrajectoryPoint`. -/
structure TrajectoryPoint where
  position : Double
  velocity : Double
  acceleration : Double

/-- The start and the end of a motion. -/
structure Motion where
  startPos : Double
  startVel : Double
  endPos : Double
  endVel : Double

/-- The arithmetic of the planner: the duration that `plan` chooses for a requested one, with
`calculate_time_scaling`, the coefficients `a0` to `a5`, and their polynomial with its
derivatives. -/
structure QuinticArithmetic where
  duration : MotionConstraints → Motion → Double → Double
  coefficients : Motion → Double → Fin 6 → Double
  evaluate : (Fin 6 → Double) → Double → TrajectoryPoint

/-- `SingleAxisCubicPlanner`. -/
structure SingleAxisCubicPlanner where
  currentPos : Double
  currentVel : Double
  targetPos : Double
  targetVel : Double
  duration : Double
  tStart : Double
  isMoving : Bool
  isFirstUpdate : Bool
  isPlanned : Bool
  coefficients : Fin 6 → Double
  T : Double

namespace SingleAxisCubicPlanner

variable (q : QuinticArithmetic) (constraints : MotionConstraints) (s : SingleAxisCubicPlanner)

/-- The planner when it is made. -/
def initial : SingleAxisCubicPlanner :=
  ⟨0, 0, 0, 0, .finite 1, 0, false, true, false, fun _ => 0, 0⟩

/-- `plan`. -/
def plan (motion : Motion) (duration : Double) : SingleAxisCubicPlanner :=
  let target := motion.endPos.clamp constraints.minPosition constraints.maxPosition
  { s with
    currentPos := motion.startPos
    currentVel := motion.startVel
    targetPos := target
    targetVel := motion.endVel
    duration := q.duration constraints { motion with endPos := target } duration
    isFirstUpdate := true
    isMoving := true
    isPlanned := true }

/-- The first update of a plan fixes its start and its coefficients. -/
def startUpdate (currentTime : Double) : SingleAxisCubicPlanner :=
  if s.isFirstUpdate then
    { s with
      tStart := currentTime
      isFirstUpdate := false
      T := s.duration
      coefficients :=
        q.coefficients ⟨s.currentPos, s.currentVel, s.targetPos, s.targetVel⟩ s.duration }
  else s

/-- `update`. -/
def update (currentTime : Double) : TrajectoryPoint × SingleAxisCubicPlanner :=
  if !s.isMoving || !s.isPlanned then (⟨s.currentPos, 0, 0⟩, s)
  else
    let s := s.startUpdate q currentTime
    let tau := (currentTime - s.tStart).clamp 0 s.T
    if s.T ≤ tau then
      (⟨s.targetPos, s.targetVel, 0⟩,
        { s with isMoving := false, currentPos := s.targetPos, currentVel := s.targetVel })
    else
      let point := q.evaluate s.coefficients tau
      (point, { s with currentPos := point.position, currentVel := point.velocity })

end SingleAxisCubicPlanner

/-! ## All axes -/

/-- `MultiAxisCubicPlanner`.  Of the four vectors that it shows, the controller reads `end_pos`
only; before the first plan it is empty. -/
structure MultiAxisCubicPlanner where
  planners : Joints SingleAxisCubicPlanner
  endPos : Option (Joints Double)

namespace MultiAxisCubicPlanner

variable (q : QuinticArithmetic) (constraints : Joints MotionConstraints)
  (m : MultiAxisCubicPlanner)

/-- The planner when it is made. -/
def initial : MultiAxisCubicPlanner := ⟨fun _ => .initial, none⟩

/-- `plan`: all axes take as long as the slowest one. -/
def plan (motions : Joints Motion) (duration : Double) : MultiAxisCubicPlanner :=
  let planners := fun i => (m.planners i).plan q (constraints i) (motions i) duration
  let maxDuration := (List.finRange 14).foldl (fun d i => d.max (planners i).duration) duration
  { m with
    planners :=
      if duration < maxDuration then
        fun i => (planners i).plan q (constraints i) (motions i) maxDuration
      else planners }

/-- `update`. -/
def update (currentTime : Double) : Joints TrajectoryPoint × MultiAxisCubicPlanner :=
  (fun i => ((m.planners i).update q currentTime).1,
    { m with planners := fun i => ((m.planners i).update q currentTime).2 })

/-- `all_axes_stopped`. -/
def allAxesStopped : Bool := decide (∀ i, (m.planners i).isMoving = false)

end MultiAxisCubicPlanner

end Arm

end JointController
