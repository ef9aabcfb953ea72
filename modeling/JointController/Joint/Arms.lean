import JointController.Contract
import JointController.Library.Checks
import JointController.Library.NearestInteger
import Mathlib.Data.Fin.VecNotation

/-!
# The joints of the arms

The services that move the arms to joint targets look the fourteen joints up in the robot model
that they have loaded.

* `canonicalJointNames`: the joints in the order of the messages.
* `ArmModel`: the loaded robot model, with the two ways in which the services index it.
* `AbsoluteRequest`, `ArmModel.validateAbsoluteControlRequest`: the request of
  `/arm_absolute_control` and the checks of its numbers, with `validate_eq_ok`.
-/

open Checks

namespace JointController

namespace Joint

/-! ## The robot model -/

/-- `canonicalJointNames`: the left arm, then the right arm. -/
def canonicalJointNames : Fin 14 → String :=
  ![ "ljoint1", "ljoint2", "ljoint3", "ljoint4", "ljoint5", "ljoint6", "ljoint7",
    "rjoint1", "rjoint2", "rjoint3", "rjoint4", "rjoint5", "rjoint6", "rjoint7"]

theorem canonicalJointNames_injective : Function.Injective canonicalJointNames := by
  decide

/-- The positions or the targets of the fourteen joints. -/
abbrev ArmPositions := Fin 14 → Double

/-- A joint of the robot model, with the number of its configuration variables. -/
structure ModelJoint where
  name : String
  nq : ℕ

/-- What `loadModel` leaves of a URDF in which it has found the joints of the arms. -/
structure ArmModel where
  joints : List ModelJoint
  lowerPositionLimit : ℕ → Double
  upperPositionLimit : ℕ → Double
  complete : ∀ i, canonicalJointNames i ∈ joints.map ModelJoint.name

namespace ArmModel

variable (model : ArmModel)

/-- The number of configuration variables. -/
def nq : ℕ := (model.joints.map ModelJoint.nq).sum

/-- `joint_index_map_` of the absolute service: the place of a joint among the joints. -/
def jointIndexMap (name : String) : Option ℕ :=
  let names := model.joints.map ModelJoint.name
  if name ∈ names then some (names.idxOf name) else none

/-- The place of a joint of the arms among the joints. -/
def armIndex (i : Fin 14) : ℕ := (model.joints.map ModelJoint.name).idxOf (canonicalJointNames i)

/-- `canonical_model_indices_` of the batch service: the place of the configuration variable of a
joint of the arms. -/
def canonicalModelIndex (i : Fin 14) : ℕ :=
  ((model.joints.take (model.armIndex i)).map ModelJoint.nq).sum

theorem jointIndexMap_arm (i : Fin 14) :
    model.jointIndexMap (canonicalJointNames i) = some (model.armIndex i) :=
  if_pos (model.complete i)

/-- Every joint has one configuration variable. -/
def OneDof : Prop := ∀ j ∈ model.joints, j.nq = 1

/-- Then the two services index the model alike. -/
theorem canonicalModelIndex_eq (hone : model.OneDof) (i : Fin 14) :
    model.canonicalModelIndex i = model.armIndex i := by
  have hall : ∀ n ∈ (model.joints.take (model.armIndex i)).map ModelJoint.nq, n = 1 := by
    intro n hn
    obtain ⟨j, hj, rfl⟩ := List.mem_map.mp hn
    exact hone j (List.mem_of_mem_take hj)
  have hlt : model.armIndex i < model.joints.length := by
    have hmem := List.idxOf_lt_length_iff.mpr (model.complete i)
    rwa [List.length_map] at hmem
  unfold canonicalModelIndex
  rw [List.eq_replicate_of_mem hall, List.sum_replicate, List.length_map, List.length_take,
    Nat.min_eq_left hlt.le, nsmul_eq_mul, Nat.cast_id, Nat.mul_one]

end ArmModel

/-! ## Requests for absolute targets -/

/-- `JointAbsoluteControl::Request`, `ljoint1` to `rjoint7` in the order of the names. -/
structure AbsoluteRequest where
  joints : ArmPositions
  vel : Double
  acc : Double

/-- The check of the target of a joint. -/
def ArmModel.checkTarget (model : ArmModel) (request : AbsoluteRequest) (i : Fin 14) :
    Except String Unit := do
  refuse (¬ (request.joints i).isFinite)
    ("target for " ++ canonicalJointNames i ++ " must be finite")
  match model.jointIndexMap (canonicalJointNames i) with
  | none => .error ("joint is missing from the loaded URDF: " ++ canonicalJointNames i)
  | some index =>
    refuse
      ((model.lowerPositionLimit index).isFinite ∧
          request.joints i < model.lowerPositionLimit index ∨
        (model.upperPositionLimit index).isFinite ∧
          model.upperPositionLimit index < request.joints i)
      ("target for " ++ canonicalJointNames i ++ " is outside its URDF position limits")

/-- `validateAbsoluteControlRequest`. -/
def ArmModel.validateAbsoluteControlRequest (model : ArmModel) (request : AbsoluteRequest) :
    Except String Unit := do
  refuse (¬ request.vel.isFinite ∨ request.vel ≤ 0) "vel must be finite and greater than zero"
  refuse (¬ request.acc.isFinite ∨ request.acc ≤ 0) "acc must be finite and greater than zero"
  (List.finRange 14).forM (model.checkTarget request)

/-- A target that a joint can be sent to. -/
structure ArmModel.Reachable (model : ArmModel) (i : Fin 14) (target : Double) : Prop where
  finite : target.isFinite
  lower : (model.lowerPositionLimit (model.armIndex i)).isFinite →
    ¬ target < model.lowerPositionLimit (model.armIndex i)
  upper : (model.upperPositionLimit (model.armIndex i)).isFinite →
    ¬ model.upperPositionLimit (model.armIndex i) < target

theorem ArmModel.checkTarget_eq_ok {model : ArmModel} {request : AbsoluteRequest} {i : Fin 14} :
    model.checkTarget request i = .ok () ↔ model.Reachable i (request.joints i) := by
  unfold ArmModel.checkTarget
  rw [model.jointIndexMap_arm, bind_eq_ok]
  simp only [refuse_eq_ok, not_not, not_or, not_and]
  constructor
  · rintro ⟨hfinite, hlower, hupper⟩
    exact ⟨hfinite, hlower, hupper⟩
  · intro h
    exact ⟨h.finite, h.lower, h.upper⟩

/-- The request has a speed, an acceleration and fourteen targets. -/
structure ArmModel.Valid (model : ArmModel) (request : AbsoluteRequest) : Prop where
  vel : request.vel.isFinite ∧ ¬ request.vel ≤ 0
  acc : request.acc.isFinite ∧ ¬ request.acc ≤ 0
  joints : ∀ i, model.Reachable i (request.joints i)

theorem ArmModel.validate_eq_ok {model : ArmModel} {request : AbsoluteRequest} :
    model.validateAbsoluteControlRequest request = .ok () ↔ model.Valid request := by
  unfold ArmModel.validateAbsoluteControlRequest
  simp only [bind_eq_ok, refuse_eq_ok, forM_eq_ok, ArmModel.checkTarget_eq_ok, not_or, not_not,
    List.mem_finRange, true_implies]
  constructor
  · rintro ⟨hvel, hacc, hjoints⟩
    exact ⟨hvel, hacc, hjoints⟩
  · intro h
    exact ⟨h.vel, h.acc, h.joints⟩

end Joint

end JointController
