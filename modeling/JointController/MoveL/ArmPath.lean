import JointController.Library.CircularArc
import Mathlib.Analysis.Quaternion

/-!
# The Cartesian path of one arm

The path of an arm runs along the polyline of its anchors, the pose it starts in and the waypoints,
and rounds the corners of the polyline.  The numbers are real numbers, and the interpolation of
orientations is that of the library of the node.

* `computeAutoBlendRadius`, `cornerBlend`: how a corner is rounded.
* `pushSegment`, `buildArmPath`: the primitives of a path.
* `sampleArmPath`: the pose at a distance along a path.
-/

open Real
open scoped RealInnerProductSpace Quaternion CircularArc

namespace JointController

namespace MoveL

open CircularArc (Vector3 dot cross rotate direction)

/-! ## The records -/

/-- A pose of the tool centre point. -/
structure CartesianPose where
  position : Vector3
  orientation : ℍ[ℝ]

noncomputable instance : Inhabited CartesianPose := ⟨⟨0, 1⟩⟩

inductive PrimitiveType where
  | line
  | arc
  | inPlaceOrientation
  deriving DecidableEq

/-- The axis that an arc has before it is set. -/
noncomputable def unitZ : Vector3 :=
  EuclideanSpace.single 2 1

structure CartesianPrimitive where
  type : PrimitiveType
  length : ℝ
  cumulativeEnd : ℝ := 0
  orientationProgress : ℝ
  startPose : CartesianPose
  endPose : CartesianPose
  center : Vector3 := 0
  radialStart : Vector3 := 0
  axis : Vector3 := unitZ
  angle : ℝ := 0

/-- How a corner is rounded; a corner that is not `valid` stays as it is. -/
structure CornerBlend where
  valid : Bool := false
  radius : ℝ := 0
  angle : ℝ := 0
  poseIn : CartesianPose := default
  poseOut : CartesianPose := default
  center : Vector3 := 0
  axis : Vector3 := unitZ
  radialStart : Vector3 := 0

structure PlannedArmPath where
  enabled : Bool
  moving : Bool := false
  autoBlendEnabled : Bool
  holdPose : CartesianPose
  primitives : List CartesianPrimitive := []
  totalLength : ℝ := 0
  minArcRadius : ℝ := 0
  cornerCount : ℕ := 0
  arcCount : ℕ := 0

/-! ## Numbers and orientations -/

noncomputable def kPosEps : ℝ := 1e-6

noncomputable def kRotEps : ℝ := 1e-4

noncomputable def kAngleEps : ℝ := 1e-4

/-- `std::clamp`. -/
noncomputable def clamp (value lo hi : ℝ) : ℝ :=
  max lo (min value hi)

noncomputable def clampUnit (value : ℝ) : ℝ :=
  clamp value (-1) 1

noncomputable def quaternionAngularDistance (a b : ℍ[ℝ]) : ℝ :=
  2 * arccos (clampUnit |⟪direction a, direction b⟫|)

noncomputable def normalizeQuaternion (q : ℍ[ℝ]) : ℍ[ℝ] :=
  if (direction q).re < 0 then -direction q else direction q

/-- What the planner is given: the spherical interpolation of its library, and the ratio that is
configured for automatic blends. -/
structure Planner where
  slerp : ℍ[ℝ] → ℝ → ℍ[ℝ] → ℍ[ℝ]
  configuredAutoBlendTangentRatio : ℝ

namespace Planner

variable (planner : Planner)

noncomputable def autoBlendTangentRatio : ℝ :=
  clamp planner.configuredAutoBlendTangentRatio 0.05 0.45

/-! ## Corners -/

noncomputable def computeAutoBlendRadius (lenPrev lenNext interior : ℝ) : ℝ :=
  let shorterSegment := min lenPrev lenNext
  if shorterSegment ≤ kPosEps then 0 else
  let tanHalf := tan (interior * 0.5)
  if |tanHalf| ≤ kPosEps then 0 else
  let maxOffset := 0.5 * shorterSegment - 1e-6
  if maxOffset ≤ kPosEps then 0 else
  let desiredOffset := min (shorterSegment * planner.autoBlendTangentRatio) maxOffset
  if desiredOffset ≤ kPosEps then 0 else
  desiredOffset / tanHalf

/-- The radius that is requested at the anchor `i`: the corresponding blend radius, or the automatic
one where none is given. -/
noncomputable def requestedRadius (blendRadii : List ℝ) (i : ℕ) (lenPrev lenNext interior : ℝ) :
    ℝ :=
  if blendRadii.isEmpty then planner.computeAutoBlendRadius lenPrev lenNext interior
  else blendRadii.getD (i - 1) 0

/-- The arc at `corner` with its two tangent points `offset` away from it. -/
noncomputable def roundCorner (prev corner next : CartesianPose)
    (lenPrev lenNext : ℝ) (dirPrev dirNext : Vector3) (offset tanHalf sinHalf : ℝ) : CornerBlend :=
  let actualRadius := offset / tanHalf
  let poseIn : CartesianPose :=
    ⟨corner.position - offset • dirPrev, normalizeQuaternion
      (planner.slerp prev.orientation ((lenPrev - offset) / lenPrev) corner.orientation)⟩
  let poseOut : CartesianPose :=
    ⟨corner.position + offset • dirNext, normalizeQuaternion
      (planner.slerp corner.orientation (offset / lenNext) next.orientation)⟩
  let centerDistance := actualRadius / sinHalf
  let center := corner.position + centerDistance • direction (-dirPrev + dirNext)
  let radialStart := poseIn.position - center
  let radialEnd := poseOut.position - center
  let blend : CornerBlend := { radius := actualRadius, poseIn, poseOut, center, radialStart }
  if ‖radialStart‖ ≤ kPosEps ∨ ‖radialEnd‖ ≤ kPosEps then blend else
  let axisRaw := cross radialStart radialEnd
  if ‖axisRaw‖ ≤ kPosEps then blend else
  let angle := arccos (clampUnit (dot (direction radialStart) (direction radialEnd)))
  { blend with valid := decide (kAngleEps < angle), axis := direction axisRaw, angle }

/-- How the corner at the anchor `i` is rounded. -/
noncomputable def cornerBlend (blendRadii : List ℝ) (i : ℕ) (prev corner next : CartesianPose)
    (lenPrev lenNext : ℝ) : CornerBlend :=
  if lenPrev ≤ kPosEps ∨ lenNext ≤ kPosEps then {} else
  let dirPrev := lenPrev⁻¹ • (corner.position - prev.position)
  let dirNext := lenNext⁻¹ • (next.position - corner.position)
  let interior := arccos (clampUnit (dot (-dirPrev) dirNext))
  if interior ≤ kAngleEps ∨ π - kAngleEps ≤ interior then {} else
  let requested := planner.requestedRadius blendRadii i lenPrev lenNext interior
  if requested ≤ kPosEps then {} else
  let tanHalf := tan (interior * 0.5)
  if |tanHalf| ≤ kPosEps then {} else
  let maxOffset := 0.5 * min lenPrev lenNext - 1e-6
  if maxOffset ≤ kPosEps then {} else
  let offset := min (requested * tanHalf) maxOffset
  if ‖-dirPrev + dirNext‖ ≤ kPosEps then {} else
  let sinHalf := sin (interior * 0.5)
  if |sinHalf| ≤ kPosEps then {} else
  planner.roundCorner prev corner next lenPrev lenNext dirPrev dirNext offset tanHalf sinHalf

/-- The corners of a polyline, one for each anchor; the first and the last are no corners. -/
noncomputable def corners (blendRadii : List ℝ) (anchors : List CartesianPose) (lengths : List ℝ) :
    List CornerBlend :=
  (List.range anchors.length).map fun i =>
    if 1 ≤ i ∧ i + 1 < anchors.length then
      planner.cornerBlend blendRadii i (anchors.getD (i - 1) default) (anchors.getD i default)
        (anchors.getD (i + 1) default) (lengths.getD (i - 1) 0) (lengths.getD i 0)
    else {}

end Planner

/-! ## Primitives -/

/-- The lengths of the segments between the anchors. -/
noncomputable def translationLengths (armName : String) (allowInPlaceOrientationSegment : Bool) :
    List CartesianPose → Except String (List ℝ)
  | a :: b :: anchors => do
    let distance := ‖b.position - a.position‖
    let angleError := quaternionAngularDistance a.orientation b.orientation
    let length ←
      if distance < kPosEps ∧ kRotEps < angleError then
        if allowInPlaceOrientationSegment then .ok 0
        else .error (armName ++ " arm path contains a zero-length segment with orientation change")
      else .ok distance
    let lengths ← translationLengths armName allowInPlaceOrientationSegment (b :: anchors)
    .ok (length :: lengths)
  | _ => .ok []

/-- A path while its primitives are pushed. -/
structure Build where
  primitives : List CartesianPrimitive := []
  cumulativeLength : ℝ := 0
  arcCount : ℕ := 0
  minArcRadius : ℝ := 0

noncomputable def Build.pushPrimitive (b : Build) (primitive : CartesianPrimitive) : Build :=
  { b with
    cumulativeLength := b.cumulativeLength + primitive.length
    primitives := b.primitives ++
      [{ primitive with cumulativeEnd := b.cumulativeLength + primitive.length }] }

/-- An arc is counted, and its radius is compared with the smallest. -/
noncomputable def Build.countArc (b : Build) (radius : ℝ) : Build :=
  { b with
    arcCount := b.arcCount + 1
    minArcRadius := if b.minArcRadius ≤ 0 then radius else min b.minArcRadius radius }

noncomputable def linePrimitive (lineStart lineEnd : CartesianPose) : CartesianPrimitive where
  type := .line
  length := ‖lineEnd.position - lineStart.position‖
  orientationProgress := quaternionAngularDistance lineStart.orientation lineEnd.orientation
  startPose := lineStart
  endPose := lineEnd

noncomputable def inPlacePrimitive (lineStart lineEnd : CartesianPose) : CartesianPrimitive where
  type := .inPlaceOrientation
  length := quaternionAngularDistance lineStart.orientation lineEnd.orientation
  orientationProgress := quaternionAngularDistance lineStart.orientation lineEnd.orientation
  startPose := lineStart
  endPose := lineEnd

noncomputable def arcPrimitive (corner : CornerBlend) : CartesianPrimitive where
  type := .arc
  length := corner.radius * corner.angle
  orientationProgress :=
    quaternionAngularDistance corner.poseIn.orientation corner.poseOut.orientation
  startPose := corner.poseIn
  endPose := corner.poseOut
  center := corner.center
  radialStart := corner.radialStart
  axis := corner.axis
  angle := corner.angle

/-- What is left of a segment between the corners at its ends. -/
noncomputable def Build.pushLine (b : Build) (allowInPlaceOrientationSegment : Bool)
    (lineStart lineEnd : CartesianPose) : Build :=
  if kPosEps < ‖lineEnd.position - lineStart.position‖ then
    b.pushPrimitive (linePrimitive lineStart lineEnd)
  else if allowInPlaceOrientationSegment ∧
      kRotEps < quaternionAngularDistance lineStart.orientation lineEnd.orientation then
    b.pushPrimitive (inPlacePrimitive lineStart lineEnd)
  else b

/-- The arc of a corner. -/
noncomputable def Build.pushArc (b : Build) (corner : CornerBlend) : Build :=
  if kPosEps < corner.radius * corner.angle then
    (b.countArc corner.radius).pushPrimitive (arcPrimitive corner)
  else b

/-- The primitives of the segment from the anchor `k`. -/
noncomputable def pushSegment (allowInPlaceOrientationSegment : Bool)
    (anchors : List CartesianPose) (corners : List CornerBlend) (b : Build) (k : ℕ) : Build :=
  let cornerBefore := corners.getD k {}
  let cornerAfter := corners.getD (k + 1) {}
  let hasCornerBefore := 0 < k ∧ cornerBefore.valid
  let hasCornerAfter := k + 1 < corners.length ∧ cornerAfter.valid
  let lineStart := if hasCornerBefore then cornerBefore.poseOut else anchors.getD k default
  let lineEnd := if hasCornerAfter then cornerAfter.poseIn else anchors.getD (k + 1) default
  let b := b.pushLine allowInPlaceOrientationSegment lineStart lineEnd
  if hasCornerAfter then b.pushArc cornerAfter else b

namespace Planner

variable (planner : Planner)

noncomputable def buildArmPath (armName : String) (enabled : Bool) (startPose : CartesianPose)
    (waypoints : List CartesianPose) (blendRadii : List ℝ)
    (allowInPlaceOrientationSegment : Bool) : Except String PlannedArmPath :=
  let autoBlendEnabled := blendRadii.isEmpty
  if !enabled then .ok { enabled, autoBlendEnabled, holdPose := startPose } else
  let anchors := startPose :: waypoints
  do
    let lengths ← translationLengths armName allowInPlaceOrientationSegment anchors
    let corners := planner.corners blendRadii anchors lengths
    let built := (List.range (anchors.length - 1)).foldl
      (pushSegment allowInPlaceOrientationSegment anchors corners) {}
    .ok {
      enabled
      autoBlendEnabled
      holdPose := waypoints.getLastD startPose
      primitives := built.primitives
      totalLength := built.cumulativeLength
      moving := decide (kPosEps < built.cumulativeLength)
      minArcRadius := built.minArcRadius
      cornerCount := if 2 < anchors.length then anchors.length - 2 else 0
      arcCount := built.arcCount }

/-! ## Sampling -/

/-- The position in a primitive, at the part `t` of it. -/
noncomputable def positionAt (primitive : CartesianPrimitive) (t : ℝ) : Vector3 :=
  match primitive.type with
  | .line =>
    primitive.startPose.position +
      t • (primitive.endPose.position - primitive.startPose.position)
  | .inPlaceOrientation => primitive.startPose.position
  | .arc =>
    primitive.center + rotate (primitive.angle * t) primitive.axis primitive.radialStart

/-- The pose in a primitive, at a distance from the start of the path. -/
noncomputable def samplePrimitive (primitive : CartesianPrimitive) (clampedDistance : ℝ) :
    CartesianPose :=
  let primitiveStart := primitive.cumulativeEnd - primitive.length
  let localDistance := clamp (clampedDistance - primitiveStart) 0 primitive.length
  let t := if 1e-9 < primitive.length then localDistance / primitive.length else 1
  { position := positionAt primitive t
    orientation := normalizeQuaternion
      (planner.slerp primitive.startPose.orientation t primitive.endPose.orientation) }

/-- The first primitive that reaches the distance; the last one, if none does. -/
noncomputable def primitiveAt (first : CartesianPrimitive) (primitives : List CartesianPrimitive)
    (clampedDistance : ℝ) : CartesianPrimitive :=
  ((first :: primitives).find? fun candidate =>
    decide (clampedDistance ≤ candidate.cumulativeEnd + 1e-9)).getD (primitives.getLastD first)

noncomputable def sampleArmPath (path : PlannedArmPath) (distance : ℝ) : CartesianPose :=
  match path.moving, path.primitives with
  | true, first :: primitives =>
    let clampedDistance := clamp distance 0 path.totalLength
    planner.samplePrimitive (primitiveAt first primitives clampedDistance) clampedDistance
  | _, _ => path.holdPose

end Planner

end MoveL

end JointController
