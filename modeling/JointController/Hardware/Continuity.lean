import Mathlib.Algebra.Order.Group.Abs
import Mathlib.Algebra.Order.Ring.Rat
import Mathlib.Data.Nat.Notation

/-!
# Continuity of the feedback

`FeedbackContinuityGuard` compares every fresh position with the one before it, as long as both
belong to one epoch.

* `FeedbackContinuityGuard.reset`, `FeedbackContinuityGuard.invalidate`: a new epoch begins.
* `FeedbackContinuityGuard.observe`: a position is compared with the one before it.
-/

namespace JointController

namespace Hardware

/-- `FeedbackContinuityState`. -/
inductive FeedbackContinuityState where
  | invalid | baselineEstablished | continuous | jumpDetected
  deriving DecidableEq

/-- `FeedbackContinuityGuard`. -/
structure FeedbackContinuityGuard where
  thresholdM : ℚ := 1 / 5
  maxIntervalNs : ℕ := 100000000
  baselineValid : Bool := false
  previousPositionM : ℚ := 0
  previousSampleTimeNs : ℕ := 0
  epoch : ℕ := 0
  source : ℕ := 0
  deriving DecidableEq

namespace FeedbackContinuityGuard

variable (g : FeedbackContinuityGuard)

/-- `configure`. -/
def configure (thresholdM : ℚ) (maxIntervalNs : ℕ) : FeedbackContinuityGuard :=
  { g with
    thresholdM := if 0 < thresholdM then thresholdM else g.thresholdM
    maxIntervalNs := if 0 < maxIntervalNs then maxIntervalNs else g.maxIntervalNs }

/-- `advance_epoch`. -/
def advanceEpoch (source : ℕ) : FeedbackContinuityGuard :=
  { g with
    epoch := g.epoch + 1
    source := source
    baselineValid := false
    previousPositionM := 0
    previousSampleTimeNs := 0 }

/-- `reset`. -/
def reset (source : ℕ) : FeedbackContinuityGuard := g.advanceEpoch source

/-- `invalidate`. -/
def invalidate (source : ℕ) : FeedbackContinuityGuard :=
  if g.baselineValid ∨ source ≠ g.source then g.advanceEpoch source else g

/-- The epoch that a fresh position belongs to. -/
def epochFor (sampleTimeNs source : ℕ) : FeedbackContinuityGuard :=
  if source ≠ g.source then g.advanceEpoch source
  else if g.baselineValid ∧ (sampleTimeNs ≤ g.previousSampleTimeNs ∨
      g.previousSampleTimeNs + g.maxIntervalNs < sampleTimeNs) then g.advanceEpoch source
  else g

/-- `observe`. -/
def observe (positionM : ℚ) (sampleTimeNs source : ℕ) (fresh : Bool) :
    FeedbackContinuityState × FeedbackContinuityGuard :=
  if ¬ fresh ∨ sampleTimeNs = 0 then (.invalid, g.invalidate source)
  else
    let g := g.epochFor sampleTimeNs source
    let next := { g with
      previousPositionM := positionM
      previousSampleTimeNs := sampleTimeNs
      baselineValid := true }
    if ¬ g.baselineValid then (.baselineEstablished, next)
    else if g.thresholdM < |positionM - g.previousPositionM| then (.jumpDetected, next)
    else (.continuous, next)

end FeedbackContinuityGuard

end Hardware

end JointController
