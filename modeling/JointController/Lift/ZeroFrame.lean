import JointController.Lift.Consumed
import JointController.Lift.Guidance

/-!
# A new zero frame

A re-zero moves the origin of the lift, and what has been commanded before is meant for the old one.
The first cycle that observes the new generation seats the command state on the measured position.
What it has not taken over by then it does not see.

* `rezeroed`: a cycle observes a generation that it has not adopted.
* `TrajectoryLeft`, `NativeLeft`, `HeavyLeft`: a target that a later cycle can take over.
* `Reseated`: the command state stands on the measured position.
* `Ledger`, `notes`, `notes_runMode`: the stages behind the command of a cycle take over nothing and
  acknowledge nothing.
* `trajectoryLeft_intake`, `nativeLeft_intake`, `heavyLeft_intake`, and the same for `dispatch`:
  what these stages leave over.
* `update_rezeroed`, `update_not_rezeroed`: what a cycle does with the generation.
-/

namespace JointController

namespace Lift

/-- The command moves the lift to a position of its own. -/
def MotionCommand.hasTarget (command : MotionCommand) : Bool :=
  command.type == .position || command.type == .stream || command.type == .hold

namespace LiftController

variable {otg : TrajectoryGenerator} (p : LiftParameters) (i : UpdateInput)
  (c : LiftController otg) {c' : LiftController otg}

/-! ## The generation -/

/-- The cycle comes to `apply_zero_frame_resync`, and a generation has been reported. -/
def observes : Bool :=
  i.state.finite && !c.driver.estopLatched && c.driver.zeroGenerationValid

/-- The cycle observes a generation that is not the one adopted last. -/
def rezeroed : Bool :=
  c.observes i && c.driver.zeroGeneration != c.appliedZeroGeneration

/-! ## Targets that are left over -/

/-- A trajectory is pending that a later cycle can take over. -/
def TrajectoryLeft : Prop :=
  c.trajectories.pending.isSome = true ∧
    c.trajectories.consumedGeneration ≠ c.trajectories.pendingGeneration ∧
    c.inbox.cancellationGeneration < c.trajectories.pendingGeneration

/-- The native buffer holds a target that a later cycle can act on. -/
def NativeLeft : Prop :=
  c.inbox.commandBuffer.hasTarget = true ∧ c.inbox.commandBuffer.generation ≠ 0 ∧
    c.inbox.cancellationGeneration < c.inbox.commandBuffer.generation ∧
    c.inbox.commandBuffer.generation ≠ c.consumedGeneration

/-- The Heavy buffer holds a target that a later cycle can act on. -/
def HeavyLeft : Prop :=
  c.inbox.heavyCommandBuffer.hasTarget = true ∧ c.inbox.heavyCommandBuffer.generation ≠ 0 ∧
    c.inbox.cancellationGeneration < c.inbox.heavyCommandBuffer.generation ∧
    c.inbox.heavyCommandGeneration ≠ c.consumedHeavyCommandGeneration

instance : Decidable c.TrajectoryLeft := inferInstanceAs (Decidable (_ ∧ _ ∧ _))

instance : Decidable c.NativeLeft := inferInstanceAs (Decidable (_ ∧ _ ∧ _ ∧ _))

instance : Decidable c.HeavyLeft := inferInstanceAs (Decidable (_ ∧ _ ∧ _ ∧ _))

/-- The pending trajectory is not taken over, since its mutex is busy. -/
def MissesTrajectory : Prop := i.trajectoryLock = false ∧ c.TrajectoryLeft

/-- The native target is not acted on, since a safety command comes first. -/
def MissesNative : Prop :=
  c.inbox.heavyLeaseActive = false ∧ c.safetyWaits = true ∧ c.mode ≠ .estop ∧ c.NativeLeft

/-- The Heavy target is not acted on, since a safety command comes first, or since the lease gate is
closed and the cycle does not see it close. -/
def MissesHeavy : Prop :=
  (if c.inbox.heavyLeaseActive then c.safetyWaits = true else c.heavyLeaseActiveRt = false) ∧
    c.HeavyLeft

instance : Decidable (c.MissesTrajectory i) := inferInstanceAs (Decidable (_ ∧ _))

instance : Decidable c.MissesNative := inferInstanceAs (Decidable (_ ∧ _ ∧ _ ∧ _))

instance : Decidable c.MissesHeavy := inferInstanceAs (Decidable (ite _ _ _ ∧ _))

/-- The command state stands on a measured position, and no command or trajectory waits. -/
structure Reseated (x : Double) (c : LiftController otg) : Prop where
  sample : c.commandSample = .standing (p.limits.clampPosition x)
  profile : c.profile.state = .standing (p.limits.clampPosition x)
  target : c.profile.targetPositionM = p.limits.clampPosition x
  written : Shows p c.interfaces c.commandSample
  gate : c.gatedCommandValid = false
  trajectory : c.trajectories.active = none
  rests : c.mode.rests = true

/-! ## The stages behind the command of a cycle -/

/-- What has been consumed of the commands and of the trajectories, and what has been adopted of the
zero frames. -/
structure Ledger where
  consumedGeneration : ℕ
  pending : Option JointTrajectory
  pendingGeneration : ℕ
  consumedTrajectory : ℕ
  driver : DriverStatus
  measuredPositionM : Double
  appliedZeroGeneration : ℕ
  zeroResyncTotal : ℕ

/-- The part of the ledger that is about the native commands and the trajectories. -/
def Ledger.queue (l : Ledger) : ℕ × Option JointTrajectory × ℕ × ℕ :=
  (l.consumedGeneration, l.pending, l.pendingGeneration, l.consumedTrajectory)

/-- The part of the ledger that is about the zero frame. -/
def Ledger.zero (l : Ledger) : DriverStatus × Double × ℕ × ℕ :=
  (l.driver, l.measuredPositionM, l.appliedZeroGeneration, l.zeroResyncTotal)

/-- The ledger of a controller. -/
def ledger : Ledger where
  consumedGeneration := c.consumedGeneration
  pending := c.trajectories.pending
  pendingGeneration := c.trajectories.pendingGeneration
  consumedTrajectory := c.trajectories.consumedGeneration
  driver := c.driver
  measuredPositionM := c.measuredPositionM
  appliedZeroGeneration := c.appliedZeroGeneration
  zeroResyncTotal := c.zeroResyncTotal

/-- The acknowledgement of a Heavy FOLLOW that is pending, and the sequence that was acknowledged
last. -/
def heavyAcks : ℕ × ℕ := (c.pendingHeavyFollowAckSequence, c.appliedHeavySequence)

/-- What has been taken over, and what is noted about the acknowledgements. -/
def notes : Ledger × ℕ × ℕ := (c.ledger, c.heavyAcks)

theorem notes_failPendingHold (stage : HoldFailureStage) :
    (c.failPendingHold stage).notes = c.notes := by
  unfold failPendingHold
  split_ifs <;> rfl

theorem notes_checkDriverGate : (c.checkDriverGate p i).notes = c.notes := by
  unfold checkDriverGate
  split_ifs
  · exact notes_failPendingHold c .driverGate
  · rfl

theorem notes_startTrajectoryPoint (index : ℕ) :
    (c.startTrajectoryPoint p index).2.notes = c.notes := by
  unfold startTrajectoryPoint
  split <;> rfl

theorem notes_startGatedMotion : (c.startGatedMotion p i.now).notes = c.notes := by
  unfold startGatedMotion startGatedCommand
  split_ifs
  · rfl
  · cases c.gatedCommand.type with
    | trajectory =>
      dsimp only
      set taken : LiftController otg := { c with
        gatedCommandValid := false
        trajectories := { c.trajectories with
          elapsedSec := 0, pointIndex := 0, waitingAtPoint := false } }
      have hpoint : (taken.startTrajectoryPoint p 0).2.notes = c.notes :=
        notes_startTrajectoryPoint p taken 0
      split_ifs <;> exact hpoint
    | _ => rfl

theorem notes_brakeGateCycle (streamSelected : Bool) :
    (c.brakeGateCycle p i streamSelected).controller.notes = c.notes := by
  have hstart := notes_startGatedMotion p i c
  unfold brakeGateCycle
  dsimp only
  split_ifs
  · rfl
  · rfl
  · exact hstart
  · exact hstart
  · rfl
  · rfl

theorem notes_nextTrajectoryPoint : (c.nextTrajectoryPoint p).notes = c.notes := by
  have hpoint (trajectories : Trajectories) (index : ℕ)
      (h : { c with trajectories := trajectories }.notes = c.notes) :
      ({ c with trajectories := trajectories }.startTrajectoryPoint p index).2.notes = c.notes :=
    (notes_startTrajectoryPoint p _ index).trans h
  unfold nextTrajectoryPoint
  dsimp only
  split_ifs
  · exact hpoint _ _ rfl
  · exact hpoint _ _ rfl
  · rfl

theorem notes_motionCycle : (c.motionCycle p i).notes = c.notes := by
  unfold motionCycle trajectoryCycle
  dsimp only
  split_ifs
  · rfl
  · exact notes_nextTrajectoryPoint p _
  · rfl
  · rfl
  · rfl
  · rfl

/-- The mode of a cycle takes nothing over, and acknowledges nothing. -/
theorem notes_runMode (streamSelected : Bool) :
    (c.runMode p i streamSelected).controller.notes = c.notes := by
  unfold runMode
  split_ifs
  · exact notes_brakeGateCycle p i c streamSelected
  · exact notes_motionCycle p i c

theorem notes_checkSample : (c.checkSample p).notes = c.notes := by
  unfold checkSample
  split_ifs
  · rfl
  · exact notes_failPendingHold c .motionProfile

theorem notes_finishSoftStop : (c.finishSoftStop p).notes = c.notes := by
  unfold finishSoftStop
  dsimp only
  split_ifs <;> rfl

theorem notes_checkGoal : (c.checkGoal p i).notes = c.notes := by
  unfold checkGoal
  dsimp only
  split_ifs <;> rfl

theorem notes_confirmPendingHold : (c.confirmPendingHold p).notes = c.notes := by
  unfold confirmPendingHold
  split_ifs
  · rfl
  · exact notes_failPendingHold c .driverGate
  · rfl
  · rfl
  · rfl

theorem ledger_acknowledge (s : Option Selection) (streamSelected : Bool) :
    ((c.acknowledgeConsumed s).2.acknowledgeFollow p i streamSelected).2.ledger = c.ledger := by
  have hconsumed : (c.acknowledgeConsumed s).2.ledger = c.ledger := by
    unfold acknowledgeConsumed
    split
    · split_ifs <;> rfl
    · rfl
  unfold acknowledgeFollow
  split_ifs <;> exact hconsumed

/-- The controller at the end of a cycle, before the zero frame is looked at. -/
def beforeResync : LiftController otg :=
  let ran := ((c.dispatch p i).2.checkDriverGate p i).runMode p i (c.dispatch p i).1
  ((ran.controller.checkSample p).finishSoftStop p).checkGoal p i

theorem notes_beforeResync : (c.beforeResync p i).notes = (c.dispatch p i).2.notes := by
  unfold beforeResync
  dsimp only
  rw [notes_checkGoal, notes_finishSoftStop, notes_checkSample, notes_runMode,
    notes_checkDriverGate]

theorem ledger_beforeResync : (c.beforeResync p i).ledger = (c.dispatch p i).2.ledger :=
  congrArg Prod.fst (notes_beforeResync p i c)

/-! ## The intake and the command of a cycle -/

theorem zero_intake : (c.intake p i).ledger.zero = c.ledger.zero := by
  have hestop : (c.leaveEstop p).ledger.zero = c.ledger.zero := by
    unfold leaveEstop
    split_ifs <;> rfl
  have htake (d : LiftController otg) : (d.takeTrajectory p i).ledger.zero = d.ledger.zero := by
    unfold takeTrajectory discardNative dropPendingTrajectory
    split_ifs
    · rfl
    · rfl
    · split <;> rfl
  exact (htake _).trans hestop

theorem ledger_executeStop (s : Selection) :
    (c.executeStop p s).ledger = (c.cancelled s).ledger := by
  have hstops := stops_executeStop p c s
  generalize c.executeStop p s = c' at hstops ⊢
  cases hstops <;> rfl

/-- A command that is acted on is consumed if it is native, and cancels if it is a stop. -/
theorem ledger_execute (s : Selection) :
    (c.execute p i s).2.ledger = (c.consume s).ledger ∨
      (c.execute p i s).2.ledger = ((c.consume s).cancelled s).ledger := by
  have hexecutes := executes p i c s
  generalize (c.execute p i s).2 = c' at hexecutes ⊢
  cases hexecutes with
  | stop => exact Or.inr (ledger_executeStop p _ s)
  | waits => exact Or.inl rfl
  | jog =>
    left
    unfold executeJog
    dsimp only
    split_ifs <;> rfl
  | stream => exact Or.inl rfl
  | gate => exact Or.inl rfl
  | nothing => exact Or.inl rfl

theorem zero_execute (s : Selection) : (c.execute p i s).2.ledger.zero = c.ledger.zero := by
  have hconsume : (c.consume s).ledger.zero = c.ledger.zero := by
    unfold consume
    split_ifs <;> rfl
  have hcancelled (d : LiftController otg) : (d.cancelled s).ledger.zero = d.ledger.zero := by
    unfold cancelled applyCancellation cancelPendingTrajectory
    split_ifs <;> rfl
  rcases ledger_execute p i c s with hledger | hledger
  · rw [hledger, hconsume]
  · rw [hledger, hcancelled, hconsume]

theorem selectCommand_ledger : c.selectCommand.2.ledger = c.ledger := by
  unfold selectCommand
  split_ifs <;> rfl

theorem zero_dispatch : (c.dispatch p i).2.ledger.zero = c.ledger.zero := by
  unfold dispatch
  split
  · rw [zero_execute, selectCommand_ledger]
  · rw [selectCommand_ledger]

/-! ## What a cycle leaves over -/

theorem trajectoryLeft_congr (hinbox : c'.inbox = c.inbox)
    (hqueue : c'.ledger.queue = c.ledger.queue) : c'.TrajectoryLeft ↔ c.TrajectoryLeft := by
  have hpending : c'.trajectories.pending = c.trajectories.pending :=
    congrArg (fun q => q.2.1) hqueue
  have hgeneration : c'.trajectories.pendingGeneration = c.trajectories.pendingGeneration :=
    congrArg (fun q => q.2.2.1) hqueue
  have hconsumed : c'.trajectories.consumedGeneration = c.trajectories.consumedGeneration :=
    congrArg (fun q => q.2.2.2) hqueue
  unfold TrajectoryLeft
  rw [hinbox, hpending, hgeneration, hconsumed]

theorem nativeLeft_congr (hinbox : c'.inbox = c.inbox)
    (hconsumed : c'.consumedGeneration = c.consumedGeneration) : c'.NativeLeft ↔ c.NativeLeft := by
  unfold NativeLeft
  rw [hinbox, hconsumed]

theorem heavyLeft_congr (hinbox : c'.inbox = c.inbox)
    (hconsumed : c'.consumedHeavyCommandGeneration = c.consumedHeavyCommandGeneration) :
    c'.HeavyLeft ↔ c.HeavyLeft := by
  unfold HeavyLeft
  rw [hinbox, hconsumed]

/-- A cancellation that has been announced cancels no trajectory that could be taken over. -/
theorem trajectoryLeft_cancelled {s : Selection}
    (hs : s.source = .safety → s.command.generation ≤ c.inbox.cancellationGeneration) :
    (c.cancelled s).TrajectoryLeft ↔ c.TrajectoryLeft := by
  unfold cancelled
  split_ifs with hsafety
  · have hold := hs (beq_iff_eq.mp hsafety)
    unfold applyCancellation cancelPendingTrajectory
    split_ifs with hcancel
    · constructor
      · rintro ⟨⟨⟩, -⟩
      · rintro ⟨-, -, hnew⟩
        exact absurd (hcancel.trans hold) (Nat.not_le.mpr hnew)
    · exact Iff.rfl
  · exact Iff.rfl

theorem trajectoryLeft_execute {s : Selection}
    (hs : s.source = .safety → s.command.generation ≤ c.inbox.cancellationGeneration) :
    (c.execute p i s).2.TrajectoryLeft ↔ c.TrajectoryLeft := by
  have hinbox : (c.execute p i s).2.inbox = c.inbox := (execute_spec p i c s).1.inbox
  have hconsume : (c.consume s).TrajectoryLeft ↔ c.TrajectoryLeft := by
    unfold consume
    split_ifs <;> exact Iff.rfl
  have hsame := (keepsCommands_consume c s).inbox
  rcases ledger_execute p i c s with hledger | hledger
  · exact (trajectoryLeft_congr _ (hinbox.trans hsame.symm) (congrArg Ledger.queue hledger)).trans
      hconsume
  · have hcancelled : (c.execute p i s).2.inbox = ((c.consume s).cancelled s).inbox := by
      rw [hinbox, (keepsCommands_cancelled _ s).inbox, hsame]
    exact ((trajectoryLeft_congr _ hcancelled (congrArg Ledger.queue hledger)).trans
      (trajectoryLeft_cancelled _ (hsame.symm ▸ hs))).trans hconsume

/-- The command of a cycle leaves the pending trajectory over. -/
theorem trajectoryLeft_dispatch (hc : Numbered c) :
    (c.dispatch p i).2.TrajectoryLeft ↔ c.TrajectoryLeft := by
  have hinbox := selectCommand_inbox c
  have hselect := trajectoryLeft_congr c hinbox (congrArg Ledger.queue (selectCommand_ledger c))
  unfold dispatch
  split
  · rename_i s hnew
    refine (trajectoryLeft_execute p i _ fun hsource => ?_).trans hselect
    rw [hinbox]
    rcases selectCommand_cases c (newCommand_selected c hnew) with
      ⟨-, hcommand⟩ | ⟨hother, -⟩ | ⟨hother, -⟩
    · rw [hcommand, hc.safety]
      exact hc.safetyCancelled
    · cases hsource.symm.trans hother
    · cases hsource.symm.trans hother
  · exact hselect

/-- The intake takes the pending trajectory over if it can have the mutex. -/
theorem trajectoryLeft_intake :
    (c.intake p i).TrajectoryLeft ↔ c.MissesTrajectory i := by
  have htake (d : LiftController otg) :
      (d.takeTrajectory p i).TrajectoryLeft ↔ d.MissesTrajectory i := by
    unfold takeTrajectory MissesTrajectory
    cases hlock : i.trajectoryLock with
    | true =>
      refine iff_of_false ?_ fun h => by cases h.1
      unfold discardNative dropPendingTrajectory newTrajectory
      rw [hlock]
      split
      · rintro ⟨⟨⟩, -⟩
      · split
        · rintro ⟨-, hconsumed, -⟩
          exact hconsumed rfl
        · rename_i hnone
          rintro ⟨hpending, hconsumed, hnew⟩
          rw [if_pos ⟨rfl, hconsumed, hnew⟩] at hnone
          rw [hnone] at hpending
          cases hpending
    | false =>
      have hnone : d.newTrajectory i = none := by
        unfold newTrajectory
        rw [hlock]
        exact if_neg fun h => Bool.false_ne_true h.1
      rw [hnone]
      unfold discardNative dropPendingTrajectory
      rw [hlock]
      split
      · exact ⟨fun h => ⟨rfl, h⟩, fun h => h.2⟩
      · exact ⟨fun h => ⟨rfl, h⟩, fun h => h.2⟩
  have hestop : (c.leaveEstop p).observeLeaseGate.TrajectoryLeft ↔ c.TrajectoryLeft := by
    unfold leaveEstop
    split_ifs <;> exact Iff.rfl
  exact (htake _).trans (and_congr_right fun _ => hestop)

/-- The intake consumes every native command under the Heavy lease and behind an emergency stop. -/
theorem intake_consumed :
    (c.intake p i).consumedGeneration =
      if c.inbox.heavyLeaseActive = true ∨ c.mode = .estop then c.inbox.commandGeneration
      else c.consumedGeneration := by
  have hestop : (c.leaveEstop p).observeLeaseGate.consumedGeneration =
      (if c.mode = .estop then c.inbox.commandGeneration else c.consumedGeneration) ∧
      (c.leaveEstop p).observeLeaseGate.inbox = c.inbox := by
    unfold leaveEstop
    split_ifs <;> exact ⟨rfl, rfl⟩
  show ((c.leaveEstop p).observeLeaseGate.takeTrajectory p i).consumedGeneration = _
  generalize (c.leaveEstop p).observeLeaseGate = d at hestop
  obtain ⟨hconsumed, hinbox⟩ := hestop
  unfold takeTrajectory discardNative dropPendingTrajectory
  rw [hinbox]
  by_cases hlease : c.inbox.heavyLeaseActive = true
  · rw [if_pos hlease, if_pos (Or.inl hlease)]
    split_ifs <;> rfl
  · rw [if_neg hlease]
    have hcases : (if c.inbox.heavyLeaseActive = true ∨ c.mode = .estop then
        c.inbox.commandGeneration else c.consumedGeneration) = d.consumedGeneration :=
      (if_congr (or_iff_right hlease) rfl rfl).trans hconsumed.symm
    rw [hcases]
    split <;> rfl

theorem nativeLeft_intake (hc : Numbered c) :
    (c.intake p i).NativeLeft ↔
      c.inbox.heavyLeaseActive = false ∧ c.mode ≠ .estop ∧ c.NativeLeft := by
  have hinbox := intake_inbox p i c
  have hconsumed := intake_consumed p i c
  by_cases hdone : c.inbox.heavyLeaseActive = true ∨ c.mode = .estop
  · rw [if_pos hdone] at hconsumed
    constructor
    · rintro ⟨-, -, -, hnew⟩
      rw [hinbox, hconsumed, hc.command] at hnew
      exact absurd rfl hnew
    · rintro ⟨hlease, hmode, -⟩
      rcases hdone with hopen | hestop
      · cases hlease.symm.trans hopen
      · exact absurd hestop hmode
  · rw [if_neg hdone] at hconsumed
    obtain ⟨hlease, hmode⟩ := not_or.mp hdone
    rw [nativeLeft_congr c hinbox hconsumed]
    exact ⟨fun h => ⟨eq_false_of_ne_true hlease, hmode, h⟩, fun h => h.2.2⟩

/-- The intake consumes the Heavy command when it sees the lease gate close. -/
theorem heavyLeft_intake :
    (c.intake p i).HeavyLeft ↔
      ¬ (c.inbox.heavyLeaseActive = false ∧ c.heavyLeaseActiveRt = true) ∧ c.HeavyLeft := by
  have hinbox := intake_inbox p i c
  have hestop : (c.leaveEstop p).inbox = c.inbox ∧
      (c.leaveEstop p).heavyLeaseActiveRt = c.heavyLeaseActiveRt ∧
      (c.leaveEstop p).consumedHeavyCommandGeneration = c.consumedHeavyCommandGeneration := by
    unfold leaveEstop
    split_ifs <;> exact ⟨rfl, rfl, rfl⟩
  have hconsumed : (c.intake p i).consumedHeavyCommandGeneration =
      if ¬ c.inbox.heavyLeaseActive ∧ c.heavyLeaseActiveRt then c.inbox.heavyCommandGeneration
      else c.consumedHeavyCommandGeneration := by
    rw [← hestop.1, ← hestop.2.1, ← hestop.2.2]
    exact (sameIntake_takeTrajectory p i (c.leaveEstop p).observeLeaseGate).consumedHeavy
  by_cases hedge : c.inbox.heavyLeaseActive = false ∧ c.heavyLeaseActiveRt = true
  · rw [if_pos ⟨by rw [hedge.1]; exact Bool.false_ne_true, hedge.2⟩] at hconsumed
    refine iff_of_false ?_ fun h => h.1 hedge
    rintro ⟨-, -, -, hnew⟩
    rw [hinbox, hconsumed] at hnew
    exact absurd rfl hnew
  · rw [if_neg fun h => hedge ⟨eq_false_of_ne_true h.1, h.2⟩] at hconsumed
    rw [heavyLeft_congr c hinbox hconsumed]
    exact ⟨fun h => ⟨hedge, h⟩, fun h => h.2⟩

theorem selectCommand_native (h : c.safetyWaits = false)
    (hlease : c.inbox.heavyLeaseActive = false) :
    c.selectCommand = (some ⟨.native, c.inbox.commandBuffer⟩, c) := by
  have hsame : ¬ c.inbox.safetyCommandGeneration ≠ c.consumedSafetyCommandGeneration :=
    not_not.mpr (bne_eq_false_iff_eq.mp h)
  unfold selectCommand
  rw [if_neg hsame, if_neg (by rw [hlease]; exact Bool.false_ne_true)]

theorem execute_consumed (s : Selection) :
    (c.execute p i s).2.consumedGeneration =
      if s.source = .native then s.command.generation else c.consumedGeneration := by
  have hconsume : (c.consume s).consumedGeneration =
      if s.source = .native then s.command.generation else c.consumedGeneration := by
    unfold consume
    split_ifs <;> rfl
  have hcancelled (d : LiftController otg) :
      (d.cancelled s).consumedGeneration = d.consumedGeneration := by
    unfold cancelled applyCancellation cancelPendingTrajectory
    split_ifs <;> rfl
  rcases ledger_execute p i c s with hledger | hledger
  · exact (congrArg Ledger.consumedGeneration hledger).trans hconsume
  · exact ((congrArg Ledger.consumedGeneration hledger).trans (hcancelled _)).trans hconsume

/-- A native command is consumed unless another buffer comes first. -/
theorem nativeLeft_dispatch :
    (c.dispatch p i).2.NativeLeft ↔
      (c.safetyWaits = true ∨ c.inbox.heavyLeaseActive = true) ∧ c.NativeLeft := by
  have hinbox := dispatch_inbox p i c
  have hselect : c.selectCommand.2.consumedGeneration = c.consumedGeneration :=
    congrArg Ledger.consumedGeneration (selectCommand_ledger c)
  by_cases hfirst : c.safetyWaits = true ∨ c.inbox.heavyLeaseActive = true
  · -- the command of the cycle is no native one
    have hsource : ∀ s, c.newCommand = some s → s.source ≠ .native := by
      intro s hs
      have hselected := newCommand_selected c hs
      by_cases hsafety : c.safetyWaits = true
      · rw [selectCommand_safety hsafety] at hselected
        obtain rfl := Option.some_inj.mp hselected
        rintro ⟨⟩
      · rw [selectCommand_lease (eq_false_of_ne_true hsafety) (hfirst.resolve_left hsafety)]
          at hselected
        split at hselected
        · obtain rfl := Option.some_inj.mp hselected
          rintro ⟨⟩
        · cases hselected
    have hconsumed : (c.dispatch p i).2.consumedGeneration = c.consumedGeneration := by
      unfold dispatch
      split
      · rename_i s hnew
        rw [execute_consumed, if_neg (hsource s hnew), hselect]
      · exact hselect
    rw [nativeLeft_congr c hinbox hconsumed]
    exact ⟨fun h => ⟨hfirst, h⟩, fun h => h.2⟩
  · obtain ⟨hsafety, hlease⟩ := not_or.mp hfirst
    refine iff_of_false ?_ fun h => hfirst h.1
    have hnative := selectCommand_native c (eq_false_of_ne_true hsafety)
      (eq_false_of_ne_true hlease)
    rintro ⟨-, hzero, hnew, hconsumed⟩
    rw [hinbox] at hzero hnew hconsumed
    cases hcommand : c.newCommand with
    | some s =>
      have hselected := newCommand_selected c hcommand
      rw [hnative] at hselected
      obtain rfl := Option.some_inj.mp hselected
      refine hconsumed ?_
      unfold dispatch
      rw [hcommand]
      dsimp only
      rw [execute_consumed, if_pos rfl]
    | none =>
      unfold dispatch at hconsumed
      rw [hcommand, hnative] at hconsumed
      unfold newCommand isNew at hcommand
      rw [hnative, Option.filter_some] at hcommand
      simp [hzero, hnew, hconsumed] at hcommand

theorem heavyLeft_dispatch :
    (c.dispatch p i).2.HeavyLeft ↔
      (c.safetyWaits = true ∨ c.inbox.heavyLeaseActive = false) ∧ c.HeavyLeft := by
  have hinbox := dispatch_inbox p i c
  have hdispatch : (c.dispatch p i).2.consumedHeavyCommandGeneration =
      c.selectCommand.2.consumedHeavyCommandGeneration := by
    unfold dispatch
    split
    · exact (execute_spec p i c.selectCommand.2 _).1.consumedHeavy
    · rfl
  by_cases hfirst : c.safetyWaits = true ∨ c.inbox.heavyLeaseActive = false
  · have hselect : c.selectCommand.2.consumedHeavyCommandGeneration =
        c.consumedHeavyCommandGeneration := by
      by_cases hsafety : c.safetyWaits = true
      · rw [selectCommand_safety hsafety]
      · rw [selectCommand_native c (eq_false_of_ne_true hsafety) (hfirst.resolve_left hsafety)]
    rw [heavyLeft_congr c hinbox (hdispatch.trans hselect)]
    exact ⟨fun h => ⟨hfirst, h⟩, fun h => h.2⟩
  · obtain ⟨hsafety, hlease⟩ := not_or.mp hfirst
    refine iff_of_false ?_ fun h => hfirst h.1
    rintro ⟨-, -, -, hnew⟩
    rw [hinbox, hdispatch, selectCommand_lease (eq_false_of_ne_true hsafety)
      (eq_true_of_ne_false hlease)] at hnew
    split at hnew
    · exact hnew rfl
    · rename_i hold
      exact hold hnew

/-! ## The end of a cycle -/

theorem resync_of_new (hvalid : c.driver.zeroGenerationValid = true)
    (hnew : c.driver.zeroGeneration ≠ c.appliedZeroGeneration)
    (hmeasured : c.measuredPositionM.isFinite = true) :
    c.applyZeroFrameResync p =
      { c with appliedZeroGeneration := c.driver.zeroGeneration }.reseat p
        (p.limits.clampPosition c.measuredPositionM) := by
  have hfinite : (p.limits.clampPosition c.measuredPositionM).isFinite = true :=
    Double.isFinite_clamp hmeasured rfl rfl
  unfold applyZeroFrameResync
  rw [if_neg (not_or.mpr ⟨not_not.mpr hvalid, hnew⟩)]
  dsimp only
  rw [if_pos hfinite]

theorem resync_of_same (h : c.driver.zeroGenerationValid = false ∨
    c.driver.zeroGeneration = c.appliedZeroGeneration) : c.applyZeroFrameResync p = c := by
  unfold applyZeroFrameResync
  rw [if_pos (h.imp (fun hvalid => by rw [hvalid]; exact Bool.false_ne_true) id)]

/-- A cycle writes its interfaces once it has looked at the zero frame. -/
theorem runCycle_written : ∃ streamSelected,
    Written p i c.selectCommand.1 streamSelected ((c.beforeResync p i).applyZeroFrameResync p)
      (c.runCycle p i).controller := ⟨_, ⟨rfl⟩⟩

variable {c} {s : Option Selection} {streamSelected : Bool}

theorem Written.ledger (h : Written p i s streamSelected c c') : c'.ledger = c.ledger := by
  have hconfirm (d : LiftController otg) : (d.confirmPendingHold p).ledger = d.ledger :=
    congrArg Prod.fst (notes_confirmPendingHold p d)
  rw [h.eq, ledger_acknowledge, hconfirm]
  rfl

/-- What the end of a cycle leaves alone of the motion and of what is measured. -/
structure KeepsMotion (c c' : LiftController otg) : Prop where
  gatedCommand : c'.gatedCommand = c.gatedCommand
  gatedCommandValid : c'.gatedCommandValid = c.gatedCommandValid
  trajectories : c'.trajectories = c.trajectories
  goalStableActive : c'.goalStableActive = c.goalStableActive
  goalStableSince : c'.goalStableSince = c.goalStableSince
  measuredPosition : c'.measuredPositionM = c.measuredPositionM
  measuredVelocity : c'.measuredVelocityMps = c.measuredVelocityMps

theorem KeepsMotion.refl (c : LiftController otg) : KeepsMotion c c :=
  ⟨rfl, rfl, rfl, rfl, rfl, rfl, rfl⟩

theorem KeepsMotion.trans {c'' : LiftController otg} (h : KeepsMotion c c')
    (h' : KeepsMotion c' c'') : KeepsMotion c c'' where
  gatedCommand := h'.gatedCommand.trans h.gatedCommand
  gatedCommandValid := h'.gatedCommandValid.trans h.gatedCommandValid
  trajectories := h'.trajectories.trans h.trajectories
  goalStableActive := h'.goalStableActive.trans h.goalStableActive
  goalStableSince := h'.goalStableSince.trans h.goalStableSince
  measuredPosition := h'.measuredPosition.trans h.measuredPosition
  measuredVelocity := h'.measuredVelocity.trans h.measuredVelocity

/-- The motion is as it was before the interfaces were written. -/
theorem Written.motion (h : Written p i s streamSelected c c') : KeepsMotion c c' := by
  have hconfirm (d : LiftController otg) : KeepsMotion d (d.confirmPendingHold p) := by
    unfold confirmPendingHold failPendingHold
    split_ifs <;> exact ⟨rfl, rfl, rfl, rfl, rfl, rfl, rfl⟩
  have hconsumed (d : LiftController otg) : KeepsMotion d (d.acknowledgeConsumed s).2 := by
    unfold acknowledgeConsumed
    split
    · split_ifs <;> exact ⟨rfl, rfl, rfl, rfl, rfl, rfl, rfl⟩
    · exact .refl d
  have hfollow (d : LiftController otg) :
      KeepsMotion d (d.acknowledgeFollow p i streamSelected).2 := by
    unfold acknowledgeFollow
    split_ifs
    · exact ⟨rfl, rfl, rfl, rfl, rfl, rfl, rfl⟩
    · exact .refl d
  have hwrite (d : LiftController otg) (sample : LiftMotionSample) :
      KeepsMotion d (d.writeCommandInterfaces p sample) := ⟨rfl, rfl, rfl, rfl, rfl, rfl, rfl⟩
  rw [h.eq]
  exact (((hwrite c _).trans (hconfirm _)).trans (hconsumed _)).trans (hfollow _)

/-- A command state that is seated and then written is seated. -/
theorem Written.reseated {x : Double}
    (h : Written p i s streamSelected (c.reseat p (p.limits.clampPosition x)) c')
    (hx : x.isFinite = true) : Reseated p x c' := by
  have hkeeps := h.keeps p i
  have hmotion := h.motion p i
  have hfinite : (p.limits.clampPosition x).isFinite = true := Double.isFinite_clamp hx rfl rfl
  have hprofile : c'.profile = c.profile.hold p.limits (p.limits.clampPosition x) := hkeeps.profile
  have hstate : c'.profile.state = .standing (p.limits.clampPosition x) := by
    rw [hprofile, LiftMotionProfile.hold_state, p.limits.clampPosition_clampPosition]
  refine ⟨?_, hstate, ?_, ?_, hmotion.gatedCommandValid, ?_, ?_⟩
  · rw [← hstate, hprofile]
    exact hkeeps.sample
  · rw [hprofile]
    exact p.limits.clampPosition_clampPosition x
  · rw [hkeeps.interfaces, hkeeps.sample]
    exact shows_writeCommandInterfaces p _ (sound_hold p.limits c.profile hfinite)
  · rw [hmotion.trajectories]
    rfl
  · rw [hkeeps.mode]
    exact reseat_rests p c (p.limits.clampPosition x)

variable (c)

/-- A cycle that finds a new generation adopts it, and seats the command state on the measured
position. -/
theorem runCycle_rezeroed (hvalid : c.driver.zeroGenerationValid = true)
    (hnew : c.driver.zeroGeneration ≠ c.appliedZeroGeneration)
    (hmeasured : c.measuredPositionM.isFinite = true) :
    Reseated p c.measuredPositionM (c.runCycle p i).controller ∧
      (c.runCycle p i).controller.ledger = { (c.dispatch p i).2.ledger with
        appliedZeroGeneration := c.driver.zeroGeneration
        zeroResyncTotal := c.zeroResyncTotal + 1 } := by
  have hledger := ledger_beforeResync p i c
  have hzero : (c.beforeResync p i).ledger.zero = c.ledger.zero :=
    (congrArg Ledger.zero hledger).trans (zero_dispatch p i c)
  obtain ⟨streamSelected, hwritten⟩ := runCycle_written p i c
  generalize c.beforeResync p i = d at hledger hzero hwritten
  have hdriver : d.driver = c.driver := congrArg (fun z => z.1) hzero
  have hposition : d.measuredPositionM = c.measuredPositionM := congrArg (fun z => z.2.1) hzero
  have happlied : d.appliedZeroGeneration = c.appliedZeroGeneration :=
    congrArg (fun z => z.2.2.1) hzero
  have htotal : d.zeroResyncTotal = c.zeroResyncTotal := congrArg (fun z => z.2.2.2) hzero
  rw [resync_of_new p d (by rw [hdriver, hvalid]) (by rw [hdriver, happlied]; exact hnew)
    (by rw [hposition, hmeasured])] at hwritten
  have hreseated := hwritten.reseated p i (by rw [hposition, hmeasured])
  rw [hposition] at hreseated
  refine ⟨hreseated, ?_⟩
  rw [hwritten.ledger p i, ← hledger, ← hdriver, ← htotal]
  rfl

/-- In any other cycle the zero frame stays as it is. -/
theorem resync_beforeResync (h : c.driver.zeroGenerationValid = false ∨
    c.driver.zeroGeneration = c.appliedZeroGeneration) :
    (c.beforeResync p i).applyZeroFrameResync p = c.beforeResync p i := by
  have hzero : (c.beforeResync p i).ledger.zero = c.ledger.zero :=
    (congrArg Ledger.zero (ledger_beforeResync p i c)).trans (zero_dispatch p i c)
  have hdriver : (c.beforeResync p i).driver = c.driver := congrArg (fun z => z.1) hzero
  have happlied : (c.beforeResync p i).appliedZeroGeneration = c.appliedZeroGeneration :=
    congrArg (fun z => z.2.2.1) hzero
  exact resync_of_same p _ (by rw [hdriver, happlied]; exact h)

/-- Any other cycle adopts nothing. -/
theorem runCycle_not_rezeroed (h : c.driver.zeroGenerationValid = false ∨
    c.driver.zeroGeneration = c.appliedZeroGeneration) :
    (c.runCycle p i).controller.ledger.zero = c.ledger.zero := by
  have hzero : (c.beforeResync p i).ledger.zero = c.ledger.zero :=
    (congrArg Ledger.zero (ledger_beforeResync p i c)).trans (zero_dispatch p i c)
  obtain ⟨streamSelected, hwritten⟩ := runCycle_written p i c
  rw [resync_beforeResync p i c h] at hwritten
  rw [hwritten.ledger p i, hzero]

/-! ## The cycle -/

theorem observes_iff : c.observes i = true ↔
    i.state.finite = true ∧ c.driver.estopLatched = false ∧
      c.driver.zeroGenerationValid = true := by
  unfold observes
  rw [Bool.and_eq_true, Bool.and_eq_true, Bool.not_eq_true', and_assoc]

theorem rezeroed_iff : c.rezeroed i = true ↔
    c.observes i = true ∧ c.driver.zeroGeneration ≠ c.appliedZeroGeneration := by
  unfold rezeroed
  rw [Bool.and_eq_true, bne_iff_ne]

/-- What a cycle does that finds a new generation. -/
structure Rezeroes (c' : LiftController otg) : Prop where
  reseated : Reseated p i.state.position c'
  applied : c'.appliedZeroGeneration = c.driver.zeroGeneration
  total : c'.zeroResyncTotal = c.zeroResyncTotal + 1
  driver : c'.driver = c.driver
  trajectory : c'.TrajectoryLeft ↔ c.MissesTrajectory i
  native : c'.NativeLeft ↔ c.MissesNative
  heavy : c'.HeavyLeft ↔ c.MissesHeavy

theorem update_rezeroed (hc : Numbered c) (h : c.rezeroed i = true) :
    c.Rezeroes p i (c.update p i).controller := by
  obtain ⟨hobserves, hnew⟩ := (rezeroed_iff i c).mp h
  obtain ⟨hfinite, hestop, hvalid⟩ := (observes_iff i c).mp hobserves
  have hmeasured := StateInterfaces.position_of_finite hfinite
  have hruns := runsFrom_intake p i hfinite hestop
  have hzero : ((c.readStateInterfaces i).intake p i).ledger.zero =
      (c.readStateInterfaces i).ledger.zero := zero_intake p i _
  have htrajectory := trajectoryLeft_intake p i (c.readStateInterfaces i)
  have hnative := nativeLeft_intake p i (c.readStateInterfaces i) (hc.of_inbox rfl)
  have hheavy := heavyLeft_intake p i (c.readStateInterfaces i)
  have hinbox : (c.update p i).controller.inbox = c.inbox := update_inbox p i c
  have hconsumedHeavy := hruns.consumed.2
  have hsafety := hruns.safetyWaits
  rw [hruns.run] at hinbox hconsumedHeavy ⊢
  generalize (c.readStateInterfaces i).intake p i = d
    at hruns hzero htrajectory hnative hheavy hinbox hconsumedHeavy hsafety ⊢
  have hdriver : d.driver = c.driver := congrArg (fun z => z.1) hzero
  have hposition : d.measuredPositionM = i.state.position := congrArg (fun z => z.2.1) hzero
  have happlied : d.appliedZeroGeneration = c.appliedZeroGeneration :=
    congrArg (fun z => z.2.2.1) hzero
  have htotal : d.zeroResyncTotal = c.zeroResyncTotal := congrArg (fun z => z.2.2.2) hzero
  obtain ⟨hreseated, hledger⟩ := runCycle_rezeroed p i d (by rw [hdriver, hvalid])
    (by rw [hdriver, happlied]; exact hnew) (by rw [hposition, hmeasured])
  have hqueue : (d.runCycle p i).controller.ledger.queue = (d.dispatch p i).2.ledger.queue := by
    rw [hledger]
    rfl
  have hsame : (d.runCycle p i).controller.inbox = (d.dispatch p i).2.inbox := by
    rw [hinbox, dispatch_inbox, hruns.inbox]
  have hnumbered : Numbered d := hc.of_inbox hruns.inbox
  refine ⟨hposition ▸ hreseated, ?_, ?_, ?_, ?_, ?_, ?_⟩
  · rw [← hdriver]
    exact congrArg Ledger.appliedZeroGeneration hledger
  · rw [← htotal]
    exact congrArg Ledger.zeroResyncTotal hledger
  · have hdispatch : (d.dispatch p i).2.driver = d.driver :=
      congrArg (fun z => z.1) (zero_dispatch p i d)
    rw [← hdriver, ← hdispatch]
    exact congrArg Ledger.driver hledger
  · exact ((trajectoryLeft_congr _ hsame hqueue).trans
      (trajectoryLeft_dispatch p i d hnumbered)).trans
      htrajectory
  · rw [nativeLeft_congr _ hsame (congrArg (fun q => q.1) hqueue), nativeLeft_dispatch, hnative,
      hsafety, hruns.inbox]
    constructor
    · rintro ⟨hfirst, hlease, hmode, hleft⟩
      refine ⟨hlease, hfirst.resolve_right fun hopen => ?_, hmode, hleft⟩
      cases hlease.symm.trans hopen
    · rintro ⟨hlease, hfirst, hmode, hleft⟩
      exact ⟨Or.inl hfirst, hlease, hmode, hleft⟩
  · rw [heavyLeft_congr _ hsame (keepsCommands_runCycle p i d).consumedHeavy, heavyLeft_dispatch,
      hheavy, hsafety, hruns.inbox, ← and_assoc]
    refine and_congr_left fun _ => ?_
    show _ ∧ ¬ (c.inbox.heavyLeaseActive = false ∧ c.heavyLeaseActiveRt = true) ↔ _
    cases hlease : c.inbox.heavyLeaseActive with
    | true =>
      rw [if_pos rfl]
      exact ⟨fun h => h.1.resolve_right (by rintro ⟨⟩), fun h => ⟨Or.inl h, by rintro ⟨⟨⟩, -⟩⟩⟩
    | false =>
      rw [if_neg Bool.false_ne_true]
      exact ⟨fun h => eq_false_of_ne_true fun hopen => h.2 ⟨rfl, hopen⟩,
        fun h => ⟨Or.inr rfl, fun hopen => by cases h.symm.trans hopen.2⟩⟩

/-- A cycle that runs and finds no new generation takes its commands in without one. -/
theorem intake_not_rezeroed (hfinite : i.state.finite = true)
    (hestop : c.driver.estopLatched = false) (h : c.rezeroed i = false) :
    ((c.readStateInterfaces i).intake p i).driver.zeroGenerationValid = false ∨
      ((c.readStateInterfaces i).intake p i).driver.zeroGeneration =
        ((c.readStateInterfaces i).intake p i).appliedZeroGeneration := by
  have hintake := zero_intake p i (c.readStateInterfaces i)
  have hsame : c.driver.zeroGenerationValid = false ∨
      c.driver.zeroGeneration = c.appliedZeroGeneration := by
    by_contra hnot
    obtain ⟨hvalid, hnew⟩ := not_or.mp hnot
    rw [(rezeroed_iff i c).mpr ⟨(observes_iff i c).mpr
      ⟨hfinite, hestop, eq_true_of_ne_false hvalid⟩, hnew⟩] at h
    cases h
  generalize (c.readStateInterfaces i).intake p i = d at hintake ⊢
  have hdriver : d.driver = c.driver := congrArg (fun z => z.1) hintake
  have happlied : d.appliedZeroGeneration = c.appliedZeroGeneration :=
    congrArg (fun z => z.2.2.1) hintake
  rw [hdriver, happlied]
  exact hsame

theorem update_not_rezeroed (h : c.rezeroed i = false) :
    (c.update p i).controller.appliedZeroGeneration = c.appliedZeroGeneration ∧
      (c.update p i).controller.zeroResyncTotal = c.zeroResyncTotal := by
  cases hfinite : i.state.finite with
  | false =>
    rw [update_nonFinite p i c hfinite]
    have hledger := congrArg Prod.fst (notes_failPendingHold (c.readStateInterfaces i)
      .motionProfile)
    exact ⟨congrArg Ledger.appliedZeroGeneration hledger, congrArg Ledger.zeroResyncTotal hledger⟩
  | true =>
    cases hestop : c.driver.estopLatched with
    | true =>
      rw [update_estop p i c hfinite hestop]
      unfold estopCycle dropPendingTrajectory
      dsimp only
      split_ifs <;> exact ⟨rfl, rfl⟩
    | false =>
      rw [update_run p i c hfinite hestop]
      have hzero := (runCycle_not_rezeroed p i _ (intake_not_rezeroed p i c hfinite hestop h)).trans
        (zero_intake p i (c.readStateInterfaces i))
      exact ⟨congrArg (fun z => z.2.2.1) hzero, congrArg (fun z => z.2.2.2) hzero⟩

end LiftController

end Lift

end JointController
