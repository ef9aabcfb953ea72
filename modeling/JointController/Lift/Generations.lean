import JointController.Lift.BrakeGate

/-!
# The generations of the commands

All commands of the lift are numbered by one counter, whatever buffer they go to.  Which of them may
still begin a motion is decided by their numbers.

* `Numbered`: the buffers hold what the counters say.
* `Publishes`, `publishes_step`: a callback numbers its command above all earlier ones.
* `KeepsQueue`: what the stages of a cycle do to the trajectories and to what has been consumed.
* `BeginsMotion`: the generations that a cycle acts on.
* `begins_of_moves`: no motion begins without such a generation.
* `OnlyNewer`: every command up to a generation is consumed or cancelled.
* `OnlyNewer.begins`, `OnlyNewer.update`: a cycle then acts on newer commands only, and leaves it
  so.
-/

namespace JointController

namespace Lift

/-- The command asks for a motion. -/
def CommandType.isMotion : CommandType → Bool
  | .position | .trajectory | .jog | .stream => true
  | .none | .softStop | .hold => false

theorem CommandType.stops_of_not_isMotion {type : CommandType} (h : type.isMotion = false)
    (hnone : type ≠ .none) : type = .softStop ∨ type = .hold := by
  cases type with
  | none => exact absurd rfl hnone
  | softStop => exact Or.inl rfl
  | hold => exact Or.inr rfl
  | _ => cases h

namespace LiftController

variable {otg : TrajectoryGenerator} (p : LiftParameters) (i : UpdateInput)
  {c c' c'' : LiftController otg}

/-! ## The buffers -/

/-- The buffers hold what the counters announce.  A trajectory waits in a buffer of its own. -/
structure Numbered (c : LiftController otg) : Prop where
  cancelled : c.inbox.cancellationGeneration ≤ c.inbox.motionGeneration
  command : c.inbox.commandBuffer.generation = c.inbox.commandGeneration
  heavy : c.inbox.heavyCommandBuffer.generation = c.inbox.heavyCommandGeneration
  safety : c.inbox.safetyCommandBuffer.generation = c.inbox.safetyCommandGeneration
  safetyCancelled : c.inbox.safetyCommandGeneration ≤ c.inbox.cancellationGeneration
  safetyType : c.inbox.safetyCommandBuffer.generation ≠ 0 →
    c.inbox.safetyCommandBuffer.type = .softStop ∨ c.inbox.safetyCommandBuffer.type = .hold
  commandType : c.inbox.commandBuffer.type ≠ .trajectory
  heavyType : c.inbox.heavyCommandBuffer.type ≠ .trajectory

theorem numbered_configured : Numbered (configured p : LiftController otg) where
  cancelled := le_rfl
  command := rfl
  heavy := rfl
  safety := rfl
  safetyCancelled := le_rfl
  safetyType h := absurd rfl h
  commandType := by rintro ⟨⟩
  heavyType := by rintro ⟨⟩

theorem Numbered.of_inbox (hc : Numbered c) (h : c'.inbox = c.inbox) : Numbered c' := by
  constructor <;> rw [h]
  exacts [hc.cancelled, hc.command, hc.heavy, hc.safety, hc.safetyCancelled, hc.safetyType,
    hc.commandType, hc.heavyType]

/-! ## What a callback adds -/

/-- What a callback does to the buffers: each of them stays as it is or holds a command that is
numbered above all earlier ones, and the cancellations only grow. -/
structure Publishes (c c' : LiftController otg) : Prop where
  numbered : Numbered c'
  motion : c.inbox.motionGeneration ≤ c'.inbox.motionGeneration
  cancellation : c.inbox.cancellationGeneration ≤ c'.inbox.cancellationGeneration
  command : c'.inbox.commandBuffer = c.inbox.commandBuffer ∨
    c.inbox.motionGeneration < c'.inbox.commandBuffer.generation
  heavy : c'.inbox.heavyCommandBuffer = c.inbox.heavyCommandBuffer ∨
    c.inbox.motionGeneration < c'.inbox.heavyCommandBuffer.generation
  pending : c'.trajectories = c.trajectories ∨ c'.trajectories.pending = none ∨
    c.inbox.motionGeneration < c'.trajectories.pendingGeneration

variable {p} in
/-- A Heavy command is no trajectory. -/
theorem heavyTarget_type {message : Command} {command : MotionCommand}
    (h : heavyTarget p message = some command) : command.type ≠ .trajectory := by
  unfold heavyTarget at h
  split_ifs at h <;>
  · obtain rfl := Option.some_inj.mp h
    rintro ⟨⟩

variable (hc : Numbered c)
include hc

theorem publishes_refl : Publishes c c :=
  ⟨hc, le_rfl, le_rfl, Or.inl rfl, Or.inl rfl, Or.inl rfl⟩

theorem publishes_enqueueCommand {command : MotionCommand} (h : command.type ≠ .trajectory) :
    Publishes c (c.enqueueCommand command) where
  numbered := { hc with
    cancelled := hc.cancelled.trans (Nat.le_succ _)
    command := rfl
    commandType := h }
  motion := Nat.le_succ _
  cancellation := le_rfl
  command := Or.inr (Nat.lt_succ_self _)
  heavy := Or.inl rfl
  pending := Or.inl rfl

theorem publishes_enqueueSafetyCommand {command : MotionCommand}
    (h : command.type = .softStop ∨ command.type = .hold) :
    Publishes c (c.enqueueSafetyCommand command) := by
  have hpending : (c.enqueueSafetyCommand command).trajectories = c.trajectories ∨
      (c.enqueueSafetyCommand command).trajectories.pending = none := by
    unfold enqueueSafetyCommand cancelPendingTrajectory
    dsimp only
    split_ifs
    · exact Or.inr rfl
    · exact Or.inl rfl
  have hinbox : (c.enqueueSafetyCommand command).inbox =
      c.inbox.announceSafetyCommand.writeSafetyCommand
        { command with generation := c.inbox.nextMotionGeneration } := by
    unfold enqueueSafetyCommand cancelPendingTrajectory
    dsimp only
    split_ifs <;> rfl
  constructor
  · constructor <;> rw [hinbox]
    exacts [le_rfl, hc.command, hc.heavy, rfl, le_rfl, fun _ => h, hc.commandType, hc.heavyType]
  · rw [hinbox]
    exact Nat.le_succ _
  · rw [hinbox]
    exact hc.cancelled.trans (Nat.le_succ _)
  · rw [hinbox]
    exact Or.inl rfl
  · rw [hinbox]
    exact Or.inl rfl
  · exact hpending.imp id Or.inl

/-- A callback numbers what it adds above all earlier commands. -/
theorem publishes_step {e : Event} (he : e.callback = true) (h : c.step p e = some c') :
    Publishes c c' := by
  cases callback_cases p c he h with
  | refused => exact publishes_refl hc
  | command _ command htype => exact publishes_enqueueCommand hc htype
  | trajectory =>
    exact
      { numbered := { hc with cancelled := hc.cancelled.trans (Nat.le_succ _) }
        motion := Nat.le_succ _
        cancellation := le_rfl
        command := Or.inl rfl
        heavy := Or.inl rfl
        pending := Or.inr (Or.inr (Nat.lt_succ_self _)) }
  | safety _ command htype =>
    have hsafety := publishes_enqueueSafetyCommand hc htype
    exact { hsafety with numbered := hsafety.numbered.of_inbox rfl }
  | report => exact ⟨hc.of_inbox rfl, le_rfl, le_rfl, Or.inl rfl, Or.inl rfl, Or.inl rfl⟩
  | admits => exact ⟨{ hc with }, le_rfl, le_rfl, Or.inl rfl, Or.inl rfl, Or.inl rfl⟩
  | heavy message command htarget =>
    exact
      { numbered := { hc with
          cancelled := hc.cancelled.trans (Nat.le_succ _)
          heavy := rfl
          heavyType := fun htype => heavyTarget_type htarget htype }
        motion := Nat.le_succ _
        cancellation := le_rfl
        command := Or.inl rfl
        heavy := Or.inr (Nat.lt_succ_self _)
        pending := Or.inl rfl }
  | gate => exact ⟨{ hc with }, le_rfl, le_rfl, Or.inl rfl, Or.inl rfl, Or.inl rfl⟩

omit hc

/-! ## What a cycle consumes -/

/-- The callbacks' part stays as it is, the native command and the pending trajectory may be
consumed, and a trajectory that is active was active before. -/
structure KeepsQueue (c c' : LiftController otg) : Prop where
  inbox : c'.inbox = c.inbox
  consumed : c'.consumedGeneration = c.consumedGeneration ∨
    c'.consumedGeneration = c.inbox.commandGeneration
  pendingGeneration : c'.trajectories.pendingGeneration = c.trajectories.pendingGeneration
  pending : (c'.trajectories.pending = c.trajectories.pending ∧
      c'.trajectories.consumedGeneration = c.trajectories.consumedGeneration) ∨
    c'.trajectories.consumedGeneration = c.trajectories.pendingGeneration
  active : c'.trajectories.active.isSome = true → c.trajectories.active.isSome = true ∧
    c'.trajectories.activeGeneration = c.trajectories.activeGeneration

/-- The native command and the trajectories stay as they are. -/
theorem KeepsQueue.of_eq (hinbox : c'.inbox = c.inbox)
    (hconsumed : c'.consumedGeneration = c.consumedGeneration)
    (htrajectories : c'.trajectories = c.trajectories) : KeepsQueue c c' where
  inbox := hinbox
  consumed := Or.inl hconsumed
  pendingGeneration := by rw [htrajectories]
  pending := Or.inl ⟨by rw [htrajectories], by rw [htrajectories]⟩
  active h := by
    rw [htrajectories] at h ⊢
    exact ⟨h, rfl⟩

theorem KeepsQueue.refl (c : LiftController otg) : KeepsQueue c c := .of_eq rfl rfl rfl

theorem KeepsQueue.trans (h : KeepsQueue c c') (h' : KeepsQueue c' c'') : KeepsQueue c c'' where
  inbox := h'.inbox.trans h.inbox
  consumed := by
    rcases h'.consumed with hsame | hconsumed
    · rw [hsame]
      exact h.consumed
    · rw [hconsumed, h.inbox]
      exact Or.inr rfl
  pendingGeneration := h'.pendingGeneration.trans h.pendingGeneration
  pending := by
    rcases h'.pending with ⟨hpending, hconsumed⟩ | hconsumed
    · rw [hpending, hconsumed]
      exact h.pending
    · rw [hconsumed, h.pendingGeneration]
      exact Or.inr rfl
  active hsome := by
    obtain ⟨hsome', hgeneration'⟩ := h'.active hsome
    obtain ⟨hsome'', hgeneration⟩ := h.active hsome'
    exact ⟨hsome'', hgeneration'.trans hgeneration⟩

/-- The active trajectory is dropped. -/
theorem KeepsQueue.dropped (hinbox : c'.inbox = c.inbox)
    (hconsumed : c'.consumedGeneration = c.consumedGeneration)
    (hpendingGeneration : c'.trajectories.pendingGeneration = c.trajectories.pendingGeneration)
    (hpending : c'.trajectories.pending = c.trajectories.pending)
    (hconsumed' : c'.trajectories.consumedGeneration = c.trajectories.consumedGeneration)
    (hactive : c'.trajectories.active = none) : KeepsQueue c c' where
  inbox := hinbox
  consumed := Or.inl hconsumed
  pendingGeneration := hpendingGeneration
  pending := Or.inl ⟨hpending, hconsumed'⟩
  active h := by
    rw [hactive] at h
    cases h

variable (c)

theorem keepsQueue_failPendingHold (stage : HoldFailureStage) :
    KeepsQueue c (c.failPendingHold stage) := by
  unfold failPendingHold
  split_ifs
  · exact .refl c
  · exact .of_eq rfl rfl rfl

theorem keepsQueue_beginSoftStop (completion : SoftStopCompletion) (generation : ℕ) :
    KeepsQueue c (c.beginSoftStop p completion generation) := .dropped rfl rfl rfl rfl rfl rfl

theorem keepsQueue_startTrajectoryPoint (index : ℕ) :
    KeepsQueue c (c.startTrajectoryPoint p index).2 := by
  unfold startTrajectoryPoint
  split
  · exact .refl c
  · exact ⟨rfl, Or.inl rfl, rfl, Or.inl ⟨rfl, rfl⟩, fun h => ⟨h, rfl⟩⟩

theorem keepsQueue_dropPendingTrajectory : KeepsQueue c (c.dropPendingTrajectory i) := by
  unfold dropPendingTrajectory
  split_ifs
  · exact ⟨rfl, Or.inl rfl, rfl, Or.inr rfl, fun h => ⟨h, rfl⟩⟩
  · exact .refl c

theorem keepsQueue_cancelPendingTrajectory (generation : ℕ) :
    KeepsQueue c (c.cancelPendingTrajectory generation) := by
  unfold cancelPendingTrajectory
  split_ifs
  · exact ⟨rfl, Or.inl rfl, rfl, Or.inr rfl, fun h => ⟨h, rfl⟩⟩
  · exact .refl c

theorem keepsQueue_startGatedCommand (command : MotionCommand) :
    KeepsQueue c (c.startGatedCommand p i.now command) := by
  unfold startGatedCommand
  cases command.type with
  | trajectory =>
    dsimp only
    set taken : LiftController otg := { c with
      gatedCommandValid := false
      trajectories := { c.trajectories with
        elapsedSec := 0, pointIndex := 0, waitingAtPoint := false } }
    have htake : KeepsQueue c taken :=
      ⟨rfl, Or.inl rfl, rfl, Or.inl ⟨rfl, rfl⟩, fun h => ⟨h, rfl⟩⟩
    have hstart := htake.trans (keepsQueue_startTrajectoryPoint p taken 0)
    split_ifs
    · exact ⟨hstart.inbox, hstart.consumed, hstart.pendingGeneration, hstart.pending,
        hstart.active⟩
    · exact hstart.trans (keepsQueue_beginSoftStop p _ _ _)
  | _ => exact .of_eq rfl rfl rfl

theorem keepsQueue_startGatedMotion : KeepsQueue c (c.startGatedMotion p i.now) := by
  unfold startGatedMotion
  split_ifs
  · exact .refl c
  · exact keepsQueue_startGatedCommand p i c _

theorem keepsQueue_brakeGateCycle (streamSelected : Bool) :
    KeepsQueue c (c.brakeGateCycle p i streamSelected).controller := by
  have hstart := keepsQueue_startGatedMotion p i c
  unfold brakeGateCycle
  dsimp only
  split_ifs
  · exact (keepsQueue_beginSoftStop p c .disable 0).trans (.of_eq rfl rfl rfl)
  · exact .of_eq rfl rfl rfl
  · exact hstart.trans (.of_eq rfl rfl rfl)
  · exact hstart
  · exact .of_eq rfl rfl rfl
  · exact .of_eq rfl rfl rfl

theorem keepsQueue_nextTrajectoryPoint : KeepsQueue c (c.nextTrajectoryPoint p) := by
  have hnext (pointIndex : ℕ) : KeepsQueue c
      { c with trajectories := { c.trajectories with pointIndex := pointIndex } } :=
    ⟨rfl, Or.inl rfl, rfl, Or.inl ⟨rfl, rfl⟩, fun h => ⟨h, rfl⟩⟩
  unfold nextTrajectoryPoint
  dsimp only
  split_ifs
  · exact (hnext _).trans (keepsQueue_startTrajectoryPoint p _ _)
  · exact ((hnext _).trans (keepsQueue_startTrajectoryPoint p _ _)).trans
      (keepsQueue_beginSoftStop p _ _ _)
  · exact ⟨rfl, Or.inl rfl, rfl, Or.inl ⟨rfl, rfl⟩, fun h => ⟨h, rfl⟩⟩

theorem keepsQueue_trajectoryCycle : KeepsQueue c (c.trajectoryCycle p i) := by
  have hadvance : KeepsQueue c ({ c with trajectories := { c.trajectories with
      elapsedSec := c.trajectories.elapsedSec + i.dt } }.advanceProfile p i) :=
    ⟨rfl, Or.inl rfl, rfl, Or.inl ⟨rfl, rfl⟩, fun h => ⟨h, rfl⟩⟩
  unfold trajectoryCycle
  dsimp only
  split_ifs
  · exact hadvance.trans (keepsQueue_nextTrajectoryPoint p _)
  · exact hadvance

theorem keepsQueue_runMode (streamSelected : Bool) :
    KeepsQueue c (c.runMode p i streamSelected).controller := by
  unfold runMode motionCycle
  split_ifs
  · exact keepsQueue_brakeGateCycle p i c streamSelected
  · exact (keepsQueue_beginSoftStop p c .disable 0).trans (.of_eq rfl rfl rfl)
  · exact keepsQueue_trajectoryCycle p i c
  · exact .of_eq rfl rfl rfl
  · exact .refl c
  · exact .of_eq rfl rfl rfl

theorem keepsQueue_checkDriverGate : KeepsQueue c (c.checkDriverGate p i) := by
  unfold checkDriverGate
  split_ifs
  · exact (keepsQueue_failPendingHold c .driverGate).trans (.dropped rfl rfl rfl rfl rfl rfl)
  · exact .refl c

theorem keepsQueue_finishCycle : KeepsQueue c (c.finishCycle p i) := by
  have hsample : KeepsQueue c (c.checkSample p) := by
    unfold checkSample
    split_ifs
    · exact .refl c
    · exact (keepsQueue_failPendingHold c .motionProfile).trans (.of_eq rfl rfl rfl)
  have hstop (d : LiftController otg) : KeepsQueue d (d.finishSoftStop p) := by
    unfold finishSoftStop
    dsimp only
    split_ifs <;> exact .of_eq rfl rfl rfl
  have hgoal (d : LiftController otg) : KeepsQueue d (d.checkGoal p i) := by
    unfold checkGoal
    split
    · exact .of_eq rfl rfl rfl
    · split
      · exact .of_eq rfl rfl rfl
      · split
        · exact .dropped rfl rfl rfl rfl rfl rfl
        · exact .refl d
  have hresync (d : LiftController otg) : KeepsQueue d (d.applyZeroFrameResync p) := by
    unfold applyZeroFrameResync reseat
    dsimp only
    split_ifs
    · exact .refl d
    all_goals first | exact .dropped rfl rfl rfl rfl rfl rfl | exact .of_eq rfl rfl rfl
  have hconfirm (d : LiftController otg) (sample : LiftMotionSample) :
      KeepsQueue d ((d.writeCommandInterfaces p sample).confirmPendingHold p) := by
    have hwrite : KeepsQueue d (d.writeCommandInterfaces p sample) := .of_eq rfl rfl rfl
    unfold confirmPendingHold
    split_ifs
    · exact hwrite
    · exact hwrite.trans (keepsQueue_failPendingHold _ _)
    · exact hwrite
    · exact hwrite
    · exact hwrite.trans (.of_eq rfl rfl rfl)
  exact (((hsample.trans (hstop _)).trans (hgoal _)).trans (hresync _)).trans (hconfirm _ _)

theorem keepsQueue_acknowledge (s : Option Selection) (streamSelected : Bool) :
    KeepsQueue c ((c.acknowledgeConsumed s).2.acknowledgeFollow p i streamSelected).2 := by
  have hconsumed : KeepsQueue c (c.acknowledgeConsumed s).2 := by
    unfold acknowledgeConsumed
    split
    · split_ifs <;> exact .of_eq rfl rfl rfl
    · exact .refl c
  unfold acknowledgeFollow
  split_ifs
  · exact hconsumed.trans (.of_eq rfl rfl rfl)
  · exact hconsumed

/-- From the command to the end of a cycle. -/
theorem keepsQueue_runCycle : KeepsQueue (c.dispatch p i).2 (c.runCycle p i).controller :=
  (((keepsQueue_checkDriverGate p i _).trans (keepsQueue_runMode p i _ _)).trans
    (keepsQueue_finishCycle p i _)).trans (keepsQueue_acknowledge p i _ _ _)

theorem keepsQueue_leaveEstop : KeepsQueue c (c.leaveEstop p) := by
  unfold leaveEstop
  split_ifs
  · exact ⟨rfl, Or.inr rfl, rfl, Or.inl ⟨rfl, rfl⟩, fun h => ⟨h, rfl⟩⟩
  · exact .refl c

/-- A cycle takes over the pending trajectory, or leaves the brake gate alone. -/
theorem takeTrajectory_cases :
    (c.takesTrajectory i = false ∧ KeepsQueue c (c.takeTrajectory p i) ∧
        KeepsCommands c (c.takeTrajectory p i)) ∨
      (c.takesTrajectory i = true ∧ ∃ trajectory,
        c.takeTrajectory p i = c.beginTrajectory p i trajectory) := by
  unfold takeTrajectory takesTrajectory
  split_ifs with hlease
  · refine Or.inl ⟨by simp [hlease], ?_, ?_⟩
    · have hdiscard : KeepsQueue c { c with
          consumedGeneration := c.inbox.commandGeneration
          trajectories := { c.trajectories with active := none, activeGeneration := 0 } } :=
        ⟨rfl, Or.inr rfl, rfl, Or.inl ⟨rfl, rfl⟩, by rintro ⟨⟩⟩
      exact hdiscard.trans (keepsQueue_dropPendingTrajectory i _)
    · have hdiscard : KeepsCommands c { c with
          consumedGeneration := c.inbox.commandGeneration
          trajectories := { c.trajectories with active := none, activeGeneration := 0 } } :=
        ⟨⟨rfl, rfl, rfl, rfl⟩, fun _ hw => hw⟩
      exact hdiscard.trans (keepsCommands_dropPendingTrajectory i _)
  · split
    · rename_i trajectory hsome
      exact Or.inr ⟨by simp [hlease, hsome], trajectory, rfl⟩
    · rename_i hnone
      exact Or.inl ⟨by simp [hnone], .refl c, .refl c⟩

/-- A trajectory that is taken over is new and has not been cancelled. -/
theorem takesTrajectory_spec (h : c.takesTrajectory i = true) :
    c.trajectories.consumedGeneration ≠ c.trajectories.pendingGeneration ∧
      c.inbox.cancellationGeneration < c.trajectories.pendingGeneration ∧
      c.trajectories.pending ≠ none := by
  obtain ⟨-, hsome⟩ := Bool.and_eq_true_iff.mp h
  unfold newTrajectory at hsome
  split_ifs at hsome with hnew
  · exact ⟨hnew.2.1, hnew.2.2, Option.isSome_iff_ne_none.mp hsome⟩
  · cases hsome

/-- A command that is new has a number, is no native command that has been consumed, and has not
been cancelled unless it is a safety command. -/
theorem newCommand_isNew {s : Selection} (h : c.newCommand = some s) :
    s.command.generation ≠ 0 ∧
      (s.source ≠ .safety → c.inbox.cancellationGeneration < s.command.generation) ∧
      (s.source = .native → s.command.generation ≠ c.consumedGeneration) := by
  have hnew := (Option.filter_eq_some_iff.mp h).2
  have hconsumed : c.selectCommand.2.consumedGeneration = c.consumedGeneration := by
    unfold selectCommand
    split_ifs <;> rfl
  simp only [isNew, selectCommand_inbox, hconsumed, Bool.and_eq_true, Bool.or_eq_true,
    bne_iff_ne, beq_iff_eq, decide_eq_true_eq] at hnew
  exact ⟨hnew.1.1, fun hsource => hnew.1.2.resolve_left hsource,
    fun hsource => hnew.2.resolve_left (not_not.mpr hsource)⟩

variable {c}

theorem keepsQueue_executeStop (s : Selection) : KeepsQueue c (c.executeStop p s) := by
  have hcancelled : KeepsQueue c (c.cancelled s) := by
    unfold cancelled
    split_ifs
    · exact (keepsQueue_cancelPendingTrajectory c _).trans (.dropped rfl rfl rfl rfl rfl rfl)
    · exact .refl c
  refine hcancelled.trans ?_
  have hstops := stops_executeStop p c s
  generalize c.executeStop p s = c' at hstops ⊢
  cases hstops with
  | hold => exact .of_eq rfl rfl rfl
  | brake => exact .of_eq rfl rfl rfl
  | softStop => exact .dropped rfl rfl rfl rfl rfl rfl

/-- A command that is executed consumes at most the last native command. -/
theorem keepsQueue_execute {s : Selection}
    (hs : s.source = .native → s.command.generation = c.inbox.commandGeneration) :
    KeepsQueue c (c.execute p i s).2 := by
  have hconsume : KeepsQueue c (c.consume s) := by
    unfold consume
    split_ifs with hnative
    · exact ⟨rfl, Or.inr (hs hnative), rfl, Or.inl ⟨rfl, rfl⟩, fun h => ⟨h, rfl⟩⟩
    · exact .refl c
  refine hconsume.trans ?_
  have hexecutes := executes p i c s
  generalize (c.execute p i s).2 = c' at hexecutes ⊢
  cases hexecutes with
  | stop => exact keepsQueue_executeStop p s
  | waits => exact .of_eq rfl rfl rfl
  | jog =>
    unfold executeJog
    dsimp only
    split_ifs <;> exact .of_eq rfl rfl rfl
  | stream => exact .of_eq rfl rfl rfl
  | gate => exact .dropped rfl rfl rfl rfl rfl rfl
  | nothing => exact .refl _

/-- Only a command that asks for a motion joins the brake gate. -/
theorem execute_waits {s : Selection} {command : MotionCommand}
    (h : (c.execute p i s).2.Waits command) :
    c.Waits command ∨ (command = s.command ∧ s.command.type.isMotion = true) := by
  by_cases hmotion : s.command.type.isMotion = true
  · exact ((execute_spec p i c s).2 command h).imp id fun heq => ⟨heq, hmotion⟩
  · refine Or.inl ((keepsCommands_consume c s).waits command ?_)
    have hexecutes := executes p i c s
    generalize (c.execute p i s).2 = c' at hexecutes h
    have hstops (hnone : s.command.type ≠ .none) :=
      CommandType.stops_of_not_isMotion (eq_false_of_ne_true hmotion) hnone
    cases hexecutes with
    | stop => exact (keepsCommands_executeStop p _ s).waits command h
    | waits hstop hnone => exact absurd (hstops hnone) hstop
    | jog htype =>
      rw [htype] at hmotion
      exact absurd rfl hmotion
    | stream htype =>
      rw [htype] at hmotion
      exact absurd rfl hmotion
    | gate hstop hnone => exact absurd (hstops hnone) hstop
    | nothing => exact h

/-! ## Commands that begin a motion -/

/-- The generation of a command behind the brake gate.  A trajectory has its own. -/
def generationOf (c : LiftController otg) (command : MotionCommand) : ℕ :=
  if command.type = .trajectory then c.trajectories.activeGeneration else command.generation

/-- The generations that a cycle acts on to begin a motion. -/
inductive BeginsMotion (p : LiftParameters) (c : LiftController otg) (i : UpdateInput) : ℕ → Prop
  /-- A command enters the brake gate, waits there or changes the motion that is under way. -/
  | executed {s : Selection} (h : (c.update p i).executed = some s)
    (hmotion : s.command.type.isMotion = true) : BeginsMotion p c i s.command.generation
  /-- A trajectory is taken over. -/
  | trajectory (hfinite : i.state.finite = true) (hestop : c.driver.estopLatched = false)
    (h : c.takesTrajectory i = true) : BeginsMotion p c i c.trajectories.pendingGeneration
  /-- The motion of the command behind the brake gate begins. -/
  | started {command : MotionCommand} (h : (c.update p i).started = some command)
    (hmoves : (c.update p i).controller.mode.moves = true) :
    BeginsMotion p c i ((c.modeStage p i).generationOf command)

variable {g : ℕ}

/-- The native command is no motion, is above a generation, or has been consumed or cancelled. -/
def NativeDone (g : ℕ) (c : LiftController otg) : Prop :=
  c.inbox.commandBuffer.type.isMotion = true → c.inbox.commandBuffer.generation ≤ g →
    c.inbox.commandBuffer.generation = c.consumedGeneration ∨
      c.inbox.commandBuffer.generation ≤ c.inbox.cancellationGeneration

/-- What waits behind the brake gate is above a generation.  A trajectory that has been dropped
meanwhile will not begin. -/
def GateNewer (g : ℕ) (c : LiftController otg) : Prop :=
  ∀ command, c.Waits command →
    (command.type = .trajectory → c.trajectories.active.isSome = true) →
      g < c.generationOf command

/-- The pending trajectory is above a generation, or has been consumed or cancelled. -/
def TrajectoryDone (g : ℕ) (c : LiftController otg) : Prop :=
  c.trajectories.pendingGeneration ≤ g → c.trajectories.pending = none ∨
    c.trajectories.consumedGeneration = c.trajectories.pendingGeneration ∨
      c.trajectories.pendingGeneration ≤ c.inbox.cancellationGeneration

/-- No command up to a generation can begin a motion any more: it has been consumed or cancelled.
At the emergency stop the native command is going to be consumed. -/
structure OnlyNewer (g : ℕ) (c : LiftController otg) : Prop where
  numbered : Numbered c
  bound : g ≤ c.inbox.motionGeneration
  native : c.mode = .estop ∨ NativeDone g c
  heavy : c.inbox.heavyCommandBuffer.type.isMotion = true →
    c.inbox.heavyCommandBuffer.generation ≤ g →
      c.consumedHeavyCommandGeneration = c.inbox.heavyCommandGeneration ∨
        c.inbox.heavyCommandBuffer.generation ≤ c.inbox.cancellationGeneration
  trajectory : TrajectoryDone g c
  gate : GateNewer g c

theorem NativeDone.keep (hc : Numbered c) (h : NativeDone g c) (hq : KeepsQueue c c') :
    NativeDone g c' := by
  unfold NativeDone
  rw [hq.inbox]
  intro hmotion hold
  rcases hq.consumed with hsame | hconsumed
  · rw [hsame]
    exact h hmotion hold
  · rw [hconsumed]
    exact Or.inl hc.command

theorem TrajectoryDone.keep (h : TrajectoryDone g c) (hq : KeepsQueue c c') :
    TrajectoryDone g c' := by
  unfold TrajectoryDone
  rw [hq.pendingGeneration, hq.inbox]
  intro hold
  rcases hq.pending with ⟨hpending, hconsumed⟩ | hconsumed
  · rw [hpending, hconsumed]
    exact h hold
  · exact Or.inr (Or.inl hconsumed)

theorem GateNewer.keep (h : GateNewer g c)
    (hkeep : ∀ command, c'.Waits command → c.Waits command) (hq : KeepsQueue c c') :
    GateNewer g c' := by
  intro command hwaits hactive
  have hbefore := h command (hkeep command hwaits)
  unfold generationOf at hbefore ⊢
  split_ifs at hbefore ⊢ with htype
  · obtain ⟨hsome, hgeneration⟩ := hq.active (hactive htype)
    rw [hgeneration]
    exact hbefore fun _ => hsome
  · exact hbefore fun htrajectory => absurd htrajectory htype

/-! ## A cycle -/

theorem OnlyNewer.takes (h : OnlyNewer g c) (htakes : c.takesTrajectory i = true) :
    g < c.trajectories.pendingGeneration := by
  obtain ⟨hnew, hlive, hsome⟩ := takesTrajectory_spec i c htakes
  by_contra hold
  rcases h.trajectory (not_lt.mp hold) with hnone | hconsumed | hcancelled
  · exact hsome hnone
  · exact hnew hconsumed
  · exact absurd hlive (not_lt.mpr hcancelled)

/-- Behind the intake of a cycle the native command is consumed, and the brake gate holds what it
has held or a trajectory that is newer. -/
theorem OnlyNewer.intake (h : OnlyNewer g c) :
    NativeDone g (c.intake p i) ∧ GateNewer g (c.intake p i) := by
  set d := (c.leaveEstop p).observeLeaseGate with hd
  have hqueue : KeepsQueue c d := (keepsQueue_leaveEstop p c).trans (.of_eq rfl rfl rfl)
  have hdone : NativeDone g d := by
    rcases h.native with hestop | hdone
    · intro _ _
      refine Or.inl ?_
      have hconsumed : d.consumedGeneration = c.inbox.commandGeneration := by
        rw [hd]
        unfold leaveEstop observeLeaseGate
        rw [if_pos hestop]
        rfl
      rw [hconsumed, hqueue.inbox]
      exact h.numbered.command
    · exact hdone.keep h.numbered hqueue
  have hgate : GateNewer g d :=
    h.gate.keep (fun command hw => (keepsCommands_leaveEstop p c).waits command hw) hqueue
  have htrajectories : d.trajectories = c.trajectories := by
    rw [hd]
    unfold leaveEstop observeLeaseGate
    split_ifs <;> rfl
  show NativeDone g (d.takeTrajectory p i) ∧ GateNewer g (d.takeTrajectory p i)
  rcases takeTrajectory_cases p i d with ⟨-, hq, hkeep⟩ | ⟨htakes, trajectory, hbegin⟩
  · exact ⟨hdone.keep (h.numbered.of_inbox hqueue.inbox) hq, hgate.keep hkeep.waits hq⟩
  · rw [hbegin]
    refine ⟨hdone, fun command hwaits _ => ?_⟩
    have htakes' : c.takesTrajectory i = true := by
      unfold takesTrajectory newTrajectory at htakes ⊢
      rw [htrajectories, hqueue.inbox] at htakes
      exact htakes
    obtain rfl : trajectoryCommand = command := hwaits.2.2
    show g < d.trajectories.pendingGeneration
    rw [htrajectories]
    exact h.takes i htakes'

/-- The command of a cycle is newer when it asks for a motion. -/
theorem OnlyNewer.executed (h : OnlyNewer g c) {s : Selection}
    (hs : ((c.readStateInterfaces i).intake p i).newCommand = some s)
    (hexecuted : (c.update p i).executed = some s) (hmotion : s.command.type.isMotion = true) :
    s.command.type ≠ .trajectory ∧ g < s.command.generation := by
  have hread : OnlyNewer g (c.readStateInterfaces i) :=
    { h with numbered := h.numbered.of_inbox rfl }
  obtain ⟨hdone, -⟩ := hread.intake p i
  obtain ⟨hnumber, hlive, hnew⟩ := newCommand_isNew _ hs
  rw [intake_inbox] at hlive
  rcases update_executed p i c hexecuted with ⟨-, hcommand⟩ | ⟨hsource, hcommand, -, hpending⟩ |
    ⟨hsource, hcommand⟩
  · rw [hcommand] at hmotion hnumber
    rcases h.numbered.safetyType hnumber with htype | htype <;> rw [htype] at hmotion <;>
      cases hmotion
  · have hlive := hlive (by rw [hsource]; rintro ⟨⟩)
    rw [hcommand] at hmotion hlive ⊢
    refine ⟨h.numbered.heavyType, ?_⟩
    by_contra hold
    rcases h.heavy hmotion (not_lt.mp hold) with hconsumed | hcancelled
    · exact hpending hconsumed.symm
    · exact absurd hlive (not_lt.mpr hcancelled)
  · have hlive := hlive (by rw [hsource]; rintro ⟨⟩)
    have hnew := hnew hsource
    rw [hcommand] at hmotion hlive hnew ⊢
    refine ⟨h.numbered.commandType, ?_⟩
    by_contra hold
    unfold NativeDone at hdone
    rw [intake_inbox] at hdone
    rcases hdone hmotion (not_lt.mp hold) with hconsumed | hcancelled
    · exact hnew hconsumed
    · exact absurd hlive (not_lt.mpr hcancelled)

/-- A cycle that takes its commands in reaches its mode with nothing but newer commands behind the
brake gate. -/
theorem OnlyNewer.dispatch (h : OnlyNewer g c)
    (hrun : c.update p i = ((c.readStateInterfaces i).intake p i).runCycle p i) :
    KeepsQueue ((c.readStateInterfaces i).intake p i)
        (((c.readStateInterfaces i).intake p i).dispatch p i).2 ∧
      GateNewer g (((c.readStateInterfaces i).intake p i).dispatch p i).2 := by
  have hread : OnlyNewer g (c.readStateInterfaces i) :=
    { h with numbered := h.numbered.of_inbox rfl }
  obtain ⟨-, hgate⟩ := hread.intake p i
  have hnumbered := h.numbered.of_inbox (intake_inbox p i (c.readStateInterfaces i))
  have hexecuted (s : Selection)
      (hs : ((c.readStateInterfaces i).intake p i).newCommand = some s) :=
    h.executed p i hs (by rw [hrun]; exact hs)
  generalize (c.readStateInterfaces i).intake p i = d at hgate hnumbered hexecuted ⊢
  have hselect : KeepsQueue d d.selectCommand.2 := by
    unfold selectCommand
    split_ifs <;> exact .of_eq rfl rfl rfl
  have hselected : GateNewer g d.selectCommand.2 :=
    hgate.keep (fun command => (selectCommand_waits d command).mp) hselect
  unfold LiftController.dispatch
  split
  · rename_i s hs
    have hnative : s.source = .native →
        s.command.generation = d.selectCommand.2.inbox.commandGeneration := by
      intro hsource
      rw [hselect.inbox, ← hnumbered.command]
      rcases selectCommand_cases d (newCommand_selected d hs) with ⟨hother, -⟩ | ⟨hother, -⟩ |
        ⟨-, hcommand⟩
      · cases hother.symm.trans hsource
      · cases hother.symm.trans hsource
      · rw [hcommand]
    have hq := keepsQueue_execute p i hnative
    refine ⟨hselect.trans hq, fun command hwaits hactive => ?_⟩
    rcases execute_waits p i hwaits with hbefore | ⟨rfl, hmotion⟩
    · unfold generationOf
      split_ifs with htype
      · obtain ⟨hsome, hgeneration⟩ := hq.active (hactive htype)
        have hnewer := hselected command hbefore fun _ => hsome
        rw [generationOf, if_pos htype] at hnewer
        exact hgeneration ▸ hnewer
      · have hnewer := hselected command hbefore fun htrajectory => absurd htrajectory htype
        rw [generationOf, if_neg htype] at hnewer
        exact hnewer
    · obtain ⟨htype, hnewer⟩ := hexecuted s hs hmotion
      rw [generationOf, if_neg htype]
      exact hnewer
  · exact ⟨hselect, hselected⟩

/-- The cycle that releases a command from the brake gate starts its motion. -/
theorem brakeGateCycle_started (streamSelected : Bool) {command : MotionCommand}
    (h : (c.brakeGateCycle p i streamSelected).started = some command) :
    c.released = some command ∧ (c.brakeGateCycle p i streamSelected).controller =
      if (c.startGatedMotion p i.now).mode = .brakeGate then
        (c.startGatedMotion p i.now).showProfile
      else c.startGatedMotion p i.now := by
  unfold brakeGateCycle at h ⊢
  dsimp only at h ⊢
  by_cases htimeout : c.jogGateTimedOut p i = true
  · rw [if_pos htimeout] at h
    cases h
  rw [if_neg htimeout] at h ⊢
  by_cases hready : c.driverGateReady p i.now = true
  · rw [if_pos hready] at h ⊢
    by_cases hfirst : c.gateStableSince = 0
    · rw [if_pos hfirst] at h
      cases h
    rw [if_neg hfirst] at h ⊢
    by_cases hstable : c.gateStable p i = true
    · rw [if_pos hstable] at h ⊢
      exact ⟨h, rfl⟩
    · rw [if_neg hstable] at h
      cases h
  · rw [if_neg hready] at h
    cases h

/-- A cycle in the brake gate that leads into a motion releases a command. -/
theorem released_of_moves (streamSelected : Bool) (hgate : c.mode = .brakeGate)
    (hmoves : (c.brakeGateCycle p i streamSelected).controller.mode.moves = true) :
    ∃ command, (c.brakeGateCycle p i streamSelected).started = some command := by
  have hstuck (h : c.released = none) : c.startGatedMotion p i.now = c := by
    unfold released at h
    split_ifs at h with hvalid
    unfold startGatedMotion
    rw [if_pos]
    by_contra hnot
    rw [not_or, not_not] at hnot
    exact hvalid hnot
  unfold brakeGateCycle at hmoves ⊢
  dsimp only at hmoves ⊢
  by_cases htimeout : c.jogGateTimedOut p i = true
  · rw [if_pos htimeout] at hmoves
    cases hmoves
  rw [if_neg htimeout] at hmoves ⊢
  have hwaits {mode : Mode} (hmode : mode = .brakeGate) : ¬ mode.moves = true := by
    rw [hmode]
    rintro ⟨⟩
  by_cases hready : c.driverGateReady p i.now = true
  · rw [if_pos hready] at hmoves ⊢
    by_cases hfirst : c.gateStableSince = 0
    · rw [if_pos hfirst] at hmoves
      exact absurd hmoves (hwaits hgate)
    rw [if_neg hfirst] at hmoves ⊢
    by_cases hstable : c.gateStable p i = true
    · rw [if_pos hstable] at hmoves ⊢
      refine Option.ne_none_iff_exists'.mp fun hnone => ?_
      dsimp only at hmoves hnone
      rw [hstuck hnone, if_pos hgate] at hmoves
      exact hwaits hgate hmoves
    · rw [if_neg hstable] at hmoves
      exact absurd hmoves (hwaits hgate)
  · rw [if_neg hready] at hmoves
    exact absurd hmoves (hwaits hgate)

/-- A trajectory only begins when it has not been dropped meanwhile. -/
theorem active_of_moves (streamSelected : Bool) {command : MotionCommand}
    (h : (c.runMode p i streamSelected).started = some command)
    (htype : command.type = .trajectory)
    (hmoves : (c.runMode p i streamSelected).controller.mode.moves = true) :
    c.trajectories.active.isSome = true := by
  unfold runMode at h hmoves
  split_ifs at h with hmode
  rw [if_pos hmode] at hmoves
  obtain ⟨hreleased, hcontroller⟩ := brakeGateCycle_started p i streamSelected h
  unfold released at hreleased
  split_ifs at hreleased with hvalid
  obtain rfl := Option.some_inj.mp hreleased
  have hstart : c.startGatedMotion p i.now = c.startGatedCommand p i.now c.gatedCommand := by
    unfold startGatedMotion
    rw [if_neg]
    rintro (hinvalid | hlatched)
    · exact hinvalid hvalid.1
    · exact hvalid.2 hlatched
  by_contra hdropped
  have hnone : c.trajectories.active = none := Option.not_isSome_iff_eq_none.mp hdropped
  have hstops : (c.startGatedCommand p i.now c.gatedCommand).mode = .softStop := by
    unfold startGatedCommand
    rw [htype]
    dsimp only
    unfold startTrajectoryPoint
    dsimp only
    rw [hnone]
    rfl
  rw [hcontroller, hstart, hstops, if_neg (by rintro ⟨⟩), hstops] at hmoves
  cases hmoves

/-- Every motion begins with a command: no cycle leads into one without a generation. -/
theorem begins_of_moves (hmoves : (c.update p i).controller.mode.moves = true)
    (hnew : (c.update p i).controller.mode ≠ c.mode) : ∃ n, BeginsMotion p c i n := by
  obtain ⟨⟨⟨hfinite, hestop, hgate⟩, -⟩, -⟩ := update_moves p i c hmoves hnew
  have hrun := update_run p i c hfinite hestop
  have hran :
      (c.modeStage p i).runMode p i (((c.readStateInterfaces i).intake p i).dispatch p i).1 =
      (c.modeStage p i).brakeGateCycle p i
        (((c.readStateInterfaces i).intake p i).dispatch p i).1 := by
    unfold runMode
    rw [if_pos hgate]
  have hmoves' := hmoves
  rw [hrun] at hmoves'
  have hcycle : ((c.modeStage p i).brakeGateCycle p i
      (((c.readStateInterfaces i).intake p i).dispatch p i).1).controller.mode.moves = true := by
    rw [← hran]
    rcases keepsWindow_runCycle p i ((c.readStateInterfaces i).intake p i) with
      hrest | ⟨hmode, -⟩
    · cases (Mode.not_rests_of_moves hmoves').symm.trans hrest
    · exact hmode ▸ hmoves'
  obtain ⟨command, hstarted⟩ := released_of_moves p i _ hgate hcycle
  refine ⟨(c.modeStage p i).generationOf command, .started ?_ hmoves⟩
  rw [hrun, ← hstarted, ← hran]
  rfl

/-- A cycle acts on newer commands only. -/
theorem OnlyNewer.begins (h : OnlyNewer g c) {n : ℕ} (hn : BeginsMotion p c i n) : g < n := by
  have hrunning {command : MotionCommand} (hstarted : (c.update p i).started = some command) :
      c.update p i = ((c.readStateInterfaces i).intake p i).runCycle p i := by
    rcases update_cases p i c with ⟨-, -, hnone⟩ | hrun
    · rw [hnone] at hstarted
      cases hstarted
    · exact hrun
  cases hn with
  | executed hexecuted hmotion =>
    rcases update_cases p i c with ⟨-, hnone, -⟩ | hrun
    · rw [hnone] at hexecuted
      cases hexecuted
    · exact (h.executed p i (by rw [hrun] at hexecuted; exact hexecuted) hexecuted hmotion).2
  | trajectory hfinite hestop htakes => exact h.takes i htakes
  | @started command hstarted hmoves =>
    have hrun := hrunning hstarted
    have hgate : GateNewer g (c.modeStage p i) :=
      (h.dispatch p i hrun).2.keep (keepsCommands_checkDriverGate p i _).waits
        (keepsQueue_checkDriverGate p i _)
    rw [hrun] at hstarted hmoves
    have hwaits := started_waits p i (c.modeStage p i) _ hstarted
    refine hgate command hwaits fun htype => active_of_moves p i _ hstarted htype ?_
    rcases keepsWindow_runCycle p i ((c.readStateInterfaces i).intake p i) with
      hrest | ⟨hmode, -⟩
    · cases (Mode.not_rests_of_moves hmoves).symm.trans hrest
    · exact hmode ▸ hmoves

theorem OnlyNewer.intake_trajectory (h : OnlyNewer g c) : TrajectoryDone g (c.intake p i) := by
  set d := (c.leaveEstop p).observeLeaseGate
  have hdone : TrajectoryDone g d :=
    h.trajectory.keep ((keepsQueue_leaveEstop p c).trans (.of_eq rfl rfl rfl))
  show TrajectoryDone g (d.takeTrajectory p i)
  rcases takeTrajectory_cases p i d with ⟨-, hq, -⟩ | ⟨-, trajectory, hbegin⟩
  · exact hdone.keep hq
  · rw [hbegin]
    exact fun _ => Or.inr (Or.inl rfl)

/-- A cycle leaves nothing but newer commands.  Where the state interfaces are not finite it may
leave the emergency stop without consuming the native command. -/
theorem OnlyNewer.update (h : OnlyNewer g c)
    (hfault : i.state.finite = false → c.mode = .estop → NativeDone g c) :
    OnlyNewer g (c.update p i).controller := by
  have hinbox := update_inbox p i c
  have hheavy : (c.update p i).controller.inbox.heavyCommandBuffer.type.isMotion = true →
      (c.update p i).controller.inbox.heavyCommandBuffer.generation ≤ g →
      (c.update p i).controller.consumedHeavyCommandGeneration =
          (c.update p i).controller.inbox.heavyCommandGeneration ∨
        (c.update p i).controller.inbox.heavyCommandBuffer.generation ≤
          (c.update p i).controller.inbox.cancellationGeneration := by
    rw [hinbox]
    intro hmotion hold
    rcases update_consumedHeavy p i c with hsame | hconsumed
    · rw [hsame]
      exact h.heavy hmotion hold
    · exact Or.inl hconsumed
  have hbound : g ≤ (c.update p i).controller.inbox.motionGeneration := by
    rw [hinbox]
    exact h.bound
  have hassemble (hnative : (c.update p i).controller.mode = .estop ∨
      NativeDone g (c.update p i).controller)
      (htrajectory : TrajectoryDone g (c.update p i).controller)
      (hgate : GateNewer g (c.update p i).controller) : OnlyNewer g (c.update p i).controller :=
    ⟨h.numbered.of_inbox hinbox, hbound, hnative, hheavy, htrajectory, hgate⟩
  by_cases hfinite : i.state.finite = true
  · cases hestop : c.driver.estopLatched with
    | true =>
      rw [update_estop p i c hfinite hestop] at hassemble ⊢
      have hkeep := keepsCommands_estopCycle p i (c.readStateInterfaces i)
      have hmode : ((c.readStateInterfaces i).estopCycle p i).mode = .estop := by
        unfold estopCycle dropPendingTrajectory
        split_ifs <;> rfl
      have hq : KeepsQueue c ((c.readStateInterfaces i).estopCycle p i) := by
        unfold estopCycle
        dsimp only
        exact (KeepsQueue.dropped rfl rfl rfl rfl rfl rfl :
          KeepsQueue c { c.readStateInterfaces i with
            mode := .estop
            gatedCommandValid := false
            trajectories := { c.trajectories with active := none } }).trans
          ((keepsQueue_dropPendingTrajectory i _).trans
            ⟨rfl, Or.inr rfl, rfl, Or.inl ⟨rfl, rfl⟩, fun h => ⟨h, rfl⟩⟩)
      exact hassemble (Or.inl hmode) (h.trajectory.keep hq)
        (h.gate.keep (fun command hw => hkeep.waits command hw) hq)
    | false =>
      have hrun := update_run p i c hfinite hestop
      rw [hrun] at hassemble ⊢
      have hread : OnlyNewer g (c.readStateInterfaces i) :=
        { h with numbered := h.numbered.of_inbox rfl }
      obtain ⟨hdone, -⟩ := hread.intake p i
      obtain ⟨hq, hgate⟩ := h.dispatch p i hrun
      have hnumbered := h.numbered.of_inbox (intake_inbox p i (c.readStateInterfaces i))
      have hrest := hq.trans (keepsQueue_runCycle p i ((c.readStateInterfaces i).intake p i))
      exact hassemble (Or.inr (hdone.keep hnumbered hrest))
        ((hread.intake_trajectory p i).keep hrest)
        (hgate.keep (keepsCommands_runCycle p i _).waits (keepsQueue_runCycle p i _))
  · rw [update_nonFinite p i c (eq_false_of_ne_true hfinite)] at hassemble ⊢
    have hkeep := keepsCommands_nonFiniteFault p (c.readStateInterfaces i)
    have hq : KeepsQueue c ((c.readStateInterfaces i).nonFiniteFault p) := by
      have hfail := keepsQueue_failPendingHold (c.readStateInterfaces i) .motionProfile
      exact ⟨hfail.inbox, hfail.consumed, hfail.pendingGeneration, hfail.pending, hfail.active⟩
    have hdone : NativeDone g c :=
      h.native.elim (hfault (eq_false_of_ne_true hfinite)) id
    exact hassemble (Or.inr (hdone.keep h.numbered hq)) (h.trajectory.keep hq)
      (h.gate.keep (fun command hw => hkeep.waits command hw) hq)

/-! ## The other events -/

/-- A callback adds newer commands only. -/
theorem OnlyNewer.callback (h : OnlyNewer g c) (hpublish : Publishes c c')
    (hloop : KeepsLoop c c') : OnlyNewer g c' := by
  have hcancelled {n : ℕ} (hn : n ≤ c.inbox.cancellationGeneration) :
      n ≤ c'.inbox.cancellationGeneration := hn.trans hpublish.cancellation
  refine ⟨hpublish.numbered, h.bound.trans hpublish.motion, ?_, ?_, ?_, ?_⟩
  · rw [hloop.mode]
    refine h.native.imp id fun hdone hmotion hold => ?_
    rcases hpublish.command with hsame | hnew
    · rw [hsame] at hmotion hold ⊢
      rw [hloop.consumed]
      exact (hdone hmotion hold).imp id hcancelled
    · exact absurd (hnew.trans_le hold) (not_lt.mpr h.bound)
  · intro hmotion hold
    rcases hpublish.heavy with hsame | hnew
    · have hgeneration : c'.inbox.heavyCommandGeneration = c.inbox.heavyCommandGeneration := by
        rw [← hpublish.numbered.heavy, hsame, h.numbered.heavy]
      rw [hsame] at hmotion hold ⊢
      rw [hloop.consumedHeavy, hgeneration]
      exact (h.heavy hmotion hold).imp id hcancelled
    · exact absurd (hnew.trans_le hold) (not_lt.mpr h.bound)
  · intro hold
    rcases hpublish.pending with hsame | hnone | hnew
    · rw [hsame] at hold ⊢
      exact (h.trajectory hold).imp id (Or.imp id hcancelled)
    · exact Or.inl hnone
    · exact absurd (hnew.trans_le hold) (not_lt.mpr h.bound)
  · intro command hwaits hactive
    have hbefore : c.Waits command := by
      obtain ⟨hmode, hvalid, hcommand⟩ := hwaits
      exact ⟨hloop.mode ▸ hmode, hloop.gatedCommandValid ▸ hvalid, hloop.gatedCommand ▸ hcommand⟩
    rw [hloop.activeTrajectory] at hactive
    have hnewer := h.gate command hbefore hactive
    unfold generationOf at hnewer ⊢
    rw [hloop.activeGeneration]
    exact hnewer

/-- An activation cancels everything. -/
theorem OnlyNewer.fresh (h : OnlyNewer g c) (hfresh : Fresh c') (hinbox : Numbered c')
    (hmotion : c'.inbox.motionGeneration = c.inbox.motionGeneration) : OnlyNewer g c' := by
  have hcancelled {n : ℕ} (hn : n ≤ g) : n ≤ c'.inbox.cancellationGeneration := by
    rw [hfresh.cancelled, hmotion]
    exact hn.trans h.bound
  refine ⟨hinbox, ?_, Or.inr fun _ hold => Or.inr (hcancelled hold),
    fun _ hold => Or.inr (hcancelled hold), fun _ => Or.inl hfresh.pending,
    fun command hwaits => ?_⟩
  · rw [hmotion]
    exact h.bound
  · cases hfresh.mode.symm.trans hwaits.1

variable {p} in
theorem motionGeneration_activate {state : StateInterfaces}
    (h : c.step p (.activate state) = some c') :
    c'.inbox.motionGeneration = c.inbox.motionGeneration := by
  dsimp only [LiftController.step] at h
  split_ifs at h
  obtain rfl := Option.some_inj.mp h
  unfold onActivate
  dsimp only
  split <;> rfl

/-- Every step keeps the buffers numbered. -/
theorem numbered_step (hc : Numbered c) {e : Event} (h : c.step p e = some c') : Numbered c' := by
  by_cases he : e.callback = true
  · exact (publishes_step p hc he h).numbered
  · cases e with
    | update i =>
      obtain ⟨-, rfl⟩ := update_of_step p c h
      exact hc.of_inbox (update_inbox p i c)
    | activate state =>
      dsimp only [LiftController.step] at h
      split_ifs at h
      obtain rfl := Option.some_inj.mp h
      unfold onActivate
      dsimp only
      split
      · exact hc.of_inbox rfl
      · exact
          { hc with
            cancelled := le_rfl
            safetyCancelled := hc.safetyCancelled.trans hc.cancelled }
    | deactivate state =>
      dsimp only [LiftController.step] at h
      split_ifs at h
      obtain rfl := Option.some_inj.mp h
      exact { hc with }
    | _ => exact absurd rfl he

/-- Every step leaves nothing but newer commands, with the exception of a cycle that leaves the
emergency stop without consuming the native command. -/
theorem OnlyNewer.step (h : OnlyNewer g c) {e : Event} (hstep : c.step p e = some c')
    (hfault : ∀ i, e = .update i → i.state.finite = false → c.mode = .estop → NativeDone g c) :
    OnlyNewer g c' := by
  by_cases he : e.callback = true
  · exact h.callback (publishes_step p h.numbered he hstep) (keepsLoop_step p c he hstep)
  · cases e with
    | update i =>
      obtain ⟨-, rfl⟩ := update_of_step p c hstep
      exact h.update p i (hfault i rfl)
    | activate state =>
      have hnumbered := numbered_step p h.numbered hstep
      have hmotion := motionGeneration_activate hstep
      rcases activate_cases p c hstep with ⟨-, hfresh⟩ | ⟨-, rfl⟩
      · exact h.fresh hfresh hnumbered hmotion
      · exact { h with numbered := hnumbered }
    | deactivate state =>
      have hnumbered := numbered_step p h.numbered hstep
      dsimp only [LiftController.step] at hstep
      split_ifs at hstep
      obtain rfl := Option.some_inj.mp hstep
      exact
        { h with
          numbered := hnumbered
          heavy := fun _ _ => Or.inl rfl }
    | _ => exact absurd rfl he

/-- Every command that begins a motion has a number. -/
theorem onlyNewer_zero {run : List Event}
    (h : Runs.exec (LiftController.step p) (configured p : LiftController otg) run = some c) :
    OnlyNewer 0 c := by
  have hinit : OnlyNewer 0 (configured p : LiftController otg) :=
    { numbered := numbered_configured p
      bound := le_rfl
      native := Or.inr fun _ _ => Or.inl rfl
      heavy := fun _ _ => Or.inl rfl
      trajectory := fun _ => Or.inl rfl
      gate := by
        rintro command ⟨⟨⟩, -⟩ }
  refine Runs.exec_invariant (I := OnlyNewer 0) (fun c e c' hc hstep => hc.step p hstep ?_) hinit h
  exact fun _ _ _ _ _ hzero => Or.inr (hzero.trans (Nat.zero_le _))

end LiftController

end Lift

end JointController
