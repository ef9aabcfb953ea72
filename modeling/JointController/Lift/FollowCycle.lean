import JointController.Lift.TrajectoryCourse
import JointController.Lift.Generations

/-!
# Heavy FOLLOW commands in a cycle

A Heavy FOLLOW command is applied by the cycle that writes its sample: the cycle that reads it while
the lift streams, or the one that releases it from the brake gate.

* `AcceptedFollow`: what the callback asks of a FOLLOW target.
* `consumedHeavy`: the Heavy command that a cycle consumes.
* `heavyAcks`, `heavyAcks_cycle`: nothing but the acknowledgements at the end of a cycle touches
  what is noted about them.
* `pendingAck`, `runCycle_acks`: the acknowledgements of a cycle.
* `runCycle_streams`: the command whose sample a streaming cycle has written.
-/

namespace JointController

namespace Lift

namespace LiftController

variable {otg : TrajectoryGenerator} (p : LiftParameters) (i : UpdateInput)
  (c : LiftController otg) {c' c'' : LiftController otg}

/-! ## An accepted target -/

/-- A streamed command with finite values and a position in the travel. -/
structure AcceptedFollow (command : MotionCommand) : Prop where
  type : command.type = .stream
  position : command.positionM.isFinite = true
  above : ¬ command.positionM < .finite p.limits.minPositionM
  below : ¬ .finite p.limits.maxPositionM < command.positionM
  velocity : command.velocityMps.isFinite = true
  acceleration : command.accelerationMps2.isFinite = true

/-- The callback accepts no other FOLLOW target. -/
theorem acceptedFollow_of_target {message : Command} {command : MotionCommand}
    (h : heavyTarget p message = some command) (htype : command.type = .stream) :
    AcceptedFollow p command := by
  unfold heavyTarget at h
  split_ifs at h with hfollow haccepted
  · obtain rfl := Option.some_inj.mp h
    unfold acceptsFollow at haccepted
    simp only [Bool.and_eq_true, Bool.not_eq_true', decide_eq_false_iff_not] at haccepted
    obtain ⟨⟨⟨⟨⟨⟨⟨-, hposition⟩, habove⟩, hbelow⟩, hvelocity⟩, -⟩, hacceleration⟩, -⟩ := haccepted
    exact ⟨rfl, hposition, habove, hbelow, hvelocity, hacceleration⟩
  · obtain rfl := Option.some_inj.mp h
    cases htype
  · obtain rfl := Option.some_inj.mp h
    cases htype

variable {p} in
/-- The sample of an accepted command is what the interfaces then show. -/
theorem AcceptedFollow.sound {command : MotionCommand} (h : AcceptedFollow p command) :
    Sound (streamSample command) :=
  ⟨h.position, h.velocity, h.acceleration, rfl⟩

/-- The interfaces ask for what a command says. -/
def AsksFor (interfaces : CommandInterfaces) (command : MotionCommand) : Prop :=
  interfaces.position = command.positionM ∧ interfaces.velocity = command.velocityMps ∧
    interfaces.acceleration = command.accelerationMps2

variable {p} in
theorem AcceptedFollow.asksFor {command : MotionCommand} (h : AcceptedFollow p command)
    {interfaces : CommandInterfaces} (hshows : Shows p interfaces (streamSample command)) :
    AsksFor interfaces command := by
  obtain ⟨hposition, hvelocity, hacceleration⟩ := hshows
  refine ⟨hposition.trans ?_, hvelocity, hacceleration⟩
  show p.limits.clampPosition command.positionM = command.positionM
  unfold LiftMotionLimits.clampPosition Double.clamp
  rw [if_neg h.above, if_neg h.below]

/-! ## What a cycle consumes -/

/-- The Heavy command that is consumed when the command of a cycle is selected. -/
def consumedHeavy : Option MotionCommand :=
  (c.selectCommand.1.filter fun s => s.source == .heavy).map Selection.command

theorem consumedHeavy_eq_some {command : MotionCommand} :
    c.consumedHeavy = some command ↔ c.selectCommand.1 = some ⟨.heavy, command⟩ := by
  unfold consumedHeavy
  rw [Option.map_eq_some_iff]
  constructor
  · rintro ⟨⟨source, command⟩, hs, rfl⟩
    obtain ⟨hselected, hsource⟩ := Option.filter_eq_some_iff.mp hs
    obtain rfl : source = .heavy := beq_iff_eq.mp hsource
    exact hselected
  · intro hselected
    exact ⟨⟨.heavy, command⟩, Option.filter_eq_some_iff.mpr ⟨hselected, rfl⟩, rfl⟩

/-- What is consumed comes from the Heavy buffer, under an open lease gate. -/
theorem consumedHeavy_spec {command : MotionCommand} (h : c.consumedHeavy = some command) :
    command = c.inbox.heavyCommandBuffer ∧ c.inbox.heavyLeaseActive = true := by
  rcases selectCommand_cases c (c.consumedHeavy_eq_some.mp h) with
    ⟨⟨⟩, -⟩ | ⟨-, hcommand, hlease, -⟩ | ⟨⟨⟩, -⟩
  exact ⟨hcommand, hlease⟩

/-- The acknowledgement that is pending once a cycle has consumed its Heavy command. -/
def pendingAck : ℕ :=
  match c.consumedHeavy with
  | some command =>
    if command.heavySequence ≠ 0 ∧ command.type = .stream then command.heavySequence
    else c.pendingHeavyFollowAckSequence
  | none => c.pendingHeavyFollowAckSequence

theorem pendingAck_of_follow {command : MotionCommand} (h : c.consumedHeavy = some command)
    (hsequence : command.heavySequence ≠ 0) (htype : command.type = .stream) :
    c.pendingAck = command.heavySequence := by
  unfold pendingAck
  rw [h]
  exact if_pos ⟨hsequence, htype⟩

theorem pendingAck_of_none (h : c.consumedHeavy = none) :
    c.pendingAck = c.pendingHeavyFollowAckSequence := by
  unfold pendingAck
  rw [h]

/-- The acknowledgement was pending before, or is that of the command that is consumed. -/
theorem pendingAck_cases : c.pendingHeavyFollowAckSequence = c.pendingAck ∨
    ∃ command, c.consumedHeavy = some command ∧ command.heavySequence = c.pendingAck := by
  unfold pendingAck
  cases c.consumedHeavy with
  | some command =>
    dsimp only
    split_ifs
    · exact Or.inr ⟨command, rfl, rfl⟩
    · exact Or.inl rfl
  | none => exact Or.inl rfl

/-! ## What is noted about the acknowledgements -/

theorem heavyAcks_intake : (c.intake p i).heavyAcks = c.heavyAcks := by
  have hestop : (c.leaveEstop p).heavyAcks = c.heavyAcks := by
    unfold leaveEstop
    split_ifs <;> rfl
  have htake (d : LiftController otg) : (d.takeTrajectory p i).heavyAcks = d.heavyAcks := by
    unfold takeTrajectory discardNative dropPendingTrajectory
    split_ifs
    · rfl
    · rfl
    · split <;> rfl
  exact (htake _).trans hestop

theorem heavyAcks_execute (s : Selection) : (c.execute p i s).2.heavyAcks = c.heavyAcks := by
  have hconsume : (c.consume s).heavyAcks = c.heavyAcks := by
    unfold consume
    split_ifs <;> rfl
  have hcancelled (d : LiftController otg) : (d.cancelled s).heavyAcks = d.heavyAcks := by
    unfold cancelled applyCancellation cancelPendingTrajectory
    split_ifs <;> rfl
  have hexecutes := executes p i c s
  generalize (c.execute p i s).2 = c' at hexecutes ⊢
  refine Eq.trans ?_ hconsume
  cases hexecutes with
  | stop =>
    refine Eq.trans ?_ (hcancelled _)
    have hstops := stops_executeStop p (c.consume s) s
    generalize (c.consume s).executeStop p s = c' at hstops ⊢
    cases hstops <;> rfl
  | waits => rfl
  | jog =>
    unfold executeJog
    dsimp only
    split_ifs <;> rfl
  | stream => rfl
  | gate => rfl
  | nothing => rfl

theorem heavyAcks_dispatch : (c.dispatch p i).2.heavyAcks = c.heavyAcks := by
  have hselect : c.selectCommand.2.heavyAcks = c.heavyAcks := by
    unfold selectCommand
    split_ifs <;> rfl
  unfold dispatch
  split
  · exact (heavyAcks_execute p i _ _).trans hselect
  · exact hselect

/-- The outcome of the mode of a cycle. -/
def ran : ModeResult otg :=
  ((c.dispatch p i).2.checkDriverGate p i).runMode p i (c.dispatch p i).1

/-- Up to its acknowledgements a cycle leaves alone what is noted about them. -/
theorem heavyAcks_cycle : ((c.ran p i).controller.finishCycle p i).heavyAcks = c.heavyAcks := by
  have hbefore : (c.beforeResync p i).heavyAcks = (c.dispatch p i).2.heavyAcks :=
    congrArg Prod.snd (notes_beforeResync p i c)
  have hresync (d : LiftController otg) : (d.applyZeroFrameResync p).heavyAcks = d.heavyAcks := by
    unfold applyZeroFrameResync
    dsimp only
    split_ifs <;> rfl
  have hwrite (d : LiftController otg) (sample : LiftMotionSample) :
      (d.writeCommandInterfaces p sample).heavyAcks = d.heavyAcks := rfl
  have hconfirm (d : LiftController otg) : (d.confirmPendingHold p).heavyAcks = d.heavyAcks :=
    congrArg Prod.snd (notes_confirmPendingHold p d)
  have hfinish : (c.ran p i).controller.finishCycle p i =
      (((c.beforeResync p i).applyZeroFrameResync p).writeCommandInterfaces p
        ((c.beforeResync p i).applyZeroFrameResync p).commandSample).confirmPendingHold p := rfl
  rw [hfinish, hconfirm, hwrite, hresync, hbefore, heavyAcks_dispatch]

/-! ## The acknowledgements of a cycle -/

/-- What the consumed command of a cycle leaves pending. -/
theorem acknowledgeConsumed_pending (h : c'.heavyAcks = c.heavyAcks) :
    (c'.acknowledgeConsumed c.selectCommand.1).2.pendingHeavyFollowAckSequence = c.pendingAck := by
  have hpending : c'.pendingHeavyFollowAckSequence = c.pendingHeavyFollowAckSequence :=
    congrArg Prod.fst h
  unfold pendingAck acknowledgeConsumed
  cases hconsumed : c.consumedHeavy with
  | some command =>
    rw [c.consumedHeavy_eq_some.mp hconsumed]
    dsimp only
    by_cases hzero : command.heavySequence = 0
    · rw [if_pos hzero, if_neg fun hboth => hboth.1 hzero]
      exact hpending
    · rw [if_neg hzero]
      by_cases htype : command.type = .stream
      · rw [if_pos htype, if_pos ⟨hzero, htype⟩]
      · rw [if_neg htype, if_neg fun hboth => htype hboth.2]
        exact hpending
  | none =>
    split
    · rename_i command hselected
      cases hconsumed.symm.trans (c.consumedHeavy_eq_some.mpr hselected)
    · exact hpending

/-- The consumed command is acknowledged at once unless it is a FOLLOW. -/
theorem acknowledgeConsumed_acks {n : ℕ} (h : n ∈ (c'.acknowledgeConsumed c.selectCommand.1).1) :
    ∃ command, c.consumedHeavy = some command ∧ command.type ≠ .stream ∧
      command.heavySequence = n := by
  unfold acknowledgeConsumed at h
  split at h
  · rename_i command hselected
    split_ifs at h with hzero htype
    · cases h
    · cases h
    · exact ⟨command, c.consumedHeavy_eq_some.mpr hselected, htype,
        (List.mem_singleton.mp h).symm⟩
  · cases h

/-- The last sequence that was acknowledged stays, or is one of those that are acknowledged. -/
theorem acknowledgeConsumed_applied (s : Option Selection) :
    (c.acknowledgeConsumed s).2.appliedHeavySequence = c.appliedHeavySequence ∨
      (c.acknowledgeConsumed s).2.appliedHeavySequence ∈ (c.acknowledgeConsumed s).1 := by
  unfold acknowledgeConsumed
  split
  · split_ifs
    · exact Or.inl rfl
    · exact Or.inl rfl
    · exact Or.inr (List.mem_singleton_self _)
  · exact Or.inl rfl

/-- A cycle up to the acknowledgement of the command that it has consumed. -/
def consumedStage : List ℕ × LiftController otg :=
  ((c.ran p i).controller.finishCycle p i).acknowledgeConsumed c.selectCommand.1

theorem consumedStage_pending :
    (c.consumedStage p i).2.pendingHeavyFollowAckSequence = c.pendingAck :=
  acknowledgeConsumed_pending c (heavyAcks_cycle p i c)

/-- A streaming cycle publishes the acknowledgement of a FOLLOW, any other one leaves it pending. -/
theorem runCycle_follow :
    ((c.runCycle p i).acks = (c.consumedStage p i).1 ∧
        (c.runCycle p i).controller = (c.consumedStage p i).2) ∨
      (c.pendingAck ≠ 0 ∧ (c.runCycle p i).controller.mode = .streaming ∧
        (c.ran p i).streamSelected = true ∧
        (c.runCycle p i).acks = (c.consumedStage p i).1 ++ [c.pendingAck] ∧
        (c.runCycle p i).controller.appliedHeavySequence = c.pendingAck) := by
  have hacks : (c.runCycle p i).acks = (c.consumedStage p i).1 ++
      ((c.consumedStage p i).2.acknowledgeFollow p i (c.ran p i).streamSelected).1 := rfl
  have hcontroller : (c.runCycle p i).controller =
      ((c.consumedStage p i).2.acknowledgeFollow p i (c.ran p i).streamSelected).2 := rfl
  have hpending := consumedStage_pending p i c
  rw [hacks, hcontroller]
  generalize c.consumedStage p i = d at hpending ⊢
  unfold acknowledgeFollow
  split_ifs with hpublishes
  · right
    obtain ⟨hnonzero, hmode, -, hselected⟩ := hpublishes
    rw [hpending] at hnonzero ⊢
    exact ⟨hnonzero, hmode, hselected, rfl, rfl⟩
  · exact Or.inl ⟨List.append_nil _, rfl⟩

/-- A cycle acknowledges the STOP or HOLD that it consumes, and a streaming cycle the FOLLOW whose
acknowledgement is pending. -/
theorem runCycle_acks {n : ℕ} (h : n ∈ (c.runCycle p i).acks) :
    (∃ command, c.consumedHeavy = some command ∧ command.type ≠ .stream ∧
        command.heavySequence = n) ∨
      (n = c.pendingAck ∧ (c.runCycle p i).controller.mode = .streaming ∧
        (c.ran p i).streamSelected = true) := by
  rcases runCycle_follow p i c with ⟨hacks, -⟩ | ⟨-, hmode, hselected, hacks, -⟩
  · rw [hacks] at h
    exact Or.inl (acknowledgeConsumed_acks c h)
  · rw [hacks] at h
    rcases List.mem_append.mp h with hconsumed | hfollow
    · exact Or.inl (acknowledgeConsumed_acks c hconsumed)
    · exact Or.inr ⟨List.mem_singleton.mp hfollow, hmode, hselected⟩

/-- Behind a cycle that does not stream the acknowledgement is still pending. -/
theorem runCycle_pending (h : (c.runCycle p i).controller.mode ≠ .streaming) :
    (c.runCycle p i).controller.pendingHeavyFollowAckSequence = c.pendingAck := by
  rcases runCycle_follow p i c with ⟨-, hcontroller⟩ | ⟨-, hmode, -⟩
  · rw [hcontroller]
    exact consumedStage_pending p i c
  · exact absurd hmode h

/-- The last sequence that was acknowledged stays, or is one of those that the cycle
acknowledges. -/
theorem runCycle_applied :
    (c.runCycle p i).controller.appliedHeavySequence = c.appliedHeavySequence ∨
      (c.runCycle p i).controller.appliedHeavySequence ∈ (c.runCycle p i).acks := by
  rcases runCycle_follow p i c with ⟨hacks, hcontroller⟩ | ⟨-, -, -, hacks, happlied⟩
  · rw [hacks, hcontroller]
    have hkeep : ((c.ran p i).controller.finishCycle p i).appliedHeavySequence =
        c.appliedHeavySequence := congrArg Prod.snd (heavyAcks_cycle p i c)
    rcases acknowledgeConsumed_applied ((c.ran p i).controller.finishCycle p i)
      c.selectCommand.1 with hsame | hnew
    · exact Or.inl (hsame.trans hkeep)
    · exact Or.inr hnew
  · rw [hacks, happlied]
    exact Or.inr (List.mem_append_right _ (List.mem_singleton_self _))

/-- A cycle ends at once at rest, without an acknowledgement, or takes its commands in and runs. -/
theorem update_acks : ((c.update p i).acks = [] ∧
      (c.update p i).controller.heavyAcks = c.heavyAcks ∧
      (c.update p i).controller.mode.rests = true) ∨
    c.update p i = ((c.readStateInterfaces i).intake p i).runCycle p i := by
  cases hfinite : i.state.finite with
  | false =>
    rw [update_nonFinite p i c hfinite]
    exact Or.inl ⟨rfl, congrArg Prod.snd (notes_failPendingHold _ .motionProfile), rfl⟩
  | true =>
    cases hestop : c.driver.estopLatched with
    | true =>
      rw [update_estop p i c hfinite hestop]
      left
      unfold estopCycle dropPendingTrajectory
      dsimp only
      split_ifs <;> exact ⟨rfl, rfl, rfl⟩
    | false => exact Or.inr (update_run p i c hfinite hestop)

theorem update_applied :
    (c.update p i).controller.appliedHeavySequence = c.appliedHeavySequence ∨
      (c.update p i).controller.appliedHeavySequence ∈ (c.update p i).acks := by
  rcases update_acks p i c with ⟨-, hacks, -⟩ | hrun
  · exact Or.inl (congrArg Prod.snd hacks)
  · rw [hrun]
    have hread : ((c.readStateInterfaces i).intake p i).appliedHeavySequence =
        c.appliedHeavySequence := congrArg Prod.snd (heavyAcks_intake p i (c.readStateInterfaces i))
    rw [← hread]
    exact runCycle_applied p i _

/-! ## The command that a cycle streams -/

/-- Only a FOLLOW command that is read while the lift streams is selected at once. -/
theorem execute_selects {s : Selection} (h : (c.execute p i s).1 = true) :
    s.command.type = .stream ∧ (c.execute p i s).2.commandSample = streamSample s.command := by
  unfold execute at h ⊢
  dsimp only at h ⊢
  generalize (if s.source = .native then { c with consumedGeneration := s.command.generation }
    else c) = d at h ⊢
  split_ifs at h ⊢ with hstop hgate hjog hstream hnone
  exact ⟨hstream.1, rfl⟩

theorem dispatch_selects (h : (c.dispatch p i).1 = true) : ∃ s, c.newCommand = some s ∧
    s.command.type = .stream ∧ (c.dispatch p i).2.commandSample = streamSample s.command := by
  unfold dispatch at h ⊢
  cases hnew : c.newCommand with
  | some s =>
    rw [hnew] at h
    exact ⟨s, rfl, execute_selects p i _ h⟩
  | none =>
    rw [hnew] at h
    cases h

/-- A command that is acted on leaves no other one behind the brake gate. -/
theorem execute_gate {s : Selection} (hnone : s.command.type ≠ .none) {command : MotionCommand}
    (h : (c.execute p i s).2.Waits command) : command = s.command := by
  have hexecutes := executes p i c s
  generalize (c.execute p i s).2 = c' at hexecutes h
  cases hexecutes with
  | stop =>
    have hrests := executeStop_rests p (c.consume s) s
    rw [h.1] at hrests
    cases hrests
  | waits => exact h.2.2.symm
  | jog htype hjog =>
    have hkeep := keepsWindow_executeJog p i (c.consume s) s.command
    rcases hkeep with hrests | ⟨hmode, -⟩
    · rw [h.1] at hrests
      cases hrests
    · cases (h.1.symm.trans hmode).trans hjog
  | stream htype hmode => cases h.1.symm.trans hmode
  | gate => exact h.2.2.symm
  | nothing htype => exact absurd htype hnone

/-- What starts as a stream from the brake gate is a streamed command, and its sample is the
setpoint. -/
theorem startGatedCommand_streams {command : MotionCommand} {now : ℕ}
    (h : (c.startGatedCommand p now command).mode = .streaming) : command.type = .stream ∧
      (c.startGatedCommand p now command).commandSample = streamSample command := by
  unfold startGatedCommand at h ⊢
  cases htype : command.type with
  | stream => exact ⟨rfl, rfl⟩
  | trajectory =>
    rw [htype] at h
    dsimp only at h
    split at h <;> cases h
  | _ =>
    rw [htype] at h
    cases h

/-- A cycle streams what it has selected, or a command that it releases from the brake gate. -/
theorem runMode_streams {streamSelected : Bool}
    (hmode : (c.runMode p i streamSelected).controller.mode = .streaming)
    (hselected : (c.runMode p i streamSelected).streamSelected = true) :
    (streamSelected = true ∧ (c.runMode p i streamSelected).controller = c) ∨
      ∃ command, c.Waits command ∧ command.type = .stream ∧
        (c.runMode p i streamSelected).controller.commandSample = streamSample command := by
  unfold runMode at hmode hselected ⊢
  by_cases hgate : c.mode = .brakeGate
  · rw [if_pos hgate] at hmode hselected ⊢
    right
    have hmoves : (c.brakeGateCycle p i streamSelected).controller.mode.moves = true := by
      rw [hmode]
      rfl
    obtain ⟨command, hstarted⟩ := released_of_moves p i streamSelected hgate hmoves
    obtain ⟨hreleased, hcontroller⟩ := brakeGateCycle_started p i streamSelected hstarted
    have hwaits := released_waits c hgate hreleased
    have hestop : ¬ c.driver.estopLatched = true := by
      unfold released at hreleased
      split_ifs at hreleased with hboth
      exact hboth.2
    have hstart : c.startGatedMotion p i.now = c.startGatedCommand p i.now command := by
      unfold startGatedMotion
      rw [if_neg (not_or.mpr ⟨not_not.mpr hwaits.2.1, hestop⟩), hwaits.2.2]
    rw [hcontroller, hstart] at hmode ⊢
    by_cases hstays : (c.startGatedCommand p i.now command).mode = .brakeGate
    · rw [if_pos hstays] at hmode
      cases hstays.symm.trans hmode
    · rw [if_neg hstays] at hmode ⊢
      obtain ⟨htype, hsample⟩ := startGatedCommand_streams p c hmode
      exact ⟨command, hwaits, htype, hsample⟩
  · rw [if_neg hgate] at hmode hselected ⊢
    left
    refine ⟨hselected, ?_⟩
    have hkeep := keepsWindow_motionCycle p i c
    have hstreams : c.mode = .streaming := by
      rcases hkeep with hrests | ⟨hsame, -⟩
      · dsimp only at hmode
        rw [hmode] at hrests
        cases hrests
      · exact hsame.symm.trans hmode
    show c.motionCycle p i = c
    unfold motionCycle
    simp [hstreams]

/-- A cycle that streams has written the sample of the FOLLOW command that it has acted on, or of
one that it has found behind the brake gate. -/
theorem runCycle_streams (hmode : (c.runCycle p i).controller.mode = .streaming)
    (hselected : (c.ran p i).streamSelected = true) : ∃ command, command.type = .stream ∧
      ((∃ s, c.newCommand = some s ∧ s.command = command) ∨ (c.dispatch p i).2.Waits command) ∧
      (Sound (streamSample command) →
        Shows p (c.runCycle p i).controller.interfaces (streamSample command)) := by
  have hbefore (d : LiftController otg) :
      Settles d ((((d.checkSample p).finishSoftStop p).checkGoal p i).applyZeroFrameResync p) :=
    (((settles_checkSample p d).trans (settles_finishSoftStop p _)).trans
      (settles_checkGoal p i _)).trans (settles_applyZeroFrameResync p _)
  obtain ⟨streamSelected, hwritten⟩ := runCycle_written p i c
  have hends : Settles (c.ran p i).controller ((c.beforeResync p i).applyZeroFrameResync p) :=
    hbefore (c.ran p i).controller
  generalize (c.beforeResync p i).applyZeroFrameResync p = d at hwritten hends
  have hstreams : d.mode = .streaming := (hwritten.mode p i).symm.trans hmode
  rcases hends.rests with hrests | ⟨hsame, -, hsample⟩
  · rw [hstreams] at hrests
    cases hrests
  have hshows {command : MotionCommand}
      (hcommand : (c.ran p i).controller.commandSample = streamSample command)
      (hsound : Sound (streamSample command)) :
      Shows p (c.runCycle p i).controller.interfaces (streamSample command) := by
    rw [(hwritten.keeps p i).interfaces, hsample, hcommand]
    exact shows_writeCommandInterfaces p d hsound
  have hgate := settles_checkDriverGate p i (c.dispatch p i).2
  rcases runMode_streams p i _ (hsame.symm.trans hstreams) hselected with
    ⟨hdispatched, hkept⟩ | ⟨command, hwaits, htype, hcommand⟩
  · obtain ⟨s, hnew, htype, hcommand⟩ := dispatch_selects p i c hdispatched
    refine ⟨s.command, htype, Or.inl ⟨s, hnew, rfl⟩, hshows ?_⟩
    have hmodeRan : (c.ran p i).controller.mode = .streaming := hsame.symm.trans hstreams
    have hran : (c.ran p i).controller = (c.dispatch p i).2.checkDriverGate p i := hkept
    rw [hran] at hmodeRan ⊢
    rcases hgate.rests with hrests | ⟨-, -, hkeeps⟩
    · rw [hmodeRan] at hrests
      cases hrests
    · exact hkeeps.trans hcommand
  · exact ⟨command, htype, Or.inr ((keepsCommands_checkDriverGate p i _).waits command hwaits),
      hshows hcommand⟩

/-- A command behind the brake gate had waited there, unless the cycle has acted on it. -/
theorem dispatch_gate {command : MotionCommand} (h : (c.dispatch p i).2.Waits command) :
    (c.newCommand = none ∧ c.Waits command) ∨
      ∃ s, c.newCommand = some s ∧ (s.command.type = .none ∨ command = s.command) := by
  unfold dispatch at h
  cases hnew : c.newCommand with
  | some s =>
    rw [hnew] at h
    refine Or.inr ⟨s, rfl, ?_⟩
    by_cases hnone : s.command.type = .none
    · exact Or.inl hnone
    · exact Or.inr (execute_gate p i _ hnone h)
  | none =>
    rw [hnew] at h
    exact Or.inl ⟨rfl, (selectCommand_waits c command).mp h⟩

end LiftController

end Lift

end JointController
