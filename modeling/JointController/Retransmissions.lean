import JointController.AdmissionAgreement

/-!
# Retransmissions of a Heavy command

The gateway publishes the outstanding command again until both lower controllers have acknowledged
it.  A message on the internal topics may be delivered late, more than once or not at all, and an
acknowledgement may be lost.

* `HeavyLoop`, `Label`, `HeavyLoop.step`: the gateway, the two lower controllers and the
  acknowledgements in flight.
* `AnswersAgain`: a controller that has applied a generation acknowledges it again when it is
  delivered again, and executes nothing.
* `lost_ack_times_out`: one lost acknowledgement of the arm controller ends the lease.
* `OnlyLiftAsked`, `answersAgain_iff`: the condition under which the controllers answer again.
* `arm_stays_silent`: the arm controller acknowledges nothing until a newer generation arrives.
-/

namespace JointController

open Lift (LiftParameters LiftController TrajectoryGenerator UpdateInput)

/-! ## The system -/

/-- The parameters of the three components. -/
structure LoopParameters where
  gateway : Parameters
  arm : Arm.ArmParameters
  lift : LiftParameters

/-- The parameters of the launch files. -/
def launchLoop : LoopParameters := ⟨launchParameters, urdfArm, Lift.defaultParameters⟩

/-- The gateway, the two lower controllers and the acknowledgements in flight, the oldest first.
Those of the arm controller are marked `true`. -/
structure HeavyLoop (otg : TrajectoryGenerator) where
  gateway : Gateway.System
  arm : Arm.RobotController
  lift : LiftController otg
  acks : List (Bool × ℕ)

namespace HeavyLoop

/-- A step of the gateway, a delivery to one of the controllers, an acknowledgement that arrives or
is lost, or a step of a controller. -/
inductive Label where
  | gateway (l : Gateway.Label)
  /-- A message on the internal command topic is delivered, counted from the newest one. -/
  | deliverCommand (arm : Bool) (n : ℕ)
  | deliverGate (arm : Bool) (n : ℕ)
  | deliverAck (n now thread : ℕ)
  | loseAck (n : ℕ)
  | armCycle
  /-- What else the arm controller does to its command processor. -/
  | armLocal (processor : Arm.CommandProcessor)
  | armDeactivate
  | lift (e : Lift.Event)

variable {otg : TrajectoryGenerator} (k : LoopParameters) (s : HeavyLoop otg)

/-- Nothing has happened yet. -/
def initial (startedAt : ℕ) (processor : Arm.CommandProcessor) : HeavyLoop otg where
  gateway := .init startedAt
  arm := .configured processor
  lift := .configured k.lift
  acks := []

/-- A step of the gateway that no acknowledgement causes. -/
def gatewayStep (l : Gateway.Label) : Option (HeavyLoop otg) :=
  match l.action with
  | .ack _ _ => none
  | _ => (Gateway.step k.gateway s.gateway l).map fun gateway => { s with gateway := gateway }

/-- A command is delivered to the lift controller, which may acknowledge it at once. -/
def liftReceives (message : Command) : HeavyLoop otg :=
  let answer := s.lift.heavyCommandCallback k.lift message
  { s with
    lift := answer.2
    acks := s.acks ++ answer.1.toList.map fun sequence => (false, sequence) }

/-- A control cycle of the arm controller. -/
def armCycle : HeavyLoop otg :=
  let cycle := s.arm.updateHeavy k.arm
  { s with
    arm := cycle.2
    acks := s.acks ++ cycle.1.toList.map fun sequence => (true, sequence) }

/-- A control cycle of the lift controller. -/
def liftCycle (input : UpdateInput) : HeavyLoop otg :=
  let cycle := s.lift.update k.lift input
  { s with
    lift := cycle.controller
    acks := s.acks ++ cycle.acks.map fun sequence => (false, sequence) }

/-- Another event of the lift controller.  The deliveries are steps of their own. -/
def liftStep : Lift.Event → Option (HeavyLoop otg)
  | .heavyCommand _ => none
  | .leaseGate _ => none
  | .update input => if s.lift.inbox.active then some (s.liftCycle k input) else none
  | e => (s.lift.step k.lift e).map fun lift => { s with lift := lift }

/-- The step of a label. -/
def step : Label → Option (HeavyLoop otg)
  | .gateway l => s.gatewayStep k l
  | .deliverCommand true n => s.gateway.gateway.commandTopic[n]?.map fun message =>
    { s with arm := s.arm.heavyCommandCallback message }
  | .deliverCommand false n => s.gateway.gateway.commandTopic[n]?.map fun message =>
    s.liftReceives k message
  | .deliverGate true n => s.gateway.gateTopic[n]?.map fun gate =>
    { s with arm := s.arm.leaseGateCallback gate.1 }
  | .deliverGate false n => s.gateway.gateTopic[n]?.map fun gate =>
    { s with lift := s.lift.leaseGateCallback gate.1 }
  | .deliverAck n now thread => s.acks[n]?.bind fun ack =>
    (Gateway.step k.gateway s.gateway ⟨now, thread, .ack ack.1 ack.2⟩).map fun gateway =>
      { s with gateway := gateway, acks := s.acks.eraseIdx n }
  | .loseAck n => if n < s.acks.length then some { s with acks := s.acks.eraseIdx n } else none
  | .armCycle => some (s.armCycle k)
  | .armLocal processor => some { s with arm := { s.arm with processor := processor } }
  | .armDeactivate => some { s with arm := s.arm.onDeactivate }
  | .lift e => s.liftStep k e

end HeavyLoop

/-! ## The property -/

namespace Arm.RobotController

variable (r : Arm.RobotController)

/-- The generation that the controller has applied last waits in its buffer again, under an open
gate. -/
def Redelivered : Prop :=
  r.heavyLeaseActive = true ∧ r.heavyCommandGeneration ≠ r.consumedHeavyCommandGeneration ∧
    r.heavyCommandBuffer.sequence = r.lastHeavySequence ∧ r.lastHeavySequence ≠ 0

instance : Decidable r.Redelivered := inferInstanceAs (Decidable (_ ∧ _))

end Arm.RobotController

namespace Lift.LiftController

variable {otg : TrajectoryGenerator} (c : LiftController otg)

/-- A message of the generation that the controller has applied last, under an open gate. -/
def HasApplied (sequence : ℕ) : Prop :=
  c.inbox.heavyLeaseActive = true ∧ sequence = c.appliedHeavySequence ∧ sequence ≠ 0

instance (sequence : ℕ) : Decidable (c.HasApplied sequence) := inferInstanceAs (Decidable (_ ∧ _))

end Lift.LiftController

namespace HeavyLoop

variable {otg : TrajectoryGenerator} (k : LoopParameters) (s : HeavyLoop otg)

/-- A generation that a controller has applied is acknowledged again when it is delivered again,
and is not executed again.  The lift controller answers in its callback, the arm controller in the
control cycle that reads the buffer. -/
def AnswersAgain (l : Label) (s' : HeavyLoop otg) : Prop :=
  (∀ n, l = .deliverCommand false n → ∀ message ∈ s.gateway.gateway.commandTopic[n]?,
    s.lift.HasApplied message.sequence →
      s'.acks = s.acks ++ [(false, message.sequence)] ∧ s'.lift = s.lift) ∧
  (l = .armCycle → s.arm.Redelivered →
    s'.acks = s.acks ++ [(true, s.arm.lastHeavySequence)] ∧
      s'.arm.processor = s.arm.processor)

/-! ## A lost acknowledgement -/

/-- The lift stands at half its travel. -/
def halfway : LiftController.StateInterfaces := ⟨.finite (-1 / 2), 0, .finite 1⟩

/-- A lease is granted, and its first HOLD is applied by both controllers. -/
def appliedRun : List Label :=
  (Gateway.stepsAt (millis 2) 0
    ((Gateway.completeFeedback launchParameters .simulation true 0).map Gateway.Action.sample ++
      [Gateway.Action.acquire (Gateway.acquireRequest "upper"), .grant 7, .publish true,
        .publish true])).map Label.gateway ++
    [Label.lift (.activate halfway), .deliverGate true 0, .deliverGate false 0,
      .deliverCommand true 0, .deliverCommand false 0, .armCycle,
      .lift (.update ⟨halfway, millis 10, 1 / 100, true⟩)]

/-- The gateway publishes the HOLD again. -/
def retransmitRun : List Label :=
  (Gateway.stepsAt (millis 60) 0 [.tick, .publish true]).map .gateway

/-- The acknowledgement of the arm controller is lost, the one of the lift controller arrives. -/
def lostAckRun : List Label :=
  appliedRun ++ [Label.loseAck 0, .deliverAck 0 (millis 12) 0] ++ retransmitRun ++
    [Label.deliverCommand true 0, .deliverCommand false 0]

/-- The next cycle of the arm controller answers nothing, and the gateway, which waits for the
acknowledgement of a command that both controllers have applied, ends the lease. -/
theorem lost_ack_times_out :
    ∃ s s' : HeavyLoop Lift.immediateGenerator,
      Runs.exec (step launchLoop) (initial launchLoop (millis 1) restingArm) lostAckRun = some s ∧
      ¬ Runs.Throughout (step launchLoop) AnswersAgain
        (initial launchLoop (millis 1) restingArm : HeavyLoop Lift.immediateGenerator)
        (lostAckRun ++ [.armCycle]) ∧
      s.arm.lastHeavySequence = 1 ∧ s.lift.appliedHeavySequence = 1 ∧
      Runs.exec (step launchLoop) s [.armCycle, .gateway ⟨millis 203, 0, .tick⟩] = some s' ∧
      s'.gateway.gateway.lease.lastClearReason = Gateway.ackTimeoutReason := by
  obtain ⟨s, hs, -, hP⟩ := Runs.reachable_of_run (step launchLoop)
    (initial launchLoop (millis 1) restingArm : HeavyLoop Lift.immediateGenerator) lostAckRun
    (fun s => decide s.arm.Redelivered && decide (s.arm.lastHeavySequence = 1) &&
      decide (s.lift.appliedHeavySequence = 1) && decide ((s.armCycle launchLoop).acks = s.acks) &&
      (Runs.exec (step launchLoop) s [.armCycle, .gateway ⟨millis 203, 0, .tick⟩]).any fun s' =>
        decide (s'.gateway.gateway.lease.lastClearReason = Gateway.ackTimeoutReason))
    (by decide +kernel)
  simp only [Bool.and_eq_true, decide_eq_true_eq, Option.any_eq_true] at hP
  obtain ⟨⟨⟨⟨hagain, harm⟩, hlift⟩, hsilent⟩, s', hs', htimeout⟩ := hP
  refine ⟨s, s', hs, fun hall => ?_, harm, hlift, hs', htimeout⟩
  have hanswers := (Runs.Throughout.last hall hs rfl).2 rfl hagain
  have hlonger : s.acks = s.acks ++ [(true, s.arm.lastHeavySequence)] :=
    hsilent.symm.trans hanswers.1
  exact List.cons_ne_nil _ _ (List.self_eq_append_right.mp hlonger)

/-! ## The condition -/

/-- No generation that the arm controller has applied waits in its buffer again, and none that the
lift controller has applied is above the last sequence that it has admitted. -/
def OnlyLiftAsked (l : Label) : Prop :=
  (∀ n, l = .deliverCommand false n → ∀ message ∈ s.gateway.gateway.commandTopic[n]?,
    s.lift.HasApplied message.sequence → message.sequence ≤ s.lift.inbox.admittedHeavySequence) ∧
  (l = .armCycle → ¬ s.arm.Redelivered)

variable {k} {s} {s' : HeavyLoop otg}

/-- The lift controller acknowledges an applied generation again exactly when it has not forgotten
that it has admitted it. -/
theorem liftReceives_answers {message : Command} (happlied : s.lift.HasApplied message.sequence) :
    ((s.liftReceives k message).acks = s.acks ++ [(false, message.sequence)] ∧
        (s.liftReceives k message).lift = s.lift) ↔
      message.sequence ≤ s.lift.inbox.admittedHeavySequence := by
  unfold liftReceives LiftController.heavyCommandCallback
  dsimp only
  split
  · rename_i hadmitted
    rw [if_pos happlied.2.1]
    exact iff_of_true ⟨rfl, rfl⟩ hadmitted
  · rename_i hforgotten
    refine iff_of_false (fun h => ?_) hforgotten
    have hacks := h.1
    split at hacks <;> simp at hacks

/-- The arm controller never acknowledges a generation again. -/
theorem armCycle_silent (hagain : s.arm.Redelivered) : (s.armCycle k).acks = s.acks := by
  obtain ⟨hopen, hpending, hsequence, -⟩ := hagain
  unfold armCycle
  rw [s.arm.updateHeavy_old k.arm hopen hpending hsequence.le]
  exact List.append_nil _

theorem answersAgain_iff_onlyLiftAsked {l : Label} (h : s.step k l = some s') :
    s.AnswersAgain l s' ↔ s.OnlyLiftAsked l := by
  refine and_congr (forall_congr' fun n => ?_) ?_
  · refine forall_congr' fun hl => ?_
    subst hl
    obtain ⟨message, hmessage, rfl⟩ := Option.map_eq_some_iff.mp h
    refine forall_congr' fun message' => forall_congr' fun hmem =>
      forall_congr' fun happlied => ?_
    obtain rfl : message = message' := Option.some_inj.mp (hmessage.symm.trans hmem)
    exact liftReceives_answers happlied
  · refine forall_congr' fun hl => ?_
    subst hl
    obtain rfl := Option.some_inj.mp h
    refine ⟨fun hanswers hagain => ?_, fun hnone hagain => (hnone hagain).elim⟩
    have hacks := (armCycle_silent hagain).symm.trans (hanswers hagain).1
    simp at hacks

/-- The controllers answer every repeated delivery along exactly the runs in which no generation
that the arm controller has applied is delivered to it again, and no late closing of the gate makes
the lift controller forget the sequence that it has applied. -/
theorem answersAgain_iff (startedAt : ℕ) (processor : Arm.CommandProcessor) (run : List Label)
    (h : Runs.exec (step k) (initial k startedAt processor : HeavyLoop otg) run = some s) :
    Runs.Throughout (step k) AnswersAgain (initial k startedAt processor : HeavyLoop otg) run ↔
      Runs.Meets (step k) OnlyLiftAsked (initial k startedAt processor : HeavyLoop otg) run :=
  Runs.throughout_iff_meets (R := AnswersAgain) (C := OnlyLiftAsked)
    (fun _ _ _ hstep => answersAgain_iff_onlyLiftAsked hstep) h

/-- The acknowledgement of the lift controller is lost.  It alone is asked again, and the command
is complete. -/
def liftRetryRun : List Label :=
  appliedRun ++ [Label.loseAck 1, .deliverAck 0 (millis 12) 0] ++ retransmitRun ++
    [Label.deliverCommand false 0, .armCycle, .deliverAck 0 (millis 62) 0]

/-- A test of the condition. -/
def onlyLiftAskedTest (s : HeavyLoop otg) : Label → Bool
  | .deliverCommand false n => decide (∀ message ∈ s.gateway.gateway.commandTopic[n]?,
      s.lift.HasApplied message.sequence → message.sequence ≤ s.lift.inbox.admittedHeavySequence)
  | .armCycle => decide (¬ s.arm.Redelivered)
  | _ => true

theorem onlyLiftAsked_of_test (s : HeavyLoop otg) (l : Label)
    (h : s.onlyLiftAskedTest l = true) : s.OnlyLiftAsked l := by
  constructor
  · rintro n rfl
    exact of_decide_eq_true h
  · rintro rfl
    exact of_decide_eq_true h

theorem meets_liftRetryRun : Runs.Meets (step launchLoop) OnlyLiftAsked
    (initial launchLoop (millis 1) restingArm : HeavyLoop Lift.immediateGenerator) liftRetryRun :=
  Runs.meets_of_passes onlyLiftAsked_of_test (by decide +kernel)

/-- The run meets the condition, and every repeated delivery is answered. -/
theorem answersAgain_liftRetryRun :
    ∃ s, Runs.exec (step launchLoop)
        (initial launchLoop (millis 1) restingArm : HeavyLoop Lift.immediateGenerator)
        liftRetryRun = some s ∧
      s.gateway.gateway.transaction.pendingValid = false ∧
      Runs.Meets (step launchLoop) OnlyLiftAsked
        (initial launchLoop (millis 1) restingArm : HeavyLoop Lift.immediateGenerator)
        liftRetryRun ∧
      Runs.Throughout (step launchLoop) AnswersAgain
        (initial launchLoop (millis 1) restingArm : HeavyLoop Lift.immediateGenerator)
        liftRetryRun := by
  obtain ⟨s, hs, -, hP⟩ := Runs.reachable_of_run (step launchLoop)
    (initial launchLoop (millis 1) restingArm : HeavyLoop Lift.immediateGenerator) liftRetryRun
    (fun s => !s.gateway.gateway.transaction.pendingValid && decide (s.acks = []))
    (by decide +kernel)
  obtain ⟨hcomplete, -⟩ := Bool.and_eq_true_iff.mp hP
  exact ⟨s, hs, Bool.not_eq_true' _ ▸ hcomplete, meets_liftRetryRun,
    (answersAgain_iff (millis 1) restingArm _ hs).mpr meets_liftRetryRun⟩

/-! ## The silence of the arm controller -/

/-- The gate of the arm controller is open, and nothing above the sequence that it has applied last
waits in its buffer. -/
structure Settled (sequence : ℕ) (s : HeavyLoop otg) : Prop where
  gate : s.arm.heavyLeaseActive = true
  applied : s.arm.lastHeavySequence = sequence
  buffer : s.arm.heavyCommandGeneration ≠ s.arm.consumedHeavyCommandGeneration →
    s.arm.heavyCommandBuffer.sequence ≤ sequence

/-- The arm controller stays active with its gate open, and receives nothing above a sequence. -/
def NothingNewer (sequence : ℕ) (s : HeavyLoop otg) : Label → Prop
  | .deliverCommand true n => ∀ message ∈ s.gateway.gateway.commandTopic[n]?,
    message.sequence ≤ sequence
  | .deliverGate true n => ∀ gate ∈ s.gateway.gateTopic[n]?, gate.1 = true
  | .armDeactivate => False
  | _ => True

/-- The arm controller acknowledges nothing in a step. -/
def ArmSilent (s : HeavyLoop otg) (_ : Label) (s' : HeavyLoop otg) : Prop :=
  ∀ sequence, (true, sequence) ∈ s'.acks → (true, sequence) ∈ s.acks

theorem armSilent_lift {acks : List (Bool × ℕ)} {more : List ℕ} {sequence : ℕ}
    (h : (true, sequence) ∈ acks ++ more.map fun sequence => (false, sequence)) :
    (true, sequence) ∈ acks := by
  rcases List.mem_append.mp h with hold | hnew
  · exact hold
  · obtain ⟨_, _, heq⟩ := List.mem_map.mp hnew
    cases heq

/-- The lift controller cannot speak for the arm controller. -/
theorem liftStep_silent {e : Lift.Event} (h : s.liftStep k e = some s') :
    s'.arm = s.arm ∧ ArmSilent s (.lift e) s' := by
  have hevent {lift : Option (LiftController otg)}
      (h : (lift.map fun lift => { s with lift := lift }) = some s') :
      s'.arm = s.arm ∧ ArmSilent s (.lift e) s' := by
    obtain ⟨lift, -, rfl⟩ := Option.map_eq_some_iff.mp h
    exact ⟨rfl, fun _ hmem => hmem⟩
  cases e with
  | heavyCommand message => cases h
  | leaseGate data => cases h
  | update input =>
    dsimp only [liftStep] at h
    split at h
    · obtain rfl := Option.some_inj.mp h
      exact ⟨rfl, fun _ hmem => armSilent_lift hmem⟩
    · cases h
  | _ =>
    dsimp only [liftStep] at h
    exact hevent h

/-- A cycle of a settled arm controller only consumes what waits in its buffer. -/
theorem settled_armCycle {sequence : ℕ} (hs : Settled sequence s) :
    Settled sequence (s.armCycle k) ∧ (s.armCycle k).acks = s.acks := by
  unfold armCycle
  by_cases hidle : s.arm.heavyCommandGeneration = s.arm.consumedHeavyCommandGeneration
  · rw [s.arm.updateHeavy_idle k.arm hs.gate hidle]
    exact ⟨⟨hs.gate, hs.applied, hs.buffer⟩, List.append_nil _⟩
  · have hold := (hs.buffer hidle).trans_eq hs.applied.symm
    rw [s.arm.updateHeavy_old k.arm hs.gate hidle hold]
    exact ⟨⟨hs.gate, hs.applied, fun hpending => absurd rfl hpending⟩, List.append_nil _⟩

theorem settled_step {sequence : ℕ} {l : Label} (hs : Settled sequence s)
    (hl : NothingNewer sequence s l) (h : s.step k l = some s') :
    Settled sequence s' ∧ ArmSilent s l s' := by
  have hsame (harm : s'.arm = s.arm) : Settled sequence s' := by
    refine ⟨?_, ?_, ?_⟩ <;> rw [harm]
    exacts [hs.gate, hs.applied, hs.buffer]
  cases l with
  | gateway l =>
    dsimp only [step, gatewayStep] at h
    split at h
    · cases h
    · obtain ⟨gateway, -, rfl⟩ := Option.map_eq_some_iff.mp h
      exact ⟨hsame rfl, fun _ hmem => hmem⟩
  | deliverCommand arm n =>
    cases arm with
    | true =>
      obtain ⟨message, hmessage, rfl⟩ := Option.map_eq_some_iff.mp h
      exact ⟨⟨hs.gate, hs.applied, fun _ => hl message hmessage⟩, fun _ hmem => hmem⟩
    | false =>
      obtain ⟨message, -, rfl⟩ := Option.map_eq_some_iff.mp h
      exact ⟨hsame rfl, fun _ hmem => armSilent_lift hmem⟩
  | deliverGate arm n =>
    cases arm with
    | true =>
      obtain ⟨gate, hgate, rfl⟩ := Option.map_eq_some_iff.mp h
      exact ⟨⟨hl gate hgate, hs.applied, hs.buffer⟩, fun _ hmem => hmem⟩
    | false =>
      obtain ⟨gate, -, rfl⟩ := Option.map_eq_some_iff.mp h
      exact ⟨hsame rfl, fun _ hmem => hmem⟩
  | deliverAck n now thread =>
    obtain ⟨ack, -, hnext⟩ := Option.bind_eq_some_iff.mp h
    obtain ⟨gateway, -, rfl⟩ := Option.map_eq_some_iff.mp hnext
    exact ⟨hsame rfl, fun _ hmem => List.mem_of_mem_eraseIdx hmem⟩
  | loseAck n =>
    dsimp only [step] at h
    split at h
    · obtain rfl := Option.some_inj.mp h
      exact ⟨hsame rfl, fun _ hmem => List.mem_of_mem_eraseIdx hmem⟩
    · cases h
  | armCycle =>
    obtain rfl := Option.some_inj.mp h
    obtain ⟨hsettled, hacks⟩ := settled_armCycle (k := k) hs
    refine ⟨hsettled, fun _ hmem => ?_⟩
    rw [hacks] at hmem
    exact hmem
  | armLocal processor =>
    obtain rfl := Option.some_inj.mp h
    exact ⟨⟨hs.gate, hs.applied, hs.buffer⟩, fun _ hmem => hmem⟩
  | armDeactivate => exact hl.elim
  | lift e =>
    obtain ⟨harm, hsilent⟩ := liftStep_silent h
    exact ⟨hsame harm, hsilent⟩

/-- Until its gate closes or a newer generation arrives, a settled arm controller acknowledges
nothing, however often the gateway asks again. -/
theorem arm_stays_silent {sequence : ℕ} (hs : Settled sequence s) {run : List Label}
    (hrun : Runs.Meets (step k) (NothingNewer sequence) s run) :
    Runs.Throughout (step k) ArmSilent s run :=
  Runs.throughout_of_meets (I := Settled sequence)
    (fun _ _ _ hs hl h => (settled_step hs hl h).1)
    (fun _ _ _ hs hl h => (settled_step hs hl h).2) hs hrun

end HeavyLoop

end JointController
