import JointController.Lift.FollowCycle
import JointController.Lift.LeaseLink

/-!
# The acknowledgement of a Heavy FOLLOW

The lift controller acknowledges a Heavy FOLLOW command in the cycle that writes its sample.  The
acknowledgement is pending while the command waits in the brake gate.

* `FollowRun`: the controller, with the FOLLOW command that it awaits and the sequences that it has
  acknowledged.
* `published`: the acknowledgements of an event.
* `Applies`: a cycle writes the sample of a FOLLOW command under its lease.
* `MeansApplied`: every acknowledgement is published by such a cycle.
* `acknowledged_unapplied`: a retransmission is acknowledged again outside of the cycles, and the
  acknowledgement of a command that was dropped is published with a stream of another source.
* `AcknowledgesFollow`, `acknowledges_follow`: what all acknowledgements are.
-/

namespace JointController

namespace Lift

open LiftController (AcceptedFollow AsksFor streamSample)

/-- The controller, the FOLLOW command whose acknowledgement is pending while it waits in the brake
gate under its lease, and the sequences that the cycles have acknowledged since the lease gate was
closed last. -/
structure FollowRun (otg : TrajectoryGenerator) where
  lift : LiftController otg
  awaited : Option MotionCommand
  acknowledged : List ℕ

namespace LiftController

variable {otg : TrajectoryGenerator} (p : LiftParameters) (i : UpdateInput)
  (c : LiftController otg)

/-- The Heavy command that a cycle consumes. -/
def cycleConsumes : Option MotionCommand := ((c.readStateInterfaces i).intake p i).consumedHeavy

end LiftController

namespace FollowRun

variable {otg : TrajectoryGenerator} (p : LiftParameters) (s : FollowRun otg)

/-- The controller after `on_configure`. -/
def configured : FollowRun otg := ⟨.configured p, none, []⟩

/-- The FOLLOW command that a cycle can apply: the one that it acts on, or the awaited one if it
neither consumes a Heavy command nor acts on any other one. -/
def followed (i : UpdateInput) : Option MotionCommand :=
  match s.lift.cycleConsumes p i with
  | some command =>
    if (s.lift.update p i).executed.isSome ∧ command.type = .stream ∧ command.heavySequence ≠ 0 then
      some command
    else none
  | none => if (s.lift.update p i).executed.isSome then none else s.awaited

/-- The state behind an event.  A FOLLOW command is awaited no longer once its lease gate is closed,
the activation changes, or a cycle ends outside of the brake gate. -/
def behind (c' : LiftController otg) : Event → FollowRun otg
  | .update i =>
    { lift := c'
      awaited := if c'.mode = .brakeGate then s.followed p i else none
      acknowledged := s.acknowledged ++ (s.lift.update p i).acks }
  | .leaseGate true => { s with lift := c' }
  | .leaseGate false => ⟨c', none, []⟩
  | .activate _ => { s with lift := c', awaited := none }
  | .deactivate _ => { s with lift := c', awaited := none }
  | _ => { s with lift := c' }

/-- A step of the controller. -/
def step (e : Event) : Option (FollowRun otg) :=
  (s.lift.step p e).map fun c' => s.behind p c' e

/-- What is recorded does not restrict the runs of the controller. -/
theorem exec_lift (run : List Event) :
    (Runs.exec (step p) s run).map lift = Runs.exec (LiftController.step p) s.lift run := by
  refine Runs.exec_map (fun s e => ?_) run s
  unfold step
  rw [Option.map_map]
  have hlift : (lift ∘ fun c' => s.behind p c' e) = id := by
    funext c'
    unfold behind
    split <;> rfl
  rw [hlift, Option.map_id, id]

/-! ## The property -/

/-- The acknowledgements that an event publishes. -/
def published : Event → List ℕ
  | .update i => (s.lift.update p i).acks
  | .heavyCommand message => (s.lift.heavyCommandCallback p message).1.toList
  | _ => []

/-- A cycle consumes a Heavy STOP or HOLD of a sequence, which it acknowledges at once. -/
def ConsumesStop (i : UpdateInput) (n : ℕ) : Prop :=
  ∃ command, s.lift.cycleConsumes p i = some command ∧ command.type ≠ .stream ∧
    command.heavySequence = n

/-- A cycle writes the sample of the FOLLOW command of a sequence, under the lease that the command
came in. -/
def Applies (i : UpdateInput) (n : ℕ) (s' : FollowRun otg) : Prop :=
  ∃ command, s.followed p i = some command ∧ command.heavySequence = n ∧
    s.lift.inbox.heavyLeaseActive = true ∧ s'.lift.mode = .streaming ∧
    AsksFor s'.lift.interfaces command

/-- An acknowledgement is published by the cycle that applies its command. -/
def MeansApplied (s : FollowRun otg) (e : Event) (s' : FollowRun otg) : Prop :=
  ∀ n ∈ s.published p e, ∃ i, e = .update i ∧ (s.ConsumesStop p i n ∨ s.Applies p i n s')

/-- The acknowledgement of a FOLLOW command that a cycle cannot apply, since it was dropped. -/
def LeftBehind (i : UpdateInput) (n : ℕ) : Prop :=
  s.followed p i = none ∧ (s.lift.pendingHeavyFollowAckSequence = n ∨
    ∃ command, s.lift.cycleConsumes p i = some command ∧ command.heavySequence = n)

/-- A message is the retransmission of a command that a cycle has acknowledged since the lease gate
was closed last. -/
def Repeats (message : Command) (n : ℕ) : Prop :=
  message.sequence = n ∧ (n ≠ 0 → n ∈ s.acknowledged)

/-- An acknowledgement is published by the cycle that applies its command, or by the callback of a
retransmission of such a command.  The acknowledgement of a FOLLOW command that was dropped is left
out. -/
def AcknowledgesFollow (s : FollowRun otg) (e : Event) (s' : FollowRun otg) : Prop :=
  ∀ n ∈ s.published p e,
    (∃ i, e = .update i ∧ (s.ConsumesStop p i n ∨ s.Applies p i n s' ∨ s.LeftBehind p i n)) ∨
      ∃ message, e = .heavyCommand message ∧ s.Repeats message n

/-! ## The invariant -/

/-- What is on record of the FOLLOW command that a controller awaits. -/
structure Awaits (command : MotionCommand) (c : LiftController otg) : Prop where
  accepted : AcceptedFollow p command
  pending : c.pendingHeavyFollowAckSequence = command.heavySequence
  lease : c.inbox.heavyLeaseActive = true
  gated : ∀ other, c.Waits other → other.type = .stream → other = command

/-- The Heavy buffer holds accepted targets, the sequence that was applied last has been
acknowledged, and the awaited command is the only one that can be streamed from the brake gate. -/
structure OnRecord : Prop where
  buffer : s.lift.inbox.heavyCommandBuffer.type = .stream →
    AcceptedFollow p s.lift.inbox.heavyCommandBuffer
  applied : s.lift.appliedHeavySequence ≠ 0 → s.lift.appliedHeavySequence ∈ s.acknowledged
  awaited : ∀ command, s.awaited = some command → Awaits p command s.lift

theorem onRecord_configured : OnRecord p (configured p : FollowRun otg) where
  buffer := by rintro ⟨⟩
  applied h := absurd rfl h
  awaited := by rintro command ⟨⟩

variable {p s}

/-! ## Callbacks and activations -/

/-- A callback that is not about the lease gate publishes at most an accepted target. -/
theorem callback_heavyAcks {c c' : LiftController otg} {e : Event} (he : e.callback = true)
    (hgate : ∀ data, e ≠ .leaseGate data) (h : c.step p e = some c') :
    c'.heavyAcks = c.heavyAcks ∧ c'.inbox.heavyLeaseActive = c.inbox.heavyLeaseActive ∧
      (c'.inbox.heavyCommandBuffer = c.inbox.heavyCommandBuffer ∨
        (c'.inbox.heavyCommandBuffer.type = .stream →
          AcceptedFollow p c'.inbox.heavyCommandBuffer)) := by
  cases LiftController.callback_cases p c he h with
  | safety _ command =>
    unfold LiftController.enqueueSafetyCommand LiftController.cancelPendingTrajectory
    dsimp only
    split_ifs <;> exact ⟨rfl, rfl, Or.inl rfl⟩
  | heavy message command htarget =>
    refine ⟨rfl, rfl, Or.inr fun htype => ?_⟩
    obtain ⟨-, hposition, habove, hbelow, hvelocity, hacceleration⟩ :=
      LiftController.acceptedFollow_of_target p htarget htype
    exact ⟨htype, hposition, habove, hbelow, hvelocity, hacceleration⟩
  | gate data => exact absurd rfl (hgate data)
  | _ => exact ⟨rfl, rfl, Or.inl rfl⟩

theorem OnRecord.callback (hs : OnRecord p s) {e : Event} (he : e.callback = true)
    (hgate : ∀ data, e ≠ .leaseGate data) {c' : LiftController otg}
    (h : s.lift.step p e = some c') : OnRecord p { s with lift := c' } := by
  obtain ⟨hacks, hlease, hbuffer⟩ := callback_heavyAcks he hgate h
  have hkeep := LiftController.keepsLoop_step p s.lift he h
  have hpending : c'.pendingHeavyFollowAckSequence = s.lift.pendingHeavyFollowAckSequence :=
    congrArg Prod.fst hacks
  have happlied : c'.appliedHeavySequence = s.lift.appliedHeavySequence :=
    congrArg Prod.snd hacks
  refine ⟨?_, ?_, fun command hcommand => ?_⟩
  · rcases hbuffer with hsame | haccepted
    · rw [hsame]
      exact hs.buffer
    · exact haccepted
  · rw [happlied]
    exact hs.applied
  · have hawaits := hs.awaited command hcommand
    refine ⟨hawaits.accepted, hpending.trans hawaits.pending, hlease.trans hawaits.lease,
      fun other ⟨hmode, hvalid, hother⟩ htype => ?_⟩
    exact hawaits.gated other ⟨hkeep.mode.symm.trans hmode,
      hkeep.gatedCommandValid.symm.trans hvalid, hkeep.gatedCommand.symm.trans hother⟩ htype

/-- What does not touch the Heavy buffer and the acknowledgements keeps what is on record, once no
command is awaited. -/
theorem OnRecord.dropped (hs : OnRecord p s) {c' : LiftController otg}
    (hbuffer : c'.inbox.heavyCommandBuffer = s.lift.inbox.heavyCommandBuffer)
    (happlied : c'.appliedHeavySequence = s.lift.appliedHeavySequence) :
    OnRecord p { s with lift := c', awaited := none } where
  buffer := by
    rw [hbuffer]
    exact hs.buffer
  applied := by
    rw [happlied]
    exact hs.applied
  awaited := by rintro command ⟨⟩

theorem OnRecord.leaseGate (hs : OnRecord p s) (data : Bool) :
    OnRecord p (s.behind p (s.lift.leaseGateCallback data) (.leaseGate data)) := by
  cases data with
  | true =>
    refine ⟨hs.buffer, hs.applied, fun command hcommand => ?_⟩
    have hawaits := hs.awaited command hcommand
    exact ⟨hawaits.accepted, hawaits.pending, rfl, hawaits.gated⟩
  | false =>
    refine ⟨hs.buffer, fun h => absurd rfl h, ?_⟩
    rintro command ⟨⟩

/-! ## Cycles -/

section Cycle

variable {i : UpdateInput}

/-- What a cycle can apply is the command that its acknowledgement is pending for, and no other one
can be streamed. -/
theorem OnRecord.followed_spec (hs : OnRecord p s)
    (hrun : s.lift.update p i = ((s.lift.readStateInterfaces i).intake p i).runCycle p i)
    {command : MotionCommand} (h : s.followed p i = some command) :
    AcceptedFollow p command ∧
      ((s.lift.readStateInterfaces i).intake p i).pendingAck = command.heavySequence ∧
      s.lift.inbox.heavyLeaseActive = true ∧
      ∀ other, other.type = .stream →
        ((∃ n, ((s.lift.readStateInterfaces i).intake p i).newCommand = some n ∧
            n.command = other) ∨
          (((s.lift.readStateInterfaces i).intake p i).dispatch p i).2.Waits other) →
        other = command := by
  have hinbox : ((s.lift.readStateInterfaces i).intake p i).inbox = s.lift.inbox :=
    LiftController.intake_inbox p i _
  have hacks : ((s.lift.readStateInterfaces i).intake p i).heavyAcks = s.lift.heavyAcks :=
    LiftController.heavyAcks_intake p i _
  have hwaits {other : MotionCommand} (h : ((s.lift.readStateInterfaces i).intake p i).Waits other)
      (htype : other.type = .stream) : s.lift.Waits other := by
    rcases LiftController.intake_waits p i _ h with hwaits | rfl
    · exact hwaits
    · cases htype
  have hexecuted : (s.lift.update p i).executed =
      ((s.lift.readStateInterfaces i).intake p i).newCommand := by
    rw [hrun]
    rfl
  unfold followed LiftController.cycleConsumes at h
  rw [hexecuted] at h
  generalize (s.lift.readStateInterfaces i).intake p i = d at *
  cases hconsumed : d.consumedHeavy with
  | some consumed =>
    rw [hconsumed] at h
    dsimp only at h
    split_ifs at h with hboth
    obtain ⟨hsome, htype, hsequence⟩ := hboth
    obtain rfl := Option.some_inj.mp h
    obtain ⟨n, hnew⟩ := Option.isSome_iff_exists.mp hsome
    have hselected := LiftController.newCommand_selected d hnew
    obtain rfl : n = ⟨.heavy, consumed⟩ :=
      Option.some_inj.mp (hselected.symm.trans (d.consumedHeavy_eq_some.mp hconsumed))
    obtain ⟨hbuffer, hlease⟩ := d.consumedHeavy_spec hconsumed
    rw [hinbox] at hbuffer hlease
    refine ⟨?_, d.pendingAck_of_follow hconsumed hsequence htype, hlease, ?_⟩
    · rw [hbuffer] at htype ⊢
      exact hs.buffer htype
    · rintro other hstream (⟨n, hn, rfl⟩ | hgate)
      · rw [← Option.some_inj.mp (hnew.symm.trans hn)]
      · rcases LiftController.dispatch_gate p i d hgate with ⟨hnone, -⟩ | ⟨n, hn, hcases⟩
        · cases hnew.symm.trans hnone
        · rw [← Option.some_inj.mp (hnew.symm.trans hn)] at hcases
          exact hcases.resolve_left fun hnone => by cases htype.symm.trans hnone
  | none =>
    rw [hconsumed] at h
    dsimp only at h
    split_ifs at h with hsome
    have hnone : d.newCommand = none := Option.not_isSome_iff_eq_none.mp hsome
    have hawaits := hs.awaited command h
    refine ⟨hawaits.accepted, ?_, hawaits.lease, ?_⟩
    · rw [d.pendingAck_of_none hconsumed]
      exact (congrArg Prod.fst hacks).trans hawaits.pending
    · rintro other hstream (⟨n, hn, -⟩ | hgate)
      · cases hnone.symm.trans hn
      · rcases LiftController.dispatch_gate p i d hgate with ⟨-, hwaited⟩ | ⟨n, hn, -⟩
        · exact hawaits.gated other (hwaits hwaited hstream) hstream
        · cases hnone.symm.trans hn

theorem OnRecord.update (hs : OnRecord p s) :
    OnRecord p (s.behind p (s.lift.update p i).controller (.update i)) where
  buffer := by
    show (s.lift.update p i).controller.inbox.heavyCommandBuffer.type = .stream →
      AcceptedFollow p (s.lift.update p i).controller.inbox.heavyCommandBuffer
    rw [LiftController.update_inbox]
    exact hs.buffer
  applied := by
    show (s.lift.update p i).controller.appliedHeavySequence ≠ 0 →
      (s.lift.update p i).controller.appliedHeavySequence ∈
        s.acknowledged ++ (s.lift.update p i).acks
    intro hnonzero
    rcases LiftController.update_applied p i s.lift with hsame | hnew
    · rw [hsame] at hnonzero ⊢
      exact List.mem_append_left _ (hs.applied hnonzero)
    · exact List.mem_append_right _ hnew
  awaited := by
    intro command hcommand
    dsimp only [behind] at hcommand ⊢
    split_ifs at hcommand with hgate
    rcases LiftController.update_acks p i s.lift with ⟨-, -, hrests⟩ | hrun
    · rw [hgate] at hrests
      cases hrests
    · obtain ⟨haccepted, hpending, hlease, honly⟩ := hs.followed_spec hrun hcommand
      have hstreams : (s.lift.update p i).controller.mode ≠ .streaming := by
        rw [hgate]
        rintro ⟨⟩
      have hinbox := LiftController.update_inbox p i s.lift
      rw [hrun] at hstreams hinbox ⊢
      refine ⟨haccepted, ?_, hinbox ▸ hlease, fun other hwaits htype => ?_⟩
      · exact (LiftController.runCycle_pending p i _ hstreams).trans hpending
      · exact honly other htype (Or.inr
          ((LiftController.keepsCommands_runCycle p i _).waits other hwaits))

/-- The acknowledgements of a cycle are those of the command that it consumes or applies, or of one
that was dropped. -/
theorem OnRecord.acks (hs : OnRecord p s) {n : ℕ} (h : n ∈ (s.lift.update p i).acks) :
    s.ConsumesStop p i n ∨
      s.Applies p i n (s.behind p (s.lift.update p i).controller (.update i)) ∨
      s.LeftBehind p i n := by
  rcases LiftController.update_acks p i s.lift with ⟨hnone, -, -⟩ | hrun
  · rw [hnone] at h
    cases h
  have hread : ((s.lift.readStateInterfaces i).intake p i).heavyAcks = s.lift.heavyAcks :=
    LiftController.heavyAcks_intake p i _
  rw [hrun] at h
  rcases LiftController.runCycle_acks p i _ h with hstop | ⟨rfl, hmode, hselected⟩
  · exact Or.inl hstop
  · right
    cases hfollowed : s.followed p i with
    | some command =>
      left
      obtain ⟨haccepted, hpending, hlease, honly⟩ := hs.followed_spec hrun hfollowed
      obtain ⟨other, htype, hfrom, hshows⟩ :=
        LiftController.runCycle_streams p i _ hmode hselected
      obtain rfl := honly other htype hfrom
      rw [← hrun] at hmode hshows
      exact ⟨other, hfollowed, hpending.symm, hlease, hmode,
        haccepted.asksFor (hshows haccepted.sound)⟩
    | none =>
      refine Or.inr ⟨hfollowed, ?_⟩
      have hsame : ((s.lift.readStateInterfaces i).intake p i).pendingHeavyFollowAckSequence =
          s.lift.pendingHeavyFollowAckSequence := congrArg Prod.fst hread
      rw [← hsame]
      exact LiftController.pendingAck_cases _

end Cycle

/-! ## Steps and runs -/

theorem onRecord_step {e : Event} {s' : FollowRun otg} (hs : OnRecord p s)
    (h : s.step p e = some s') : OnRecord p s' := by
  obtain ⟨c', hc', rfl⟩ := Option.map_eq_some_iff.mp h
  cases e with
  | leaseGate data =>
    obtain rfl := Option.some_inj.mp hc'
    exact hs.leaseGate data
  | activate state =>
    dsimp only [LiftController.step] at hc'
    split_ifs at hc'
    obtain rfl := Option.some_inj.mp hc'
    refine hs.dropped ?_ ?_ <;>
    · unfold LiftController.onActivate
      dsimp only
      split <;> rfl
  | deactivate state =>
    dsimp only [LiftController.step] at hc'
    split_ifs at hc'
    obtain rfl := Option.some_inj.mp hc'
    exact hs.dropped rfl rfl
  | update i =>
    obtain ⟨-, rfl⟩ := LiftController.update_of_step p s.lift hc'
    exact hs.update
  | _ => exact hs.callback rfl (by rintro data ⟨⟩) hc'

/-- A message is acknowledged at once only if it is the retransmission of the command that was
applied last. -/
theorem OnRecord.repeats (hs : OnRecord p s) {message : Command} {n : ℕ}
    (h : n ∈ (s.lift.heavyCommandCallback p message).1.toList) : s.Repeats message n := by
  unfold LiftController.heavyCommandCallback at h
  split_ifs at h with hadmitted happlied
  · obtain rfl := List.mem_singleton.mp h
    refine ⟨rfl, fun hnonzero => ?_⟩
    rw [happlied] at hnonzero ⊢
    exact hs.applied hnonzero
  · cases h
  · dsimp only at h
    split at h <;> cases h

theorem acknowledgesFollow_step {e : Event} {s' : FollowRun otg} (hs : OnRecord p s)
    (h : s.step p e = some s') : AcknowledgesFollow p s e s' := by
  intro n hn
  cases e with
  | update i =>
    obtain ⟨c', hc', rfl⟩ := Option.map_eq_some_iff.mp h
    obtain ⟨-, rfl⟩ := LiftController.update_of_step p s.lift hc'
    exact Or.inl ⟨i, rfl, hs.acks hn⟩
  | heavyCommand message => exact Or.inr ⟨message, rfl, hs.repeats hn⟩
  | _ => cases hn

/-! ## The runs -/

/-- A FOLLOW command comes in under an open lease gate, and waits in the brake gate. -/
def gatedRun : List Event :=
  [.activate standing, .driverStatus (10 * 10 ^ 6) readyReport, .leaseGate true,
    .heavyCommand (followCommand 1000001), .update (cycleInput 20)]

/-- It is applied. -/
def appliedRun : List Event := gatedRun ++ [Event.update (cycleInput 120)]

/-- A native setpoint. -/
def nativeSetpoint : JointTrajectoryPoint := ⟨[.finite (-1 / 5)], [], [], 0, 0⟩

/-- The lease gate is closed while the command waits, and a native stream takes its place. -/
def droppedRun : List Event :=
  gatedRun ++ [Event.leaseGate false, .update (cycleInput 30), .stream nativeSetpoint,
    .update (cycleInput 40)]

/-- The callback acknowledges a retransmission of the applied command outside of the cycles, and the
cycle that starts the native stream acknowledges the command that was dropped. -/
theorem acknowledged_unapplied :
    ¬ Runs.Throughout (step defaultParameters) (MeansApplied defaultParameters)
        (configured defaultParameters : FollowRun immediateGenerator)
        (appliedRun ++ [.heavyCommand (followCommand 1000001)]) ∧
      ¬ Runs.Throughout (step defaultParameters) (MeansApplied defaultParameters)
        (configured defaultParameters : FollowRun immediateGenerator)
        (droppedRun ++ [.update (cycleInput 120)]) := by
  constructor
  · intro hall
    obtain ⟨s, hs, -, hP⟩ := Runs.reachable_of_run (step defaultParameters)
      (configured defaultParameters : FollowRun immediateGenerator) appliedRun
      (fun s => decide (1000001 ∈
        s.published defaultParameters (.heavyCommand (followCommand 1000001))))
      (by decide +kernel)
    obtain ⟨i, hcycle, -⟩ := Runs.Throughout.last hall hs rfl 1000001 (of_decide_eq_true hP)
    cases hcycle
  · intro hall
    obtain ⟨s, hs, -, hP⟩ := Runs.reachable_of_run (step defaultParameters)
      (configured defaultParameters : FollowRun immediateGenerator) droppedRun
      (fun s => decide (1000001 ∈ s.published defaultParameters (.update (cycleInput 120))) &&
        (s.step defaultParameters (.update (cycleInput 120))).isSome &&
        decide (s.lift.cycleConsumes defaultParameters (cycleInput 120) = none) &&
        decide (s.followed defaultParameters (cycleInput 120) = none))
      (by decide +kernel)
    simp only [Bool.and_eq_true, decide_eq_true_eq] at hP
    obtain ⟨⟨⟨hpublished, henabled⟩, hconsumed⟩, hfollowed⟩ := hP
    obtain ⟨s', hs'⟩ := Option.isSome_iff_exists.mp henabled
    obtain ⟨i, hcycle, hmeans⟩ := Runs.Throughout.last hall hs hs' 1000001 hpublished
    obtain rfl := Event.update.inj hcycle
    rcases hmeans with ⟨command, hcommand, -⟩ | ⟨command, hcommand, -⟩
    · cases hconsumed.symm.trans hcommand
    · cases hfollowed.symm.trans hcommand

/-- The acknowledgement of a FOLLOW command that was not dropped is published by the cycle that
writes its sample under its lease, and again only for a retransmission. -/
theorem acknowledges_follow {otg : TrajectoryGenerator} (p : LiftParameters) (run : List Event) :
    Runs.Throughout (step p) (AcknowledgesFollow p) (configured p : FollowRun otg) run :=
  Runs.throughout_of_invariant (fun _ _ _ hs h => onRecord_step hs h)
    (fun _ _ _ hs h => acknowledgesFollow_step hs h) (onRecord_configured p)

end FollowRun

end Lift

end JointController
