import JointController.Gateway.System
import Mathlib.Logic.Relation

/-!
# What a turn can do to a lease

A turn of a handler grants a lease, or admits a command, or takes an acknowledgement, or it does
something to the lease only by holds and clears.  `turn_cases` is the inversion, and `Change` lists
the operations of the last kind.  Invariants of leases and transactions are proved for the first
three and for one change at a time.

* `Change`, `Changes`: a hold, a clear, or a change that touches neither the lease nor the
  transaction apart from the bookkeeping of retries; and chains of them.
* `watchdogTick_changes`, `releaseBegin_changes` and so on, for the sections.
* `TurnCase`, `turn_cases`: the inversion of a turn.
* `Changes.invariant`: the induction rule for what every change keeps.
* `SameLease`, `TurnCase.sameLease`: the lease that is active after a turn is the one that was
  active before it, or it has just been granted.
-/

namespace JointController

namespace Gateway

open Relation

/-! ## Changes -/

/-- The queued lock is kept as it is, or dropped. -/
def KeepsQueue (b b' : BrakeLatch) : Prop :=
  b'.lockPending = true → b.lockPending = true ∧ b'.lockForce = b.lockForce ∧
    b'.pendingReason = b.pendingReason ∧ b'.queuedAt = b.queuedAt

theorem KeepsQueue.refl (b : BrakeLatch) : KeepsQueue b b := fun h => ⟨h, rfl, rfl, rfl⟩

/-- One locked operation at time `now` that neither grants a lease nor admits a command nor takes
an acknowledgement. -/
inductive Change (p : Parameters) (now : ℕ) : Gateway → Gateway → Prop where
  /-- Neither the lease nor the transaction changes, and no lock is queued. -/
  | quiet {g g' : Gateway} (retries published : ℕ) : g'.lease = g.lease →
      g'.transaction =
        { g.transaction with ackRetryCount := retries, lastPublishTime := published } →
      g'.counters.accepted = g.counters.accepted → g.counters.received ≤ g'.counters.received →
      g'.history = g.history → KeepsQueue g.brake g'.brake → Change p now g g'
  /-- The state that is reported while there is no lease. -/
  | report {g : Gateway} (state : GatewayState) : g.lease.active = false →
      Change p now g { g with lease := { g.lease with state := state } }
  /-- A forced lock is queued. -/
  | lock {g : Gateway} (reason : String) : Change p now g (queueBrakeLockLocked g reason true)
  /-- A HOLD of the gateway's own.  Only the command watchdog keeps the lease. -/
  | hold {g : Gateway} (reason : String) (revokeLease : Bool) : g.lease.active = true →
      (revokeLease = false → reason = commandTimeoutReason) →
      Change p now g (beginSafetyHoldLocked p g now reason revokeLease)
  | clear {g : Gateway} (reason : String) : g.lease.active = true →
      Change p now g (clearHeavyLeaseLocked g reason)

/-- A chain of changes at one time. -/
abbrev Changes (p : Parameters) (now : ℕ) : Gateway → Gateway → Prop :=
  ReflTransGen (Change p now)

variable {p : Parameters} {now : ℕ} {g g' : Gateway}

/-- What every change keeps, every chain of changes keeps. -/
theorem Changes.invariant {I : Gateway → Prop} (h : Changes p now g g') (hg : I g)
    (hstep : ∀ g g', I g → Change p now g g' → I g') : I g' := by
  induction h with
  | refl => exact hg
  | tail _ hlast ih => exact hstep _ _ ih hlast

/-- A change of the feedback or of the brake that queues no lock. -/
theorem Change.quiet' (hlease : g'.lease = g.lease) (htransaction : g'.transaction = g.transaction)
    (hcounters : g'.counters = g.counters) (hhistory : g'.history = g.history)
    (hbrake : KeepsQueue g.brake g'.brake) : Change p now g g' :=
  .quiet g.transaction.ackRetryCount g.transaction.lastPublishTime hlease htransaction
    (by rw [hcounters]) (by rw [hcounters]) hhistory hbrake

/-! ## The sections of the handlers -/

theorem receive_changes (sample : Sample) : Changes p now g (receive p g now sample) := by
  obtain ⟨feedback, locked, h⟩ := receive_eq p g now sample
  rw [h]
  exact .single (.quiet' rfl rfl rfl rfl (.refl g.brake))

theorem beginSafetyHoldLocked_changes (reason : String) (revokeLease : Bool)
    (hreason : revokeLease = false → reason = commandTimeoutReason) :
    Changes p now g (beginSafetyHoldLocked p g now reason revokeLease) := by
  by_cases h : g.lease.active = true
  · exact .single (.hold reason revokeLease h hreason)
  · rw [beginSafetyHoldLocked, if_pos h]

theorem clearHeavyLeaseLocked_changes (reason : String) :
    Changes p now g (clearHeavyLeaseLocked g reason) := by
  by_cases h : g.lease.active = true
  · exact .single (.clear reason h)
  · rw [clearHeavyLeaseLocked, if_pos h]

theorem holdAndClear_changes (reason : String) :
    Changes p now g (holdAndClear p g now reason) :=
  (beginSafetyHoldLocked_changes reason true fun h => nomatch h).trans
    (clearHeavyLeaseLocked_changes reason)

theorem takePendingBrakeActionLocked_changes :
    Changes p now g (takePendingBrakeActionLocked p g now).2 := by
  refine .single ?_
  unfold takePendingBrakeActionLocked
  repeat' split
  · exact .quiet' rfl rfl rfl rfl (.refl g.brake)
  · exact .quiet' rfl rfl rfl rfl fun h => nomatch h
  · exact .quiet' rfl rfl rfl rfl (.refl g.brake)
  · exact .quiet' rfl rfl rfl rfl fun h => nomatch h

theorem updateStateWithoutLeaseLocked_changes :
    Changes p now g (updateStateWithoutLeaseLocked p g now) := by
  unfold updateStateWithoutLeaseLocked
  split
  · exact .refl
  · next h => exact .single (.report _ (Bool.eq_false_iff.mpr h))

theorem finishBrakeAction_changes (action : BrakeAction) (confirmed : Bool) (error : String) :
    Changes p now g (finishBrakeAction g action confirmed error) := by
  unfold finishBrakeAction
  split_ifs
  · exact .single (.quiet' rfl rfl rfl rfl (.refl g.brake))
  · exact .single (.quiet' rfl rfl rfl rfl (.refl g.brake))

/-! ### The watchdog -/

theorem Tick.commandTimeout_changes (t : Tick) :
    Changes p now t.gateway (t.commandTimeout p now).gateway := by
  unfold Tick.commandTimeout
  dsimp only
  split_ifs
  · exact beginSafetyHoldLocked_changes _ _ fun _ => rfl
  · exact .refl

theorem Tick.leaseExpiry_changes (t : Tick) :
    Changes p now t.gateway (t.leaseExpiry p now).gateway := by
  unfold Tick.leaseExpiry
  dsimp only
  split_ifs
  · refine ReflTransGen.trans (.single ?_) (beginSafetyHoldLocked_changes _ _ fun h => nomatch h)
    exact .quiet t.gateway.transaction.ackRetryCount t.gateway.transaction.lastPublishTime
      rfl rfl rfl le_rfl rfl (.refl _)
  · exact .refl

theorem Tick.revocationFallback_changes (t : Tick) :
    Changes p now t.gateway (t.revocationFallback p now).gateway := by
  unfold Tick.revocationFallback
  dsimp only
  split_ifs
  · exact clearHeavyLeaseLocked_changes _
  · exact .refl

/-- The state that a lease has when it is cleared is lost with it. -/
theorem clearHeavyLeaseLocked_queue_fault (h : g.lease.active = true) (lockReason reason : String) :
    clearHeavyLeaseLocked (queueBrakeLockLocked
        { g with lease := { g.lease with state := .fault } } lockReason true) reason =
      clearHeavyLeaseLocked (queueBrakeLockLocked g lockReason true) reason := by
  unfold queueBrakeLockLocked
  split_ifs <;> simp [clearHeavyLeaseLocked, h]

theorem Tick.ackTimeout_changes (t : Tick) :
    Changes p now t.gateway (t.ackTimeout p now).gateway := by
  unfold Tick.ackTimeout
  dsimp only
  split_ifs with h
  · rw [clearHeavyLeaseLocked_queue_fault h.1]
    exact ReflTransGen.trans (.single (.lock _)) (clearHeavyLeaseLocked_changes _)
  · exact .refl

theorem Tick.retryPending_changes (t : Tick) :
    Changes p now t.gateway (t.retryPending p now).gateway := by
  unfold Tick.retryPending
  dsimp only
  split_ifs
  · exact .single
      (.quiet _ t.gateway.transaction.lastPublishTime rfl rfl rfl le_rfl rfl (.refl _))
  · exact .refl

theorem Tick.readiness_changes (t : Tick) :
    Changes p now t.gateway (t.readiness p now).gateway := by
  unfold Tick.readiness
  dsimp only
  split_ifs
  · exact holdAndClear_changes _
  · exact holdAndClear_changes _
  · exact .refl

theorem Tick.brakeLock_changes (t : Tick) :
    Changes p now t.gateway (t.brakeLock p now).gateway :=
  updateStateWithoutLeaseLocked_changes.trans takePendingBrakeActionLocked_changes

theorem watchdogTick_changes : Changes p now g (watchdogTick p g now).gateway :=
  (Tick.commandTimeout_changes ⟨g, false, none, none⟩).trans <|
    (Tick.leaseExpiry_changes _).trans <| (Tick.revocationFallback_changes _).trans <|
    (Tick.ackTimeout_changes _).trans <| (Tick.retryPending_changes _).trans <|
    (Tick.readiness_changes _).trans (Tick.brakeLock_changes _)

/-! ### Services and commands -/

theorem commandPreflight_changes (c : Command) :
    Changes p now g (commandPreflight p g c now).2 := by
  unfold commandPreflight
  dsimp only
  split_ifs
  · exact .single (.quiet _ _ rfl rfl rfl (Nat.le_succ _) rfl (.refl _))
  · exact .single (.quiet _ _ rfl rfl rfl (Nat.le_succ _) rfl (.refl _))

theorem releaseBegin_changes (request : ReleaseRequest) :
    Changes p now g (releaseBegin p g request now).2 := by
  unfold releaseBegin
  split_ifs
  · exact .refl
  · split
    · exact clearHeavyLeaseLocked_changes _
    · exact beginSafetyHoldLocked_changes _ _ fun h => nomatch h

theorem releaseWake_changes {deadline : ℕ} {outcome : ReleaseOutcome}
    (h : releaseWake g deadline now = some (outcome, g')) : Changes p now g g' := by
  unfold releaseWake at h
  split at h
  · cases h
    exact .refl
  · split at h
    · cases h
      exact clearHeavyLeaseLocked_changes _
    · exact nomatch h

/-! ## Turns -/

theorem publishTurn_changes (m : Publication) (owed : List Publication) (next : Option BrakeAction)
    (locked : Bool) : Changes p now g (publishTurn now g m owed next locked).gateway := by
  cases m with
  | leaseGate active change => exact .refl
  | internalCommand c =>
    simp only [publishTurn, publishInternalCommand]
    split
    · exact .single (.quiet g.transaction.ackRetryCount now rfl rfl rfl le_rfl rfl (.refl _))
    · exact .single (.quiet' rfl rfl rfl rfl (.refl _))

/-- What a turn does to the shared state. -/
inductive TurnCase (p : Parameters) (now : ℕ) (g : Gateway) : Pc → Action → Gateway → Prop where
  /-- The second section of `handleAcquire` passes its checks. -/
  | grant (request : AcquireRequest) (random : ℕ) :
      acquireRecheck p (endAcquisition g) now = .ok () →
      TurnCase p now g (.acquiring request) (.grant random)
        (grantLease p (endAcquisition g) request now random)
  | admission (c : Command) (arrival : ℕ) :
      TurnCase p now g (.commanding c arrival) .admission (commandAdmit p g c arrival now).2
  | ack (arm : Bool) (sequence : ℕ) :
      TurnCase p now g .idle (.ack arm sequence) (handleAck p g arm sequence now).2
  | changes {pc : Pc} {a : Action} {g' : Gateway} : Changes p now g g' → TurnCase p now g pc a g'

theorem inactive_of_recheck (h : acquireRecheck p (endAcquisition g) now = .ok ()) :
    g.lease.active = false := by
  simp only [acquireRecheck, Checks.bind_eq_ok, Checks.refuse_eq_ok] at h
  exact Bool.eq_false_iff.mpr h.1

/-- Every turn grants, admits, takes an acknowledgement or is a chain of changes. -/
theorem turn_cases {pc : Pc} {a : Action} {t : Turn} (h : turn p now g pc a = some t) :
    TurnCase p now g pc a t.gateway := by
  unfold turn at h
  split at h
  · cases h
    exact .changes (receive_changes _)
  · cases h
    rw [ackTurn_gateway]
    exact .ack _ _
  · cases h
    exact .changes watchdogTick_changes
  · cases h
    rw [commandTurn_gateway]
    exact .changes (commandPreflight_changes _)
  · cases h
    rw [admitTurn_gateway]
    exact .admission _ _
  · cases h
    unfold acquireTurn
    split
    · exact .changes (.single (.quiet' rfl rfl rfl rfl (.refl _)))
    · exact .changes .refl
  · next request random =>
    cases h
    rw [grantTurn_gateway]
    unfold acquireGrant
    dsimp only
    split
    · exact .changes (.single (.quiet' rfl rfl rfl rfl (.refl _)))
    · next hcheck => exact .grant request random hcheck
  · cases h
    exact .changes (.single (.quiet' rfl rfl rfl rfl (.refl _)))
  · cases h
    rw [releaseTurn_gateway]
    exact .changes (releaseBegin_changes _)
  · obtain ⟨outcome, ho⟩ := releaseWakeTurn_eq_some _ _ h
    exact .changes (releaseWake_changes ho)
  · cases h
    unfold liftBrakeTurn
    split
    · exact .changes (.single (.quiet' rfl rfl rfl rfl (.refl _)))
    · exact .changes .refl
  · cases h
    exact .changes .refl
  · rw [Option.map_eq_some_iff] at h
    obtain ⟨phase, -, rfl⟩ := h
    exact .changes .refl
  · cases h
    exact .changes .refl
  · cases h
    exact .changes (finishBrakeAction_changes _ _ _)
  · cases h
    exact .changes (publishTurn_changes _ _ _ _)
  · exact nomatch h

/-! ## The identity of the lease -/

/-- No change renames the lease: it is still the same lease, or none is active. -/
structure SameLease (g g' : Gateway) : Prop where
  generation : g'.lease.generation = g.lease.generation
  initialSequence : g'.lease.initialSequence = g.lease.initialSequence
  active : g'.lease.active = true → g.lease.active = true
  ownerId : g'.lease.active = true → g'.lease.ownerId = g.lease.ownerId
  leaseId : g'.lease.active = true → g'.lease.leaseId = g.lease.leaseId
  aligned : g'.lease.active = true → g.lease.alignedHold = true → g'.lease.alignedHold = true

theorem SameLease.refl (g : Gateway) : SameLease g g :=
  ⟨rfl, rfl, id, fun _ => rfl, fun _ => rfl, fun _ => id⟩

theorem SameLease.of_inactive (hgeneration : g'.lease.generation = g.lease.generation)
    (hinitial : g'.lease.initialSequence = g.lease.initialSequence)
    (hinactive : g'.lease.active = false) : SameLease g g' :=
  have hno {P : Prop} (h : g'.lease.active = true) : P :=
    absurd h (Bool.eq_false_iff.mp hinactive)
  ⟨hgeneration, hinitial, hno, hno, hno, hno⟩

theorem SameLease.trans {g'' : Gateway} (h : SameLease g g') (h' : SameLease g' g'') :
    SameLease g g'' where
  generation := h'.generation.trans h.generation
  initialSequence := h'.initialSequence.trans h.initialSequence
  active := fun hact => h.active (h'.active hact)
  ownerId := fun hact => (h'.ownerId hact).trans (h.ownerId (h'.active hact))
  leaseId := fun hact => (h'.leaseId hact).trans (h.leaseId (h'.active hact))
  aligned := fun hact hal => h'.aligned hact (h.aligned (h'.active hact) hal)

theorem Change.sameLease (h : Change p now g g') : SameLease g g' := by
  cases h with
  | quiet _ _ hlease _ _ _ _ _ =>
    exact ⟨by rw [hlease], by rw [hlease], by rw [hlease]; exact id, fun _ => by rw [hlease],
      fun _ => by rw [hlease], fun _ => by rw [hlease]; exact id⟩
  | report _ hinactive => exact .of_inactive rfl rfl hinactive
  | lock _ => constructor <;> simp
  | hold _ _ hactive _ =>
    unfold beginSafetyHoldLocked
    rw [if_neg (not_not.mpr hactive)]
    dsimp only
    rw [queueHoldLock_eq]
    exact ⟨rfl, rfl, id, fun _ => rfl, fun _ => rfl, fun _ => id⟩
  | clear _ _ =>
    exact .of_inactive (by simp) (by simp) (clearHeavyLeaseLocked_active _ _)

theorem Changes.sameLease (h : Changes p now g g') : SameLease g g' :=
  h.invariant (SameLease.refl g) fun _ _ hsame hchange => hsame.trans hchange.sameLease

theorem sameLease_dispatch (c : Command) (arrival : ℕ) :
    SameLease g (dispatchUserCommandLocked p g c arrival now) := by
  constructor <;> simp [dispatchUserCommandLocked]

theorem sameLease_commandAdmit (c : Command) (arrival : ℕ) :
    SameLease g (commandAdmit p g c arrival now).2 := by
  rcases commandAdmit_cases p g c arrival now with ⟨counters, h, -, -⟩ | ⟨-, -, ⟨-, h⟩ | ⟨-, h⟩⟩
  · rw [h]
    exact ⟨rfl, rfl, id, fun _ => rfl, fun _ => rfl, fun _ => id⟩
  · rw [h]
    exact ⟨rfl, rfl, id, fun _ => rfl, fun _ => rfl, fun _ => id⟩
  · rw [h]
    exact sameLease_dispatch c arrival

theorem sameLease_handleAck (arm : Bool) (sequence : ℕ) :
    SameLease g (handleAck p g arm sequence now).2 := by
  have hconfirm : SameLease g
      (confirmPending (recordAck g arm g.transaction.pendingSequence)) :=
    ⟨rfl, rfl, id, fun _ => rfl, fun _ => rfl, fun _ _ => rfl⟩
  rcases handleAck_cases p g arm sequence now with ⟨-, counters, h, -, -⟩ | ⟨-, rfl, h⟩
  · rw [h]
    exact ⟨rfl, rfl, id, fun _ => rfl, fun _ => rfl, fun _ => id⟩
  rcases h with ⟨-, h⟩ | ⟨-, ⟨-, h⟩ | ⟨-, -, h⟩ | ⟨-, -, h⟩⟩
  · rw [h]
    exact ⟨rfl, rfl, id, fun _ => rfl, fun _ => rfl, fun _ => id⟩
  · rw [h]
    exact .of_inactive (by simp [confirmPending, recordAck])
      (by simp [confirmPending, recordAck]) (clearHeavyLeaseLocked_active _ _)
  · rw [h]
    refine hconfirm.trans ?_
    constructor <;> simp [promoteStaged, dispatchUserCommandLocked]
  · rw [h]
    exact hconfirm

/-- A turn that does not grant a lease does not rename it. -/
theorem TurnCase.sameLease {pc : Pc} {a : Action} (h : TurnCase p now g pc a g') :
    SameLease g g' ∨ ∃ request random, pc = .acquiring request ∧ a = .grant random ∧
      acquireRecheck p (endAcquisition g) now = .ok () ∧
      g' = grantLease p (endAcquisition g) request now random := by
  cases h with
  | grant request random hcheck => exact .inr ⟨request, random, rfl, rfl, hcheck, rfl⟩
  | admission c arrival => exact .inl (sameLease_commandAdmit c arrival)
  | ack arm sequence => exact .inl (sameLease_handleAck arm sequence)
  | changes hchanges => exact .inl hchanges.sameLease

end Gateway

end JointController
