import JointController.Gateway.BrakeTransitions

/-!
# The queued brake lock under FOLLOW_POSITION

A HOLD and the watchdogs queue a lock of the lift brake, and a later tick takes it: a forced lock
at once, any other lock when the lift stands still.  A lock that is not forced belongs to the HOLD
that queued it, and this file is about which of them are executed while the lease follows.

* `lastUserMode`, `UnderFollow`: the last accepted command of the lease is a FOLLOW_POSITION.
* `LockJustified`, `Later`: a lock queued after the last accepted command is not queued by a
  command when that command is a FOLLOW_POSITION; and what keeps this.
* `watchdog_lock_under_follow`: the command watchdog locks the brake under FOLLOW_POSITION.
* `lock_under_follow`: no other lock queued since the FOLLOW_POSITION is executed under it.
-/

namespace JointController

namespace Gateway

variable {p : Parameters} {now : ℕ} {g g' : Gateway}

/-! ## The last accepted command -/

/-- The mode of the last command that was accepted under the lease granted last. -/
def lastUserMode : List Event → Option ℕ
  | [] => none
  | .dispatched _ _ _ c :: _ => some c.mode
  | .granted _ :: _ => none
  | _ :: older => lastUserMode older

/-- A lease is active, and the last command accepted under it is a FOLLOW_POSITION. -/
def UnderFollow (g : Gateway) : Prop :=
  g.lease.active = true ∧ lastUserMode g.history = some Command.modeFollowPosition

instance (g : Gateway) : Decidable (UnderFollow g) := by
  unfold UnderFollow; infer_instance

/-- A handler executes a lock of the brake that is not forced. -/
def ExecutesQueuedLock (pc : Pc) (act : BrakeAction) : Prop :=
  pc.brakeAction? = some act ∧ act.release = false ∧ act.force = false

/-- No queued lock is executed under FOLLOW_POSITION. -/
def NoLockUnderFollow (s : System) : Prop :=
  ∀ i act, ExecutesQueuedLock (s.threads i) act → ¬ UnderFollow s.gateway

/-- A FOLLOW_POSITION is applied, and no command follows it for the hold timeout. -/
def watchdogLockRun : List Label :=
  let lease := generateLeaseId "upper" 7 (millis 2) 1
  let silent := millis 3 + defaultParameters.commandHoldTimeout + 1
  stepsAt (millis 2) 0
      ((completeFeedback defaultParameters .simulation true 0).map Action.sample ++
        [Action.acquire (acquireRequest "upper"), .grant 7, .publish true, .publish true,
          .ack true 1, .ack false 1]) ++
    stepsAt (millis 3) 0
      [.command (restCommand "upper" lease 1000001 Command.modeFollowPosition), .admission,
        .publish true, .ack true 2, .ack false 2] ++
    stepsAt silent 0
      ((completeFeedback defaultParameters .simulation true 0).map Action.sample ++ [Action.tick])

/-- A queued lock is executed under FOLLOW_POSITION by design: the watchdog queues one when the
commands stop. -/
theorem watchdog_lock_under_follow :
    ¬ ∀ p startedAt s, Reachable p startedAt s → NoLockUnderFollow s := by
  intro hclaim
  obtain ⟨s, -, hreach, hfacts⟩ := Runs.reachable_of_run
    (step defaultParameters) (System.init (millis 1)) watchdogLockRun
    (fun s => decide (UnderFollow s.gateway) && (s.threads 0).brakeAction?.any fun act =>
      !act.release && !act.force)
    (by decide +kernel)
  rw [Bool.and_eq_true, decide_eq_true_eq, Option.any_eq_true] at hfacts
  obtain ⟨hfollow, act, hact, hlock⟩ := hfacts
  rw [Bool.and_eq_true, Bool.not_eq_true', Bool.not_eq_true'] at hlock
  exact hclaim _ _ s hreach 0 act ⟨hact, hlock⟩ hfollow

/-! ## Locks queued since the last accepted command -/

/-- A lock with this reason was queued when so many commands had been accepted.  If none has been
accepted since and the last one is a FOLLOW_POSITION, then it is the lock of the command
watchdog. -/
structure LockJustified (g : Gateway) (reason : String) (queuedAt : ℕ) : Prop where
  le : queuedAt ≤ g.counters.accepted
  watchdog : queuedAt = g.counters.accepted →
    lastUserMode g.history = some Command.modeFollowPosition → reason = commandTimeoutReason

/-- More commands have been accepted, or the last one is a FOLLOW_POSITION only if it was. -/
def Later (g g' : Gateway) : Prop :=
  g.counters.accepted < g'.counters.accepted ∨
    g'.counters.accepted = g.counters.accepted ∧
      (lastUserMode g'.history = some Command.modeFollowPosition →
        lastUserMode g.history = some Command.modeFollowPosition)

theorem Later.of_eq (hcounters : g'.counters.accepted = g.counters.accepted)
    (hhistory : lastUserMode g'.history = lastUserMode g.history) : Later g g' :=
  .inr ⟨hcounters, fun h => hhistory ▸ h⟩

theorem Later.trans {g'' : Gateway} (h : Later g g') (h' : Later g' g'') : Later g g'' := by
  rcases h with hlt | ⟨heq, hmode⟩
  · rcases h' with hlt' | ⟨heq', -⟩
    · exact .inl (hlt.trans hlt')
    · exact .inl (heq' ▸ hlt)
  · rcases h' with hlt' | ⟨heq', hmode'⟩
    · exact .inl (heq ▸ hlt')
    · exact .inr ⟨heq'.trans heq, fun h => hmode (hmode' h)⟩

theorem LockJustified.later {reason : String} {queuedAt : ℕ} (h : LockJustified g reason queuedAt)
    (hlater : Later g g') : LockJustified g' reason queuedAt := by
  rcases hlater with hlt | ⟨heq, hmode⟩
  · exact ⟨h.le.trans hlt.le, fun hat _ => absurd (h.le.trans_lt hlt) (hat ▸ lt_irrefl _)⟩
  · exact ⟨h.le.trans heq.ge, fun hat hm => h.watchdog (hat.trans heq) (hmode hm)⟩

/-- The queued lock is justified unless it is forced. -/
def QueueJustified (g : Gateway) : Prop :=
  g.brake.lockPending = true → g.brake.lockForce = false →
    LockJustified g g.brake.pendingReason g.brake.queuedAt

theorem QueueJustified.keep (h : QueueJustified g) (hbrake : KeepsQueue g.brake g'.brake)
    (hlater : Later g g') : QueueJustified g' := by
  intro hpend hforce
  obtain ⟨hold, hsame, hreason, hat⟩ := hbrake hpend
  rw [hreason, hat]
  exact (h hold (hsame ▸ hforce)).later hlater

theorem QueueJustified.queue (h : QueueJustified g) {reason : String} {force : Bool}
    (hnew : force = false → LockJustified g reason g.counters.accepted) :
    QueueJustified (queueBrakeLockLocked g reason force) := by
  unfold queueBrakeLockLocked
  split
  · exact h
  · exact fun _ hforce => ⟨(hnew hforce).le, (hnew hforce).watchdog⟩

theorem lockJustified_watchdog (g : Gateway) :
    LockJustified g commandTimeoutReason g.counters.accepted := ⟨le_rfl, fun _ _ => rfl⟩

/-! ## One change -/

/-- A safety HOLD changes the lease and the transaction, and then queues a lock. -/
theorem beginSafetyHoldLocked_eq (p : Parameters) (now : ℕ) (reason : String) (revoke : Bool)
    (h : g.lease.active = true) :
    ∃ held : Gateway, (beginSafetyHoldLocked p g now reason revoke =
        if revoke then queueBrakeLockLocked held reason true
        else if g.lease.lastMode = Command.modeFollowPosition then
          queueBrakeLockLocked held reason false
        else held) ∧
      held.brake = g.brake ∧ held.counters.accepted = g.counters.accepted ∧
      lastUserMode held.history = lastUserMode g.history := by
  rw [beginSafetyHoldLocked, if_neg (not_not.mpr h)]
  exact ⟨_, rfl, rfl, rfl, rfl⟩

theorem later_hold (reason : String) (revoke : Bool) (h : g.lease.active = true) :
    Later g (beginSafetyHoldLocked p g now reason revoke) := by
  obtain ⟨held, heq, -, hcounters, hhistory⟩ :=
    beginSafetyHoldLocked_eq p now reason revoke h
  rw [heq]
  split_ifs <;> exact .of_eq (by simpa using hcounters) (by simpa using hhistory)

theorem later_clear (reason : String) : Later g (clearHeavyLeaseLocked g reason) := by
  unfold clearHeavyLeaseLocked
  split <;> exact .of_eq rfl rfl

theorem QueueJustified.hold (hg : QueueJustified g) {reason : String} {revoke : Bool}
    (h : g.lease.active = true) (hreason : revoke = false → reason = commandTimeoutReason) :
    QueueJustified (beginSafetyHoldLocked p g now reason revoke) := by
  obtain ⟨held, heq, hbrake, hcounters, hhistory⟩ :=
    beginSafetyHoldLocked_eq p now reason revoke h
  have hheld : QueueJustified held :=
    hg.keep (hbrake ▸ KeepsQueue.refl _) (.of_eq hcounters hhistory)
  rw [heq]
  split_ifs with hrevoke
  · exact hheld.queue fun hf => nomatch hf
  · refine hheld.queue fun _ => ?_
    rw [hreason (Bool.eq_false_iff.mpr hrevoke)]
    exact lockJustified_watchdog held
  · exact hheld

theorem Change.later (h : Change p now g g') : Later g g' := by
  cases h with
  | quiet _ _ _ _ haccepted _ hhistory _ => exact .of_eq haccepted (by rw [hhistory])
  | report _ _ => exact .of_eq rfl rfl
  | lock _ => exact .of_eq (by simp) (by simp)
  | hold reason revoke hactive _ => exact later_hold reason revoke hactive
  | clear reason _ => exact later_clear reason

theorem Change.queueJustified (hg : QueueJustified g) (h : Change p now g g') :
    QueueJustified g' := by
  cases h with
  | quiet _ _ _ _ haccepted _ hhistory hbrake =>
    exact hg.keep hbrake (.of_eq haccepted (by rw [hhistory]))
  | report _ _ => exact hg.keep (.refl _) (.of_eq rfl rfl)
  | lock _ => exact hg.queue fun hf => nomatch hf
  | hold reason revoke hactive hreason => exact hg.hold hactive hreason
  | clear reason _ =>
    exact hg.keep (by rw [clearHeavyLeaseLocked_brake]; exact .refl _) (later_clear reason)

theorem Changes.later (h : Changes p now g g') : Later g g' :=
  h.invariant (I := Later g) (.of_eq rfl rfl) fun _ _ hl hchange => hl.trans hchange.later

theorem Changes.queueJustified (h : Changes p now g g') (hg : QueueJustified g) :
    QueueJustified g' :=
  h.invariant (I := QueueJustified) hg fun _ _ hq hchange => hchange.queueJustified hq

/-! ## One turn -/

/-- A dispatched command is accepted: it supersedes the lock that is queued, and a FOLLOW_POSITION
queues none. -/
theorem later_dispatch (c : Command) (arrival : ℕ) :
    Later g (dispatchUserCommandLocked p g c arrival now) := by
  refine .inl ?_
  simp [dispatchUserCommandLocked]

/-- Of the accepted commands only a HOLD queues a lock that is not forced. -/
theorem QueueJustified.dispatchLock (h : QueueJustified g) (l : LeaseState) {mode : ℕ}
    (hmode : lastUserMode g.history = some mode) : QueueJustified (queueDispatchLock l mode g) := by
  have hnew : ∀ reason, mode = Command.modeHold →
      LockJustified g reason g.counters.accepted := by
    intro reason hhold
    refine ⟨le_rfl, fun _ hfollow => ?_⟩
    rw [hmode, hhold] at hfollow
    exact absurd hfollow (by decide)
  unfold queueDispatchLock
  split_ifs with hfollow hfirst hstop
  · exact h.queue fun _ => hnew _ hfollow.2
  · exact h.queue fun _ => hnew _ hfirst.2
  · exact h.queue fun hf => nomatch hf
  · exact h

theorem QueueJustified.dispatch (h : QueueJustified g) (c : Command) (arrival : ℕ) :
    QueueJustified (dispatchUserCommandLocked p g c arrival now) := by
  unfold dispatchUserCommandLocked
  refine QueueJustified.dispatchLock ?_ _ ?_
  · exact h.keep (.refl _) (.inl (Nat.lt_succ_self _))
  · show some c.mode = some (effectiveCommand p c).mode
    rw [effectiveCommand_mode]

theorem TurnCase.queueJustified {pc : Pc} {a : Action} (hg : QueueJustified g)
    (h : TurnCase p now g pc a g') : Later g g' ∧ QueueJustified g' := by
  have hsame : ∀ g' : Gateway, g'.brake = g.brake →
      g'.counters.accepted = g.counters.accepted →
      lastUserMode g'.history = lastUserMode g.history → Later g g' ∧ QueueJustified g' :=
    fun g' hbrake hcounters hhistory => ⟨.of_eq hcounters hhistory,
      hg.keep (hbrake ▸ KeepsQueue.refl _) (.of_eq hcounters hhistory)⟩
  cases h with
  | grant request random _ =>
    have hlater : Later g (grantLease p (endAcquisition g) request now random) :=
      .inr ⟨rfl, fun hmode => nomatch hmode⟩
    exact ⟨hlater, hg.keep (.refl _) hlater⟩
  | admission c arrival =>
    rcases commandAdmit_cases p g c arrival now with ⟨_, h, hacc, -⟩ | ⟨-, -, ⟨-, h⟩ | ⟨-, h⟩⟩
    · rw [h]
      exact hsame _ rfl hacc rfl
    · rw [h]
      exact hsame _ rfl rfl rfl
    · rw [h]
      exact ⟨later_dispatch c arrival, hg.dispatch c arrival⟩
  | ack arm sequence =>
    rcases handleAck_cases p g arm sequence now with ⟨-, _, h, -, hacc⟩ | ⟨-, rfl, h⟩
    · rw [h]
      exact hsame _ rfl hacc rfl
    have hconfirmed := hsame (confirmPending (recordAck g arm g.transaction.pendingSequence))
      rfl rfl rfl
    rcases h with ⟨-, h⟩ | ⟨-, ⟨-, h⟩ | ⟨-, -, h⟩ | ⟨-, -, h⟩⟩
    · rw [h]
      exact hsame _ rfl rfl rfl
    · rw [h]
      exact ⟨hconfirmed.1.trans (later_clear _), hconfirmed.2.keep
        (by rw [clearHeavyLeaseLocked_brake]; exact .refl _) (later_clear _)⟩
    · rw [h]
      exact ⟨hconfirmed.1.trans (later_dispatch _ _), (hconfirmed.2.dispatch _ _).keep (.refl _)
        (.of_eq rfl rfl)⟩
    · rw [h]
      exact hconfirmed
  | changes hchanges => exact ⟨hchanges.later, hchanges.queueJustified hg⟩

/-! ## Every run -/

/-- The queued lock and the locks that are being executed are justified. -/
structure LocksJustified (s : System) : Prop where
  queue : QueueJustified s.gateway
  executed : ∀ i act, ExecutesQueuedLock (s.threads i) act →
    LockJustified s.gateway act.reason act.queuedAt

/-- A turn that begins a lock takes the queued one. -/
theorem Begins.lockJustified {a : Action} {act : BrakeAction} (hg : QueueJustified g)
    (h : Begins p now g a act g') (hrelease : act.release = false) (hforce : act.force = false) :
    LockJustified g' act.reason act.queuedAt := by
  cases h with
  | prepare _ _ => exact nomatch hrelease
  | follow _ hrel _ => exact nomatch hrel.symm.trans hrelease
  | explicit _ _ => exact nomatch hforce
  | queued g₁ hchanges hpend _ hcounters hhistory =>
    have hlock := hchanges.queueJustified hg hpend hforce
    exact hlock.later (.of_eq (by rw [hcounters]) (by rw [hhistory]))

theorem LocksJustified.step {s s' : System} {l : Label} (hs : LocksJustified s)
    (h : Gateway.step p s l = some s') : LocksJustified s' := by
  obtain ⟨-, t, ht, rfl⟩ := step_eq_some.mp h
  obtain ⟨hlater, hqueue⟩ := (turn_cases ht).queueJustified hs.queue
  refine ⟨hqueue, fun i act hexec => ?_⟩
  show LockJustified t.gateway act.reason act.queuedAt
  by_cases hi : i = l.thread
  · have hself : (s.after l t).threads i = t.pc := hi ▸ Function.update_self _ _ _
    rw [hself] at hexec
    obtain ⟨hact, hrelease, hforce⟩ := hexec
    cases turn_brake ht with
    | keep hpc _ =>
      exact (hs.executed l.thread act ⟨hpc ▸ hact, hrelease, hforce⟩).later hlater
    | finish _ hpc' _ => exact nomatch hpc'.symm.trans hact
    | begin _ hpc' _ hbegins =>
      have heq := Option.some_inj.mp (hpc'.symm.trans hact)
      subst heq
      exact hbegins.lockJustified hs.queue hrelease hforce
  · have hother : (s.after l t).threads i = s.threads i := Function.update_of_ne hi _ _
    rw [hother] at hexec
    exact (hs.executed i act hexec).later hlater

theorem Reachable.locksJustified {startedAt : ℕ} {s : System} (h : Reachable p startedAt s) :
    LocksJustified s :=
  h.induction ⟨fun hpend => (nomatch hpend), fun _ _ hexec => (nomatch hexec.1)⟩
    fun _ _ _ hs hstep => hs.step hstep

/-- A queued lock that is executed under FOLLOW_POSITION is the lock of the command watchdog, or
it was queued before the last accepted command. -/
theorem lock_under_follow {startedAt : ℕ} {s : System} (h : Reachable p startedAt s) {i : ℕ}
    {act : BrakeAction} (hexec : ExecutesQueuedLock (s.threads i) act)
    (hfollow : UnderFollow s.gateway) :
    act.reason = commandTimeoutReason ∨ act.queuedAt < s.gateway.counters.accepted := by
  have hlock := h.locksJustified.executed i act hexec
  rcases hlock.le.lt_or_eq with hlt | heq
  · exact .inr hlt
  · exact .inl (hlock.watchdog heq hfollow.2)

theorem lock_under_follow_watchdogLockRun :
    ∃ s, ∃ act : BrakeAction, Runs.exec (step defaultParameters) (System.init (millis 1))
        watchdogLockRun = some s ∧
      (act.reason = commandTimeoutReason ∨ act.queuedAt < s.gateway.counters.accepted) := by
  obtain ⟨s, hs, hreach, hfacts⟩ := Runs.reachable_of_run
    (step defaultParameters) (System.init (millis 1)) watchdogLockRun
    (fun s => decide (UnderFollow s.gateway) && (s.threads 0).brakeAction?.any fun act =>
      !act.release && !act.force)
    (by decide +kernel)
  rw [Bool.and_eq_true, decide_eq_true_eq, Option.any_eq_true] at hfacts
  obtain ⟨hfollow, act, hact, hlock⟩ := hfacts
  rw [Bool.and_eq_true, Bool.not_eq_true', Bool.not_eq_true'] at hlock
  exact ⟨s, act, hs, lock_under_follow hreach (i := 0) ⟨hact, hlock⟩ hfollow⟩

end Gateway

end JointController
