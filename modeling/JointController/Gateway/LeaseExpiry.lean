import JointController.Gateway.Changes

/-!
# The end of a silent lease

A lease whose owner falls silent has a deadline, and the watchdog is there to end it.  From the
deadline on every tick begins the revoking HOLD again, with a new generation and a new time, so the
fallback for a HOLD that is not acknowledged never finds one that is overdue.

* `LeaseLive`: an active lease is not in fault, and a revocation waits for a pending HOLD.
* `watchdogTick_ends_iff`: the ticks that end a lease.
* `Silent`, `turn_ends_iff`: the steps that end a lease whose owner is silent and whose controllers
  do not acknowledge.
* `expiry_restarts_forever`: a silent lease outlives its deadline.
* `lease_ends_iff`: the silent runs in which the lease ends.
-/

namespace JointController

namespace Gateway

variable {p : Parameters} {now : ℕ} {g g' : Gateway}

/-! ## Live leases -/

/-- An active lease is not in fault, and a revocation waits for a pending HOLD. -/
structure LeaseLive (g : Gateway) : Prop where
  state : g.lease.active = true → g.lease.state ≠ .fault
  revoke : g.lease.active = true → g.transaction.revokeAfterAck = true →
    g.transaction.pendingValid = true

theorem leaseLive_of_inactive (h : g.lease.active = false) : LeaseLive g :=
  ⟨fun ha => absurd ha (Bool.eq_false_iff.mp h), fun ha => absurd ha (Bool.eq_false_iff.mp h)⟩

/-- What a safety HOLD leaves behind. -/
structure SafetyHeld (now : ℕ) (revoke : Bool) (g g' : Gateway) : Prop where
  active : g'.lease.active = true
  state : g'.lease.state = if revoke then .stopping else .leasedHold
  deadline : g'.lease.deadline = g.lease.deadline
  lastAcceptedCommandTime : g'.lease.lastAcceptedCommandTime = g.lease.lastAcceptedCommandTime
  pendingValid : g'.transaction.pendingValid = true
  pendingTime : g'.transaction.pendingTime = now
  revokeAfterAck : g'.transaction.revokeAfterAck = revoke
  feedback : g'.feedback = g.feedback

theorem beginSafetyHoldLocked_held (p : Parameters) (now : ℕ) (reason : String) (revoke : Bool)
    (h : g.lease.active = true) :
    SafetyHeld now revoke g (beginSafetyHoldLocked p g now reason revoke) := by
  unfold beginSafetyHoldLocked
  rw [if_neg (not_not.mpr h)]
  dsimp only
  rw [queueHoldLock_eq]
  exact ⟨h, rfl, rfl, rfl, rfl, rfl, rfl, rfl⟩

theorem SafetyHeld.leaseLive {revoke : Bool} (h : SafetyHeld now revoke g g') : LeaseLive g' := by
  refine ⟨fun _ => ?_, fun _ _ => h.pendingValid⟩
  rw [h.state]
  split_ifs <;> rintro ⟨⟩

theorem Change.leaseLive (hg : LeaseLive g) (h : Change p now g g') : LeaseLive g' := by
  cases h with
  | quiet _ _ hlease htransaction _ _ _ _ =>
    refine ⟨?_, ?_⟩
    · rw [hlease]
      exact hg.state
    · rw [hlease, htransaction]
      exact hg.revoke
  | report _ hinactive => exact leaseLive_of_inactive hinactive
  | lock _ =>
    refine ⟨?_, ?_⟩
    · rw [queueBrakeLockLocked_lease]
      exact hg.state
    · rw [queueBrakeLockLocked_lease, queueBrakeLockLocked_transaction]
      exact hg.revoke
  | hold reason revoke hactive _ =>
    exact (beginSafetyHoldLocked_held p now reason revoke hactive).leaseLive
  | clear reason _ => exact leaseLive_of_inactive (clearHeavyLeaseLocked_active _ _)

theorem leaseLive_dispatch (g : Gateway) (c : Command) (arrival : ℕ) :
    LeaseLive (dispatchUserCommandLocked p g c arrival now) := by
  refine ⟨fun _ => ?_, fun _ hrevoke => ?_⟩
  · simp only [dispatchUserCommandLocked, queueDispatchLock_lease, dispatchedState]
    split_ifs <;> rintro ⟨⟩
  · simp [dispatchUserCommandLocked] at hrevoke

theorem confirmPending_state (g : Gateway) :
    (confirmPending g).lease.state = .leasedHold ∨
      (confirmPending g).lease.state = g.lease.state := by
  by_cases haligned : g.lease.alignedHold = true
  · by_cases hstop : g.lease.state = .stopping ∧ ¬ g.transaction.revokeAfterAck
    · exact .inl (by simp [confirmPending, hstop])
    · exact .inr (by simp only [confirmPending, haligned, hstop, not_true_eq_false, if_false])
  · exact .inl (by simp [confirmPending, haligned])

theorem TurnCase.leaseLive {pc : Pc} {a : Action} (hg : LeaseLive g)
    (h : TurnCase p now g pc a g') : LeaseLive g' := by
  cases h with
  | grant request random _ => exact ⟨fun _ heq => (nomatch heq), fun _ hrevoke => nomatch hrevoke⟩
  | admission c arrival =>
    rcases commandAdmit_cases p g c arrival now with ⟨_, h, -, -⟩ | ⟨-, -, ⟨-, h⟩ | ⟨-, h⟩⟩
    · rw [h]
      exact ⟨hg.state, hg.revoke⟩
    · rw [h]
      exact ⟨hg.state, hg.revoke⟩
    · rw [h]
      exact leaseLive_dispatch g c arrival
  | ack arm sequence =>
    rcases handleAck_cases p g arm sequence now with ⟨-, _, h, -, -⟩ | ⟨-, rfl, h⟩
    · rw [h]
      exact ⟨hg.state, hg.revoke⟩
    rcases h with ⟨-, h⟩ | ⟨-, ⟨-, h⟩ | ⟨-, -, h⟩ | ⟨hkeep, -, h⟩⟩
    · rw [h]
      exact ⟨hg.state, hg.revoke⟩
    · rw [h]
      exact leaseLive_of_inactive (clearHeavyLeaseLocked_active _ _)
    · rw [h]
      exact ⟨(leaseLive_dispatch _ _ _).state, (leaseLive_dispatch _ _ _).revoke⟩
    · rw [h]
      refine ⟨fun hactive => ?_, fun _ hrevoke => ?_⟩
      · have hstate : g.lease.state ≠ .fault := hg.state hactive
        rcases confirmPending_state (recordAck g arm g.transaction.pendingSequence) with heq | heq
        · rw [heq]
          exact fun hfault => nomatch hfault
        · rw [heq]
          exact hstate
      · exact absurd hrevoke (Bool.eq_false_iff.mp hkeep)
  | changes hchanges =>
    exact hchanges.invariant (I := LeaseLive) hg fun _ _ hinv hchange => hchange.leaseLive hinv

theorem Reachable.leaseLive {startedAt : ℕ} {s : System} (h : Reachable p startedAt s) :
    LeaseLive s.gateway := by
  refine h.induction (I := fun s => LeaseLive s.gateway) (leaseLive_of_inactive rfl) ?_
  intro s l s' hs hstep
  obtain ⟨-, t, ht, rfl⟩ := step_eq_some.mp hstep
  exact (turn_cases ht).leaseLive hs

/-! ## The ticks that end a lease -/

/-- A tick that still finds the deadline ahead, or none set, ends the lease when the pending
command is overdue or when the lease has lost its workspace or its feedback. -/
def TickEndsLease (p : Parameters) (g : Gateway) (now : ℕ) : Prop :=
  ¬ LeaseState.expired g.lease now ∧
    (ackOverdue p g.transaction now ∨ workspaceLost p g now ∨ feedbackLost p g now)

/-- A lease that has been cleared stays cleared under later changes. -/
theorem Changes.inactive (h : Changes p now g g') (hg : g.lease.active = false) :
    g'.lease.active = false :=
  Bool.eq_false_iff.mpr fun ha => Bool.eq_false_iff.mp hg (h.sameLease.active ha)

theorem Tick.brakeLock_active (t : Tick) :
    (t.brakeLock p now).gateway.lease.active = t.gateway.lease.active := by
  rw [Tick.brakeLock]
  dsimp only
  rw [takePendingBrakeActionLocked_eq]
  dsimp only
  unfold updateStateWithoutLeaseLocked
  split <;> rfl

/-- The expiry branch begins the revoking HOLD, whatever it finds. -/
theorem Tick.leaseExpiry_held (t : Tick) (h : LeaseState.expired t.gateway.lease now) :
    SafetyHeld now true t.gateway (t.leaseExpiry p now).gateway := by
  have hactive : ({ t.gateway with counters := { t.gateway.counters with
      leaseExpiries := t.gateway.counters.leaseExpiries + 1 } } : Gateway).lease.active = true :=
    h.1
  have hheld := beginSafetyHoldLocked_held p now (leaseExpiredReason p) true hactive
  rw [Tick.leaseExpiry, if_pos h]
  exact ⟨hheld.active, hheld.state, hheld.deadline, hheld.lastAcceptedCommandTime,
    hheld.pendingValid, hheld.pendingTime, hheld.revokeAfterAck, hheld.feedback⟩

/-- The branches of the watchdog that can end a lease. -/
theorem ends_iff (t : Tick) (hactive : t.gateway.lease.active = true)
    (hstate : t.gateway.lease.state ≠ .fault) :
    (Tick.brakeLock p now <| Tick.readiness p now <| Tick.retryPending p now <|
        Tick.ackTimeout p now <| Tick.revocationFallback p now t).gateway.lease.active = false ↔
      ackOverdue p t.gateway.transaction now ∨ workspaceLost p t.gateway now ∨
        feedbackLost p t.gateway now := by
  by_cases hoverdue : ackOverdue p t.gateway.transaction now
  · refine iff_of_true ?_ (.inl hoverdue)
    refine Changes.inactive ((Tick.retryPending_changes _).trans
      ((Tick.readiness_changes _).trans (Tick.brakeLock_changes _))) ?_
    -- The fallback clears a revoked lease, and the fault any other.
    by_cases hrevoke : t.gateway.transaction.revokeAfterAck = true
    · refine Changes.inactive (Tick.ackTimeout_changes _) ?_
      simp [Tick.revocationFallback, hactive, hrevoke, hoverdue]
    · have hskip : Tick.revocationFallback p now t = t := by
        simp [Tick.revocationFallback, hrevoke]
      rw [hskip]
      simp [Tick.ackTimeout, hactive, hstate, hoverdue]
  · have hskip : Tick.ackTimeout p now (Tick.revocationFallback p now t) = t := by
      simp [Tick.ackTimeout, Tick.revocationFallback, hoverdue]
    rw [hskip]
    simp only [hoverdue, false_or]
    set t₁ := Tick.retryPending p now t with ht₁
    have hretry : t₁.gateway.lease = t.gateway.lease ∧ t₁.gateway.feedback = t.gateway.feedback ∧
        t₁.gateway.transaction.revokeAfterAck = t.gateway.transaction.revokeAfterAck := by
      rw [ht₁]
      unfold Tick.retryPending
      dsimp only
      split_ifs <;> exact ⟨rfl, rfl, rfl⟩
    have hworkspace : workspaceLost p t₁.gateway now ↔ workspaceLost p t.gateway now := by
      rw [workspaceLost, workspaceLost, hretry.1, hretry.2.1, hretry.2.2]
    have hfeedback : feedbackLost p t₁.gateway now ↔ feedbackLost p t.gateway now := by
      rw [feedbackLost, feedbackLost, hretry.1, hretry.2.1]
    rw [← hworkspace, ← hfeedback]
    by_cases hlost : workspaceLost p t₁.gateway now ∨ feedbackLost p t₁.gateway now
    · refine iff_of_true (Changes.inactive (Tick.brakeLock_changes _) ?_) hlost
      unfold Tick.readiness
      dsimp only
      split_ifs with hw hf
      · simp [holdAndClear]
      · simp [holdAndClear]
      · exact absurd hlost (not_or.mpr ⟨hw, hf⟩)
    · refine iff_of_false (fun hend => ?_) hlost
      have hready : Tick.readiness p now t₁ = t₁ := by
        rw [not_or] at hlost
        simp [Tick.readiness, hlost]
      rw [hready] at hend
      rw [Tick.brakeLock_active, hretry.1, hactive] at hend
      exact nomatch hend

theorem expired_congr (hdeadline : g'.lease.deadline = g.lease.deadline)
    (htime : g'.lease.lastAcceptedCommandTime = g.lease.lastAcceptedCommandTime)
    (hactive : g'.lease.active = g.lease.active) :
    LeaseState.expired g'.lease now ↔ LeaseState.expired g.lease now := by
  rw [LeaseState.expired, LeaseState.expired, hdeadline, htime, hactive]

/-- A HOLD that has just begun is not overdue. -/
theorem SafetyHeld.not_overdue {revoke : Bool} (h : SafetyHeld now revoke g g') :
    ¬ ackOverdue p g'.transaction now := by
  rw [ackOverdue, h.pendingTime, Nat.sub_self]
  exact fun ho => Nat.not_lt_zero _ ho.2

/-- The ticks that end an active lease are those before its deadline that find something lost or
overdue. -/
theorem watchdogTick_ends_iff (hg : LeaseLive g) (hactive : g.lease.active = true) :
    (watchdogTick p g now).gateway.lease.active = false ↔ TickEndsLease p g now := by
  have hstate := hg.state hactive
  unfold watchdogTick TickEndsLease
  set t₀ : Tick := ⟨g, false, none, none⟩ with ht₀
  -- After the command watchdog the lease has the same deadline, and the same things are lost.
  obtain ⟨hactive₁, hstate₁, hexpired, hoverdue, hworkspace, hfeedback⟩ :
      (t₀.commandTimeout p now).gateway.lease.active = true ∧
      (t₀.commandTimeout p now).gateway.lease.state ≠ .fault ∧
      (LeaseState.expired (t₀.commandTimeout p now).gateway.lease now ↔
        LeaseState.expired g.lease now) ∧
      (ackOverdue p (t₀.commandTimeout p now).gateway.transaction now ↔
        ackOverdue p g.transaction now) ∧
      (workspaceLost p (t₀.commandTimeout p now).gateway now ↔ workspaceLost p g now) ∧
      (feedbackLost p (t₀.commandTimeout p now).gateway now ↔ feedbackLost p g now) := by
    unfold Tick.commandTimeout
    dsimp only [ht₀]
    split_ifs with htimeout
    · have hheld := beginSafetyHoldLocked_held p now commandTimeoutReason false
        hactive
      obtain ⟨-, hfree, hfollowing, -⟩ := htimeout
      have hkeep : g.transaction.revokeAfterAck = false :=
        Bool.eq_false_iff.mpr fun hrevoke => hfree (hg.revoke hactive hrevoke)
      refine ⟨hheld.active, hheld.leaseLive.state hheld.active,
        expired_congr hheld.deadline hheld.lastAcceptedCommandTime
          (hheld.active.trans hactive.symm),
        iff_of_false hheld.not_overdue fun ho => hfree ho.1, ?_, ?_⟩
      · rw [workspaceLost, workspaceLost, hheld.active, hactive, hheld.revokeAfterAck, hkeep,
          hheld.feedback]
      · rw [feedbackLost, feedbackLost, hheld.active, hactive, hheld.state, hfollowing,
          hheld.feedback]
        simp
    · exact ⟨hactive, hstate, .rfl, .rfl, .rfl, .rfl⟩
  set t₁ := t₀.commandTimeout p now
  by_cases hpast : LeaseState.expired t₁.gateway.lease now
  · refine iff_of_false ?_ fun h => h.1 (hexpired.mp hpast)
    -- The revoking HOLD begins again, and the rest of the tick finds nothing to do.
    have hheld := Tick.leaseExpiry_held (p := p) t₁ hpast
    rw [ends_iff _ hheld.active (hheld.leaseLive.state hheld.active)]
    rintro (ho | hw | hf)
    · exact hheld.not_overdue ho
    · exact hw.2.1 hheld.revokeAfterAck
    · exact hf.2.2.2 hheld.state
  · have hskip : Tick.leaseExpiry p now t₁ = t₁ := by
      rw [Tick.leaseExpiry, if_neg hpast]
    rw [hskip, ends_iff t₁ hactive₁ hstate₁, hoverdue, hworkspace, hfeedback]
    exact (and_iff_right (fun h => hpast (hexpired.mpr h))).symm

/-! ## The steps that end a lease -/

/-- The owner neither commands nor releases, and no acknowledgement arrives.  A command or a release
that does not name the lease may be handled. -/
def Silent (s : System) (l : Label) : Prop :=
  match l.action with
  | .ack _ _ => False
  | .admission => ∀ c arrival, s.threads l.thread = .commanding c arrival →
      c.ownerId ≠ s.gateway.lease.ownerId ∨ c.leaseId ≠ s.gateway.lease.leaseId
  | .release request =>
      request.ownerId ≠ s.gateway.lease.ownerId ∨ request.leaseId ≠ s.gateway.lease.leaseId
  | _ => True

/-- The step ends an active lease: it is a tick that does, or the end of the wait of a release that
had begun before. -/
def LeaseEnds (p : Parameters) (s : System) (l : Label) : Prop :=
  match l.action with
  | .tick => TickEndsLease p s.gateway l.now
  | .releaseWake => ∃ request lease deadline,
      s.threads l.thread = .releasing request lease deadline ∧ deadline ≤ l.now
  | _ => False

/-- No lease is active. -/
def Ended (s : System) : Prop := s.gateway.lease.active = false

theorem not_ended_of_lease (hactive : g.lease.active = true) (h : g'.lease = g.lease) :
    ¬ g'.lease.active = false := by
  rw [h, hactive]
  exact Bool.noConfusion

/-- A command that does not name the lease is only counted. -/
theorem commandAdmit_lease {c : Command} {arrival : ℕ}
    (h : c.ownerId ≠ g.lease.ownerId ∨ c.leaseId ≠ g.lease.leaseId) :
    (commandAdmit p g c arrival now).2.lease = g.lease := by
  rcases commandAdmit_cases p g c arrival now with ⟨_, heq, -, -⟩ | ⟨hvalid, -, -⟩
  · rw [heq]
  · have hidentity := (validateCommandLocked_eq_ok.mp hvalid).1
    simp only [validateIdentity, Checks.guard_eq_ok, not_or, not_not] at hidentity
    exact (h.elim (fun hne => hne hidentity.2.2.1.2.1) fun hne => hne hidentity.2.2.1.2.2).elim

/-- Of the silent turns exactly those that `LeaseEnds` describes end the lease. -/
theorem turn_ends_iff {s : System} {l : Label} {t : Turn} (hlive : LeaseLive s.gateway)
    (hactive : s.gateway.lease.active = true) (hsilent : Silent s l)
    (h : turn p l.now s.gateway (s.threads l.thread) l.action = some t) :
    t.gateway.lease.active = false ↔ LeaseEnds p s l := by
  have hno : ∀ {t' : Turn}, t'.gateway.lease = s.gateway.lease →
      ¬ t'.gateway.lease.active = false :=
    fun h => not_ended_of_lease hactive h
  obtain ⟨now, thread, action⟩ := l
  dsimp only at h
  generalize hpc : s.threads thread = pc at h
  unfold turn at h
  split at h
  · next sample =>
    cases h
    obtain ⟨feedback, locked, hr⟩ := receive_eq p s.gateway now sample
    exact iff_of_false (hno (by rw [hr])) id
  · exact False.elim hsilent
  · cases h
    exact watchdogTick_ends_iff hlive hactive
  · cases h
    refine iff_of_false (hno ?_) id
    rw [commandTurn_gateway]
    unfold commandPreflight
    dsimp only
    split_ifs <;> rfl
  · next c arrival =>
    cases h
    refine iff_of_false (hno ?_) id
    rw [admitTurn_gateway]
    exact commandAdmit_lease (hsilent c arrival hpc)
  · cases h
    refine iff_of_false (hno ?_) id
    unfold acquireTurn
    split_ifs <;> rfl
  · next request random =>
    cases h
    refine iff_of_false (hno ?_) id
    rw [grantTurn_gateway]
    unfold acquireGrant
    dsimp only
    split
    · rfl
    · next hcheck =>
      have hinactive := inactive_of_recheck hcheck
      exact absurd hinactive (not_ended_of_lease hactive rfl)
  · cases h
    exact iff_of_false (hno rfl) id
  · next request =>
    cases h
    refine iff_of_false (hno ?_) id
    rw [releaseTurn_gateway]
    unfold releaseBegin
    rw [if_pos (.inr hsilent)]
  · next request lease deadline =>
    unfold releaseWakeTurn releaseWake at h
    rw [if_neg (not_not.mpr hactive)] at h
    split_ifs at h with hdeadline
    · cases h
      exact iff_of_true (clearHeavyLeaseLocked_active _ _)
        ⟨request, lease, deadline, hpc, hdeadline⟩
  · cases h
    refine iff_of_false (hno ?_) id
    unfold liftBrakeTurn
    split_ifs <;> rfl
  · cases h
    exact iff_of_false (hno rfl) id
  · rw [Option.map_eq_some_iff] at h
    obtain ⟨phase, -, rfl⟩ := h
    exact iff_of_false (hno rfl) id
  · cases h
    exact iff_of_false (hno rfl) id
  · cases h
    refine iff_of_false (hno ?_) id
    unfold finishBrakeAction
    split_ifs <;> rfl
  · next m owed next locked =>
    cases h
    refine iff_of_false (hno ?_) id
    cases m with
    | leaseGate active change => rfl
    | internalCommand c =>
      simp only [publishTurn, publishInternalCommand]
      split <;> rfl
  · cases h

/-! ## Bounded expiry -/

/-- The action is a tick of the watchdog. -/
def Action.isTick : Action → Bool
  | .tick => true
  | _ => false

/-- No step of the run comes later than one spacing after the tick before it. -/
def TicksEvery (spacing : ℕ) : ℕ → List Label → Prop
  | _, [] => True
  | last, l :: ls =>
    l.now ≤ last + spacing ∧ TicksEvery spacing (if l.action.isTick then l.now else last) ls

instance decidableTicksEvery (spacing : ℕ) : ∀ last run, Decidable (TicksEvery spacing last run)
  | _, [] => inferInstanceAs (Decidable True)
  | last, l :: ls =>
    have := decidableTicksEvery spacing (if l.action.isTick then l.now else last) ls
    inferInstanceAs (Decidable (l.now ≤ last + spacing ∧ _))

/-- A silent lease with a deadline has ended at the first tick that comes later than the deadline,
the acknowledgement timeout and one spacing of the ticks together. -/
def ExpiryBounded (p : Parameters) (startedAt : ℕ) : Prop :=
  ∀ s run tick s' spacing, Reachable p startedAt s → s.gateway.lease.active = true →
    s.gateway.lease.lastAcceptedCommandTime ≠ 0 →
    Runs.Meets (step p) Silent s (run ++ [tick]) → TicksEvery spacing s.clock (run ++ [tick]) →
    Runs.exec (step p) s (run ++ [tick]) = some s' → tick.action.isTick = true →
    s.gateway.lease.deadline + p.controllerAckTimeout + spacing < tick.now →
    Runs.Visits (step p) Ended s (run ++ [tick])

/-- A HOLD is applied, and its owner falls silent. -/
def appliedHoldRun : List Label :=
  stepsAt (millis 2) 0
      ((completeFeedback defaultParameters .simulation true 0).map Action.sample ++
        [Action.acquire (acquireRequest "upper"), .grant 7, .publish true, .publish true,
          .ack true 1, .ack false 1]) ++
    stepsAt (millis 3) 0
      [.command (restCommand "upper" (generateLeaseId "upper" 7 (millis 2) 1) 1000001
          Command.modeHold), .admission, .publish true, .ack true 2, .ack false 2]

/-- The watchdog ticks every quarter of a second, with fresh feedback until the deadline.  Its first
tick locks the brake for the HOLD. -/
def silentTicks : List Label :=
  let feedback := (completeFeedback defaultParameters .simulation true 0).map Action.sample
  stepsAt (millis 250) 0 (feedback ++ [Action.tick, .brakeReply true "", .brakeFinish]) ++
    stepsAt (millis 500) 0 (feedback ++ [Action.tick]) ++ stepsAt (millis 750) 0 [.tick]

/-- The steps that are silent whatever the state is. -/
def silent (_ : System) (l : Label) : Bool :=
  match l.action with
  | .ack _ _ | .admission | .release _ => false
  | _ => true

theorem silent_of_test {s : System} {l : Label} (h : silent s l = true) : Silent s l := by
  obtain ⟨now, thread, action⟩ := l
  cases action <;> trivial

/-- The expiry of a silent lease is not bounded: the tick that should find its HOLD overdue begins
the HOLD again. -/
theorem expiry_restarts_hold : ¬ ∀ p startedAt, ExpiryBounded p startedAt := by
  intro hclaim
  have hrun : ((Runs.exec (step defaultParameters) (System.init (millis 1)) appliedHoldRun).any
      fun s =>
        let run := silentTicks ++ [⟨millis 1000, 0, .tick⟩]
        s.gateway.lease.active && decide (s.gateway.lease.lastAcceptedCommandTime ≠ 0) &&
        Runs.passes (step defaultParameters) silent s run &&
        decide (TicksEvery (millis 250) s.clock run) &&
        (Runs.exec (step defaultParameters) s run).isSome &&
        decide (s.gateway.lease.deadline + defaultParameters.controllerAckTimeout + millis 250 <
          millis 1000) &&
        Runs.holdsAlong (step defaultParameters) (fun s => s.gateway.lease.active) s run) =
          true := by
    decide +kernel
  obtain ⟨s, -, hreach, hfacts⟩ := Runs.reachable_of_run _ _ _ _ hrun
  simp only [Bool.and_eq_true, decide_eq_true_eq] at hfacts
  obtain ⟨⟨⟨⟨⟨⟨hactive, hset⟩, hsilent⟩, hticks⟩, hexec⟩, hbound⟩, halong⟩ := hfacts
  obtain ⟨s', hs'⟩ := Option.isSome_iff_exists.mp hexec
  have hends := hclaim _ _ s silentTicks ⟨millis 1000, 0, .tick⟩ s' (millis 250) hreach hactive hset
    (Runs.meets_of_passes (fun _ _ => silent_of_test) hsilent) hticks hs' rfl hbound
  refine Runs.Always.not_visits (Runs.always_of_holdsAlong (fun s hs => ?_) halong) hends
  exact fun hended => Bool.eq_false_iff.mp hended hs

/-- A silent lease ends during a run exactly when one of its steps ends it: a tick before the
deadline that finds the pending command overdue or the workspace or the feedback lost, or the
timeout of a release that was waiting. -/
theorem lease_ends_iff {startedAt : ℕ} {s s' : System} {run : List Label}
    (h : Reachable p startedAt s) (hactive : s.gateway.lease.active = true)
    (hsilent : Runs.Meets (step p) Silent s run) (hexec : Runs.exec (step p) s run = some s') :
    Runs.Visits (step p) Ended s run ↔ Runs.Somewhere (step p) (LeaseEnds p) s run := by
  refine Runs.visits_iff_somewhere (I := fun s => LeaseLive s.gateway) ?_ ?_ h.leaseLive
    (fun hended => Bool.eq_false_iff.mp hended hactive) hsilent hexec
  · intro s l s' hlive _ _ hstep
    obtain ⟨-, t, ht, rfl⟩ := step_eq_some.mp hstep
    exact (turn_cases ht).leaseLive hlive
  · intro s l s' hlive hopen hsilent hstep
    obtain ⟨-, t, ht, rfl⟩ := step_eq_some.mp hstep
    exact turn_ends_iff hlive (Bool.not_eq_false _ |>.mp hopen) hsilent ht

theorem lease_ends_iff_silentTicks :
    ∃ s, Runs.exec (step defaultParameters) (System.init (millis 1)) appliedHoldRun = some s ∧
      (Runs.Visits (step defaultParameters) Ended s silentTicks ↔
        Runs.Somewhere (step defaultParameters) (LeaseEnds defaultParameters) s silentTicks) := by
  obtain ⟨s, hs, hreach, hfacts⟩ := Runs.reachable_of_run
    (step defaultParameters) (System.init (millis 1)) appliedHoldRun
    (fun s => s.gateway.lease.active &&
      Runs.passes (step defaultParameters) silent s silentTicks &&
      (Runs.exec (step defaultParameters) s silentTicks).isSome)
    (by decide +kernel)
  simp only [Bool.and_eq_true] at hfacts
  obtain ⟨⟨hactive, hsilent⟩, hexec⟩ := hfacts
  obtain ⟨s', hs'⟩ := Option.isSome_iff_exists.mp hexec
  exact ⟨s, hs, lease_ends_iff hreach hactive
    (Runs.meets_of_passes (fun _ _ => silent_of_test) hsilent) hs'⟩

end Gateway

end JointController
