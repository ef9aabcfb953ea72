import JointController.Gateway.Changes
import JointController.Library.CriticalSection

/-!
# Transitions of the lift brake

A brake transition begins in a locked section, which sets the flag of the transition, and ends in
the last section of `executeBrakeAction`, which clears it; in between the native service is called
without the mutex.  Four handlers begin one.  Three of them read the flag first, and the lease
preparation of `handleAcquire` does not.

* `Pc.brakeAction?`, `InFlight`: the action that a handler has begun, and the handlers in which
  `executeBrakeAction` runs.
* `Begins`, `turn_brake`: the inversion of a turn with respect to the brake.
* `BrakeExclusive`: at most one transition is in flight, and the flag is set while it is.
* `prepare_during_transition`: a lease preparation runs next to a transition.
* `transitionsExclusive_iff`, `brakeExclusive_of_preparesWhenIdle`: the runs without overlap.
-/

namespace JointController

namespace Gateway

open Relation

variable {p : Parameters} {now : ℕ} {g g' : Gateway}

/-! ## Frames -/

@[simp] theorem queueBrakeLockLocked_transition (g : Gateway) (reason : String) (force : Bool) :
    (queueBrakeLockLocked g reason force).brake.transitionInProgress =
      g.brake.transitionInProgress := by
  unfold queueBrakeLockLocked
  split <;> rfl

@[simp] theorem beginSafetyHoldLocked_transition (g : Gateway) (reason : String) (revoke : Bool) :
    (beginSafetyHoldLocked p g now reason revoke).brake.transitionInProgress =
      g.brake.transitionInProgress := by
  unfold beginSafetyHoldLocked
  dsimp only
  split_ifs <;> simp

@[simp] theorem holdAndClear_transition (g : Gateway) (reason : String) :
    (holdAndClear p g now reason).brake.transitionInProgress = g.brake.transitionInProgress := by
  simp [holdAndClear]

@[simp] theorem queueDispatchLock_transition (l : LeaseState) (mode : ℕ) (g : Gateway) :
    (queueDispatchLock l mode g).brake.transitionInProgress = g.brake.transitionInProgress := by
  unfold queueDispatchLock
  split_ifs <;> simp

@[simp] theorem dispatchUserCommandLocked_transition (g : Gateway) (c : Command) (arrival : ℕ) :
    (dispatchUserCommandLocked p g c arrival now).brake.transitionInProgress =
      g.brake.transitionInProgress := by
  simp [dispatchUserCommandLocked]

theorem commandAdmit_transition (g : Gateway) (c : Command) (arrival : ℕ) :
    (commandAdmit p g c arrival now).2.brake.transitionInProgress =
      g.brake.transitionInProgress := by
  rcases commandAdmit_cases p g c arrival now with ⟨_, h, -, -⟩ | ⟨-, -, ⟨-, h⟩ | ⟨-, h⟩⟩
  · rw [h]
  · rw [h, stageCommand]
  · rw [h, dispatchUserCommandLocked_transition]

theorem handleAck_transition (g : Gateway) (arm : Bool) (sequence : ℕ) :
    (handleAck p g arm sequence now).2.brake.transitionInProgress =
      g.brake.transitionInProgress := by
  rcases handleAck_cases p g arm sequence now with ⟨-, _, h, -, -⟩ | ⟨-, rfl, h⟩
  · rw [h]
  rcases h with ⟨-, h⟩ | ⟨-, ⟨-, h⟩ | ⟨-, -, h⟩ | ⟨-, -, h⟩⟩
  · rw [h, recordAck]
  · rw [h, clearHeavyLeaseLocked_brake]
    rfl
  · rw [h]
    simp [promoteStaged, confirmPending, recordAck]
  · rw [h, confirmPending, recordAck]

/-! ### The watchdog -/

section TickFrame

variable (t : Tick)

theorem Tick.commandTimeout_transition :
    (t.commandTimeout p now).gateway.brake.transitionInProgress =
      t.gateway.brake.transitionInProgress := by
  unfold Tick.commandTimeout
  dsimp only
  split_ifs <;> simp

theorem Tick.leaseExpiry_transition :
    (t.leaseExpiry p now).gateway.brake.transitionInProgress =
      t.gateway.brake.transitionInProgress := by
  unfold Tick.leaseExpiry
  dsimp only
  split_ifs <;> simp

theorem Tick.revocationFallback_transition :
    (t.revocationFallback p now).gateway.brake.transitionInProgress =
      t.gateway.brake.transitionInProgress := by
  unfold Tick.revocationFallback
  dsimp only
  split_ifs <;> simp

theorem Tick.ackTimeout_transition :
    (t.ackTimeout p now).gateway.brake.transitionInProgress =
      t.gateway.brake.transitionInProgress := by
  unfold Tick.ackTimeout
  dsimp only
  split_ifs <;> simp

theorem Tick.retryPending_transition :
    (t.retryPending p now).gateway.brake.transitionInProgress =
      t.gateway.brake.transitionInProgress := by
  unfold Tick.retryPending
  dsimp only
  split_ifs <;> rfl

theorem Tick.readiness_transition :
    (t.readiness p now).gateway.brake.transitionInProgress =
      t.gateway.brake.transitionInProgress := by
  unfold Tick.readiness
  dsimp only
  split_ifs <;> simp

end TickFrame

@[simp] theorem updateStateWithoutLeaseLocked_brake (g : Gateway) :
    (updateStateWithoutLeaseLocked p g now).brake = g.brake := by
  unfold updateStateWithoutLeaseLocked
  split <;> rfl

/-- A queued lock is taken when no transition is in progress, or the flag stays as it is. -/
theorem takePendingBrakeActionLocked_cases (p : Parameters) (g : Gateway) (now : ℕ) :
    ((takePendingBrakeActionLocked p g now).1 = none ∧
      (takePendingBrakeActionLocked p g now).2.brake.transitionInProgress =
        g.brake.transitionInProgress) ∨
    (g.brake.lockPending = true ∧ g.brake.transitionInProgress = false ∧
      (takePendingBrakeActionLocked p g now).1 =
        some ⟨false, g.brake.pendingReason, g.brake.lockForce, g.brake.queuedAt⟩ ∧
      (takePendingBrakeActionLocked p g now).2.brake.transitionInProgress = true) := by
  unfold takePendingBrakeActionLocked
  split
  · exact .inl ⟨rfl, rfl⟩
  next hfree =>
  split
  · exact .inl ⟨rfl, rfl⟩
  split
  · exact .inl ⟨rfl, rfl⟩
  · rw [not_or, not_or, not_not] at hfree
    exact .inr ⟨hfree.1, Bool.eq_false_iff.mpr hfree.2.1, rfl, rfl⟩

/-! ## Beginning a transition -/

/-- The brake action that a handler has begun. -/
def Pc.brakeAction? : Pc → Option BrakeAction
  | .braking action _ _ => some action
  | .publishing _ _ next => next
  | _ => none

@[simp] theorem brakeAction?_owing (owed : List Publication) (next : Option BrakeAction) :
    (Pc.owing owed next).brakeAction? = next := by
  rcases owed with _ | ⟨m, owed⟩
  · cases next <;> rfl
  · rfl

@[simp] theorem brakeAction?_resume (caller : BrakeCaller) (confirmed : Bool) :
    (caller.resume confirmed).brakeAction? = none := by
  cases caller <;> cases confirmed <;> rfl

/-- The preparation of a lease is admitted and has to enable the lift. -/
def PreparesLift (p : Parameters) (g : Gateway) (request : AcquireRequest) (now : ℕ) : Prop :=
  acquireCheck p g request now = .ok () ∧ enablesLift p g.feedback now = true

instance (p : Parameters) (g : Gateway) (request : AcquireRequest) (now : ℕ) :
    Decidable (PreparesLift p g request now) := by
  unfold PreparesLift; infer_instance

/-- How a locked section at time `now` begins a brake action. -/
inductive Begins (p : Parameters) (now : ℕ) (g : Gateway) :
    Action → BrakeAction → Gateway → Prop where
  /-- `handleAcquire` enables the lift, without reading the flag. -/
  | prepare (request : AcquireRequest) : PreparesLift p g request now →
      Begins p now g (.acquire request) enableAction (prepareLease p g now)
  /-- `handleCommand` releases the brake. -/
  | follow (c : Command) {act : BrakeAction} {g' : Gateway} : act.release = true →
      g.brake.transitionInProgress = false → Begins p now g (.command c) act g'
  /-- `handleLiftBrake` moves it. -/
  | explicit (request : LiftBrakeRequest) : g.brake.transitionInProgress = false →
      Begins p now g (.liftBrake request) (liftBrakeAction g request) (beginTransition g)
  /-- The watchdog takes the queued lock of the state that it has come to. -/
  | queued (g₁ : Gateway) {g' : Gateway} : Changes p now g g₁ → g₁.brake.lockPending = true →
      g.brake.transitionInProgress = false → g'.counters = g₁.counters →
      g'.history = g₁.history →
      Begins p now g .tick ⟨false, g₁.brake.pendingReason, g₁.brake.lockForce, g₁.brake.queuedAt⟩ g'

/-- What a turn does to the brake: the handler keeps the action that it has begun, or it finishes
it, or it begins one. -/
inductive BrakeTurn (p : Parameters) (now : ℕ) (g : Gateway) (pc : Pc) (a : Action) (t : Turn) :
    Prop where
  | keep : t.pc.brakeAction? = pc.brakeAction? →
      t.gateway.brake.transitionInProgress = g.brake.transitionInProgress → BrakeTurn p now g pc a t
  | finish {act : BrakeAction} : pc.brakeAction? = some act → t.pc.brakeAction? = none →
      t.gateway.brake.transitionInProgress = false → BrakeTurn p now g pc a t
  | begin {act : BrakeAction} : pc.brakeAction? = none → t.pc.brakeAction? = some act →
      t.gateway.brake.transitionInProgress = true → Begins p now g a act t.gateway →
      BrakeTurn p now g pc a t

theorem tickTurn_brake {pc : Pc} (hpc : pc.brakeAction? = none) :
    BrakeTurn p now g pc .tick (tickTurn p now g) := by
  -- The state in which the watchdog looks for a queued lock.
  set t₀ : Tick := ⟨g, false, none, none⟩
  set t₁ := Tick.readiness p now <| Tick.retryPending p now <| Tick.ackTimeout p now <|
    Tick.revocationFallback p now <| Tick.leaseExpiry p now <| Tick.commandTimeout p now t₀ with ht₁
  set g₁ := updateStateWithoutLeaseLocked p t₁.gateway now with hg₁
  have hflag : g₁.brake.transitionInProgress = g.brake.transitionInProgress := by
    rw [hg₁, updateStateWithoutLeaseLocked_brake, ht₁, Tick.readiness_transition,
      Tick.retryPending_transition, Tick.ackTimeout_transition, Tick.revocationFallback_transition,
      Tick.leaseExpiry_transition, Tick.commandTimeout_transition]
  have hchanges : Changes p now g g₁ :=
    ((t₀.commandTimeout_changes).trans <| (Tick.leaseExpiry_changes _).trans <|
      (Tick.revocationFallback_changes _).trans <| (Tick.ackTimeout_changes _).trans <|
      (Tick.retryPending_changes _).trans <| (Tick.readiness_changes _).trans
        updateStateWithoutLeaseLocked_changes)
  have hpc' : (tickTurn p now g).pc.brakeAction? = (takePendingBrakeActionLocked p g₁ now).1 :=
    brakeAction?_owing _ _
  have hgateway : (tickTurn p now g).gateway = (takePendingBrakeActionLocked p g₁ now).2 := rfl
  rcases takePendingBrakeActionLocked_cases p g₁ now with
    ⟨hnone, hkeep⟩ | ⟨hpend, hfree, hact, hset⟩
  · exact .keep (by rw [hpc', hnone, hpc]) (by rw [hgateway, hkeep, hflag])
  · refine .begin hpc (hpc'.trans hact) (by rw [hgateway, hset]) ?_
    refine .queued g₁ hchanges hpend (hflag ▸ hfree) ?_ ?_
    · rw [hgateway, takePendingBrakeActionLocked_eq]
    · rw [hgateway, takePendingBrakeActionLocked_eq]

theorem commandTurn_brake {pc : Pc} (hpc : pc.brakeAction? = none) (c : Command) :
    BrakeTurn p now g pc (.command c) (commandTurn p now g c) := by
  unfold commandTurn commandPreflight
  dsimp only
  split_ifs with h
  · exact .begin hpc rfl rfl (.follow c rfl (Bool.eq_false_iff.mpr h.2.2.2.2.2.2.2.2.1))
  · exact .keep hpc.symm rfl

theorem acquireTurn_brake {pc : Pc} (hpc : pc.brakeAction? = none) (request : AcquireRequest) :
    BrakeTurn p now g pc (.acquire request) (acquireTurn p now g request) := by
  unfold acquireTurn
  split_ifs with hcheck henable
  · refine .begin hpc rfl ?_ (.prepare request ⟨hcheck, henable⟩)
    simp [prepareLease, henable]
  · refine .keep hpc.symm ?_
    simp [prepareLease, Bool.eq_false_iff.mpr henable]
  · exact .keep hpc.symm rfl

theorem liftBrakeTurn_brake {pc : Pc} (hpc : pc.brakeAction? = none) (request : LiftBrakeRequest) :
    BrakeTurn p now g pc (.liftBrake request) (liftBrakeTurn p now g request) := by
  unfold liftBrakeTurn
  split_ifs with hcheck
  · refine .begin hpc rfl rfl (.explicit request ?_)
    simp only [liftBrakeCheck, Checks.bind_eq_ok, Checks.refuse_eq_ok] at hcheck
    exact Bool.eq_false_iff.mpr hcheck.2.2.2.1
  · exact .keep hpc.symm rfl

theorem finishBrakeAction_transition (g : Gateway) (action : BrakeAction) (confirmed : Bool)
    (error : String) : (finishBrakeAction g action confirmed error).brake.transitionInProgress =
      false := by
  unfold finishBrakeAction
  split <;> rfl

/-- The inversion of a turn with respect to the brake. -/
theorem turn_brake {pc : Pc} {a : Action} {t : Turn} (h : turn p now g pc a = some t) :
    BrakeTurn p now g pc a t := by
  unfold turn at h
  split at h
  · next sample =>
    cases h
    obtain ⟨feedback, locked, hr⟩ := receive_eq p g now sample
    exact .keep rfl (by rw [hr])
  · cases h
    refine .keep ?_ (by rw [ackTurn_gateway, handleAck_transition])
    unfold ackTurn
    split <;> rfl
  · cases h
    exact tickTurn_brake rfl
  · cases h
    exact commandTurn_brake rfl _
  · cases h
    refine .keep ?_ (by rw [admitTurn_gateway, commandAdmit_transition])
    unfold admitTurn
    split <;> rfl
  · cases h
    exact acquireTurn_brake rfl _
  · cases h
    refine .keep ?_ ?_
    · unfold grantTurn
      split <;> rfl
    · rw [grantTurn_gateway]
      unfold acquireGrant
      dsimp only
      split <;> rfl
  · cases h
    exact .keep rfl rfl
  · cases h
    refine .keep ?_ ?_
    · unfold releaseTurn
      split <;> rfl
    · rw [releaseTurn_gateway]
      unfold releaseBegin
      split
      · rfl
      · split
        · rw [clearHeavyLeaseLocked_brake]
        · rw [beginSafetyHoldLocked_transition]
  · unfold releaseWakeTurn releaseWake at h
    split_ifs at h
    · cases h
      exact .keep rfl (by rw [clearHeavyLeaseLocked_brake])
    · cases h
      exact .keep rfl rfl
  · cases h
    exact liftBrakeTurn_brake rfl _
  · cases h
    exact .keep rfl rfl
  · rw [Option.map_eq_some_iff] at h
    obtain ⟨phase, -, rfl⟩ := h
    exact .keep rfl rfl
  · cases h
    exact .keep rfl rfl
  · cases h
    exact .finish rfl (brakeAction?_resume _ _) (finishBrakeAction_transition _ _ _ _)
  · cases h
    next m owed next locked =>
    cases m with
    | leaseGate active change => exact .keep (brakeAction?_owing _ _) rfl
    | internalCommand c =>
      refine .keep (brakeAction?_owing _ _) ?_
      simp only [publishTurn, publishInternalCommand]
      split <;> rfl
  · cases h

/-! ## Exclusion -/

/-- `executeBrakeAction` runs in the handler. -/
def Pc.InFlight : Pc → Prop
  | .braking _ _ _ => True
  | _ => False

instance : DecidablePred Pc.InFlight := fun pc => by
  cases pc <;> unfold Pc.InFlight <;> infer_instance

theorem Pc.InFlight.brakeAction? {pc : Pc} (h : pc.InFlight) : pc.brakeAction?.isSome = true := by
  cases pc <;> first | rfl | exact h.elim

/-- At most one native brake transition is in flight, and the flag is set while it is. -/
structure BrakeExclusive (s : System) : Prop where
  unique : CriticalSection.AtMostOne Pc.InFlight s.threads
  flagged : ∀ i, (s.threads i).InFlight → s.gateway.brake.transitionInProgress = true

/-- A handler starts the native release of the brake, and another handler prepares a lease. -/
def overlapRun : List Label :=
  stepsAt (millis 2) 0
      ((completeFeedback defaultParameters .real false 0).map Action.sample ++
        [Action.liftBrake ⟨true⟩]) ++
    stepsAt (millis 3) 1 [.acquire (acquireRequest "upper")]

/-- Two native brake transitions can be in flight: the preparation of a lease does not wait for the
one that it finds. -/
theorem prepare_during_transition :
    ¬ ∀ p startedAt s, Reachable p startedAt s → BrakeExclusive s := by
  intro hclaim
  obtain ⟨s, -, hreach, hfacts⟩ := Runs.reachable_of_run
    (step defaultParameters) (System.init (millis 1)) overlapRun
    (fun s => decide (s.threads 0).InFlight && decide (s.threads 1).InFlight)
    (by decide +kernel)
  simp only [Bool.and_eq_true, decide_eq_true_eq] at hfacts
  exact absurd ((hclaim _ _ s hreach).unique 0 1 hfacts.1 hfacts.2) (by decide)

/-- A lease preparation that has to enable the lift finds no transition in progress. -/
def PreparesWhenIdle (p : Parameters) (s : System) (l : Label) : Prop :=
  ∀ request, s.threads l.thread = .idle → l.action = .acquire request →
    PreparesLift p s.gateway request l.now → s.gateway.brake.transitionInProgress = false

/-- At most one brake action has been begun and not finished, and the flag is set exactly while
there is one.  An action that the watchdog has taken counts while the watchdog still publishes. -/
def TransitionsExclusive (s : System) : Prop :=
  CriticalSection.Exclusive (fun pc : Pc => pc.brakeAction?.isSome = true) s.threads
    s.gateway.brake.transitionInProgress

theorem TransitionsExclusive.brakeExclusive {s : System} (h : TransitionsExclusive s) :
    BrakeExclusive s where
  unique := fun i j hi hj => h.unique i j hi.brakeAction? hj.brakeAction?
  flagged := fun i hi => h.flagged.mpr ⟨i, hi.brakeAction?⟩

theorem transitionsExclusive_init (startedAt : ℕ) : TransitionsExclusive (System.init startedAt) :=
  .empty fun _ h => nomatch h

/-- A handler that acquires a lease does so from the start. -/
theorem idle_of_acquire {pc : Pc} {request : AcquireRequest} {t : Turn}
    (h : turn p now g pc (.acquire request) = some t) : pc = .idle := by
  cases pc with
  | idle => rfl
  | _ => simp [turn] at h

theorem TransitionsExclusive.step {s s' : System} {l : Label} (hs : TransitionsExclusive s)
    (hC : PreparesWhenIdle p s l) (h : Gateway.step p s l = some s') : TransitionsExclusive s' := by
  obtain ⟨-, t, ht, rfl⟩ := step_eq_some.mp h
  unfold TransitionsExclusive System.after
  dsimp only
  cases turn_brake ht with
  | keep hpc hflag =>
    rw [hflag]
    exact hs.stay (by rw [hpc])
  | finish hpc hpc' hflag =>
    rw [hflag]
    exact hs.leave (i := l.thread) (by rw [hpc]; rfl) (by rw [hpc']; exact Bool.false_ne_true)
  | begin hpc hpc' hflag hbegins =>
    have hfree : s.gateway.brake.transitionInProgress = false := by
      generalize hact : l.action = a at hbegins ht
      generalize t.gateway = g' at hbegins
      cases hbegins with
      | prepare request hprep => exact hC request (idle_of_acquire ht) hact hprep
      | follow _ _ hfree => exact hfree
      | explicit _ hfree => exact hfree
      | queued _ _ _ hfree _ _ => exact hfree
    rw [hflag]
    unfold TransitionsExclusive at hs
    rw [hfree] at hs
    exact hs.enter l.thread (by rw [hpc']; rfl)

/-- A preparation next to another transition shows at once. -/
theorem TransitionsExclusive.preparesWhenIdle {s s' : System} {l : Label}
    (hs : TransitionsExclusive s) (h : Gateway.step p s l = some s')
    (hs' : TransitionsExclusive s') : PreparesWhenIdle p s l := by
  intro request hidle hact hprep
  obtain ⟨-, t, ht, rfl⟩ := step_eq_some.mp h
  rw [hidle, hact] at ht
  have hpc' : t.pc.brakeAction?.isSome = true := by
    cases ht
    simp only [acquireTurn, if_pos hprep.1, if_pos hprep.2]
    rfl
  exact hs.flag_clear_of_enter (by rw [hidle]; exact Bool.false_ne_true) hpc' hs'.unique

/-- The transitions exclude each other along exactly the runs in which a lease preparation never
finds one in progress. -/
theorem transitionsExclusive_iff {startedAt : ℕ} {run : List Label} {s : System}
    (h : Runs.exec (step p) (System.init startedAt) run = some s) :
    Runs.Always (step p) TransitionsExclusive (System.init startedAt) run ↔
      Runs.Meets (step p) (PreparesWhenIdle p) (System.init startedAt) run :=
  Runs.always_iff_meets (I := TransitionsExclusive)
    (fun _ _ _ hs hC hstep => hs.step hC hstep) (fun _ hs => hs)
    (fun _ _ _ hs hstep hs' => hs.preparesWhenIdle hstep hs')
      (transitionsExclusive_init startedAt) h

/-- Along every run in which a lease preparation never finds a transition in progress, at most one
native brake transition is in flight at a time, under a set flag. -/
theorem brakeExclusive_of_preparesWhenIdle (startedAt : ℕ) (run : List Label)
    (h : Runs.Meets (step p) (PreparesWhenIdle p) (System.init startedAt) run) :
    Runs.Always (step p) BrakeExclusive (System.init startedAt) run :=
  (Runs.always_of_meets (I := TransitionsExclusive)
    (fun _ _ _ hs hC hstep => hs.step hC hstep) (transitionsExclusive_init startedAt) h).mono
      fun _ hs => hs.brakeExclusive

/-- A lease preparation that has to enable the lift finds no transition in progress, as a test. -/
def preparesWhenIdle (p : Parameters) (s : System) (l : Label) : Bool :=
  match l.action with
  | .acquire request =>
    !decide (PreparesLift p s.gateway request l.now) || !s.gateway.brake.transitionInProgress
  | _ => true

theorem preparesWhenIdle_of_test {s : System} {l : Label} (h : preparesWhenIdle p s l = true) :
    PreparesWhenIdle p s l := by
  intro request _ hact hprep
  rw [preparesWhenIdle, hact] at h
  simpa [hprep] using h

/-- A handler prepares a lease, and enables the lift for it. -/
def enableRun : List Label :=
  stepsAt (millis 2) 0 ((completeFeedback defaultParameters .real false 0).map Action.sample) ++
    stepsAt (millis 3) 1 [.acquire (acquireRequest "upper"), .brakeReply true ""] ++
    stepsAt (millis 4) 0 [.sample (.liftStatus (operationalLift true))] ++
    stepsAt (millis 5) 1 [.brakeWake, .brakeFinish, .grant 7]

theorem brakeExclusive_enableRun :
    (∃ s, Runs.exec (step defaultParameters) (System.init (millis 1)) enableRun = some s ∧
      s.gateway.lease.active = true ∧ s.gateway.brake.transitionCount = 1) ∧
    Runs.Always (step defaultParameters) BrakeExclusive (System.init (millis 1)) enableRun := by
  obtain ⟨s, hs, -, hfacts⟩ := Runs.reachable_of_run
    (step defaultParameters) (System.init (millis 1)) enableRun
    (fun s => s.gateway.lease.active && decide (s.gateway.brake.transitionCount = 1))
    (by decide +kernel)
  rw [Bool.and_eq_true, decide_eq_true_eq] at hfacts
  exact ⟨⟨s, hs, hfacts⟩, brakeExclusive_of_preparesWhenIdle (millis 1) enableRun
    (Runs.meets_of_passes (fun _ _ h => preparesWhenIdle_of_test h) (by decide +kernel))⟩

end Gateway

end JointController
