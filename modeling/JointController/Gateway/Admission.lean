import JointController.Gateway.Transactions

/-!
# Admission at the time of dispatch

A command is dispatched either in the section that has just validated it or later, from the
staging slot, by the acknowledgement that settles the transaction before it.  The second path does
not validate the command again.  What the check says of the command and of the lease cannot change
in between; what it says of the workspace, the feedback and the drives can.

* `StagedAdmitted`: the part of the check that a staged command still passes.
* `Dispatches`, `atDispatch`: a step that dispatches a command, and the shared state at that point.
* `staged_follow_behind_locked_brake`: a FOLLOW_POSITION is dispatched behind a locked brake.
* `dispatch_valid_iff`: when a dispatched command passes the whole check.
-/

namespace JointController

namespace Gateway

open LeasedChannel

variable {p : Parameters} {now : ℕ} {g g' : Gateway}

/-! ## What a staged command still passes -/

/-- The measured positions only occur in the text of an error. -/
theorem validateFields_joints {joints joints' : JointSnapshot} {c : Command}
    (h : validateFields p joints c = .ok ()) : validateFields p joints' c = .ok () := by
  simp only [validateFields, Checks.guard_eq_ok, Checks.bind_eq_ok] at h ⊢
  exact h

/-- A staged command names the lease, has admissible fields and, when it is a FOLLOW_POSITION,
comes after the aligned HOLD. -/
def StagedAdmitted (p : Parameters) (g : Gateway) : Prop :=
  g.transaction.stagedValid = true →
    validateIdentity g.lease g.transaction.stagedCommand = .ok () ∧
      (∀ joints, validateFields p joints g.transaction.stagedCommand = .ok ()) ∧
      (g.transaction.stagedCommand.mode = Command.modeFollowPosition →
        g.lease.alignedHold = true)

theorem stagedAdmitted_of_not_staged (h : g.transaction.stagedValid = false) :
    StagedAdmitted p g := fun hs => absurd hs (Bool.eq_false_iff.mp h)

theorem StagedAdmitted.congr (h : StagedAdmitted p g)
    (hlease : ∀ c, validateIdentity g'.lease c = validateIdentity g.lease c)
    (haligned : g.lease.alignedHold = true → g'.lease.alignedHold = true)
    (hvalid : g'.transaction.stagedValid = g.transaction.stagedValid)
    (hcommand : g'.transaction.stagedCommand = g.transaction.stagedCommand) :
    StagedAdmitted p g' := by
  intro hs
  obtain ⟨hid, hfields, halign⟩ := h (hvalid ▸ hs)
  rw [hcommand, hlease]
  exact ⟨hid, hfields, fun hm => haligned (halign hm)⟩

theorem clearHeavyLeaseLocked_stagedValid (reason : String) (h : g.lease.active = true) :
    (clearHeavyLeaseLocked g reason).transaction.stagedValid = false := by
  unfold clearHeavyLeaseLocked
  rw [if_neg (not_not.mpr h)]

theorem Change.stagedAdmitted (hg : StagedAdmitted p g) (h : Change p now g g') :
    StagedAdmitted p g' := by
  cases h with
  | quiet retries published hlease htransaction _ _ _ _ =>
    exact hg.congr (fun c => by rw [hlease]) (fun ha => by rw [hlease]; exact ha)
      (by rw [htransaction]) (by rw [htransaction])
  | report state _ => exact hg.congr (fun _ => rfl) id rfl rfl
  | lock reason =>
    exact hg.congr (fun _ => by simp) (fun ha => by simpa using ha) (by simp) (by simp)
  | hold reason revokeLease hactive _ =>
    refine stagedAdmitted_of_not_staged ?_
    unfold beginSafetyHoldLocked
    rw [if_neg (not_not.mpr hactive)]
    dsimp only
    rw [queueHoldLock_eq]
  | clear reason hactive =>
    exact stagedAdmitted_of_not_staged (clearHeavyLeaseLocked_stagedValid reason hactive)

theorem TurnCase.stagedAdmitted {pc : Pc} {a : Action} (hs : Sound g) (hg : StagedAdmitted p g)
    (h : TurnCase p now g pc a g') : StagedAdmitted p g' := by
  cases h with
  | grant request random _ => exact stagedAdmitted_of_not_staged rfl
  | admission c arrival =>
    rcases commandAdmit_cases p g c arrival now with ⟨_, h, -, -⟩ | ⟨hvalid, -, ⟨-, h⟩ | ⟨hp, h⟩⟩
    · rw [h]
      exact hg.congr (fun _ => rfl) id rfl rfl
    · rw [h]
      obtain ⟨hid, hfields, haligned, -⟩ := validateCommandLocked_eq_ok.mp hvalid
      exact fun _ => ⟨hid, fun _ => validateFields_joints hfields, haligned⟩
    · rw [h]
      refine stagedAdmitted_of_not_staged ?_
      have hnot : g.transaction.stagedValid = false :=
        Bool.eq_false_iff.mpr fun hst => Bool.eq_false_iff.mp hp (hs.staged hst)
      simp [dispatchUserCommandLocked, hnot]
  | ack arm sequence =>
    rcases handleAck_cases p g arm sequence now with ⟨-, counters, h, -, -⟩ | ⟨hpending, rfl, h⟩
    · rw [h]
      exact hg.congr (fun _ => rfl) id rfl rfl
    rcases h with ⟨-, h⟩ | ⟨-, ⟨-, h⟩ | ⟨-, -, h⟩ | ⟨-, hnot, h⟩⟩
    · rw [h]
      exact hg.congr (fun _ => rfl) id rfl rfl
    · rw [h]
      exact stagedAdmitted_of_not_staged
        (clearHeavyLeaseLocked_stagedValid _ (hs.pending hpending))
    · rw [h]
      exact stagedAdmitted_of_not_staged rfl
    · rw [h]
      exact stagedAdmitted_of_not_staged hnot
  | changes hchanges =>
    exact hchanges.invariant (I := StagedAdmitted p) hg fun _ _ hinv hchange =>
      hchange.stagedAdmitted hinv

theorem Reachable.stagedAdmitted {startedAt : ℕ} {s : System} (h : Reachable p startedAt s) :
    StagedAdmitted p s.gateway := by
  have hinv : Lawful s ∧ StagedAdmitted p s.gateway := by
    refine h.induction (I := fun s => Lawful s ∧ StagedAdmitted p s.gateway)
      ⟨lawful_init startedAt, stagedAdmitted_of_not_staged rfl⟩ ?_
    rintro s l s' ⟨hlawful, hstaged⟩ hstep
    refine ⟨hlawful.step hstep, ?_⟩
    obtain ⟨-, t, ht, rfl⟩ := step_eq_some.mp hstep
    exact (turn_cases ht).stagedAdmitted hlawful.proper.sound hstaged
  exact hinv.2

/-! ## Dispatching steps -/

/-- The step from `s` to `s'` dispatches a user command. -/
def Dispatches (s s' : System) (c : Command) : Prop :=
  ∃ lease arrival generation, Event.dispatched lease arrival generation c ∈ s'.gateway.history ∧
    Event.dispatched lease arrival generation c ∉ s.gateway.history

/-- The shared state at the point where a step dispatches: the one that the step found, or the one
in which an acknowledgement has settled the transaction before. -/
def atDispatch (s : System) (l : Label) : Gateway :=
  match l.action with
  | .ack arm sequence => confirmPending (recordAck s.gateway arm sequence)
  | _ => s.gateway

/-- Whatever the step from `s` dispatches passes the check in the state at its dispatch. -/
def DispatchesValid (p : Parameters) (s : System) (l : Label) (s' : System) : Prop :=
  ∀ c, Dispatches s s' c → validateCommandLocked p (atDispatch s l) c l.now false = .ok ()

/-- A staged FOLLOW_POSITION is dispatched although the lift status has reported a locked brake
since it was staged. -/
def lockedBrakeRun : List Label :=
  let lease := generateLeaseId "upper" 7 (millis 2) 1
  stepsAt (millis 2) 0
      ((completeFeedback defaultParameters .real true 0).map Action.sample ++
        [Action.acquire (acquireRequest "upper"), .grant 7, .publish true, .publish true,
          .ack true 1, .ack false 1]) ++
    stepsAt (millis 3) 0
      [.command (restCommand "upper" lease 1000001 Command.modeFollowPosition), .admission,
        .publish true,
        .command (restCommand "upper" lease 1000002 Command.modeFollowPosition), .admission,
        .ack true 2, .sample (.liftStatus (operationalLift false))]

/-- The acknowledgement that dispatches the staged command. -/
def lockedBrakeAck : Label := ⟨millis 3, 0, .ack false 2⟩

/-- A new dispatch of a command, which can be evaluated. -/
def dispatchesNew (s s' : System) (c : Command) : Bool :=
  s'.gateway.history.any fun e => match e with
    | .dispatched l a n c' => decide (c' = c) && !s.gateway.history.contains (.dispatched l a n c')
    | _ => false

theorem dispatches_of_new {s s' : System} {c : Command} (h : dispatchesNew s s' c = true) :
    Dispatches s s' c := by
  obtain ⟨e, he, hnew⟩ := List.any_eq_true.mp h
  match e, he, hnew with
  | .dispatched l a n c', he, hnew =>
    simp only [Bool.and_eq_true, decide_eq_true_eq, Bool.not_eq_true',
      List.contains_eq_mem, decide_eq_false_iff_not] at hnew
    obtain ⟨rfl, hnot⟩ := hnew
    exact ⟨l, a, n, he, hnot⟩

/-- A command is not always valid when it is dispatched: a staged FOLLOW_POSITION is forwarded with
a known locked brake. -/
theorem staged_follow_behind_locked_brake :
    ¬ ∀ p startedAt s l s', Reachable p startedAt s → step p s l = some s' →
      DispatchesValid p s l s' := by
  intro hclaim
  have hrun : ((Runs.exec (step defaultParameters) (System.init (millis 1)) lockedBrakeRun).any
      fun s => (step defaultParameters s lockedBrakeAck).any fun s' =>
        dispatchesNew s s' s.gateway.transaction.stagedCommand && s.gateway.brake.locked &&
          decide (validateCommandLocked defaultParameters (atDispatch s lockedBrakeAck)
            s.gateway.transaction.stagedCommand lockedBrakeAck.now false ≠ .ok ())) = true := by
    decide +kernel
  obtain ⟨s, -, hreach, hs⟩ := Runs.reachable_of_run _ _ _ _ hrun
  obtain ⟨s', hs', hfacts⟩ := (Option.any_eq_true _ _).mp hs
  simp only [Bool.and_eq_true, decide_eq_true_eq] at hfacts
  exact hfacts.2 (hclaim _ _ s lockedBrakeAck s' hreach hs' _ (dispatches_of_new hfacts.1.1))

/-! ## The paths to a dispatch -/

theorem Change.mem_dispatched {l a n : ℕ} {c : Command} (h : Change p now g g')
    (hmem : Event.dispatched l a n c ∈ g'.history) : Event.dispatched l a n c ∈ g.history := by
  cases h with
  | quiet _ _ _ _ _ _ hhistory _ => exact hhistory ▸ hmem
  | report _ _ => exact hmem
  | lock _ => simpa using hmem
  | hold reason revokeLease hactive _ =>
    have hlog : (beginSafetyHoldLocked p g now reason revokeLease).history =
        (channel g).hold.log := congrArg Channel.log (channel_hold reason revokeLease hactive)
    rw [hlog] at hmem
    exact (List.mem_cons.mp hmem).resolve_left (by rintro ⟨⟩)
  | clear reason hactive =>
    have hlog : (clearHeavyLeaseLocked g reason).history = (channel g).clear.log :=
      congrArg Channel.log (channel_clear reason hactive)
    rw [hlog] at hmem
    exact (List.mem_cons.mp hmem).resolve_left (by rintro ⟨⟩)

/-- A command is dispatched by its own admission or by an acknowledgement, from the staging
slot. -/
theorem TurnCase.dispatched {pc : Pc} {a : Action} {l arrival n : ℕ} {c : Command}
    (hs : Sound g) (h : TurnCase p now g pc a g')
    (hmem : Event.dispatched l arrival n c ∈ g'.history)
    (hnew : Event.dispatched l arrival n c ∉ g.history) :
    (a = .admission ∧ validateCommandLocked p g c now false = .ok ()) ∨
      (∃ arm sequence, a = .ack arm sequence) ∧ g.transaction.stagedValid = true ∧
        c = g.transaction.stagedCommand := by
  cases h with
  | grant request random _ =>
    have hold : Event.dispatched l arrival n c ∈ g.history := by
      simpa [grantLease, endAcquisition] using hmem
    exact absurd hold hnew
  | admission c' arrival' =>
    rcases commandAdmit_cases p g c' arrival' now with ⟨_, h, -, -⟩ | ⟨hvalid, -, ⟨-, h⟩ | ⟨-, h⟩⟩
    · rw [h] at hmem
      exact absurd hmem hnew
    · rw [h] at hmem
      exact absurd ((List.mem_cons.mp hmem).resolve_left (by rintro ⟨⟩)) hnew
    · rw [h] at hmem
      simp only [dispatchUserCommandLocked, queueDispatchLock_history, List.mem_cons] at hmem
      cases hmem.resolve_right hnew
      exact .inl ⟨rfl, hvalid⟩
  | ack arm sequence =>
    have hpast : ∀ {e}, e ∈ LeasedChannel.Event.acked arm sequence :: g.history →
        Event.dispatched l arrival n c ≠ e := by
      rintro e he rfl
      exact hnew ((List.mem_cons.mp he).resolve_left (by rintro ⟨⟩))
    rcases handleAck_cases p g arm sequence now with ⟨-, counters, h, -, -⟩ | ⟨hpending, rfl, h⟩
    · rw [h] at hmem
      exact (hpast hmem rfl).elim
    rcases h with ⟨-, h⟩ | ⟨-, ⟨-, h⟩ | ⟨-, hstaged, h⟩ | ⟨-, -, h⟩⟩
    · rw [h] at hmem
      exact (hpast hmem rfl).elim
    · have hactive : (confirmPending
          (recordAck g arm g.transaction.pendingSequence)).lease.active = true :=
        hs.pending hpending
      rw [h, clearHeavyLeaseLocked, if_neg (not_not.mpr hactive)] at hmem
      exact (hpast ((List.mem_cons.mp hmem).resolve_left (by rintro ⟨⟩)) rfl).elim
    · rw [h] at hmem
      simp only [promoteStaged, dispatchUserCommandLocked, queueDispatchLock_history,
        List.mem_cons] at hmem
      rcases hmem with heq | hmem
      · cases heq
        exact .inr ⟨⟨_, _, rfl⟩, hstaged, rfl⟩
      · exact (hpast hmem rfl).elim
    · rw [h] at hmem
      exact (hpast hmem rfl).elim
  | changes hchanges =>
    refine absurd (hchanges.invariant (I := fun g' =>
      Event.dispatched l arrival n c ∈ g'.history → Event.dispatched l arrival n c ∈ g.history)
      id (fun _ _ hinv hchange h => hinv (hchange.mem_dispatched h)) hmem) hnew

/-- The workspace, the feedback and the drives are ready for a command that an acknowledgement
dispatches, in the state that the acknowledgement finds. -/
def ReadyForPromotion (p : Parameters) (s : System) (l : Label) (c : Command) : Prop :=
  ∀ arm sequence, l.action = .ack arm sequence →
    validateReadiness p s.gateway.feedback s.gateway.brake.locked c l.now false = .ok ()

/-- A dispatched command is valid at its dispatch exactly when it is dispatched by its own
admission, or else the workspace, the feedback and the drives are still ready for it. -/
theorem dispatch_valid_iff {startedAt : ℕ} {s s' : System} {l : Label} {c : Command}
    (h : Reachable p startedAt s) (hstep : step p s l = some s') (hd : Dispatches s s' c) :
    validateCommandLocked p (atDispatch s l) c l.now false = .ok () ↔
      ReadyForPromotion p s l c := by
  obtain ⟨-, t, ht, rfl⟩ := step_eq_some.mp hstep
  obtain ⟨lease, arrival, generation, hmem, hnew⟩ := hd
  have hsound := h.lawful.proper.sound
  rcases (turn_cases ht).dispatched hsound hmem hnew with
    ⟨hact, hvalid⟩ | ⟨⟨arm, sequence, hact⟩, hstaged, rfl⟩
  · have hat : atDispatch s l = s.gateway := by
      rw [atDispatch, hact]
    rw [hat]
    exact ⟨fun _ arm sequence hack => (nomatch hack.symm.trans hact), fun _ => hvalid⟩
  · obtain ⟨hid, hfields, -⟩ := h.stagedAdmitted hstaged
    have hat : atDispatch s l = confirmPending (recordAck s.gateway arm sequence) := by
      rw [atDispatch, hact]
    rw [hat, validateCommandLocked_eq_ok]
    constructor
    · rintro ⟨-, -, -, hready⟩ _ _ -
      exact hready
    · intro hready
      exact ⟨hid, hfields _, fun _ => rfl, hready arm sequence hact⟩

theorem dispatch_valid_iff_lockedBrakeRun :
    ∃ s s', Runs.exec (step defaultParameters) (System.init (millis 1)) lockedBrakeRun = some s ∧
      step defaultParameters s lockedBrakeAck = some s' ∧
      (validateCommandLocked defaultParameters (atDispatch s lockedBrakeAck)
          s.gateway.transaction.stagedCommand lockedBrakeAck.now false = .ok () ↔
        ReadyForPromotion defaultParameters s lockedBrakeAck
          s.gateway.transaction.stagedCommand) := by
  have hrun : ((Runs.exec (step defaultParameters) (System.init (millis 1)) lockedBrakeRun).any
      fun s => (step defaultParameters s lockedBrakeAck).any fun s' =>
        dispatchesNew s s' s.gateway.transaction.stagedCommand) = true := by
    decide +kernel
  obtain ⟨s, hexec, hreach, hs⟩ := Runs.reachable_of_run _ _ _ _ hrun
  obtain ⟨s', hs', hnew⟩ := (Option.any_eq_true _ _).mp hs
  exact ⟨s, s', hexec, hs', dispatch_valid_iff hreach hs' (dispatches_of_new hnew)⟩

end Gateway

end JointController
