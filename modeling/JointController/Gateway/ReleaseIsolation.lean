import JointController.Gateway.System

/-!
# Whose lease a release ends

`handleRelease` waits until no lease is active, and clears the lease when its wait runs out.  The
mutex is free during the wait, so the lease that it has begun to release may end and another lease
may be granted before the handler looks again.

* `ReleaseIsolated`: a step of a release leaves every lease but its own as it is.
* `release_ends_later_lease`: the timeout of a release ends the lease of another owner.
* `releaseIsolated_iff`: the runs in which no release touches another lease.
-/

namespace JointController

namespace Gateway

variable {p : Parameters}

/-- The request names the lease. -/
def ReleaseRequest.Names (request : ReleaseRequest) (l : LeaseState) : Prop :=
  l.active = true ∧ request.ownerId = l.ownerId ∧ request.leaseId = l.leaseId

/-- A release handler does not change a lease that is not its own: neither when it begins, nor
when its wait ends. -/
def ReleaseIsolated (s : System) (l : Label) (s' : System) : Prop :=
  match l.action with
  | .release request => ¬ ReleaseRequest.Names request s.gateway.lease →
      s'.gateway.lease = s.gateway.lease
  | .releaseWake => ∀ request lease deadline,
      s.threads l.thread = .releasing request lease deadline → s.gateway.lease.active = true →
        s.gateway.lease.generation ≠ lease → s'.gateway.lease = s.gateway.lease
  | _ => True

/-- The first owner releases its lease, and its HOLD is acknowledged. -/
def firstReleaseRun : List Label :=
  stepsAt (millis 2) 0
      ((completeFeedback defaultParameters .simulation true 0).map Action.sample ++
        [Action.acquire (acquireRequest "first"), .grant 7, .publish true, .publish true,
          .ack true 1, .ack false 1]) ++
    stepsAt (millis 3) 1 [.release ⟨"first", generateLeaseId "first" 7 (millis 2) 1, false⟩] ++
    stepsAt (millis 4) 0 [.ack true 2, .ack false 2, .publish true]

/-- A second owner acquires a lease before the releasing handler has woken up. -/
def reacquireRun : List Label :=
  firstReleaseRun ++ stepsAt (millis 4) 0 [.acquire (acquireRequest "second"), .grant 8]

/-- The wait of the first owner's release runs out. -/
def releaseTimeout : Label := ⟨millis 3 + defaultParameters.controllerAckTimeout, 1, .releaseWake⟩

/-- A release ends a lease that was granted after its own lease had ended. -/
theorem release_ends_later_lease :
    ¬ ∀ p startedAt s l s', Reachable p startedAt s → step p s l = some s' →
      ReleaseIsolated s l s' := by
  intro hclaim
  have hrun : ((Runs.exec (step defaultParameters) (System.init (millis 1)) reacquireRun).any
      fun s => (step defaultParameters s releaseTimeout).any fun s' =>
        decide (s.threads 1 = .releasing ⟨"first", generateLeaseId "first" 7 (millis 2) 1, false⟩ 1
          releaseTimeout.now) &&
        s.gateway.lease.active && decide (s.gateway.lease.generation = 2) &&
        !s'.gateway.lease.active) = true := by
    decide +kernel
  obtain ⟨s, -, hreach, hs⟩ := Runs.reachable_of_run _ _ _ _ hrun
  obtain ⟨s', hs', hfacts⟩ := (Option.any_eq_true _ _).mp hs
  simp only [Bool.and_eq_true, decide_eq_true_eq, Bool.not_eq_true'] at hfacts
  obtain ⟨⟨⟨hwaiting, hactive⟩, hgeneration⟩, hended⟩ := hfacts
  have hsame := hclaim _ _ s releaseTimeout s' hreach hs' _ _ _ hwaiting hactive
    (by rw [hgeneration]; decide)
  rw [hsame, hactive] at hended
  exact nomatch hended

/-- A release whose wait ends finds no lease, or its own. -/
def WakesToOwnLease (s : System) (l : Label) : Prop :=
  l.action = .releaseWake → ∀ request lease deadline,
    s.threads l.thread = .releasing request lease deadline → s.gateway.lease.active = true →
      s.gateway.lease.generation = lease

/-- A request that does not name the lease is refused. -/
theorem releaseBegin_of_not_names {g : Gateway} {request : ReleaseRequest} {now : ℕ}
    (h : ¬ ReleaseRequest.Names request g.lease) :
    releaseBegin p g request now = (.mismatch, g) := by
  unfold releaseBegin
  rw [if_pos]
  rw [ReleaseRequest.Names] at h
  by_contra hnot
  rw [not_or, not_or, not_not, not_not, not_not] at hnot
  exact h hnot

/-- The wait of a release only ends while a lease is active by clearing that lease. -/
theorem releaseWakeTurn_ends {g : Gateway} {now deadline : ℕ} {t : Turn}
    (hactive : g.lease.active = true) (h : releaseWakeTurn now g deadline = some t) :
    t.gateway.lease ≠ g.lease := by
  unfold releaseWakeTurn releaseWake at h
  rw [if_neg (not_not.mpr hactive)] at h
  split_ifs at h with hdeadline
  cases h
  intro hsame
  have hended := clearHeavyLeaseLocked_active g releaseTimeoutReason
  rw [hsame, hactive] at hended
  exact nomatch hended

theorem releaseIsolated_iff_wakes {s s' : System} {l : Label} (h : step p s l = some s') :
    ReleaseIsolated s l s' ↔ WakesToOwnLease s l := by
  obtain ⟨-, t, ht, rfl⟩ := step_eq_some.mp h
  obtain ⟨now, thread, action⟩ := l
  cases action with
  | release request =>
    refine iff_of_true (fun hnames => ?_) fun hact => nomatch hact
    cases hpc : s.threads thread <;> rw [hpc] at ht <;> simp [turn] at ht
    show t.gateway.lease = s.gateway.lease
    rw [← ht, releaseTurn_gateway, releaseBegin_of_not_names hnames]
  | releaseWake =>
    constructor
    · intro hisolated _ request lease deadline hpc hactive
      by_contra hother
      have hsame := hisolated request lease deadline hpc hactive hother
      dsimp only at ht hpc
      rw [hpc] at ht
      exact releaseWakeTurn_ends hactive ht hsame
    · intro hwakes request lease deadline hpc hactive hother
      exact absurd (hwakes rfl request lease deadline hpc hactive) hother
  | _ => exact iff_of_true trivial fun hact => nomatch hact

/-- The releases of a run leave all other leases as they are exactly when every wait that ends
finds no lease, or the lease that the handler began to release. -/
theorem releaseIsolated_iff (startedAt : ℕ) (run : List Label) (s : System)
    (h : Runs.exec (step p) (System.init startedAt) run = some s) :
    Runs.Throughout (step p) ReleaseIsolated (System.init startedAt) run ↔
      Runs.Meets (step p) WakesToOwnLease (System.init startedAt) run :=
  Runs.throughout_iff_meets (R := ReleaseIsolated) (C := WakesToOwnLease)
    (fun _ _ _ hstep => releaseIsolated_iff_wakes hstep) h

/-- A test of the condition. -/
def wakesToOwnLeaseTest (s : System) (l : Label) : Bool :=
  match l.action, s.threads l.thread with
  | .releaseWake, .releasing _ lease _ =>
    !s.gateway.lease.active || s.gateway.lease.generation == lease
  | _, _ => true

theorem wakesToOwnLease_of_test (s : System) (l : Label) (h : wakesToOwnLeaseTest s l = true) :
    WakesToOwnLease s l := by
  intro haction request lease deadline hthread hactive
  unfold wakesToOwnLeaseTest at h
  rw [haction, hthread] at h
  dsimp only at h
  rwa [hactive, Bool.not_true, Bool.false_or, beq_iff_eq] at h

/-- The releasing handler wakes up before the second owner acquires its lease, and the second
release runs out with the lease that it has begun to release. -/
def wokenRun : List Label :=
  firstReleaseRun ++ stepsAt (millis 5) 1 [.releaseWake] ++
    stepsAt (millis 6) 0
      [.acquire (acquireRequest "second"), .grant 8, .publish true, .publish true, .ack true 3,
        .ack false 3] ++
    stepsAt (millis 7) 1 [.release ⟨"second", generateLeaseId "second" 8 (millis 6) 2, false⟩] ++
    stepsAt (millis 7 + defaultParameters.controllerAckTimeout) 1 [.releaseWake]

theorem releaseIsolated_iff_wokenRun :
    ∃ s, Runs.exec (step defaultParameters) (System.init (millis 1)) wokenRun = some s ∧
      Runs.Meets (step defaultParameters) WakesToOwnLease (System.init (millis 1)) wokenRun ∧
      Runs.Throughout (step defaultParameters) ReleaseIsolated (System.init (millis 1))
        wokenRun := by
  obtain ⟨s, hs, -, -⟩ := Runs.reachable_of_run
    (step defaultParameters) (System.init (millis 1)) wokenRun
    (fun s => !s.gateway.lease.active && decide (s.gateway.lease.generation = 2))
    (by decide +kernel)
  have hmeets : Runs.Meets (step defaultParameters) WakesToOwnLease (System.init (millis 1))
      wokenRun := Runs.meets_of_passes wakesToOwnLease_of_test (by decide +kernel)
  exact ⟨s, hs, hmeets, (releaseIsolated_iff (millis 1) wokenRun s hs).mpr hmeets⟩

end Gateway

end JointController
