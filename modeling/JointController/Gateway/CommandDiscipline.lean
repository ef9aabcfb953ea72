import JointController.Gateway.Transactions
import JointController.Gateway.Messages

/-!
# The discipline of handed out commands

What the leased channel says about the gateway: in which order the commands of a lease are handed
out, what they wait for, what becomes of a staged command, and which sequence the gateway reports
as applied.

* `TransactionDiscipline`, `Reachable.transactionDiscipline`: the transaction discipline of every
  reachable state.
* `AppliedIsOwn`: the reported applied sequence is one of the current lease.
* `grant_keeps_foreign_sequence`: an owner can choose a sequence that the next lease reports.
* `appliedIsOwn_iff`: the runs along which the reported sequence is always the lease's own.
-/

namespace JointController

namespace Gateway

open LeasedChannel History

variable {p : Parameters}

/-! ## Transactions -/

/-- How the gateway hands commands to the lower controllers, by its history. -/
structure TransactionDiscipline (s : System) : Prop where
  /-- Within one lease the external sequences of the dispatched commands strictly increase. -/
  inOrder : Justified (InOrder Command.sequence) s.gateway.history
  /-- Controller generations are handed out once, in increasing order. -/
  numbered : Justified Numbered s.gateway.history
  /-- The only generation that is waited for is the last one that was handed out. -/
  outstanding : s.gateway.transaction.pendingValid = true →
    s.gateway.transaction.pendingSequence = s.gateway.transaction.controllerGeneration ∧
      lastGeneration s.gateway.history = some s.gateway.transaction.pendingSequence
  /-- A command is dispatched after both controllers have acknowledged exactly that generation. -/
  settled : Justified AfterSettled s.gateway.history
  /-- A staged command that anything but an acknowledgement has followed is not dispatched. -/
  dropped : ∀ newer e between older l a c,
    s.gateway.history = newer ++ e :: (between ++ .staged l a c :: older) → e.isAck = false →
      ∀ l' n c', Event.dispatched l' a n c' ∉ newer
  /-- A command is handed out as it was received. -/
  whole : Justified Whole s.gateway.history

/-- Along every run, whatever acknowledgements arrive, commands are handed out one at a time, in
order, and a staged command is dispatched as a whole or not at all. -/
theorem Reachable.transactionDiscipline {startedAt : ℕ} {s : System}
    (h : Reachable p startedAt s) : TransactionDiscipline s := by
  have hd := h.lawful.proper.disciplined
  refine ⟨hd.inOrder, hd.numbered, fun hpending => ?_, hd.settled, ?_, hd.whole⟩
  · have htracked := hd.outstanding _ (if_pos hpending)
    exact ⟨htracked.generation, htracked.last⟩
  · intro newer e between older l a c hlog he l' n c'
    exact hd.not_dispatched hlog he

/-- A run in which a command is staged and then dispatched behind the alignment. -/
def stagedRun : List Label :=
  stepsAt (millis 2) 0
      ((completeFeedback defaultParameters .simulation true 0).map Action.sample ++
        [Action.acquire (acquireRequest "upper"), .grant 7, .publish true, .publish true]) ++
    stepsAt (millis 3) 0
      [.command (restCommand "upper" (generateLeaseId "upper" 7 (millis 2) 1) 1000001
          Command.modeHold), .admission, .ack true 1, .ack false 1, .publish true]

theorem transactionDiscipline_stagedRun :
    ∃ s, (Runs.exec (step defaultParameters) (System.init (millis 1)) stagedRun = some s ∧
      s.gateway.transaction.pendingExternalSequence = 1000001) ∧ TransactionDiscipline s := by
  obtain ⟨s, hs, hreach, hseq⟩ := Runs.reachable_of_run
    (step defaultParameters) (System.init (millis 1)) stagedRun
    (fun s => s.gateway.transaction.pendingExternalSequence == 1000001) (by decide +kernel)
  exact ⟨s, ⟨hs, beq_iff_eq.mp hseq⟩, Reachable.transactionDiscipline hreach⟩

/-! ## The applied sequence -/

/-- A command of the lease is applied: it was dispatched under the lease, and both controllers have
acknowledged its generation since. -/
def AppliedUnder (g : Gateway) (sequence : ℕ) : Prop :=
  ∃ newer a n c older, g.history = newer ++ .dispatched g.lease.generation a n c :: older ∧
    c.sequence = sequence ∧ ∀ arm, Event.acked arm n ∈ newer

/-- While a lease is active, the applied sequence that the status reports is below the initial
sequence of the lease or is the sequence of a command applied under it. -/
def AppliedIsOwn (s : System) : Prop :=
  s.gateway.lease.active = true →
    ∀ now, (publishStatus s.gateway now).appliedSequence < s.gateway.lease.initialSequence ∨
      AppliedUnder s.gateway (publishStatus s.gateway now).appliedSequence

/-- The first owner has its command 5000001 applied and releases its lease, and a second owner
acquires one, whose sequences start at 2000001. -/
def foreignSequenceRun : List Label :=
  let lease := generateLeaseId "first" 7 (millis 2) 1
  stepsAt (millis 2) 0
      ((completeFeedback defaultParameters .simulation true 0).map Action.sample ++
        [Action.acquire (acquireRequest "first"), .grant 7, .publish true, .publish true,
          .ack true 1, .ack false 1]) ++
    stepsAt (millis 3) 0
      [.command (restCommand "first" lease 5000001 Command.modeHold), .admission, .publish true,
        .ack true 2, .ack false 2] ++
    stepsAt (millis 4) 1 [.release ⟨"first", lease, false⟩] ++
    stepsAt (millis 5) 0 [.ack true 3, .ack false 3, .publish true] ++
    stepsAt (millis 6) 1 [.releaseWake, .acquire (acquireRequest "second"), .grant 8]

/-- No command has been dispatched under the current lease. -/
def undispatched (g : Gateway) : Bool :=
  g.history.all fun e => match e with
    | .dispatched l _ _ _ => l != g.lease.generation
    | _ => true

/-- The reported applied sequence is not always the lease's own: an owner may choose its sequences,
and the applied one outlives its lease. -/
theorem grant_keeps_foreign_sequence :
    ¬ ∀ p startedAt s, Reachable p startedAt s → AppliedIsOwn s := by
  intro hclaim
  obtain ⟨s, -, hreach, hfacts⟩ := Runs.reachable_of_run
    (step defaultParameters) (System.init (millis 1)) foreignSequenceRun
    (fun s => s.gateway.lease.active &&
      decide (s.gateway.lease.initialSequence ≤ s.gateway.lease.appliedCommandSequence) &&
      undispatched s.gateway)
    (by decide +kernel)
  simp only [Bool.and_eq_true, decide_eq_true_eq, undispatched, List.all_eq_true] at hfacts
  obtain ⟨⟨hactive, hle⟩, hnone⟩ := hfacts
  rcases hclaim defaultParameters (millis 1) s hreach hactive 0 with
    hlt | ⟨newer, a, n, c, older, hlog, -, -⟩
  · exact absurd hlt (Nat.not_lt.mpr hle)
  · have hmem := hnone (.dispatched s.gateway.lease.generation a n c)
      (by rw [hlog]; exact List.mem_append_right newer List.mem_cons_self)
    simp at hmem

/-- The lease starts with the initial sequence of its generation. -/
def InitialByGeneration (g : Gateway) : Prop :=
  g.lease.active = true → g.lease.initialSequence = initialSequenceOf g.lease.generation

theorem TurnCase.initialByGeneration {now : ℕ} {g g' : Gateway} {pc : Pc} {a : Action}
    (h : InitialByGeneration g) (hcase : TurnCase p now g pc a g') : InitialByGeneration g' := by
  intro hactive
  rcases hcase.sameLease with hsame | ⟨request, random, -, -, -, rfl⟩
  · exact hsame.initialSequence.trans ((h (hsame.active hactive)).trans
      (congrArg initialSequenceOf hsame.generation.symm))
  · rfl

/-- Steps of the channel that grant no lease keep the applied sequence the lease's own. -/
theorem Steps.ownApplied {fresh : ℕ → Prop} {c c' : Channel Bool Command} (h : Steps fresh c c')
    (hc : Disciplined Command.sequence c)
    (hown : OwnApplied initialSequenceOf Command.sequence c) (hleases : c'.leases = c.leases) :
    OwnApplied initialSequenceOf Command.sequence c' := by
  have hchain : c.leases ≤ c'.leases ∧
      (c'.leases = c.leases → OwnApplied initialSequenceOf Command.sequence c') := by
    clear hleases
    induction h with
    | refl => exact ⟨le_rfl, fun _ => hown⟩
    | tail hsteps hlast ih =>
      have hle := hlast.leases_le
      refine ⟨ih.1.trans hle, fun heq => ?_⟩
      have hmid := le_antisymm (hle.trans heq.le) ih.1
      exact hlast.ownApplied (Steps.disciplined hsteps hc).1 (ih.2 hmid)
        fun hne => absurd (heq.trans hmid.symm) hne
  exact hchain.2 hleases

/-- The grant of a lease, if the step is one, starts the lease above the applied sequence. -/
def GrantsAbove (p : Parameters) (s : System) (l : Label) : Prop :=
  ∀ request random, s.threads l.thread = .acquiring request → l.action = .grant random →
    acquireRecheck p (endAcquisition s.gateway) l.now = .ok () →
    s.gateway.lease.appliedCommandSequence < initialSequenceOf (s.gateway.lease.generation + 1)

/-- The invariant of the runs whose grants all start above the applied sequence. -/
structure OwnSequence (s : System) : Prop where
  lawful : Lawful s
  initial : InitialByGeneration s.gateway
  own : OwnApplied initialSequenceOf Command.sequence (channel s.gateway)

theorem OwnSequence.appliedIsOwn {s : System} (h : OwnSequence s) : AppliedIsOwn s := by
  intro hactive now
  rcases h.own with hlt | hunder
  · exact Or.inl (hlt.trans_eq (h.initial hactive).symm)
  · exact Or.inr hunder

theorem OwnSequence.step {s s' : System} {l : Label} (h : OwnSequence s) (hC : GrantsAbove p s l)
    (hstep : Gateway.step p s l = some s') : OwnSequence s' := by
  have hlawful := h.lawful.step hstep
  obtain ⟨-, t, ht, rfl⟩ := step_eq_some.mp hstep
  have hcase := turn_cases ht
  refine ⟨hlawful, hcase.initialByGeneration h.initial, ?_⟩
  rcases hcase.sameLease with hsame | ⟨request, random, hpc, hact, hcheck, hg⟩
  · exact (h.lawful.turn ht).2.ownApplied h.lawful.proper.disciplined h.own hsame.generation
  · have hgateway : (s.after l t).gateway =
        grantLease p (endAcquisition s.gateway) request l.now random := hg
    rw [hgateway]
    exact Or.inl (hC request random hpc hact hcheck)

/-- A grant at or below the applied sequence shows at once. -/
theorem OwnSequence.grantsAbove {s s' : System} {l : Label} (h : OwnSequence s)
    (hstep : Gateway.step p s l = some s') (hP : AppliedIsOwn s') : GrantsAbove p s l := by
  intro request random hpc hact hcheck
  obtain ⟨-, t, ht, rfl⟩ := step_eq_some.mp hstep
  have hgateway : (s.after l t).gateway =
      grantLease p (endAcquisition s.gateway) request l.now random := by
    rw [hpc, hact] at ht
    cases ht
    show (grantTurn p l.now s.gateway request random).gateway = _
    rw [grantTurn_gateway, acquireGrant]
    simp only [hcheck]
  have hown := hP (by rw [hgateway]; rfl) 0
  rw [hgateway] at hown
  rcases hown with hlt | ⟨newer, a, n, c, older, hlog, -, -⟩
  · exact hlt
  -- No command has been dispatched under a lease that has not been granted yet.
  · have hmem : Event.dispatched (s.gateway.lease.generation + 1) a n c ∈
        (grantLease p (endAcquisition s.gateway) request l.now random).history := by
      rw [hlog]
      exact List.mem_append_right newer List.mem_cons_self
    have hold : Event.dispatched (s.gateway.lease.generation + 1) a n c ∈ s.gateway.history := by
      simpa [grantLease, grantedLease, endAcquisition] using hmem
    have hle := (h.lawful.proper.disciplined.last _ _ _ _ hold).1
    exact absurd hle (Nat.not_succ_le_self _)

/-- The applied sequence is the lease's own along exactly the runs whose grants all start above the
sequence that was applied last. -/
theorem appliedIsOwn_iff (startedAt : ℕ) (run : List Label) (s : System)
    (h : Runs.exec (step p) (System.init startedAt) run = some s) :
    Runs.Always (step p) AppliedIsOwn (System.init startedAt) run ↔
      Runs.Meets (step p) (GrantsAbove p) (System.init startedAt) run := by
  have hinit : OwnSequence (System.init startedAt) :=
    ⟨lawful_init startedAt, fun hactive => (nomatch hactive), Or.inl (Nat.zero_lt_succ _)⟩
  exact Runs.always_iff_meets (I := OwnSequence) (fun _ _ _ hs hC hstep => hs.step hC hstep)
    (fun _ hs => hs.appliedIsOwn) (fun _ _ _ hs hstep hP => hs.grantsAbove hstep hP) hinit h

theorem appliedIsOwn_iff_stagedRun :
    ∃ s, Runs.exec (step defaultParameters) (System.init (millis 1)) stagedRun = some s ∧
      (Runs.Always (step defaultParameters) AppliedIsOwn (System.init (millis 1)) stagedRun ↔
        Runs.Meets (step defaultParameters) (GrantsAbove defaultParameters)
          (System.init (millis 1)) stagedRun) := by
  obtain ⟨s, hs, -, -⟩ := Runs.reachable_of_run
    (step defaultParameters) (System.init (millis 1)) stagedRun
    (fun s => s.gateway.lease.active) (by decide +kernel)
  exact ⟨s, hs, appliedIsOwn_iff (millis 1) stagedRun s hs⟩

end Gateway

end JointController
