import JointController.Gateway.Transactions
import JointController.Library.Announcements
import Mathlib.Data.Nat.Bits

/-!
# The lease gate topic

A handler that grants or ends a lease publishes the lease gate after it has released the mutex, so
the gate messages of two handlers may be published in the opposite order of their lease changes.
What goes right is that every lease change is announced by exactly the handler that made it.

* `Pc.owedGates`: the gate messages that a handler still owes.
* `GateTurn`, `turn_gate`: the inversion of a turn with respect to the gate.
* `GateTracked`, `Reachable.gateTracked`: every lease change is published or owed, and says what it
  should.
* `GateAgrees`: when no handler is at work, the last message on the topic is the state of the lease.
* `gate_published_out_of_order`, `gateAgrees_of_inOrder`: it fails when two messages overtake each
  other, and holds along the runs in which they do not.
-/

namespace JointController

namespace Gateway

open Announcements

variable {p : Parameters} {now : ℕ} {g g' : Gateway}

/-! ## Lease changes -/

theorem leaseChanges_hold (reason : String) (revoke : Bool) :
    leaseChanges (beginSafetyHoldLocked p g now reason revoke) = leaseChanges g := by
  unfold beginSafetyHoldLocked leaseChanges
  split
  · rfl
  · dsimp only
    rw [queueHoldLock_eq]
    exact List.countP_cons_of_neg Bool.false_ne_true

theorem leaseChanges_clear (reason : String) (h : g.lease.active = true) :
    leaseChanges (clearHeavyLeaseLocked g reason) = leaseChanges g + 1 := by
  unfold clearHeavyLeaseLocked leaseChanges
  rw [if_neg (not_not.mpr h)]
  exact List.countP_cons_of_pos rfl

/-- The lease does not change. -/
structure KeepsLease (g g' : Gateway) : Prop where
  active : g'.lease.active = g.lease.active
  changes : leaseChanges g' = leaseChanges g

/-- The lease changes once, and it is granted or it ends. -/
structure ChangesLease (g g' : Gateway) : Prop where
  active : g'.lease.active = !g.lease.active
  changes : leaseChanges g' = leaseChanges g + 1

theorem KeepsLease.trans {g'' : Gateway} (h : KeepsLease g g') (h' : KeepsLease g' g'') :
    KeepsLease g g'' := ⟨h'.active.trans h.active, h'.changes.trans h.changes⟩

theorem ChangesLease.after {g'' : Gateway} (h : KeepsLease g g') (h' : ChangesLease g' g'') :
    ChangesLease g g'' := ⟨by rw [h'.active, h.active], by rw [h'.changes, h.changes]⟩

theorem ChangesLease.then {g'' : Gateway} (h : ChangesLease g g') (h' : KeepsLease g' g'') :
    ChangesLease g g'' := ⟨h'.active.trans h.active, h'.changes.trans h.changes⟩

theorem KeepsLease.of_eq (hlease : g'.lease.active = g.lease.active)
    (hhistory : g'.history = g.history) : KeepsLease g g' :=
  ⟨hlease, by rw [leaseChanges, leaseChanges, hhistory]⟩

theorem keepsLease_hold (p : Parameters) (now : ℕ) (g : Gateway) (reason : String) (revoke : Bool) :
    KeepsLease g (beginSafetyHoldLocked p g now reason revoke) := by
  refine ⟨?_, leaseChanges_hold reason revoke⟩
  unfold beginSafetyHoldLocked
  split
  · rfl
  · dsimp only
    rw [queueHoldLock_eq]

theorem changesLease_clear (reason : String) (h : g.lease.active = true) :
    ChangesLease g (clearHeavyLeaseLocked g reason) :=
  ⟨by rw [clearHeavyLeaseLocked_active, h, Bool.not_true], leaseChanges_clear reason h⟩

theorem changesLease_holdAndClear (reason : String) (h : g.lease.active = true) :
    ChangesLease g (holdAndClear p g now reason) := by
  have hkeep := keepsLease_hold p now g reason true
  exact .after hkeep (changesLease_clear reason (hkeep.active.trans h))

theorem keepsLease_dispatch (g : Gateway) (c : Command) (arrival : ℕ) :
    KeepsLease g (dispatchUserCommandLocked p g c arrival now) := by
  unfold dispatchUserCommandLocked
  refine ⟨by rw [queueDispatchLock_lease], ?_⟩
  rw [leaseChanges, queueDispatchLock_history]
  exact List.countP_cons_of_neg Bool.false_ne_true

theorem keepsLease_commandAdmit (g : Gateway) (c : Command) (arrival : ℕ) :
    KeepsLease g (commandAdmit p g c arrival now).2 := by
  rcases commandAdmit_cases p g c arrival now with ⟨_, h, -, -⟩ | ⟨-, -, ⟨-, h⟩ | ⟨-, h⟩⟩
  · rw [h]
    exact .of_eq rfl rfl
  · rw [h]
    exact ⟨rfl, List.countP_cons_of_neg Bool.false_ne_true⟩
  · rw [h]
    exact keepsLease_dispatch g c arrival

/-! ### The watchdog -/

/-- The watchdog has cleared the lease exactly when it is to close the gate. -/
def GateKept (g : Gateway) (t : Tick) : Prop :=
  t.releaseGate = false ∧ KeepsLease g t.gateway ∨
    t.releaseGate = true ∧ t.gateway.lease.active = false ∧ ChangesLease g t.gateway

theorem GateKept.keep {t t' : Tick} (h : GateKept g t) (hgate : t'.releaseGate = t.releaseGate)
    (hkeep : KeepsLease t.gateway t'.gateway) : GateKept g t' := by
  rcases h with ⟨hopen, hlease⟩ | ⟨hclosed, hended, hlease⟩
  · exact .inl ⟨hgate.trans hopen, hlease.trans hkeep⟩
  · exact .inr ⟨hgate.trans hclosed, hkeep.active.trans hended, hlease.then hkeep⟩

/-- An active lease has not been cleared yet in this tick. -/
theorem GateKept.clear {t t' : Tick} (h : GateKept g t) (hactive : t.gateway.lease.active = true)
    (hgate : t'.releaseGate = true) (hclear : ChangesLease t.gateway t'.gateway) :
    GateKept g t' := by
  rcases h with ⟨-, hlease⟩ | ⟨-, hended, -⟩
  · exact .inr ⟨hgate, by rw [hclear.active, hactive, Bool.not_true], hclear.after hlease⟩
  · exact absurd hactive (Bool.eq_false_iff.mp hended)

section TickGate

variable {t : Tick}

theorem Tick.commandTimeout_gate (h : GateKept g t) : GateKept g (t.commandTimeout p now) := by
  unfold Tick.commandTimeout
  dsimp only
  split_ifs
  · exact h.keep rfl (keepsLease_hold p now _ _ _)
  · exact h

theorem Tick.leaseExpiry_gate (h : GateKept g t) : GateKept g (t.leaseExpiry p now) := by
  unfold Tick.leaseExpiry
  dsimp only
  split_ifs
  · refine h.keep rfl (.trans ?_ (keepsLease_hold p now _ _ _))
    exact .of_eq rfl rfl
  · exact h

theorem Tick.revocationFallback_gate (h : GateKept g t) :
    GateKept g (t.revocationFallback p now) := by
  unfold Tick.revocationFallback
  dsimp only
  split_ifs with hfallback
  · exact h.clear hfallback.1 rfl (changesLease_clear _ hfallback.1)
  · exact h

theorem Tick.ackTimeout_gate (h : GateKept g t) : GateKept g (t.ackTimeout p now) := by
  unfold Tick.ackTimeout
  dsimp only
  split_ifs with htimeout
  · refine h.clear htimeout.1 rfl ?_
    rw [clearHeavyLeaseLocked_queue_fault htimeout.1]
    refine .after (.of_eq ?_ ?_) (changesLease_clear _ ?_)
    · rw [queueBrakeLockLocked_lease]
    · rw [queueBrakeLockLocked_history]
    · rw [queueBrakeLockLocked_lease]
      exact htimeout.1
  · exact h

theorem Tick.retryPending_gate (h : GateKept g t) : GateKept g (t.retryPending p now) := by
  unfold Tick.retryPending
  dsimp only
  split_ifs
  · exact h.keep rfl (.of_eq rfl rfl)
  · exact h

theorem Tick.readiness_gate (h : GateKept g t) : GateKept g (t.readiness p now) := by
  unfold Tick.readiness
  dsimp only
  split_ifs with hworkspace hfeedback
  · exact h.clear hworkspace.1 rfl (changesLease_holdAndClear _ hworkspace.1)
  · exact h.clear hfeedback.1 rfl (changesLease_holdAndClear _ hfeedback.1)
  · exact h

theorem Tick.brakeLock_gate (h : GateKept g t) : GateKept g (t.brakeLock p now) := by
  refine h.keep rfl ?_
  have hstate : KeepsLease t.gateway (updateStateWithoutLeaseLocked p t.gateway now) := by
    unfold updateStateWithoutLeaseLocked
    split <;> exact .of_eq rfl rfl
  refine hstate.trans ?_
  show KeepsLease _ (takePendingBrakeActionLocked p _ now).2
  rw [takePendingBrakeActionLocked_eq]
  exact .of_eq rfl rfl

end TickGate

theorem watchdogTick_gate (p : Parameters) (g : Gateway) (now : ℕ) :
    GateKept g (watchdogTick p g now) :=
  Tick.brakeLock_gate <| Tick.readiness_gate <| Tick.retryPending_gate <| Tick.ackTimeout_gate <|
    Tick.revocationFallback_gate <| Tick.leaseExpiry_gate <| Tick.commandTimeout_gate <|
    .inl ⟨rfl, .of_eq rfl rfl⟩

/-! ## Turns -/

/-- The gate message of a publication. -/
def Publication.gate? : Publication → Option (Bool × ℕ)
  | .leaseGate active change => some (active, change)
  | .internalCommand _ => none

/-- The gate messages that a handler still owes. -/
def Pc.owedGates : Pc → List (Bool × ℕ)
  | .publishing m owed _ => (m :: owed).filterMap Publication.gate?
  | _ => []

@[simp] theorem owedGates_owing (owed : List Publication) (next : Option BrakeAction) :
    (Pc.owing owed next).owedGates = owed.filterMap Publication.gate? := by
  rcases owed with _ | ⟨m, owed⟩
  · cases next <;> rfl
  · rfl

@[simp] theorem owedGates_resume (caller : BrakeCaller) (confirmed : Bool) :
    (caller.resume confirmed).owedGates = [] := by
  cases caller <;> cases confirmed <;> rfl

/-- What a turn does to the gate. -/
inductive GateTurn (g : Gateway) (pc : Pc) (a : Action) (t : Turn) : Prop where
  | keep : KeepsLease g t.gateway → t.pc.owedGates = pc.owedGates → t.gate = none →
      GateTurn g pc a t
  | publish {m : Bool × ℕ} {owed : List Publication} {next : Option BrakeAction} {locked : Bool} :
      pc = .publishing (.leaseGate m.1 m.2) owed next → a = .publish locked →
      KeepsLease g t.gateway → pc.owedGates = m :: t.pc.owedGates → t.gate = some m →
      GateTurn g pc a t
  /-- A handler that owes nothing changes the lease, and then owes the message about it. -/
  | change : ChangesLease g t.gateway → pc.owedGates = [] →
      t.pc.owedGates = [(t.gateway.lease.active, leaseChanges t.gateway)] → t.gate = none →
      GateTurn g pc a t

theorem ackTurn_gate (hg : Sound g) (arm : Bool) (sequence : ℕ) :
    GateTurn g .idle (.ack arm sequence) (ackTurn p now g arm sequence) := by
  have hack : ∀ g' : Gateway, g'.lease.active = g.lease.active →
      g'.history = .acked arm sequence :: g.history → KeepsLease g g' := fun g' hactive hhistory =>
    ⟨hactive, by rw [leaseChanges, hhistory]; exact List.countP_cons_of_neg Bool.false_ne_true⟩
  unfold ackTurn
  rcases handleAck_cases p g arm sequence now with ⟨-, _, h, -, -⟩ | ⟨hpending, rfl, h⟩
  · rw [h]
    exact .keep (hack _ rfl rfl) rfl rfl
  rcases h with ⟨-, h⟩ | ⟨-, ⟨-, h⟩ | ⟨-, -, h⟩ | ⟨-, -, h⟩⟩
  · rw [h]
    exact .keep (hack _ rfl rfl) rfl rfl
  · rw [h]
    have hconfirm := hack (confirmPending (recordAck g arm g.transaction.pendingSequence)) rfl rfl
    have hclear := changesLease_clear
      (revocationReason (confirmPending (recordAck g arm g.transaction.pendingSequence)))
      (hconfirm.active.trans (hg.pending hpending))
    refine .change (hclear.after hconfirm) rfl ?_ rfl
    simp [gateMessage, Publication.gate?]
  · rw [h]
    refine .keep (.trans (hack (confirmPending (recordAck g arm _)) rfl rfl) ?_) rfl rfl
    exact (keepsLease_dispatch _ _ _).trans (.of_eq rfl rfl)
  · rw [h]
    exact .keep (hack _ rfl rfl) rfl rfl

theorem tickTurn_gate (g : Gateway) : GateTurn g .idle .tick (tickTurn p now g) := by
  have hretry : (watchdogTick p g now).retryCommand.toList.filterMap
      (fun c => Publication.gate? (.internalCommand c)) = [] := by
    cases (watchdogTick p g now).retryCommand <;> rfl
  have howed : (tickTurn p now g).pc.owedGates =
      if (watchdogTick p g now).releaseGate then
        [(false, leaseChanges (watchdogTick p g now).gateway)] else [] := by
    simp only [tickTurn, owedGates_owing, List.filterMap_append, List.filterMap_map]
    split <;> simp [gateMessage, Publication.gate?, Function.comp_def]
  rcases watchdogTick_gate p g now with ⟨hopen, hkeep⟩ | ⟨hclosed, hended, hchange⟩
  · exact .keep hkeep (by rw [howed, hopen]; rfl) rfl
  · refine .change hchange rfl ?_ rfl
    rw [howed, hclosed]
    show _ = [((watchdogTick p g now).gateway.lease.active, _)]
    rw [hended]
    rfl

theorem grantTurn_gate (g : Gateway) (request : AcquireRequest) (random : ℕ) :
    GateTurn g (.acquiring request) (.grant random) (grantTurn p now g request random) := by
  unfold grantTurn acquireGrant
  dsimp only
  rcases hcheck : acquireRecheck p (endAcquisition g) now with reason | u
  · exact .keep (.of_eq rfl rfl) rfl rfl
  · have hinactive := inactive_of_recheck hcheck
    refine .change ⟨?_, ?_⟩ rfl ?_ rfl
    · rw [hinactive]
      rfl
    · refine (List.countP_cons_of_neg Bool.false_ne_true).trans ?_
      exact List.countP_cons_of_pos rfl
    · simp [gateMessage, Publication.gate?, grantLease, grantedLease]

theorem releaseTurn_gate (g : Gateway) (request : ReleaseRequest) :
    GateTurn g .idle (.release request) (releaseTurn p now g request) := by
  unfold releaseTurn releaseBegin
  split_ifs with hmismatch
  · exact .keep (.of_eq rfl rfl) rfl rfl
  · rw [not_or, not_not] at hmismatch
    cases releaseWorkspaceStop p g.feedback now with
    | none => exact .keep (keepsLease_hold p now g _ _) rfl rfl
    | some detail =>
      refine .change (changesLease_clear detail hmismatch.1) rfl ?_ rfl
      simp [gateMessage, Publication.gate?]

theorem releaseWakeTurn_gate {pc : Pc} (hpc : pc.owedGates = []) {deadline : ℕ} {t : Turn}
    (h : releaseWakeTurn now g deadline = some t) : GateTurn g pc .releaseWake t := by
  unfold releaseWakeTurn releaseWake at h
  split_ifs at h with hactive hdeadline
  · cases h
    refine .change (changesLease_clear _ hactive) hpc ?_ rfl
    simp [gateMessage, Publication.gate?]
  · cases h
    exact .keep (.of_eq rfl rfl) hpc.symm rfl

theorem publishTurn_gate (g : Gateway) (m : Publication) (owed : List Publication)
    (next : Option BrakeAction) (locked : Bool) :
    GateTurn g (.publishing m owed next) (.publish locked)
      (publishTurn now g m owed next locked) := by
  cases m with
  | leaseGate active change =>
    exact .publish rfl rfl (.of_eq rfl rfl) (by rw [publishTurn, owedGates_owing]; rfl) rfl
  | internalCommand c =>
    refine .keep (.of_eq ?_ ?_) (by rw [publishTurn, owedGates_owing]; rfl) rfl
    · simp only [publishTurn, publishInternalCommand]
      split <;> rfl
    · exact publishTurn_gateway_history _ _ _ _ _ _

/-- The inversion of a turn with respect to the gate. -/
theorem turn_gate (hg : Sound g) {pc : Pc} {a : Action} {t : Turn}
    (h : turn p now g pc a = some t) : GateTurn g pc a t := by
  unfold turn at h
  split at h
  · next sample =>
    cases h
    obtain ⟨feedback, locked, hr⟩ := receive_eq p g now sample
    exact .keep (by rw [hr]; exact .of_eq rfl rfl) rfl rfl
  · cases h
    exact ackTurn_gate hg _ _
  · cases h
    exact tickTurn_gate g
  · cases h
    unfold commandTurn commandPreflight
    dsimp only
    split_ifs <;> exact .keep (.of_eq rfl rfl) rfl rfl
  · cases h
    refine .keep (by rw [admitTurn_gateway]; exact keepsLease_commandAdmit g _ _) ?_ ?_
    · unfold admitTurn
      split <;> rfl
    · unfold admitTurn
      split <;> rfl
  · cases h
    unfold acquireTurn
    split_ifs <;> exact .keep (.of_eq rfl rfl) rfl rfl
  · cases h
    exact grantTurn_gate g _ _
  · cases h
    exact .keep (.of_eq rfl rfl) rfl rfl
  · cases h
    exact releaseTurn_gate g _
  · exact releaseWakeTurn_gate rfl h
  · cases h
    unfold liftBrakeTurn
    split_ifs <;> exact .keep (.of_eq rfl rfl) rfl rfl
  · cases h
    exact .keep (.of_eq rfl rfl) rfl rfl
  · rw [Option.map_eq_some_iff] at h
    obtain ⟨phase, -, rfl⟩ := h
    exact .keep (.of_eq rfl rfl) rfl rfl
  · cases h
    exact .keep (.of_eq rfl rfl) rfl rfl
  · cases h
    refine .keep ?_ (owedGates_resume _ _) rfl
    unfold finishBrakeAction
    split <;> exact .of_eq rfl rfl
  · cases h
    exact publishTurn_gate g _ _ _ _
  · exact nomatch h

/-! ## The topic -/

/-- The number of the lease change that a gate message reports. -/
abbrev change (m : Bool × ℕ) : ℕ := m.2

/-- Every lease change is published or owed, and every gate message says whether the lease was
granted or ended by the change that it reports. -/
structure GateTracked (s : System) : Prop where
  announced : Announced (leaseChanges s.gateway) (fun i => (s.threads i).owedGates.map change)
    (s.gateTopic.map change)
  active : s.gateway.lease.active = (leaseChanges s.gateway).bodd
  published : ∀ m ∈ s.gateTopic, m.1 = m.2.bodd
  owed : ∀ i, ∀ m ∈ (s.threads i).owedGates, m.1 = m.2.bodd

theorem gateTracked_init (startedAt : ℕ) : GateTracked (System.init startedAt) where
  announced := .start fun _ => rfl
  active := Nat.bodd_zero.symm
  published := fun m hm => by
    rw [List.mem_singleton.mp hm]
    exact Nat.bodd_zero.symm
  owed := fun i m hm => nomatch hm

/-- What the threads owe after the turn of one of them. -/
theorem owed_after (s : System) (l : Label) (t : Turn) :
    (fun i => ((s.after l t).threads i).owedGates.map change) =
      Function.update (fun i => (s.threads i).owedGates.map change) l.thread
        (t.pc.owedGates.map change) := by
  funext i
  by_cases hi : i = l.thread
  · rw [hi, Function.update_self]
    simp [System.after]
  · rw [Function.update_of_ne hi]
    simp [System.after, Function.update_of_ne hi]

theorem GateTracked.step {s s' : System} {l : Label} (hg : Sound s.gateway) (hs : GateTracked s)
    (h : Gateway.step p s l = some s') : GateTracked s' := by
  obtain ⟨-, t, ht, rfl⟩ := step_eq_some.mp h
  -- The messages that other threads owe stay as they are.
  have howed : (∀ m ∈ t.pc.owedGates, m.1 = m.2.bodd) →
      ∀ i, ∀ m ∈ ((s.after l t).threads i).owedGates, m.1 = m.2.bodd := by
    intro hself i m hm
    simp only [System.after] at hm
    by_cases hi : i = l.thread
    · rw [hi, Function.update_self] at hm
      exact hself m hm
    · rw [Function.update_of_ne hi] at hm
      exact hs.owed i m hm
  have htopic : (s.after l t).gateTopic = t.gate.toList ++ s.gateTopic := rfl
  have hactive : KeepsLease s.gateway t.gateway →
      t.gateway.lease.active = (leaseChanges t.gateway).bodd := fun hlease => by
    rw [hlease.active, hs.active, hlease.changes]
  cases turn_gate hg ht with
  | keep hlease hpc hgate =>
    rw [hgate] at htopic
    refine ⟨?_, hactive hlease, ?_, ?_⟩
    · rw [owed_after, htopic]
      show Announced (leaseChanges t.gateway) _ _
      rw [hlease.changes]
      exact hs.announced.stay (by rw [hpc])
    · rw [htopic]
      exact hs.published
    · exact howed fun m hm => hs.owed l.thread m (hpc ▸ hm)
  | publish hat hact hlease hpc hgate =>
    next m _ _ _ =>
    have hmem : m ∈ (s.threads l.thread).owedGates := hpc ▸ List.mem_cons_self
    rw [hgate] at htopic
    refine ⟨?_, hactive hlease, ?_, ?_⟩
    · rw [owed_after, htopic]
      show Announced (leaseChanges t.gateway) _ _
      rw [hlease.changes]
      exact hs.announced.announce (by rw [hpc, List.map_cons])
    · rw [htopic]
      intro m' hm'
      rcases List.mem_cons.mp hm' with rfl | hold
      · exact hs.owed l.thread m' hmem
      · exact hs.published m' hold
    · exact howed fun m' hm' => hs.owed l.thread m' (hpc ▸ List.mem_cons_of_mem m hm')
  | change hlease hpc hpc' hgate =>
    have hactive : t.gateway.lease.active = (leaseChanges t.gateway).bodd := by
      rw [hlease.active, hlease.changes, Nat.bodd_succ, hs.active]
    rw [hgate] at htopic
    refine ⟨?_, hactive, ?_, ?_⟩
    · rw [owed_after, htopic]
      show Announced (leaseChanges t.gateway) _ _
      rw [hpc', List.map_singleton, hlease.changes]
      exact hs.announced.change (by rw [hpc]; rfl)
    · rw [htopic]
      exact hs.published
    · refine howed fun m hm => ?_
      rw [hpc', List.mem_singleton] at hm
      rw [hm]
      exact hactive

/-- In every reachable state every lease change is published or owed. -/
theorem Reachable.gateTracked {startedAt : ℕ} {s : System} (h : Reachable p startedAt s) :
    GateTracked s := by
  have hinv : Lawful s ∧ GateTracked s := by
    refine h.induction (I := fun s => Lawful s ∧ GateTracked s)
      ⟨lawful_init startedAt, gateTracked_init startedAt⟩ ?_
    rintro s l s' ⟨hlawful, htracked⟩ hstep
    exact ⟨hlawful.step hstep, htracked.step hlawful.proper.sound hstep⟩
  exact hinv.2

/-! ## Agreement -/

/-- When no handler is at work, the last message on the gate topic is the state of the lease. -/
def GateAgrees (s : System) : Prop :=
  (∀ i, s.threads i = .idle) → (s.gateTopic.head?.map Prod.fst) = some s.gateway.lease.active

/-- The acknowledgement that ends the first lease has not been published when the second lease is
granted and published. -/
def overtakingRun : List Label :=
  stepsAt (millis 2) 0
      ((completeFeedback defaultParameters .simulation true 0).map Action.sample ++
        [Action.acquire (acquireRequest "first"), .grant 7, .publish true, .publish true,
          .ack true 1, .ack false 1]) ++
    stepsAt (millis 3) 1 [.release ⟨"first", generateLeaseId "first" 7 (millis 2) 1, false⟩] ++
    stepsAt (millis 4) 0 [.ack true 2, .ack false 2] ++
    stepsAt (millis 5) 1
      [.releaseWake, .acquire (acquireRequest "second"), .grant 8, .publish true, .publish true] ++
    stepsAt (millis 6) 0 [.publish true]

/-- A thread that takes no step of a run stays where it is. -/
theorem exec_threads {i : ℕ} : ∀ {run : List Label} {s s' : System},
    (∀ l ∈ run, l.thread ≠ i) → Runs.exec (step p) s run = some s' → s'.threads i = s.threads i
  | [], s, s', _, h => by
    rw [Runs.exec_nil, Option.some_inj] at h
    rw [h]
  | l :: run, s, s', hrun, h => by
    obtain ⟨t, hst, hts⟩ := Runs.exec_cons_eq_some.mp h
    obtain ⟨-, turn, -, rfl⟩ := step_eq_some.mp hst
    have hne : i ≠ l.thread := fun heq => hrun l List.mem_cons_self heq.symm
    rw [exec_threads (fun l' hl' => hrun l' (List.mem_cons_of_mem l hl')) hts]
    exact Function.update_of_ne hne _ _

/-- The gate topic and the lease may disagree for good: a closed gate is published after the grant
of the lease that followed. -/
theorem gate_published_out_of_order :
    ¬ ∀ p startedAt s, Reachable p startedAt s → GateAgrees s := by
  intro hclaim
  obtain ⟨s, hs, hreach, hfacts⟩ := Runs.reachable_of_run
    (step defaultParameters) (System.init (millis 1)) overtakingRun
    (fun s => decide (s.threads 0 = .idle) && decide (s.threads 1 = .idle) &&
      s.gateway.lease.active && decide (s.gateTopic.head?.map Prod.fst = some false))
    (by decide +kernel)
  simp only [Bool.and_eq_true, decide_eq_true_eq] at hfacts
  obtain ⟨⟨⟨hidle₀, hidle₁⟩, hactive⟩, hclosed⟩ := hfacts
  have hsmall : ∀ l ∈ overtakingRun, l.thread < 2 := by decide
  have hidle : ∀ i, s.threads i = .idle
    | 0 => hidle₀
    | 1 => hidle₁
    | i + 2 => exec_threads (fun l hl heq => by have := hsmall l hl; omega) hs
  have hagree := hclaim _ _ s hreach hidle
  rw [hclosed, hactive] at hagree
  exact nomatch hagree

/-- A gate message that is published reports a later lease change than all published before. -/
def PublishesInOrder (s : System) (l : Label) : Prop :=
  ∀ active change owed next locked,
    s.threads l.thread = .publishing (.leaseGate active change) owed next →
      l.action = .publish locked → ∀ m ∈ s.gateTopic, m.2 < change

/-- The invariant of the runs that publish in order. -/
structure GateOrdered (s : System) : Prop where
  sound : Lawful s
  tracked : GateTracked s
  ordered : (s.gateTopic.map change).Pairwise fun newer older => older < newer

theorem GateOrdered.gateAgrees {s : System} (h : GateOrdered s) : GateAgrees s := by
  intro hidle
  have hhead := h.tracked.announced.head (fun i => by rw [hidle i]; rfl) h.ordered
  cases htopic : s.gateTopic with
  | nil =>
    rw [htopic] at hhead
    exact nomatch hhead
  | cons m older =>
    rw [htopic] at hhead
    have hchange : m.2 = leaseChanges s.gateway := Option.some_inj.mp hhead
    have hreports := h.tracked.published m (by rw [htopic]; exact List.mem_cons_self)
    show some m.1 = some s.gateway.lease.active
    rw [hreports, hchange, h.tracked.active]

theorem GateOrdered.step {s s' : System} {l : Label} (hs : GateOrdered s)
    (hC : PublishesInOrder s l) (h : Gateway.step p s l = some s') : GateOrdered s' := by
  refine ⟨hs.sound.step h, hs.tracked.step hs.sound.proper.sound h, ?_⟩
  obtain ⟨-, t, ht, rfl⟩ := step_eq_some.mp h
  have htopic : (s.after l t).gateTopic = t.gate.toList ++ s.gateTopic := rfl
  cases turn_gate hs.sound.proper.sound ht with
  | keep _ _ hgate =>
    rw [htopic, hgate]
    exact hs.ordered
  | publish hpc hact _ _ hgate =>
    rw [htopic, hgate]
    refine List.pairwise_cons.mpr ⟨fun k hk => ?_, hs.ordered⟩
    obtain ⟨m', hm', rfl⟩ := List.mem_map.mp hk
    exact hC _ _ _ _ _ hpc hact m' hm'
  | change _ _ _ hgate =>
    rw [htopic, hgate]
    exact hs.ordered

/-- Along every run in which no gate message overtakes a later one, the last message on the topic
is the state of the lease whenever no handler is at work. -/
theorem gateAgrees_of_inOrder (startedAt : ℕ) (run : List Label)
    (h : Runs.Meets (step p) PublishesInOrder (System.init startedAt) run) :
    Runs.Always (step p) GateAgrees (System.init startedAt) run := by
  have hinit : GateOrdered (System.init startedAt) :=
    ⟨lawful_init startedAt, gateTracked_init startedAt, List.pairwise_singleton _ _⟩
  exact (Runs.always_of_meets (I := GateOrdered)
    (fun _ _ _ hs hC hstep => hs.step hC hstep) hinit h).mono fun _ hs => hs.gateAgrees

/-- A gate message that is published reports a later lease change than all published before, as a
test. -/
def publishesInOrder (s : System) (l : Label) : Bool :=
  match s.threads l.thread with
  | .publishing (.leaseGate _ change) _ _ => s.gateTopic.all fun m => decide (m.2 < change)
  | _ => true

theorem publishesInOrder_of_test {s : System} {l : Label} (h : publishesInOrder s l = true) :
    PublishesInOrder s l := by
  intro active change owed next locked hpc _ m hm
  rw [publishesInOrder, hpc, List.all_eq_true] at h
  exact of_decide_eq_true (h m hm)

/-- The lease of an owner is granted, released and granted again, and every gate message is
published before the next change. -/
def orderedRun : List Label :=
  stepsAt (millis 2) 0
      ((completeFeedback defaultParameters .simulation true 0).map Action.sample ++
        [Action.acquire (acquireRequest "first"), .grant 7, .publish true, .publish true,
          .ack true 1, .ack false 1]) ++
    stepsAt (millis 3) 1 [.release ⟨"first", generateLeaseId "first" 7 (millis 2) 1, false⟩] ++
    stepsAt (millis 4) 0 [.ack true 2, .ack false 2, .publish true] ++
    stepsAt (millis 5) 1
      [.releaseWake, .acquire (acquireRequest "second"), .grant 8, .publish true, .publish true]

theorem gateAgrees_orderedRun :
    (Runs.exec (step defaultParameters) (System.init (millis 1)) orderedRun).any
        (fun s => s.gateTopic.map Prod.fst == [true, false, true, false]) = true ∧
      Runs.Always (step defaultParameters) GateAgrees (System.init (millis 1)) orderedRun :=
  ⟨by decide +kernel, gateAgrees_of_inOrder (millis 1) orderedRun
    (Runs.meets_of_passes (fun _ _ => publishesInOrder_of_test) (by decide +kernel))⟩

end Gateway

end JointController
