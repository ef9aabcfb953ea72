import JointController.Gateway.Changes

/-!
# The gateway as a leased channel

The lease and the transaction of the gateway are a leased channel whose executors are the arm
controller and the lift controller: every change of the gateway is some steps of the channel.  So
the gateway inherits the discipline of the channel along every run.

* `channel`: the channel of a gateway state.
* `Sound`: a staged command stands behind a pending one, and a pending one belongs to a lease.
* `Change.simulates`: every change is steps of the channel.
* `Arrivals`: a received command is admitted at most once.
* `Lawful`, `Reachable.lawful`: every reachable state is disciplined and admits a command at most
  once.
-/

namespace JointController

namespace Gateway

open Relation LeasedChannel

/-- The channel of a gateway state. -/
def channel (g : Gateway) : Channel Bool Command where
  leases := g.lease.generation
  active := g.lease.active
  last := g.lease.lastAcceptedSequence
  applied := g.lease.appliedCommandSequence
  issued := g.transaction.controllerGeneration
  outstanding :=
    if g.transaction.pendingValid then
      some
        { generation := g.transaction.pendingSequence
          request := if g.transaction.pendingIsUser then some g.transaction.pendingExternalSequence
            else none
          acked := fun arm =>
            if arm then g.transaction.armAckSequence == g.transaction.pendingSequence
            else g.transaction.liftAckSequence == g.transaction.pendingSequence }
    else none
  staged :=
    if g.transaction.stagedValid then
      some (g.transaction.stagedArrival, g.transaction.stagedCommand)
    else none
  log := g.history

/-- The steps of the channel of the gateway. -/
abbrev Steps (fresh : ℕ → Prop) : Channel Bool Command → Channel Bool Command → Prop :=
  ReflTransGen (Step initialSequenceOf Command.sequence fresh)

/-- A staged command stands behind a pending one, and a pending one belongs to a lease. -/
structure Sound (g : Gateway) : Prop where
  staged : g.transaction.stagedValid = true → g.transaction.pendingValid = true
  pending : g.transaction.pendingValid = true → g.lease.active = true

variable {p : Parameters} {now : ℕ} {fresh : ℕ → Prop} {g g' : Gateway}

/-! ## Operations of the channel -/

theorem channel_eq (hlease : g'.lease = g.lease) {retries published : ℕ}
    (htransaction : g'.transaction =
      { g.transaction with ackRetryCount := retries, lastPublishTime := published })
    (hhistory : g'.history = g.history) : channel g' = channel g := by
  simp only [channel, hlease, htransaction, hhistory]

theorem channel_hold (reason : String) (revokeLease : Bool) (h : g.lease.active = true) :
    channel (beginSafetyHoldLocked p g now reason revokeLease) = (channel g).hold := by
  unfold beginSafetyHoldLocked
  rw [if_neg (not_not.mpr h)]
  dsimp only
  rw [queueHoldLock_eq]
  simp [channel, Channel.hold]

theorem channel_clear (reason : String) (h : g.lease.active = true) :
    channel (clearHeavyLeaseLocked g reason) = (channel g).clear := by
  unfold clearHeavyLeaseLocked
  rw [if_neg (not_not.mpr h)]
  simp [channel, Channel.clear]

theorem channel_grant (request : AcquireRequest) (random : ℕ) :
    channel (grantLease p g request now random) = (channel g).grant initialSequenceOf := by
  simp [channel, Channel.grant, grantLease, grantedLease]

theorem channel_stage (c : Command) (arrival : ℕ) :
    channel (stageCommand g c arrival) = (channel g).stage arrival c := rfl

theorem channel_dispatch (c : Command) (arrival : ℕ) (h : g.transaction.stagedValid = false) :
    channel (dispatchUserCommandLocked p g c arrival now) =
      (channel g).dispatch Command.sequence arrival c := by
  simp [channel, Channel.dispatch, dispatchUserCommandLocked, h]

theorem channel_promote :
    channel (promoteStaged p g now) = (channel g).dispatch Command.sequence
      g.transaction.stagedArrival g.transaction.stagedCommand := by
  simp [channel, Channel.dispatch, promoteStaged, dispatchUserCommandLocked]

theorem channel_ack_ignored {arm : Bool} {sequence : ℕ} {counters : Counters}
    (h : ¬ g.transaction.pendingValid ∨ sequence ≠ g.transaction.pendingSequence) :
    channel { g with counters := counters, history := .acked arm sequence :: g.history } =
      (channel g).ack arm sequence := by
  by_cases hpending : g.transaction.pendingValid = true
  · have hne : g.transaction.pendingSequence ≠ sequence := fun heq =>
      h.elim (fun hn => hn hpending) (fun hs => hs heq.symm)
    simp [channel, Channel.ack, hpending, hne]
  · simp [channel, Channel.ack, hpending]

theorem channel_ack_incomplete {arm : Bool} (h : g.transaction.pendingValid = true)
    (hpart : ¬ completesPending g arm) :
    channel (recordAck g arm g.transaction.pendingSequence) =
      (channel g).ack arm g.transaction.pendingSequence := by
  cases arm <;>
    simp_all [channel, Channel.ack, recordAck, completesPending, Bool.forall_bool] <;>
    (funext j; cases j <;> simp)

theorem channel_ack_complete {arm : Bool} (h : g.transaction.pendingValid = true)
    (hall : completesPending g arm) :
    channel (confirmPending (recordAck g arm g.transaction.pendingSequence)) =
      (channel g).ack arm g.transaction.pendingSequence := by
  cases arm <;>
    by_cases huser : g.transaction.pendingIsUser = true <;>
    simp_all [channel, Channel.ack, recordAck, confirmPending, completesPending, Bool.forall_bool]

/-! ## Changes are steps of the channel -/

theorem sound_clear (reason : String) (h : g.lease.active = true) :
    Sound (clearHeavyLeaseLocked g reason) := by
  unfold clearHeavyLeaseLocked
  rw [if_neg (not_not.mpr h)]
  exact ⟨fun hs => (nomatch hs), fun hp => nomatch hp⟩

/-- An acknowledgement is a step of the channel, and what follows it under the mutex is another
one. -/
theorem handleAck_simulates (hg : Sound g) (arm : Bool) (sequence : ℕ) :
    Sound (handleAck p g arm sequence now).2 ∧
      Steps fresh (channel g) (channel (handleAck p g arm sequence now).2) := by
  have hack : ∀ {c}, (channel g).ack arm sequence = c → Steps fresh (channel g) c := fun h =>
    h ▸ .single (.ack arm sequence)
  rcases handleAck_cases p g arm sequence now with
    ⟨hignored, counters, h, -, -⟩ | ⟨hpending, rfl, h⟩
  · rw [h]
    exact ⟨⟨hg.staged, hg.pending⟩, hack (channel_ack_ignored hignored).symm⟩
  have hactive := hg.pending hpending
  rcases h with ⟨hpart, h⟩ | ⟨hall, h⟩
  · rw [h]
    exact ⟨⟨hg.staged, hg.pending⟩, hack (channel_ack_incomplete hpending hpart).symm⟩
  have hsteps := hack (channel_ack_complete hpending hall).symm
  rcases h with ⟨_, h⟩ | ⟨_, hstaged, h⟩ | ⟨_, hstaged, h⟩
  · rw [h]
    refine ⟨sound_clear _ hactive, hsteps.tail ?_⟩
    have hconfirmed : (confirmPending
        (recordAck g arm g.transaction.pendingSequence)).lease.active = true := hactive
    rw [channel_clear _ hconfirmed]
    exact .clear hconfirmed
  · rw [h]
    refine ⟨⟨by rintro ⟨⟩, fun _ => ?_⟩, hsteps.tail ?_⟩
    · simpa [promoteStaged, dispatchUserCommandLocked, confirmPending, recordAck] using hactive
    · exact channel_promote.symm ▸ .promote hactive rfl (if_pos hstaged)
  · rw [h]
    refine ⟨⟨fun hs => ?_, by rintro ⟨⟩⟩, hsteps⟩
    exact absurd hs (Bool.eq_false_iff.mp hstaged)

theorem sound_hold (reason : String) (revokeLease : Bool) (h : g.lease.active = true) :
    Sound (beginSafetyHoldLocked p g now reason revokeLease) := by
  unfold beginSafetyHoldLocked
  rw [if_neg (not_not.mpr h)]
  dsimp only
  rw [queueHoldLock_eq]
  exact ⟨by rintro ⟨⟩, fun _ => h⟩

/-- Every change of the gateway is steps of its channel. -/
theorem Change.simulates (hg : Sound g) (h : Change p now g g') :
    Sound g' ∧ Steps fresh (channel g) (channel g') := by
  cases h with
  | quiet retries published hlease htransaction _ _ hhistory _ =>
    rw [channel_eq hlease htransaction hhistory]
    refine ⟨⟨?_, ?_⟩, .refl⟩
    · rw [htransaction]
      exact hg.staged
    · rw [htransaction, hlease]
      exact hg.pending
  | report state hinactive => exact ⟨⟨hg.staged, hg.pending⟩, .refl⟩
  | lock reason =>
    rw [queueBrakeLockLocked_eq]
    exact ⟨⟨hg.staged, hg.pending⟩, .refl⟩
  | hold reason revokeLease hactive _ =>
    rw [channel_hold reason revokeLease hactive]
    exact ⟨sound_hold reason revokeLease hactive, .single (.hold hactive)⟩
  | clear reason hactive =>
    rw [channel_clear reason hactive]
    exact ⟨sound_clear reason hactive, .single (.clear hactive)⟩

theorem Changes.simulates (hg : Sound g) (h : Changes p now g g') :
    Sound g' ∧ Steps fresh (channel g) (channel g') :=
  h.invariant (I := fun g' => Sound g' ∧ Steps fresh (channel g) (channel g')) ⟨hg, .refl⟩
    fun _ _ hinv hchange =>
      have hnext : Sound _ ∧ Steps fresh _ _ := hchange.simulates hinv.1
      ⟨hnext.1, hinv.2.trans hnext.2⟩

/-- The admission of a command that has just arrived is a step of the channel, or none. -/
theorem commandAdmit_simulates (hg : Sound g) {c : Command} {arrival : ℕ} (hfresh : fresh arrival)
    (hnew : ¬ Arrived g.history arrival) :
    Sound (commandAdmit p g c arrival now).2 ∧
      Steps fresh (channel g) (channel (commandAdmit p g c arrival now).2) := by
  have hnew' : ∀ e ∈ (channel g).log, e.arrival? ≠ some arrival := fun e he hea =>
    hnew ⟨e, he, hea⟩
  rcases commandAdmit_cases p g c arrival now with ⟨counters, h, -, -⟩ | ⟨hvalid, hseq, h⟩
  · rw [h]
    exact ⟨⟨hg.staged, hg.pending⟩, .refl⟩
  have hactive := active_of_validate hvalid
  have hlast := (lastAccepted_le_newestAdmitted g).trans_lt hseq
  rcases h with ⟨hpending, h⟩ | ⟨hpending, h⟩
  · rw [h, channel_stage]
    exact ⟨⟨fun _ => hpending, fun _ => hactive⟩, .single (.stage hactive hlast hfresh hnew')⟩
  · have hstaged : g.transaction.stagedValid = false :=
      Bool.eq_false_iff.mpr fun hs => Bool.eq_false_iff.mp hpending (hg.staged hs)
    rw [h]
    refine ⟨⟨fun _ => ?_, fun _ => ?_⟩, ?_⟩
    · simp [dispatchUserCommandLocked]
    · simpa [dispatchUserCommandLocked] using hactive
    · exact channel_dispatch c arrival hstaged ▸ .single (.dispatch hactive
        (if_neg (Bool.eq_false_iff.mp hpending)) (if_neg (Bool.eq_false_iff.mp hstaged)) hlast
        hfresh hnew')

/-- Every turn of the gateway is steps of its channel.  The only command that comes in is the one
that the handler carries, and it must not have come in before. -/
theorem TurnCase.simulates {pc : Pc} {a : Action} (hg : Sound g) (h : TurnCase p now g pc a g')
    (hnew : ∀ c arrival, pc = .commanding c arrival → ¬ Arrived g.history arrival) :
    Sound g' ∧ Steps (fun arrival => ∃ c, pc = .commanding c arrival) (channel g) (channel g') := by
  cases h with
  | grant request random hcheck =>
    have hchannel : channel (grantLease p (endAcquisition g) request now random) =
        (channel g).grant initialSequenceOf := channel_grant request random
    rw [hchannel]
    exact ⟨⟨fun hs => (nomatch hs), fun _ => rfl⟩, .single (.grant (inactive_of_recheck hcheck))⟩
  | admission c arrival => exact commandAdmit_simulates hg ⟨c, rfl⟩ (hnew c arrival rfl)
  | ack arm sequence => exact handleAck_simulates hg arm sequence
  | changes hchanges => exact hchanges.simulates hg

/-! ## Arrivals -/

theorem Change.received_le (h : Change p now g g') :
    g.counters.received ≤ g'.counters.received := by
  cases h with
  | quiet _ _ _ _ _ hreceived _ _ => exact hreceived
  | report _ _ => exact le_rfl
  | lock _ => simp
  | hold _ _ _ _ =>
    unfold beginSafetyHoldLocked
    repeat' split
    all_goals simp
  | clear _ _ => exact (congrArg Counters.received (clearHeavyLeaseLocked_counters g _)).ge

theorem TurnCase.received_le {pc : Pc} {a : Action} (h : TurnCase p now g pc a g') :
    g.counters.received ≤ g'.counters.received := by
  cases h with
  | grant _ _ _ => exact le_rfl
  | admission c arrival =>
    rcases commandAdmit_cases p g c arrival now with ⟨_, h, -, hr⟩ | ⟨-, -, ⟨-, h⟩ | ⟨-, h⟩⟩
    · rw [h]
      exact hr.ge
    · rw [h]
      exact le_rfl
    · rw [h]
      simp [dispatchUserCommandLocked]
  | ack arm sequence =>
    rcases handleAck_cases p g arm sequence now with ⟨-, counters, h, hreceived, -⟩ | ⟨-, rfl, h⟩
    · rw [h]
      exact hreceived.ge
    · rcases h with ⟨-, h⟩ | ⟨-, ⟨-, h⟩ | ⟨-, -, h⟩ | ⟨-, -, h⟩⟩ <;> rw [h] <;>
        simp [recordAck, confirmPending, promoteStaged, dispatchUserCommandLocked]
  | changes hchanges =>
    exact hchanges.invariant (I := fun g' => g.counters.received ≤ g'.counters.received) le_rfl
      fun _ _ hle hchange => hle.trans hchange.received_le

/-- A disciplined gateway state. -/
structure Proper (g : Gateway) : Prop where
  sound : Sound g
  disciplined : Disciplined Command.sequence (channel g)

theorem proper_init (startedAt : ℕ) : Proper (Gateway.init startedAt) := by
  refine ⟨⟨fun h => (nomatch h), fun h => nomatch h⟩, ?_⟩
  exact ⟨History.justified_nil _, fun _ he => (nomatch he), fun _ ho => (nomatch ho),
    fun ha => (nomatch ha), History.justified_nil _, History.justified_nil _,
    fun _ _ _ _ he => (nomatch he), History.justified_nil _, fun _ _ hs => nomatch hs⟩

theorem Steps.mono {fresh' : ℕ → Prop} {c c' : Channel Bool Command} (h : Steps fresh c c')
    (hfresh : ∀ a, fresh a → fresh' a) : Steps fresh' c c' := by
  induction h with
  | refl => exact .refl
  | tail _ hlast ih => exact ih.tail (hlast.mono hfresh)

/-- What steps of the channel do to a disciplined state: only fresh arrivals come in. -/
theorem Steps.disciplined {c c' : Channel Bool Command} (h : Steps fresh c c')
    (hc : Disciplined Command.sequence c) : Disciplined Command.sequence c' ∧
      ∀ a, Arrived c'.log a → Arrived c.log a ∨ fresh a := by
  induction h with
  | refl => exact ⟨hc, fun a ha => Or.inl ha⟩
  | tail _ hlast ih =>
    exact ⟨hlast.disciplined ih.1, fun a ha => (hlast.arrived ih.1 ha).elim (ih.2 a) Or.inr⟩

/-- The command that a handler carries through its release of the brake and to its admission. -/
def Pc.arrival? : Pc → Option ℕ
  | .commanding _ arrival => some arrival
  | .braking _ _ (.command _ arrival) => some arrival
  | _ => none

@[simp] theorem arrival?_owing (owed : List Publication) (next : Option BrakeAction) :
    (Pc.owing owed next).arrival? = none := by
  rcases owed with _ | ⟨m, owed⟩
  · cases next <;> rfl
  · rfl

/-- A handler drops the command that it carries, or carries it on without touching the history,
or has just received it. -/
theorem turn_arrival {pc : Pc} {a : Action} {t : Turn} (h : turn p now g pc a = some t) :
    t.pc.arrival? = none ∨
    (t.pc.arrival? = pc.arrival? ∧ t.gateway.history = g.history) ∨
    (t.pc.arrival? = some (g.counters.received + 1) ∧
      t.gateway.counters.received = g.counters.received + 1 ∧
      t.gateway.history = g.history) := by
  unfold turn at h
  split at h
  · cases h
    exact .inl rfl
  · cases h
    unfold ackTurn
    split <;> exact .inl rfl
  · cases h
    exact .inl (arrival?_owing _ _)
  · cases h
    refine .inr (.inr ?_)
    unfold commandTurn commandPreflight
    dsimp only
    split_ifs <;> exact ⟨rfl, rfl, rfl⟩
  · cases h
    unfold admitTurn
    split <;> exact .inl rfl
  · cases h
    unfold acquireTurn
    split_ifs <;> exact .inl rfl
  · cases h
    unfold grantTurn
    split <;> exact .inl rfl
  · cases h
    exact .inl rfl
  · cases h
    unfold releaseTurn
    split <;> exact .inl rfl
  · unfold releaseWakeTurn at h
    split at h
    · exact nomatch h
    · cases h
      exact .inl rfl
    · cases h
      exact .inl rfl
  · cases h
    unfold liftBrakeTurn
    split <;> exact .inl rfl
  · cases h
    next action caller success error => cases caller <;> exact .inr (.inl ⟨rfl, rfl⟩)
  · rw [Option.map_eq_some_iff] at h
    obtain ⟨phase, -, rfl⟩ := h
    next caller => cases caller <;> exact .inr (.inl ⟨rfl, rfl⟩)
  · cases h
    next caller => cases caller <;> exact .inr (.inl ⟨rfl, rfl⟩)
  · cases h
    next action confirmed error caller =>
    have hhistory : (finishBrakeAction g action confirmed error).history = g.history := by
      unfold finishBrakeAction
      split <;> rfl
    cases caller <;> cases confirmed <;>
      first | exact .inl rfl | exact .inr (.inl ⟨rfl, hhistory⟩)
  · cases h
    next m owed next locked => cases m <;> exact .inl (arrival?_owing _ _)
  · exact nomatch h

/-- A received command is admitted at most once: the arrivals that the handlers carry are
different, and none of them is in the history. -/
structure Arrivals (s : System) : Prop where
  received : ∀ a, Arrived s.gateway.history a → a ≤ s.gateway.counters.received
  carried : ∀ i a, (s.threads i).arrival? = some a →
    a ≤ s.gateway.counters.received ∧ ¬ Arrived s.gateway.history a
  distinct : ∀ i j a, (s.threads i).arrival? = some a → (s.threads j).arrival? = some a → i = j

/-- The gateway is disciplined and admits a command at most once. -/
structure Lawful (s : System) : Prop where
  proper : Proper s.gateway
  arrivals : Arrivals s

/-- What a turn does to a disciplined gateway: only the command that the handler carries comes
in. -/
theorem Lawful.turn {s : System} (hs : Lawful s) {l : Label} {t : Turn}
    (ht : Gateway.turn p l.now s.gateway (s.threads l.thread) l.action = some t) :
    Proper t.gateway ∧ Steps (fun a => (s.threads l.thread).arrival? = some a)
      (channel s.gateway) (channel t.gateway) := by
  have hcase := turn_cases ht
  obtain ⟨hsound, hsteps⟩ := hcase.simulates hs.proper.sound fun c arrival hpc =>
    (hs.arrivals.carried l.thread arrival (by rw [hpc]; rfl)).2
  refine ⟨⟨hsound, (hsteps.disciplined hs.proper.disciplined).1⟩, ?_⟩
  have hown : ∀ a, (∃ c, s.threads l.thread = .commanding c a) →
      (s.threads l.thread).arrival? = some a := by
    rintro a ⟨c, hpc⟩
    rw [hpc]
    rfl
  exact Steps.mono hsteps hown

theorem Lawful.step {s s' : System} {l : Label} (hs : Lawful s) (h : step p s l = some s') :
    Lawful s' := by
  obtain ⟨-, t, ht, rfl⟩ := step_eq_some.mp h
  obtain ⟨hproper, hsteps⟩ := hs.turn ht
  have hreceived := (turn_cases ht).received_le
  have harrived : ∀ a, Arrived t.gateway.history a →
      Arrived s.gateway.history a ∨ (s.threads l.thread).arrival? = some a :=
    (hsteps.disciplined hs.proper.disciplined).2
  refine ⟨hproper, ?_⟩
  have hother : ∀ i, i ≠ l.thread → (s.after l t).threads i = s.threads i := fun i hi =>
    Function.update_of_ne hi _ _
  have hself : (s.after l t).threads l.thread = t.pc := Function.update_self _ _ _
  -- What another thread carries is neither admitted by this turn nor received in it.
  have hcarried : ∀ i a, i ≠ l.thread → (s.threads i).arrival? = some a →
      a ≤ t.gateway.counters.received ∧ ¬ Arrived t.gateway.history a := by
    intro i a hi ha
    obtain ⟨hle, hnot⟩ := hs.arrivals.carried i a ha
    exact ⟨hle.trans hreceived, fun harr => (harrived a harr).elim hnot
      fun hown => hi (hs.arrivals.distinct i l.thread a ha hown)⟩
  have hreceivedAll : ∀ a, Arrived t.gateway.history a → a ≤ t.gateway.counters.received := by
    intro a harr
    rcases harrived a harr with hold | hown
    · exact (hs.arrivals.received a hold).trans hreceived
    · exact (hs.arrivals.carried l.thread a hown).1.trans hreceived
  rcases turn_arrival ht with hnone | ⟨hsame, hhistory⟩ | ⟨hnew, hcount, hhistory⟩
  · refine ⟨hreceivedAll, fun i a ha => ?_, fun i j a hi hj => ?_⟩
    · by_cases hil : i = l.thread
      · rw [hil, hself, hnone] at ha
        exact nomatch ha
      · exact hcarried i a hil (hother i hil ▸ ha)
    · by_cases hil : i = l.thread
      · rw [hil, hself, hnone] at hi
        exact nomatch hi
      by_cases hjl : j = l.thread
      · rw [hjl, hself, hnone] at hj
        exact nomatch hj
      exact hs.arrivals.distinct i j a (hother i hil ▸ hi) (hother j hjl ▸ hj)
  · -- The thread carries its command on.
    have hback : ∀ i a, ((s.after l t).threads i).arrival? = some a →
        (s.threads i).arrival? = some a := by
      intro i a ha
      by_cases hil : i = l.thread
      · rw [hil, hself, hsame] at ha
        rw [hil]
        exact ha
      · exact hother i hil ▸ ha
    refine ⟨hreceivedAll, fun i a ha => ?_, fun i j a hi hj =>
      hs.arrivals.distinct i j a (hback i a hi) (hback j a hj)⟩
    obtain ⟨hle, hnot⟩ := hs.arrivals.carried i a (hback i a ha)
    refine ⟨hle.trans hreceived, fun harr => hnot ?_⟩
    have hold : Arrived t.gateway.history a := harr
    rwa [hhistory] at hold
  · -- The thread has just received a command, whose arrival is larger than all others.
    have hlarge : ∀ i a, i ≠ l.thread → ((s.after l t).threads i).arrival? = some a →
        a ≤ s.gateway.counters.received := fun i a hi ha =>
      (hs.arrivals.carried i a (hother i hi ▸ ha)).1
    have hnewest : ∀ a, ((s.after l t).threads l.thread).arrival? = some a →
        a = s.gateway.counters.received + 1 := by
      intro a ha
      rw [hself, hnew, Option.some_inj] at ha
      exact ha.symm
    refine ⟨hreceivedAll, fun i a ha => ?_, fun i j a hi hj => ?_⟩
    · by_cases hil : i = l.thread
      · have hval := hnewest a (hil ▸ ha)
        refine ⟨(hval.trans hcount.symm).le, fun harr => ?_⟩
        have hold : Arrived t.gateway.history a := harr
        rw [hhistory] at hold
        have hle := hs.arrivals.received a hold
        omega
      · exact hcarried i a hil (hother i hil ▸ ha)
    · by_cases hil : i = l.thread <;> by_cases hjl : j = l.thread
      · rw [hil, hjl]
      · have hle := hlarge j a hjl hj
        have hval := hnewest a (hil ▸ hi)
        omega
      · have hle := hlarge i a hil hi
        have hval := hnewest a (hjl ▸ hj)
        omega
      · exact hs.arrivals.distinct i j a (hother i hil ▸ hi) (hother j hjl ▸ hj)

theorem lawful_init (startedAt : ℕ) : Lawful (System.init startedAt) := by
  refine ⟨proper_init startedAt, fun a ha => ?_, fun i a ha => (nomatch ha),
    fun i j a hi => nomatch hi⟩
  obtain ⟨e, he, -⟩ := ha
  exact nomatch he

/-- Every reachable state is lawful. -/
theorem Reachable.lawful {startedAt : ℕ} {s : System} (h : Reachable p startedAt s) : Lawful s :=
  h.induction (lawful_init startedAt) fun _ _ _ hs hstep => hs.step hstep

end Gateway

end JointController
