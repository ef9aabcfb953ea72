import JointController.Network.Server
import JointController.Library.CheckThenAct

/-!
# The threads of the hardware server

What the stages of the handlers leave alone, and how a thread gets past a check.

* `Server.Change`, `Server.runStage_change`: everything that a stage can do to the server.
* `Connection.Between`: a thread reaches an act without another check.
* `Server.checked_of_between`: it does after its check has passed.
-/

namespace JointController

namespace Network

variable {env : Environment}

/-! ## What the stages change -/

namespace Server

variable {cfg : Settings} {s : Server env} {session : String} {around : Surroundings}

/-- `enter_direct` is accepted. -/
structure MayEnter (cfg : Settings) (s : Server env) (around : Surroundings) : Prop where
  inactive : s.directActive = false
  owner : s.ownerHeld = true ∨ around.lockFile = .free
  available : around.activeReasons = []
  snapshot : cfg.realBackend = true → env.hash s.config.config ≠ none

/-- `enter_direct` is refused, gives up, or enters. -/
theorem enterDirect_cases (cfg : Settings) (s : Server env) (session : String)
    (around : Surroundings) :
    (s.enterDirect cfg session around).1 = s ∨
    (s.enterDirect cfg session around).1 = s.notEntered ∨
    MayEnter cfg s around ∧ (s.enterDirect cfg session around).1 = s.entered cfg session := by
  unfold enterDirect
  by_cases hactive : s.directActive = true
  · refine Or.inl ?_
    rw [if_pos hactive]
    split_ifs
    · rfl
    · rfl
  · rw [if_neg hactive]
    split_ifs with htaken hbroken hreasons hsnapshot
    · exact Or.inl rfl
    · exact Or.inl rfl
    · exact Or.inr (Or.inl rfl)
    · exact Or.inr (Or.inl rfl)
    · refine Or.inr (Or.inr ⟨⟨Bool.eq_false_of_not_eq_true hactive, ?_, not_not.mp hreasons,
        fun hreal hhash => hsnapshot ⟨hreal, hhash⟩⟩, rfl⟩)
      cases howner : s.ownerHeld with
      | true => exact Or.inl rfl
      | false =>
        refine Or.inr ?_
        cases hfile : around.lockFile with
        | free => rfl
        | taken => exact (htaken ⟨howner, hfile⟩).elim
        | broken => exact (hbroken ⟨howner, hfile⟩).elim

/-- `leave_direct` is refused, or releases Direct mode. -/
theorem leaveDirect_cases (s : Server env) (session : String) :
    (s.leaveDirect session).1 = s ∨
    (s.directSession = none ∨ s.directSession = some session) ∧
      (s.leaveDirect session).1 = s.releaseDirect := by
  unfold leaveDirect
  split_ifs with h
  · exact Or.inl rfl
  · refine Or.inr ⟨?_, rfl⟩
    by_cases hnone : s.directSession = none
    · exact Or.inl hnone
    · exact Or.inr (not_not.mp fun hne => h ⟨hnone, hne⟩)

/-- `ACQUIRE_LEASE` is refused, or gives a lease that nobody else holds in Direct mode. -/
theorem acquireLease_cases (s : Server env) (session : String) :
    (s.acquireLease session).1 = s ∨
    s.directActive = true ∧ (s.leaseSession = none ∨ s.leaseSession = some session) ∧
      (s.acquireLease session).1 = { s with leaseSession := some session } := by
  unfold acquireLease
  split_ifs with hdirect hlease
  · exact Or.inl rfl
  · exact Or.inl rfl
  · refine Or.inr ⟨?_, ?_, rfl⟩
    · exact Bool.eq_true_of_not_eq_false fun h => hdirect (Or.inl h)
    · by_cases hnone : s.leaseSession = none
      · exact Or.inl hnone
      · exact Or.inr (not_not.mp fun hne => hlease ⟨hnone, hne⟩)

theorem requireLease_eq_next : s.requireLease session = .next ↔ s.leaseSession = some session := by
  by_cases h : s.leaseSession = some session
  · simp [requireLease, h]
  · simp [requireLease, h]

/-- `RELEASE_LEASE` is refused, or ends the lease of the session. -/
theorem releaseLease_cases (s : Server env) (session : String) :
    (s.releaseLease session).1 = s ∨
    s.leaseSession = some session ∧
      (s.releaseLease session).1 = { s with leaseSession := none } := by
  by_cases h : s.leaseSession = some session
  · refine Or.inr ⟨h, ?_⟩
    simp [releaseLease, requireLease, h]
  · refine Or.inl ?_
    simp [releaseLease, requireLease, h]

theorem requireMaintenance_eq_next :
    s.requireMaintenance = .next ↔ s.mode = .idle ∧ s.leaseSession = none := by
  by_cases h : s.mode = .idle ∧ s.leaseSession = none
  · simp [requireMaintenance, h.1, h.2]
  · have hnot : s.mode ≠ .idle ∨ s.leaseSession ≠ none := by
      by_contra hboth
      simp only [not_or, not_not] at hboth
      exact h hboth
    simp [requireMaintenance, hnot, h]

theorem requireOwner_eq_next : s.requireOwner session = .next ↔ s.configSession = some session := by
  by_cases h : s.configSession = some session
  · simp [requireOwner, h]
  · simp [requireOwner, h]

/-- `BEGIN_CONFIG` is refused, or the session owns the transaction. -/
theorem claimOwner_cases (s : Server env) (session : String) :
    (s.claimOwner session).1 = s ∧ (s.claimOwner session).2 ≠ .next ∨
    (s.configSession = none ∨ s.configSession = some session) ∧
      (s.claimOwner session).1 = { s with configSession := some session } := by
  unfold claimOwner
  split_ifs with h
  · exact Or.inl ⟨rfl, by simp⟩
  · refine Or.inr ⟨?_, rfl⟩
    by_cases hnone : s.configSession = none
    · exact Or.inl hnone
    · exact Or.inr (not_not.mp fun hne => h ⟨hnone, hne⟩)

/-- A call of the workers changes nothing else. -/
theorem onWorkers_cases (s : Server env) (around : Surroundings)
    (f : HardwareWorkers → Except WorkerError Unit × HardwareWorkers) :
    (s.workers = none ∧ (s.onWorkers f around).1 = s) ∨
    ∃ w, s.workers = some w ∧ (s.onWorkers f around).1 = { s with workers := some (f w).2 } := by
  unfold onWorkers
  cases hworkers : s.workers with
  | none => exact Or.inl ⟨rfl, rfl⟩
  | some w => exact Or.inr ⟨w, rfl, rfl⟩

end Server

/-- The operation of the store that a stage calls. -/
def Stage.call? (fault : Option FaultPoint) : Stage → Option Call
  | .begin => some ⟨.begin, none⟩
  | .patch (some path) value => some ⟨.patch path value, none⟩
  | .validate => some ⟨.validate, none⟩
  | .commit (some expected) => some ⟨.commit expected, fault⟩
  | .rollback => some ⟨.rollback, none⟩
  | _ => none

namespace Server

/-- What a stage can make of the server. -/
inductive Change (cfg : Settings) (s : Server env) (session : String) (around : Surroundings) :
    Stage → Server env → Prop where
  | same (stage : Stage) : Change cfg s session around stage s
  | heartbeat : Change cfg s session around .heartbeat
      { s with lastHeartbeat := Function.update s.lastHeartbeat session (some s.now) }
  | notEntered : Change cfg s session around (.enterDirect none) s.notEntered
  | entered (h : MayEnter cfg s around) :
      Change cfg s session around (.enterDirect none) (s.entered cfg session)
  | left (h : s.directSession = none ∨ s.directSession = some session) :
      Change cfg s session around .leaveDirect s.releaseDirect
  | acquired (h : s.directActive = true) (hlease : s.leaseSession = none ∨
      s.leaseSession = some session) :
      Change cfg s session around .acquireLease { s with leaseSession := some session }
  | released (h : s.leaseSession = some session) :
      Change cfg s session around .releaseLease { s with leaseSession := none }
  | claimed (h : s.configSession = none ∨ s.configSession = some session) :
      Change cfg s session around .claimOwner { s with configSession := some session }
  | reset : Change cfg s session around .resetOwner { s with configSession := none }
  | ensured (d : Device) (w : HardwareWorkers) (h : s.workers = some w) :
      Change cfg s session around (.ensureWorker d) { s with workers := some (w.ensureWorker d) }
  | commanded (c : DeviceCommand) (payload : Option Payload) (w : HardwareWorkers)
      (h : s.workers = some w) :
      Change cfg s session around (.command c payload) { s with
        workers := some (w.command env s.real s.now around.pipe c
          (payload.getD ⟨none, none, none, none⟩)).2 }
  | stored (stage : Stage) (call : Call) (h : stage.call? around.fault = some call) :
      Change cfg s session around stage { s with config := (s.config.perform call).2 }

theorem Change.of_same {cfg : Settings} {s t : Server env} {session : String}
    {around : Surroundings} {stage : Stage} (h : t = s) : Change cfg s session around stage t := by
  rw [h]
  exact .same stage

/-- Everything that a stage can do. -/
theorem runStage_change (cfg : Settings) (s : Server env) (session : String)
    (around : Surroundings) (stage : Stage) :
    Change cfg s session around stage (s.runStage cfg session around stage).1 := by
  cases stage with
  | heartbeat => exact .heartbeat
  | enterDirect payloadError =>
    cases payloadError with
    | some message => exact .same _
    | none =>
      change Change cfg s session around (.enterDirect none) (s.enterDirect cfg session around).1
      obtain h | h | ⟨hactive, h⟩ := s.enterDirect_cases cfg session around
      · exact .of_same h
      · exact h ▸ .notEntered
      · exact h ▸ .entered hactive
  | leaveDirect =>
    change Change cfg s session around .leaveDirect (s.leaveDirect session).1
    obtain h | ⟨hdirect, h⟩ := s.leaveDirect_cases session
    · exact .of_same h
    · exact h ▸ .left hdirect
  | acquireLease =>
    change Change cfg s session around .acquireLease (s.acquireLease session).1
    obtain h | ⟨hactive, hlease, h⟩ := s.acquireLease_cases session
    · exact .of_same h
    · exact h ▸ .acquired hactive hlease
  | releaseLease =>
    change Change cfg s session around .releaseLease (s.releaseLease session).1
    obtain h | ⟨hlease, h⟩ := s.releaseLease_cases session
    · exact .of_same h
    · exact h ▸ .released hlease
  | claimOwner =>
    change Change cfg s session around .claimOwner (s.claimOwner session).1
    obtain ⟨h, -⟩ | ⟨howner, h⟩ := s.claimOwner_cases session
    · exact .of_same h
    · exact h ▸ .claimed howner
  | ensureWorker d =>
    change Change cfg s session around (.ensureWorker d)
      (s.onWorkers (fun w => (.ok (), w.ensureWorker d)) around).1
    obtain ⟨-, h⟩ | ⟨w, hworkers, h⟩ := s.onWorkers_cases around
      (fun w => (.ok (), w.ensureWorker d))
    · exact .of_same h
    · exact h ▸ .ensured d w hworkers
  | command c payload =>
    change Change cfg s session around (.command c payload)
      (s.onWorkers (fun w => w.command env s.real s.now around.pipe c
        (payload.getD ⟨none, none, none, none⟩)) around).1
    obtain ⟨-, h⟩ | ⟨w, hworkers, h⟩ := s.onWorkers_cases around
      (fun w => w.command env s.real s.now around.pipe c (payload.getD ⟨none, none, none, none⟩))
    · exact .of_same h
    · exact h ▸ .commanded c payload w hworkers
  | begin => exact .stored _ _ rfl
  | patch path value =>
    cases path with
    | none => exact .same _
    | some path => exact .stored _ _ rfl
  | validate => exact .stored _ _ rfl
  | commit expected =>
    cases expected with
    | none => exact .same _
    | some expected => exact .stored _ _ rfl
  | rollback => exact .stored _ _ rfl
  | resetOwner => exact .reset
  | refuse | requireLease | checkPayload | readWorkers | readState | requireMaintenance
  | requireOwner | requireOwnerIfAny => exact .same _

variable {cfg : Settings} {s s' : Server env} {session : String} {around : Surroundings}
  {stage : Stage}

/-- A stage of a thread does not move the others. -/
theorem Change.connections (h : Change cfg s session around stage s') :
    s'.connections = s.connections := by
  cases h <;> rfl

end Server

/-! ## Checks and acts -/

/-- An act is reached without a check. -/
def unchecked (check act : Stage → Bool) : List Stage → Bool
  | [] => false
  | stage :: ahead => act stage || (!check stage && unchecked check act ahead)

/-- An act of one kind is one of a wider kind. -/
theorem unchecked_mono {check act act' : Stage → Bool}
    (h : ∀ stage, act stage = true → act' stage = true) {ahead : List Stage}
    (hahead : unchecked check act ahead = true) : unchecked check act' ahead = true := by
  induction ahead with
  | nil => exact hahead
  | cons stage ahead ih =>
    simp only [unchecked, Bool.or_eq_true, Bool.and_eq_true] at hahead ⊢
    obtain hact | ⟨hcheck, hrest⟩ := hahead
    · exact Or.inl (h stage hact)
    · exact Or.inr ⟨hcheck, ih hrest⟩

/-- The thread is between a check and an act. -/
def Connection.Between (check act : Stage → Bool) : Connection → Prop
  | .busy _ ahead _ => unchecked check act ahead = true
  | _ => False

instance (check act : Stage → Bool) (k : Connection) : Decidable (k.Between check act) :=
  match k with
  | .busy _ ahead _ => inferInstanceAs (Decidable (unchecked check act ahead = true))
  | .absent | .idle _ | .closing _ => inferInstanceAs (Decidable False)

/-- The session of a connection. -/
def Connection.session? : Connection → Option String
  | .absent => none
  | .idle session => session
  | .busy session _ _ => some session
  | .closing session => session

/-- A reply ends the handler. -/
theorem not_between_replied {check act : Stage → Bool} {session : Option String} {leaves : Bool} :
    ¬ (Server.replied session leaves).Between check act := by
  cases leaves <;> exact id

/-- The thread of a connection that is between a check and an act after a stage has gone on. -/
theorem afterStage_of_between {check act : Stage → Bool} {session : String} {ahead : List Stage}
    {leaves : Bool} {outcome : Outcome}
    (h : (Server.afterStage session ahead leaves outcome).Between check act) :
    outcome = .next ∧ unchecked check act ahead = true ∧
      Server.afterStage session ahead leaves outcome = .busy session ahead leaves := by
  cases outcome with
  | next =>
    cases ahead with
    | nil => exact (not_between_replied h).elim
    | cons stage ahead => exact ⟨rfl, h, rfl⟩
  | reply => exact (not_between_replied h).elim
  | error e => exact (not_between_replied h).elim
  | crash => exact h.elim

/-- A request starts a handler from its beginning. -/
theorem not_between_receive {check act : Stage → Bool}
    (hstart : ∀ m, unchecked check act (stages m) = false) (session : Option String)
    (r : Request) : ¬ (Server.receive session r).Between check act := by
  have hstarted : ∀ {leaves : Bool} {x : String},
      ¬ (Connection.busy x (stages r.message) leaves).Between check act := by
    intro leaves x
    exact Bool.eq_false_iff.mp (hstart r.message)
  unfold Server.receive
  split
  · exact not_between_replied
  · split_ifs
    · exact not_between_replied
    · exact hstarted
  · split_ifs
    · exact not_between_replied
    · exact hstarted

namespace Server

variable {cfg : Settings} {s s' : Server env} {check act : Stage → Bool} {c : ℕ}

@[simp] theorem setConnection_connections (connection : Connection) :
    (s.setConnection c connection).connections = Function.update s.connections c connection := rfl

/-- The end of a connection releases Direct mode when it is of its session, and rolls the
transaction back when the session owns it. -/
theorem sessionClosed_cases (s : Server env) (session : String) :
    ∃ t : Server env,
      (t = s ∧ ¬ (s.directSession = some session ∨ s.leaseSession = some session) ∨
        t = s.releaseDirect ∧ (s.directSession = some session ∨ s.leaseSession = some session)) ∧
      (s.configSession ≠ some session ∧ s.sessionClosed session =
          { t with lastHeartbeat := Function.update s.lastHeartbeat session none } ∨
        s.configSession = some session ∧ ∃ owner, (owner = none ∨ owner = some session) ∧
          s.sessionClosed session =
            { t with
              lastHeartbeat := Function.update s.lastHeartbeat session none
              config := s.config.rollback.2
              configSession := owner }) := by
  have hcleared : ∀ {t : Server env},
      (if s.directSession = some session ∨ s.leaseSession = some session then
        { s with lastHeartbeat := Function.update s.lastHeartbeat session none }.releaseDirect
      else { s with lastHeartbeat := Function.update s.lastHeartbeat session none }) = t →
      t.configSession = s.configSession → t.config = s.config →
      t.configSession ≠ some session ∧ s.sessionClosed session = t ∨
      t.configSession = some session ∧ ∃ owner, (owner = none ∨ owner = some session) ∧
        s.sessionClosed session =
          { t with config := s.config.rollback.2, configSession := owner } := by
    intro t ht howner hconfig
    unfold sessionClosed
    dsimp only
    rw [ht]
    by_cases hsession : t.configSession = some session
    · refine Or.inr ⟨hsession, ?_⟩
      rw [if_pos hsession, ← hconfig]
      split
      · rename_i heq
        exact ⟨none, Or.inl rfl, by rw [heq]⟩
      · rename_i heq
        exact ⟨some session, Or.inr rfl, by rw [heq, ← hsession]⟩
    · exact Or.inl ⟨hsession, if_neg hsession⟩
  by_cases hdirect : s.directSession = some session ∨ s.leaseSession = some session
  · refine ⟨s.releaseDirect, Or.inr ⟨rfl, hdirect⟩, ?_⟩
    exact hcleared (t := { s.releaseDirect with
      lastHeartbeat := Function.update s.lastHeartbeat session none }) (if_pos hdirect) rfl rfl
  · refine ⟨s, Or.inl ⟨rfl, hdirect⟩, ?_⟩
    exact hcleared (t := { s with
      lastHeartbeat := Function.update s.lastHeartbeat session none }) (if_neg hdirect) rfl rfl

theorem sessionClosed_connections (session : String) :
    (s.sessionClosed session).connections = s.connections := by
  obtain ⟨t, ⟨rfl, -⟩ | ⟨rfl, -⟩, ⟨-, h⟩ | ⟨-, owner, -, h⟩⟩ := s.sessionClosed_cases session
  all_goals rw [h]
  all_goals rfl

/-- The steps, one constructor for each. -/
inductive Moves (cfg : Settings) (s : Server env) : Label → Server env → Prop where
  | connect (c : ℕ) (h : s.connections c = .absent) :
      Moves cfg s (.connect c) (s.setConnection c (.idle none))
  | request (c : ℕ) (r : Request) (session : Option String) (h : s.connections c = .idle session) :
      Moves cfg s (.request c r) (s.setConnection c (receive session r))
  | run (c : ℕ) (around : Surroundings) (session : String) (stage : Stage) (ahead : List Stage)
      (leaves : Bool) (h : s.connections c = .busy session (stage :: ahead) leaves) :
      Moves cfg s (.run c around) ((s.runStage cfg session around stage).1.setConnection c
        (afterStage session ahead leaves (s.runStage cfg session around stage).2))
  | hangUp (c : ℕ) (session : Option String) (h : s.connections c = .idle session) :
      Moves cfg s (.hangUp c) (s.setConnection c (.closing session))
  | closeUnnamed (c : ℕ) (h : s.connections c = .closing none) :
      Moves cfg s (.close c) (s.setConnection c .absent)
  | close (c : ℕ) (session : String) (h : s.connections c = .closing (some session)) :
      Moves cfg s (.close c) ((s.sessionClosed session).setConnection c .absent)
  | watchdog (h : s.reaping = true) : Moves cfg s .watchdog (s.watchdog cfg)
  | elapse (d : ℚ) (h : 0 ≤ d) : Moves cfg s (.elapse d) { s with now := s.now + d }
  | started (d : Device) (ok : Bool) (limits : Slot → ℤ × ℤ) (zeroOffset : Slot → ℤ)
      (w : HardwareWorkers) (h : s.workers = some w) (hd : d ∈ w.starting) :
      Moves cfg s (.started d ok limits zeroOffset)
        { s with workers := some (s.started cfg w d ok limits zeroOffset) }
  | armLoop (exited : Bool) (w : HardwareWorkers) (h : s.workers = some w) :
      Moves cfg s (.armLoop exited) { s with
        workers := some { w with
          arm := w.arm.map fun a : ArmWorker => a.loop s.real s.now exited } }
  | feedback (real : Slot → AxisState) : Moves cfg s (.feedback real) { s with real := real }
  | shutdown : Moves cfg s .shutdown { s.releaseDirect with reaping := false }

/-- A step is one of these. -/
theorem moves_of_step {l : Label} (h : step cfg s l = some s') : Moves cfg s l s' := by
  cases l with
  | connect c =>
    simp only [step] at h
    split at h
    · obtain rfl := Option.some_inj.mp h
      exact .connect c ‹_›
    · cases h
  | request c r =>
    simp only [step] at h
    split at h
    · obtain rfl := Option.some_inj.mp h
      exact .request c r _ ‹_›
    · cases h
  | run c around =>
    simp only [step] at h
    split at h
    · obtain rfl := Option.some_inj.mp h
      exact .run c around _ _ _ _ ‹_›
    · cases h
  | hangUp c =>
    simp only [step] at h
    split at h
    · obtain rfl := Option.some_inj.mp h
      exact .hangUp c _ ‹_›
    · cases h
  | close c =>
    simp only [step] at h
    split at h
    · obtain rfl := Option.some_inj.mp h
      exact .closeUnnamed c ‹_›
    · obtain rfl := Option.some_inj.mp h
      exact .close c _ ‹_›
    · cases h
  | watchdog =>
    simp only [step] at h
    split_ifs at h with hreaping
    obtain rfl := Option.some_inj.mp h
    exact .watchdog hreaping
  | elapse d =>
    simp only [step] at h
    split_ifs at h with hd
    obtain rfl := Option.some_inj.mp h
    exact .elapse d hd
  | started d ok limits zeroOffset =>
    simp only [step] at h
    split at h
    · cases h
    · split_ifs at h with hd
      obtain rfl := Option.some_inj.mp h
      exact .started d ok limits zeroOffset _ ‹_› hd
  | armLoop exited =>
    simp only [step] at h
    split at h
    · cases h
    · obtain rfl := Option.some_inj.mp h
      exact .armLoop exited _ ‹_›
  | feedback real =>
    obtain rfl := Option.some_inj.mp h
    exact .feedback real
  | shutdown =>
    obtain rfl := Option.some_inj.mp h
    exact .shutdown

theorem watchdog_connections : (s.watchdog cfg).connections = s.connections := by
  unfold watchdog
  split_ifs
  · rfl
  · rfl

/-- What a step does to the connections: it takes a stage of one of them, moves one of them outside
all handlers, starts a handler, or moves none. -/
theorem connections_of_step {l : Label} (h : step cfg s l = some s') :
    (∃ c around session stage ahead leaves, l = .run c around ∧
      s.connections c = .busy session (stage :: ahead) leaves ∧
      s' = (s.runStage cfg session around stage).1.setConnection c
        (afterStage session ahead leaves (s.runStage cfg session around stage).2)) ∨
    (∃ c session r, s.connections c = .idle session ∧
      s'.connections = Function.update s.connections c (receive session r)) ∨
    (∃ c k k', (∀ session ahead leaves, k ≠ .busy session ahead leaves) ∧
      (∀ session ahead leaves, k' ≠ .busy session ahead leaves) ∧
      s.connections c = k ∧ s'.connections = Function.update s.connections c k') ∨
    s'.connections = s.connections := by
  cases moves_of_step h with
  | connect c hc => exact Or.inr (Or.inr (Or.inl ⟨c, _, _, by simp, by simp, hc, rfl⟩))
  | request c r session hc => exact Or.inr (Or.inl ⟨c, session, r, hc, rfl⟩)
  | run c around session stage ahead leaves hc =>
    exact Or.inl ⟨c, around, session, stage, ahead, leaves, rfl, hc, rfl⟩
  | hangUp c session hc => exact Or.inr (Or.inr (Or.inl ⟨c, _, _, by simp, by simp, hc, rfl⟩))
  | closeUnnamed c hc => exact Or.inr (Or.inr (Or.inl ⟨c, _, _, by simp, by simp, hc, rfl⟩))
  | close c session hc =>
    refine Or.inr (Or.inr (Or.inl ⟨c, _, .absent, by simp, by simp, hc, ?_⟩))
    rw [setConnection_connections, sessionClosed_connections]
  | watchdog hreaping => exact Or.inr (Or.inr (Or.inr watchdog_connections))
  | elapse d hd => exact Or.inr (Or.inr (Or.inr rfl))
  | started d ok limits zeroOffset w hw hd => exact Or.inr (Or.inr (Or.inr rfl))
  | armLoop exited w hw => exact Or.inr (Or.inr (Or.inr rfl))
  | feedback real => exact Or.inr (Or.inr (Or.inr rfl))
  | shutdown => exact Or.inr (Or.inr (Or.inr rfl))

/-- The connection that a label is about. -/
def connection? : Label → Option ℕ
  | .connect c | .request c _ | .run c _ | .hangUp c | .close c => some c
  | _ => none

/-- A step moves no other connection than its own. -/
theorem connections_of_ne {l : Label} (h : step cfg s l = some s') (hc : connection? l ≠ some c) :
    s'.connections c = s.connections c := by
  cases moves_of_step h with
  | connect c' _ | request c' _ _ _ | hangUp c' _ _ | closeUnnamed c' _ =>
    exact Function.update_of_ne (fun hcc => hc (congrArg some hcc.symm)) ..
  | run c' around session stage ahead leaves _ =>
    rw [setConnection_connections,
      Function.update_of_ne (fun hcc => hc (congrArg some hcc.symm)),
      (runStage_change ..).connections]
  | close c' session _ =>
    rw [setConnection_connections,
      Function.update_of_ne (fun hcc => hc (congrArg some hcc.symm)), sessionClosed_connections]
  | watchdog _ => rw [watchdog_connections]
  | elapse _ _ => rfl
  | started _ _ _ _ _ _ _ => rfl
  | armLoop _ _ _ => rfl
  | feedback _ => rfl
  | shutdown => rfl

/-- Only connections below `n` are in use. -/
def UsesBelow (n : ℕ) (s : Server env) : Prop := ∀ c, n ≤ c → s.connections c = .absent

/-- The label is about no connection from `n` on. -/
def staysBelow (n : ℕ) (l : Label) : Bool := (connection? l).all fun c => decide (c < n)

theorem UsesBelow.next {n : ℕ} {l : Label} (hs : s.UsesBelow n) (hl : staysBelow n l = true)
    (h : step cfg s l = some s') : s'.UsesBelow n := by
  intro c hc
  rw [connections_of_ne h ?_]
  · exact hs c hc
  · intro hlabel
    unfold staysBelow at hl
    rw [hlabel, Option.all_some, decide_eq_true_eq] at hl
    omega

/-- The threads from `n` on are in no handler. -/
theorem UsesBelow.not_between {n : ℕ} (hs : s.UsesBelow n)
    (h : ∀ c < n, ¬ (s.connections c).Between check act) (c : ℕ) :
    ¬ (s.connections c).Between check act := by
  by_cases hc : c < n
  · exact h c hc
  · rw [hs c (Nat.not_lt.mp hc)]
    exact id

/-- A run that uses the connections below `n`, and whose steps pass a test. -/
theorem meets_of_passes_below {n : ℕ} {C : Server env → Label → Prop}
    {test : Server env → Label → Bool}
    (htest : ∀ s l, UsesBelow n s → test s l = true → C s l) {labels : List Label}
    (hs : s.UsesBelow n)
    (h : Runs.passes (step cfg) (fun s l => staysBelow n l && test s l) s labels = true) :
    Runs.Meets (step cfg) C s labels := by
  refine Runs.meets_of_passes_of_invariant (I := UsesBelow n) (fun s l s' hs hl hstep => ?_)
    (fun s l hs hl => ?_) hs h
  · exact hs.next (Bool.and_eq_true_iff.mp hl).1 hstep
  · exact htest s l hs (Bool.and_eq_true_iff.mp hl).2

/-- A thread is between a check and an act because it was before the step, or because the step was
its check and has passed. -/
theorem checked_of_between (hstart : ∀ m, unchecked check act (stages m) = false) {l : Label}
    (h : step cfg s l = some s') (c : ℕ) (hc : (s'.connections c).Between check act) :
    ((s.connections c).Between check act ∧
      (s'.connections c).session? = (s.connections c).session?) ∨
    ∃ around session stage ahead leaves, l = .run c around ∧
      s.connections c = .busy session (stage :: ahead) leaves ∧ check stage = true ∧
      (s.runStage cfg session around stage).2 = .next ∧
      s' =
        (s.runStage cfg session around stage).1.setConnection c (.busy session ahead leaves) := by
  have hsame : s'.connections c = s.connections c →
      (s.connections c).Between check act ∧
        (s'.connections c).session? = (s.connections c).session? := by
    intro heq
    rw [heq] at hc
    exact ⟨hc, by rw [heq]⟩
  obtain ⟨c', around, session, stage, ahead, leaves, rfl, hc', hs'⟩ |
    ⟨c', session, r, hc', hs'⟩ | ⟨c', k, k', hk, hk', hc', hs'⟩ | hs' := connections_of_step h
  · by_cases hcc : c = c'
    · subst hcc
      have hconnections : s'.connections c =
          afterStage session ahead leaves (s.runStage cfg session around stage).2 := by
        rw [hs', setConnection_connections, Function.update_self]
      rw [hconnections] at hc
      obtain ⟨hnext, hahead, hbusy⟩ := afterStage_of_between hc
      cases hcheck : check stage with
      | true =>
        refine Or.inr ⟨around, session, stage, ahead, leaves, rfl, hc', hcheck, hnext, ?_⟩
        rw [hs', hbusy]
      | false =>
        refine Or.inl ⟨?_, by rw [hconnections, hbusy, hc']; rfl⟩
        rw [hc']
        change unchecked check act (stage :: ahead) = true
        simp [unchecked, hcheck, hahead]
    · refine Or.inl (hsame ?_)
      rw [hs', setConnection_connections, Function.update_of_ne hcc,
        (runStage_change ..).connections]
  · by_cases hcc : c = c'
    · subst hcc
      rw [hs', Function.update_self] at hc
      exact (not_between_receive hstart session r hc).elim
    · exact Or.inl (hsame (by rw [hs', Function.update_of_ne hcc]))
  · by_cases hcc : c = c'
    · subst hcc
      rw [hs', Function.update_self] at hc
      cases hk'' : k' with
      | busy session ahead leaves => exact (hk' session ahead leaves hk'').elim
      | absent =>
        rw [hk''] at hc
        exact hc.elim
      | idle session =>
        rw [hk''] at hc
        exact hc.elim
      | closing session =>
        rw [hk''] at hc
        exact hc.elim
    · exact Or.inl (hsame (by rw [hs', Function.update_of_ne hcc]))
  · exact Or.inl (hsame (by rw [hs']))

/-- A thread that takes its last stage is in no handler afterwards. -/
theorem not_between_of_last {around : Surroundings} {session : String} {stage : Stage}
    {leaves : Bool} (h : step cfg s (.run c around) = some s')
    (hc : s.connections c = .busy session [stage] leaves) :
    ¬ (s'.connections c).Between check act := by
  cases moves_of_step h with
  | run _ _ session' stage' ahead leaves' hc' =>
    rw [hc] at hc'
    obtain ⟨rfl, hlist, rfl⟩ := Connection.busy.inj hc'
    obtain ⟨rfl, rfl⟩ := List.cons.inj hlist
    rw [setConnection_connections, Function.update_self]
    intro hbetween
    obtain ⟨-, hahead, -⟩ := afterStage_of_between hbetween
    cases hahead

/-- The stages ahead of the thread satisfy `P`, if it is in a handler. -/
def Ahead (P : List Stage → Prop) : Connection → Prop
  | .busy _ ahead _ => P ahead
  | _ => True

/-- What holds of all handlers, and of the rest of a handler when it holds of the handler, holds of
the stages ahead of all threads. -/
theorem ahead_of_step {P : List Stage → Prop} (hstart : ∀ m, P (stages m))
    (htail : ∀ stage ahead, P (stage :: ahead) → P ahead) {l : Label}
    (h : step cfg s l = some s') (hs : ∀ c, Ahead P (s.connections c)) (c : ℕ) :
    Ahead P (s'.connections c) := by
  have hreplied : ∀ session leaves, Ahead P (replied session leaves) := by
    intro session leaves
    cases leaves <;> exact trivial
  have hupdate : ∀ {c' : ℕ} {k : Connection}, Ahead P k →
      Ahead P (Function.update s.connections c' k c) := by
    intro c' k hk
    by_cases hc : c = c'
    · subst hc
      rw [Function.update_self]
      exact hk
    · rw [Function.update_of_ne hc]
      exact hs c
  obtain ⟨c', around, session, stage, ahead, leaves, rfl, hc', rfl⟩ |
    ⟨c', session, r, hc', hs'⟩ | ⟨c', k, k', hk, hk', hc', hs'⟩ | hs' := connections_of_step h
  · rw [setConnection_connections, (runStage_change ..).connections]
    refine hupdate ?_
    have hhead : P (stage :: ahead) := by
      have hthread := hs c'
      rw [hc'] at hthread
      exact hthread
    cases (s.runStage cfg session around stage).2 with
    | next =>
      unfold afterStage
      split_ifs
      · exact hreplied _ _
      · exact htail stage ahead hhead
    | reply => exact hreplied _ _
    | error e => exact hreplied _ _
    | crash => exact trivial
  · rw [hs']
    refine hupdate ?_
    unfold receive
    split
    · exact hreplied _ _
    · split_ifs
      · exact hreplied _ _
      · exact hstart _
    · split_ifs
      · exact hreplied _ _
      · exact hstart _
  · rw [hs']
    refine hupdate ?_
    cases k' with
    | busy session ahead leaves => exact (hk' session ahead leaves rfl).elim
    | absent => exact trivial
    | idle session => exact trivial
    | closing session => exact trivial
  · rw [hs']
    exact hs c

end Server

end Network

end JointController
