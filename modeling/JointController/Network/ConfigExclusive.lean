import JointController.Network.LeaseGuard
import JointController.Library.Observers

/-!
# Configuration changes and Direct mode

A configuration handler checks that the server is idle, then that its session owns the transaction,
then it calls the store, and the owner is reset after that.  These are separate steps.

* `Server.openerNext`: an observer that notes which session has opened the transaction.
* `Server.MaintenanceInFlight`, `Server.OwnerInFlight`: the threads between a check and the store.
* `Server.Unhurried`: Direct mode is not entered while a patch or a commit is in flight, and the
  owner is not taken away from a handler in flight or from an open transaction.
* `Server.ExclusiveConfig`: the patches and commits happen in an idle server, and the transaction
  is only touched by the session that has opened it.
* `Server.exclusiveConfig_of_unhurried`: so they do, along every run of such steps.
-/

namespace JointController

namespace Network

variable {env : Environment}

/-! ## The stages -/

/-- The check that the server is idle. -/
def Stage.checksMaintenance : Stage → Bool
  | .requireMaintenance => true
  | _ => false

/-- The stages that change the configuration. -/
def Stage.changesConfig : Stage → Bool
  | .patch _ _ | .commit _ => true
  | _ => false

/-- The stages that make sure of the owner. -/
def Stage.checksOwner : Stage → Bool
  | .claimOwner | .requireOwner => true
  | _ => false

/-- The stages that rely on the owner. -/
def Stage.reliesOnOwner : Stage → Bool
  | .begin | .patch _ _ | .commit _ | .rollback | .resetOwner => true
  | _ => false

theorem unchecked_changesConfig_stages (m : Message) :
    unchecked Stage.checksMaintenance Stage.changesConfig (stages m) = false := by
  cases m with
  | device c payload => cases c <;> rfl
  | query | getState | enterDirect | leaveDirect | acquireLease | releaseLease | beginConfig
  | patchConfig | validateConfig | commitConfig | rollbackConfig | unsupported => rfl

theorem unchecked_reliesOnOwner_stages (m : Message) :
    unchecked Stage.checksOwner Stage.reliesOnOwner (stages m) = false := by
  cases m with
  | device c payload => cases c <;> rfl
  | query | getState | enterDirect | leaveDirect | acquireLease | releaseLease | beginConfig
  | patchConfig | validateConfig | commitConfig | rollbackConfig | unsupported => rfl

/-- The store is called by `validate`, which changes nothing, or by a stage that relies on the
owner. -/
theorem reliesOnOwner_of_call {stage : Stage} {fault : Option FaultPoint} {call : Call}
    (h : stage.call? fault = some call) :
    call.operation = .validate ∨ stage.reliesOnOwner = true := by
  cases stage with
  | begin => exact Or.inr rfl
  | patch path value => exact Or.inr rfl
  | validate =>
    obtain rfl := Option.some_inj.mp h
    exact Or.inl rfl
  | commit expected => exact Or.inr rfl
  | rollback => exact Or.inr rfl
  | _ => cases h

theorem ConfigStore.perform_validate (s : ConfigStore env) {call : Call}
    (h : call.operation = .validate) : (s.perform call).2 = s := by
  simp only [ConfigStore.perform, h]
  rfl

namespace Server

variable {cfg : Settings} {s s' : Server env} {session x : String}

/-! ## The opener of the transaction -/

/-- The session of the thread that takes the step. -/
def actor (s : Server env) : Label → Option String
  | .run c _ => (s.connections c).session?
  | _ => none

/-- The session that has opened the transaction. -/
def openerNext (cfg : Settings) (s : Server env) (l : Label) (opener : Option String) :
    Option String :=
  match step cfg s l with
  | none => opener
  | some s' =>
    match s.config.transaction, s'.config.transaction with
    | _, none => none
    | none, some _ => actor s l
    | some _, some _ => opener

/-- The server with this observer. -/
abbrev watched (cfg : Settings) : Server env × Option String → Label →
    Option (Server env × Option String) :=
  Runs.observed (step cfg) (openerNext cfg)

/-! ## What is to hold -/

/-- In the step a thread of the session calls the store. -/
def CallsStore (s : Server env) (l : Label) (session : String) (call : Call) : Prop :=
  ∃ c around stage ahead leaves, l = .run c around ∧
    s.connections c = .busy session (stage :: ahead) leaves ∧
    stage.call? around.fault = some call

/-- The operation changes the configuration or the transaction with it. -/
def Operation.changesConfig : Operation → Bool
  | .patch _ _ | .commit _ => true
  | _ => false

/-- The operation may discard the transaction. -/
def Operation.touchesTransaction : Operation → Bool
  | .patch _ _ | .commit _ | .rollback => true
  | _ => false

/-- The patches and commits of a step find an idle server without a lease and the session as the
owner, and neither a request nor the end of a connection touches a transaction that another session
has opened. -/
structure ExclusiveConfig (p : Server env × Option String) (l : Label)
    (_p' : Server env × Option String) : Prop where
  idle : ∀ session call, CallsStore p.1 l session call →
    Operation.changesConfig call.operation = true →
      p.1.mode = .idle ∧ p.1.leaseSession = none ∧ p.1.configSession = some session
  own : ∀ session call, CallsStore p.1 l session call →
    Operation.touchesTransaction call.operation = true → p.1.config.transaction ≠ none →
      p.2 = some session
  closed : ∀ c session, l = .close c → p.1.connections c = .closing (some session) →
    p.1.configSession = some session → p.1.config.transaction ≠ none → p.2 = some session

/-! ## The condition -/

/-- The thread has found the server idle, and is going to change the configuration. -/
def MaintenanceInFlight (s : Server env) (c : ℕ) : Prop :=
  (s.connections c).Between Stage.checksMaintenance Stage.changesConfig

/-- The thread has made sure of the owner, and is going to rely on it. -/
def OwnerInFlight (s : Server env) (c : ℕ) : Prop :=
  (s.connections c).Between Stage.checksOwner Stage.reliesOnOwner

instance (s : Server env) (c : ℕ) : Decidable (MaintenanceInFlight s c) :=
  inferInstanceAs
    (Decidable ((s.connections c).Between Stage.checksMaintenance Stage.changesConfig))

instance (s : Server env) (c : ℕ) : Decidable (OwnerInFlight s c) :=
  inferInstanceAs (Decidable ((s.connections c).Between Stage.checksOwner Stage.reliesOnOwner))

/-- The step is an `ENTER_DIRECT` that is accepted. -/
def EntersDirect (cfg : Settings) (s : Server env) (l : Label) : Prop :=
  ∃ c around session ahead leaves, l = .run c around ∧
    s.connections c = .busy session (.enterDirect none :: ahead) leaves ∧ MayEnter cfg s around

/-- Direct mode is not entered while a patch or a commit is in flight.  The owner is reset, or its
connection ends, while no other handler of its session is in flight, and it is reset when there is
no transaction. -/
structure Unhurried (cfg : Settings) (p : Server env × Option String) (l : Label) : Prop where
  enters : EntersDirect cfg p.1 l → ∀ c, ¬ MaintenanceInFlight p.1 c
  resets : ∀ c around session ahead leaves, l = .run c around →
    p.1.connections c = .busy session (.resetOwner :: ahead) leaves →
      p.1.config.transaction = none ∧
        ∀ c', c' ≠ c → OwnerInFlight p.1 c' → (p.1.connections c').session? ≠ some session
  closes : ∀ c session, l = .close c → p.1.connections c = .closing (some session) →
    p.1.configSession = some session →
      ∀ c', OwnerInFlight p.1 c' → (p.1.connections c').session? ≠ some session

/-! ## The invariant -/

/-- The server is idle, without a lease. -/
def Idle (s : Server env) : Prop := s.mode = .idle ∧ s.leaseSession = none

/-- The session of the connection owns the transaction. -/
def OwnsConfig (s : Server env) (c : ℕ) : Prop :=
  ∃ session, (s.connections c).session? = some session ∧ s.configSession = some session

/-- The mode is what Direct mode says. -/
def ModeAgrees (s : Server env) : Prop := s.mode = .idle ↔ s.directActive = false

/-- A reset of the owner is the end of a handler. -/
def resetsLast : List Stage → Bool
  | [] => true
  | .resetOwner :: ahead => ahead.isEmpty
  | _ :: ahead => resetsLast ahead

/-- An open transaction belongs to the owner. -/
def OpenerOwns (p : Server env × Option String) : Prop :=
  p.1.config.transaction ≠ none → ∃ session, p.1.configSession = some session ∧ p.2 = some session

theorem resetsLast_stages (m : Message) : resetsLast (stages m) = true := by
  cases m with
  | device c payload => cases c <;> rfl
  | query | getState | enterDirect | leaveDirect | acquireLease | releaseLease | beginConfig
  | patchConfig | validateConfig | commitConfig | rollbackConfig | unsupported => rfl

theorem resetsLast_tail (stage : Stage) (ahead : List Stage)
    (h : resetsLast (stage :: ahead) = true) : resetsLast ahead = true := by
  cases stage with
  | resetOwner =>
    obtain rfl := List.isEmpty_iff.mp h
    rfl
  | _ => exact h

/-! ## The mode and the lease -/

theorem modeAgrees_of_change {around : Surroundings} {stage : Stage} (hs : ModeAgrees s)
    (h : Change cfg s session around stage s') : ModeAgrees s' := by
  cases h with
  | entered hactive =>
    exact ⟨fun hmode => Mode.noConfusion hmode, fun hdirect => Bool.noConfusion hdirect⟩
  | left hdirect => exact ⟨fun _ => rfl, fun _ => rfl⟩
  | _ => exact hs

theorem modeAgrees_sessionClosed (hs : ModeAgrees s) : ModeAgrees (s.sessionClosed session) := by
  obtain ⟨t, ⟨rfl, -⟩ | ⟨rfl, -⟩, ⟨-, h⟩ | ⟨-, owner, -, h⟩⟩ := s.sessionClosed_cases session
  · exact h ▸ hs
  · exact h ▸ hs
  · exact h ▸ ⟨fun _ => rfl, fun _ => rfl⟩
  · exact h ▸ ⟨fun _ => rfl, fun _ => rfl⟩

theorem modeAgrees_of_step {l : Label} (hs : ModeAgrees s) (h : step cfg s l = some s') :
    ModeAgrees s' := by
  cases moves_of_step h with
  | run c around session stage ahead leaves hc =>
    have hafter : ModeAgrees (s.runStage cfg session around stage).1 :=
      modeAgrees_of_change hs (runStage_change cfg s session around stage)
    exact hafter
  | close c session hc =>
    have hafter : ModeAgrees (s.sessionClosed session) := modeAgrees_sessionClosed hs
    exact hafter
  | watchdog hreaping =>
    unfold watchdog
    split_ifs
    · exact ⟨fun _ => rfl, fun _ => rfl⟩
    · exact hs
  | shutdown => exact ⟨fun _ => rfl, fun _ => rfl⟩
  | _ => exact hs

theorem idle_of_change {around : Surroundings} {stage : Stage} (hmode : ModeAgrees s)
    (hs : Idle s) (henters : stage = .enterDirect none → ¬ MayEnter cfg s around)
    (h : Change cfg s session around stage s') : Idle s' := by
  cases h with
  | entered hmay => exact (henters rfl hmay).elim
  | left hdirect => exact ⟨rfl, rfl⟩
  | acquired hactive hfree =>
    rw [hmode.mp hs.1] at hactive
    cases hactive
  | released hheld => exact ⟨hs.1, rfl⟩
  | _ => exact hs

/-- An idle server stays idle unless Direct mode is entered. -/
theorem idle_of_step {l : Label} (hmode : ModeAgrees s) (hs : Idle s)
    (henters : ¬ EntersDirect cfg s l) (h : step cfg s l = some s') : Idle s' := by
  cases moves_of_step h with
  | run c around session stage ahead leaves hc =>
    have hnot : stage = .enterDirect none → ¬ MayEnter cfg s around := by
      rintro rfl hmay
      exact henters ⟨c, around, session, ahead, leaves, rfl, hc, hmay⟩
    have hafter : Idle (s.runStage cfg session around stage).1 :=
      idle_of_change hmode hs hnot (runStage_change cfg s session around stage)
    exact hafter
  | close c session hc =>
    have hafter : Idle (s.sessionClosed session) := by
      obtain ⟨t, ⟨rfl, -⟩ | ⟨rfl, -⟩, ⟨-, h⟩ | ⟨-, owner, -, h⟩⟩ := s.sessionClosed_cases session
      · exact h ▸ hs
      · exact h ▸ hs
      · exact h ▸ ⟨rfl, rfl⟩
      · exact h ▸ ⟨rfl, rfl⟩
    exact hafter
  | watchdog hreaping =>
    unfold watchdog
    split_ifs
    · exact ⟨rfl, rfl⟩
    · exact hs
  | shutdown => exact ⟨rfl, rfl⟩
  | _ => exact hs

/-- A thread that passes the maintenance check finds an idle server. -/
theorem checked_maintenance :
    CheckThenAct.Checked (step cfg : Server env → Label → _) MaintenanceInFlight
      fun s _ => Idle s := by
  intro s l s' c h hbefore hafter
  obtain ⟨hbetween, -⟩ | ⟨around, session, stage, ahead, leaves, -, -, hcheck, hnext, rfl⟩ :=
    checked_of_between unchecked_changesConfig_stages h c hafter
  · exact (hbefore hbetween).elim
  · cases stage with
    | requireMaintenance => exact requireMaintenance_eq_next.mp hnext
    | _ => cases hcheck

/-! ## The owner -/

/-- A stage that takes the owner away resets it. -/
theorem configSession_of_change {around : Surroundings} {stage : Stage}
    (howner : s.configSession = some x) (hreset : stage ≠ .resetOwner)
    (h : Change cfg s session around stage s') : s'.configSession = some x := by
  cases h with
  | claimed hfree =>
    obtain hnone | hsame := hfree
    · rw [howner] at hnone
      cases hnone
    · rw [← howner, hsame]
  | reset => exact (hreset rfl).elim
  | _ => exact howner

/-- The step takes the transaction away from its owner. -/
def Disowns (s : Server env) (l : Label) : Prop :=
  (∃ c around session ahead leaves, l = .run c around ∧
    s.connections c = .busy session (.resetOwner :: ahead) leaves) ∨
  ∃ c session, l = .close c ∧ s.connections c = .closing (some session) ∧
    s.configSession = some session

/-- A step that does not keeps the owner. -/
theorem configSession_of_step {l : Label} (h : step cfg s l = some s')
    (howner : s.configSession = some x) (hnot : ¬ Disowns s l) : s'.configSession = some x := by
  cases moves_of_step h with
  | run c around session stage ahead leaves hc =>
    have hreset : stage ≠ .resetOwner := by
      rintro rfl
      exact hnot (Or.inl ⟨c, around, session, ahead, leaves, rfl, hc⟩)
    have hafter : (s.runStage cfg session around stage).1.configSession = some x :=
      configSession_of_change howner hreset (runStage_change cfg s session around stage)
    exact hafter
  | close c session hc =>
    have hother : s.configSession ≠ some session := fun hsame =>
      hnot (Or.inr ⟨c, session, rfl, hc, hsame⟩)
    have hafter : (s.sessionClosed session).configSession = some x := by
      obtain ⟨t, ⟨rfl, -⟩ | ⟨rfl, -⟩, ⟨-, h⟩ | ⟨hsame, -⟩⟩ := s.sessionClosed_cases session
      · exact h ▸ howner
      · exact (hother hsame).elim
      · exact h ▸ howner
      · exact (hother hsame).elim
    exact hafter
  | watchdog hreaping =>
    unfold watchdog
    split_ifs
    · exact howner
    · exact howner
  | _ => exact howner

/-- A thread that has made sure of the owner owns the transaction. -/
theorem checked_owner :
    CheckThenAct.Checked (step cfg : Server env → Label → _) OwnerInFlight OwnsConfig := by
  intro s l s' c h hbefore hafter
  obtain ⟨hbetween, -⟩ | ⟨around, session, stage, ahead, leaves, -, -, hcheck, hnext, rfl⟩ :=
    checked_of_between unchecked_reliesOnOwner_stages h c hafter
  · exact (hbefore hbetween).elim
  · refine ⟨session, ?_, ?_⟩
    · rw [setConnection_connections, Function.update_self]
      rfl
    · cases stage with
      | requireOwner => exact requireOwner_eq_next.mp hnext
      | claimOwner =>
        obtain ⟨-, hrefused⟩ | ⟨-, hclaimed⟩ := s.claimOwner_cases session
        · exact (hrefused hnext).elim
        · change (s.claimOwner session).1.configSession = some session
          rw [hclaimed]
      | _ => cases hcheck

/-- A thread that is about to rely on the owner is in flight. -/
theorem ownerInFlight_of_head {c : ℕ} {stage : Stage} {ahead : List Stage} {leaves : Bool}
    (hc : s.connections c = .busy session (stage :: ahead) leaves)
    (hstage : stage.reliesOnOwner = true) : OwnerInFlight s c := by
  unfold OwnerInFlight
  rw [hc]
  change unchecked Stage.checksOwner Stage.reliesOnOwner (stage :: ahead) = true
  simp [unchecked, hstage]

/-- The session of a thread in flight owns the transaction. -/
theorem configSession_of_inFlight {c : ℕ} {ahead : List Stage} {leaves : Bool}
    (hs : CheckThenAct.Guarded OwnerInFlight OwnsConfig s)
    (hc : s.connections c = .busy session ahead leaves) (hflight : OwnerInFlight s c) :
    s.configSession = some session := by
  obtain ⟨x, hx, howner⟩ := hs c hflight
  rw [hc] at hx
  rw [howner, ← hx]
  rfl

/-- What the owner's threads need of a step. -/
def SparesOwner (cfg : Settings) (s : Server env) (l : Label) : Prop :=
  (∃ opener, Unhurried cfg (s, opener) l) ∧ CheckThenAct.Guarded OwnerInFlight OwnsConfig s ∧
    ∀ c, Ahead (fun ahead => resetsLast ahead = true) (s.connections c)

theorem spares_owner :
    CheckThenAct.Spares (step cfg : Server env → Label → _) OwnerInFlight OwnsConfig
      (SparesOwner cfg) := by
  rintro s l s' c h ⟨⟨opener, hC⟩, hguarded, hlast⟩ hbefore hafter ⟨session, hsession, howner⟩
  by_cases hdisowns : Disowns s l
  · obtain ⟨c', around, x, ahead, leaves, rfl, hc'⟩ | ⟨c', x, rfl, hc', hx⟩ := hdisowns
    · have hx := configSession_of_inFlight hguarded hc' (ownerInFlight_of_head hc' rfl)
      by_cases hcc : c = c'
      · -- its reset is the last stage, after which it is in flight no longer
        subst hcc
        have hahead := hlast c
        rw [hc'] at hahead
        obtain rfl := List.isEmpty_iff.mp hahead
        exact (not_between_of_last h hc' hafter).elim
      · refine ((hC.resets c' around x ahead leaves rfl hc').2 c hcc hbefore ?_).elim
        rw [hsession, ← howner, hx]
    · refine (hC.closes c' x rfl hc' hx c hbefore ?_).elim
      rw [hsession, ← howner, hx]
  · have hkept := configSession_of_step h howner hdisowns
    obtain ⟨-, hsame⟩ | ⟨around, session', stage, ahead, leaves, -, hc, -, -, rfl⟩ :=
      checked_of_between unchecked_reliesOnOwner_stages h c hafter
    · exact ⟨session, hsame.trans hsession, hkept⟩
    · refine ⟨session, ?_, hkept⟩
      rw [hc] at hsession
      rw [setConnection_connections, Function.update_self]
      exact hsession

/-! ## The opener -/

/-- What a step does to the store: nothing, a call of a thread, or a rollback at the end of a
connection. -/
theorem config_of_step {l : Label} (h : step cfg s l = some s') :
    s'.config = s.config ∨
    (∃ c around session stage ahead leaves call, l = .run c around ∧
      s.connections c = .busy session (stage :: ahead) leaves ∧
      stage.call? around.fault = some call ∧ s'.config = (s.config.perform call).2 ∧
      s'.configSession = s.configSession) ∨
    s'.config.transaction = none := by
  cases moves_of_step h with
  | run c around session stage ahead leaves hc =>
    have hchange := runStage_change cfg s session around stage
    generalize hrun : (s.runStage cfg session around stage).1 = t at hchange
    cases hchange with
    | stored _ call hcall =>
      exact Or.inr (Or.inl
        ⟨c, around, session, stage, ahead, leaves, call, rfl, hc, hcall, rfl, rfl⟩)
    | _ => exact Or.inl rfl
  | close c session hc =>
    change (s.sessionClosed session).config = s.config ∨ _ ∨
      (s.sessionClosed session).config.transaction = none
    obtain ⟨t, ⟨rfl, -⟩ | ⟨rfl, -⟩, ⟨-, h⟩ | ⟨-, owner, -, h⟩⟩ := s.sessionClosed_cases session
    · exact Or.inl (by rw [h])
    · exact Or.inr (Or.inr (by rw [h]; rfl))
    · exact Or.inl (by rw [h]; rfl)
    · exact Or.inr (Or.inr (by rw [h]; rfl))
  | watchdog hreaping =>
    unfold watchdog
    split_ifs
    · exact Or.inl rfl
    · exact Or.inl rfl
  | _ => exact Or.inl rfl

/-- The opener after a step that leaves a transaction open. -/
theorem openerNext_of_step {l : Label} (h : step cfg s l = some s') (opener : Option String)
    (hopen : s'.config.transaction ≠ none) :
    (s.config.transaction ≠ none ∧ openerNext cfg s l opener = opener) ∨
      s.config.transaction = none ∧ openerNext cfg s l opener = actor s l := by
  obtain ⟨tx', htx'⟩ := Option.ne_none_iff_exists'.mp hopen
  cases htx : s.config.transaction with
  | none => exact Or.inr ⟨rfl, by simp only [openerNext, h, htx, htx']⟩
  | some tx => exact Or.inl ⟨Option.some_ne_none tx, by simp only [openerNext, h, htx, htx']⟩

/-- The opener owns the transaction after a step that is unhurried. -/
theorem openerOwns_of_step {l : Label} {opener : Option String} (hs : OpenerOwns (s, opener))
    (hguarded : CheckThenAct.Guarded OwnerInFlight OwnsConfig s)
    (hC : Unhurried cfg (s, opener) l) (h : step cfg s l = some s') :
    OpenerOwns (s', openerNext cfg s l opener) := by
  intro hopen
  change s'.config.transaction ≠ none at hopen
  obtain ⟨hbefore, hopener⟩ | ⟨hbefore, hopener⟩ := openerNext_of_step h opener hopen
  · obtain ⟨x, howner, hx⟩ := hs hbefore
    refine ⟨x, configSession_of_step h howner ?_, hopener.trans hx⟩
    rintro (⟨c, around, session, ahead, leaves, rfl, hc⟩ | ⟨c, session, rfl, hc, hsame⟩)
    · exact hbefore (hC.resets c around session ahead leaves rfl hc).1
    · cases moves_of_step h with
      | closeUnnamed _ hc' =>
        rw [hc] at hc'
        cases hc'
      | close _ session' hc' =>
        rw [hc] at hc'
        obtain rfl : session = session' := Option.some_inj.mp (Connection.closing.inj hc')
        obtain ⟨t, -, ⟨hne, -⟩ | ⟨-, owner, -, hclosed⟩⟩ := s.sessionClosed_cases session
        · exact hne hsame
        · refine hopen ?_
          change (s.sessionClosed session).config.transaction = none
          rw [hclosed]
          rfl
  · obtain hconfig |
        ⟨c, around, session, stage, ahead, leaves, call, rfl, hc, hcall, hconfig, howner⟩ |
      hclosed := config_of_step h
    · rw [hconfig] at hopen
      exact (hopen hbefore).elim
    · obtain hvalidate | hrelies := reliesOnOwner_of_call hcall
      · rw [hconfig, ConfigStore.perform_validate _ hvalidate] at hopen
        exact (hopen hbefore).elim
      · refine ⟨session, ?_, ?_⟩
        · rw [howner]
          exact configSession_of_inFlight hguarded hc (ownerInFlight_of_head hc hrelies)
        · rw [hopener, actor, hc]
          rfl
    · exact (hopen hclosed).elim

/-! ## Runs -/

/-- What unhurried steps keep. -/
structure Exclusive (p : Server env × Option String) : Prop where
  mode : ModeAgrees p.1
  last : ∀ c, Ahead (fun ahead => resetsLast ahead = true) (p.1.connections c)
  maintenance : CheckThenAct.Guarded MaintenanceInFlight (fun s _ => Idle s) p.1
  owner : CheckThenAct.Guarded OwnerInFlight OwnsConfig p.1
  opener : OpenerOwns p

theorem Exclusive.initial (config : ConfigStore env) (hconfig : config.transaction = none)
    (now : ℚ) (real : Slot → AxisState) : Exclusive (Server.initial config now real, none) where
  mode := ⟨fun _ => rfl, fun _ => rfl⟩
  last _ := trivial
  maintenance _ hc := hc.elim
  owner _ hc := hc.elim
  opener hopen := (hopen hconfig).elim

/-- A step leaves an idle server alone unless Direct mode is entered. -/
theorem spares_maintenance :
    CheckThenAct.Spares (step cfg : Server env → Label → _) MaintenanceInFlight
      (fun s _ => Idle s)
      (fun s l => ModeAgrees s ∧ (EntersDirect cfg s l → ∀ c, ¬ MaintenanceInFlight s c)) := by
  rintro s l s' c h ⟨hmode, henters⟩ hbefore - hidle
  exact idle_of_step hmode hidle (fun hdirect => henters hdirect c hbefore) h

theorem Exclusive.next {p p' : Server env × Option String} {l : Label} (hp : Exclusive p)
    (hC : Unhurried cfg p l) (h : watched cfg p l = some p') : Exclusive p' := by
  obtain ⟨hstep, hopener⟩ := Runs.observed_eq_some.mp h
  constructor
  · exact modeAgrees_of_step hp.mode hstep
  · exact ahead_of_step resetsLast_stages resetsLast_tail hstep hp.last
  · exact hp.maintenance.next checked_maintenance spares_maintenance ⟨hp.mode, hC.enters⟩ hstep
  · exact hp.owner.next checked_owner spares_owner ⟨⟨p.2, hC⟩, hp.owner, hp.last⟩ hstep
  · have hnext := openerOwns_of_step hp.opener hp.owner hC hstep
    rw [← hopener] at hnext
    exact hnext

theorem changesConfig_of_call {stage : Stage} {fault : Option FaultPoint} {call : Call}
    (h : stage.call? fault = some call) (hchanges : Operation.changesConfig call.operation = true) :
    stage.changesConfig = true := by
  cases stage with
  | patch path value => rfl
  | commit expected => rfl
  | begin | validate | rollback =>
    obtain rfl := Option.some_inj.mp h
    cases hchanges
  | _ => cases h

/-- A call of the store that may touch the transaction finds its session as the owner. -/
theorem Exclusive.owns {p : Server env × Option String} {l : Label} {call : Call}
    (hp : Exclusive p) (h : CallsStore p.1 l session call)
    (htouches : Operation.touchesTransaction call.operation = true) :
    p.1.configSession = some session := by
  obtain ⟨c, around, stage, ahead, leaves, -, hc, hcall⟩ := h
  obtain hvalidate | hrelies := reliesOnOwner_of_call hcall
  · rw [hvalidate] at htouches
    cases htouches
  · exact configSession_of_inFlight hp.owner hc (ownerInFlight_of_head hc hrelies)

theorem Exclusive.opened {p : Server env × Option String} (hp : Exclusive p)
    (howner : p.1.configSession = some session) (hopen : p.1.config.transaction ≠ none) :
    p.2 = some session := by
  obtain ⟨x, hx, hopener⟩ := hp.opener hopen
  rw [hopener, ← hx, howner]

theorem touchesTransaction_of_changesConfig {operation : Operation}
    (h : Operation.changesConfig operation = true) :
    Operation.touchesTransaction operation = true := by
  cases operation with
  | patch path value => rfl
  | commit expected => rfl
  | _ => cases h

theorem Exclusive.exclusiveConfig {p : Server env × Option String} (hp : Exclusive p) (l : Label)
    (p' : Server env × Option String) : ExclusiveConfig p l p' where
  idle session call hcalls hchanges := by
    have howner := hp.owns hcalls (touchesTransaction_of_changesConfig hchanges)
    obtain ⟨c, around, stage, ahead, leaves, -, hc, hcall⟩ := hcalls
    have hflight : MaintenanceInFlight p.1 c := by
      unfold MaintenanceInFlight
      rw [hc]
      change unchecked Stage.checksMaintenance Stage.changesConfig (stage :: ahead) = true
      simp [unchecked, changesConfig_of_call hcall hchanges]
    obtain ⟨hmode, hlease⟩ := hp.maintenance c hflight
    exact ⟨hmode, hlease, howner⟩
  own _ _ hcalls htouches hopen := hp.opened (hp.owns hcalls htouches) hopen
  closed _ _ _ _ howner hopen := hp.opened howner hopen

/-- Along every run from the start whose steps are unhurried, the patches and commits find an idle
server and their session as the owner, and only its opener touches a transaction. -/
theorem exclusiveConfig_of_unhurried (config : ConfigStore env)
    (hconfig : config.transaction = none)
    (now : ℚ) (real : Slot → AxisState) {labels : List Label}
    (h : Runs.Meets (watched cfg) (Unhurried cfg) (Server.initial config now real, none) labels) :
    Runs.Throughout (watched cfg) ExclusiveConfig (Server.initial config now real, none) labels :=
  Runs.throughout_of_meets (fun _ _ _ hp hC hstep => hp.next hC hstep)
    (fun _ l p' hp _ _ => hp.exclusiveConfig l p') (Exclusive.initial config hconfig now real) h

/-! ## Two runs that are hurried -/

/-- A connection begins a transaction. -/
def beginTransaction (c : ℕ) (session : String) : List Label :=
  [.request c ⟨some session, .beginConfig⟩, .run c calm, .run c calm, .run c calm, .run c calm]

/-- The patch of the example. -/
def samplePatch : Message :=
  .patchConfig (some "arm.jog_step_rad") (.float (.finite (1 / 16)))

/-- The first session has passed the checks of a patch when the second enters Direct mode. -/
def patchedInDirectRun : List Label :=
  Label.connect 0 :: beginTransaction 0 "first" ++
    [Label.request 0 ⟨some "first", samplePatch⟩, .run 0 calm, .run 0 calm, .run 0 calm,
      .connect 1, .request 1 ⟨some "second", .enterDirect none⟩, .run 1 calm, .run 1 calm]

/-- The first session commits over one connection, begins again over another before the owner is
reset, and the second session takes this transaction over. -/
def takenOverRun : List Label :=
  Label.connect 0 :: beginTransaction 0 "first" ++
    [Label.request 0 ⟨some "first", samplePatch⟩, .run 0 calm, .run 0 calm, .run 0 calm,
      .run 0 calm, .request 0 ⟨some "first", .commitConfig (some 1)⟩, .run 0 calm, .run 0 calm,
      .run 0 calm, .run 0 calm, .connect 2] ++
    beginTransaction 2 "first" ++ [Label.run 0 calm, .connect 1] ++ beginTransaction 1 "second" ++
    [Label.request 1 ⟨some "second", samplePatch⟩, .run 1 calm, .run 1 calm, .run 1 calm]

/-- The thread of the connection is about to patch the configuration. -/
def aboutToPatch (c : ℕ) (session : String) (s : Server ConfigStore.sampleEnvironment) : Bool :=
  match s.connections c with
  | .busy x (.patch (some _) _ :: _) _ => x == session
  | _ => false

/-- Then the next stage of that thread is the patch. -/
theorem callsStore_of_aboutToPatch {s : Server ConfigStore.sampleEnvironment} {c : ℕ}
    (h : aboutToPatch c session s = true) :
    (∃ s', step sampleSettings s (.run c calm) = some s') ∧
      ∃ path value, CallsStore s (.run c calm) session ⟨.patch path value, none⟩ := by
  unfold aboutToPatch at h
  split at h
  · rename_i x path value ahead leaves hc
    obtain rfl : x = session := eq_of_beq h
    refine ⟨?_, path, value, c, calm, _, ahead, leaves, rfl, hc, rfl⟩
    simp only [step, hc]
    exact ⟨_, rfl⟩
  · cases h

/-- The patch happens in Direct mode, and the transaction is patched by a session that has not
opened it. -/
theorem not_exclusiveConfig_hurried :
    ¬ Runs.Throughout (watched sampleSettings) ExclusiveConfig (sampleServer, none)
      (patchedInDirectRun ++ [.run 0 calm]) ∧
    ¬ Runs.Throughout (watched sampleSettings) ExclusiveConfig (sampleServer, none)
      (takenOverRun ++ [.run 1 calm]) := by
  refine ⟨fun h => ?_, fun h => ?_⟩
  · obtain ⟨p, hp, -, htest⟩ := Runs.reachable_of_run (watched sampleSettings) (sampleServer, none)
      patchedInDirectRun (fun p => aboutToPatch 0 "first" p.1 && p.1.mode == .directActive)
      (by decide +kernel)
    simp only [Bool.and_eq_true, beq_iff_eq] at htest
    obtain ⟨⟨s', hs'⟩, path, value, hcalls⟩ := callsStore_of_aboutToPatch htest.1
    obtain ⟨q, hq⟩ : ∃ q, watched sampleSettings p (.run 0 calm) = some q :=
      ⟨(s', _), Runs.observed_eq_some.mpr ⟨hs', rfl⟩⟩
    have hlast := h.last hp hq
    have hidle := (hlast.idle "first" _ hcalls rfl).1
    rw [htest.2] at hidle
    cases hidle
  · obtain ⟨p, hp, -, htest⟩ := Runs.reachable_of_run (watched sampleSettings) (sampleServer, none)
      takenOverRun (fun p => aboutToPatch 1 "second" p.1 && p.1.config.transaction.isSome &&
        p.2 == some "first") (by decide +kernel)
    simp only [Bool.and_eq_true, beq_iff_eq] at htest
    obtain ⟨⟨s', hs'⟩, path, value, hcalls⟩ := callsStore_of_aboutToPatch htest.1.1
    obtain ⟨q, hq⟩ : ∃ q, watched sampleSettings p (.run 1 calm) = some q :=
      ⟨(s', _), Runs.observed_eq_some.mpr ⟨hs', rfl⟩⟩
    have hlast := h.last hp hq
    have hown := hlast.own "second" _ hcalls rfl (Option.isSome_iff_ne_none.mp htest.1.2)
    rw [htest.2] at hown
    exact absurd (Option.some_inj.mp hown) (by decide)

/-- The step is none of those that the condition is about. -/
def leavesAlone (p : Server env × Option String) : Label → Bool
  | .close _ => false
  | .run c _ =>
    match p.1.connections c with
    | .busy _ (.enterDirect _ :: _) _ | .busy _ (.resetOwner :: _) _ => false
    | _ => true
  | _ => true

theorem unhurried_of_leavesAlone (cfg : Settings) (p : Server env × Option String) (l : Label)
    (h : leavesAlone p l = true) : Unhurried cfg p l where
  enters := by
    rintro ⟨c, around, session, ahead, leaves, rfl, hc, -⟩
    simp only [leavesAlone, hc] at h
    cases h
  resets c around session ahead leaves hl hc := by
    subst hl
    simp only [leavesAlone, hc] at h
    cases h
  closes c session hl := by
    subst hl
    cases h

/-- Two connections are in use.  Direct mode is entered and an owner is reset without a transaction,
and like the end of a connection while no other handler relies on the owner. -/
def unhurriedTest (p : Server env × Option String) (l : Label) : Bool :=
  staysBelow 2 l && (leavesAlone p l ||
    match l with
    | .run c _ => p.1.config.transaction.isNone && decide (∀ c' : ℕ, c' < 2 →
        ¬ MaintenanceInFlight p.1 c' ∧ (c' ≠ c → ¬ OwnerInFlight p.1 c'))
    | _ => decide (∀ c' : ℕ, c' < 2 → ¬ OwnerInFlight p.1 c'))

theorem unhurried_of_test (cfg : Settings) (p : Server env × Option String) (l : Label)
    (hp : p.1.UsesBelow 2) (h : unhurriedTest p l = true) : Unhurried cfg p l := by
  obtain ⟨-, h⟩ := Bool.and_eq_true_iff.mp h
  obtain h | h := Bool.or_eq_true_iff.mp h
  · exact unhurried_of_leavesAlone cfg p l h
  have howner {c : ℕ} (h : ∀ c' : ℕ, c' < 2 → c' ≠ c → ¬ OwnerInFlight p.1 c') (c' : ℕ)
      (hc : c' ≠ c) : ¬ OwnerInFlight p.1 c' := by
    by_cases hc' : c' < 2
    · exact h c' hc' hc
    · unfold OwnerInFlight
      rw [hp c' (Nat.not_lt.mp hc')]
      exact id
  refine ⟨?_, ?_, ?_⟩
  · rintro ⟨c, around, session, ahead, leaves, rfl, -, -⟩
    obtain ⟨-, h⟩ := Bool.and_eq_true_iff.mp h
    exact hp.not_between fun c' hc' => (of_decide_eq_true h c' hc').1
  · rintro c around session ahead leaves rfl -
    obtain ⟨hnone, h⟩ := Bool.and_eq_true_iff.mp h
    refine ⟨Option.isNone_iff_eq_none.mp hnone, fun c' hc' hflight => ?_⟩
    exact (howner (fun c' hlt => (of_decide_eq_true h c' hlt).2) c' hc' hflight).elim
  · rintro c session rfl - - c' hflight
    exact (hp.not_between (of_decide_eq_true h) c' hflight).elim

/-- A session patches and commits, and its second transaction ends with its connection.  Then
another session enters Direct mode and goes. -/
def unhurriedRun : List Label :=
  Label.connect 0 :: beginTransaction 0 "first" ++
    [Label.request 0 ⟨some "first", samplePatch⟩, .run 0 calm, .run 0 calm, .run 0 calm,
      .run 0 calm, .request 0 ⟨some "first", .commitConfig (some 1)⟩, .run 0 calm, .run 0 calm,
      .run 0 calm, .run 0 calm, .run 0 calm] ++
    beginTransaction 0 "first" ++
    [Label.hangUp 0, .close 0, .connect 1, .request 1 ⟨some "second", .enterDirect none⟩,
      .run 1 calm, .run 1 calm, .hangUp 1, .close 1]

theorem exclusiveConfig_sample :
    Runs.Throughout (watched sampleSettings) ExclusiveConfig
      (Server.initial ConfigStore.sampleStore 100 sampleReal, none) unhurriedRun := by
  refine exclusiveConfig_of_unhurried _ rfl _ _
    (Runs.meets_of_passes_of_invariant (I := fun p => p.1.UsesBelow 2)
      (fun p l p' hp hl hstep => ?_) (unhurried_of_test sampleSettings) (fun _ _ => rfl)
      (show Runs.passes (watched sampleSettings) unhurriedTest _ _ = true by decide +kernel))
  exact hp.next (Bool.and_eq_true_iff.mp hl).1 (Runs.observed_eq_some.mp hstep).1

end Server

end Network

end JointController
