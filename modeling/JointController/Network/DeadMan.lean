import JointController.Network.LeaseGuard

/-!
# Workers without a lease

Without a lease nothing is driven to a target: the workers are stopped or on hold.

* `Server.Quiet`: the workers are stopped or on hold.
* `Server.DeadMan`: no lease without quiet workers, and a stop at the watchdog period that finds the
  heartbeat too old.
* `Server.ReleasesQuiet`: a `RELEASE_LEASE` finds quiet workers, and no step ends a lease while a
  jog or a homing of its session is in flight.
* `Server.deadMan_of_releasesQuiet`: the rule holds along every run of such steps.
* `Server.not_deadMan_releaseRun`: a `RELEASE_LEASE` during a jog lets the arm drive on.
-/

namespace JointController

namespace Network

variable {env : Environment}

/-- The execution of a jog or of a homing. -/
def Stage.executesMotion : Stage → Bool
  | .command c _ => c.moves
  | _ => false

theorem Stage.executes_of_executesMotion (stage : Stage) (h : stage.executesMotion = true) :
    stage.executes = true := by
  cases stage with
  | command c payload => rfl
  | _ => cases h

theorem HardwareWorkers.onHold_ensureWorker {w : HardwareWorkers} (h : w.OnHold) (d : Device) :
    (w.ensureWorker d).OnHold := by
  unfold HardwareWorkers.ensureWorker
  split_ifs
  · exact h
  · exact ⟨h.arm, h.lift⟩

namespace Server

variable {cfg : Settings} {s s' : Server env} {session x : String}

/-- The workers are stopped or on hold. -/
def Quiet (s : Server env) : Prop := ∀ w, s.workers = some w → w.OnHold

instance (s : Server env) : Decidable s.Quiet :=
  inferInstanceAs (Decidable (∀ w ∈ s.workers, w.OnHold))

theorem quiet_of_none (h : s.workers = none) : Quiet s := by
  intro w hw
  rw [h] at hw
  cases hw

/-- A started worker is on hold. -/
theorem onHold_started {w : HardwareWorkers} (h : w.OnHold) (d : Device) (ok : Bool)
    (limits : Slot → ℤ × ℤ) (zeroOffset : Slot → ℤ) :
    (s.started cfg w d ok limits zeroOffset).OnHold := by
  unfold started
  cases ok with
  | false => exact ⟨h.arm, h.lift⟩
  | true =>
    cases d with
    | arm =>
      refine ⟨fun a ha => ?_, h.lift⟩
      rw [← Option.some_inj.mp ha]
      exact ArmWorker.onHold_holdLocked _ _ _
    | lift =>
      refine ⟨h.arm, fun a ha => ?_⟩
      rw [← Option.some_inj.mp ha]
      exact fun hlines => Option.some_ne_none true hlines.symm

/-! ## The steps -/

/-- The step is an accepted `RELEASE_LEASE`. -/
def Releases (s : Server env) (l : Label) : Prop :=
  ∃ c around session ahead leaves, l = .run c around ∧
    s.connections c = .busy session (.releaseLease :: ahead) leaves ∧
    s.leaseSession = some session

/-- A `RELEASE_LEASE` finds quiet workers, and a step that ends the lease finds no jog and no homing
in flight that it covers. -/
def ReleasesQuiet (cfg : Settings) (s : Server env) (l : Label) : Prop :=
  (Releases s l → Quiet s) ∧ LetsFinish cfg Stage.executesMotion s l

/-- No session holds the lease only with quiet workers, and a watchdog period that finds the
heartbeat of the holder too old stops them. -/
def DeadMan (cfg : Settings) (s : Server env) (l : Label) (s' : Server env) : Prop :=
  (s'.leaseSession = none → Quiet s') ∧
    (l = .watchdog → s.expired cfg = true → s'.workers = none ∧ s'.leaseSession = none)

/-- What a stage leaves of quiet workers. -/
theorem quiet_of_change {around : Surroundings} {stage : Stage}
    (hquiet : s.leaseSession = none → Quiet s)
    (hmoves : stage.executesMotion = true → s.leaseSession ≠ none)
    (hrelease : stage = .releaseLease → s.leaseSession = some session → Quiet s)
    (h : Change cfg s session around stage s') (hnone : s'.leaseSession = none) : Quiet s' := by
  cases h with
  | notEntered => exact quiet_of_none rfl
  | entered hactive =>
    intro w hw
    cases hreal : cfg.realBackend with
    | true =>
      simp only [entered, hreal, if_true, Option.some_inj] at hw
      subst hw
      exact ⟨fun a ha => (Option.some_ne_none a ha.symm).elim,
        fun a ha => (Option.some_ne_none a ha.symm).elim⟩
    | false =>
      simp only [entered, hreal, Bool.false_eq_true, if_false] at hw
      exact hquiet hnone w hw
  | left hdirect => exact quiet_of_none rfl
  | acquired hactive hfree => cases hnone
  | released hheld => exact hrelease rfl hheld
  | ensured d w hw =>
    intro w' hw'
    rw [← Option.some_inj.mp hw']
    exact HardwareWorkers.onHold_ensureWorker (hquiet hnone w hw) d
  | commanded c payload w hw =>
    intro w' hw'
    rw [← Option.some_inj.mp hw']
    cases hc : c.moves with
    | true => exact (hmoves hc hnone).elim
    | false => exact HardwareWorkers.onHold_command (hquiet hnone w hw) hc
  | same => exact hquiet hnone
  | heartbeat => exact hquiet hnone
  | claimed howner => exact hquiet hnone
  | reset => exact hquiet hnone
  | stored _ call hcall => exact hquiet hnone

theorem workers_sessionClosed (session : String) :
    (s.sessionClosed session).workers = none ∨
      (s.sessionClosed session).workers = s.workers ∧
        (s.sessionClosed session).leaseSession = s.leaseSession := by
  obtain ⟨t, ⟨rfl, -⟩ | ⟨rfl, -⟩, ⟨-, h⟩ | ⟨-, owner, -, h⟩⟩ := s.sessionClosed_cases session
  · exact Or.inr ⟨by rw [h], by rw [h]⟩
  · exact Or.inr ⟨by rw [h], by rw [h]⟩
  · exact Or.inl (by rw [h]; rfl)
  · exact Or.inl (by rw [h]; rfl)

/-- A step that meets the condition leaves quiet workers when it leaves no lease. -/
theorem quiet_of_step {l : Label}
    (hguarded : CheckThenAct.Guarded (InFlight Stage.executesMotion) HoldsLease s)
    (hquiet : s.leaseSession = none → Quiet s) (hC : ReleasesQuiet cfg s l)
    (h : step cfg s l = some s') (hnone : s'.leaseSession = none) : Quiet s' := by
  cases moves_of_step h with
  | run c around session stage ahead leaves hc =>
    have hmoves : stage.executesMotion = true → s.leaseSession ≠ none := by
      intro hstage
      obtain ⟨x, -, hlease⟩ := hguarded c (inFlight_of_head hc hstage)
      rw [hlease]
      exact Option.some_ne_none x
    have hrelease : stage = .releaseLease → s.leaseSession = some session → Quiet s := by
      rintro rfl hheld
      exact hC.1 ⟨c, around, session, ahead, leaves, rfl, hc, hheld⟩
    have hafter : Quiet (s.runStage cfg session around stage).1 :=
      quiet_of_change hquiet hmoves hrelease (runStage_change cfg s session around stage) hnone
    exact hafter
  | close c session hc =>
    have hafter : Quiet (s.sessionClosed session) := by
      obtain hworkers | ⟨hworkers, hlease⟩ := workers_sessionClosed (s := s) session
      · exact quiet_of_none hworkers
      · intro w hw
        exact hquiet (hlease ▸ hnone) w (hworkers ▸ hw)
    exact hafter
  | watchdog hreaping =>
    unfold watchdog at hnone ⊢
    split_ifs at hnone ⊢ with hexpired
    · exact quiet_of_none rfl
    · exact hquiet hnone
  | shutdown => exact quiet_of_none rfl
  | started d ok limits zeroOffset w hw hd =>
    intro w' hw'
    rw [← Option.some_inj.mp hw']
    exact onHold_started (hquiet hnone w hw) d ok limits zeroOffset
  | armLoop exited w hw =>
    intro w' hw'
    rw [← Option.some_inj.mp hw']
    have hhold := hquiet hnone w hw
    refine ⟨fun a ha => ?_, hhold.lift⟩
    obtain ⟨a', ha', rfl⟩ := Option.map_eq_some_iff.mp ha
    exact ArmWorker.onHold_loop (hhold.arm a' ha') _ _ _
  | connect c hc => exact hquiet hnone
  | request c r session hc => exact hquiet hnone
  | hangUp c session hc => exact hquiet hnone
  | closeUnnamed c hc => exact hquiet hnone
  | elapse d hd => exact hquiet hnone
  | feedback real => exact hquiet hnone

/-! ## Runs -/

/-- What the steps that meet the condition keep. -/
structure Supervised (s : Server env) : Prop where
  guarded : CheckThenAct.Guarded (InFlight Stage.executesMotion) HoldsLease s
  quiet : s.leaseSession = none → Quiet s

theorem Supervised.next {l : Label} (hs : Supervised s) (hC : ReleasesQuiet cfg s l)
    (h : step cfg s l = some s') : Supervised s' where
  guarded := hs.guarded.next (checked_inFlight Stage.executes_of_executesMotion)
    (spares_inFlight Stage.executes_of_executesMotion) hC.2 h
  quiet := quiet_of_step hs.guarded hs.quiet hC h

/-- A watchdog period that finds the heartbeat too old stops the workers. -/
theorem stopped_of_watchdog (h : step cfg s .watchdog = some s') (hexpired : s.expired cfg = true) :
    s'.workers = none ∧ s'.leaseSession = none := by
  cases moves_of_step h with
  | watchdog hreaping =>
    simp only [watchdog, hexpired, if_true]
    exact ⟨rfl, rfl⟩

/-- Along every run from the start whose steps meet the condition, there is no lease only with quiet
workers, and the watchdog stops them when the heartbeat is too old. -/
theorem deadMan_of_releasesQuiet (config : ConfigStore env) (now : ℚ) (real : Slot → AxisState)
    {labels : List Label}
    (h : Runs.Meets (step cfg) (ReleasesQuiet cfg) (initial config now real) labels) :
    Runs.Throughout (step cfg) (DeadMan cfg) (initial config now real) labels := by
  have hstart : Supervised (initial config now real) :=
    ⟨guarded_initial _ config now real, fun _ => quiet_of_none rfl⟩
  refine Runs.throughout_of_meets (fun _ _ _ hs hC hstep => hs.next hC hstep) ?_ hstart h
  intro s l s' hs hC hstep
  refine ⟨quiet_of_step hs.guarded hs.quiet hC hstep, ?_⟩
  rintro rfl hexpired
  exact stopped_of_watchdog hstep hexpired

/-! ## A release during a jog -/

/-- A session jogs the first joint. -/
def jogArm (c : ℕ) (session : String) : List Label :=
  [.request c ⟨some session,
      .device (.arm .jog) (some ⟨some "ljoint1", some (.int 1), none, none⟩)⟩,
    .run c calm, .run c calm, .run c calm, .run c calm, .run c calm, .run c calm]

/-- A session takes control, enables the arm, jogs and asks for the release of its lease. -/
def releaseRun : List Label :=
  takeControl 0 "first" ++ enableArm 0 "first" ++ jogArm 0 "first" ++
    [Label.request 0 ⟨some "first", .releaseLease⟩, .run 0 calm]

/-- Nobody holds the lease, and the first arm axis is in motion. -/
def unattended (s : Server ConfigStore.sampleEnvironment) : Bool :=
  s.leaseSession.isNone && (s.workers.bind fun w => w.arm).any fun a =>
    (a.axes 0).motionDirection != 0

theorem not_quiet_of_unattended {s : Server ConfigStore.sampleEnvironment}
    (h : unattended s = true) : s.leaseSession = none ∧ ¬ Quiet s := by
  simp only [unattended, Bool.and_eq_true, Option.isNone_iff_eq_none, Option.any_eq_true] at h
  obtain ⟨hlease, a, ha, hmoving⟩ := h
  refine ⟨hlease, fun hquiet => ?_⟩
  obtain ⟨w, hw, harm⟩ := Option.bind_eq_some_iff.mp ha
  have hrests := ((hquiet w hw).arm a harm 0).2
  rw [hrests] at hmoving
  cases hmoving

/-- The release lets the arm drive on without a lease. -/
theorem not_deadMan_releaseRun :
    ¬ Runs.Throughout (step sampleSettings) (DeadMan sampleSettings) sampleServer
      (releaseRun ++ [.run 0 calm]) := by
  intro h
  obtain ⟨s, hs, -, hlast⟩ := Runs.reachable_of_run (step sampleSettings) sampleServer releaseRun
    (fun s => (step sampleSettings s (.run 0 calm)).any unattended) (by decide +kernel)
  obtain ⟨s', hs', hunattended⟩ := (Option.any_eq_true _ _).mp hlast
  obtain ⟨hlease, hdriven⟩ := not_quiet_of_unattended hunattended
  exact hdriven ((h.last hs hs').1 hlease)

/-- All workers are held. -/
def holdAll (c : ℕ) (session : String) : List Label :=
  [.request c ⟨some session, .device .holdAll none⟩, .run c calm, .run c calm, .run c calm,
    .run c calm, .run c calm]

/-- The step may end a lease only when no jog and no homing is in flight, and it releases one only
when the workers are quiet. -/
def releasesQuietTest (s : Server env) (l : Label) : Bool :=
  finishes Stage.executesMotion s l &&
    match l with
    | .run _ _ => endsNone s l || decide (Quiet s)
    | _ => true

theorem releasesQuiet_of_test (cfg : Settings) (s : Server env) (l : Label) (hs : s.UsesBelow 2)
    (h : releasesQuietTest s l = true) : ReleasesQuiet cfg s l := by
  obtain ⟨hfinishes, hquiet⟩ := Bool.and_eq_true_iff.mp h
  refine ⟨?_, letsFinish_of_finishes cfg hs hfinishes⟩
  rintro ⟨c, around, session, ahead, leaves, rfl, hc, hheld⟩
  obtain hnone | hquiet := Bool.or_eq_true_iff.mp hquiet
  · exact (not_endsLease_of_endsNone cfg s _ hnone
      ⟨session, .releaseLease, ahead, leaves, hc, Or.inl ⟨rfl, hheld⟩⟩).elim
  · exact of_decide_eq_true hquiet

/-- The arm is jogged and held before the lease is released.  In the next lease it is jogged again,
until a watchdog period finds the heartbeat too old. -/
def attendedRun : List Label :=
  takeControl 0 "first" ++ enableArm 0 "first" ++ jogArm 0 "first" ++ [Label.armLoop false] ++
    holdAll 0 "first" ++ giveBack 0 "first" ++
    [Label.request 0 ⟨some "first", .acquireLease⟩, .run 0 calm, .run 0 calm, .watchdog] ++
    jogArm 0 "first" ++ [Label.armLoop false, .elapse 1, .watchdog]

theorem deadMan_sample :
    Runs.Throughout (step sampleSettings) (DeadMan sampleSettings)
      (initial ConfigStore.sampleStore 100 sampleReal) attendedRun :=
  deadMan_of_releasesQuiet _ _ _
    (meets_of_passes_below (releasesQuiet_of_test sampleSettings) (fun _ _ => rfl)
      (by decide +kernel))

end Server

end Network

end JointController
