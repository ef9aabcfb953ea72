import JointController.Network.Interleavings
import JointController.Network.AllOrNothing

/-!
# Device commands and the control lease

A device command is checked against the lease in one critical section and executed by the workers
after it.  The lease may end in between.

* `Server.EndsLease`: the steps that end a lease, and `Server.lease_of_step`: the others keep it.
* `Server.InFlight`: a thread has checked its command and has not executed it yet.
* `Server.LetsFinish`: a step that ends the lease finds no command in flight that it covers.
* `Server.ExecutesUnderLease`: a command that is executed finds the lease of its session.
* `Server.executesUnderLease_of_letsFinish`: it does, along every run whose steps let the commands
  in flight finish.
-/

namespace JointController

namespace Network

variable {env : Environment}

/-- The check of the lease. -/
def Stage.checksLease : Stage → Bool
  | .requireLease => true
  | _ => false

/-- The execution by the workers. -/
def Stage.executes : Stage → Bool
  | .command _ _ => true
  | _ => false

/-- The handlers check before they execute. -/
theorem unchecked_executes_stages (m : Message) :
    unchecked Stage.checksLease Stage.executes (stages m) = false := by
  cases m with
  | device c payload => cases c <;> rfl
  | query | getState | enterDirect | leaveDirect | acquireLease | releaseLease | beginConfig
  | patchConfig | validateConfig | commitConfig | rollbackConfig | unsupported => rfl

namespace Server

/-! ## The end of a lease -/

/-- The step ends the lease: it is released, its Direct mode is left, its connection closes, its
heartbeat is too old, or the server stops. -/
def EndsLease (cfg : Settings) (s : Server env) : Label → Prop
  | .run c _ => ∃ session stage ahead leaves,
    s.connections c = .busy session (stage :: ahead) leaves ∧
      (stage = .releaseLease ∧ s.leaseSession = some session ∨
        stage = .leaveDirect ∧ s.leaseSession ≠ none ∧
          (s.directSession = none ∨ s.directSession = some session))
  | .close c => ∃ session, s.connections c = .closing (some session) ∧ s.leaseSession ≠ none ∧
      (s.directSession = some session ∨ s.leaseSession = some session)
  | .watchdog => s.expired cfg = true
  | .shutdown => s.leaseSession ≠ none
  | _ => False

variable {cfg : Settings} {s s' : Server env} {session x : String}

theorem leaseSession_sessionClosed_of_not (h : ¬ (s.directSession = some session ∨
    s.leaseSession = some session)) : (s.sessionClosed session).leaseSession = s.leaseSession := by
  obtain ⟨t, ⟨rfl, -⟩ | ⟨-, hdirect⟩, hclosed⟩ := s.sessionClosed_cases session
  · obtain ⟨-, hclosed⟩ | ⟨-, owner, -, hclosed⟩ := hclosed
    all_goals rw [hclosed]
  · exact (h hdirect).elim

/-- A stage changes a lease that somebody holds only by ending it. -/
theorem leaseSession_of_change {around : Surroundings} {stage : Stage}
    (hlease : s.leaseSession = some x)
    (hrelease : stage = .releaseLease → s.leaseSession ≠ some session)
    (hleave : stage = .leaveDirect → ¬ (s.directSession = none ∨ s.directSession = some session))
    (h : Change cfg s session around stage s') : s'.leaseSession = some x := by
  cases h with
  | left hdirect => exact (hleave rfl hdirect).elim
  | acquired hactive hfree =>
    obtain hnone | hsame := hfree
    · rw [hlease] at hnone
      cases hnone
    · rw [← hlease, hsame]
  | released hheld => exact (hrelease rfl hheld).elim
  | same => exact hlease
  | heartbeat => exact hlease
  | notEntered => exact hlease
  | entered hactive => exact hlease
  | claimed howner => exact hlease
  | reset => exact hlease
  | ensured d w hw => exact hlease
  | commanded c payload w hw => exact hlease
  | stored _ call hcall => exact hlease

/-- A step that does not end the lease keeps it. -/
theorem lease_of_step {l : Label} (h : step cfg s l = some s') (hlease : s.leaseSession = some x)
    (hends : ¬ EndsLease cfg s l) : s'.leaseSession = some x := by
  have hheld : s.leaseSession ≠ none := by
    rw [hlease]
    exact Option.some_ne_none x
  cases moves_of_step h with
  | run c around session stage ahead leaves hc =>
    have hrelease : stage = .releaseLease → s.leaseSession ≠ some session := fun hstage hsame =>
      hends ⟨session, stage, ahead, leaves, hc, Or.inl ⟨hstage, hsame⟩⟩
    have hleave : stage = .leaveDirect →
        ¬ (s.directSession = none ∨ s.directSession = some session) := fun hstage hdirect =>
      hends ⟨session, stage, ahead, leaves, hc, Or.inr ⟨hstage, hheld, hdirect⟩⟩
    have hkept : (s.runStage cfg session around stage).1.leaseSession = some x :=
      leaseSession_of_change hlease hrelease hleave (runStage_change cfg s session around stage)
    exact hkept
  | close c session hc =>
    have hnot : ¬ (s.directSession = some session ∨ s.leaseSession = some session) :=
      fun hsame => hends ⟨session, hc, hheld, hsame⟩
    change (s.sessionClosed session).leaseSession = some x
    rw [leaseSession_sessionClosed_of_not hnot, hlease]
  | watchdog hreaping =>
    have hfresh : ¬ s.expired cfg = true := hends
    simp only [watchdog, hfresh]
    exact hlease
  | shutdown => exact (hends hheld).elim
  | connect c hc => exact hlease
  | request c r session hc => exact hlease
  | hangUp c session hc => exact hlease
  | closeUnnamed c hc => exact hlease
  | elapse d hd => exact hlease
  | started d ok limits zeroOffset w hw hd => exact hlease
  | armLoop exited w hw => exact hlease
  | feedback real => exact hlease

/-! ## Commands in flight -/

/-- The session of the connection holds the lease. -/
def HoldsLease (s : Server env) (c : ℕ) : Prop :=
  ∃ session, (s.connections c).session? = some session ∧ s.leaseSession = some session

/-- The thread has checked the lease, and is going to act. -/
def InFlight (act : Stage → Bool) (s : Server env) (c : ℕ) : Prop :=
  (s.connections c).Between Stage.checksLease act

instance (act : Stage → Bool) (s : Server env) (c : ℕ) : Decidable (InFlight act s c) :=
  inferInstanceAs (Decidable ((s.connections c).Between Stage.checksLease act))

/-- A step that ends the lease finds no act in flight that it covers. -/
def LetsFinish (cfg : Settings) (act : Stage → Bool) (s : Server env) (l : Label) : Prop :=
  EndsLease cfg s l → ∀ c, InFlight act s c → ¬ HoldsLease s c

section Acts

variable {act : Stage → Bool} (hact : ∀ stage, act stage = true → stage.executes = true)

include hact

theorem unchecked_stages (m : Message) : unchecked Stage.checksLease act (stages m) = false :=
  Bool.eq_false_iff.mpr fun h =>
    Bool.false_ne_true ((unchecked_executes_stages m).symm.trans (unchecked_mono hact h))

/-- A thread that passes the check holds the lease. -/
theorem checked_inFlight :
    CheckThenAct.Checked (step cfg : Server env → Label → _) (InFlight act) HoldsLease := by
  intro s l s' c h hbefore hafter
  obtain ⟨hbetween, -⟩ | ⟨around, session, stage, ahead, leaves, -, -, hcheck, hnext, rfl⟩ :=
    checked_of_between (unchecked_stages hact) h c hafter
  · exact (hbefore hbetween).elim
  · cases stage with
    | requireLease =>
      refine ⟨session, ?_, requireLease_eq_next.mp hnext⟩
      rw [setConnection_connections, Function.update_self]
      rfl
    | _ => cases hcheck

/-- A step that lets the acts in flight finish leaves their lease alone. -/
theorem spares_inFlight :
    CheckThenAct.Spares (step cfg : Server env → Label → _) (InFlight act) HoldsLease
      (LetsFinish cfg act) := by
  intro s l s' c h hC hbefore hafter hholds
  have hends : ¬ EndsLease cfg s l := fun hends => hC hends c hbefore hholds
  obtain ⟨session, hsession, hlease⟩ := hholds
  have hkept := lease_of_step h hlease hends
  obtain ⟨-, hsame⟩ | ⟨around, session', stage, ahead, leaves, -, hc, -, -, rfl⟩ :=
    checked_of_between (unchecked_stages hact) h c hafter
  · exact ⟨session, hsame.trans hsession, hkept⟩
  · refine ⟨session, ?_, hkept⟩
    rw [hc] at hsession
    rw [setConnection_connections, Function.update_self]
    exact hsession

end Acts

/-- A thread that is about to act is in flight. -/
theorem inFlight_of_head {act : Stage → Bool} {c : ℕ} {stage : Stage} {ahead : List Stage}
    {leaves : Bool} (hc : s.connections c = .busy session (stage :: ahead) leaves)
    (hstage : act stage = true) : InFlight act s c := by
  unfold InFlight
  rw [hc]
  change unchecked Stage.checksLease act (stage :: ahead) = true
  simp [unchecked, hstage]

/-! ## Execution -/

/-- In the step the workers execute a device command of the connection. -/
def Executes (s : Server env) (l : Label) (c : ℕ) : Prop :=
  s.workers ≠ none ∧ ∃ around session command payload ahead leaves, l = .run c around ∧
    s.connections c = .busy session (.command command payload :: ahead) leaves

/-- A command that the workers execute finds the lease of its session. -/
def ExecutesUnderLease (s : Server env) (l : Label) (_s' : Server env) : Prop :=
  ∀ c, Executes s l c → HoldsLease s c

/-- A command that is executed was in flight. -/
theorem inFlight_of_executes {l : Label} {c : ℕ} (h : Executes s l c) :
    InFlight Stage.executes s c := by
  obtain ⟨-, around, session, command, payload, ahead, leaves, -, hc⟩ := h
  exact inFlight_of_head hc rfl

theorem guarded_initial (act : Stage → Bool) (config : ConfigStore env) (now : ℚ)
    (real : Slot → AxisState) :
    CheckThenAct.Guarded (InFlight act) HoldsLease (initial config now real) := fun _ hc => hc.elim

/-- Along every run from the start whose steps let the commands in flight finish, each command is
executed under the lease of its session. -/
theorem executesUnderLease_of_letsFinish (config : ConfigStore env) (now : ℚ)
    (real : Slot → AxisState) {labels : List Label}
    (h : Runs.Meets (step cfg) (LetsFinish cfg Stage.executes) (initial config now real) labels) :
    Runs.Throughout (step cfg) ExecutesUnderLease (initial config now real) labels :=
  CheckThenAct.throughout_guarded (checked_inFlight fun _ => id) (spares_inFlight fun _ => id)
    (fun _ _ _ => inFlight_of_executes) (guarded_initial _ config now real) h

/-! ## A command that is overtaken -/

/-- The settings of the examples, with the numbers of the shipped configuration. -/
def sampleSettings : Settings where
  realBackend := true
  heartbeatTimeoutS := 3 / 4
  timeout_range := by decide +kernel
  armNumbers _ :=
    { jogStepRad := 1 / 200, maxStepRad := 1 / 10, maxSpeedRadS := 1 / 20,
      positionUnitsPerRad := 83443, limitProgressToleranceRad := 1 / 10000,
      limitStallTimeoutS := 1 / 2, cspMode := 8 }
  liftNumbers _ := { jogStepM := 1 / 100, maxStepM := 1 / 10 }

/-- The drives of the examples: enabled, in CSP and at zero. -/
def sampleReal : Slot → AxisState := fun _ => ⟨8, 0x27, 0, 0⟩

/-- The server of the examples, when it starts. -/
def sampleServer : Server ConfigStore.sampleEnvironment :=
  initial ConfigStore.sampleStore 100 sampleReal

/-- Nothing is in the way of a stage. -/
def calm : Surroundings := ⟨.free, [], true, none, true⟩

/-- A connection enters Direct mode, acquires the lease, and gets an arm worker started. -/
def takeControl (c : ℕ) (session : String) : List Label :=
  [.connect c, .request c ⟨some session, .enterDirect none⟩, .run c calm, .run c calm,
    .request c ⟨some session, .acquireLease⟩, .run c calm, .run c calm,
    .request c ⟨some session, .getState .arm⟩, .run c calm, .run c calm, .run c calm, .run c calm,
    .started .arm true (fun _ => (-100000, 100000)) (fun _ => 0)]

/-- The first session checks an `ARM_ENABLE` under its lease and is then slow.  Its heartbeat times
out, and the second session takes control. -/
def overtakenRun : List Label :=
  takeControl 0 "first" ++
    [Label.request 0 ⟨some "first", .device (.arm .enable) none⟩, .run 0 calm, .run 0 calm,
      .run 0 calm, .elapse 1, .watchdog] ++
    takeControl 1 "second" ++ [Label.run 0 calm, .run 0 calm]

/-- The thread of connection `0` is about to execute a command of the first session, while the
second session holds the lease. -/
def overtaken (s : Server ConfigStore.sampleEnvironment) : Bool :=
  (match s.connections 0 with
    | .busy session (.command _ _ :: _) _ => session == "first"
    | _ => false) && s.workers.isSome && s.leaseSession == some "second"

/-- Then its command is executed without its lease. -/
theorem not_executesUnderLease_of_overtaken {s : Server ConfigStore.sampleEnvironment}
    (h : overtaken s = true) (s' : Server ConfigStore.sampleEnvironment) :
    ¬ ExecutesUnderLease s (.run 0 calm) s' := by
  intro hunder
  simp only [overtaken, Bool.and_eq_true, beq_iff_eq] at h
  obtain ⟨⟨hthread, hworkers⟩, hlease⟩ := h
  split at hthread
  · rename_i session command payload ahead leaves hc
    obtain rfl : session = "first" := eq_of_beq hthread
    have hexecutes : Executes s (.run 0 calm) 0 :=
      ⟨Option.isSome_iff_ne_none.mp hworkers,
        calm, "first", command, payload, ahead, leaves, rfl, hc⟩
    obtain ⟨x, hx, hheld⟩ := hunder 0 hexecutes
    rw [hc] at hx
    rw [hlease, ← hx] at hheld
    exact absurd (Option.some_inj.mp hheld) (by decide)
  · cases hthread

/-- The overtaken command is executed. -/
theorem not_executesUnderLease_overtakenRun :
    ¬ Runs.Throughout (step sampleSettings) ExecutesUnderLease sampleServer
      (overtakenRun ++ [.run 0 calm]) := by
  intro h
  obtain ⟨s, hs, -, hovertaken⟩ := Runs.reachable_of_run (step sampleSettings) sampleServer
    overtakenRun overtaken (by decide +kernel)
  obtain ⟨s', hs'⟩ : ∃ s', step sampleSettings s (.run 0 calm) = some s' := by
    simp only [overtaken, Bool.and_eq_true] at hovertaken
    have hthread := hovertaken.1.1
    split at hthread
    · rename_i session command payload ahead leaves hc
      simp only [step, hc]
      exact ⟨_, rfl⟩
    · cases hthread
  exact not_executesUnderLease_of_overtaken hovertaken s' (h.last hs hs')

/-- The step is none of those that may end a lease. -/
def endsNone (s : Server env) : Label → Bool
  | .close _ | .watchdog | .shutdown => false
  | .run c _ =>
    match s.connections c with
    | .busy _ (.releaseLease :: _) _ | .busy _ (.leaveDirect :: _) _ => false
    | _ => true
  | _ => true

theorem not_endsLease_of_endsNone (cfg : Settings) (s : Server env) (l : Label)
    (h : endsNone s l = true) : ¬ EndsLease cfg s l := by
  intro hends
  cases l with
  | run c around =>
    obtain ⟨session, stage, ahead, leaves, hc, hstage⟩ := hends
    simp only [endsNone, hc] at h
    obtain ⟨rfl, -⟩ | ⟨rfl, -⟩ := hstage
    · cases h
    · cases h
  | close c => cases h
  | watchdog => cases h
  | shutdown => cases h
  | connect c => exact hends.elim
  | request c r => exact hends.elim
  | hangUp c => exact hends.elim
  | elapse d => exact hends.elim
  | started d ok limits zeroOffset => exact hends.elim
  | armLoop exited => exact hends.elim
  | feedback real => exact hends.elim

/-- A session enables the arm. -/
def enableArm (c : ℕ) (session : String) : List Label :=
  [.request c ⟨some session, .device (.arm .enable) none⟩, .run c calm, .run c calm, .run c calm,
    .run c calm, .run c calm, .run c calm]

/-- The step may end a lease only when no act of two connections is in flight. -/
def finishes (act : Stage → Bool) (s : Server env) (l : Label) : Bool :=
  endsNone s l || decide (∀ c : ℕ, c < 2 → ¬ InFlight act s c)

theorem letsFinish_of_finishes {act : Stage → Bool} (cfg : Settings) {s : Server env} {l : Label}
    (hs : s.UsesBelow 2) (h : finishes act s l = true) : LetsFinish cfg act s l := by
  intro hends c hflight
  obtain h | h := Bool.or_eq_true_iff.mp h
  · exact (not_endsLease_of_endsNone cfg s l h hends).elim
  · exact (hs.not_between (of_decide_eq_true h) c hflight).elim

/-- A session gives its lease back. -/
def giveBack (c : ℕ) (session : String) : List Label :=
  [.request c ⟨some session, .releaseLease⟩, .run c calm, .run c calm]

/-- A run with a command that is executed, and with the end of the lease. -/
theorem executesUnderLease_sample :
    Runs.Throughout (step sampleSettings) ExecutesUnderLease
      (initial ConfigStore.sampleStore 100 sampleReal)
      (takeControl 0 "first" ++ enableArm 0 "first" ++ giveBack 0 "first") :=
  executesUnderLease_of_letsFinish _ _ _
    (meets_of_passes_below (fun _ _ => letsFinish_of_finishes sampleSettings) (fun _ _ => rfl)
      (by decide +kernel))

end Server

end Network

end JointController
