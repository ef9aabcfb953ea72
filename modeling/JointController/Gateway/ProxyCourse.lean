import JointController.Gateway.CommandProxy

/-!
# The course of a request to the command proxy

What each callback of a proxy has gone through is noted beside it: what its checks have looked at,
and how its native calls have ended.

* `LiftFeedback.Ready`, `LiftFeedback.Powered`: what the feedback shows when the lift may be powered
  or moved, with `liftCommandPreconditionsMet_eq_ok` and `liftMotionPreconditionsMet_eq_ok`.
* `Course`: what a request has gone through.
* `Sends`: what a request to a native service has behind it.
* `Answered`: what a response has behind it.  The lift counts as powered when a newer status shows
  it, and an enable that is not confirmed is taken back.
* `Agrees`: what holds in each phase, with `goes_advance` and `goes_returned` for the steps.
-/

open Checks

namespace JointController

namespace Gateway

namespace Proxy

open LiftStatusParser

/-! ## The checks -/

/-- The driver reports a working link and nothing that blocks the motion. -/
structure Clear (status : LiftDriverStatus) : Prop where
  recovered : status.communicationRecovered = true
  unblocked : status.reasons = []

/-- All feedback is fresh, the workspace is running, the driver reports nothing that blocks the
motion, and the controller is not in a fault. -/
structure LiftFeedback.Ready (cfg : LiftParameters) (f : LiftFeedback) (now : ℤ) : Prop where
  driver : f.driver.fresh now (Power.milliseconds cfg.statusStaleMs) = true
  control : f.control.fresh now (Power.milliseconds cfg.statusStaleMs) = true
  joint : f.joint.fresh now (Power.milliseconds cfg.jointStateStaleMs) = true
  running : f.workspaceState = some .running
  clear : Clear f.driver.value
  mode : f.control.value.mode ≠ "fault" ∧ f.control.value.mode ≠ "estop"

/-- The workspace is running, and the driver reports the drive enabled and its brake released. -/
structure LiftFeedback.Powered (f : LiftFeedback) : Prop where
  running : f.workspaceState = some .running
  clear : Clear f.driver.value
  powered : f.driver.value.liftPowerStateMatches true = true

theorem workspaceRunning_iff {f : LiftFeedback} :
    f.workspaceRunning = true ↔ f.workspaceState = some .running := by
  unfold LiftFeedback.workspaceRunning
  exact beq_iff_eq

/-- What blocks the motion is among the reasons. -/
theorem blocked_of_reasons_eq_nil {status : LiftDriverStatus} (h : status.reasons = []) :
    ¬ (status.estopLatched = true ∨ status.quickStopActive = true ∨
      status.evaluateLiftSafety.fault = true ∨ status.evaluateLiftSafety.motionBlocked = true) := by
  have hblocked : status.evaluateLiftSafety.motionBlocked = false := by
    unfold LiftDriverStatus.evaluateLiftSafety
    rw [h]
    rfl
  unfold LiftDriverStatus.reasons at h
  simp only [List.append_eq_nil_iff, ite_eq_right_iff, reduceCtorEq, imp_false,
    Bool.not_eq_true] at h
  obtain ⟨⟨⟨⟨hfault, -⟩, hestop⟩, hquickStop⟩, -⟩ := h
  have hsafety : status.evaluateLiftSafety.fault = false := hfault
  rw [hestop, hquickStop, hsafety, hblocked]
  simp

theorem liftEnablePreconditionsMet_eq_ok {status : LiftDriverStatus} {running : Bool} :
    status.liftEnablePreconditionsMet running = .ok () ↔ running = true ∧ Clear status := by
  unfold LiftDriverStatus.liftEnablePreconditionsMet
  simp only [Checks.bind_eq_ok, refuse_eq_ok, not_not]
  constructor
  · rintro ⟨hrunning, hfresh, hoperational, hcounter, hinitialized, hsafety⟩
    refine ⟨hrunning, ?_, ?_⟩
    · unfold LiftDriverStatus.communicationRecovered
      rw [hfresh, hoperational, hcounter, hinitialized]
      rfl
    · by_contra hreasons
      refine hsafety (.inr (.inr (.inr ?_)))
      unfold LiftDriverStatus.evaluateLiftSafety
      simpa using hreasons
  · rintro ⟨hrunning, hclear⟩
    have hrecovered := hclear.recovered
    unfold LiftDriverStatus.communicationRecovered at hrecovered
    simp only [Bool.and_eq_true] at hrecovered
    obtain ⟨⟨⟨hfresh, hoperational⟩, hcounter⟩, hinitialized⟩ := hrecovered
    exact ⟨hrunning, hfresh, hoperational, hcounter, hinitialized,
      blocked_of_reasons_eq_nil hclear.unblocked⟩

theorem liftMotionPreconditionsMet_eq_ok {f : LiftFeedback} :
    f.driver.value.liftMotionPreconditionsMet f.workspaceRunning = .ok () ↔ f.Powered := by
  unfold LiftDriverStatus.liftMotionPreconditionsMet
  simp only [Checks.bind_eq_ok, refuse_eq_ok, not_not, liftEnablePreconditionsMet_eq_ok,
    workspaceRunning_iff]
  exact ⟨fun h => ⟨h.1.1, h.1.2, h.2⟩, fun h => ⟨⟨h.running, h.clear⟩, h.powered⟩⟩

theorem liftCommandPreconditionsMet_eq_ok {cfg : LiftParameters} {f : LiftFeedback} {now : ℤ} :
    f.liftCommandPreconditionsMet cfg now = .ok () ↔ f.Ready cfg now := by
  have hfresh : f.driver.fresh now (Power.milliseconds cfg.statusStaleMs) = true ↔
      (f.driver.received = true ∧ f.driver.valid = true) ∧
        ¬ f.driver.Late now (Power.milliseconds cfg.statusStaleMs) := by
    unfold Channel.fresh
    simp only [Bool.and_eq_true, decide_eq_true_eq]
  unfold LiftFeedback.liftCommandPreconditionsMet
  simp only [Checks.bind_eq_ok, refuse_eq_ok, not_or, not_not, liftEnablePreconditionsMet_eq_ok,
    workspaceRunning_iff]
  constructor
  · rintro ⟨hvalid, hlate, hcontrol, hjoint, ⟨hrunning, hclear⟩, hmode⟩
    exact ⟨hfresh.mpr ⟨hvalid, hlate⟩, hcontrol, hjoint, hrunning, hclear, hmode⟩
  · intro h
    obtain ⟨hvalid, hlate⟩ := hfresh.mp h.driver
    exact ⟨hvalid, hlate, h.control, h.joint, ⟨h.running, h.clear⟩, h.mode⟩

/-- A check that fails says why. -/
def Speaks (x : Except String Unit) : Prop := ∀ error, x = .error error → error ≠ ""

theorem speaks_refuse {c : Prop} [Decidable c] {text : String} (h : text ≠ "") :
    Speaks (refuse c text) := by
  intro error heq
  unfold refuse at heq
  split_ifs at heq
  cases heq
  exact h

theorem Speaks.bind {x y : Except String Unit} (hx : Speaks x) (hy : Speaks y) :
    Speaks (x >>= fun _ => y) := by
  intro error heq
  cases x with
  | ok u => exact hy error heq
  | error e => exact hx error heq

theorem speaks_liftCommandPreconditionsMet (cfg : LiftParameters) (f : LiftFeedback) (now : ℤ) :
    Speaks (f.liftCommandPreconditionsMet cfg now) := by
  have henable : Speaks (f.driver.value.liftEnablePreconditionsMet f.workspaceRunning) := by
    unfold LiftDriverStatus.liftEnablePreconditionsMet
    refine (speaks_refuse (by decide)).bind <| (speaks_refuse (by decide)).bind <|
      (speaks_refuse (by decide)).bind <| (speaks_refuse (by decide)).bind <|
      (speaks_refuse (by decide)).bind <| speaks_refuse ?_
    split_ifs with hempty
    · decide
    · exact hempty
  unfold LiftFeedback.liftCommandPreconditionsMet
  exact (speaks_refuse (by decide)).bind <| (speaks_refuse (by decide)).bind <|
    (speaks_refuse (by decide)).bind <| (speaks_refuse (by decide)).bind <|
    henable.bind <| speaks_refuse (by simp)

/-! ## The course of a request -/

section

variable {ι κ : Type}

/-- What was known when a callback looked at the generation of the status: the feedback, what its
checks had looked at, and its calls before. -/
structure Snapshot (κ : Type) where
  feedback : LiftFeedback
  looked : Option (LiftFeedback × ℤ)
  calls : List (Request κ × Outcome)

/-- What a request has gone through: what its checks have looked at, what it knew before its last
call, the requests that it has sent to native services, and how its calls have ended, the last one
first. -/
structure Course (κ : Type) where
  request : Option (Request κ)
  looked : Option (LiftFeedback × ℤ)
  examined : Option LiftFeedback
  snapshot : Option (Snapshot κ)
  sent : List (Request κ)
  calls : List (Request κ × Outcome)

namespace Course

variable (f : LiftFeedback) (now : ℤ) (course : Course κ)

/-- Nothing has happened yet. -/
def fresh : Course κ := ⟨none, none, none, none, [], []⟩

/-- The course after a step that does not depend on a native service. -/
def look : Phase κ → Course κ
  | .enabling | .recovering _ | .commanded _ => { course with looked := some (f, now) }
  | .examined _ => { course with examined := some f }
  | .snapping _ _ | .failed _ => { course with snapshot := some ⟨f, course.looked, course.calls⟩ }
  | _ => course

/-- A request is sent. -/
def send (call : Request κ) : Course κ := { course with sent := call :: course.sent }

/-- A call has ended. -/
def call (call : Request κ) (outcome : Outcome) : Course κ :=
  { course with calls := (call, outcome) :: course.calls }

/-- The course after the wait for a service. -/
def reach (failure : Option CallFailure) : Phase κ → Course κ
  | .reaching call _ =>
    match failure with
    | none => course.send call
    | some failure => course.call call (.error failure)
  | _ => course

/-- The course after the wait for a response. -/
def answer (outcome : Outcome) : Phase κ → Course κ
  | .awaiting call _ => course.call call outcome
  | _ => course

/-- The course after a step of its callback. -/
def note (phase : Phase κ) : ProxyLabel ι κ → Course κ
  | .request _ request => { fresh with request := some request }
  | .advance _ _ => course.look f now phase
  | .reach _ failure => course.reach failure phase
  | .answer _ outcome => course.answer outcome phase
  | _ => course

end Course

/-- The courses after a step. -/
def noteProxy [DecidableEq ι] (cfg : ProxyParameters) (s : ProxyNode ι κ) (l : ProxyLabel ι κ)
    (courses : ι → Course κ) : ι → Course κ :=
  match s.serve cfg l with
  | some (i, _) =>
    Function.update courses i ((courses i).note s.feedback s.now (s.callbacks i).phase l)
  | none => courses

/-- A newer status shows the lift powered, or not powered. -/
structure LiftFeedback.ShownSince (f earlier : LiftFeedback) (enabled : Bool) : Prop where
  newer : earlier.driverStatusGeneration < f.driverStatusGeneration
  valid : f.driver.valid = true
  shown : f.driver.value.liftPowerStateMatches enabled = true

variable (cfg : ProxyParameters) (f : LiftFeedback) (course : Course κ)

/-- The checks have found the lift ready. -/
def LookedReady (looked : Option (LiftFeedback × ℤ)) : Prop :=
  ∃ look, looked = some look ∧ look.1.Ready cfg.toLiftParameters look.2

/-- At most a STOP has cleared a fault. -/
def Recovered (calls : List (Request κ × Outcome)) : Prop :=
  calls = [] ∨ ∃ response, calls = [(.liftStop, .ok response)]

/-- The last call has powered the lift. -/
def PowerAccepted (calls : List (Request κ × Outcome)) : Prop :=
  ∃ response before, calls = (.liftPower true, .ok response) :: before ∧
    response.success = true ∧ Recovered before

/-- The last call has powered the lift, after checks that have found it ready, and a look at the
status. -/
structure EnableAccepted (snapshot : Snapshot κ) : Prop where
  accepted : ∃ response, course.calls = (.liftPower true, .ok response) :: snapshot.calls ∧
    response.success = true
  recovered : Recovered snapshot.calls
  known : course.snapshot = some snapshot
  ready : LookedReady cfg snapshot.looked

/-- After a HOLD and a look at the status the lift was disabled, and then a STOP was called. -/
structure DisableAccepted (snapshot : Snapshot κ) : Prop where
  accepted : ∃ held response stopped, response.success = true ∧
    course.calls = [(.liftStop, stopped), (.liftPower false, .ok response), (.liftHold, held)] ∧
    snapshot.calls = [(.liftHold, held)]
  known : course.snapshot = some snapshot

/-- No call has powered the lift. -/
def EnableRefused (calls : List (Request κ × Outcome)) : Prop :=
  ∀ response, (.liftPower true, .ok response) ∈ calls → response.success = false

/-- After a HOLD the call that disables the lift has failed. -/
def DisableRefused (calls : List (Request κ × Outcome)) : Prop :=
  ∃ held outcome, outcome.accepted = false ∧
    calls = [(.liftPower false, outcome), (.liftHold, held)]

/-- After the lift was powered it was disabled, and then a STOP was called. -/
def RolledBack (calls : List (Request κ × Outcome)) : Prop :=
  ∃ stopped back before, calls = (.liftStop, stopped) :: (.liftPower false, back) :: before ∧
    PowerAccepted before

/-- The response to an enable. -/
structure EnableAnswered (response : Response) : Prop where
  confirmed : response.success = true ↔
    ∃ snapshot, EnableAccepted cfg course snapshot ∧ f.ShownSince snapshot.feedback true
  failed : response.success = false → EnableRefused course.calls ∨ RolledBack course.calls

/-- The response to a disable. -/
structure DisableAnswered (response : Response) : Prop where
  confirmed : response.success = true ↔
    ∃ snapshot, DisableAccepted course snapshot ∧ f.ShownSince snapshot.feedback false
  called : DisableRefused course.calls ∨ ∃ snapshot, DisableAccepted course snapshot

/-- The response of a proxy that makes one call. -/
def relayed (call : Request κ) : Outcome → Response
  | .ok response => response
  | .error failure => call.unanswered (failure.text (cfg.nativeServices call.service))

/-- The one call of a request has come to its response. -/
def Relayed (call : Request κ) (response : Response) : Prop :=
  ∃ outcome, course.calls = [(call, outcome)] ∧ response = relayed cfg call outcome

/-- What a response has behind it. -/
def Answered (response : Response) : Prop :=
  match course.request with
  | none => False
  | some (.liftPower true) => EnableAnswered cfg f course response
  | some (.liftPower false) => DisableAnswered f course response
  | some (.liftCommand request) =>
    (course.calls = [] ∧ response.success = false) ∨
      Relayed cfg course (.liftCommand (nativeCommand cfg request)) response
  | some request => Relayed cfg course request response

/-- A command has valid values, and the lift was found ready and then powered. -/
structure CommandCleared (native : SelectedJointRequest) : Prop where
  request : ∃ request, course.request = some (.liftCommand request) ∧
    native = nativeCommand cfg request ∧
    liftCommandRequestValid request.jointNames request.values request.vel request.acc
      cfg.liftJointName = .ok ()
  ready : LookedReady cfg course.looked
  powered : ∃ examined, course.examined = some examined ∧ examined.Powered

/-- What a request to a native service has behind it. -/
def Sends : Request κ → Prop
  | .arm request => course.request = some (.arm request)
  | .liftPower true => course.request = some (.liftPower true) ∧ LookedReady cfg course.looked
  | .liftPower false => course.request = some (.liftPower false) ∨
    course.request = some (.liftPower true) ∧ PowerAccepted course.calls
  | .liftCommand native => CommandCleared cfg course native
  | .liftStop => course.request = some .liftStop ∨ ∃ data, course.request = some (.liftPower data)
  | .liftHold => course.request = some .liftHold ∨ course.request = some (.liftPower false)
  | .liftSetDriveZero => course.request = some .liftSetDriveZero
  | .liftHostZero => course.request = some .liftHostZero

/-! ## What holds in the phases -/

/-- No command has been sent. -/
def NoneOut : Prop := ∀ call ∈ course.sent, call.exclusive = false

/-- The call of a proxy itself. -/
def Forwards : Request κ → Prop
  | .liftCommand native => CommandCleared cfg course native
  | .liftPower _ => False
  | call => course.request = some call

/-- What holds while a call is made. -/
def AgreesCall (call : Request κ) : Purpose → Prop
  | .forward => course.calls = [] ∧ Forwards cfg course call
  | .recovery error => call = .liftStop ∧ course.request = some (.liftPower true) ∧
    course.calls = [] ∧ NoneOut course ∧ error ≠ ""
  | .hold => call = .liftHold ∧ course.request = some (.liftPower false) ∧ course.calls = []
  | .power true generation _ => call = .liftPower true ∧
    course.request = some (.liftPower true) ∧ Recovered course.calls ∧
    LookedReady cfg course.looked ∧
    ∃ g, course.snapshot = some ⟨g, course.looked, course.calls⟩ ∧
      generation = g.driverStatusGeneration
  | .power false generation _ => call = .liftPower false ∧
    course.request = some (.liftPower false) ∧ (∃ held, course.calls = [(.liftHold, held)]) ∧
    ∃ g, course.snapshot = some ⟨g, course.looked, course.calls⟩ ∧
      generation = g.driverStatusGeneration
  | .stop generation _ => call = .liftStop ∧ course.request = some (.liftPower false) ∧
    ∃ held response snapshot, response.success = true ∧
      course.calls = [(.liftPower false, .ok response), (.liftHold, held)] ∧
      snapshot.calls = [(.liftHold, held)] ∧ course.snapshot = some snapshot ∧
      generation = snapshot.feedback.driverStatusGeneration
  | .rollback _ _ => call = .liftPower false ∧ course.request = some (.liftPower true) ∧
    PowerAccepted course.calls
  | .rollbackStop _ _ back => call = .liftStop ∧ course.request = some (.liftPower true) ∧
    ∃ before, course.calls = (.liftPower false, back) :: before ∧ PowerAccepted before

/-- What holds while a power state is waited for. -/
def AgreesCheck : PowerCheck → Prop
  | .enable generation => course.request = some (.liftPower true) ∧
    ∃ snapshot, EnableAccepted cfg course snapshot ∧
      generation = snapshot.feedback.driverStatusGeneration
  | .disable generation _ _ => course.request = some (.liftPower false) ∧
    ∃ snapshot, DisableAccepted course snapshot ∧
      generation = snapshot.feedback.driverStatusGeneration
  | .rollback _ _ => course.request = some (.liftPower true) ∧ RolledBack course.calls

/-- What holds in a phase of a callback that is at work. -/
def Agrees : Phase κ → Prop
  | .idle => False
  | .enabling => course.request = some (.liftPower true) ∧ course.calls = [] ∧ NoneOut course
  | .recovering _ => course.request = some (.liftPower true) ∧ Recovered course.calls ∧
    NoneOut course
  | .snapping true _ => course.request = some (.liftPower true) ∧ Recovered course.calls ∧
    NoneOut course ∧ LookedReady cfg course.looked
  | .snapping false _ => course.request = some (.liftPower false) ∧
    ∃ held, course.calls = [(.liftHold, held)]
  | .commanded request => course.request = some (.liftCommand request) ∧ course.calls = [] ∧
    NoneOut course
  | .examined request => course.request = some (.liftCommand request) ∧ course.calls = [] ∧
    NoneOut course ∧ LookedReady cfg course.looked ∧
    liftCommandRequestValid request.jointNames request.values request.vel request.acc
      cfg.liftJointName = .ok ()
  | .failed _ => course.request = some (.liftPower true) ∧ PowerAccepted course.calls
  | .reaching call purpose => AgreesCall cfg course call purpose ∧
    (call.exclusive = true → NoneOut course)
  | .awaiting call purpose => AgreesCall cfg course call purpose
  | .confirming check | .waiting check _ => AgreesCheck cfg course check

/-- What a step of a callback comes to. -/
structure Goes (next : Next κ) : Prop where
  phase : next.response = none → Agrees cfg course next.phase
  response : ∀ response, next.response = some response → Answered cfg f course response
  quiet : next.sent = none

variable {cfg f course} {call : Request κ} {calls : List (Request κ × Outcome)}

/-! ## Steps of a callback -/

theorem goes_quietly {phase : Phase κ} (h : Agrees cfg course phase) :
    Goes cfg f course phase.quietly :=
  ⟨fun _ => h, (fun _ hresponse => by cases hresponse), rfl⟩

theorem goes_respond {response : Response} (h : Answered cfg f course response) :
    Goes cfg f course (respond response) := by
  refine ⟨(fun hnone => by cases hnone), fun _ hresponse => ?_, rfl⟩
  cases hresponse
  exact h

/-- A failed enable. -/
theorem answered_enable_failed {message : String}
    (hrequest : course.request = some (.liftPower true))
    (hnot : ∀ snapshot, EnableAccepted cfg course snapshot → ¬ f.ShownSince snapshot.feedback true)
    (hfailed : EnableRefused course.calls ∨ RolledBack course.calls) :
    Answered cfg f course (.plain false message) := by
  unfold Answered
  rw [hrequest]
  refine ⟨⟨(fun h => nomatch h), ?_⟩, fun _ => hfailed⟩
  rintro ⟨snapshot, haccepted, hshown⟩
  exact absurd hshown (hnot snapshot haccepted)

/-- A disable. -/
theorem answered_disable {success : Bool} {message : String}
    (hrequest : course.request = some (.liftPower false))
    (hconfirmed : success = true ↔
      ∃ snapshot, DisableAccepted course snapshot ∧ f.ShownSince snapshot.feedback false)
    (hcalled : DisableRefused course.calls ∨ ∃ snapshot, DisableAccepted course snapshot) :
    Answered cfg f course (.plain success message) := by
  unfold Answered
  rw [hrequest]
  exact ⟨hconfirmed, hcalled⟩

theorem recovered_refused (h : Recovered calls) : EnableRefused calls := by
  rintro response hmem
  obtain rfl | ⟨_, rfl⟩ := h
  · cases hmem
  · rw [List.mem_singleton] at hmem
    cases hmem

/-- An enable whose last call was another one was not accepted last. -/
theorem not_enableAccepted {snapshot : Snapshot κ} {outcome : Outcome}
    {before : List (Request κ × Outcome)} (hcalls : course.calls = (call, outcome) :: before)
    (hne : call = .liftPower true → outcome.accepted = false) :
    ¬ EnableAccepted cfg course snapshot := by
  intro h
  obtain ⟨response, haccepted, hsuccess⟩ := h.accepted
  rw [hcalls] at haccepted
  cases haccepted
  have hrefused : response.success = false := hne rfl
  rw [hsuccess] at hrefused
  cases hrefused

theorem not_enableAccepted_of_nil {snapshot : Snapshot κ} (hcalls : course.calls = []) :
    ¬ EnableAccepted cfg course snapshot := by
  intro h
  obtain ⟨response, haccepted, -⟩ := h.accepted
  rw [hcalls] at haccepted
  cases haccepted

/-- The calls of an enable that was refused before its call. -/
theorem not_enableAccepted_of_recovered {snapshot : Snapshot κ} (h : Recovered course.calls) :
    ¬ EnableAccepted cfg course snapshot := by
  obtain hcalls | ⟨response, hcalls⟩ := h
  · exact not_enableAccepted_of_nil hcalls
  · exact not_enableAccepted hcalls fun heq => by cases heq

/-- The checks of an enable are over. -/
theorem goes_afterChecks {error : String} (hrequest : course.request = some (.liftPower true))
    (hcalls : EnableRefused course.calls)
    (hnot : ∀ snapshot, ¬ EnableAccepted cfg course snapshot)
    (hpassed : error = "" → Recovered course.calls ∧ NoneOut course ∧
      LookedReady cfg course.looked) :
    Goes cfg f course (afterChecks error) := by
  unfold afterChecks
  split_ifs with herror
  · obtain ⟨hrecovered, hout, hready⟩ := hpassed herror
    exact goes_quietly ⟨hrequest, hrecovered, hout, hready⟩
  · exact goes_respond (answered_enable_failed hrequest
      (fun snapshot haccepted => absurd haccepted (hnot snapshot)) (.inl hcalls))

/-- The outcome of the call of a proxy itself. -/
theorem goes_forward {now : ℤ} {outcome : Outcome} (h : AgreesCall cfg course call .forward) :
    Goes cfg f (course.call call outcome) (returned cfg now call outcome .forward) := by
  obtain ⟨hcalls, hforwards⟩ := h
  have hrelayed : Relayed cfg (course.call call outcome) call (relayed cfg call outcome) := by
    refine ⟨outcome, ?_, rfl⟩
    unfold Course.call
    rw [hcalls]
  have hanswered : Answered cfg f (course.call call outcome) (relayed cfg call outcome) := by
    have hsame : (course.call call outcome).request = course.request := rfl
    unfold Answered
    cases call with
    | liftPower data => exact absurd hforwards not_false
    | liftCommand native =>
      obtain ⟨request, hrequest, rfl, -⟩ := hforwards.request
      rw [hsame, hrequest]
      exact .inr hrelayed
    | _ =>
      rw [hsame, show course.request = _ from hforwards]
      exact hrelayed
  unfold returned
  cases outcome with
  | ok response => exact goes_respond hanswered
  | error failure => exact goes_respond hanswered

/-- The outcome of a native call. -/
theorem goes_returned {now : ℤ} {purpose : Purpose} {outcome : Outcome}
    (h : AgreesCall cfg course call purpose) :
    Goes cfg f (course.call call outcome) (returned cfg now call outcome purpose) := by
  cases purpose with
  | forward => exact goes_forward h
  | recovery error =>
    obtain ⟨rfl, hrequest, hcalls, hout, herror⟩ := h
    have hstop : (course.call .liftStop outcome).calls = [(.liftStop, outcome)] :=
      congrArg (_ :: ·) hcalls
    unfold returned
    cases outcome with
    | ok response => exact goes_quietly ⟨hrequest, .inr ⟨response, hstop⟩, hout⟩
    | error failure =>
      refine goes_afterChecks hrequest ?_ ?_ fun hempty => absurd hempty herror
      · intro response hmem
        rw [hstop, List.mem_singleton] at hmem
        cases hmem
      · intro snapshot
        exact not_enableAccepted hstop fun heq => by cases heq
  | hold =>
    obtain ⟨rfl, hrequest, hcalls⟩ := h
    exact goes_quietly ⟨hrequest, outcome, congrArg (_ :: ·) hcalls⟩
  | power data generation holdWarning =>
    cases data with
    | true =>
      obtain ⟨rfl, hrequest, hrecovered, hready, g, hknown, hgeneration⟩ := h
      have hcall : (course.call (.liftPower true) outcome).calls =
          (.liftPower true, outcome) :: course.calls := rfl
      unfold returned
      split_ifs with haccepted
      · cases outcome with
        | error failure => cases haccepted
        | ok response =>
          exact goes_quietly ⟨hrequest, _,
            ⟨⟨response, hcall, haccepted⟩, hrecovered, hknown, hready⟩, hgeneration⟩
      · refine goes_respond (answered_enable_failed hrequest (fun snapshot h => ?_) (.inl ?_))
        · exact absurd h (not_enableAccepted hcall fun _ => Bool.eq_false_iff.mpr haccepted)
        · intro response hmem
          rw [hcall, List.mem_cons] at hmem
          obtain heq | hmem := hmem
          · cases heq
            exact Bool.eq_false_iff.mpr haccepted
          · exact recovered_refused hrecovered response hmem
    | false =>
      obtain ⟨rfl, hrequest, ⟨held, hcalls⟩, g, hknown, hgeneration⟩ := h
      have hcall : (course.call (.liftPower false) outcome).calls =
          [(.liftPower false, outcome), (.liftHold, held)] := congrArg (_ :: ·) hcalls
      unfold returned
      split_ifs with haccepted
      · cases outcome with
        | error failure => cases haccepted
        | ok response =>
          exact goes_quietly ⟨⟨rfl, hrequest, held, response, _, haccepted, hcall, hcalls, hknown,
            hgeneration⟩, fun h => by cases h⟩
      · refine goes_respond (answered_disable hrequest ⟨(fun h => nomatch h), ?_⟩
          (.inl ⟨held, outcome, Bool.eq_false_iff.mpr haccepted, hcall⟩))
        rintro ⟨snapshot, haccepted', -⟩
        obtain ⟨_, _, _, -, hthree, -⟩ := haccepted'.accepted
        rw [hcall] at hthree
        cases hthree
  | stop generation holdWarning =>
    obtain ⟨rfl, hrequest, held, response, snapshot, hsuccess, hcalls, hbefore, hknown,
      hgeneration⟩ := h
    exact goes_quietly ⟨hrequest, snapshot, ⟨⟨held, response, outcome, hsuccess,
      congrArg (_ :: ·) hcalls, hbefore⟩, hknown⟩, hgeneration⟩
  | rollback generation feedback =>
    obtain ⟨rfl, hrequest, hpower⟩ := h
    have hagrees : Agrees cfg (course.call (.liftPower false) outcome)
        (.reaching .liftStop (.rollbackStop generation feedback outcome)) :=
      ⟨⟨rfl, hrequest, course.calls, rfl, hpower⟩, fun h => by cases h⟩
    exact goes_quietly hagrees
  | rollbackStop generation feedback back =>
    obtain ⟨rfl, hrequest, before, hcalls, hpower⟩ := h
    have hrolled : RolledBack (course.call .liftStop outcome).calls :=
      ⟨outcome, back, before, congrArg (_ :: ·) hcalls, hpower⟩
    have hsame : (course.call .liftStop outcome).request = some (.liftPower true) := hrequest
    unfold returned
    dsimp only
    split_ifs with haccepted
    · exact goes_quietly ⟨hsame, hrolled⟩
    · refine goes_respond (answered_enable_failed hsame (fun snapshot h => ?_) (.inr hrolled))
      have hlast : (course.call .liftStop outcome).calls =
          (.liftStop, outcome) :: course.calls := rfl
      exact absurd h (not_enableAccepted hlast fun heq => by cases heq)

theorem reason_eq_empty {x : Except String Unit} (h : Speaks x) : reason x = "" ↔ x = .ok () := by
  cases x with
  | ok u => exact ⟨fun _ => rfl, fun _ => rfl⟩
  | error e => exact ⟨fun heq => absurd heq (h e rfl), fun heq => by cases heq⟩

/-- The checks of an enable. -/
theorem goes_checkEnable {now : ℤ} {stopReady : Bool}
    (hrequest : course.request = some (.liftPower true)) (hcalls : course.calls = [])
    (hout : NoneOut course) :
    Goes cfg f { course with looked := some (f, now) } (checkEnable cfg f now stopReady) := by
  have hspeaks := speaks_liftCommandPreconditionsMet cfg.toLiftParameters f now
  unfold checkEnable
  split
  · rename_i hok
    have hready := liftCommandPreconditionsMet_eq_ok.mp hok
    exact goes_quietly ⟨hrequest, .inl hcalls, hout, _, rfl, hready⟩
  · rename_i error herror
    have hne := hspeaks error herror
    split_ifs
    · exact goes_quietly ⟨⟨rfl, hrequest, hcalls, hout, hne⟩, fun h => by cases h⟩
    · refine goes_afterChecks hrequest (recovered_refused (.inl hcalls)) (fun snapshot => ?_)
        fun hempty => absurd hempty hne
      exact not_enableAccepted_of_nil hcalls

/-- The repeated checks of an enable. -/
theorem goes_recovered {now : ℤ} (hrequest : course.request = some (.liftPower true))
    (hrecovered : Recovered course.calls) (hout : NoneOut course) :
    Goes cfg f { course with looked := some (f, now) }
      (afterChecks (reason (f.liftCommandPreconditionsMet cfg.toLiftParameters now))) := by
  have hspeaks := speaks_liftCommandPreconditionsMet cfg.toLiftParameters f now
  refine goes_afterChecks hrequest (recovered_refused hrecovered) (fun snapshot => ?_)
    fun hempty => ⟨hrecovered, hout, _, rfl, ?_⟩
  · exact not_enableAccepted_of_recovered hrecovered
  · exact liftCommandPreconditionsMet_eq_ok.mp ((reason_eq_empty hspeaks).mp hempty)

theorem answered_command_refused {request : SelectedJointRequest} {message : String}
    (hrequest : course.request = some (.liftCommand request)) (hcalls : course.calls = []) :
    Answered cfg f course (.plain false message) := by
  unfold Answered
  rw [hrequest]
  exact .inl ⟨hcalls, rfl⟩

theorem shownSince_iff {earlier : LiftFeedback} {enabled : Bool} :
    f.matchesPowerState enabled earlier.driverStatusGeneration = true ↔
      f.ShownSince earlier enabled := by
  unfold LiftFeedback.matchesPowerState
  simp only [Bool.and_eq_true, decide_eq_true_eq]
  exact ⟨fun h => ⟨h.1.1, h.1.2, h.2⟩, fun h => ⟨⟨h.newer, h.valid⟩, h.shown⟩⟩

/-- A look at the snapshot that an enable knows. -/
theorem EnableAccepted.unique {snapshot snapshot' : Snapshot κ}
    (h : EnableAccepted cfg course snapshot) (h' : EnableAccepted cfg course snapshot') :
    snapshot = snapshot' := Option.some_inj.mp (h.known.symm.trans h'.known)

theorem DisableAccepted.unique {snapshot snapshot' : Snapshot κ}
    (h : DisableAccepted course snapshot) (h' : DisableAccepted course snapshot') :
    snapshot = snapshot' := Option.some_inj.mp (h.known.symm.trans h'.known)

theorem RolledBack.not_enableAccepted {snapshot : Snapshot κ} (h : RolledBack course.calls) :
    ¬ EnableAccepted cfg course snapshot := by
  obtain ⟨stopped, back, before, hcalls, -⟩ := h
  exact Proxy.not_enableAccepted hcalls fun heq => by cases heq

/-- A wait has found its power state. -/
theorem goes_confirmed {check : PowerCheck} (h : AgreesCheck cfg course check)
    (hshown : f.matchesPowerState check.enabled check.generation = true) :
    Goes cfg f course (confirmed f check) := by
  cases check with
  | enable generation =>
    obtain ⟨hrequest, snapshot, haccepted, hgeneration⟩ := h
    refine goes_respond ?_
    unfold Answered
    rw [hrequest]
    refine ⟨⟨fun _ => ⟨snapshot, haccepted, shownSince_iff.mp ?_⟩, fun _ => rfl⟩,
      (fun hfailed => nomatch hfailed)⟩
    rw [← hgeneration]
    exact hshown
  | disable generation holdWarning stopWarning =>
    obtain ⟨hrequest, snapshot, haccepted, hgeneration⟩ := h
    refine goes_respond (answered_disable hrequest
      ⟨fun _ => ⟨snapshot, haccepted, shownSince_iff.mp ?_⟩, fun _ => rfl⟩
      (.inr ⟨snapshot, haccepted⟩))
    rw [← hgeneration]
    exact hshown
  | rollback generation feedback =>
    obtain ⟨hrequest, hrolled⟩ := h
    exact goes_respond (answered_enable_failed hrequest
      (fun snapshot haccepted => absurd haccepted hrolled.not_enableAccepted) (.inr hrolled))

/-- A wait has ended without its power state. -/
theorem goes_unconfirmed {check : PowerCheck} (h : AgreesCheck cfg course check)
    (hshown : ¬ f.matchesPowerState check.enabled check.generation = true) :
    Goes cfg f course (unconfirmed f check) := by
  cases check with
  | enable generation =>
    obtain ⟨hrequest, snapshot, haccepted, -⟩ := h
    obtain ⟨response, hcalls, hsuccess⟩ := haccepted.accepted
    exact goes_quietly ⟨hrequest, response, _, hcalls, hsuccess, haccepted.recovered⟩
  | disable generation holdWarning stopWarning =>
    obtain ⟨hrequest, snapshot, haccepted, hgeneration⟩ := h
    refine goes_respond (answered_disable hrequest ⟨(fun h => nomatch h), ?_⟩
      (.inr ⟨snapshot, haccepted⟩))
    rintro ⟨snapshot', haccepted', hshown'⟩
    obtain rfl := haccepted.unique haccepted'
    refine absurd ?_ hshown
    rw [show (PowerCheck.disable generation holdWarning stopWarning).generation = generation
      from rfl, hgeneration]
    exact shownSince_iff.mpr hshown'
  | rollback generation feedback =>
    obtain ⟨hrequest, hrolled⟩ := h
    exact goes_respond (answered_enable_failed hrequest
      (fun snapshot haccepted => absurd haccepted hrolled.not_enableAccepted) (.inr hrolled))

/-- A step that does not depend on a native service. -/
theorem goes_advance {now : ℤ} {stopReady : Bool} {phase : Phase κ} {next : Next κ}
    (hagrees : Agrees cfg course phase) (h : advance cfg f now stopReady phase = some next) :
    Goes cfg f (course.look f now phase) next := by
  cases phase with
  | enabling =>
    cases h
    exact goes_checkEnable hagrees.1 hagrees.2.1 hagrees.2.2
  | recovering time =>
    unfold advance at h
    dsimp only at h
    split_ifs at h
    cases h
    exact goes_recovered hagrees.1 hagrees.2.1 hagrees.2.2
  | snapping data holdWarning =>
    cases h
    cases data with
    | true =>
      obtain ⟨hrequest, hrecovered, hout, hready⟩ := hagrees
      have hcall : AgreesCall cfg (course.look f now (.snapping true holdWarning))
          (.liftPower true) (.power true f.driverStatusGeneration holdWarning) :=
        ⟨rfl, hrequest, hrecovered, hready, f, rfl, rfl⟩
      exact goes_quietly ⟨hcall, fun _ => hout⟩
    | false =>
      obtain ⟨hrequest, hheld⟩ := hagrees
      have hcall : AgreesCall cfg (course.look f now (.snapping false holdWarning))
          (.liftPower false) (.power false f.driverStatusGeneration holdWarning) :=
        ⟨rfl, hrequest, hheld, f, rfl, rfl⟩
      exact goes_quietly ⟨hcall, fun hexclusive => by cases hexclusive⟩
  | commanded request =>
    obtain ⟨hrequest, hcalls, hout⟩ := hagrees
    unfold advance at h
    dsimp only at h
    split at h
    · cases h
      exact goes_respond (answered_command_refused hrequest hcalls)
    · rename_i hok
      cases h
      unfold checkCommand at hok
      obtain ⟨hvalid, hready⟩ := Checks.bind_eq_ok.mp hok
      exact goes_quietly ⟨hrequest, hcalls, hout,
        ⟨_, rfl, liftCommandPreconditionsMet_eq_ok.mp hready⟩, hvalid⟩
  | examined request =>
    obtain ⟨hrequest, hcalls, hout, hready, hvalid⟩ := hagrees
    unfold advance at h
    dsimp only at h
    split at h
    · cases h
      exact goes_respond (answered_command_refused hrequest hcalls)
    · rename_i hok
      cases h
      have hcall : AgreesCall cfg (course.look f now (.examined request))
          (.liftCommand (nativeCommand cfg request)) .forward :=
        ⟨hcalls, ⟨request, hrequest, rfl, hvalid⟩, hready, f, rfl,
          liftMotionPreconditionsMet_eq_ok.mp hok⟩
      exact goes_quietly ⟨hcall, fun _ => hout⟩
  | failed feedback =>
    cases h
    have hcall : AgreesCall cfg (course.look f now (.failed feedback)) (.liftPower false)
        (.rollback f.driverStatusGeneration feedback) := ⟨rfl, hagrees.1, hagrees.2⟩
    exact goes_quietly ⟨hcall, fun hexclusive => by cases hexclusive⟩
  | confirming check =>
    cases h
    exact goes_quietly hagrees
  | waiting check deadline =>
    unfold advance at h
    dsimp only at h
    split_ifs at h with hshown
    · cases h
      exact goes_confirmed hagrees hshown
    · cases h
      exact goes_unconfirmed hagrees hshown
  | _ => cases h

end

end Proxy

end Gateway

end JointController
