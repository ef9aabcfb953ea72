import JointController.Gateway.FeedbackFrame
import JointController.Gateway.LiftSnapshot
import JointController.Hardware.StatusAgreement
import JointController.Library.Observers

/-!
# What stands behind a powered lift

The driver of the lift publishes a status text, the lower gateway reads it and publishes a status of
its own, and the Heavy gateway lets the lift follow on that status.  On its way a message may be
late, lost, doubled or overtaken.

* `LiftLine`, `LiftLine.step`: the driver, the lower gateway and the Heavy gateway, with the
  messages between them.
* `Report`, `Receipt`, `Passage`, `Arrival`, `Trail`: the course of a report from the driver on.
* `Traced`: the messages come from what the trail notes of them.
* `Vouches`: a report of a driver that may move.
* `PowerBacked`, `power_backed`: whoever takes the lift for powered has such a report.

The clock of each of the three runs for itself.
-/

open Runs

namespace JointController

open FlatJson Gateway Gateway.Proxy Gateway.LiftStatusParser Hardware

/-! ## The line -/

/-- The parameters of the three components.  The reader of the lower gateway finds every member in
the text of an object. -/
structure LineParameters where
  hardware : HardwareParameters
  format : NumberFormat
  parse : List Char → Except String Document
  faithful : Faithful parse
  proxy : Gateway.Proxy.LiftParameters
  print : Double → String
  heavy : Parameters

/-- The driver, the lower gateway with its clock and the Heavy gateway, and the messages that have
been published between them, the newest first. -/
structure LiftLine where
  hardware : LiftHardware
  texts : List (List Char)
  feedback : LiftFeedback
  now : ℤ
  statuses : List LiftSnapshot
  heavy : Gateway.System

namespace LiftLine

/-- A step of the line. -/
inductive Label where
  /-- A call of the driver, with what only its status text shows. -/
  | hardware (e : Hardware.Event) (shown : StatusCopies)
  /-- A status text arrives at the lower gateway, counted from the newest one. -/
  | deliverText (n : ℕ)
  | deliverControl (text : List Char)
  | deliverJoint (message : JointState)
  | deliverWorkspace (state : WorkspaceState)
  /-- The clock of the lower gateway goes on. -/
  | wait (d : ℕ)
  /-- The first look of the lower gateway's check for lift commands finds nothing against one. -/
  | look
  /-- The lower gateway publishes the lift status. -/
  | publish
  /-- A lift status arrives at the Heavy gateway, counted from the newest one. -/
  | deliverStatus (n now thread : ℕ)
  | heavy (l : Gateway.Label)

variable (k : LineParameters) (s : LiftLine)

/-- Nothing has happened yet. -/
def initial (positionM : ℚ) (now : ℤ) (startedAt : ℕ) : LiftLine where
  hardware := .initial k.hardware positionM
  texts := []
  feedback := .empty
  now := now
  statuses := []
  heavy := .init startedAt

/-- The text that a call of the driver publishes. -/
def published (shown : StatusCopies) : Hardware.Event → List (List Char)
  | .publishStatus now saveOk =>
    [(s.hardware.publishDriverStatus k.hardware k.format shown now saveOk).1]
  | _ => []

/-- A step of the Heavy gateway that no lift status causes. -/
def heavyStep (l : Gateway.Label) : Option LiftLine :=
  match l.action with
  | .sample (.liftStatus _) => none
  | _ => (Gateway.step k.heavy s.heavy l).map fun heavy => { s with heavy := heavy }

/-- One step of the line. -/
def step (s : LiftLine) : Label → Option LiftLine
  | .hardware e shown => (s.hardware.step k.hardware e).map fun hardware =>
    { s with hardware := hardware, texts := s.published k shown e ++ s.texts }
  | .deliverText n => s.texts[n]?.map fun text =>
    { s with feedback := s.feedback.receiveDriverStatus s.now (parseLiftDriverStatus k.parse text) }
  | .deliverControl text => some { s with
      feedback := s.feedback.receiveControlStatus s.now (parseLiftControlStatus k.parse text) }
  | .deliverJoint message =>
    some { s with feedback := s.feedback.receiveJointState k.proxy s.now message }
  | .deliverWorkspace state =>
    some { s with feedback := s.feedback.receiveWorkspaceStatus state }
  | .wait d => some { s with now := s.now + d }
  | .look =>
    if (s.feedback.liftCommandPreconditionsMet k.proxy s.now).isOk then some s else none
  | .publish => some { s with
      statuses := s.feedback.publishLiftSnapshot k.proxy s.now k.print :: s.statuses }
  | .deliverStatus n now thread => s.statuses[n]?.bind fun x =>
    (Gateway.step k.heavy s.heavy ⟨now, thread, .sample (.liftStatus x.status)⟩).map fun heavy =>
      { s with heavy := heavy }
  | .heavy l => s.heavyStep k l

/-! ## The course of a report -/

/-- The driver when it has published a text, and the time that it took for that. -/
structure Report where
  hardware : LiftHardware
  now : ℕ

/-- A report that the lower gateway has read, and when. -/
structure Receipt where
  report : Report
  time : ℤ

/-- A status of the lower gateway: the last report that had been read, and when it was published. -/
structure Passage where
  receipt : Option Receipt
  time : ℤ

/-- A status that has arrived at the Heavy gateway, and when. -/
structure Arrival where
  passage : Passage
  time : ℕ

/-- The reports behind the texts and the passages behind the statuses, the newest first, the last
report that could be read since the workspace came to a stop, the last status that has arrived since
a simulation was entered, and the last time at which a first look found nothing. -/
structure Trail where
  reports : List Report
  receipt : Option Receipt
  passages : List Passage
  arrival : Option Arrival
  looked : Option ℤ

namespace Trail

/-- Nothing has happened yet. -/
def fresh : Trail := ⟨[], none, [], none, none⟩

variable (k : LineParameters) (s : LiftLine) (trail : Trail)

/-- What is noted of a call of the driver. -/
def noteHardware : Hardware.Event → Trail
  | .publishStatus now saveOk => { trail with
      reports := ⟨s.hardware.completePendingZero k.hardware now saveOk, now⟩ :: trail.reports }
  | _ => trail

/-- What is noted of a text: its report, if it can be read. -/
def noteText (n : ℕ) : Trail :=
  if s.texts[n]?.any fun text => (parseLiftDriverStatus k.parse text).isOk then
    { trail with receipt := trail.reports[n]?.map fun r => ⟨r, s.now⟩ }
  else trail

/-- A sample with which the Heavy gateway enters a simulation. -/
def enters (f : FeedbackCache) : Sample → Bool
  | .workspace message => WorkspaceStatus.simulating message &&
      (!f.workspaceReceived || !WorkspaceStatus.simulating f.workspaceStatus)
  | _ => false

/-- What is noted of a step of the line. -/
def note : Label → Trail
  | .hardware e _ => trail.noteHardware k s e
  | .deliverText n => trail.noteText k s n
  | .deliverWorkspace state =>
    if state = .stopped ∧ s.feedback.workspaceState ≠ some .stopped then
      { trail with receipt := none }
    else trail
  | .look => { trail with looked := some s.now }
  | .publish => { trail with passages := ⟨trail.receipt, s.now⟩ :: trail.passages }
  | .deliverStatus n now _ =>
    { trail with arrival := trail.passages[n]?.map fun passage => ⟨passage, now⟩ }
  | .heavy l =>
    if (l.action.sample?.any fun sample => enters s.heavy.gateway.feedback sample) then
      { trail with arrival := none }
    else trail
  | _ => trail

end Trail

/-- The line with the trail of its reports. -/
abbrev trailed (k : LineParameters) : LiftLine × Trail → Label → Option (LiftLine × Trail) :=
  observed (step k) fun s l trail => trail.note k s l

/-! ## What stands behind it -/

/-- The report of a driver that may move: the drive was asked for and is enabled, its brake is
released, nothing was latched, and its feedback was fresh over a working link. -/
structure Vouches (k : LineParameters) (r : Report) : Prop where
  movable : r.hardware.Movable
  requested : r.hardware.effectiveEnableCommand = true
  fresh : r.hardware.publishedFresh k.hardware r.now = true
  operational : r.hardware.ethercatOperational = true
  workingCounter : r.hardware.workingCounterOk k.hardware = true

/-- The last report that could be read vouches, and is not older at a time than the time-out of the
lower gateway. -/
def ReceiptBacks (k : LineParameters) (receipt : Option Receipt) (now : ℤ) : Prop :=
  ∃ r, receipt = some r ∧ now - r.time ≤ Power.milliseconds k.proxy.statusStaleMs ∧
    Vouches k r.report

/-- The last status that arrived was published on such a report, and is not older than the time-out
of the Heavy gateway. -/
def ArrivalBacks (k : LineParameters) (arrival : Option Arrival) (now : ℕ) : Prop :=
  ∃ a, arrival = some a ∧ a.time ≤ now ∧ now - a.time ≤ k.heavy.feedbackFaultTimeout ∧
    ReceiptBacks k a.passage.receipt a.passage.time

/-- Whoever takes the lift for powered has the report of a driver that may move: the lower gateway
when it would let a lift command pass, the Heavy gateway when the lift counts as powered, and so
every FOLLOW_POSITION that it admits outside a simulation. -/
structure PowerBacked (k : LineParameters) (s : LiftLine × Trail) (l : Label) : Prop where
  lower : s.1.feedback.driverFresh k.proxy s.1.now = true → s.1.feedback.Powered →
    ReceiptBacks k s.2.receipt s.1.now
  /-- The second look of the lower gateway does not ask for the age again. -/
  second : ∀ time, s.2.looked = some time →
    s.1.feedback.driver.value.liftMotionPreconditionsMet s.1.feedback.workspaceRunning = .ok () →
    ReceiptBacks k s.2.receipt time
  heavy : ∀ now, liftPowerEnabledLocked k.heavy s.1.heavy.gateway.feedback now = true →
    ArrivalBacks k s.2.arrival now
  follow : ∀ now thread c arrival, l = .heavy ⟨now, thread, .admission⟩ →
    s.1.heavy.threads thread = .commanding c arrival → c.mode = Command.modeFollowPosition →
    s.1.heavy.gateway.feedback.workspaceStatus.mode ≠ .simulation →
    ((commandAdmit k.heavy s.1.heavy.gateway c arrival now).1 = .forwarded ∨
      (commandAdmit k.heavy s.1.heavy.gateway c arrival now).1 = .staged) →
    ArrivalBacks k s.2.arrival now

/-! ## What the messages say -/

section

variable {k : LineParameters} {f : LiftFeedback}

/-- A status agrees with the report, in which a released brake excludes a motion latch. -/
structure Backs (k : LineParameters) (r : Report) (status : LiftDriverStatus) : Prop where
  agrees : r.hardware.Agrees k.hardware r.now status
  clear : r.hardware.ReleasedClear k.hardware

/-- The driver shows an enabled drive with a released brake, and nothing that blocks the motion. -/
structure ShowsPowered (status : LiftDriverStatus) : Prop where
  clear : Clear status
  commandEnabled : status.commandEnabled = true
  enabled : status.enabled = true
  brakeUnlocked : status.brakeUnlocked = true
  operationEnabled : status.cia402State = "operation_enabled"

theorem operationEnabled_of_string {state : Cia402State}
    (h : ciaStateString state = "operation_enabled") : state = .operationEnabled := by
  cases state with
  | operationEnabled => rfl
  | _ => exact absurd h (by decide)

/-- A status that shows a powered lift comes from a driver that may move. -/
theorem Backs.vouches {r : Report} {status : LiftDriverStatus} (h : Backs k r status)
    (hshows : ShowsPowered status) : Vouches k r := by
  have hsafe := blocked_of_reasons_eq_nil hshows.clear.unblocked
  simp only [not_or, Bool.not_eq_true] at hsafe
  obtain ⟨hestop, -, hfault, -⟩ := hsafe
  have herror : status.errorCode = 0 := by
    simp only [LiftDriverStatus.evaluateLiftSafety, LiftDriverStatus.fault, Bool.or_eq_false_iff,
      bne_eq_false_iff_eq] at hfault
    exact hfault.2
  have hlink := hshows.clear.recovered
  simp only [LiftDriverStatus.communicationRecovered, Bool.and_eq_true] at hlink
  obtain ⟨⟨⟨hfresh, hoperational⟩, hcounter⟩, -⟩ := hlink
  have hreleased := h.agrees.brakeUnlocked.symm.trans hshows.brakeUnlocked
  refine ⟨?_, h.agrees.commandEnabled.symm.trans hshows.commandEnabled,
    h.agrees.feedbackFresh.symm.trans hfresh, h.agrees.ethercatOperational.symm.trans hoperational,
    h.agrees.workingCounterOk.symm.trans hcounter⟩
  exact
    { motionBlocked := (h.clear hreleased).1
      estopLatched := h.agrees.estopLatched.symm.trans hestop
      powerEnabled := h.agrees.enabled.symm.trans hshows.enabled
      brakeUnlocked := hreleased
      operationEnabled := operationEnabled_of_string
        (h.agrees.cia402State.symm.trans hshows.operationEnabled)
      errorCode := h.agrees.errorCode.symm.trans herror }

theorem showsPowered_of_powered (h : f.Powered) : ShowsPowered f.driver.value := by
  have hpowered := h.powered
  simp only [LiftDriverStatus.liftPowerStateMatches, if_true, Bool.and_eq_true,
    beq_iff_eq] at hpowered
  obtain ⟨-, ⟨⟨⟨hcommand, henabled⟩, hbrake⟩, hstate⟩, -⟩ := hpowered
  exact ⟨h.clear, hcommand, henabled, hbrake, hstate⟩

/-- What the Heavy gateway needs of a lift status to take the lift for powered. -/
structure StatusPowered (x : LiftStatus) : Prop where
  commandEnabled : x.commandEnabled = true
  enabled : x.enabled = true
  brakeUnlocked : x.brakeUnlocked = true
  operationEnabled : x.cia402State = "operation_enabled"
  motionBlocked : x.motionBlocked = false

theorem powered_of_enabledLocked {p : Parameters} {f : FeedbackCache} {now : ℕ}
    (h : liftPowerEnabledLocked p f now = true) :
    isFresh f.liftStatusReceived f.liftStatusTime now p.feedbackFaultTimeout = true ∧
      StatusPowered f.liftStatus := by
  simp only [liftPowerEnabledLocked, Bool.and_eq_true, Bool.not_eq_true', LiftStatus.blocked,
    Bool.or_eq_false_iff, beq_iff_eq] at h
  obtain ⟨⟨⟨⟨⟨⟨⟨⟨⟨⟨hfresh, -⟩, -⟩, -⟩, -⟩, -⟩, hcommand⟩, henabled⟩, hbrake⟩, hstate⟩,
    ⟨-, hblocked⟩, -⟩ := h
  exact ⟨hfresh, hcommand, henabled, hbrake, hstate, hblocked⟩

/-- A lift status that shows a powered lift was published on a driver status that does. -/
theorem showsPowered_of_snapshot {now : ℤ}
    (h : StatusPowered (f.publishLiftSnapshot k.proxy now k.print).status) :
    f.driverFresh k.proxy now = true ∧ ShowsPowered f.driver.value := by
  obtain ⟨hfresh, -, -, hclear⟩ := motionBlocked_eq_false.mp h.motionBlocked
  refine ⟨hfresh, hclear, ?_, ?_, ?_, h.operationEnabled⟩
  · exact ((Bool.and_eq_true _ _).mp h.commandEnabled).2
  · exact ((Bool.and_eq_true _ _).mp h.enabled).2
  · exact ((Bool.and_eq_true _ _).mp h.brakeUnlocked).2

end

/-! ## The trail is kept -/

/-- A text was published with a report. -/
def Tells (k : LineParameters) (text : List Char) (r : Report) : Prop :=
  r.hardware.ReleasedClear k.hardware ∧
    ∃ shown, text = r.hardware.statusText k.hardware k.format shown r.now

/-- The driver status is that of the last report that could be read. -/
def Received (k : LineParameters) (f : LiftFeedback) : Option Receipt → Prop
  | none => f.driver.value = noDriverStatus ∧ f.driver.valid = false
  | some r => Backs k r.report f.driver.value ∧ (f.driver.valid = true → f.driver.time = r.time)

/-- What a first look has found is not too old, and neither is what has been read since. -/
structure Looked (k : LineParameters) (now : ℤ) (trail : Trail) : Prop where
  past : ∀ r, trail.receipt = some r → r.time ≤ now
  looked : ∀ time, trail.looked = some time → time ≤ now ∧
    0 ≤ Power.milliseconds k.proxy.statusStaleMs ∧
    ∀ r, trail.receipt = some r → time - r.time ≤ Power.milliseconds k.proxy.statusStaleMs

/-- A lift status was published with a passage. -/
def Passed (k : LineParameters) (x : LiftSnapshot) (passage : Passage) : Prop :=
  ∃ f, x = f.publishLiftSnapshot k.proxy passage.time k.print ∧ Received k f passage.receipt

/-- The lift status of the Heavy gateway is the last one that arrived. -/
def Arrived (k : LineParameters) (f : FeedbackCache) (arrival : Option Arrival) : Prop :=
  f.liftStatusReceived = true →
    ∃ a x, arrival = some a ∧ Passed k x a.passage ∧ f.liftStatus = x.status ∧
      f.liftStatusTime = a.time

/-- The messages come from what the trail notes of them. -/
structure Traced (k : LineParameters) (s : LiftLine × Trail) : Prop where
  clear : s.1.hardware.ReleasedClear k.hardware
  texts : List.Forall₂ (Tells k) s.1.texts s.2.reports
  received : Received k s.1.feedback s.2.receipt
  looked : Looked k s.1.now s.2
  statuses : List.Forall₂ (Passed k) s.1.statuses s.2.passages
  arrived : Arrived k s.1.heavy.gateway.feedback s.2.arrival

section

variable {k : LineParameters}

theorem traced_initial (positionM : ℚ) (now : ℤ) (startedAt : ℕ) :
    Traced k (initial k positionM now startedAt, .fresh) where
  clear := .of_locked rfl
  texts := .nil
  received := ⟨rfl, rfl⟩
  looked := ⟨fun _ h => (by cases h), fun _ h => (by cases h)⟩
  statuses := .nil
  arrived := fun h => absurd h Bool.false_ne_true

theorem not_showsPowered_noDriverStatus : ¬ ShowsPowered noDriverStatus := fun h =>
  Bool.false_ne_true h.enabled

/-- Behind a powered lift there is a report. -/
theorem Received.vouches {f : LiftFeedback} {receipt : Option Receipt} (h : Received k f receipt)
    (hshows : ShowsPowered f.driver.value) :
    ∃ r, receipt = some r ∧ Vouches k r.report ∧
      (f.driver.valid = true → f.driver.time = r.time) := by
  cases receipt with
  | none =>
    rw [h.1] at hshows
    exact (not_showsPowered_noDriverStatus hshows).elim
  | some r => exact ⟨r, rfl, h.1.vouches hshows, h.2⟩

/-- The backing that the lower gateway needs. -/
theorem Received.backs {f : LiftFeedback} {receipt : Option Receipt} {now : ℤ}
    (h : Received k f receipt) (hfresh : f.driverFresh k.proxy now = true)
    (hshows : ShowsPowered f.driver.value) : ReceiptBacks k receipt now := by
  simp only [LiftFeedback.driverFresh, Channel.fresh, Channel.Late, Bool.and_eq_true,
    decide_eq_true_eq, not_lt] at hfresh
  obtain ⟨⟨-, hvalid⟩, hage⟩ := hfresh
  obtain ⟨r, hreceipt, hvouches, htime⟩ := h.vouches hshows
  rw [htime hvalid] at hage
  exact ⟨r, hreceipt, hage, hvouches⟩

/-- The backing that the Heavy gateway needs. -/
theorem Arrived.backs {f : FeedbackCache} {arrival : Option Arrival} {now : ℕ}
    (h : Arrived k f arrival) (hpowered : liftPowerEnabledLocked k.heavy f now = true) :
    ArrivalBacks k arrival now := by
  obtain ⟨hfresh, hstatus⟩ := powered_of_enabledLocked hpowered
  simp only [isFresh, Bool.and_eq_true, decide_eq_true_eq] at hfresh
  obtain ⟨⟨⟨hreceived, -⟩, hpast⟩, hage⟩ := hfresh
  obtain ⟨a, x, harrival, ⟨feedback, rfl, hpassed⟩, hcopy, htime⟩ := h hreceived
  rw [htime] at hpast hage
  rw [hcopy] at hstatus
  obtain ⟨hdriver, hshows⟩ := showsPowered_of_snapshot hstatus
  exact ⟨a, harrival, hpast, hage, hpassed.backs hdriver hshows⟩

/-- A FOLLOW_POSITION is only admitted outside a simulation while the lift counts as powered. -/
theorem powered_of_admitted {p : Parameters} {g : Gateway} {c : Command} {arrival now : ℕ}
    (hmode : c.mode = Command.modeFollowPosition)
    (hreal : g.feedback.workspaceStatus.mode ≠ .simulation)
    (h : (commandAdmit p g c arrival now).1 = .forwarded ∨
      (commandAdmit p g c arrival now).1 = .staged) :
    liftPowerEnabledLocked p g.feedback now = true := by
  have hvalid : validateCommandLocked p g c now false = .ok () := by
    unfold commandAdmit at h
    split at h
    · simp at h
    · split at h
      · simp at h
      · assumption
  have hready := (validateCommandLocked_eq_ok.mp hvalid).2.2.2
  simp only [validateReadiness, Checks.bind_eq_ok, if_pos (And.intro hmode hreal), validateDrives,
    Checks.refuse_eq_ok, Bool.false_eq_true, not_false_eq_true, true_and, not_not] at hready
  exact hready.2.2.2.2.2

theorem Traced.powerBacked {s : LiftLine × Trail} {l : Label} (h : Traced k s) :
    PowerBacked k s l where
  lower := fun hfresh hpowered => h.received.backs hfresh (showsPowered_of_powered hpowered)
  second := fun time hlooked hmet => by
    have hpowered := showsPowered_of_powered (liftMotionPreconditionsMet_eq_ok.mp hmet)
    obtain ⟨r, hreceipt, hvouches, -⟩ := h.received.vouches hpowered
    exact ⟨r, hreceipt, (h.looked.looked time hlooked).2.2 r hreceipt, hvouches⟩
  heavy := fun _ hpowered => h.arrived.backs hpowered
  follow := fun _ _ _ _ _ _ hmode hreal hadmitted =>
    h.arrived.backs (powered_of_admitted hmode hreal hadmitted)

/-- The messages of a list come from what is noted of them, one by one. -/
theorem forall₂_getElem? {α β : Type} {R : α → β → Prop} {as : List α} {bs : List β}
    (h : List.Forall₂ R as bs) {n : ℕ} {a : α} (ha : as[n]? = some a) :
    ∃ b, bs[n]? = some b ∧ R a b := by
  induction h generalizing n with
  | nil => cases ha
  | cons hab _ ih =>
    cases n with
    | zero =>
      cases ha
      exact ⟨_, rfl, hab⟩
    | succ n => exact ih ha

theorem Received.congr {f f' : LiftFeedback} {receipt : Option Receipt} (h : Received k f receipt)
    (hdriver : f'.driver = f.driver) : Received k f' receipt := by
  cases receipt <;>
    · unfold Received
      rw [hdriver]
      exact h

/-- A text that cannot be read leaves the driver status. -/
theorem Received.invalid {f : LiftFeedback} {receipt : Option Receipt} (h : Received k f receipt)
    (now : ℤ) (error : String) : Received k (f.receiveDriverStatus now (.error error)) receipt := by
  cases receipt with
  | none => exact ⟨h.1, rfl⟩
  | some r => exact ⟨h.1, fun hvalid => absurd hvalid Bool.false_ne_true⟩

theorem received_deliverText {f : LiftFeedback} {now : ℤ} {text : List Char} {r : Report}
    {status : LiftDriverStatus} (h : Tells k text r)
    (hparsed : parseLiftDriverStatus k.parse text = .ok status) :
    Received k (f.receiveDriverStatus now (.ok status)) (some ⟨r, now⟩) := by
  obtain ⟨hclear, shown, rfl⟩ := h
  exact ⟨⟨LiftHardware.agrees_of_parsed k.faithful hparsed, hclear⟩, fun _ => rfl⟩

/-- A report that is read now is not too old for a look in the past. -/
theorem Looked.read {trail : Trail} {now : ℤ} (h : Looked k now trail) (r : Report) :
    Looked k now { trail with receipt := some ⟨r, now⟩ } where
  past _ hr := by
    obtain rfl := Option.some.inj hr
    exact le_rfl
  looked time htime := by
    obtain ⟨hpast, hstale, -⟩ := h.looked time htime
    refine ⟨hpast, hstale, fun _ hr => ?_⟩
    obtain rfl := Option.some.inj hr
    dsimp only
    omega

theorem Looked.wait {trail : Trail} {now : ℤ} (h : Looked k now trail) (d : ℕ) :
    Looked k (now + d) trail where
  past r hr := Int.le_trans (h.past r hr) (Int.le_add_of_nonneg_right (Int.natCast_nonneg d))
  looked time htime := by
    obtain ⟨hpast, hage⟩ := h.looked time htime
    exact ⟨Int.le_trans hpast (Int.le_add_of_nonneg_right (Int.natCast_nonneg d)), hage⟩

theorem Looked.drop {trail : Trail} {now : ℤ} (h : Looked k now trail) :
    Looked k now { trail with receipt := none } where
  past _ hr := by cases hr
  looked time htime := by
    obtain ⟨hpast, hstale, -⟩ := h.looked time htime
    exact ⟨hpast, hstale, fun _ hr => by cases hr⟩

/-- A first look finds a driver status that is not too old. -/
theorem Looked.look {trail : Trail} {f : LiftFeedback} {now : ℤ} (h : Looked k now trail)
    (hreceived : Received k f trail.receipt) (hready : f.Ready k.proxy now) :
    Looked k now { trail with looked := some now } where
  past := h.past
  looked time htime := by
    obtain rfl := Option.some.inj htime
    have hdriver := hready.driver
    simp only [Channel.fresh, Channel.Late, Bool.and_eq_true, decide_eq_true_eq, not_lt] at hdriver
    obtain ⟨⟨-, hvalid⟩, hage⟩ := hdriver
    cases hreceipt : trail.receipt with
    | none =>
      rw [hreceipt] at hreceived
      rw [hreceived.2] at hvalid
      cases hvalid
    | some r =>
      rw [hreceipt] at hreceived
      rw [hreceived.2 hvalid] at hage
      have hpast := h.past r hreceipt
      refine ⟨le_rfl, by omega, fun _ hr => ?_⟩
      obtain rfl := Option.some.inj hr
      exact hage

theorem Arrived.congr {f f' : FeedbackCache} {arrival : Option Arrival} (h : Arrived k f arrival)
    (hstatus : f'.liftStatus = f.liftStatus)
    (hreceived : f'.liftStatusReceived = f.liftStatusReceived)
    (htime : f'.liftStatusTime = f.liftStatusTime) : Arrived k f' arrival := by
  unfold Arrived
  rw [hstatus, hreceived, htime]
  exact h

/-- A sample that is no lift status leaves the last one, unless a simulation is entered. -/
theorem Arrived.receive {p : Parameters} {g : Gateway} {now : ℕ} {arrival : Option Arrival}
    (h : Arrived k g.feedback arrival) {sample : Sample} (hother : ∀ x, sample ≠ .liftStatus x) :
    Arrived k (receive p g now sample).feedback
      (if Trail.enters g.feedback sample then none else arrival) := by
  cases sample with
  | liftStatus x => exact absurd rfl (hother x)
  | workspace message =>
    cases henters : Trail.enters g.feedback (.workspace message) with
    | true =>
      intro hreceived
      change (if Trail.enters g.feedback (.workspace message) then _ else _ :
        FeedbackCache).liftStatusReceived = true at hreceived
      rw [henters] at hreceived
      exact absurd hreceived Bool.false_ne_true
    | false =>
      have heq : (Gateway.receive p g now (.workspace message)).feedback =
          { g.feedback with
            workspaceStatus := message
            workspaceReceived := true
            workspaceTime := now } := if_neg (Bool.eq_false_iff.mp henters)
      rw [heq]
      exact h.congr rfl rfl rfl
  | _ => exact h.congr rfl rfl rfl

theorem arrived_liftStatus {p : Parameters} {g : Gateway} {now : ℕ} {x : LiftSnapshot}
    {passage : Passage} (h : Passed k x passage) :
    Arrived k (receive p g now (.liftStatus x.status)).feedback (some ⟨passage, now⟩) :=
  fun _ => ⟨_, x, rfl, h, rfl, rfl⟩

/-- A step of the Heavy gateway changes its feedback by the sample that it takes. -/
theorem step_feedback {p : Parameters} {s s' : Gateway.System} {l : Gateway.Label}
    (h : Gateway.step p s l = some s') :
    s'.gateway.feedback =
      (l.action.sample?.elim s.gateway fun x => receive p s.gateway l.now x).feedback := by
  obtain ⟨-, t, ht, rfl⟩ := Gateway.step_eq_some.mp h
  exact turn_feedback ht

variable {s s' : LiftLine} {trail : Trail}

theorem traced_hardware {e : Hardware.Event} {shown : StatusCopies} (h : Traced k (s, trail))
    (hstep : step k s (.hardware e shown) = some s') :
    Traced k (s', trail.note k s (.hardware e shown)) := by
  obtain ⟨hardware, hhardware, rfl⟩ := Option.map_eq_some_iff.mp hstep
  obtain ⟨-, rfl⟩ := (LiftHardware.step_eq_some k.hardware).mp hhardware
  refine ⟨LiftHardware.handle_clear k.hardware h.clear e, ?_, ?_, ?_, ?_, ?_⟩
  · cases e with
    | publishStatus now saveOk =>
      exact .cons ⟨LiftHardware.completePendingZero_clear k.hardware h.clear now saveOk, shown, rfl⟩
        h.texts
    | _ => exact h.texts
  · cases e <;> exact h.received
  · cases e <;> exact ⟨h.looked.past, h.looked.looked⟩
  · cases e <;> exact h.statuses
  · cases e <;> exact h.arrived

theorem note_heavy {l : Gateway.Label} :
    (trail.note k s (.heavy l)).arrival =
      if (l.action.sample?.any fun sample => Trail.enters s.heavy.gateway.feedback sample) then none
      else trail.arrival := by
  unfold Trail.note
  dsimp only
  split_ifs <;> rfl

theorem action_of_sample {action : Action} {x : Sample} (h : action.sample? = some x) :
    action = .sample x := by
  cases action <;> cases h
  rfl

theorem traced_heavy {l : Gateway.Label} (h : Traced k (s, trail))
    (hstep : step k s (.heavy l) = some s') : Traced k (s', trail.note k s (.heavy l)) := by
  have hother : ∀ x, l.action ≠ .sample (.liftStatus x) := by
    intro x hx
    change s.heavyStep k l = some s' at hstep
    unfold heavyStep at hstep
    rw [hx] at hstep
    cases hstep
  have hheavy : ∃ heavy, Gateway.step k.heavy s.heavy l = some heavy ∧
      s' = { s with heavy := heavy } := by
    change s.heavyStep k l = some s' at hstep
    unfold heavyStep at hstep
    split at hstep
    · cases hstep
    · obtain ⟨heavy, hheavy, rfl⟩ := Option.map_eq_some_iff.mp hstep
      exact ⟨heavy, hheavy, rfl⟩
  obtain ⟨heavy, hheavy, rfl⟩ := hheavy
  have hfeedback := step_feedback hheavy
  have harrived : Arrived k heavy.gateway.feedback (trail.note k s (.heavy l)).arrival := by
    rw [hfeedback, note_heavy]
    cases hsample : l.action.sample? with
    | none => exact h.arrived
    | some x =>
      refine h.arrived.receive fun y hy => hother y ?_
      rw [action_of_sample hsample, hy]
  unfold Trail.note at harrived ⊢
  dsimp only at harrived ⊢
  split_ifs at harrived ⊢
  · exact ⟨h.clear, h.texts, h.received, ⟨h.looked.past, h.looked.looked⟩, h.statuses, harrived⟩
  · exact ⟨h.clear, h.texts, h.received, h.looked, h.statuses, harrived⟩

theorem look_eq_some : step k s .look = some s' ↔
    s.feedback.liftCommandPreconditionsMet k.proxy s.now = .ok () ∧ s' = s := by
  unfold step
  dsimp only
  cases s.feedback.liftCommandPreconditionsMet k.proxy s.now with
  | error error => exact ⟨fun h => (by cases h), fun h => (by cases h.1)⟩
  | ok value => exact ⟨fun h => ⟨rfl, (Option.some.inj h).symm⟩, fun h => congrArg some h.2.symm⟩

/-- Every step keeps the trail of the messages. -/
theorem traced_step (s : LiftLine × Trail) (l : Label) (s' : LiftLine × Trail)
    (h : Traced k s) (hstep : trailed k s l = some s') : Traced k s' := by
  obtain ⟨s, trail⟩ := s
  obtain ⟨s', trail'⟩ := s'
  obtain ⟨hstep, rfl⟩ := observed_eq_some.mp hstep
  dsimp only at hstep
  cases l with
  | hardware e shown => exact traced_hardware h hstep
  | deliverText n =>
    obtain ⟨text, htext, rfl⟩ := Option.map_eq_some_iff.mp hstep
    obtain ⟨r, hr, htells⟩ := forall₂_getElem? h.texts htext
    dsimp only at htext hr
    unfold Trail.note Trail.noteText
    dsimp only
    rw [htext, Option.any_some]
    cases hparsed : parseLiftDriverStatus k.parse text with
    | error error =>
      exact ⟨h.clear, h.texts, h.received.invalid s.now error, h.looked, h.statuses, h.arrived⟩
    | ok status =>
      have hread : (Except.ok status : Except String LiftDriverStatus).isOk = true := rfl
      rw [if_pos hread, hr]
      exact ⟨h.clear, h.texts, received_deliverText htells hparsed, h.looked.read r, h.statuses,
        h.arrived⟩
  | deliverControl text =>
    cases hstep
    exact ⟨h.clear, h.texts, h.received.congr rfl, h.looked, h.statuses, h.arrived⟩
  | deliverJoint message =>
    cases hstep
    exact ⟨h.clear, h.texts, h.received.congr rfl, h.looked, h.statuses, h.arrived⟩
  | deliverWorkspace state =>
    cases hstep
    unfold Trail.note LiftFeedback.receiveWorkspaceStatus
    dsimp only
    split_ifs
    · exact ⟨h.clear, h.texts, ⟨rfl, rfl⟩, h.looked.drop, h.statuses, h.arrived⟩
    · exact ⟨h.clear, h.texts, h.received.congr rfl, h.looked, h.statuses, h.arrived⟩
  | wait d =>
    cases hstep
    exact ⟨h.clear, h.texts, h.received, h.looked.wait d, h.statuses, h.arrived⟩
  | look =>
    obtain ⟨hmet, rfl⟩ := look_eq_some.mp hstep
    exact ⟨h.clear, h.texts, h.received,
      h.looked.look h.received (liftCommandPreconditionsMet_eq_ok.mp hmet), h.statuses, h.arrived⟩
  | publish =>
    cases hstep
    exact ⟨h.clear, h.texts, h.received, ⟨h.looked.past, h.looked.looked⟩,
      .cons ⟨s.feedback, rfl, h.received⟩ h.statuses, h.arrived⟩
  | deliverStatus n now thread =>
    obtain ⟨x, hx, hstep⟩ := Option.bind_eq_some_iff.mp hstep
    obtain ⟨heavy, hheavy, rfl⟩ := Option.map_eq_some_iff.mp hstep
    obtain ⟨passage, hpassage, hpassed⟩ := forall₂_getElem? h.statuses hx
    refine ⟨h.clear, h.texts, h.received, ⟨h.looked.past, h.looked.looked⟩, h.statuses, ?_⟩
    dsimp only [Trail.note] at hpassage ⊢
    rw [step_feedback hheavy, hpassage]
    exact arrived_liftStatus (p := k.heavy) hpassed
  | heavy l => exact traced_heavy h hstep

variable (k)

/-- In every run, whoever takes the lift for powered has the report of a driver that may move. -/
theorem power_backed (positionM : ℚ) (now : ℤ) (startedAt : ℕ) (ls : List Label) :
    Throughout (trailed k) (fun s l _ => PowerBacked k s l)
      (initial k positionM now startedAt, .fresh) ls :=
  throughout_of_invariant traced_step (fun _ _ _ h _ => h.powerBacked)
    (traced_initial positionM now startedAt)

end

/-! ## A lift on the bench -/

/-- The line of the lift on the bench. -/
def benchLine : LineParameters where
  hardware := bench
  format := Bench.format
  parse := read
  faithful := faithful_read
  proxy := ⟨500, 500, "lift", "joint_motor"⟩
  print := fun _ => ""
  heavy := defaultParameters

/-- The status text of a lift controller that holds the lift. -/
def holdText : List Char :=
  "\x7b\"mode\":\"hold\",\"trajectory_active\":false,\"jog_active\":false\x7d".toList

/-- The lift is started and has its brake released, its status comes to the Heavy gateway, and the
next report of the driver comes in while a lift command is checked. -/
def releaseLine : List Label :=
  Bench.release.map (fun e => Label.hardware e Bench.shown) ++
    [Label.hardware (.publishStatus (Bench.time 10) true) Bench.shown, .deliverText 0,
      .deliverControl holdText, .deliverJoint ⟨["joint_motor"], [0], []⟩,
      .deliverWorkspace .running, .publish, .deliverStatus 0 2 0, .wait 1000000, .look,
      .hardware (.publishStatus (Bench.time 11) true) Bench.shown, .deliverText 0]

/-- Both gateways take the lift for powered there, the lower one at both its looks. -/
theorem power_backed_releaseLine :
    Throughout (trailed benchLine) (fun s l _ => PowerBacked benchLine s l)
      (initial benchLine 0 0 1, .fresh) releaseLine ∧
    (exec (trailed benchLine) (initial benchLine 0 0 1, .fresh) releaseLine).any (fun s =>
      liftPowerEnabledLocked benchLine.heavy s.1.heavy.gateway.feedback 2 && s.2.looked.isSome &&
        (s.1.feedback.driver.value.liftMotionPreconditionsMet
          s.1.feedback.workspaceRunning).isOk) = true :=
  ⟨power_backed benchLine 0 0 1 releaseLine, by decide +kernel⟩

end LiftLine

end JointController
