import JointController.Library.Observers
import JointController.Power.Service

/-!
# The rollback of a failed power enable

An enable that is published and not confirmed is followed by a disable command, and an enable is
successful only when the drives report to be enabled.  What counts as a report after the command is
a status after the one that the checks of the request have read, so that a status which arrives
between these checks and the command confirms it, too.

* `RequestNote`, `requestNote`: an observer notes what the current request has published and what
  the statuses have shown.
* `Answered`: what an answer to a request to enable relies on.
* `EndsInTime`: the waits end by their deadlines.
* `HeardSinceCommand`: a status that ends the wait has come after the command.
* `Kept`, `PhaseNote`: what the observer knows in each phase.
* `rollsBack_iff`: the runs that keep the rule.
* `status_before_command`: a status from before the command confirms it.
-/

namespace JointController

namespace Power

/-! ## The rule -/

/-- The status has 14 axes, and all of them are enabled. -/
def ArmPowerStatus.showsEnabled (status : ArmPowerStatus) : Bool :=
  status.statusShapeValid && status.targetReached true

/-- What an observer notes of the current request: whether it asks to enable, whether the status at
the request was fresh and has shown the drives enabled, the commands that the request has published,
the newest first, and whether since its enable command some status has arrived, and one that has
shown the drives enabled. -/
structure RequestNote where
  enable : Bool
  shown : Bool
  commands : List Bool
  heard : Bool
  confirmed : Bool

/-- A wait with its deadline; there is one for the command and one for the rollback. -/
structure Wait where
  rollback : Bool
  deadline : ℤ

/-- The wait that a phase is in. -/
def Phase.currentWait : Phase → Option Wait
  | .waiting _ deadline _ _ _ => some ⟨false, deadline⟩
  | .confirming _ deadline _ => some ⟨true, deadline⟩
  | _ => none

/-- The time-out of a wait. -/
def Parameters.timeoutMs (cfg : Parameters) (rollback : Bool) : ℤ :=
  if rollback then cfg.rollbackTimeoutMs else cfg.powerTimeoutMs

/-- The observer. -/
def requestNote (cfg : Parameters) (s : PowerService) (l : Label) (n : RequestNote) : RequestNote :=
  match l with
  | .request enable _ =>
    ⟨enable, s.statusIsFresh cfg && s.statusBefore.showsEnabled, [], false, false⟩
  | .status message =>
    { n with heard := true, confirmed := n.confirmed || message.showsEnabled }
  | _ =>
    match s.published cfg l with
    | some true => { n with commands := true :: n.commands, heard := false, confirmed := false }
    | some false => { n with commands := false :: n.commands }
    | none => n

/-- A request to enable that has published its command fails only after a disable command, and it
succeeds only when a status that was fresh at the request, or that has arrived after the command,
has shown all the drives enabled. -/
structure Answered (n : RequestNote) (r : Reply) : Prop where
  rollback : r.success = false → true ∈ n.commands → n.commands.head? = some false
  shown : r.success = true → n.shown = true ∨ n.confirmed = true

/-- A wait begins with a deadline within its time-out and keeps it, and it does not go on when its
deadline is over: then the service leaves it with its next step. -/
structure EndsInTime (cfg : Parameters) (s : PowerService) (l : Label) (s' : PowerService) :
    Prop where
  begins : ∀ w, s.phase.currentWait = none → s'.phase.currentWait = some w →
    w.deadline ≤ s.now + milliseconds (cfg.timeoutMs w.rollback)
  keeps : ∀ w w', s.phase.currentWait = some w → s'.phase.currentWait = some w' →
    w' = w ∧ (l = .advance → s.now < w.deadline)
  ends : ∀ w, s.phase.currentWait = some w → w.deadline ≤ s.now →
    ∃ next, s.step cfg .advance = some next ∧ next.phase.currentWait = none

/-- The rule for a step. -/
structure RollsBack (cfg : Parameters) (s : PowerService × RequestNote) (l : Label)
    (s' : PowerService × RequestNote) : Prop where
  answers : ∀ r, s.1.reply cfg l = some r → s'.2.enable = true → Answered s'.2 r
  waits : EndsInTime cfg s.1 l s'.1

/-- The wait for the command looks at a status, and takes it for the confirmation of an enable. -/
def PowerService.findsEnabled (s : PowerService) : Label → Bool
  | .advance =>
    match s.phase with
    | .waiting true _ generationBefore _ _ =>
      decide (generationBefore < s.statusGeneration) &&
        s.lastPowerStatus.unavailableDriveMessage == "" && s.lastPowerStatus.showsEnabled
    | _ => false
  | _ => false

/-- When the wait of an enable finds the drives enabled, some status has arrived after the
command. -/
def HeardSinceCommand (s : PowerService × RequestNote) (l : Label) : Prop :=
  s.1.findsEnabled l = true → s.2.heard = true

variable {cfg : Parameters} {s s' : PowerService} {l : Label}

/-! ## What the observer knows -/

/-- What the observer has noted in a phase. -/
def PhaseNote (cfg : Parameters) (now : ℤ) (n : RequestNote) : Phase → Prop
  | .idle => True
  | .publishing enable _ _ =>
    n.enable = enable ∧ n.commands = [] ∧ (enable = true → n.shown = false)
  | .published enable _ _ | .waiting enable _ _ _ _ =>
    n.enable = enable ∧ n.commands = [enable] ∧ (enable = true → n.shown = false)
  | .failed _ | .rollingBack _ _ => n.commands = [true]
  | .rolledBack _ _ | .confirming _ _ _ => n.commands.head? = some false
  | .armed _ deadline _ =>
    n.commands.head? = some false ∧ deadline ≤ now + milliseconds cfg.rollbackTimeoutMs

/-- The observer follows the service: it knows whether the last status confirms the command, as soon
as some status has arrived after the command. -/
structure Kept (cfg : Parameters) (s : PowerService × RequestNote) : Prop where
  unheard : s.2.heard = false → s.2.confirmed = false
  heard : s.2.heard = true → s.1.lastPowerStatus.showsEnabled = true → s.2.confirmed = true
  phase : PhaseNote cfg s.1.now s.2 s.1.phase

/-! ## The steps of the callback -/

/-- What a step of the callback does in a phase. -/
inductive Advances (cfg : Parameters) (s : PowerService) : Phase → Next → Prop
  | publish (enable : Bool) (generation : UInt64) (status : ArmPowerStatus) :
      Advances cfg s (.publishing enable generation status)
        ((Phase.published enable generation status).publishPowerCommand enable)
  | command (enable : Bool) (generation : UInt64) (status : ArmPowerStatus) :
      Advances cfg s (.published enable generation status)
        (s.wait enable (s.now + milliseconds cfg.powerTimeoutMs) generation status false)
  | look (enable : Bool) (deadline : ℤ) (generation : UInt64) (latest : ArmPowerStatus)
      (received : Bool) :
      Advances cfg s (.waiting enable deadline generation latest received)
        (s.look enable deadline generation latest received)
  | fail (message : String) :
      Advances cfg s (.failed message) (Phase.rollingBack message s.statusGeneration).quietly
  | rollBack (message : String) (generation : UInt64) :
      Advances cfg s (.rollingBack message generation)
        ((Phase.rolledBack message generation).publishPowerCommand false)
  | setDeadline (message : String) (generation : UInt64) :
      Advances cfg s (.rolledBack message generation)
        (Phase.armed message (s.now + milliseconds cfg.rollbackTimeoutMs) generation).quietly
  | arm (message : String) (deadline : ℤ) (generation : UInt64) :
      Advances cfg s (.armed message deadline generation)
        (s.waitConfirmed message deadline generation)
  | confirm (message : String) (deadline : ℤ) (generation : UInt64) :
      Advances cfg s (.confirming message deadline generation)
        (s.confirm message deadline generation)

theorem advances_of_advance {next : Next} (h : s.advance cfg = some next) :
    Advances cfg s s.phase next := by
  unfold PowerService.advance at h
  cases hphase : s.phase with
  | idle =>
    rw [hphase] at h
    cases h
  | waiting enable deadline generation latest received =>
    rw [hphase] at h
    obtain ⟨-, h⟩ := Option.ite_none_right_eq_some.mp h
    obtain rfl := Option.some_inj.mp h
    exact Advances.look enable deadline generation latest received
  | confirming message deadline generation =>
    rw [hphase] at h
    obtain ⟨-, h⟩ := Option.ite_none_right_eq_some.mp h
    obtain rfl := Option.some_inj.mp h
    exact Advances.confirm message deadline generation
  | _ =>
    rw [hphase] at h
    obtain rfl := Option.some_inj.mp h
    constructor

/-! ## The waits -/

theorem currentWait_giveUp (enable : Bool) (latest : ArmPowerStatus) (received : Bool) :
    (PowerService.giveUp enable latest received).1.currentWait = none := by
  unfold PowerService.giveUp
  dsimp only
  split_ifs
  all_goals rfl

/-- The loop of a request waits for its deadline. -/
theorem currentWait_wait {enable : Bool} {deadline : ℤ} {generation : UInt64}
    {latest : ArmPowerStatus} {received : Bool} {w : Wait}
    (h : (s.wait enable deadline generation latest received).1.currentWait = some w) :
    w = ⟨false, deadline⟩ := by
  unfold PowerService.wait at h
  split_ifs at h
  · exact (Option.some_inj.mp h).symm
  · rw [currentWait_giveUp] at h
    cases h

theorem currentWait_waitOn {enable : Bool} {deadline : ℤ} {generation : UInt64}
    {latest : ArmPowerStatus} {received : Bool} {w : Wait}
    (h : (s.waitOn enable deadline generation latest received).1.currentWait = some w) :
    w = ⟨false, deadline⟩ ∧ s.now < deadline := by
  unfold PowerService.waitOn at h
  split_ifs at h with hover
  · rw [currentWait_giveUp] at h
    cases h
  · exact ⟨currentWait_wait h, Int.not_le.mp hover⟩

/-- A pass of the loop of a request goes on only before the deadline. -/
theorem currentWait_look {enable : Bool} {deadline : ℤ} {generation : UInt64}
    {latest : ArmPowerStatus} {received : Bool} {w : Wait}
    (h : (s.look enable deadline generation latest received).1.currentWait = some w) :
    w = ⟨false, deadline⟩ ∧ s.now < deadline := by
  unfold PowerService.look at h
  dsimp only at h
  split_ifs at h
  · cases h
  · cases h
  · exact currentWait_waitOn h
  · exact currentWait_waitOn h

theorem currentWait_waitConfirmed {message : String} {deadline : ℤ} {generation : UInt64} {w : Wait}
    (h : (s.waitConfirmed message deadline generation).1.currentWait = some w) :
    w = ⟨true, deadline⟩ ∧ s.now < deadline := by
  unfold PowerService.waitConfirmed at h
  split_ifs at h with hgoes
  · exact ⟨(Option.some_inj.mp h).symm, hgoes.2⟩
  · cases h

/-- A pass of the loop of a rollback goes on only before the deadline. -/
theorem currentWait_confirm {message : String} {deadline : ℤ} {generation : UInt64} {w : Wait}
    (h : (s.confirm message deadline generation).1.currentWait = some w) :
    w = ⟨true, deadline⟩ ∧ s.now < deadline := by
  unfold PowerService.confirm at h
  split_ifs at h
  · cases h
  · exact currentWait_waitConfirmed h
  · exact currentWait_waitConfirmed h

theorem currentWait_handleServiceRequest (enable : Bool) (guardError : Option String) :
    (s.handleServiceRequest cfg enable guardError).1.currentWait = none := by
  unfold PowerService.handleServiceRequest
  split_ifs
  all_goals rfl

/-- A wait whose deadline is over ends with the next step of the service. -/
theorem ends_of_currentWait {w : Wait} (h : s.phase.currentWait = some w)
    (hover : w.deadline ≤ s.now) :
    ∃ next, s.step cfg .advance = some next ∧ next.phase.currentWait = none := by
  cases hphase : s.phase with
  | waiting enable deadline generation latest received =>
    rw [hphase] at h
    obtain rfl := Option.some_inj.mp h
    have hwakes : s.wakes deadline generation := Or.inr hover
    refine ⟨{ s with phase := (s.look enable deadline generation latest received).1 }, ?_, ?_⟩
    · simp only [PowerService.step, PowerService.serve, PowerService.advance, hphase, if_pos hwakes,
        Option.map_some]
    · rw [Option.eq_none_iff_forall_ne_some]
      intro w' hw'
      exact absurd (currentWait_look hw').2 (Int.not_lt.mpr hover)
  | confirming message deadline generation =>
    rw [hphase] at h
    obtain rfl := Option.some_inj.mp h
    have hwakes : s.wakes deadline generation := Or.inr hover
    refine ⟨{ s with phase := (s.confirm message deadline generation).1 }, ?_, ?_⟩
    · simp only [PowerService.step, PowerService.serve, PowerService.advance, hphase, if_pos hwakes,
        Option.map_some]
    · rw [Option.eq_none_iff_forall_ne_some]
      intro w' hw'
      exact absurd (currentWait_confirm hw').2 (Int.not_lt.mpr hover)
  | _ =>
    rw [hphase] at h
    cases h

/-- A step of the callback begins a wait within its time-out, and keeps the wait that it is in. -/
theorem currentWait_advance {n : RequestNote} {next : Next} {w : Wait} (hs : Kept cfg (s, n))
    (h : s.advance cfg = some next) (hw : next.1.currentWait = some w) :
    (s.phase.currentWait = none →
        w.deadline ≤ s.now + milliseconds (cfg.timeoutMs w.rollback)) ∧
      ∀ before, s.phase.currentWait = some before → w = before ∧ s.now < before.deadline := by
  have hadvances := advances_of_advance h
  have hnote : PhaseNote cfg s.now n s.phase := hs.phase
  generalize s.phase = phase at hadvances hnote ⊢
  cases hadvances with
  | command enable generation status =>
    obtain rfl := currentWait_wait hw
    exact ⟨fun _ => Int.le_refl _, by rintro _ ⟨⟩⟩
  | look enable deadline generation latest received =>
    refine ⟨by rintro ⟨⟩, fun before hbefore => ?_⟩
    obtain rfl := Option.some_inj.mp hbefore
    exact currentWait_look hw
  | arm message deadline generation =>
    obtain ⟨rfl, -⟩ := currentWait_waitConfirmed hw
    exact ⟨fun _ => hnote.2, by rintro _ ⟨⟩⟩
  | confirm message deadline generation =>
    refine ⟨by rintro ⟨⟩, fun before hbefore => ?_⟩
    obtain rfl := Option.some_inj.mp hbefore
    exact currentWait_confirm hw
  | _ => cases hw

/-! ## The answers -/

/-- Only a request to disable is answered when the wait is over. -/
theorem reply_giveUp {enable : Bool} {latest : ArmPowerStatus} {received : Bool} {r : Reply}
    (h : (PowerService.giveUp enable latest received).2.reply = some r) : enable = false := by
  unfold PowerService.giveUp at h
  cases enable with
  | true => cases h
  | false => rfl

theorem reply_wait {enable : Bool} {deadline : ℤ} {generation : UInt64} {latest : ArmPowerStatus}
    {received : Bool} {r : Reply}
    (h : (s.wait enable deadline generation latest received).2.reply = some r) :
    enable = false := by
  unfold PowerService.wait at h
  split_ifs at h
  · cases h
  · exact reply_giveUp h

theorem reply_waitOn {enable : Bool} {deadline : ℤ} {generation : UInt64} {latest : ArmPowerStatus}
    {received : Bool} {r : Reply}
    (h : (s.waitOn enable deadline generation latest received).2.reply = some r) :
    enable = false := by
  unfold PowerService.waitOn at h
  split_ifs at h
  · exact reply_giveUp h
  · exact reply_wait h

/-- The loop of a request to enable answers only when it finds the drives enabled. -/
theorem reply_look {deadline : ℤ} {generation : UInt64} {latest : ArmPowerStatus} {received : Bool}
    {r : Reply} (h : (s.look true deadline generation latest received).2.reply = some r) :
    (generation < s.statusGeneration ∧ s.lastPowerStatus.unavailableDriveMessage = "" ∧
      s.lastPowerStatus.showsEnabled = true) ∧ r.success = true := by
  unfold PowerService.look at h
  dsimp only at h
  split_ifs at h with hnew hunavailable hreached
  · cases h
  · obtain rfl := Option.some_inj.mp h
    exact ⟨⟨hnew, by_contra fun hsome => hunavailable ⟨rfl, hsome⟩, hreached⟩, rfl⟩
  · cases reply_waitOn h
  · cases reply_waitOn h

/-- It answers then. -/
theorem look_of_enabled (deadline : ℤ) {generation : UInt64} (latest : ArmPowerStatus)
    (received : Bool) (hnew : generation < s.statusGeneration)
    (havailable : s.lastPowerStatus.unavailableDriveMessage = "")
    (hshows : s.lastPowerStatus.showsEnabled = true) :
    s.look true deadline generation latest received = answer true (reachedText true) := by
  unfold PowerService.look
  dsimp only
  rw [if_pos hnew, if_neg fun h => h.2 havailable]
  exact if_pos hshows

theorem reply_waitConfirmed {message : String} {deadline : ℤ} {generation : UInt64} {r : Reply}
    (h : (s.waitConfirmed message deadline generation).2.reply = some r) : r.success = false := by
  unfold PowerService.waitConfirmed at h
  split_ifs at h
  · cases h
  · obtain rfl := Option.some_inj.mp h
    rfl

/-- A rollback ends with a failure. -/
theorem reply_confirm {message : String} {deadline : ℤ} {generation : UInt64} {r : Reply}
    (h : (s.confirm message deadline generation).2.reply = some r) : r.success = false := by
  unfold PowerService.confirm at h
  split_ifs at h
  · obtain rfl := Option.some_inj.mp h
    rfl
  · exact reply_waitConfirmed h
  · exact reply_waitConfirmed h

theorem findsEnabled_iff :
    s.findsEnabled .advance = true ↔ ∃ deadline generation latest received,
      s.phase = .waiting true deadline generation latest received ∧
        generation < s.statusGeneration ∧ s.lastPowerStatus.unavailableDriveMessage = "" ∧
        s.lastPowerStatus.showsEnabled = true := by
  unfold PowerService.findsEnabled
  constructor
  · intro h
    cases hphase : s.phase with
    | waiting enable deadline generation latest received =>
      rw [hphase] at h
      cases enable with
      | true =>
        simp only [Bool.and_eq_true, decide_eq_true_eq, beq_iff_eq] at h
        exact ⟨deadline, generation, latest, received, rfl, h.1.1, h.1.2, h.2⟩
      | false => cases h
    | _ =>
      rw [hphase] at h
      cases h
  · rintro ⟨deadline, generation, latest, received, hphase, hnew, havailable, hshows⟩
    rw [hphase]
    simp only [Bool.and_eq_true, decide_eq_true_eq, beq_iff_eq]
    exact ⟨⟨hnew, havailable⟩, hshows⟩

/-- An answer of the waiting callback to a request to enable. -/
theorem answered_advance {n : RequestNote} {next : Next} {r : Reply} (hs : Kept cfg (s, n))
    (hC : HeardSinceCommand (s, n) .advance) (h : s.advance cfg = some next)
    (hr : next.2.reply = some r) (henable : n.enable = true) : Answered n r := by
  have hadvances := advances_of_advance h
  have hnote : PhaseNote cfg s.now n s.phase := hs.phase
  have hfailed : n.commands.head? = some false → r.success = false → Answered n r :=
    fun hhead hfails => ⟨fun _ _ => hhead, fun hsuccess => by
      rw [hfails] at hsuccess
      cases hsuccess⟩
  generalize hphase : s.phase = phase at hadvances hnote
  cases hadvances with
  | command enable generation status =>
    obtain rfl : true = enable := henable.symm.trans hnote.1
    cases reply_wait hr
  | look enable deadline generation latest received =>
    obtain rfl : true = enable := henable.symm.trans hnote.1
    obtain ⟨⟨hnew, havailable, hshows⟩, hsuccess⟩ := reply_look hr
    refine ⟨fun hfails => ?_, fun _ => Or.inr (hs.heard (hC ?_) hshows)⟩
    · rw [hsuccess] at hfails
      cases hfails
    · exact findsEnabled_iff.mpr ⟨_, _, _, _, hphase, hnew, havailable, hshows⟩
  | arm message deadline generation => exact hfailed hnote.1 (reply_waitConfirmed hr)
  | confirm message deadline generation => exact hfailed hnote (reply_confirm hr)
  | _ => cases hr

/-! ## The notes of a phase -/

section Notes

variable {now : ℤ} {n : RequestNote}

/-- What the observer has noted in the wait for a command. -/
abbrev Commanded (n : RequestNote) (enable : Bool) : Prop :=
  n.enable = enable ∧ n.commands = [enable] ∧ (enable = true → n.shown = false)

theorem phaseNote_giveUp {enable : Bool} (h : Commanded n enable) (latest : ArmPowerStatus)
    (received : Bool) : PhaseNote cfg now n (PowerService.giveUp enable latest received).1 := by
  unfold PowerService.giveUp
  cases enable with
  | true => exact h.2.1
  | false => trivial

theorem phaseNote_wait {enable : Bool} (h : Commanded n enable) (deadline : ℤ) (generation : UInt64)
    (latest : ArmPowerStatus) (received : Bool) :
    PhaseNote cfg now n (s.wait enable deadline generation latest received).1 := by
  unfold PowerService.wait
  split_ifs
  · exact h
  · exact phaseNote_giveUp h latest received

theorem phaseNote_waitOn {enable : Bool} (h : Commanded n enable) (deadline : ℤ)
    (generation : UInt64) (latest : ArmPowerStatus) (received : Bool) :
    PhaseNote cfg now n (s.waitOn enable deadline generation latest received).1 := by
  unfold PowerService.waitOn
  split_ifs
  · exact phaseNote_giveUp h latest received
  · exact phaseNote_wait h deadline generation latest received

theorem phaseNote_look {enable : Bool} (h : Commanded n enable) (deadline : ℤ) (generation : UInt64)
    (latest : ArmPowerStatus) (received : Bool) :
    PhaseNote cfg now n (s.look enable deadline generation latest received).1 := by
  unfold PowerService.look
  dsimp only
  split_ifs with hnew hunavailable hreached
  · obtain ⟨rfl, -⟩ := hunavailable
    exact h.2.1
  · trivial
  · exact phaseNote_waitOn h deadline _ _ _
  · exact phaseNote_waitOn h deadline _ _ _

theorem phaseNote_waitConfirmed (h : n.commands.head? = some false) (message : String)
    (deadline : ℤ) (generation : UInt64) :
    PhaseNote cfg now n (s.waitConfirmed message deadline generation).1 := by
  unfold PowerService.waitConfirmed
  split_ifs
  · exact h
  · trivial

theorem phaseNote_confirm (h : n.commands.head? = some false) (message : String) (deadline : ℤ)
    (generation : UInt64) : PhaseNote cfg now n (s.confirm message deadline generation).1 := by
  unfold PowerService.confirm
  split_ifs
  · trivial
  · exact phaseNote_waitConfirmed h message deadline _
  · exact phaseNote_waitConfirmed h message deadline _

/-- A request that goes on to its command has not found the drives enabled. -/
theorem phaseNote_handleServiceRequest (enable : Bool) (guardError : Option String) :
    PhaseNote cfg now (requestNote cfg s (.request enable guardError) n)
      (s.handleServiceRequest cfg enable guardError).1 := by
  unfold PowerService.handleServiceRequest
  split_ifs with hguard hstale hshape hunavailable hreached
  · trivial
  · trivial
  · trivial
  · trivial
  · trivial
  · refine ⟨rfl, rfl, ?_⟩
    rintro rfl
    rw [Bool.and_assoc] at hreached
    exact (Bool.not_eq_true _).mp hreached

/-- A request that is answered at once has published nothing, and is successful when the status at
the request was fresh and shows the drives enabled. -/
theorem answered_handleServiceRequest {enable : Bool} {guardError : Option String} {r : Reply}
    (hr : (s.handleServiceRequest cfg enable guardError).2.reply = some r)
    (henable : enable = true) : Answered (requestNote cfg s (.request enable guardError) n) r := by
  subst henable
  refine ⟨fun _ hmem => absurd hmem List.not_mem_nil, fun hsuccess => Or.inl ?_⟩
  unfold PowerService.handleServiceRequest at hr
  split_ifs at hr with hguard hstale hshape hunavailable hreached
  · obtain rfl := Option.some_inj.mp hr
    cases hsuccess
  · obtain rfl := Option.some_inj.mp hr
    cases hsuccess
  · obtain rfl := Option.some_inj.mp hr
    cases hsuccess
  · obtain rfl := Option.some_inj.mp hr
    cases hsuccess
  · rw [Bool.and_assoc] at hreached
    exact hreached
  · cases hr

/-- The clock does not go back. -/
theorem PhaseNote.later {later : ℤ} {phase : Phase} (h : PhaseNote cfg now n phase)
    (hle : now ≤ later) : PhaseNote cfg later n phase := by
  cases phase with
  | armed message deadline generation =>
    exact ⟨h.1, Int.le_trans h.2 (Int.add_le_add_right hle _)⟩
  | _ => exact h

/-- A status does not change what the observer has noted of the request. -/
theorem PhaseNote.hear {phase : Phase} (h : PhaseNote cfg now n phase) (heard confirmed : Bool) :
    PhaseNote cfg now { n with heard := heard, confirmed := confirmed } phase := by
  cases phase
  all_goals exact h

end Notes

/-! ## Runs -/

theorem published_giveUp (enable : Bool) (latest : ArmPowerStatus) (received : Bool) :
    (PowerService.giveUp enable latest received).2.published = none := by
  unfold PowerService.giveUp
  cases enable
  all_goals rfl

theorem published_wait (enable : Bool) (deadline : ℤ) (generation : UInt64)
    (latest : ArmPowerStatus) (received : Bool) :
    (s.wait enable deadline generation latest received).2.published = none := by
  unfold PowerService.wait
  split_ifs
  · rfl
  · exact published_giveUp enable latest received

theorem published_look (enable : Bool) (deadline : ℤ) (generation : UInt64)
    (latest : ArmPowerStatus) (received : Bool) :
    (s.look enable deadline generation latest received).2.published = none := by
  unfold PowerService.look PowerService.waitOn
  dsimp only
  split_ifs
  all_goals first
    | rfl
    | exact published_giveUp _ _ _
    | exact published_wait _ _ _ _ _

theorem published_waitConfirmed (message : String) (deadline : ℤ) (generation : UInt64) :
    (s.waitConfirmed message deadline generation).2.published = none := by
  unfold PowerService.waitConfirmed
  split_ifs
  all_goals rfl

theorem published_confirm (message : String) (deadline : ℤ) (generation : UInt64) :
    (s.confirm message deadline generation).2.published = none := by
  unfold PowerService.confirm
  split_ifs
  · rfl
  · exact published_waitConfirmed message deadline _
  · exact published_waitConfirmed message deadline _

/-- A step that publishes nothing does not change what the observer has noted. -/
theorem requestNote_advance {n : RequestNote} {next : Next} (h : s.advance cfg = some next)
    (hquiet : next.2.published = none) : requestNote cfg s .advance n = n := by
  have hpublished : s.published cfg .advance = none := by
    unfold PowerService.published PowerService.serve
    rw [h]
    exact hquiet
  unfold requestNote
  dsimp only
  rw [hpublished]

/-- A step that answers publishes nothing. -/
theorem published_of_reply {next : Next} {r : Reply} (h : s.advance cfg = some next)
    (hr : next.2.reply = some r) : next.2.published = none := by
  have hadvances := advances_of_advance h
  generalize s.phase = phase at hadvances
  cases hadvances with
  | command enable generation status => exact published_wait _ _ _ _ _
  | look enable deadline generation latest received => exact published_look _ _ _ _ _
  | arm message deadline generation => exact published_waitConfirmed _ _ _
  | confirm message deadline generation => exact published_confirm _ _ _
  | _ => cases hr

/-- The step lemma for the steps of the callback. -/
theorem kept_advance {n : RequestNote} {next : Next} (hs : Kept cfg (s, n))
    (h : s.advance cfg = some next) :
    Kept cfg ({ s with phase := next.1 }, requestNote cfg s .advance n) := by
  have hadvances := advances_of_advance h
  have hnote : PhaseNote cfg s.now n s.phase := hs.phase
  have hpublished : s.published cfg .advance = next.2.published := by
    unfold PowerService.published PowerService.serve
    rw [h]
    rfl
  have hquietly : next.2.published = none → PhaseNote cfg s.now n next.1 →
      Kept cfg ({ s with phase := next.1 }, requestNote cfg s .advance n) := by
    intro hquiet hphase
    rw [requestNote_advance h hquiet]
    exact ⟨hs.unheard, hs.heard, hphase⟩
  generalize s.phase = phase at hadvances hnote
  cases hadvances with
  | publish enable generation status =>
    obtain ⟨henable, hcommands, hshown⟩ := hnote
    unfold requestNote
    dsimp only
    rw [hpublished, hcommands]
    cases enable with
    | true => exact ⟨fun _ => rfl, by rintro ⟨⟩, henable, rfl, hshown⟩
    | false => exact ⟨hs.unheard, hs.heard, henable, rfl, by rintro ⟨⟩⟩
  | command enable generation status =>
    exact hquietly (published_wait _ _ _ _ _) (phaseNote_wait hnote _ _ _ _)
  | look enable deadline generation latest received =>
    exact hquietly (published_look _ _ _ _ _) (phaseNote_look hnote _ _ _ _)
  | fail message => exact hquietly rfl hnote
  | rollBack message generation =>
    unfold requestNote
    dsimp only
    rw [hpublished]
    exact ⟨hs.unheard, hs.heard, rfl⟩
  | setDeadline message generation => exact hquietly rfl ⟨hnote, Int.le_refl _⟩
  | arm message deadline generation =>
    exact hquietly (published_waitConfirmed _ _ _) (phaseNote_waitConfirmed hnote.1 _ _ _)
  | confirm message deadline generation =>
    exact hquietly (published_confirm _ _ _) (phaseNote_confirm hnote _ _ _)

/-- The step lemma for the observer. -/
theorem Kept.next {s s' : PowerService × RequestNote} (hs : Kept cfg s)
    (h : Runs.observed (PowerService.step cfg) (requestNote cfg) s l = some s') : Kept cfg s' := by
  obtain ⟨s, n⟩ := s
  obtain ⟨s', n'⟩ := s'
  obtain ⟨hstep, hnote⟩ := Runs.observed_eq_some.mp h
  obtain rfl : n' = requestNote cfg s l n := hnote
  cases l with
  | status message =>
    obtain rfl := Option.some_inj.mp hstep
    refine ⟨by rintro ⟨⟩, fun _ hshows => ?_, hs.phase.hear _ _⟩
    exact Bool.or_eq_true_iff.mpr (Or.inr hshows)
  | request enable guardError =>
    obtain ⟨next, hnext, rfl⟩ := Option.map_eq_some_iff.mp hstep
    obtain ⟨hidle, hnext⟩ := Option.ite_none_right_eq_some.mp hnext
    obtain rfl := Option.some_inj.mp hnext
    exact ⟨fun _ => rfl, by rintro ⟨⟩, phaseNote_handleServiceRequest (n := n) _ _⟩
  | advance =>
    obtain ⟨next, hnext, rfl⟩ := Option.map_eq_some_iff.mp hstep
    exact kept_advance hs hnext
  | elapse nanoseconds =>
    obtain rfl := Option.some_inj.mp hstep
    exact ⟨hs.unheard, hs.heard, hs.phase.later (Int.le_add_of_nonneg_right (Int.natCast_nonneg _))⟩
  | shutdown =>
    obtain rfl := Option.some_inj.mp hstep
    exact ⟨hs.unheard, hs.heard, hs.phase⟩

/-- A step that leaves the phase alone leaves the wait alone. -/
theorem endsInTime_of_phase (hl : l ≠ .advance) (hphase : s'.phase = s.phase) :
    EndsInTime cfg s l s' := by
  refine ⟨fun w hnone hw => ?_, fun w w' hw hw' => ?_, fun w hw => ends_of_currentWait hw⟩
  · rw [hphase, hnone] at hw
    cases hw
  · rw [hphase, hw] at hw'
    exact ⟨(Option.some_inj.mp hw').symm, fun hadvance => (hl hadvance).elim⟩

/-- Every step keeps the waits within their deadlines. -/
theorem endsInTime_of_step {n : RequestNote} (hs : Kept cfg (s, n)) (h : s.step cfg l = some s') :
    EndsInTime cfg s l s' := by
  cases l with
  | status message =>
    obtain rfl := Option.some_inj.mp h
    exact endsInTime_of_phase (by rintro ⟨⟩) rfl
  | elapse nanoseconds =>
    obtain rfl := Option.some_inj.mp h
    exact endsInTime_of_phase (by rintro ⟨⟩) rfl
  | shutdown =>
    obtain rfl := Option.some_inj.mp h
    exact endsInTime_of_phase (by rintro ⟨⟩) rfl
  | request enable guardError =>
    obtain ⟨next, hnext, rfl⟩ := Option.map_eq_some_iff.mp h
    obtain ⟨hidle, hnext⟩ := Option.ite_none_right_eq_some.mp hnext
    obtain rfl := Option.some_inj.mp hnext
    have hnone : (s.handleServiceRequest cfg enable guardError).1.currentWait = none :=
      currentWait_handleServiceRequest enable guardError
    refine ⟨fun w _ hw => ?_, fun w w' _ hw' => ?_, fun w hw => ends_of_currentWait hw⟩
    · cases hw.symm.trans hnone
    · cases hw'.symm.trans hnone
  | advance =>
    obtain ⟨next, hnext, rfl⟩ := Option.map_eq_some_iff.mp h
    refine ⟨fun w hnone hw => ?_, fun w w' hw hw' => ?_, fun w hw => ends_of_currentWait hw⟩
    · exact (currentWait_advance hs hnext hw).1 hnone
    · obtain ⟨hsame, hearly⟩ := (currentWait_advance hs hnext hw').2 w hw
      exact ⟨hsame, fun _ => hearly⟩

/-- The answers of a step, when the confirming status has come after the command. -/
theorem answered_of_step {n : RequestNote} {r : Reply} (hs : Kept cfg (s, n))
    (hC : HeardSinceCommand (s, n) l) (hr : s.reply cfg l = some r)
    (henable : (requestNote cfg s l n).enable = true) : Answered (requestNote cfg s l n) r := by
  obtain ⟨next, hnext, hreply⟩ := Option.bind_eq_some_iff.mp hr
  cases l with
  | request enable guardError =>
    obtain ⟨hidle, hnext⟩ := Option.ite_none_right_eq_some.mp hnext
    obtain rfl := Option.some_inj.mp hnext
    exact answered_handleServiceRequest hreply henable
  | advance =>
    have hquiet : next.2.published = none := published_of_reply hnext hreply
    rw [requestNote_advance hnext hquiet] at henable ⊢
    exact answered_advance hs hC hnext hreply henable
  | _ => cases hnext

/-- The step lemma: a step keeps the rule exactly when a status that it takes for the confirmation
has come after the command. -/
theorem rollsBack_step {s s' : PowerService × RequestNote} (hs : Kept cfg s)
    (h : Runs.observed (PowerService.step cfg) (requestNote cfg) s l = some s') :
    RollsBack cfg s l s' ↔ HeardSinceCommand s l := by
  obtain ⟨s, n⟩ := s
  obtain ⟨s', n'⟩ := s'
  obtain ⟨hstep, hnote⟩ := Runs.observed_eq_some.mp h
  obtain rfl : n' = requestNote cfg s l n := hnote
  constructor
  · intro hrule hfinds
    cases l with
    | advance =>
      obtain ⟨deadline, generation, latest, received, hphase, hnew, havailable, hshows⟩ :=
        findsEnabled_iff.mp hfinds
      have hlook := look_of_enabled deadline latest received hnew havailable hshows
      have hwakes : PowerService.wakes s deadline generation := Or.inl hnew
      have hnext : PowerService.advance cfg s = some (answer true (reachedText true)) := by
        unfold PowerService.advance
        dsimp only at hphase
        rw [hphase]
        dsimp only
        rw [if_pos hwakes]
        exact congrArg some hlook
      have hreply : PowerService.reply cfg s .advance = some ⟨true, reachedText true⟩ := by
        unfold PowerService.reply PowerService.serve
        rw [hnext]
        rfl
      have hphaseNote := hs.phase
      dsimp only at hphase hphaseNote
      rw [hphase] at hphaseNote
      have hanswered := hrule.answers _ hreply
      rw [requestNote_advance hnext rfl] at hanswered
      by_contra hunheard
      obtain hshown | hconfirmed := (hanswered hphaseNote.1).shown rfl
      · rw [hphaseNote.2.2 rfl] at hshown
        cases hshown
      · rw [hs.unheard ((Bool.not_eq_true _).mp hunheard)] at hconfirmed
        cases hconfirmed
    | _ => cases hfinds
  · intro hC
    exact ⟨fun r hr henable => answered_of_step hs hC hr henable, endsInTime_of_step hs hstep⟩

/-- The node and the observer before the first status. -/
def observedInitial (now : ℤ) : PowerService × RequestNote :=
  (.initial now, ⟨false, false, [], false, false⟩)

/-- A run keeps the rule if and only if, whenever the wait of a request to enable finds the drives
enabled, some status has arrived after its command. -/
theorem rollsBack_iff (cfg : Parameters) (now : ℤ) (labels : List Label) :
    Runs.Throughout (Runs.observed (PowerService.step cfg) (requestNote cfg)) (RollsBack cfg)
        (observedInitial now) labels ↔
      Runs.Meets (Runs.observed (PowerService.step cfg) (requestNote cfg)) HeardSinceCommand
        (observedInitial now) labels := by
  refine Runs.throughout_iff_meets_from (I := Kept cfg) ?_ ?_ ?_
    ⟨fun _ => rfl, by rintro ⟨⟩, trivial⟩
  · intro s l s' hs _ hstep
    exact hs.next hstep
  · intro s l s' hs hstep
    exact rollsBack_step hs hstep
  · -- A pass that finds the drives enabled is possible.
    intro s l hstep hfinds
    cases l with
    | advance =>
      obtain ⟨deadline, generation, latest, received, hphase, hnew, -⟩ := findsEnabled_iff.mp hfinds
      have hwakes : s.1.wakes deadline generation := Or.inl hnew
      simp only [Runs.observed, PowerService.step, PowerService.serve, PowerService.advance, hphase,
        if_pos hwakes, Option.map_some] at hstep
      cases hstep
    | _ => cases hfinds

/-! ## A status from before the command -/

/-- The default time-outs. -/
def defaultParameters : Parameters := ⟨5000, 1500, 1000⟩

/-- The status of 14 drives, which are all enabled or all disabled. -/
def uniformStatus (enabled : Bool) : ArmPowerStatus where
  jointNames := List.replicate 14 "joint"
  statusCodes := List.replicate 14 (if enabled then 39 else 64)
  enabled := List.replicate 14 enabled
  commandEnabled := enabled
  allEnabled := enabled
  message := ""

/-- A request to enable reads a status of disabled drives.  A status of enabled drives arrives
before its command is out, and nothing arrives after it. -/
def earlyRun : List Label :=
  [.status (uniformStatus false), .request true none, .status (uniformStatus true), .advance,
    .advance]

/-- The next step reports success for a request to enable, and no status that was fresh at the
request or has arrived after the command has shown the drives enabled. -/
def takesEarly (s : PowerService × RequestNote) : Bool :=
  let n := requestNote defaultParameters s.1 .advance s.2
  (s.1.reply defaultParameters .advance).any (fun r => r.success) && n.enable && !n.shown &&
    !n.confirmed

/-- The request is successful without a status after its command. -/
theorem status_before_command :
    ¬ Runs.Throughout (Runs.observed (PowerService.step defaultParameters)
        (requestNote defaultParameters)) (RollsBack defaultParameters) (observedInitial 0)
      (earlyRun ++ [.advance]) := by
  intro h
  obtain ⟨s, hs, -, hlast⟩ := Runs.reachable_of_run
    (Runs.observed (PowerService.step defaultParameters) (requestNote defaultParameters))
    (observedInitial 0) earlyRun
    (fun s => takesEarly s && (Runs.observed (PowerService.step defaultParameters)
      (requestNote defaultParameters) s .advance).isSome) (by decide +kernel)
  obtain ⟨htakes, hsome⟩ := Bool.and_eq_true_iff.mp hlast
  obtain ⟨s', hs'⟩ := Option.isSome_iff_exists.mp hsome
  have hnote := (Runs.observed_eq_some.mp hs').2
  have hrule := (h.last hs hs').answers
  rw [hnote] at hrule
  simp only [takesEarly, Bool.and_eq_true, Bool.not_eq_true', Option.any_eq_true] at htakes
  obtain ⟨⟨⟨⟨r, hr, hsuccess⟩, henable⟩, hunshown⟩, hunconfirmed⟩ := htakes
  obtain hshown | hconfirmed := (hrule r hr henable).shown hsuccess
  · rw [hunshown] at hshown
    cases hshown
  · rw [hunconfirmed] at hconfirmed
    cases hconfirmed

end Power

end JointController
