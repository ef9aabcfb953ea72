import JointController.Library.Observers
import JointController.Waist.System

/-!
# The zeroing of the waist

While the zero position is set, and afterwards until the waist is initialized again, the drive has
to stay disabled: no position frame may go out.

* `Note`, `note`: an observer notes a completed zeroing, and a queued target that is older than it.
* `Exclusive`: a step sends no position frame during a zeroing or after it.
* `Settled`: no target is pending when the zeroing disables the drive, none is queued until it
  returns, and afterwards no `read` takes the waist for initialized.
* `Moves`, `moves_of_step`: what a step can do to the worker, the procedure and the flags.
* `exclusive_of_settled`: the rule holds along every run of such steps.
* `not_exclusive_overtakenRun`: a target that is pending when the drive is disabled goes out.
-/

namespace JointController

namespace Waist

/-! ## The rule -/

/-- What an observer notes: a zeroing is complete and the waist was not initialized since, and the
pending target was queued before the drive was disabled. -/
structure Note where
  zeroed : Bool
  stale : Bool

namespace System

variable (cfg : Settings) (s : System)

/-- A queued target that the worker has not taken yet. -/
def targetPending : Bool :=
  match s.worker with
  | .running consumed => s.hw.targetSeq != consumed
  | _ => false

/-- The step sends the disable command of the zeroing. -/
def sendsDisable : Label → Bool
  | .sendDisable accepted =>
    match s.procedure with
    | .measured _ => s.hw.bridge && accepted
    | _ => false
  | _ => false

/-- The initialization is over, and it was successful. -/
def isInitialized : Bool := s.hw.initialized && !s.procedure.isInitializing

end System

/-- The observer. -/
def note (cfg : Settings) (s : System) (l : Label) (n : Note) : Note where
  zeroed :=
    match l with
    | .finishZero => true
    | .initStep _ => n.zeroed && !(s.step cfg l).any System.isInitialized
    | _ => n.zeroed
  stale :=
    match l with
    | .work _ _ | .startWorker => false
    | .write => n.stale && (s.hw.writeTarget cfg).isNone
    | _ => n.stale || s.sendsDisable l && s.targetPending

/-- A zeroing was completed, and since then the waist was not initialized nor is it being so. -/
def Zeroed (s : System × Note) : Prop :=
  s.2.zeroed = true ∧ s.1.procedure.isInitializing = false

/-- No position frame goes out from the disable command of a zeroing until its return, nor after a
successful one until the waist is initialized again, and no target from before it goes out at
all. -/
def Exclusive (cfg : Settings) (s : System × Note) (l : Label) (_ : System × Note) : Prop :=
  s.1.procedure.isZeroing = true ∨ Zeroed s ∨
      s.2.stale = true ∧ (∃ syncAccepted targetAccepted, l = .work syncAccepted targetAccepted) →
    ∀ f ∈ s.1.frames cfg l, f.releasesMotor cfg.nodeId = false

/-- The order of steps that the zeroing relies on. -/
structure Settled (cfg : Settings) (s : System × Note) (l : Label) : Prop where
  disable : s.1.sendsDisable l = true → s.1.targetPending = false
  write : l = .write → s.1.procedure.isZeroing = true → s.1.hw.writeTarget cfg = none
  read : (∃ period, l = .read period) → Zeroed s → s.1.hw.readsEnabled = false

variable {cfg : Settings} {s s' : System} {l : Label}

/-! ## Harmless frames -/

/-- No frame of a list enables the motor and releases the brake. -/
def Harmless (cfg : Settings) (sent : List Frame) : Prop :=
  ∀ f ∈ sent, f.releasesMotor cfg.nodeId = false

theorem harmless_nil : Harmless cfg [] := by
  intro f hf
  cases hf

theorem harmless_singleton {f : Frame} (h : f.releasesMotor cfg.nodeId = false) :
    Harmless cfg [f] := by
  intro g hg
  rw [List.mem_singleton.mp hg]
  exact h

theorem Harmless.append {fs gs : List Frame} (hf : Harmless cfg fs) (hg : Harmless cfg gs) :
    Harmless cfg (fs ++ gs) := by
  intro f hmem
  obtain hmem | hmem := List.mem_append.mp hmem
  · exact hf f hmem
  · exact hg f hmem

theorem harmless_sendFrame (hw : WaistHardware) (accepted : Bool) {f : Frame}
    (h : f.releasesMotor cfg.nodeId = false) : Harmless cfg (hw.sendFrame accepted f) := by
  unfold WaistHardware.sendFrame
  split_ifs
  · exact harmless_singleton h
  · exact harmless_nil

/-! ## The services -/

/-- A step of a service before its end. -/
def Label.isService : Label → Bool
  | .beginZero _ _ | .sendDisable _ | .disableAnswered _ | .sendZero _ | .zeroAnswered _
  | .measureAgain _ _ | .beginClearError _ | .clearErrorLow _ | .errorCleared
  | .clearErrorTimeout => true
  | _ => false

/-- A service goes on with its procedure, or it gives up. -/
inductive Serves (cfg : Settings) (s : System) (l : Label) : System × Output → Prop
  | goesOn (procedure : Procedure) (sent : List Frame) (hsent : Harmless cfg sent)
      (hzeroing : procedure.isZeroing = true →
        s.procedure.isZeroing = true ∨ s.sendsDisable l = true) :
      Serves cfg s l (s.proceed procedure sent)
  | givesUp (message : String) : Serves cfg s l (s.answer false message)

theorem procedure_of_serves (h : s.serves = true) : s.procedure = .idle := by
  unfold System.serves at h
  rw [Bool.and_eq_true, beq_iff_eq] at h
  exact h.1

/-- A service goes on when a request is accepted or answered. -/
theorem serves_ite {accepted : Bool} {procedure : Procedure} {sent : List Frame} {message : String}
    (hsent : Harmless cfg sent)
    (hzeroing : accepted = true → procedure.isZeroing = true →
      s.procedure.isZeroing = true ∨ s.sendsDisable l = true) :
    Serves cfg s l (if accepted then s.proceed procedure sent else s.answer false message) := by
  cases accepted with
  | true => exact Serves.goesOn procedure sent hsent (hzeroing rfl)
  | false => exact Serves.givesUp message

/-- The step lemma for the services. -/
theorem serves_of_transition {next : System × Output} (hl : l.isService = true)
    (h : s.transition cfg l = some next) :
    s.procedure.isInitializing = false ∧ Serves cfg s l next := by
  have hsdo : ∀ command index value,
      Harmless cfg [sdoRequest cfg.nodeId command index value] := fun command index value =>
    harmless_singleton (releasesMotor_sdoRequest cfg.nodeId command index value)
  have hclear : ∀ b, Harmless cfg [buildClearErrorFrameCommand cfg.nodeId b] := fun b =>
    harmless_singleton (releasesMotor_buildClearErrorFrameCommand cfg.nodeId b)
  cases l with
  | beginZero accepted before =>
    obtain ⟨hserves, h⟩ := Option.ite_none_right_eq_some.mp h
    obtain rfl := Option.some_inj.mp h
    refine ⟨by rw [procedure_of_serves hserves]; rfl, serves_ite ?_ fun _ => by rintro ⟨⟩⟩
    exact harmless_sendFrame _ _ (releasesMotor_sdoRequest _ _ _ _)
  | sendDisable accepted =>
    cases hp : s.procedure with
    | measured before =>
      simp only [System.transition, hp, Option.some_inj] at h
      subst h
      refine ⟨rfl, serves_ite (hsdo _ _ _) fun hsent _ => Or.inr ?_⟩
      simp only [System.sendsDisable, hp]
      exact hsent
    | _ =>
      simp only [System.transition, hp] at h
      cases h
  | disableAnswered acknowledged =>
    cases hp : s.procedure with
    | disableSent before =>
      simp only [System.transition, hp, Option.some_inj] at h
      subst h
      exact ⟨rfl, serves_ite harmless_nil fun _ _ => Or.inl (by rw [hp]; rfl)⟩
    | _ =>
      simp only [System.transition, hp] at h
      cases h
  | sendZero accepted =>
    cases hp : s.procedure with
    | disabled before =>
      simp only [System.transition, hp, Option.some_inj] at h
      subst h
      exact ⟨rfl, serves_ite (hsdo _ _ _) fun _ _ => Or.inl (by rw [hp]; rfl)⟩
    | _ =>
      simp only [System.transition, hp] at h
      cases h
  | zeroAnswered acknowledged =>
    cases hp : s.procedure with
    | zeroSent before =>
      simp only [System.transition, hp, Option.some_inj] at h
      subst h
      exact ⟨rfl, serves_ite harmless_nil fun _ _ => Or.inl (by rw [hp]; rfl)⟩
    | _ =>
      simp only [System.transition, hp] at h
      cases h
  | measureAgain accepted after =>
    cases hp : s.procedure with
    | zeroed before =>
      simp only [System.transition, hp, Option.some_inj] at h
      subst h
      refine ⟨rfl, Serves.goesOn _ _ ?_ fun _ => Or.inl (by rw [hp]; rfl)⟩
      exact harmless_sendFrame _ _ (releasesMotor_sdoRequest _ _ _ _)
    | _ =>
      simp only [System.transition, hp] at h
      cases h
  | beginClearError accepted =>
    obtain ⟨hserves, h⟩ := Option.ite_none_right_eq_some.mp h
    obtain rfl := Option.some_inj.mp h
    refine ⟨by rw [procedure_of_serves hserves]; rfl, ?_⟩
    split_ifs
    · exact Serves.givesUp _
    · exact Serves.goesOn _ _ (hclear true) (by rintro ⟨⟩)
    · exact Serves.givesUp _
  | clearErrorLow accepted =>
    obtain ⟨hp, h⟩ := Option.ite_none_right_eq_some.mp h
    obtain rfl := Option.some_inj.mp h
    exact ⟨by rw [hp]; rfl, serves_ite (hclear false) fun _ => by rintro ⟨⟩⟩
  | errorCleared =>
    obtain ⟨hp, h⟩ := Option.ite_none_right_eq_some.mp h
    obtain rfl := Option.some_inj.mp h
    exact ⟨by rw [hp.1]; rfl, Serves.goesOn _ _ harmless_nil (by rintro ⟨⟩)⟩
  | clearErrorTimeout =>
    obtain ⟨hp, h⟩ := Option.ite_none_right_eq_some.mp h
    obtain rfl := Option.some_inj.mp h
    exact ⟨by rw [hp]; rfl, Serves.givesUp _⟩
  | _ => cases hl

theorem Serves.harmless {next : System × Output} (h : Serves cfg s l next) :
    Harmless cfg next.2.frames := by
  cases h with
  | goesOn procedure sent hsent hzeroing => exact hsent
  | givesUp message => exact harmless_nil

/-! ## What the steps change -/

/-- What a step can do to the worker, the procedure and the flags. -/
inductive Moves (cfg : Settings) (s : System) : Label → System → Prop
  | read (period : ℚ) : Moves cfg s (.read period) { s with hw := s.hw.read cfg period }
  | write : Moves cfg s .write { s with hw := s.hw.write cfg }
  | work (syncAccepted targetAccepted : Bool) (consumed : UInt64) (hw : WaistHardware)
      (hworker : s.worker = .running consumed) (hinit : hw.initialized = s.hw.initialized)
      (hseq : hw.targetSeq = s.hw.targetSeq) :
      Moves cfg s (.work syncAccepted targetAccepted)
        { s with hw := hw, worker := .running s.hw.targetSeq }
  | startWorker : Moves cfg s .startWorker { s with worker := .running s.hw.targetSeq }
  | outside (l : Label) (hw : WaistHardware) (hl : l ≠ .finishZero)
      (hinit : hw.initialized = s.hw.initialized) (hseq : hw.targetSeq = s.hw.targetSeq) :
      Moves cfg s l { s with hw := hw }
  | serve (l : Label) (procedure : Procedure) (hl : l ≠ .finishZero)
      (hidle : s.procedure.isInitializing = false)
      (hzeroing : procedure.isZeroing = true →
        s.procedure.isZeroing = true ∨ s.sendsDisable l = true) :
      Moves cfg s l { s with procedure := procedure }
  | finishZero : Moves cfg s .finishZero { s.clearFlags with procedure := .idle }
  | initStep (proceeds : Bool) (hw : WaistHardware) (caller : Caller) (stage : Stage)
      (hinitializing : s.procedure.isInitializing = true) :
      Moves cfg s (.initStep proceeds)
        { s with hw := hw, procedure := .initializing caller stage }
  | initialized (proceeds : Bool) (s' : System) (hidle : s'.procedure = .idle) :
      Moves cfg s (.initStep proceeds) s'
  | opened (acquired online : Bool) :
      Moves cfg s (.beginActivate acquired online) (s.openBridge cfg online)
  | stopped (frameAccepted requestAccepted : Bool) :
      Moves cfg s (.beginDeactivate frameAccepted requestAccepted)
        { s with worker := .stopped, lifecycle := .deactivating }
  | closed (hidle : s.procedure = .idle) : Moves cfg s .finishDeactivate s.closeBridge

/-- The initialization returns, or an activation tries again. -/
theorem moves_initialized {proceeds : Bool} (caller : Caller) (hw : WaistHardware) (ok : Bool)
    (hinitializing : s.procedure.isInitializing = true) :
    Moves cfg s (.initStep proceeds) ({ s with hw := hw }.initialized caller ok).1 := by
  cases caller with
  | clearError => exact Moves.initialized proceeds _ rfl
  | activation attempts =>
    unfold System.initialized
    dsimp only
    split_ifs with hok hattempts
    · exact Moves.initialized proceeds _ rfl
    · exact Moves.initialized proceeds _ rfl
    · exact Moves.initStep proceeds _ _ _ hinitializing

theorem moves_initStage {proceeds : Bool} (caller : Caller) (stage : Stage)
    (h : s.procedure = .initializing caller stage) :
    Moves cfg s (.initStep proceeds) (s.initStage cfg caller stage proceeds).1 := by
  have hinitializing : s.procedure.isInitializing = true := by
    rw [h]
    rfl
  have hgoes : ∀ (hw : WaistHardware) (next : Stage) (sent : List Frame),
      Moves cfg s (.initStep proceeds)
        ({ s with hw := hw }.proceed (.initializing caller next) sent).1 :=
    fun hw next sent => Moves.initStep proceeds hw caller next hinitializing
  have hreturns : ∀ (hw : WaistHardware) (ok : Bool),
      Moves cfg s (.initStep proceeds) ({ s with hw := hw }.initialized caller ok).1 :=
    fun hw ok => moves_initialized caller hw ok hinitializing
  have hwaits : Moves cfg s (.initStep proceeds) s := Moves.outside _ s.hw (by rintro ⟨⟩) rfl rfl
  cases stage with
  | request index =>
    unfold System.initStage
    dsimp only
    split
    · split_ifs
      exacts [hgoes _ _ _, hreturns _ _]
    · exact hgoes _ _ _
  | _ =>
    unfold System.initStage
    dsimp only
    split_ifs
    all_goals first
      | exact hwaits
      | exact hgoes _ _ _
      | exact hreturns _ _

/-- A step of a service moves the driver so. -/
theorem Serves.moves {next : System × Output} (hl : l ≠ .finishZero)
    (hidle : s.procedure.isInitializing = false) (h : Serves cfg s l next) :
    Moves cfg s l next.1 := by
  cases h with
  | goesOn procedure sent hsent hzeroing => exact Moves.serve l procedure hl hidle hzeroing
  | givesUp message => exact Moves.serve l .idle hl hidle fun h => by cases h

/-- Every step moves the driver in one of these ways. -/
theorem moves_of_transition {next : System × Output} (h : s.transition cfg l = some next) :
    Moves cfg s l next.1 := by
  cases l with
  | read period =>
    obtain rfl := Option.some_inj.mp h
    exact Moves.read period
  | write =>
    obtain rfl := Option.some_inj.mp h
    exact Moves.write
  | work syncAccepted targetAccepted =>
    cases hw : s.worker with
    | running consumed =>
      simp only [System.transition, hw, Option.some_inj] at h
      subst h
      exact Moves.work _ _ consumed _ hw rfl rfl
    | _ =>
      simp only [System.transition, hw] at h
      cases h
  | startWorker =>
    simp only [System.transition] at h
    obtain ⟨hstarting, h⟩ := Option.ite_none_right_eq_some.mp h
    obtain rfl := Option.some_inj.mp h
    exact Moves.startWorker
  | receive frame =>
    simp only [System.transition] at h
    obtain ⟨hbridge, h⟩ := Option.ite_none_right_eq_some.mp h
    obtain rfl := Option.some_inj.mp h
    exact Moves.outside _ _ (by rintro ⟨⟩) (s.hw.initialized_handleBridgeFrame cfg frame)
      (s.hw.targetSeq_handleBridgeFrame cfg frame)
  | setCommands position velocity acceleration =>
    obtain rfl := Option.some_inj.mp h
    exact Moves.outside _ _ (by rintro ⟨⟩) rfl rfl
  | elapse duration =>
    simp only [System.transition] at h
    obtain ⟨hduration, h⟩ := Option.ite_none_right_eq_some.mp h
    obtain rfl := Option.some_inj.mp h
    exact Moves.outside _ _ (by rintro ⟨⟩) rfl rfl
  | setOnline online =>
    obtain rfl := Option.some_inj.mp h
    exact Moves.outside _ _ (by rintro ⟨⟩) rfl rfl
  | finishZero =>
    cases hp : s.procedure with
    | measuredAgain before after =>
      simp only [System.transition, hp, Option.some_inj] at h
      subst h
      exact Moves.finishZero
    | _ =>
      simp only [System.transition, hp] at h
      cases h
  | beginZero _ _ | sendDisable _ | disableAnswered _ | sendZero _ | zeroAnswered _
  | measureAgain _ _ | beginClearError _ | clearErrorLow _ | errorCleared | clearErrorTimeout =>
    obtain ⟨hidle, hserves⟩ := serves_of_transition rfl h
    exact hserves.moves (by rintro ⟨⟩) hidle
  | initStep proceeds =>
    cases hp : s.procedure with
    | initializing caller stage =>
      simp only [System.transition, hp, Option.some_inj] at h
      subst h
      exact moves_initStage caller stage hp
    | _ =>
      simp only [System.transition, hp] at h
      cases h
  | beginActivate acquired online =>
    simp only [System.transition] at h
    obtain ⟨hinactive, h⟩ := Option.ite_none_right_eq_some.mp h
    obtain rfl := Option.some_inj.mp h
    split_ifs
    · exact Moves.opened acquired online
    · exact Moves.outside _ _ (by rintro ⟨⟩) rfl rfl
  | beginDeactivate frameAccepted requestAccepted =>
    simp only [System.transition] at h
    obtain ⟨hactive, h⟩ := Option.ite_none_right_eq_some.mp h
    obtain rfl := Option.some_inj.mp h
    exact Moves.stopped frameAccepted requestAccepted
  | finishDeactivate =>
    simp only [System.transition] at h
    obtain ⟨hdone, h⟩ := Option.ite_none_right_eq_some.mp h
    obtain rfl := Option.some_inj.mp h
    exact Moves.closed hdone.2

theorem moves_of_step (h : s.step cfg l = some s') : Moves cfg s l s' := by
  obtain ⟨next, hnext, rfl⟩ := Option.map_eq_some_iff.mp h
  exact moves_of_transition hnext

/-! ## The frames of a step -/

/-- The worker sends no position frame when no target is pending or the waist is not initialized. -/
theorem harmless_runWorker (consumed : UInt64) (syncAccepted targetAccepted : Bool)
    (h : s.hw.initialized = false ∨ s.hw.targetSeq = consumed) :
    Harmless cfg (s.runWorker cfg consumed syncAccepted targetAccepted).2.frames := by
  refine Harmless.append ?_ ?_
  · split_ifs
    · exact harmless_sendFrame _ _ (releasesMotor_syncFrame cfg.nodeId)
    · exact harmless_nil
  · split_ifs with hpending
    · obtain hoff | hconsumed := h
      · rw [WaistHardware.moveWaistAbsRadFrame_of_not_initialized cfg s.hw _ _ hoff]
        exact harmless_nil
      · exact (hpending hconsumed).elim
    · exact harmless_nil

/-- Only the worker and the initialization send position frames. -/
theorem harmless_of_transition {next : System × Output} (hidle : s.procedure.isInitializing = false)
    (hworker : ∀ consumed, s.worker = .running consumed →
      s.hw.initialized = false ∨ s.hw.targetSeq = consumed)
    (h : s.transition cfg l = some next) : Harmless cfg next.2.frames := by
  cases l with
  | work syncAccepted targetAccepted =>
    cases hw : s.worker with
    | running consumed =>
      simp only [System.transition, hw, Option.some_inj] at h
      subst h
      exact harmless_runWorker consumed _ _ (hworker consumed hw)
    | _ =>
      simp only [System.transition, hw] at h
      cases h
  | initStep proceeds =>
    cases hp : s.procedure with
    | initializing caller stage =>
      rw [hp] at hidle
      cases hidle
    | _ =>
      simp only [System.transition, hp] at h
      cases h
  | beginDeactivate frameAccepted requestAccepted =>
    obtain ⟨hactive, h⟩ := Option.ite_none_right_eq_some.mp h
    obtain rfl := Option.some_inj.mp h
    by_cases hready : s.hw.canTransportReady = true
    · simp only [hready, if_true]
      exact (harmless_sendFrame _ _ (releasesMotor_buildClearErrorFrameCommand _ _)).append
        (harmless_sendFrame _ _ (releasesMotor_sdoRequest _ _ _ _))
    · simp only [hready]
      exact harmless_nil
  | finishZero =>
    cases hp : s.procedure with
    | measuredAgain before after =>
      simp only [System.transition, hp, Option.some_inj] at h
      subst h
      exact harmless_nil
    | _ =>
      simp only [System.transition, hp] at h
      cases h
  | beginZero _ _ | sendDisable _ | disableAnswered _ | sendZero _ | zeroAnswered _
  | measureAgain _ _ | beginClearError _ | clearErrorLow _ | errorCleared | clearErrorTimeout =>
    exact (serves_of_transition rfl h).2.harmless
  | startWorker | receive frame | elapse duration | finishDeactivate =>
    obtain ⟨hp, h⟩ := Option.ite_none_right_eq_some.mp h
    obtain rfl := Option.some_inj.mp h
    exact harmless_nil
  | beginActivate acquired online =>
    obtain ⟨hp, h⟩ := Option.ite_none_right_eq_some.mp h
    obtain rfl := Option.some_inj.mp h
    split_ifs
    all_goals exact harmless_nil
  | read period | write | setCommands position velocity acceleration | setOnline online =>
    obtain rfl := Option.some_inj.mp h
    exact harmless_nil

/-! ## Runs -/

/-- During a zeroing no target is pending, afterwards the waist is not initialized, and there is no
pending target from before it. -/
structure Shut (s : System × Note) : Prop where
  settled : s.1.procedure.isZeroing = true → s.1.targetPending = false
  off : Zeroed s → s.1.hw.initialized = false
  fresh : s.2.stale = false

theorem stale_note {n : Note} (hfresh : n.stale = false)
    (hdisable : s.sendsDisable l = true → s.targetPending = false) :
    (note cfg s l n).stale = false := by
  have hpending : (s.sendsDisable l && s.targetPending) = false := by
    cases hsends : s.sendsDisable l with
    | true => rw [hdisable hsends, Bool.and_false]
    | false => rw [Bool.false_and]
  unfold note
  dsimp only
  split
  · rfl
  · rfl
  · rw [hfresh, Bool.false_and]
  · rw [hfresh, hpending, Bool.or_false]

theorem zeroed_of_note {n : Note} (hl : l ≠ .finishZero)
    (h : (note cfg s l n).zeroed = true) : n.zeroed = true := by
  cases l with
  | finishZero => exact (hl rfl).elim
  | initStep proceeds => exact (Bool.and_eq_true_iff.mp h).1
  | _ => exact h

theorem targetPending_of_worker {consumed : UInt64} (h : s.worker = .running consumed) :
    s.targetPending = (s.hw.targetSeq != consumed) := by
  unfold System.targetPending
  rw [h]

/-- A step that leaves the worker and the sequence number alone leaves the pending target alone. -/
theorem targetPending_congr (hworker : s'.worker = s.worker)
    (hseq : s'.hw.targetSeq = s.hw.targetSeq) : s'.targetPending = s.targetPending := by
  unfold System.targetPending
  rw [hworker, hseq]

/-- The step lemma for the pending target. -/
theorem settled_of_step {n : Note} (hs : Shut (s, n)) (hC : Settled cfg (s, n) l)
    (h : s.step cfg l = some s') (hzeroing : s'.procedure.isZeroing = true) :
    s'.targetPending = false := by
  cases moves_of_step h with
  | read period =>
    exact Eq.trans (targetPending_congr (s := s) rfl (s.hw.targetSeq_read cfg period))
      (hs.settled hzeroing)
  | write =>
    have hkeeps := s.hw.targetSeq_write cfg (hC.write rfl hzeroing)
    exact Eq.trans (targetPending_congr (s := s) rfl hkeeps) (hs.settled hzeroing)
  | work _ _ consumed hw hworker hinit hseq =>
    rw [targetPending_of_worker rfl]
    exact bne_eq_false_iff_eq.mpr hseq
  | startWorker =>
    rw [targetPending_of_worker rfl]
    exact bne_eq_false_iff_eq.mpr rfl
  | outside _ hw hl hinit hseq =>
    exact Eq.trans (targetPending_congr (s := s) rfl hseq) (hs.settled hzeroing)
  | serve _ procedure hl hidle hgoes =>
    refine Eq.trans (targetPending_congr (s := s) rfl rfl) ?_
    obtain hbefore | hsends := hgoes hzeroing
    · exact hs.settled hbefore
    · exact hC.disable hsends
  | finishZero => cases hzeroing
  | initStep _ hw caller stage hinitializing => cases hzeroing
  | initialized _ _ hidle =>
    rw [hidle] at hzeroing
    cases hzeroing
  | opened acquired online => cases hzeroing
  | stopped frameAccepted requestAccepted => rfl
  | closed hidle =>
    have hnot : s.procedure.isZeroing = true := hzeroing
    rw [hidle] at hnot
    cases hnot

/-- The step lemma for the flag. -/
theorem off_of_step {n : Note} (hs : Shut (s, n)) (hC : Settled cfg (s, n) l)
    (h : s.step cfg l = some s') (hzeroed : Zeroed (s', note cfg s l n)) :
    s'.hw.initialized = false := by
  obtain ⟨hnote, hnot⟩ := hzeroed
  have hbefore : l ≠ .finishZero → s.procedure.isInitializing = false →
      s.hw.initialized = false := fun hl hidle => hs.off ⟨zeroed_of_note hl hnote, hidle⟩
  cases moves_of_step h with
  | read period =>
    have hzeroed : Zeroed (s, n) := ⟨zeroed_of_note (by rintro ⟨⟩) hnote, hnot⟩
    exact s.hw.initialized_read cfg period (hs.off hzeroed) (hC.read ⟨period, rfl⟩ hzeroed)
  | write => exact s.hw.initialized_write cfg (hbefore (by rintro ⟨⟩) hnot)
  | work _ _ consumed hw hworker hinit hseq => exact hinit.trans (hbefore (by rintro ⟨⟩) hnot)
  | startWorker => exact hbefore (by rintro ⟨⟩) hnot
  | outside _ hw hl hinit hseq => exact hinit.trans (hbefore hl hnot)
  | serve _ procedure hl hidle hgoes => exact hbefore hl hidle
  | finishZero => rfl
  | initStep _ hw caller stage hinitializing => cases hnot
  | initialized proceeds _ hidle =>
    -- The observer closes the window when the initialization was successful.
    have hfailed := (Bool.and_eq_true_iff.mp hnote).2
    rw [h, Option.any_some, Bool.not_eq_true'] at hfailed
    unfold System.isInitialized at hfailed
    rw [hnot, Bool.not_false, Bool.and_true] at hfailed
    exact hfailed
  | opened acquired online => cases hnot
  | stopped frameAccepted requestAccepted => exact hbefore (by rintro ⟨⟩) hnot
  | closed hidle => rfl

theorem Shut.next {s s' : System × Note} (hs : Shut s) (hC : Settled cfg s l)
    (h : Runs.observed (System.step cfg) (note cfg) s l = some s') : Shut s' := by
  obtain ⟨s, n⟩ := s
  obtain ⟨s', n'⟩ := s'
  obtain ⟨hstep, hnote⟩ := Runs.observed_eq_some.mp h
  obtain rfl : n' = note cfg s l n := hnote
  exact ⟨settled_of_step hs hC hstep, off_of_step hs hC hstep, stale_note hs.fresh hC.disable⟩

/-- During a zeroing, and after it, a step sends no position frame. -/
theorem Shut.exclusive {s s' : System × Note} (hs : Shut s)
    (h : Runs.observed (System.step cfg) (note cfg) s l = some s') : Exclusive cfg s l s' := by
  intro hshut
  obtain ⟨next, hnext, -⟩ := Option.map_eq_some_iff.mp (Runs.observed_eq_some.mp h).1
  have hharmless : Harmless cfg next.2.frames := by
    obtain hzeroing | hzeroed | ⟨hstale, -⟩ := hshut
    · refine harmless_of_transition ?_ (fun consumed hworker => Or.inr ?_) hnext
      · cases hp : s.1.procedure with
        | initializing caller stage =>
          rw [hp] at hzeroing
          cases hzeroing
        | _ => rfl
      · have hsettled := hs.settled hzeroing
        rw [targetPending_of_worker hworker] at hsettled
        exact bne_eq_false_iff_eq.mp hsettled
    · exact harmless_of_transition hzeroed.2 (fun _ _ => Or.inl (hs.off hzeroed)) hnext
    · rw [hs.fresh] at hstale
      cases hstale
  unfold System.frames
  rw [hnext]
  exact hharmless

/-- The driver and the observer before the first activation. -/
def observedInitial (now : ℚ) : System × Note := (System.initial now, ⟨false, false⟩)

theorem shut_initial (now : ℚ) : Shut (observedInitial now) := by
  refine ⟨fun h => ?_, fun h => ?_, rfl⟩
  · cases h
  · rfl

/-- Along every run whose steps keep the order, no position frame is sent from the disable command
of a zeroing until its return, nor afterwards until the waist is initialized again. -/
theorem exclusive_of_settled (cfg : Settings) (now : ℚ) {labels : List Label}
    (h : Runs.Meets (Runs.observed (System.step cfg) (note cfg)) (Settled cfg)
      (observedInitial now) labels) :
    Runs.Throughout (Runs.observed (System.step cfg) (note cfg)) (Exclusive cfg)
      (observedInitial now) labels :=
  Runs.throughout_of_meets (fun _ _ _ hs hC hstep => hs.next hC hstep)
    (fun _ _ _ hs _ hstep => hs.exclusive hstep) (shut_initial now) h

/-! ## A target that is pending when the drive is disabled -/

/-- The default configuration. -/
def sampleSettings : Settings where
  nodeId := 0x0F
  initRetryCount := 3
  profileVel := 10
  profileAcc := 2000
  minRad := 0
  maxRad := 157 / 100
  commandResendHz := 100
  feedbackSyncHz := 100
  commandEpsilon := 1 / 10000
  sign := 1
  initRetryCount_pos := Nat.succ_pos 2
  limits := by decide +kernel
  commandResendHz_bound := by decide +kernel
  feedbackSyncHz_bound := by decide +kernel
  commandEpsilon_pos := by decide +kernel
  sign_abs := Or.inl rfl

/-- The drive reports that it is enabled at its zero position, with the brake released. -/
def enabledFrame : Frame := ⟨0x30F, [0, 0, 0, 0, 0, 0, 0, 0, 0, 0, 1, 0xC0]⟩

/-- An activation, after which the worker starts. -/
def activation : List Label :=
  [Label.beginActivate true true, .initStep true, .receive enabledFrame] ++
    List.replicate 14 (Label.initStep true) ++ [Label.startWorker]

/-- A target is queued, and the zeroing disables the drive before the worker takes the target. -/
def overtakenRun : List Label :=
  activation ++
    [Label.setCommands (.finite (1 / 2)) 0 0, .write, .beginZero true none, .sendDisable true]

/-- A zeroing is under way, and the worker sends a position frame. -/
def overtaken (s : System × Note) : Bool :=
  s.1.procedure.isZeroing &&
    (s.1.frames sampleSettings (.work true true)).any fun f =>
      f.releasesMotor sampleSettings.nodeId

/-- The brake is released while the zeroing waits for the drive to be disabled. -/
theorem not_exclusive_overtakenRun :
    ¬ Runs.Throughout (Runs.observed (System.step sampleSettings) (note sampleSettings))
      (Exclusive sampleSettings) (observedInitial 0) (overtakenRun ++ [.work true true]) := by
  intro h
  obtain ⟨s, hs, -, hlast⟩ := Runs.reachable_of_run
    (Runs.observed (System.step sampleSettings) (note sampleSettings)) (observedInitial 0)
    overtakenRun
    (fun s => overtaken s && (Runs.observed (System.step sampleSettings) (note sampleSettings) s
      (.work true true)).isSome) (by decide +kernel)
  obtain ⟨hovertaken, hsome⟩ := Bool.and_eq_true_iff.mp hlast
  obtain ⟨s', hs'⟩ := Option.isSome_iff_exists.mp hsome
  obtain ⟨hzeroing, hsent⟩ := Bool.and_eq_true_iff.mp hovertaken
  obtain ⟨f, hf, hreleases⟩ := List.any_eq_true.mp hsent
  have hsilent := h.last hs hs' (Or.inl hzeroing) f hf
  rw [hsilent] at hreleases
  cases hreleases

/-- A test for the order of steps. -/
def settles (cfg : Settings) (s : System × Note) (l : Label) : Bool :=
  (!s.1.sendsDisable l || !s.1.targetPending) &&
    match l with
    | .write => (s.1.hw.writeTarget cfg).isNone
    | .read _ => !s.1.hw.readsEnabled
    | _ => true

theorem settled_of_settles {s : System × Note} (h : settles cfg s l = true) :
    Settled cfg s l := by
  obtain ⟨hdisable, hl⟩ := Bool.and_eq_true_iff.mp h
  refine ⟨fun hsends => ?_, ?_, ?_⟩
  · rw [hsends] at hdisable
    exact (Bool.not_eq_true' _).mp hdisable
  · rintro rfl -
    exact Option.isNone_iff_eq_none.mp hl
  · rintro ⟨period, rfl⟩ -
    exact (Bool.not_eq_true' _).mp hl

/-- A zeroing of a waist that is at rest, after which the error service initializes it again. -/
def restingRun : List Label :=
  activation ++
    [Label.beginZero true none, .sendDisable true, .work true true, .disableAnswered true,
      .sendZero true, .zeroAnswered true, .measureAgain true none, .finishZero, .read (1 / 100),
      .work true true, .beginClearError true, .clearErrorLow true, .receive enabledFrame,
      .errorCleared] ++ List.replicate 15 (Label.initStep true)

theorem exclusive_restingRun :
    Runs.Throughout (Runs.observed (System.step sampleSettings) (note sampleSettings))
      (Exclusive sampleSettings) (observedInitial 0) restingRun :=
  exclusive_of_settled sampleSettings 0 (Runs.meets_of_passes
    (fun _ _ h => settled_of_settles h)
    (show Runs.passes _ (settles sampleSettings) _ _ = true by decide +kernel))

end Waist

end JointController
