import JointController.Joint.Batch
import JointController.Library.CriticalSection
import JointController.Library.Observers

/-!
# What becomes of a joint batch

Requests come in at any time, on any number of threads whose callbacks run in any order, between
messages with any content.  What each callback has gone through is noted along a run.

* `Admissible`: what the targets of a batch are in relation to the positions that they were built
  from, with `admissible_of_buildTarget`.
* `Forwarded`: what a forwarded request has behind it.  `forwards_admissible`: every one has it, and
  no other callback is at work then.  `forwards_valid`: the other service takes its numbers.
* `Answered`: what a response has behind it.  `answers_agree`: every response agrees with the last
  status of its request, and says whether the request was forwarded.
-/

open Checks CriticalSection Runs

namespace JointController

namespace Joint

variable {ι : Type*} {model : ArmModel} {cfg : BatchParameters} {request : BatchRequest}

/-! ## The targets -/

/-- What the node knows when the positions are copied: all of it is fresh, the workspace is running,
and the arms rest. -/
structure BatchControl.Usable (cfg : BatchParameters) (s : BatchControl ι) : Prop where
  workspace : s.hasWorkspaceStatus ∧ ¬ s.Late s.lastWorkspaceStatusTime cfg.workspaceTimeoutMs
  running : s.lastWorkspaceStatus.accepted ∧ s.lastWorkspaceStatus.state = .running
  positions : s.latestJointStateComplete ∧ ¬ s.Late s.lastJointStateTime cfg.feedbackTimeoutMs
  motion : s.hasMotionStatus ∧ ¬ s.Late s.lastMotionStatusTime cfg.feedbackTimeoutMs
  rest : s.lastMotionStatus.isMoving = false
  finite : ∀ i, (s.qCurrent i).isFinite

/-- The target that a request has for a joint that it names. -/
def BatchRequest.goal (request : BatchRequest) (current value : Double) : Double :=
  if request.relative then current + value else value

/-- The targets are those that the request asks for, the joints that it does not name stay where
they are, all targets are within the limits, none is far from the position of its joint, and some
joint has to move. -/
structure Admissible (model : ArmModel) (cfg : BatchParameters) (request : BatchRequest)
    (current target : ArmPositions) : Prop where
  vel : request.vel.isFinite ∧ ¬ request.vel ≤ 0 ∧ ¬ cfg.maxVelocityRadS < request.vel
  acc : request.acc.isFinite ∧ ¬ request.acc ≤ 0 ∧ ¬ cfg.maxAccelerationRadS2 < request.acc
  size : request.jointNames ≠ [] ∧ request.jointNames.length = request.values.length
  nodup : request.jointNames.Nodup
  named : ∀ name value, (name, value) ∈ request.jointNames.zip request.values →
    ∃ i, canonicalJointNames i = name ∧ value.isFinite ∧
      target i = request.goal (current i) value
  others : ∀ i, canonicalJointNames i ∉ request.jointNames → target i = current i
  within : ∀ i, (target i).isFinite ∧
    ¬ target i < model.lowerPositionLimit (model.canonicalModelIndex i) ∧
    ¬ model.upperPositionLimit (model.canonicalModelIndex i) < target i
  near : ∀ i, ¬ cfg.maxSingleJointDeltaRad < (target i - current i).abs
  moves : ∃ i, ¬ (target i - current i).abs ≤ cfg.noopJointToleranceRad

theorem usable_of_snapshotCurrent {s : BatchControl ι} (hfinite : ∀ i, (s.qCurrent i).isFinite)
    (h : s.snapshotCurrent cfg = .ok ()) : s.Usable cfg := by
  unfold BatchControl.snapshotCurrent at h
  simp only [bind_eq_ok, refuse_eq_ok, not_or, not_not, ne_eq] at h
  obtain ⟨hworkspace, hrunning, hpositions, hmotion, hrest⟩ := h
  exact ⟨hworkspace, hrunning, hpositions, hmotion, Bool.eq_false_iff.mpr hrest, hfinite⟩

theorem canonicalIndex_eq_some {name : String} {i : Fin 14} :
    canonicalIndex name = some i ↔ canonicalJointNames i = name := by
  unfold canonicalIndex
  constructor
  · intro h
    simpa using List.find?_some h
  · rintro rfl
    have hsome : ((List.finRange 14).find?
        fun j => decide (canonicalJointNames j = canonicalJointNames i)).isSome = true := by
      rw [List.find?_isSome]
      exact ⟨i, List.mem_finRange i, decide_eq_true rfl⟩
    obtain ⟨j, hj⟩ := Option.isSome_iff_exists.mp hsome
    have hname : canonicalJointNames j = canonicalJointNames i := by
      simpa using List.find?_some hj
    rw [hj, canonicalJointNames_injective hname]

/-- The targets after all joints of a request. -/
structure Filled (relative : Bool) (current : ArmPositions) (entries : List (String × Double))
    (seen : List String) (before after : ArmPositions) : Prop where
  nodup : (entries.map Prod.fst).Nodup
  disjoint : ∀ name ∈ entries.map Prod.fst, name ∉ seen
  named : ∀ name value, (name, value) ∈ entries → ∃ i, canonicalJointNames i = name ∧
    value.isFinite ∧ after i = if relative then current i + value else value
  others : ∀ i, canonicalJointNames i ∉ entries.map Prod.fst → after i = before i

theorem filled_of_fillTarget {relative : Bool} {current after : ArmPositions}
    (entries : List (String × Double)) (seen : List String) (before : ArmPositions)
    (h : fillTarget relative current entries seen before = (after, .ok ())) :
    Filled relative current entries seen before after := by
  induction entries generalizing seen before with
  | nil =>
    cases h
    exact ⟨List.nodup_nil, by simp, by simp, fun _ _ => rfl⟩
  | cons entry entries ih =>
    obtain ⟨name, value⟩ := entry
    unfold fillTarget at h
    split at h
    · cases h
    · rename_i i hi
      rw [canonicalIndex_eq_some] at hi
      by_cases hseen : name ∈ seen
      · rw [if_pos hseen] at h
        cases h
      by_cases hfinite : value.isFinite = true
      · rw [if_neg hseen, if_neg (not_not.mpr hfinite)] at h
        obtain ⟨hnodup, hdisjoint, hnamed, hothers⟩ := ih _ _ h
        have hnew : name ∉ entries.map Prod.fst :=
          fun hmem => hdisjoint name hmem List.mem_cons_self
        refine ⟨List.nodup_cons.mpr ⟨hnew, hnodup⟩, ?_, ?_, ?_⟩
        · intro other hother
          rcases List.mem_cons.mp hother with rfl | hold
          · exact hseen
          · exact fun hmem => hdisjoint other hold (List.mem_cons_of_mem _ hmem)
        · intro other number hmem
          rcases List.mem_cons.mp hmem with heq | hold
          · cases heq
            refine ⟨i, hi, hfinite, ?_⟩
            rw [hothers i (hi ▸ hnew), Function.update_self]
          · exact hnamed other number hold
        · intro j hj
          rw [List.map_cons, List.mem_cons, not_or] at hj
          have hne : j ≠ i := by
            rintro rfl
            exact hj.1 hi
          rw [hothers j hj.2, Function.update_of_ne hne]
      · rw [if_neg hseen, if_pos hfinite] at h
        cases h

/-- The targets of a request without an error, for which some joint has to move, are admissible. -/
theorem admissible_of_buildTarget {current target : ArmPositions}
    (h : request.buildTarget model cfg current = (target, .ok ()))
    (hmoves : alreadyAtTarget cfg current target = false) :
    Admissible model cfg request current target := by
  unfold BatchRequest.buildTarget at h
  cases hcheck : request.check cfg with
  | error error =>
    rw [hcheck] at h
    cases h
  | ok u =>
  rw [hcheck] at h
  replace hcheck : request.check cfg = .ok () := hcheck
  unfold BatchRequest.check at hcheck
  simp only [bind_eq_ok, refuse_eq_ok, not_or, not_not, ne_eq] at hcheck
  obtain ⟨hsize, -, hvel, hacc⟩ := hcheck
  dsimp only at h
  split at h
  · cases h
  rename_i filled _ hfill
  obtain ⟨rfl, hreach⟩ := Prod.mk.inj h
  obtain ⟨hnodup, -, hnamed, hothers⟩ := filled_of_fillTarget _ _ _ hfill
  rw [List.map_fst_zip hsize.2.2.le] at hnodup hothers
  have hall : ∀ i, checkReach model cfg current filled i = .ok () := fun i =>
    forM_eq_ok.mp hreach i (List.mem_finRange i)
  unfold checkReach at hall
  simp only [bind_eq_ok, refuse_eq_ok, not_or, not_not] at hall
  refine ⟨hvel, hacc, ⟨hsize.1, hsize.2.2⟩, hnodup, hnamed, hothers, fun i => (hall i).1,
    fun i => (hall i).2, ?_⟩
  unfold alreadyAtTarget at hmoves
  obtain ⟨i, -, hi⟩ := List.all_eq_false.mp hmoves
  exact ⟨i, fun hle => hi (decide_eq_true hle)⟩

/-- When each joint has one variable, the other service takes the numbers of such a batch. -/
theorem Admissible.valid {current target : ArmPositions} (hone : model.OneDof)
    (h : Admissible model cfg request current target) :
    model.Valid (makeAbsoluteRequest target request.vel request.acc) where
  vel := ⟨h.vel.1, h.vel.2.1⟩
  acc := ⟨h.acc.1, h.acc.2.1⟩
  joints i := by
    obtain ⟨hfinite, hlower, hupper⟩ := h.within i
    rw [model.canonicalModelIndex_eq hone] at hlower hupper
    exact ⟨hfinite, fun _ => hlower, fun _ => hupper⟩

/-! ## The course of a request -/

/-- The callback is at work on a request. -/
def BatchPhase.Inside : BatchPhase → Prop
  | .idle => False
  | _ => True

/-- What a callback has gone through: its request, the state in which it copied the positions, and
what it has published and sent since, the newest first. -/
structure BatchCourse (ι : Type*) where
  request : Option BatchRequest
  snapshot : Option (BatchControl ι)
  statuses : List ExecutionStatus
  forwarded : List AbsoluteRequest

/-- Nothing has happened since the request. -/
def BatchCourse.fresh (request : Option BatchRequest) : BatchCourse ι := ⟨request, none, [], []⟩

/-- The course after a step of the callback. -/
def BatchCourse.record (course : BatchCourse ι) (s : BatchControl ι) (phase : BatchPhase)
    (output : BatchOutput) : BatchCourse ι where
  request := course.request
  snapshot :=
    match phase with
    | .entered _ => some s
    | _ => course.snapshot
  statuses := output.status.toList ++ course.statuses
  forwarded := output.forwarded.toList ++ course.forwarded

/-- The course of a callback in front of a step. -/
def courseBefore (courses : ι → BatchCourse ι) (i : ι) : BatchLabel ι → BatchCourse ι
  | .request _ request => .fresh (some request)
  | _ => courses i

/-- The courses after a step. -/
def noteBatch [DecidableEq ι] (model : ArmModel) (cfg : BatchParameters) (s : BatchControl ι)
    (l : BatchLabel ι) (courses : ι → BatchCourse ι) : ι → BatchCourse ι :=
  match s.serve model cfg l with
  | none => courses
  | some (i, next) =>
    Function.update courses i ((courseBefore courses i l).record s (s.callbacks i) next.2)

/-- The targets are built for the request, from the positions in usable feedback. -/
structure BatchCourse.Built (model : ArmModel) (cfg : BatchParameters) (course : BatchCourse ι)
    (request : BatchRequest) (target : ArmPositions) : Prop where
  asked : course.request = some request
  snapshot : ∃ snapshot, course.snapshot = some snapshot ∧ snapshot.Usable cfg ∧
    Admissible model cfg request snapshot.qCurrent target

/-- What a forwarded request has behind it: admissible targets for the request of the callback, one
status that announces it, and no other forwarding. -/
structure BatchCourse.Forwards (model : ArmModel) (cfg : BatchParameters) (course : BatchCourse ι)
    (request : BatchRequest) (target : ArmPositions) : Prop where
  built : course.Built model cfg request target
  announced : course.statuses = [request.executing target]
  first : course.forwarded = []

/-- What a request comes to before its last status: nothing, or it has been announced and sent. -/
def BatchCourse.Sends (course : BatchCourse ι) (request : BatchRequest) (target : ArmPositions)
    (statuses : List ExecutionStatus) : Prop :=
  (statuses = [] ∧ course.forwarded = []) ∨
    (statuses = [request.executing target] ∧
      course.forwarded = [makeAbsoluteRequest target request.vel request.acc])

/-- What a response has behind it: a last status with the same contents, after the announcement of
the forwarded request if there is one. -/
structure BatchCourse.Answers (course : BatchCourse ι) (response : BatchResponse)
    (request : BatchRequest) (state : ExecutionState) (statuses : List ExecutionStatus) : Prop where
  asked : course.request = some request
  seq : response.commandSeq = request.commandSeq
  last : course.statuses = request.status state response.accepted response.targetJoints
    response.message :: statuses
  ended : state ≠ .executing
  accepted : response.accepted = true ↔ state = .succeeded
  sent : course.Sends request response.targetJoints statuses

/-- What a response has behind it. -/
def BatchCourse.Answered (course : BatchCourse ι) (response : BatchResponse) : Prop :=
  ∃ request state statuses, course.Answers response request state statuses

/-- What holds of the course of a callback in a phase. -/
def BatchAgrees (model : ArmModel) (cfg : BatchParameters) (course : BatchCourse ι) :
    BatchPhase → Prop
  | .idle => True
  | .entered request => course.request = some request ∧ course.statuses = [] ∧ course.forwarded = []
  | .snapped request current =>
    course.request = some request ∧ course.statuses = [] ∧ course.forwarded = [] ∧
      ∃ snapshot, course.snapshot = some snapshot ∧ snapshot.Usable cfg ∧
        snapshot.qCurrent = current
  | .serving request target =>
    course.Built model cfg request target ∧ course.statuses = [] ∧ course.forwarded = []
  | .sending request target => course.Forwards model cfg request target
  | .awaiting request target =>
    course.request = some request ∧ course.statuses = [request.executing target] ∧
      course.forwarded = [makeAbsoluteRequest target request.vel request.acc]
  | .leaving response => course.Answered response

/-- What a step of a callback comes to. -/
structure BatchCourse.Goes (model : ArmModel) (cfg : BatchParameters) (before after : BatchCourse ι)
    (next : BatchNext) : Prop where
  phase : BatchAgrees model cfg after next.1
  forwarded : ∀ absolute, next.2.forwarded = some absolute → ∃ request target,
    before.Forwards model cfg request target ∧
      absolute = makeAbsoluteRequest target request.vel request.acc
  response : ∀ response, next.2.response = some response → after.Answered response

variable {course : BatchCourse ι} {s : BatchControl ι} {phase : BatchPhase}
  {target : ArmPositions} {message : String}

/-- A step that neither sends nor answers anything. -/
theorem goes_silently {before after : BatchCourse ι} {next : BatchNext}
    (hforwarded : next.2.forwarded = none) (hresponse : next.2.response = none)
    (hphase : BatchAgrees model cfg after next.1) : before.Goes model cfg after next where
  phase := hphase
  forwarded absolute h := by
    rw [hforwarded] at h
    cases h
  response response h := by
    rw [hresponse] at h
    cases h

/-- The last status of a request. -/
theorem goes_finish {state : ExecutionState} {accepted : Bool}
    (hrequest : course.request = some request)
    (hsent : course.Sends request target course.statuses) (hstate : state ≠ .executing)
    (haccepted : accepted = true ↔ state = .succeeded) :
    course.Goes model cfg
      (course.record s phase (request.finish state accepted target message).2)
      (request.finish state accepted target message) :=
  goes_silently rfl rfl
    ⟨request, state, course.statuses, hrequest, rfl, rfl, hstate, haccepted, hsent⟩

/-- A rejection. -/
theorem goes_reject (hrequest : course.request = some request)
    (hsent : course.Sends request target course.statuses) :
    course.Goes model cfg (course.record s phase (request.reject target message).2)
      (request.reject target message) :=
  goes_finish hrequest hsent (by simp) (by simp)

/-- A request from its snapshot to the wait for the other service. -/
theorem goes_proceed {current : ArmPositions}
    (h : BatchAgrees model cfg course (.snapped request current)) :
    course.Goes model cfg
      (course.record s (.snapped request current) (request.proceed model cfg current).2)
      (request.proceed model cfg current) := by
  obtain ⟨hrequest, hstatuses, hforwarded, snapshot, hsnapshot, husable, rfl⟩ := h
  have hnothing : ∀ target, course.Sends request target course.statuses := fun _ =>
    .inl ⟨hstatuses, hforwarded⟩
  unfold BatchRequest.proceed
  split
  · exact goes_reject hrequest (hnothing _)
  · rename_i target _ hbuilt
    split_ifs with hat
    · exact goes_finish hrequest (hnothing _) (by simp) (by simp)
    · have hadmissible := admissible_of_buildTarget hbuilt (Bool.eq_false_iff.mpr hat)
      exact goes_silently rfl rfl
        ⟨⟨hrequest, snapshot, hsnapshot, husable, hadmissible⟩, hstatuses, hforwarded⟩

/-- A step that does not depend on the other service. -/
theorem goes_advance {i : ι} {next : BatchNext} (hfinite : ∀ j, (s.qCurrent j).isFinite)
    (hagrees : BatchAgrees model cfg course (s.callbacks i))
    (h : s.advance model cfg i = some next) :
    course.Goes model cfg (course.record s (s.callbacks i) next.2) next := by
  unfold BatchControl.advance at h
  cases hp : s.callbacks i with
  | entered request =>
    rw [hp] at h hagrees
    obtain ⟨hrequest, hstatuses, hforwarded⟩ := hagrees
    dsimp only at h
    split at h
    · cases h
      exact goes_reject hrequest (.inl ⟨hstatuses, hforwarded⟩)
    · rename_i hok
      cases h
      exact goes_silently rfl rfl ⟨hrequest, hstatuses, hforwarded, s, rfl,
        usable_of_snapshotCurrent hfinite hok, rfl⟩
  | snapped request current =>
    rw [hp] at h hagrees
    cases h
    exact goes_proceed hagrees
  | sending request target =>
    rw [hp] at h hagrees
    cases h
    refine ⟨⟨hagrees.built.asked, hagrees.announced, congrArg (_ :: ·) hagrees.first⟩,
      fun absolute hsent => ?_, fun _ hresponse => ?_⟩
    · cases hsent
      exact ⟨request, target, hagrees, rfl⟩
    · cases hresponse
  | leaving response =>
    rw [hp] at h hagrees
    cases h
    refine ⟨trivial, fun _ hsent => ?_, fun answer hresponse => ?_⟩
    · cases hsent
    · cases hresponse
      exact hagrees
  | _ =>
    rw [hp] at h
    cases h

/-- The wait for the other service is over. -/
theorem goes_serviceWaited {i : ι} {available : Bool} {next : BatchNext}
    (hagrees : BatchAgrees model cfg course (s.callbacks i))
    (h : s.serviceWaited i available = some next) :
    course.Goes model cfg (course.record s (s.callbacks i) next.2) next := by
  unfold BatchControl.serviceWaited at h
  cases hp : s.callbacks i with
  | serving request target =>
    rw [hp] at h hagrees
    obtain ⟨hbuilt, hstatuses, hforwarded⟩ := hagrees
    dsimp only at h
    split_ifs at h
    · cases h
      exact goes_silently rfl rfl ⟨⟨hbuilt.asked, hbuilt.snapshot⟩,
        congrArg (_ :: ·) hstatuses, hforwarded⟩
    · cases h
      exact goes_reject hbuilt.asked (.inl ⟨hstatuses, hforwarded⟩)
  | _ =>
    rw [hp] at h
    cases h

/-- The wait for the answer is over. -/
theorem goes_answered {i : ι} {reply : Option Power.Reply} {next : BatchNext}
    (hagrees : BatchAgrees model cfg course (s.callbacks i))
    (h : s.answered i reply = some next) :
    course.Goes model cfg (course.record s (s.callbacks i) next.2) next := by
  unfold BatchControl.answered at h
  cases hp : s.callbacks i with
  | awaiting request target =>
    rw [hp] at h hagrees
    obtain ⟨hrequest, hstatuses, hforwarded⟩ := hagrees
    cases reply with
    | none =>
      cases h
      exact goes_reject hrequest (.inr ⟨hstatuses, hforwarded⟩)
    | some reply =>
      cases h
      refine goes_finish hrequest (.inr ⟨hstatuses, hforwarded⟩) ?_ ?_
      · split_ifs <;> simp
      · split_ifs with hsuccess <;> simp [hsuccess]
  | _ =>
    rw [hp] at h
    cases reply <;> cases h

/-- A request comes in. -/
theorem goes_handleBatchRequest {before : BatchCourse ι} :
    before.Goes model cfg
      ((BatchCourse.fresh (some request)).record s phase (s.handleBatchRequest request).2)
      (s.handleBatchRequest request) := by
  unfold BatchControl.handleBatchRequest
  split_ifs
  · refine ⟨trivial, fun _ hsent => ?_, fun response hresponse => ?_⟩
    · cases hsent
    · cases hresponse
      exact ⟨request, .rejected, [], rfl, rfl, rfl, by simp, by simp [BatchRequest.respond],
        .inl ⟨rfl, rfl⟩⟩
  · exact goes_silently rfl rfl ⟨rfl, rfl, rfl⟩

/-! ## Steps -/

section

variable {l : BatchLabel ι} {i : ι} {next : BatchNext}

/-- A callback of the service takes a step. -/
theorem goes_serve {courses : ι → BatchCourse ι} (hfinite : ∀ j, (s.qCurrent j).isFinite)
    (hagrees : BatchAgrees model cfg (courses i) (s.callbacks i))
    (h : s.serve model cfg l = some (i, next)) :
    (courses i).Goes model cfg ((courseBefore courses i l).record s (s.callbacks i) next.2)
      next := by
  cases l with
  | request j request =>
    unfold BatchControl.serve at h
    dsimp only at h
    split at h
    · cases h
      exact goes_handleBatchRequest
    · cases h
  | advance j =>
    obtain ⟨next', hnext, heq⟩ := Option.map_eq_some_iff.mp h
    cases heq
    exact goes_advance hfinite hagrees hnext
  | service j available =>
    obtain ⟨next', hnext, heq⟩ := Option.map_eq_some_iff.mp h
    cases heq
    exact goes_serviceWaited hagrees hnext
  | answer j reply =>
    obtain ⟨next', hnext, heq⟩ := Option.map_eq_some_iff.mp h
    cases heq
    exact goes_answered hagrees hnext
  | _ => cases h

/-- What a step does to the flag: a request that finds it clear goes in and sets it, one that is
answered leaves and clears it, and otherwise the callback stays where it is. -/
theorem serve_flag (h : s.serve model cfg l = some (i, next)) :
    (s.commandInProgress = false ∧ next.1.Inside ∧ next.2.commandInProgress = some true) ∨
    ((s.callbacks i).Inside ∧ ¬ next.1.Inside ∧ next.2.commandInProgress = some false) ∨
    ((next.1.Inside ↔ (s.callbacks i).Inside) ∧ next.2.commandInProgress = none) := by
  cases l with
  | request j request =>
    unfold BatchControl.serve at h
    dsimp only at h
    split at h
    · rename_i hidle
      cases h
      unfold BatchControl.handleBatchRequest
      split_ifs with hflag
      · exact .inr (.inr ⟨by rw [hidle], rfl⟩)
      · exact .inl ⟨Bool.eq_false_iff.mpr hflag, trivial, rfl⟩
    · cases h
  | advance j =>
    obtain ⟨next', hnext, heq⟩ := Option.map_eq_some_iff.mp h
    cases heq
    unfold BatchControl.advance at hnext
    cases hp : s.callbacks i with
    | entered request =>
      rw [hp] at hnext
      dsimp only at hnext
      split at hnext <;> cases hnext <;> exact .inr (.inr ⟨Iff.rfl, rfl⟩)
    | snapped request current =>
      rw [hp] at hnext
      cases hnext
      unfold BatchRequest.proceed
      split
      · exact .inr (.inr ⟨Iff.rfl, rfl⟩)
      · split_ifs <;> exact .inr (.inr ⟨Iff.rfl, rfl⟩)
    | sending request target =>
      rw [hp] at hnext
      cases hnext
      exact .inr (.inr ⟨Iff.rfl, rfl⟩)
    | leaving response =>
      rw [hp] at hnext
      cases hnext
      exact .inr (.inl ⟨trivial, fun h => h, rfl⟩)
    | _ =>
      rw [hp] at hnext
      cases hnext
  | service j available =>
    obtain ⟨next', hnext, heq⟩ := Option.map_eq_some_iff.mp h
    cases heq
    unfold BatchControl.serviceWaited at hnext
    split at hnext
    · rename_i hp
      rw [hp]
      split_ifs at hnext <;> cases hnext <;> exact .inr (.inr ⟨Iff.rfl, rfl⟩)
    · cases hnext
  | answer j reply =>
    obtain ⟨next', hnext, heq⟩ := Option.map_eq_some_iff.mp h
    cases heq
    unfold BatchControl.answered at hnext
    split at hnext
    · rename_i hp
      rw [hp]
      cases hnext
      exact .inr (.inr ⟨Iff.rfl, rfl⟩)
    · rename_i hp
      rw [hp]
      cases hnext
      exact .inr (.inr ⟨Iff.rfl, rfl⟩)
    · cases hnext
  | _ => cases h

/-- A step keeps the callbacks apart. -/
theorem exclusive_serve [DecidableEq ι]
    (hexclusive : Exclusive BatchPhase.Inside s.callbacks s.commandInProgress)
    (h : s.serve model cfg l = some (i, next)) :
    Exclusive BatchPhase.Inside (Function.update s.callbacks i next.1)
      (next.2.commandInProgress.getD s.commandInProgress) := by
  rcases serve_flag h with ⟨hflag, hin, hset⟩ | ⟨hin, hout, hclear⟩ | ⟨hstays, hsame⟩
  · rw [hflag] at hexclusive
    rw [hset]
    exact hexclusive.enter i hin
  · rw [hclear]
    exact hexclusive.leave hin hout
  · rw [hsame]
    exact hexclusive.stay hstays

/-! ## Runs -/

theorem finite_readPositions (message : JointState) :
    ∀ i x, BatchControl.readPositions message i = some x → x.isFinite = true := by
  have hfold : ∀ (entries : List (String × Double)) (snapshot : Fin 14 → Option Double),
      (∀ i x, snapshot i = some x → x.isFinite = true) →
      ∀ i x, entries.foldl BatchControl.readPosition snapshot i = some x → x.isFinite = true := by
    intro entries
    induction entries with
    | nil => exact fun _ h => h
    | cons entry entries ih =>
      intro snapshot hsnapshot
      refine ih _ fun i x hx => ?_
      unfold BatchControl.readPosition at hx
      cases hj : canonicalIndex entry.1 with
      | none =>
        rw [hj] at hx
        exact hsnapshot i x hx
      | some j =>
        rw [hj] at hx
        dsimp only at hx
        split_ifs at hx with hread
        · by_cases hij : i = j
          · subst hij
            rw [Function.update_self] at hx
            cases hx
            exact hread.1
          · rw [Function.update_of_ne hij] at hx
            exact hsnapshot i x hx
        · exact hsnapshot i x hx
  exact hfold _ _ fun _ _ h => by cases h

/-- The invariant of the runs: the callbacks exclude one another, the positions are finite, and the
courses agree with the phases. -/
structure BatchInvariant (model : ArmModel) (cfg : BatchParameters)
    (s : BatchControl ι × (ι → BatchCourse ι)) : Prop where
  exclusive : Exclusive BatchPhase.Inside s.1.callbacks s.1.commandInProgress
  finite : ∀ i, (s.1.qCurrent i).isFinite
  agrees : ∀ i, BatchAgrees model cfg (s.2 i) (s.1.callbacks i)

theorem batchInvariant_initial (now : ℤ) :
    BatchInvariant model cfg
      ((BatchControl.initial now : BatchControl ι), fun _ => .fresh none) where
  exclusive := .empty fun _ h => h
  finite _ := rfl
  agrees _ := trivial

/-- A step of a callback keeps the invariant. -/
theorem BatchInvariant.serve [DecidableEq ι] {courses : ι → BatchCourse ι}
    (hs : BatchInvariant model cfg (s, courses)) (h : s.serve model cfg l = some (i, next)) :
    BatchInvariant model cfg
      ({ s with
        commandInProgress := next.2.commandInProgress.getD s.commandInProgress
        callbacks := Function.update s.callbacks i next.1 }, noteBatch model cfg s l courses) where
  exclusive := exclusive_serve hs.exclusive h
  finite := hs.finite
  agrees j := by
    unfold noteBatch
    rw [h]
    dsimp only
    by_cases hj : j = i
    · subst hj
      rw [Function.update_self, Function.update_self]
      exact (goes_serve hs.finite (hs.agrees j) h).phase
    · rw [Function.update_of_ne hj, Function.update_of_ne hj]
      exact hs.agrees j

theorem batchInvariant_step [DecidableEq ι] (s : BatchControl ι × (ι → BatchCourse ι))
    (l : BatchLabel ι) (s' : BatchControl ι × (ι → BatchCourse ι)) (hs : BatchInvariant model cfg s)
    (h : observed (BatchControl.step model cfg) (noteBatch model cfg) s l = some s') :
    BatchInvariant model cfg s' := by
  obtain ⟨s, courses⟩ := s
  obtain ⟨s', courses'⟩ := s'
  obtain ⟨hstep, hnote⟩ := observed_eq_some.mp h
  dsimp only at hstep hnote
  subst hnote
  cases l with
  | jointState message =>
    cases hstep
    refine ⟨?_, ?_, ?_⟩
    · unfold BatchControl.handleJointState
      split_ifs <;> exact hs.exclusive
    · unfold BatchControl.handleJointState
      split_ifs with hcomplete
      · intro i
        obtain ⟨x, hx⟩ := Option.ne_none_iff_exists'.mp (hcomplete i)
        dsimp only
        rw [hx]
        exact finite_readPositions message i x hx
      · exact hs.finite
    · unfold BatchControl.handleJointState
      split_ifs <;> exact hs.agrees
  | motionStatus message =>
    cases hstep
    exact ⟨hs.exclusive, hs.finite, hs.agrees⟩
  | workspaceStatus message =>
    cases hstep
    exact ⟨hs.exclusive, hs.finite, hs.agrees⟩
  | elapse nanoseconds =>
    cases hstep
    exact ⟨hs.exclusive, hs.finite, hs.agrees⟩
  | _ =>
    obtain ⟨next, hnext, rfl⟩ := Option.map_eq_some_iff.mp hstep
    exact hs.serve hnext

theorem goes_of_forwarded {s : BatchControl ι × (ι → BatchCourse ι)} {l : BatchLabel ι} {i : ι}
    {absolute : AbsoluteRequest} (hs : BatchInvariant model cfg s)
    (h : s.1.forwarded model cfg l = some (i, absolute)) :
    ∃ request target, (s.2 i).Forwards model cfg request target ∧
      absolute = makeAbsoluteRequest target request.vel request.acc := by
  obtain ⟨⟨j, next⟩, hnext, hsent⟩ := Option.bind_eq_some_iff.mp h
  obtain ⟨absolute', hsome, heq⟩ := Option.map_eq_some_iff.mp hsent
  cases heq
  exact (goes_serve hs.finite (hs.agrees _) hnext).forwarded _ hsome

end

section

variable [DecidableEq ι] (model : ArmModel) (cfg : BatchParameters)

/-- What the steps of a run forward, and whom they let in: at most one callback is at work, a
request is refused while another one is, and every forwarded request has admissible targets, an
announcement and no other forwarding behind it. -/
structure ForwardsAdmissible (s : BatchControl ι × (ι → BatchCourse ι)) (l : BatchLabel ι)
    (s' : BatchControl ι × (ι → BatchCourse ι)) : Prop where
  unique : AtMostOne BatchPhase.Inside s'.1.callbacks
  refused : ∀ i request, l = .request i request →
    (¬ (s'.1.callbacks i).Inside ↔ ∃ j, (s.1.callbacks j).Inside)
  admissible : ∀ i absolute, s.1.forwarded model cfg l = some (i, absolute) →
    ∃ request target, (s.2 i).Forwards model cfg request target ∧
      absolute = makeAbsoluteRequest target request.vel request.acc

/-- What the steps of a run answer has been published before. -/
def AnswersAgree (s : BatchControl ι × (ι → BatchCourse ι)) (l : BatchLabel ι)
    (s' : BatchControl ι × (ι → BatchCourse ι)) : Prop :=
  ∀ i response, s.1.response model cfg l = some (i, response) → (s'.2 i).Answered response

/-- The other service takes the numbers that the steps of a run forward. -/
def ForwardsValid (s : BatchControl ι × (ι → BatchCourse ι)) (l : BatchLabel ι)
    (_ : BatchControl ι × (ι → BatchCourse ι)) : Prop :=
  ∀ i absolute, s.1.forwarded model cfg l = some (i, absolute) →
    model.validateAbsoluteControlRequest absolute = .ok ()

/-- In every run, whatever is forwarded is admissible, and by one callback at a time. -/
theorem forwards_admissible (now : ℤ) (ls : List (BatchLabel ι)) :
    Throughout (observed (BatchControl.step model cfg) (noteBatch model cfg))
      (ForwardsAdmissible model cfg)
      ((BatchControl.initial now : BatchControl ι), fun _ => .fresh none) ls := by
  refine throughout_of_invariant batchInvariant_step (fun s l s' hs h => ?_)
    (batchInvariant_initial now)
  refine ⟨(batchInvariant_step s l s' hs h).exclusive.unique, ?_,
    fun i absolute hsent => goes_of_forwarded hs hsent⟩
  rintro i request rfl
  obtain ⟨hstep, -⟩ := observed_eq_some.mp h
  obtain ⟨next, hnext, heq⟩ := Option.map_eq_some_iff.mp hstep
  rw [← hs.exclusive.flagged, ← heq]
  unfold BatchControl.serve at hnext
  dsimp only at hnext
  split at hnext
  · cases hnext
    dsimp only
    rw [Function.update_self]
    unfold BatchControl.handleBatchRequest
    split_ifs with hflag
    · exact ⟨fun _ => hflag, fun _ hin => hin⟩
    · exact ⟨fun hout => absurd trivial hout, fun hset => absurd hset hflag⟩
  · cases hnext

/-- In every run, every response agrees with the last status of its request. -/
theorem answers_agree (now : ℤ) (ls : List (BatchLabel ι)) :
    Throughout (observed (BatchControl.step model cfg) (noteBatch model cfg))
      (AnswersAgree model cfg)
      ((BatchControl.initial now : BatchControl ι), fun _ => .fresh none) ls := by
  refine throughout_of_invariant batchInvariant_step (fun s l s' hs h i response hanswer => ?_)
    (batchInvariant_initial now)
  obtain ⟨-, hnote⟩ := observed_eq_some.mp h
  obtain ⟨⟨j, next⟩, hnext, hresponse⟩ := Option.bind_eq_some_iff.mp hanswer
  obtain ⟨response', hsome, heq⟩ := Option.map_eq_some_iff.mp hresponse
  cases heq
  rw [hnote]
  unfold noteBatch
  rw [hnext]
  dsimp only
  rw [Function.update_self]
  exact (goes_serve hs.finite (hs.agrees _) hnext).response _ hsome

/-- In every run, the other service finds nothing wrong with what is forwarded to it, when each
joint of the model has one variable. -/
theorem forwards_valid (hone : model.OneDof) (now : ℤ) (ls : List (BatchLabel ι)) :
    Throughout (observed (BatchControl.step model cfg) (noteBatch model cfg))
      (ForwardsValid model cfg)
      ((BatchControl.initial now : BatchControl ι), fun _ => .fresh none) ls := by
  refine throughout_of_invariant batchInvariant_step (fun s l s' hs h i absolute hsent => ?_)
    (batchInvariant_initial now)
  obtain ⟨request, target, hforwards, rfl⟩ := goes_of_forwarded hs hsent
  obtain ⟨snapshot, -, -, hadmissible⟩ := hforwards.built.snapshot
  exact ArmModel.validate_eq_ok.mpr (hadmissible.valid hone)

end

/-- The joints of the arms alone. -/
def bareArms : ArmModel where
  joints := (List.finRange 14).map fun i => ⟨canonicalJointNames i, 1⟩
  lowerPositionLimit _ := .finite (-3)
  upperPositionLimit _ := .finite 3
  complete := by decide

theorem bareArms_oneDof : bareArms.OneDof := by
  unfold ArmModel.OneDof
  decide

/-- The default parameters. -/
def defaultLimits : BatchParameters where
  feedbackTimeoutMs := 500
  workspaceTimeoutMs := 3000
  maxVelocityRadS := .finite (1 / 2)
  maxAccelerationRadS2 := .finite 1
  maxSingleJointDeltaRad := .finite (1 / 2)
  noopJointToleranceRad := .finite (1 / 10000)

/-- A request to turn one joint. -/
def oneJoint : BatchRequest where
  jointNames := ["rjoint4"]
  values := [.finite (1 / 4)]
  relative := true
  vel := .finite (1 / 4)
  acc := .finite (1 / 2)
  sourceMode := manual
  commandSeq := 1

/-- The request is forwarded and answered. -/
def oneJointRun : List (BatchLabel Bool) :=
  [.jointState ⟨List.ofFn canonicalJointNames, List.replicate 14 0, []⟩,
    .motionStatus ⟨false, true⟩, .workspaceStatus ⟨.running, .real, true⟩,
    .request false oneJoint, .advance false, .advance false, .service false true, .advance false,
    .request true oneJoint, .answer false (some ⟨true, "done"⟩), .advance false]

theorem forwards_valid_oneJoint :
    Throughout (observed (BatchControl.step bareArms defaultLimits)
        (noteBatch bareArms defaultLimits)) (ForwardsValid bareArms defaultLimits)
      ((BatchControl.initial 0 : BatchControl Bool), fun _ => .fresh none) oneJointRun :=
  forwards_valid bareArms defaultLimits bareArms_oneDof 0 oneJointRun

end Joint

end JointController
