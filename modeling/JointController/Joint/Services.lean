import JointController.Joint.Arrival
import JointController.Joint.BatchCommands

/-!
# The two services together

The service of the batches is a client of the service of the absolute targets.  What it forwards may
be taken at any time after it was sent, and the answer may arrive at any time after it was given, or
too late.  The service of the absolute targets has other clients as well.

* `JointServices`: the two nodes and the calls between them.
* `ServicesCourse`: what the callbacks of both nodes have gone through.
* `SucceedsThere`: what the success of a batch has behind it.  `batch_succeeds_there`: every one has
  it, in every run.
-/

open Runs

namespace JointController

namespace Joint

/-! ## The system -/

/-- The two nodes, the number of calls between them, the last call of each callback, the requests
that have not been taken, the call that is served unless it is one of another client, and the
answers that have been given. -/
structure JointServices (ι : Type*) where
  batch : BatchControl ι
  absolute : AbsoluteService
  calls : ℕ
  call : ι → Option ℕ
  requests : ℕ → Option AbsoluteRequest
  serving : Option ℕ
  replies : ℕ → Option Power.Reply

/-- A step of one of the nodes or of the world around it, the delivery of a request or of an answer,
the end of the wait for an answer, and the passing of time. -/
inductive ServicesLabel (ι : Type*) where
  | batch (l : BatchLabel ι)
  | absolute (l : Label)
  | take (call : ℕ) (guardError : Option String)
  | answer (i : ι) (call : ℕ)
  | timeout (i : ι)
  | elapse (nanoseconds : ℕ)

/-- A step that is up to the node itself. -/
def BatchLabel.isLocal {ι : Type*} : BatchLabel ι → Bool
  | .elapse _ | .answer _ _ => false
  | _ => true

/-- The same for the other node; a request is one of another client. -/
def Label.isLocal : Label → Bool
  | .elapse _ => false
  | _ => true

/-- The call that is served after a step of the node itself. -/
def Label.serving (serving : Option ℕ) : Label → Option ℕ
  | .request _ _ => none
  | _ => serving

namespace JointServices

variable {ι : Type*} (model : ArmModel) (limits : BatchParameters) (cfg : Parameters)
  (s : JointServices ι)

/-- The nodes before their first messages. -/
def initial (now : ℤ) : JointServices ι where
  batch := .initial now
  absolute := .initial now
  calls := 0
  call _ := none
  requests _ := none
  serving := none
  replies _ := none

/-- What a step means for the service of the batches. -/
def batchLabel : ServicesLabel ι → Option (BatchLabel ι)
  | .batch l => if l.isLocal then some l else none
  | .answer i call =>
    if s.call i = some call then (s.replies call).map fun reply => .answer i (some reply) else none
  | .timeout i => some (.answer i none)
  | .elapse nanoseconds => some (.elapse nanoseconds)
  | _ => none

/-- What a step means for the service of the absolute targets, with the call that it serves then. -/
def absoluteLabel : ServicesLabel ι → Option (Option ℕ × Label)
  | .absolute l => if l.isLocal then some (l.serving s.serving, l) else none
  | .take call guardError =>
    (s.requests call).map fun request => (some call, .request request guardError)
  | .elapse nanoseconds => some (s.serving, .elapse nanoseconds)
  | _ => none

/-- What is forwarded makes a new call. -/
def send [DecidableEq ι] (s : JointServices ι) : Option (ι × AbsoluteRequest) → JointServices ι
  | none => s
  | some (i, request) =>
    { s with
      calls := s.calls + 1
      call := Function.update s.call i (some s.calls)
      requests := Function.update s.requests s.calls (some request) }

/-- A step of the service of the batches. -/
def stepBatch [DecidableEq ι] (s : JointServices ι) (l : BatchLabel ι) :
    Option (JointServices ι) :=
  (BatchControl.step model limits s.batch l).map fun batch =>
    { s.send (s.batch.forwarded model limits l) with batch := batch }

/-- The requests that have not been taken after a step. -/
def requestsLeft (serving : Option ℕ) (l : Label) : ℕ → Option AbsoluteRequest :=
  match serving, l with
  | some call, .request _ _ => Function.update s.requests call none
  | _, _ => s.requests

/-- The answers that have been given after a step. -/
def repliesGiven (serving : Option ℕ) (reply : Option Power.Reply) : ℕ → Option Power.Reply :=
  match serving, reply with
  | some call, some reply => Function.update s.replies call (some reply)
  | _, _ => s.replies

/-- A step of the service of the absolute targets. -/
def stepAbsolute (serving : Option ℕ) (l : Label) : Option (JointServices ι) :=
  (s.absolute.step model cfg l).map fun absolute =>
    { s with
      absolute := absolute
      requests := s.requestsLeft serving l
      serving := serving
      replies := s.repliesGiven serving (s.absolute.reply model cfg l) }

/-- The next state. -/
def step [DecidableEq ι] (s : JointServices ι) (l : ServicesLabel ι) : Option (JointServices ι) :=
  match s.batchLabel l, s.absoluteLabel l with
  | none, none => none
  | some b, none => s.stepBatch model limits b
  | none, some a => s.stepAbsolute model cfg a.1 a.2
  | some b, some a =>
    (s.stepBatch model limits b).bind fun s' => s'.stepAbsolute model cfg a.1 a.2

/-- The status of a batch that a step publishes. -/
def published (l : ServicesLabel ι) : Option (ι × ExecutionStatus) :=
  (s.batchLabel l).bind fun b => s.batch.published model limits b

end JointServices

/-! ## The courses of the requests -/

/-- What the callbacks of the batches have gone through, what the request for absolute targets has,
what was sent in which call, and the courses of the requests that have ended well. -/
structure ServicesCourse (ι : Type*) where
  courses : ι → BatchCourse ι
  course : Course
  sent : ℕ → Option AbsoluteRequest
  concluded : List Course

namespace ServicesCourse

variable {ι : Type*} (model : ArmModel) (limits : BatchParameters) (cfg : Parameters)

/-- Nothing has happened. -/
def fresh : ServicesCourse ι := ⟨fun _ => .fresh none, .fresh, fun _ => none, []⟩

/-- The courses after a step of the service of the batches. -/
def noteBatch [DecidableEq ι] (m : ServicesCourse ι) (s : JointServices ι) (l : BatchLabel ι) :
    ServicesCourse ι :=
  { m with
    courses := Joint.noteBatch model limits s.batch l m.courses
    sent :=
      match s.batch.forwarded model limits l with
      | some (_, request) => Function.update m.sent s.calls (some request)
      | none => m.sent }

/-- The courses after a step of the service of the absolute targets. -/
def noteAbsolute (m : ServicesCourse ι) (s : JointServices ι) (l : Label) : ServicesCourse ι :=
  { m with
    course := note s.absolute l m.course
    concluded :=
      match s.absolute.reply model cfg l with
      | some ⟨true, _⟩ => note s.absolute l m.course :: m.concluded
      | _ => m.concluded }

/-- The courses after a step. -/
def noteStep [DecidableEq ι] (s : JointServices ι) (l : ServicesLabel ι) (m : ServicesCourse ι) :
    ServicesCourse ι :=
  match s.batchLabel l, s.absoluteLabel l with
  | none, none => m
  | some b, none => m.noteBatch model limits s b
  | none, some a => m.noteAbsolute model cfg s a.2
  | some b, some a => (m.noteBatch model limits s b).noteAbsolute model cfg s a.2

/-- A request has ended well, and the arms had arrived at its targets. -/
def Reached (m : ServicesCourse ι) (request : AbsoluteRequest) : Prop :=
  ∃ course ∈ m.concluded, Arrived model cfg course ∧ course.sent.commands = [request]

end ServicesCourse

section

variable {ι : Type*} (model : ArmModel) (limits : BatchParameters) (cfg : Parameters)

/-- When a batch succeeds, the arms were at its targets when it began, or they have arrived there by
a request with just these targets. -/
def SucceedsThere (s : JointServices ι × ServicesCourse ι) (l : ServicesLabel ι)
    (s' : JointServices ι × ServicesCourse ι) : Prop :=
  ∀ i status, s.1.published model limits l = some (i, status) → status.state = .succeeded →
    ∃ request, (s'.2.courses i).request = some request ∧
      ((∃ snapshot, (s'.2.courses i).snapshot = some snapshot ∧ snapshot.Usable limits ∧
          ∀ j, (status.targetJoints j - snapshot.qCurrent j).abs ≤ limits.noopJointToleranceRad) ∨
        s'.2.Reached model cfg
          (makeAbsoluteRequest status.targetJoints request.vel request.acc))

end

/-! ## The request that is served -/

variable {ι : Type*} {model : ArmModel} {limits : BatchParameters} {cfg : Parameters}

/-- The callback of the service of the absolute targets is at work on a request. -/
def OnRequest (request : AbsoluteRequest) (course : Course) : Phase → Prop
  | .idle => True
  | .guarded r | .checked r | .stopping r _ | .blocked r _ | .stopped r | .publishing r _
  | .published r _ | .starting r _ _ => r = request
  | .watching _ | .waiting _ | .looked _ _ => course.sent.commands = [request]

section

variable {s : AbsoluteService} {course : Course} {request : AbsoluteRequest} {next : Next}

theorem onRequest_lookStopped {deadline : ℤ} {course' : Course} :
    OnRequest request course' (s.lookStopped request deadline).1 := by
  unfold AbsoluteService.lookStopped
  split_ifs
  · exact trivial
  · exact rfl
  · exact rfl

/-- A step of the callback stays with the request. -/
theorem onRequest_advance (hs : Agrees model cfg (s, course))
    (hon : OnRequest request course s.phase) (h : s.advance model cfg = some next) :
    OnRequest request (course.advance s) next.1 := by
  have hphase := hs.phase
  unfold AbsoluteService.advance at h
  unfold Course.advance
  dsimp only at hphase
  cases hp : s.phase with
  | idle =>
    rw [hp] at h
    cases h
  | guarded r =>
    rw [hp] at h hon
    dsimp only at h
    split at h
    · cases h
      exact trivial
    · cases h
      exact hon
  | stopping r deadline =>
    rw [hp] at h hon
    cases h
    cases hon
    exact onRequest_lookStopped
  | blocked r deadline =>
    rw [hp] at h hon
    cases hon
    dsimp only at h
    split_ifs at h
    · cases h
      exact trivial
    · cases h
      exact onRequest_lookStopped
  | starting r generation startTime =>
    rw [hp] at h hon hphase
    cases h
    cases hon
    exact hphase.1
  | watching w =>
    rw [hp] at h hon
    dsimp only at h
    split_ifs at h
    · cases h
      exact hon
    · cases h
      exact trivial
  | looked w seen =>
    rw [hp] at h hon
    cases h
    unfold Watch.judge
    split_ifs
    all_goals try exact trivial
    exact hon
  | _ =>
    rw [hp] at h hon
    cases h
    exact hon

/-- A request that ends well has sent one command, and the arms have arrived. -/
theorem arrived_advance {message : String} (hs : Agrees model cfg (s, course))
    (hon : OnRequest request course s.phase) (h : s.advance model cfg = some next)
    (hreply : next.2.reply = some ⟨true, message⟩) :
    Arrived model cfg (course.advance s) ∧ (course.advance s).sent.commands = [request] := by
  obtain ⟨⟨w, seen, hp⟩, harrived⟩ := (Course.goes_advance hs h).success.mp ⟨message, hreply⟩
  refine ⟨harrived, ?_⟩
  unfold Course.advance
  rw [hp] at hon ⊢
  exact hon

end

/-! ## The callbacks of the batches -/

section

variable {s : BatchControl ι} {l : BatchLabel ι} {i : ι} {next : BatchNext}
  {request : BatchRequest} {target : ArmPositions}

/-- A callback awaits the answer to what it has just forwarded. -/
theorem forwarded_of_awaiting (h : s.serve model limits l = some (i, next))
    (hnext : next.1 = .awaiting request target) :
    next.2.forwarded = some (makeAbsoluteRequest target request.vel request.acc) := by
  cases l with
  | request j asked =>
    unfold BatchControl.serve at h
    dsimp only at h
    split at h
    · cases h
      unfold BatchControl.handleBatchRequest at hnext
      split_ifs at hnext
    · cases h
  | advance j =>
    obtain ⟨next', hserved, heq⟩ := Option.map_eq_some_iff.mp h
    cases heq
    unfold BatchControl.advance at hserved
    cases hp : s.callbacks i with
    | entered asked =>
      rw [hp] at hserved
      dsimp only at hserved
      split at hserved <;> cases hserved <;> cases hnext
    | snapped asked current =>
      rw [hp] at hserved
      cases hserved
      unfold BatchRequest.proceed at hnext
      split at hnext
      · cases hnext
      · split_ifs at hnext <;> cases hnext
    | sending asked goal =>
      rw [hp] at hserved
      cases hserved
      cases hnext
      rfl
    | leaving response =>
      rw [hp] at hserved
      cases hserved
      cases hnext
    | _ =>
      rw [hp] at hserved
      cases hserved
  | service j available =>
    obtain ⟨next', hserved, heq⟩ := Option.map_eq_some_iff.mp h
    cases heq
    unfold BatchControl.serviceWaited at hserved
    split at hserved
    · split_ifs at hserved <;> cases hserved <;> cases hnext
    · cases hserved
  | answer j reply =>
    obtain ⟨next', hserved, heq⟩ := Option.map_eq_some_iff.mp h
    cases heq
    unfold BatchControl.answered at hserved
    split at hserved <;> cases hserved <;> cases hnext
  | _ => cases h

/-- A batch succeeds when its joints are at the targets already, or with the answer to what it has
forwarded. -/
theorem succeeded_serve {courses : ι → BatchCourse ι} {status : ExecutionStatus}
    (hagrees : BatchAgrees model limits (courses i) (s.callbacks i))
    (h : s.serve model limits l = some (i, next)) (hstatus : next.2.status = some status)
    (hsucceeded : status.state = .succeeded) :
    (∃ request snapshot,
      ((courseBefore courses i l).record s (s.callbacks i) next.2).request = some request ∧
      ((courseBefore courses i l).record s (s.callbacks i) next.2).snapshot = some snapshot ∧
      snapshot.Usable limits ∧ ∀ j, (status.targetJoints j - snapshot.qCurrent j).abs ≤
        limits.noopJointToleranceRad) ∨
    (∃ request reply, l = .answer i (some reply) ∧ reply.success = true ∧
      s.callbacks i = .awaiting request status.targetJoints ∧
      ((courseBefore courses i l).record s (s.callbacks i) next.2).request = some request) := by
  cases l with
  | request j asked =>
    unfold BatchControl.serve at h
    dsimp only at h
    split at h
    · cases h
      unfold BatchControl.handleBatchRequest at hstatus
      split_ifs at hstatus
      cases hstatus
      cases hsucceeded
    · cases h
  | advance j =>
    obtain ⟨next', hserved, heq⟩ := Option.map_eq_some_iff.mp h
    cases heq
    unfold BatchControl.advance at hserved
    cases hp : s.callbacks i with
    | entered asked =>
      rw [hp] at hserved
      dsimp only at hserved
      split at hserved
      · cases hserved
        cases hstatus
        cases hsucceeded
      · cases hserved
        cases hstatus
    | snapped asked current =>
      rw [hp] at hserved hagrees
      obtain ⟨hrequest, -, -, snapshot, hsnapshot, husable, rfl⟩ := hagrees
      cases hserved
      left
      refine ⟨asked, snapshot, hrequest, hsnapshot, husable, ?_⟩
      unfold BatchRequest.proceed at hstatus
      split at hstatus
      · cases hstatus
        cases hsucceeded
      · split_ifs at hstatus with hat
        · cases hstatus
          intro j
          exact of_decide_eq_true (List.all_eq_true.mp hat j (List.mem_finRange j))
        · cases hstatus
    | sending asked goal =>
      rw [hp] at hserved
      cases hserved
      cases hstatus
    | leaving response =>
      rw [hp] at hserved
      cases hserved
      cases hstatus
    | _ =>
      rw [hp] at hserved
      cases hserved
  | service j available =>
    obtain ⟨next', hserved, heq⟩ := Option.map_eq_some_iff.mp h
    cases heq
    unfold BatchControl.serviceWaited at hserved
    split at hserved
    · split_ifs at hserved <;> cases hserved <;> cases hstatus <;> cases hsucceeded
    · cases hserved
  | answer j reply =>
    obtain ⟨next', hserved, heq⟩ := Option.map_eq_some_iff.mp h
    cases heq
    unfold BatchControl.answered at hserved
    split at hserved
    · rename_i asked goal answer hp
      rw [hp] at hagrees
      cases hserved
      cases hstatus
      right
      have hsuccess : answer.success = true := by
        by_contra hfailed
        dsimp only [BatchRequest.status] at hsucceeded
        rw [if_neg hfailed] at hsucceeded
        cases hsucceeded
      exact ⟨asked, answer, rfl, hsuccess, hp, hagrees.1⟩
    · cases hserved
      cases hstatus
      cases hsucceeded
    · cases hserved
  | _ => cases h

/-- A step of the node moves at most one callback, and one that awaits an answer afterwards has
awaited it before or has just forwarded its request. -/
theorem awaiting_of_step [DecidableEq ι] {s' : BatchControl ι} (i : ι) (request : BatchRequest)
    (target : ArmPositions) (h : BatchControl.step model limits s l = some s')
    (hawaits : s'.callbacks i = .awaiting request target) :
    (s.callbacks i = .awaiting request target ∧
      ∀ absolute, s.forwarded model limits l ≠ some (i, absolute)) ∨
    s.forwarded model limits l =
      some (i, makeAbsoluteRequest target request.vel request.acc) := by
  unfold BatchControl.forwarded
  cases hserve : s.serve model limits l with
  | none =>
    left
    refine ⟨?_, fun _ hsent => by cases hsent⟩
    cases l with
    | jointState message =>
      cases h
      unfold BatchControl.handleJointState at hawaits
      split_ifs at hawaits <;> exact hawaits
    | motionStatus message =>
      cases h
      exact hawaits
    | workspaceStatus message =>
      cases h
      exact hawaits
    | elapse nanoseconds =>
      cases h
      exact hawaits
    | _ =>
      obtain ⟨next, hnext, -⟩ := Option.map_eq_some_iff.mp h
      rw [hserve] at hnext
      cases hnext
  | some served =>
    obtain ⟨j, next⟩ := served
    have hcallbacks : s'.callbacks = Function.update s.callbacks j next.1 := by
      cases l with
      | request _ _ | advance _ | service _ _ | answer _ _ =>
        obtain ⟨served, hserved, rfl⟩ := Option.map_eq_some_iff.mp h
        rw [hserve] at hserved
        cases hserved
        rfl
      | _ => cases hserve
    rw [hcallbacks] at hawaits
    by_cases hij : i = j
    · subst hij
      rw [Function.update_self] at hawaits
      right
      rw [Option.bind_some, forwarded_of_awaiting hserve hawaits]
      rfl
    · rw [Function.update_of_ne hij] at hawaits
      refine .inl ⟨hawaits, fun absolute hsent => hij ?_⟩
      obtain ⟨_, -, heq⟩ := Option.map_eq_some_iff.mp hsent
      cases heq
      rfl

end

/-! ## The calls -/

/-- The invariant of the system: both nodes keep theirs, every call has sent one request, which is
the one that waits, is served, or has been answered, an answer that is good comes from the arrival
at its targets, and a callback awaits the answer to its own request. -/
structure Linked (model : ArmModel) (limits : BatchParameters) (cfg : Parameters)
    (s : JointServices ι) (m : ServicesCourse ι) : Prop where
  batch : BatchInvariant model limits (s.batch, m.courses)
  absolute : Agrees model cfg (s.absolute, m.course)
  sent_lt : ∀ call request, m.sent call = some request → call < s.calls
  requests : ∀ call request, s.requests call = some request → m.sent call = some request
  serving : ∀ call, s.serving = some call →
    ∃ request, m.sent call = some request ∧ OnRequest request m.course s.absolute.phase
  replies : ∀ call reply, s.replies call = some reply → reply.success = true →
    ∃ request, m.sent call = some request ∧ m.Reached model cfg request
  awaiting : ∀ i request target, s.batch.callbacks i = .awaiting request target →
    ∃ call, s.call i = some call ∧
      m.sent call = some (makeAbsoluteRequest target request.vel request.acc)

section

variable {s s' : JointServices ι} {m : ServicesCourse ι}

/-- The answer that the service of the absolute targets gives comes from the arrival at the targets,
when it is good. -/
theorem Linked.reply {l : Label} {request : AbsoluteRequest} {reply : Power.Reply}
    (hs : Linked model limits cfg s m)
    (hon : l = .advance → OnRequest request m.course s.absolute.phase)
    (h : s.absolute.reply model cfg l = some reply) (hsuccess : reply.success = true) :
    (m.noteAbsolute model cfg s l).Reached model cfg request := by
  obtain ⟨success, message⟩ := reply
  obtain rfl : success = true := hsuccess
  obtain ⟨next, hnext, hreply⟩ := Option.bind_eq_some_iff.mp h
  unfold ServicesCourse.noteAbsolute
  rw [h]
  cases l with
  | request asked guardError => exact absurd hreply ((serve_request hnext).2 message)
  | advance =>
    exact ⟨_, List.mem_cons_self, arrived_advance hs.absolute (hon rfl) hnext hreply⟩
  | _ => cases hnext

theorem requests_of_requestsLeft {l : Label} {serving : Option ℕ} {call : ℕ}
    {request : AbsoluteRequest} (h : s.requestsLeft serving l call = some request) :
    s.requests call = some request := by
  unfold JointServices.requestsLeft at h
  split at h
  · rename_i taken _ _
    by_cases hcall : call = taken
    · rw [hcall, Function.update_self] at h
      cases h
    · rwa [Function.update_of_ne hcall] at h
  · exact h

theorem replies_of_repliesGiven {serving : Option ℕ} {given : Option Power.Reply} {call : ℕ}
    {reply : Power.Reply} (h : s.repliesGiven serving given call = some reply) :
    s.replies call = some reply ∨ (serving = some call ∧ given = some reply) := by
  unfold JointServices.repliesGiven at h
  split at h
  · rename_i served _
    by_cases hcall : call = served
    · rw [hcall, Function.update_self] at h
      cases h
      exact .inr ⟨congrArg some hcall.symm, rfl⟩
    · rw [Function.update_of_ne hcall] at h
      exact .inl h
  · exact .inl h

/-- The request of a call that is served after a step of the service of the absolute targets. -/
theorem Linked.serves {l : Label} {serving : Option ℕ} {absolute : AbsoluteService}
    (hs : Linked model limits cfg s m) (hstep : s.absolute.step model cfg l = some absolute)
    (hserving : ∀ call, serving = some call →
      (∃ request guardError, l = .request request guardError ∧
        s.requests call = some request) ∨
      (s.serving = some call ∧ ∀ request guardError, l ≠ .request request guardError))
    {call : ℕ} (hcall : serving = some call) :
    ∃ request, m.sent call = some request ∧
      OnRequest request (note s.absolute l m.course) absolute.phase ∧
      (l = .advance → OnRequest request m.course s.absolute.phase) := by
  rcases hserving call hcall with ⟨request, guardError, rfl, hrequest⟩ | ⟨hsame, hother⟩
  · refine ⟨request, hs.requests call request hrequest, ?_, fun h => by cases h⟩
    obtain ⟨next, hnext, rfl⟩ := Option.map_eq_some_iff.mp hstep
    unfold AbsoluteService.serve at hnext
    dsimp only at hnext
    split at hnext
    · cases hnext
      rcases handleAbsoluteControlRequest_cases model request guardError with
        ⟨message, hfails⟩ | ⟨-, hguarded⟩
      · rw [hfails]
        exact trivial
      · rw [hguarded]
        exact rfl
    · cases hnext
  · obtain ⟨request, hsent, hon⟩ := hs.serving call hsame
    refine ⟨request, hsent, ?_, fun _ => hon⟩
    cases l with
    | request asked guardError => exact absurd rfl (hother asked guardError)
    | advance =>
      obtain ⟨next, hnext, rfl⟩ := Option.map_eq_some_iff.mp hstep
      exact onRequest_advance hs.absolute hon hnext
    | jointState message =>
      cases hstep
      dsimp only [AbsoluteService.jointStateCallback]
      rw [(foldl_readJoint_keeps model _ s.absolute).1]
      exact hon
    | _ =>
      cases hstep
      exact hon

/-- A step of the service of the absolute targets keeps the links. -/
theorem Linked.stepAbsolute {l : Label} {serving : Option ℕ} (hs : Linked model limits cfg s m)
    (hserving : ∀ call, serving = some call →
      (∃ request guardError, l = .request request guardError ∧
        s.requests call = some request) ∨
      (s.serving = some call ∧ ∀ request guardError, l ≠ .request request guardError))
    (h : s.stepAbsolute model cfg serving l = some s') :
    Linked model limits cfg s' (m.noteAbsolute model cfg s l) := by
  obtain ⟨absolute, hstep, rfl⟩ := Option.map_eq_some_iff.mp h
  have habsolute : Agrees model cfg (absolute, note s.absolute l m.course) :=
    agrees_step (s.absolute, m.course) l _ hs.absolute (observed_eq_some.mpr ⟨hstep, rfl⟩)
  -- what has been concluded stays so
  have hkeeps : ∀ request, m.Reached model cfg request →
      (m.noteAbsolute model cfg s l).Reached model cfg request := by
    rintro request ⟨course, hcourse, harrived⟩
    refine ⟨course, ?_, harrived⟩
    unfold ServicesCourse.noteAbsolute
    dsimp only
    split
    · exact List.mem_cons_of_mem _ hcourse
    · exact hcourse
  refine ⟨hs.batch, habsolute, hs.sent_lt, ?_, ?_, ?_, hs.awaiting⟩
  · intro call request hrequest
    exact hs.requests call request (requests_of_requestsLeft hrequest)
  · intro call hcall
    obtain ⟨request, hsent, hon, -⟩ := hs.serves hstep hserving hcall
    exact ⟨request, hsent, hon⟩
  · intro call reply hreply hsuccess
    rcases replies_of_repliesGiven hreply with hold | ⟨rfl, hgiven⟩
    · obtain ⟨request, hsent, hreached⟩ := hs.replies call reply hold hsuccess
      exact ⟨request, hsent, hkeeps request hreached⟩
    · obtain ⟨request, hsent, -, hon⟩ := hs.serves hstep hserving rfl
      exact ⟨request, hsent, hs.reply hon hgiven hsuccess⟩

/-- A request that is served is one of another client, or it has just been taken, or it has been
served before. -/
theorem serving_of_absoluteLabel {l : ServicesLabel ι} {serving : Option ℕ} {a : Label}
    (h : s.absoluteLabel l = some (serving, a)) {call : ℕ} (hcall : serving = some call) :
    (∃ request guardError, a = .request request guardError ∧ s.requests call = some request) ∨
      (s.serving = some call ∧ ∀ request guardError, a ≠ .request request guardError) := by
  unfold JointServices.absoluteLabel at h
  cases l with
  | absolute a' =>
    dsimp only at h
    split_ifs at h
    cases h
    cases a with
    | request _ _ => cases hcall
    | _ => exact .inr ⟨hcall, by simp⟩
  | take taken guardError =>
    obtain ⟨request, hrequest, heq⟩ := Option.map_eq_some_iff.mp h
    cases heq
    cases hcall
    exact .inl ⟨request, guardError, rfl, hrequest⟩
  | elapse nanoseconds =>
    cases h
    exact .inr ⟨hcall, by simp⟩
  | _ => cases h

/-- Only the passing of time is a step of both nodes. -/
theorem elapse_of_both {l : ServicesLabel ι} {b : BatchLabel ι} {a : Option ℕ × Label}
    (hb : s.batchLabel l = some b) (ha : s.absoluteLabel l = some a) :
    ∃ nanoseconds, a = (s.serving, .elapse nanoseconds) := by
  cases l with
  | elapse nanoseconds =>
    cases ha
    exact ⟨nanoseconds, rfl⟩
  | batch _ => cases ha
  | answer _ _ => cases ha
  | timeout _ => cases ha
  | absolute _ => cases hb
  | take _ _ => cases hb

/-- An answer is one that has been given in the last call of the callback. -/
theorem answer_of_batchLabel {l : ServicesLabel ι} {i : ι} {reply : Power.Reply}
    (h : s.batchLabel l = some (.answer i (some reply))) :
    ∃ call, l = .answer i call ∧ s.call i = some call ∧ s.replies call = some reply := by
  cases l with
  | batch b =>
    unfold JointServices.batchLabel at h
    dsimp only at h
    split_ifs at h with hlocal
    cases h
    cases hlocal
  | answer j call =>
    unfold JointServices.batchLabel at h
    dsimp only at h
    split_ifs at h with hcall
    obtain ⟨given, hgiven, heq⟩ := Option.map_eq_some_iff.mp h
    cases heq
    exact ⟨call, rfl, hcall, hgiven⟩
  | _ => cases h

theorem linked_initial (now : ℤ) :
    Linked model limits cfg (JointServices.initial now : JointServices ι) .fresh where
  batch := batchInvariant_initial now
  absolute := agrees_initial now
  sent_lt _ _ h := by cases h
  requests _ _ h := by cases h
  serving _ h := by cases h
  replies _ _ h := by cases h
  awaiting _ _ _ h := by cases h

variable [DecidableEq ι]

/-- A step of the service of the batches keeps the links. -/
theorem Linked.stepBatch {l : BatchLabel ι} (hs : Linked model limits cfg s m)
    (h : s.stepBatch model limits l = some s') :
    Linked model limits cfg s' (m.noteBatch model limits s l) := by
  obtain ⟨batch, hstep, rfl⟩ := Option.map_eq_some_iff.mp h
  have hbatch : BatchInvariant model limits (batch, noteBatch model limits s.batch l m.courses) :=
    batchInvariant_step (s.batch, m.courses) l _ hs.batch (observed_eq_some.mpr ⟨hstep, rfl⟩)
  have hawaits := fun i request target => awaiting_of_step i request target hstep
  unfold JointServices.send ServicesCourse.noteBatch
  cases hforwarded : s.batch.forwarded model limits l with
  | none =>
    rw [hforwarded] at hawaits
    refine ⟨hbatch, hs.absolute, hs.sent_lt, hs.requests, hs.serving, hs.replies, ?_⟩
    intro i request target hphase
    rcases hawaits i request target hphase with ⟨hold, -⟩ | hnew
    · exact hs.awaiting i request target hold
    · cases hnew
  | some sent =>
    obtain ⟨j, absolute⟩ := sent
    rw [hforwarded] at hawaits
    -- what was sent before keeps its number
    have hkeeps : ∀ {call request}, m.sent call = some request →
        Function.update m.sent s.calls (some absolute) call = some request := by
      intro call request hsent
      rw [Function.update_of_ne (hs.sent_lt call request hsent).ne, hsent]
    refine ⟨hbatch, hs.absolute, ?_, ?_, ?_, ?_, ?_⟩
    · intro call request hsent
      dsimp only at hsent ⊢
      by_cases hcall : call = s.calls
      · omega
      · rw [Function.update_of_ne hcall] at hsent
        exact Nat.lt_succ_of_lt (hs.sent_lt call request hsent)
    · intro call request hrequest
      dsimp only at hrequest ⊢
      by_cases hcall : call = s.calls
      · rw [hcall, Function.update_self] at hrequest ⊢
        exact hrequest
      · rw [Function.update_of_ne hcall] at hrequest
        exact hkeeps (hs.requests call request hrequest)
    · intro call hserving
      obtain ⟨request, hsent, hon⟩ := hs.serving call hserving
      exact ⟨request, hkeeps hsent, hon⟩
    · intro call reply hreply hsuccess
      obtain ⟨request, hsent, hreached⟩ := hs.replies call reply hreply hsuccess
      exact ⟨request, hkeeps hsent, hreached⟩
    · intro i request target hphase
      dsimp only
      rcases hawaits i request target hphase with ⟨hold, hother⟩ | hnew
      · obtain ⟨call, hcall, hsent⟩ := hs.awaiting i request target hold
        have hne : i ≠ j := by
          rintro rfl
          exact hother absolute rfl
        exact ⟨call, by rw [Function.update_of_ne hne, hcall], hkeeps hsent⟩
      · cases hnew
        exact ⟨s.calls, Function.update_self .., Function.update_self ..⟩

/-- The service of the batches leaves the other node alone. -/
theorem absolute_stepBatch {l : BatchLabel ι} (h : s.stepBatch model limits l = some s') :
    s'.absolute = s.absolute ∧ s'.serving = s.serving := by
  obtain ⟨batch, -, rfl⟩ := Option.map_eq_some_iff.mp h
  unfold JointServices.send
  split <;> exact ⟨rfl, rfl⟩

/-- Every step keeps the links. -/
theorem linked_step (s : JointServices ι × ServicesCourse ι) (l : ServicesLabel ι)
    (s' : JointServices ι × ServicesCourse ι) (hs : Linked model limits cfg s.1 s.2)
    (h : observed (JointServices.step model limits cfg)
      (ServicesCourse.noteStep model limits cfg) s l = some s') :
    Linked model limits cfg s'.1 s'.2 := by
  obtain ⟨s, m⟩ := s
  obtain ⟨s', m'⟩ := s'
  obtain ⟨hstep, hnote⟩ := observed_eq_some.mp h
  dsimp only at hs hstep hnote ⊢
  subst hnote
  unfold JointServices.step at hstep
  unfold ServicesCourse.noteStep
  cases hb : s.batchLabel l with
  | none =>
    cases ha : s.absoluteLabel l with
    | none =>
      rw [hb, ha] at hstep
      cases hstep
    | some a =>
      rw [hb, ha] at hstep
      exact hs.stepAbsolute (fun call hcall => serving_of_absoluteLabel ha hcall) hstep
  | some b =>
    cases ha : s.absoluteLabel l with
    | none =>
      rw [hb, ha] at hstep
      exact hs.stepBatch hstep
    | some a =>
      rw [hb, ha] at hstep
      obtain ⟨between, hbatch, habsolute⟩ := Option.bind_eq_some_iff.mp hstep
      obtain ⟨nanoseconds, rfl⟩ := elapse_of_both hb ha
      obtain ⟨hsame, hserving⟩ := absolute_stepBatch hbatch
      have hlinked := (hs.stepBatch hbatch).stepAbsolute
        (fun call hcall => .inr ⟨hserving.trans hcall, by simp⟩) habsolute
      unfold ServicesCourse.noteAbsolute at hlinked ⊢
      rw [hsame] at hlinked
      exact hlinked

/-- The courses of the batches after a step of their service. -/
theorem courses_noteStep {l : ServicesLabel ι} {b : BatchLabel ι} {i : ι} {next : BatchNext}
    (hb : s.batchLabel l = some b) (hserve : s.batch.serve model limits b = some (i, next)) :
    (m.noteStep model limits cfg s l).courses i =
      (courseBefore m.courses i b).record s.batch (s.batch.callbacks i) next.2 := by
  have hcourse : noteBatch model limits s.batch b m.courses i =
      (courseBefore m.courses i b).record s.batch (s.batch.callbacks i) next.2 := by
    unfold noteBatch
    rw [hserve]
    exact Function.update_self ..
  unfold ServicesCourse.noteStep
  rw [hb]
  cases s.absoluteLabel l <;> exact hcourse

end

/-- In every run of the two services, a batch succeeds only when the arms are at its targets, from
the beginning or by the request that was forwarded for it. -/
theorem batch_succeeds_there [DecidableEq ι] (model : ArmModel) (limits : BatchParameters)
    (cfg : Parameters) (now : ℤ) (ls : List (ServicesLabel ι)) :
    Throughout (observed (JointServices.step model limits cfg)
        (ServicesCourse.noteStep model limits cfg)) (SucceedsThere model limits cfg)
      ((JointServices.initial now : JointServices ι), .fresh) ls := by
  refine throughout_of_invariant (I := fun s => Linked model limits cfg s.1 s.2) linked_step
    (fun s l s' hs h i status hpublished hsucceeded => ?_) (linked_initial now)
  obtain ⟨-, hnote⟩ := observed_eq_some.mp h
  obtain ⟨b, hb, hbatch⟩ := Option.bind_eq_some_iff.mp hpublished
  obtain ⟨⟨j, next⟩, hserve, hstatus⟩ := Option.bind_eq_some_iff.mp hbatch
  obtain ⟨status', hsome, heq⟩ := Option.map_eq_some_iff.mp hstatus
  cases heq
  rw [hnote, courses_noteStep hb hserve]
  rcases succeeded_serve (hs.batch.agrees _) hserve hsome hsucceeded with
    ⟨request, snapshot, hrequest, hsnapshot, husable, hat⟩ |
    ⟨request, reply, rfl, hsuccess, hawaits, hrequest⟩
  · exact ⟨request, hrequest, .inl ⟨snapshot, hsnapshot, husable, hat⟩⟩
  · refine ⟨request, hrequest, .inr ?_⟩
    obtain ⟨call, rfl, hcall, hreply⟩ := answer_of_batchLabel hb
    obtain ⟨call', hcall', hsent⟩ := hs.awaiting _ _ _ hawaits
    obtain rfl : call = call' := Option.some_inj.mp (hcall.symm.trans hcall')
    obtain ⟨request', hsent', hreached⟩ := hs.replies call reply hreply hsuccess
    obtain rfl : request' = makeAbsoluteRequest status.targetJoints request.vel request.acc :=
      Option.some_inj.mp (hsent'.symm.trans hsent)
    unfold ServicesCourse.noteStep
    rw [hb]
    exact hreached

end Joint

end JointController
