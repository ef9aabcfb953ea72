import JointController.Gateway.ProxyCourse
import JointController.Library.CriticalSection
import JointController.Library.Observers

/-!
# What the command proxy lets through

Requests come in on any number of threads whose callbacks run in any order, between messages with
any content, and native calls end as they like.

* `ProxiesExclude`, `proxies_exclude`: at most one command is out, and a request is refused as busy
  exactly while it needs the mutex that another callback has.
* `ProxySends`, `proxy_sends`: every request to a native service has behind it what it needs.
* `ProxyAnswers`, `proxy_answers`: every response has its calls behind it.
-/

open CriticalSection Runs

namespace JointController

namespace Gateway

namespace Proxy

section

variable {ι κ : Type} {cfg : ProxyParameters} {f : LiftFeedback} {course : Course κ}
  {call : Request κ}

/-! ## Requests to native services -/

theorem sends_of_agreesCall {purpose : Purpose} (h : AgreesCall cfg course call purpose) :
    Sends cfg course call := by
  cases purpose with
  | forward =>
    obtain ⟨-, hforwards⟩ := h
    cases call with
    | liftPower data => exact absurd hforwards not_false
    | liftStop => exact .inl hforwards
    | liftHold => exact .inl hforwards
    | _ => exact hforwards
  | recovery error =>
    obtain ⟨rfl, hrequest, -⟩ := h
    exact .inr ⟨true, hrequest⟩
  | hold =>
    obtain ⟨rfl, hrequest, -⟩ := h
    exact .inr hrequest
  | power data generation holdWarning =>
    cases data with
    | true =>
      obtain ⟨rfl, hrequest, -, hready, -⟩ := h
      exact ⟨hrequest, hready⟩
    | false =>
      obtain ⟨rfl, hrequest, -⟩ := h
      exact .inl hrequest
  | stop generation holdWarning =>
    obtain ⟨rfl, hrequest, -⟩ := h
    exact .inr ⟨false, hrequest⟩
  | rollback generation feedback =>
    obtain ⟨rfl, hrequest, hpower⟩ := h
    exact .inr ⟨hrequest, hpower⟩
  | rollbackStop generation feedback back =>
    obtain ⟨rfl, hrequest, -⟩ := h
    exact .inr ⟨true, hrequest⟩

/-- The request behind a command is a command. -/
theorem exclusive_of_sends (h : Sends cfg course call) (hexclusive : call.exclusive = true) :
    ∃ request, course.request = some request ∧ request.exclusive = true := by
  cases call with
  | liftPower data =>
    cases data with
    | true => exact ⟨_, h.1, rfl⟩
    | false => cases hexclusive
  | liftCommand native =>
    obtain ⟨request, hrequest, -⟩ := h.request
    exact ⟨_, hrequest, rfl⟩
  | liftStop => cases hexclusive
  | liftHold => cases hexclusive
  | _ => exact ⟨_, h, rfl⟩

/-- What holds while a call is made stays when its request is sent. -/
theorem AgreesCall.send {purpose : Purpose} (h : AgreesCall cfg course call purpose) :
    AgreesCall cfg (course.send call) call purpose := by
  cases purpose with
  | forward =>
    obtain ⟨hcalls, hforwards⟩ := h
    refine ⟨hcalls, ?_⟩
    cases call with
    | liftCommand native => exact ⟨hforwards.request, hforwards.ready, hforwards.powered⟩
    | _ => exact hforwards
  | recovery error =>
    obtain ⟨rfl, hrequest, hcalls, hout, herror⟩ := h
    exact ⟨rfl, hrequest, hcalls, List.forall_mem_cons.mpr ⟨rfl, hout⟩, herror⟩
  | power data generation holdWarning =>
    cases data with
    | true => exact h
    | false => exact h
  | _ => exact h

/-- What a step of a callback comes to, from its course before and after. -/
structure Steps (cfg : ProxyParameters) (f : LiftFeedback) (course course' : Course κ)
    (next : Next κ) : Prop where
  phase : next.response = none → Agrees cfg course' next.phase
  response : ∀ response, next.response = some response → Answered cfg f course' response
  request : course'.request = course.request
  sent : ∀ call, next.sent = some call →
    Sends cfg course call ∧ (call.exclusive = true → NoneOut course)

theorem Goes.steps {course' : Course κ} {next : Next κ} (h : Goes cfg f course' next)
    (hrequest : course'.request = course.request) : Steps cfg f course course' next where
  phase := h.phase
  response := h.response
  request := hrequest
  sent call hsent := by
    rw [h.quiet] at hsent
    cases hsent

theorem steps_reach {now : ℤ} {failure : Option CallFailure} {phase : Phase κ} {next : Next κ}
    (hagrees : Agrees cfg course phase) (h : reach cfg now failure phase = some next) :
    Steps cfg f course (course.reach failure phase) next := by
  cases phase with
  | reaching call purpose =>
    obtain ⟨hcall, hout⟩ := hagrees
    unfold reach at h
    cases failure with
    | none =>
      cases h
      refine ⟨fun _ => hcall.send, (fun _ hresponse => by cases hresponse), rfl, fun _ hsent => ?_⟩
      cases hsent
      exact ⟨sends_of_agreesCall hcall, hout⟩
    | some failure =>
      cases h
      exact (goes_returned hcall).steps rfl
  | _ => cases h

theorem steps_answer {now : ℤ} {outcome : Outcome} {phase : Phase κ} {next : Next κ}
    (hagrees : Agrees cfg course phase) (h : answer cfg now outcome phase = some next) :
    Steps cfg f course (course.answer outcome phase) next := by
  cases phase with
  | awaiting call purpose =>
    cases h
    exact (goes_returned hagrees).steps rfl
  | _ => cases h

theorem steps_advance {now : ℤ} {stopReady : Bool} {phase : Phase κ} {next : Next κ}
    (hagrees : Agrees cfg course phase) (h : advance cfg f now stopReady phase = some next) :
    Steps cfg f course (course.look f now phase) next := by
  refine (goes_advance hagrees h).steps ?_
  cases phase <;> rfl

theorem agrees_begin (request : Request κ) :
    Agrees cfg { Course.fresh with request := some request } (begin request) := by
  have hout : NoneOut { Course.fresh with request := some request } := fun _ h => by cases h
  cases request with
  | liftPower data =>
    cases data with
    | true => exact ⟨rfl, rfl, hout⟩
    | false => exact ⟨⟨rfl, rfl, rfl⟩, fun _ => hout⟩
  | liftCommand request => exact ⟨rfl, rfl, hout⟩
  | _ => exact ⟨⟨rfl, rfl⟩, fun _ => hout⟩

/-! ## Runs -/

variable {s : ProxyNode ι κ} {l : ProxyLabel ι κ} {i : ι} {served : Served κ}

/-- The callback has the mutex. -/
def Inside (callback : Callback κ) : Prop := callback.locked = true

/-- A callback is idle, or it is at work on a request and has the mutex that this needs. -/
def Proper (cfg : ProxyParameters) (course : Course κ) (callback : Callback κ) : Prop :=
  callback = ⟨.idle, false⟩ ∨ Agrees cfg course callback.phase ∧
    ∃ request, course.request = some request ∧ callback.locked = request.exclusive

/-- The invariant of the runs. -/
structure ProxyInvariant (cfg : ProxyParameters) (s : ProxyNode ι κ × (ι → Course κ)) : Prop where
  proper : ∀ i, Proper cfg (s.2 i) (s.1.callbacks i)
  exclusive : Exclusive Inside s.1.callbacks s.1.commandMutex

/-- A step of a callback begins a request, or goes on with it. -/
theorem serve_cases (h : s.serve cfg l = some (i, served)) :
    (∃ request, l = .request i request ∧ (s.callbacks i).phase = .idle ∧
      served = s.enter request) ∨
    ∃ next, served = s.move (s.callbacks i) next ∧ (s.callbacks i).phase ≠ .idle ∧
      ∀ course, Agrees cfg course (s.callbacks i).phase →
        Steps cfg s.feedback course
          (course.note s.feedback s.now (s.callbacks i).phase l) next := by
  cases l with
  | request j request =>
    unfold ProxyNode.serve at h
    dsimp only at h
    cases hp : (s.callbacks j).phase with
    | idle =>
      rw [hp] at h
      cases h
      exact .inl ⟨request, rfl, hp, rfl⟩
    | _ =>
      rw [hp] at h
      cases h
  | advance j stopReady =>
    obtain ⟨next, hnext, heq⟩ := Option.map_eq_some_iff.mp h
    cases heq
    refine .inr ⟨next, rfl, fun hidle => ?_, fun course hagrees => steps_advance hagrees hnext⟩
    rw [hidle] at hnext
    cases hnext
  | reach j failure =>
    obtain ⟨next, hnext, heq⟩ := Option.map_eq_some_iff.mp h
    cases heq
    refine .inr ⟨next, rfl, fun hidle => ?_, fun course hagrees => steps_reach hagrees hnext⟩
    rw [hidle] at hnext
    cases hnext
  | answer j outcome =>
    obtain ⟨next, hnext, heq⟩ := Option.map_eq_some_iff.mp h
    cases heq
    refine .inr ⟨next, rfl, fun hidle => ?_, fun course hagrees => steps_answer hagrees hnext⟩
    rw [hidle] at hnext
    cases hnext
  | _ => cases h

/-- A callback at work agrees with its course. -/
theorem Proper.agrees {callback : Callback κ} (h : Proper cfg course callback)
    (hwork : callback.phase ≠ .idle) : Agrees cfg course callback.phase := by
  obtain rfl | ⟨hagrees, -⟩ := h
  · exact absurd rfl hwork
  · exact hagrees

/-- The callback that enters is proper, and the mutex stays exclusive. -/
theorem enter_proper [DecidableEq ι] {request : Request κ}
    (hexclusive : Exclusive Inside s.callbacks s.commandMutex)
    (hidle : s.callbacks i = ⟨.idle, false⟩) :
    Proper cfg { Course.fresh with request := some request } (s.enter request).callback ∧
      Exclusive Inside (Function.update s.callbacks i (s.enter request).callback)
        (s.enter request).commandMutex := by
  have hout : ¬ Inside (s.callbacks i) := by
    rw [hidle]
    exact Bool.false_ne_true
  unfold ProxyNode.enter
  split_ifs with hbusy
  · refine ⟨.inl rfl, hexclusive.stay ?_⟩
    exact ⟨fun hin => absurd hin Bool.false_ne_true, fun hin => absurd hin hout⟩
  · refine ⟨.inr ⟨agrees_begin request, request, rfl, rfl⟩, ?_⟩
    cases hneeds : request.exclusive with
    | true =>
      have hfree : s.commandMutex = false :=
        Bool.eq_false_iff.mpr fun hmutex => hbusy ⟨hneeds, hmutex⟩
      rw [hfree] at hexclusive ⊢
      exact hexclusive.enter i rfl
    | false =>
      refine hexclusive.stay ?_
      exact ⟨fun hin => absurd hin Bool.false_ne_true, fun hin => absurd hin hout⟩

/-- The callback that moves is proper, and the mutex stays exclusive. -/
theorem move_proper [DecidableEq ι] {course' : Course κ} {next : Next κ}
    (hproper : Proper cfg course (s.callbacks i)) (hwork : (s.callbacks i).phase ≠ .idle)
    (hexclusive : Exclusive Inside s.callbacks s.commandMutex)
    (hsteps : Steps cfg s.feedback course course' next) :
    Proper cfg course' (s.move (s.callbacks i) next).callback ∧
      Exclusive Inside (Function.update s.callbacks i (s.move (s.callbacks i) next).callback)
        (s.move (s.callbacks i) next).commandMutex := by
  unfold ProxyNode.move
  cases hresponse : next.response with
  | none =>
    refine ⟨.inr ⟨hsteps.phase hresponse, ?_⟩, hexclusive.stay Iff.rfl⟩
    rw [hsteps.request]
    obtain heq | ⟨-, hlocked⟩ := hproper
    · rw [heq] at hwork
      exact absurd rfl hwork
    · exact hlocked
  | some response =>
    refine ⟨.inl rfl, ?_⟩
    dsimp only
    cases hlocked : (s.callbacks i).locked with
    | true =>
      rw [Bool.not_true, Bool.and_false]
      exact hexclusive.leave hlocked Bool.false_ne_true
    | false =>
      rw [Bool.not_false, Bool.and_true]
      refine hexclusive.stay ⟨fun hin => absurd hin Bool.false_ne_true, fun hin => ?_⟩
      exact absurd (hin.symm.trans hlocked) Bool.false_ne_true.symm

theorem proper_of_idle {callback : Callback κ} (h : Proper cfg course callback)
    (hidle : callback.phase = .idle) : callback = ⟨.idle, false⟩ := by
  obtain heq | ⟨hagrees, -⟩ := h
  · exact heq
  · rw [hidle] at hagrees
    exact absurd hagrees not_false

section

variable [DecidableEq ι]

/-- The callback that makes a step is proper then, and the mutex stays exclusive. -/
theorem serve_proper {s : ProxyNode ι κ × (ι → Course κ)} (hs : ProxyInvariant cfg s)
    (h : s.1.serve cfg l = some (i, served)) :
    Proper cfg ((s.2 i).note s.1.feedback s.1.now (s.1.callbacks i).phase l) served.callback ∧
      Exclusive Inside (Function.update s.1.callbacks i served.callback) served.commandMutex := by
  obtain ⟨request, rfl, hidle, rfl⟩ | ⟨next, rfl, hwork, hsteps⟩ := serve_cases h
  · exact enter_proper hs.exclusive (proper_of_idle (hs.proper i) hidle)
  · exact move_proper (hs.proper i) hwork hs.exclusive (hsteps _ ((hs.proper i).agrees hwork))

theorem noteProxy_of_serve {courses : ι → Course κ} (h : s.serve cfg l = some (i, served)) :
    noteProxy cfg s l courses = Function.update courses i
      ((courses i).note s.feedback s.now (s.callbacks i).phase l) := by
  unfold noteProxy
  rw [h]

theorem put_of_serve {s' : ProxyNode ι κ} (hstep : s.step cfg l = some s')
    (h : s.serve cfg l = some (i, served)) : s' = s.put i served := by
  cases l with
  | request _ _ | advance _ _ | reach _ _ | answer _ _ =>
    obtain ⟨served', hserved, rfl⟩ := Option.map_eq_some_iff.mp hstep
    rw [h] at hserved
    cases hserved
    rfl
  | _ => cases h

theorem proxyInvariant_step (s : ProxyNode ι κ × (ι → Course κ)) (l : ProxyLabel ι κ)
    (s' : ProxyNode ι κ × (ι → Course κ)) (hs : ProxyInvariant cfg s)
    (h : observed (ProxyNode.step cfg) (noteProxy cfg) s l = some s') : ProxyInvariant cfg s' := by
  obtain ⟨hstep, hnote⟩ := observed_eq_some.mp h
  obtain ⟨s', courses'⟩ := s'
  dsimp only at hstep hnote
  subst hnote
  cases hserve : s.1.serve cfg l with
  | none =>
    have hcourses : noteProxy cfg s.1 l s.2 = s.2 := by
      unfold noteProxy
      rw [hserve]
    rw [hcourses]
    cases l with
    | request _ _ | advance _ _ | reach _ _ | answer _ _ =>
      obtain ⟨served, hserved, -⟩ := Option.map_eq_some_iff.mp hstep
      rw [hserve] at hserved
      cases hserved
    | _ =>
      cases hstep
      exact ⟨hs.proper, hs.exclusive⟩
  | some r =>
    obtain ⟨i, served⟩ := r
    obtain ⟨hproper, hexclusive⟩ := serve_proper hs hserve
    rw [noteProxy_of_serve hserve, put_of_serve hstep hserve]
    refine ⟨fun j => ?_, hexclusive⟩
    unfold ProxyNode.put
    dsimp only
    by_cases hj : j = i
    · subst hj
      rw [Function.update_self, Function.update_self]
      exact hproper
    · rw [Function.update_of_ne hj, Function.update_of_ne hj]
      exact hs.proper j

omit [DecidableEq ι] in
theorem proxyInvariant_initial (now : ℤ) :
    ProxyInvariant cfg ((ProxyNode.initial now : ProxyNode ι κ), fun _ => Course.fresh) :=
  ⟨fun _ => .inl rfl, .empty fun _ => Bool.false_ne_true⟩

/-- The callback of a command is at work. -/
def Commands (s : ProxyNode ι κ × (ι → Course κ)) (i : ι) : Prop :=
  (s.1.callbacks i).phase ≠ .idle ∧
    ∃ request, (s.2 i).request = some request ∧ request.exclusive = true

omit [DecidableEq ι] in
theorem inside_iff_commands {s : ProxyNode ι κ × (ι → Course κ)} (hs : ProxyInvariant cfg s)
    (i : ι) : Inside (s.1.callbacks i) ↔ Commands s i := by
  unfold Inside Commands
  obtain heq | ⟨hagrees, request, hrequest, hlocked⟩ := hs.proper i
  · rw [heq]
    exact ⟨fun h => absurd h Bool.false_ne_true, fun h => absurd rfl h.1⟩
  · rw [hlocked]
    constructor
    · intro hexclusive
      refine ⟨fun hidle => ?_, request, hrequest, hexclusive⟩
      rw [hidle] at hagrees
      exact hagrees
    · rintro ⟨-, request', hrequest', hexclusive⟩
      obtain rfl : request = request' := Option.some_inj.mp (hrequest.symm.trans hrequest')
      exact hexclusive

/-- A callback that has sent a command has the mutex. -/
theorem inside_of_awaiting {callback : Callback κ} {call : Request κ} {purpose : Purpose}
    (h : Proper cfg course callback) (hphase : callback.phase = .awaiting call purpose)
    (hexclusive : call.exclusive = true) : Inside callback := by
  obtain heq | ⟨hagrees, request, hrequest, hlocked⟩ := h
  · rw [heq] at hphase
    cases hphase
  · rw [hphase] at hagrees
    obtain ⟨request', hrequest', hexclusive'⟩ :=
      exclusive_of_sends (sends_of_agreesCall hagrees) hexclusive
    obtain rfl : request = request' := Option.some_inj.mp (hrequest.symm.trans hrequest')
    exact hlocked.trans hexclusive'

variable (cfg)

/-- At most one command is out, and a request is refused as busy exactly when it is a command and
the callback of another command is at work.  The others are never answered at once. -/
structure ProxiesExclude (s : ProxyNode ι κ × (ι → Course κ)) (l : ProxyLabel ι κ)
    (s' : ProxyNode ι κ × (ι → Course κ)) : Prop where
  alone : ∀ i j call call' purpose purpose',
    (s'.1.callbacks i).phase = .awaiting call purpose → call.exclusive = true →
    (s'.1.callbacks j).phase = .awaiting call' purpose' → call'.exclusive = true → i = j
  busy : ∀ i request, l = .request i request → ∀ response,
    s.1.response cfg l = some (i, response) ↔
      response = rejectBusy ∧ request.exclusive = true ∧ ∃ j, Commands s j

/-- Every request to a native service has behind it what it needs, and a request to a proxy leads to
at most one command. -/
def ProxySends (s : ProxyNode ι κ × (ι → Course κ)) (l : ProxyLabel ι κ)
    (_ : ProxyNode ι κ × (ι → Course κ)) : Prop :=
  ∀ i call, s.1.sent cfg l = some (i, call) →
    Sends cfg (s.2 i) call ∧ (call.exclusive = true → NoneOut (s.2 i))

/-- Every response has its calls behind it, unless the proxy was busy. -/
def ProxyAnswers (s : ProxyNode ι κ × (ι → Course κ)) (l : ProxyLabel ι κ)
    (s' : ProxyNode ι κ × (ι → Course κ)) : Prop :=
  ∀ i response, s.1.response cfg l = some (i, response) →
    (∃ request, l = .request i request ∧ response = rejectBusy) ∨
      Answered cfg s.1.feedback (s'.2 i) response

variable {cfg}

omit [DecidableEq ι] in
/-- The response to a request that has come in. -/
theorem response_request {s : ProxyNode ι κ × (ι → Course κ)} (hs : ProxyInvariant cfg s)
    {request : Request κ} (hidle : (s.1.callbacks i).phase = .idle) (response : Response) :
    s.1.response cfg (.request i request) = some (i, response) ↔
      response = rejectBusy ∧ request.exclusive = true ∧ ∃ j, Commands s j := by
  have hmutex : s.1.commandMutex = true ↔ ∃ j, Commands s j := by
    rw [hs.exclusive.flagged]
    exact exists_congr (inside_iff_commands hs)
  have hserve : s.1.serve cfg (.request i request) = some (i, s.1.enter request) := by
    unfold ProxyNode.serve
    dsimp only
    rw [hidle]
  unfold ProxyNode.response
  rw [hserve, Option.bind_some]
  unfold ProxyNode.enter
  split_ifs with hbusy
  · constructor
    · intro h
      cases h
      exact ⟨rfl, hbusy.1, hmutex.mp hbusy.2⟩
    · rintro ⟨rfl, -⟩
      rfl
  · constructor
    · intro h
      cases h
    · rintro ⟨-, hexclusive, hcommands⟩
      exact absurd ⟨hexclusive, hmutex.mpr hcommands⟩ hbusy

variable (cfg)

/-- In every run, the commands exclude one another. -/
theorem proxies_exclude (now : ℤ) (ls : List (ProxyLabel ι κ)) :
    Throughout (observed (ProxyNode.step cfg) (noteProxy cfg)) (ProxiesExclude cfg)
      ((ProxyNode.initial now : ProxyNode ι κ), fun _ => Course.fresh) ls := by
  refine throughout_of_invariant proxyInvariant_step (fun s l s' hs h => ?_)
    (proxyInvariant_initial now)
  have hs' := proxyInvariant_step s l s' hs h
  constructor
  · intro i j call call' purpose purpose' hi hexclusive hj hexclusive'
    exact hs'.exclusive.unique i j (inside_of_awaiting (hs'.proper i) hi hexclusive)
      (inside_of_awaiting (hs'.proper j) hj hexclusive')
  · rintro i request rfl response
    obtain ⟨hstep, -⟩ := observed_eq_some.mp h
    refine response_request hs ?_ response
    obtain ⟨served, hserved, -⟩ := Option.map_eq_some_iff.mp hstep
    unfold ProxyNode.serve at hserved
    dsimp only at hserved
    split at hserved
    · assumption
    · cases hserved

/-- In every run, every request to a native service has behind it what it needs. -/
theorem proxy_sends (now : ℤ) (ls : List (ProxyLabel ι κ)) :
    Throughout (observed (ProxyNode.step cfg) (noteProxy cfg)) (ProxySends cfg)
      ((ProxyNode.initial now : ProxyNode ι κ), fun _ => Course.fresh) ls := by
  refine throughout_of_invariant proxyInvariant_step (fun s l s' hs _ i call hsent => ?_)
    (proxyInvariant_initial now)
  obtain ⟨⟨j, served⟩, hserve, hsent⟩ := Option.bind_eq_some_iff.mp hsent
  obtain ⟨call', hcall, heq⟩ := Option.map_eq_some_iff.mp hsent
  cases heq
  obtain ⟨request, rfl, -, rfl⟩ | ⟨next, rfl, hwork, hsteps⟩ := serve_cases hserve
  · unfold ProxyNode.enter at hcall
    split_ifs at hcall
  · refine (hsteps _ ((hs.proper _).agrees hwork)).sent _ ?_
    unfold ProxyNode.move at hcall
    split at hcall <;> exact hcall

/-- In every run, every response has its calls behind it. -/
theorem proxy_answers (now : ℤ) (ls : List (ProxyLabel ι κ)) :
    Throughout (observed (ProxyNode.step cfg) (noteProxy cfg)) (ProxyAnswers cfg)
      ((ProxyNode.initial now : ProxyNode ι κ), fun _ => Course.fresh) ls := by
  refine throughout_of_invariant proxyInvariant_step (fun s l s' hs h i response hresponse => ?_)
    (proxyInvariant_initial now)
  obtain ⟨-, hnote⟩ := observed_eq_some.mp h
  obtain ⟨⟨j, served⟩, hserve, hsome⟩ := Option.bind_eq_some_iff.mp hresponse
  obtain ⟨response', hanswer, heq⟩ := Option.map_eq_some_iff.mp hsome
  cases heq
  obtain ⟨request, rfl, hidle, -⟩ | ⟨next, rfl, hwork, hsteps⟩ := serve_cases hserve
  · exact .inl ⟨request, rfl, ((response_request hs hidle response).mp hresponse).1⟩
  · refine .inr ?_
    rw [hnote, noteProxy_of_serve hserve, Function.update_self]
    refine (hsteps _ ((hs.proper _).agrees hwork)).response _ ?_
    unfold ProxyNode.move at hanswer
    split at hanswer
    · rename_i hnext
      rw [hnext]
      exact hanswer
    · cases hanswer

end

end

end Proxy

end Gateway

end JointController
