import JointController.Joint.Absolute
import JointController.Library.Observers

/-!
# From a request to its arrival

What a request for absolute joint targets goes through is noted along a run.  Messages arrive at any
time, in any order and with any content.

* `Course`: what a request has gone through, with `note`.
* `Cleared`: what a command must have behind it.  `published_cleared`: every command has it.
* `Arrived`: the feedback shows the arms at rest at the targets.  `success_iff_arrived`: a request
  ends well at exactly these passes of the final wait.
-/

open NearestInteger Runs

namespace JointController

namespace Joint

/-! ## The course of a request -/

/-- A pass of the final wait. -/
structure Look where
  now : ℤ
  seen : Seen

/-- What a request has sent: its commands, the number of motion statuses that the node had received
before, and where the arms then were. -/
structure Sent where
  commands : List AbsoluteRequest
  generation : ℕ
  initialQ : Configuration

/-- What a request has gone through: the state in which its feedback was checked, the last one in
which the motion of the arms was looked at, what it has sent, and the passes of its final wait, the
newest first. -/
structure Course where
  ready : Option AbsoluteService
  rested : Option AbsoluteService
  sent : Sent
  looks : List Look

/-- A request begins. -/
def Course.fresh : Course := ⟨none, none, ⟨[], 0, fun _ => 0⟩, []⟩

/-- The course after a pass of the final wait. -/
def Course.look (course : Course) (now : ℤ) (seen : Seen) : Course :=
  { course with looks := ⟨now, seen⟩ :: course.looks }

/-- The course after a step of the callback of the service. -/
def Course.advance (course : Course) (s : AbsoluteService) : Course :=
  match s.phase with
  | .guarded _ => { course with ready := some s }
  | .stopping _ _ | .blocked _ _ => { course with rested := some s }
  | .stopped _ => { course with sent.generation := s.motionStatusGeneration }
  | .publishing request _ =>
    { course with sent.commands := request :: course.sent.commands }
  | .starting _ _ _ => { course with sent.initialQ := s.qCurrent }
  | .looked _ seen => course.look s.now seen
  | _ => course

/-- The course after a step. -/
def note (s : AbsoluteService) (l : Label) (course : Course) : Course :=
  match l with
  | .request _ _ => .fresh
  | .advance => course.advance s
  | _ => course

section

variable (model : ArmModel) (cfg : Parameters)

/-- What a command has behind it: its numbers are valid, it is the first one of its request, the
feedback was ready, and since then the arms have been seen at rest. -/
structure Cleared (course : Course) (command : AbsoluteRequest) : Prop where
  valid : model.Valid command
  first : course.sent.commands = []
  ready : ∃ ready rested, course.ready = some ready ∧ course.rested = some rested ∧
    ready.Ready model cfg ∧ rested.lastMotionStatus.isMoving = false ∧ ready.now ≤ rested.now

/-- A joint is at its target, up to the tolerance and whole turns.  A position that is not finite
counts as being there. -/
def Near (tolerance current target : Double) : Prop :=
  ∀ q t : ℚ, current = .finite q → target = .finite t →
    ∃ k : ℤ, Double.finite |q - t - k * fullTurn| ≤ tolerance

/-- All joints of the arms are at their targets. -/
structure AtTarget (command : AbsoluteRequest) (q : Configuration) : Prop where
  tolerance : 0 ≤ cfg.positionTolerance
  near : ∀ i, Near cfg.positionTolerance (q (model.armIndex i)) (command.joints i)

/-- The arms are at the targets, and a motion status since the command shows them at rest. -/
structure Sent.Rests (sent : Sent) (seen : Seen) : Prop where
  target : ∃ command, sent.commands = [command] ∧ AtTarget model cfg command seen.currentQ
  since : sent.generation < seen.motionGeneration
  rest : seen.motionStatus.isMoving = false

/-- The arms have been seen in motion, or away from where they were. -/
def Sent.Moved (sent : Sent) (looks : List Look) : Prop :=
  ∃ look ∈ looks, look.seen.motionStatus.isMoving = true ∨
    ∃ n < model.nq, Double.finite (1 / 10000) < (look.seen.currentQ n - sent.initialQ n).abs

/-- The arms had moved when a pass saw them at rest at that time, and so has every later one. -/
inductive Sent.SettlingSince (sent : Sent) : List Look → ℤ → Prop
  | here {look : Look} {looks : List Look} (hrests : sent.Rests model cfg look.seen)
      (hmoved : sent.Moved model (look :: looks)) : SettlingSince sent (look :: looks) look.now
  | earlier {look : Look} {looks : List Look} {time : ℤ} (hrests : sent.Rests model cfg look.seen)
      (hsince : SettlingSince sent looks time) : SettlingSince sent (look :: looks) time

/-- What a pass has seen was not older than the time-out. -/
def Look.Fresh (look : Look) : Prop :=
  look.now - look.seen.jointStateTime ≤ Power.milliseconds cfg.feedbackTimeoutMs ∧
    look.now - look.seen.motionStatusTime ≤ Power.milliseconds cfg.feedbackTimeoutMs

/-- The feedback has been fresh throughout and shows the arms at rest at the targets, where the
controller has reached its goal or they have been settled for long enough. -/
structure Arrived (course : Course) : Prop where
  fresh : ∀ look ∈ course.looks, look.Fresh cfg
  rests : ∃ look older, course.looks = look :: older ∧ course.sent.Rests model cfg look.seen ∧
    (look.seen.motionStatus.goalReached = true ∨
      ∃ time, course.sent.SettlingSince model cfg course.looks time ∧
        Power.milliseconds cfg.settledFeedbackMs ≤ look.now - time)

/-- The commands of a run are cleared. -/
def PublishesCleared (s : AbsoluteService × Course) (l : Label) (_ : AbsoluteService × Course) :
    Prop :=
  ∀ command, s.1.published model cfg l = some command → Cleared model cfg s.2 command

/-- A request ends well when a pass of its final wait finds the arms arrived, and only then. -/
def SucceedsArrived (s : AbsoluteService × Course) (l : Label) (s' : AbsoluteService × Course) :
    Prop :=
  (∃ message, s.1.reply model cfg l = some ⟨true, message⟩) ↔
    l = .advance ∧ (∃ w seen, s.1.phase = .looked w seen) ∧ Arrived model cfg s'.2

end

/-! ## The error of the positions -/

section

variable {model : ArmModel} {cfg : Parameters}

theorem fullTurn_ne_zero : fullTurn ≠ 0 := by
  unfold fullTurn
  norm_num

theorem jointError_finite (q t : ℚ) :
    jointError (.finite q) (.finite t) =
      .finite |q - t - nearest ((q - t) / fullTurn) * fullTurn| := by
  have hdifference : Double.finite q - .finite t = .finite (q - t) :=
    congrArg Double.finite (sub_eq_add_neg q t).symm
  unfold jointError
  rw [hdifference, remainder_finite _ fullTurn_ne_zero, Double.abs_finite]

theorem jointError_cases (current target : Double) :
    jointError current target = .nan ∨
      ∃ q t, current = .finite q ∧ target = .finite t := by
  cases current with
  | finite q =>
    cases target with
    | finite t => exact .inr ⟨q, t, rfl, rfl⟩
    | _ => exact .inl rfl
  | _ => cases target <;> exact .inl rfl

theorem finite_le_of_le {p q : ℚ} {bound : Double} (hpq : p ≤ q) (hq : Double.finite q ≤ bound) :
    Double.finite p ≤ bound := by
  cases bound with
  | finite b => exact Double.finite_le_finite.mpr (hpq.trans (Double.finite_le_finite.mp hq))
  | posInf => rfl
  | negInf => cases hq
  | nan => cases hq

/-- A joint is near its target when its error is small, or not a number. -/
theorem near_iff {tolerance current target : Double} :
    Near tolerance current target ↔
      ∀ x, jointError current target = .finite x → Double.finite x ≤ tolerance := by
  rcases jointError_cases current target with hnan | ⟨q, t, rfl, rfl⟩
  · constructor
    · intro _ x hx
      rw [hnan] at hx
      cases hx
    · rintro - q t rfl rfl
      rw [jointError_finite] at hnan
      cases hnan
  · rw [jointError_finite]
    constructor
    · intro hnear x hx
      obtain ⟨k, hk⟩ := hnear q t rfl rfl
      cases hx
      exact finite_le_of_le (abs_remainder_le_abs_sub _ fullTurn_ne_zero k) hk
    · rintro hle q' t' hq ht
      cases hq
      cases ht
      exact ⟨_, hle _ rfl⟩

/-- The largest error is small when all of them are. -/
theorem foldl_worst_le (tolerance : Double) {error : Fin 14 → Double}
    (herror : ∀ i, error i = .nan ∨ ∃ x, error i = .finite x) (joints : List (Fin 14)) (m : ℚ)
    (name : String) :
    (joints.foldl (fun worst i =>
      if worst.1 < error i then (error i, canonicalJointNames i) else worst)
      (Double.finite m, name)).1 ≤ tolerance ↔
      Double.finite m ≤ tolerance ∧
        ∀ i ∈ joints, ∀ x, error i = .finite x → Double.finite x ≤ tolerance := by
  induction joints generalizing m name with
  | nil => simp
  | cons j joints ih =>
    rw [List.foldl_cons, List.forall_mem_cons]
    rcases herror j with hnan | ⟨x, hx⟩
    · have hskip : ¬ Double.finite m < error j := by
        rw [hnan]
        exact Double.not_lt_nan _
      have htrivial : ∀ x, error j = .finite x → Double.finite x ≤ tolerance := by
        intro x hx
        rw [hnan] at hx
        cases hx
      rw [if_neg hskip, ih]
      exact and_congr_right fun _ => ⟨fun hall => ⟨htrivial, hall⟩, fun hall => hall.2⟩
    · have honly : (∀ y, error j = .finite y → Double.finite y ≤ tolerance) ↔
          Double.finite x ≤ tolerance := by
        constructor
        · exact fun hall => hall x hx
        · intro hle y hy
          rw [hx] at hy
          cases hy
          exact hle
      rw [honly]
      dsimp only
      rw [hx]
      by_cases hlt : Double.finite m < Double.finite x
      · have hmx : m ≤ x := (Double.finite_lt_finite.mp hlt).le
        rw [if_pos hlt, ih]
        exact ⟨fun h => ⟨finite_le_of_le hmx h.1, h⟩, fun h => h.2⟩
      · have hxm : x ≤ m := not_lt.mp (Double.finite_lt_finite.not.mp hlt)
        rw [if_neg hlt, ih]
        exact ⟨fun h => ⟨h.1, finite_le_of_le hxm h.1, h.2⟩, fun h => ⟨h.1, h.2.2⟩⟩

theorem armIndex_injective : Function.Injective model.armIndex := by
  intro i j hij
  exact canonicalJointNames_injective ((List.idxOf_inj (model.complete i)).mp hij)

/-- The target of a joint of the arms. -/
theorem targetPositions_armIndex (request : AbsoluteRequest) (i : Fin 14) :
    model.targetPositionsFromRequest request (model.armIndex i) = request.joints i := by
  have hfold : ∀ (joints : List (Fin 14)) (targets : Configuration), i ∈ joints ∨
      targets (model.armIndex i) = request.joints i →
      joints.foldl (fun targets j =>
        Function.update targets (model.armIndex j) (request.joints j)) targets
        (model.armIndex i) = request.joints i := by
    intro joints
    induction joints with
    | nil => exact fun _ h => h.resolve_left List.not_mem_nil
    | cons j joints ih =>
      intro targets h
      rw [List.foldl_cons]
      apply ih
      by_cases hij : i = j
      · right
        rw [hij, Function.update_self]
      · rcases h with hmem | htarget
        · exact .inl (List.mem_of_ne_of_mem hij hmem)
        · right
          rw [Function.update_of_ne (armIndex_injective.ne hij), htarget]
  exact hfold _ _ (.inl (List.mem_finRange i))

/-- The positions are reached when all joints are at their targets. -/
theorem positionsReached_iff {w : Watch} {seen : Seen} {command : AbsoluteRequest}
    (htarget : w.targetPositions = model.targetPositionsFromRequest command) :
    w.positionsReached model cfg seen = true ↔ AtTarget model cfg command seen.currentQ := by
  have herror : ∀ i, jointError (seen.currentQ (model.armIndex i)) (command.joints i) = .nan ∨
      ∃ x, jointError (seen.currentQ (model.armIndex i)) (command.joints i) = .finite x := by
    intro i
    rcases jointError_cases (seen.currentQ (model.armIndex i)) (command.joints i) with
      hnan | ⟨q, t, hq, ht⟩
    · exact .inl hnan
    · rw [hq, ht, jointError_finite]
      exact .inr ⟨_, rfl⟩
  have hmax := foldl_worst_le cfg.positionTolerance herror (List.finRange 14) 0 ""
  unfold Watch.positionsReached Watch.error ArmModel.maxArmPositionError
  rw [decide_eq_true_iff, htarget]
  simp only [targetPositions_armIndex]
  refine hmax.trans ⟨fun h => ⟨h.1, fun i => near_iff.mpr (h.2 i (List.mem_finRange i))⟩,
    fun h => ⟨h.tolerance, fun i _ => near_iff.mp (h.near i)⟩⟩

/-! ## What holds in the phases -/

variable {course : Course} {request : AbsoluteRequest} {w : Watch} {s : AbsoluteService}

/-- What the final wait keeps agrees with the course of the request. -/
structure Follows (model : ArmModel) (cfg : Parameters) (course : Course)
    (request : AbsoluteRequest) (w : Watch) : Prop where
  commands : course.sent.commands = [request]
  target : w.targetPositions = model.targetPositionsFromRequest request
  generation : w.generationBefore = course.sent.generation
  initialQ : w.initialQ = course.sent.initialQ
  fresh : ∀ look ∈ course.looks, look.Fresh cfg
  detected : w.motionDetected = true ↔ course.sent.Moved model course.looks
  settling : ∀ time, w.settlingSince = some time →
    course.sent.SettlingSince model cfg course.looks time
  settled : ∀ time, course.sent.SettlingSince model cfg course.looks time →
    ∃ since ≤ time, w.settlingSince = some since

/-- The request has a valid target, and the feedback was ready. -/
structure Prepared (model : ArmModel) (cfg : Parameters) (course : Course)
    (request : AbsoluteRequest) : Prop where
  valid : model.Valid request
  first : course.sent.commands = []
  looks : course.looks = []
  ready : ∃ ready, course.ready = some ready ∧ ready.Ready model cfg

/-- What holds of the course in a phase. -/
def PhaseAgrees (model : ArmModel) (cfg : Parameters) (course : Course) : Phase → Prop
  | .idle => True
  | .guarded request => model.Valid request ∧ course.sent.commands = [] ∧ course.looks = []
  | .checked request | .stopping request _ | .blocked request _ =>
    Prepared model cfg course request
  | .stopped request => Cleared model cfg course request ∧ course.looks = []
  | .publishing request generation =>
    Cleared model cfg course request ∧ course.looks = [] ∧ generation = course.sent.generation
  | .published request generation | .starting request generation _ =>
    course.sent.commands = [request] ∧ course.looks = [] ∧ generation = course.sent.generation
  | .watching w | .waiting w | .looked w _ => ∃ request, Follows model cfg course request w

/-- The invariant of the runs: the course agrees with the phase, and lies in the past. -/
structure Agrees (model : ArmModel) (cfg : Parameters) (s : AbsoluteService × Course) : Prop where
  phase : PhaseAgrees model cfg s.2 s.1.phase
  ready : ∀ ready, s.2.ready = some ready → ready.now ≤ s.1.now
  looks : ∀ look ∈ s.2.looks, look.now ≤ s.1.now

theorem mem_looks_of_settlingSince {looks : List Look} {time : ℤ}
    (h : course.sent.SettlingSince model cfg looks time) : ∃ look ∈ looks, look.now = time := by
  induction h with
  | here => exact ⟨_, List.mem_cons_self, rfl⟩
  | earlier _ _ ih =>
    obtain ⟨look, hlook, htime⟩ := ih
    exact ⟨look, List.mem_cons_of_mem _ hlook, htime⟩

theorem moved_of_settlingSince {looks : List Look} {time : ℤ}
    (h : course.sent.SettlingSince model cfg looks time) : course.sent.Moved model looks := by
  induction h with
  | here _ hmoved => exact hmoved
  | earlier _ _ ih =>
    obtain ⟨look, hlook, hmoved⟩ := ih
    exact ⟨look, List.mem_cons_of_mem _ hlook, hmoved⟩

theorem rests_of_settlingSince {look : Look} {looks : List Look} {time : ℤ}
    (h : course.sent.SettlingSince model cfg (look :: looks) time) :
    course.sent.Rests model cfg look.seen := by
  cases h with
  | here hrests _ => exact hrests
  | earlier hrests _ => exact hrests

/-! ## The final wait -/

section

variable {seen : Seen} {now : ℤ}

theorem detects_iff (hw : Follows model cfg course request w) :
    w.detects model seen = true ↔ course.sent.Moved model (⟨now, seen⟩ :: course.looks) := by
  unfold Watch.detects Watch.changed Sent.Moved
  rw [Bool.or_eq_true, Bool.or_eq_true, List.any_eq_true, hw.detected, hw.initialQ, or_assoc,
    or_comm]
  simp only [List.mem_range, decide_eq_true_eq, Sent.Moved]
  rw [List.exists_mem_cons_iff]

theorem rests_iff (hw : Follows model cfg course request w) :
    course.sent.Rests model cfg seen ↔ w.positionsReached model cfg seen = true ∧
      w.hasPostCommandStatus seen = true ∧ seen.motionStatus.isMoving = false := by
  unfold Watch.hasPostCommandStatus
  rw [positionsReached_iff hw.target, decide_eq_true_iff, hw.generation]
  constructor
  · rintro ⟨⟨command, hcommand, htarget⟩, hsince, hrest⟩
    rw [hw.commands] at hcommand
    cases hcommand
    exact ⟨htarget, hsince, hrest⟩
  · rintro ⟨htarget, hsince, hrest⟩
    exact ⟨⟨request, hw.commands, htarget⟩, hsince, hrest⟩

theorem candidate_iff (now : ℤ) (hw : Follows model cfg course request w) :
    jointFeedbackSettlingCandidate (w.positionsReached model cfg seen)
        (w.hasPostCommandStatus seen) seen.motionStatus.isMoving (w.detects model seen) = true ↔
      course.sent.Rests model cfg seen ∧ course.sent.Moved model (⟨now, seen⟩ :: course.looks) := by
  unfold jointFeedbackSettlingCandidate
  rw [rests_iff hw, ← detects_iff hw]
  simp only [Bool.and_eq_true, Bool.not_eq_true', and_assoc]

/-- A pass notes since when the arms have been settling. -/
theorem settles_spec (hw : Follows model cfg course request w) {time : ℤ}
    (h : w.settles model cfg seen now = some time) :
    course.sent.SettlingSince model cfg (⟨now, seen⟩ :: course.looks) time := by
  unfold Watch.settles at h
  split at h
  · rename_i hcandidate
    obtain ⟨hrests, hmoved⟩ := (candidate_iff now hw).mp hcandidate
    cases hsince : w.settlingSince with
    | none =>
      rw [hsince] at h
      cases h
      exact .here hrests hmoved
    | some since =>
      rw [hsince] at h
      cases h
      exact .earlier hrests (hw.settling _ hsince)
  · cases h

/-- It notes the earliest such time. -/
theorem settles_earliest (hw : Follows model cfg course request w)
    (hlooks : ∀ look ∈ course.looks, look.now ≤ now) {time : ℤ}
    (h : course.sent.SettlingSince model cfg (⟨now, seen⟩ :: course.looks) time) :
    ∃ since ≤ time, w.settles model cfg seen now = some since := by
  have hcandidate := (candidate_iff now hw).mpr ⟨rests_of_settlingSince h, moved_of_settlingSince h⟩
  unfold Watch.settles
  rw [if_pos hcandidate]
  cases h with
  | here _ _ =>
    refine ⟨_, ?_, rfl⟩
    cases hsince : w.settlingSince with
    | none => exact le_rfl
    | some since =>
      obtain ⟨look, hlook, htime⟩ := mem_looks_of_settlingSince (hw.settling _ hsince)
      rw [← htime]
      exact hlooks look hlook
  | earlier _ hearlier =>
    obtain ⟨since, hle, hsince⟩ := hw.settled time hearlier
    rw [hsince]
    exact ⟨since, hle, rfl⟩

/-- The arms have settled when they have been settling for long enough. -/
theorem feedbackSettled_iff (seen : Seen) (hw : Follows model cfg course request w)
    (hlooks : ∀ look ∈ course.looks, look.now ≤ now) :
    w.feedbackSettled model cfg seen now = true ↔
      ∃ time, course.sent.SettlingSince model cfg (⟨now, seen⟩ :: course.looks) time ∧
        Power.milliseconds cfg.settledFeedbackMs ≤ now - time := by
  unfold Watch.feedbackSettled
  rw [Option.any_eq_true]
  constructor
  · rintro ⟨time, htime, hlong⟩
    exact ⟨time, settles_spec hw htime, of_decide_eq_true hlong⟩
  · rintro ⟨time, htime, hlong⟩
    obtain ⟨since, hle, hsince⟩ := settles_earliest hw hlooks htime
    exact ⟨since, hsince, decide_eq_true (hlong.trans (Int.sub_le_sub_left hle now))⟩

theorem completed_iff (seen : Seen) (hw : Follows model cfg course request w)
    (hlooks : ∀ look ∈ course.looks, look.now ≤ now) :
    w.completed model cfg seen now = true ↔
      course.sent.Rests model cfg seen ∧ (seen.motionStatus.goalReached = true ∨
        ∃ time, course.sent.SettlingSince model cfg (⟨now, seen⟩ :: course.looks) time ∧
          Power.milliseconds cfg.settledFeedbackMs ≤ now - time) := by
  have hsettled := feedbackSettled_iff seen hw hlooks
  unfold Watch.completed jointMotionCompleted
  rw [rests_iff hw, ← hsettled]
  simp only [Bool.and_eq_true, Bool.or_eq_true, Bool.not_eq_true', and_assoc]
  refine and_congr_right fun _ => and_congr_right fun _ => and_congr_right fun _ =>
    or_congr_right ?_
  -- the arms have moved when they have settled
  refine ⟨fun h => h.2, fun h => ⟨?_, h⟩⟩
  obtain ⟨time, htime, -⟩ := hsettled.mp h
  exact (detects_iff hw).mpr (moved_of_settlingSince htime)

/-- A pass succeeds when the arms have arrived. -/
theorem judge_success_iff (hw : Follows model cfg course request w)
    (hlooks : ∀ look ∈ course.looks, look.now ≤ now) :
    (∃ message, (w.judge model cfg seen now).2.reply = some ⟨true, message⟩) ↔
      Arrived model cfg (course.look now seen) := by
  have hcompleted := completed_iff seen hw hlooks
  constructor
  · rintro ⟨message, hreply⟩
    unfold Watch.judge at hreply
    split_ifs at hreply with hjoint hmotion hdone
    all_goals try cases hreply
    obtain ⟨hrests, hlast⟩ := hcompleted.mp hdone
    refine ⟨fun look hlook => ?_, ⟨⟨now, seen⟩, course.looks, rfl, hrests, hlast⟩⟩
    rcases List.mem_cons.mp hlook with rfl | hold
    · exact ⟨not_lt.mp hjoint, not_lt.mp hmotion⟩
    · exact hw.fresh look hold
  · rintro ⟨hfresh, look, older, hcons, hrests, hlast⟩
    cases hcons
    obtain ⟨hjoint, hmotion⟩ := hfresh _ List.mem_cons_self
    refine ⟨"Joint absolute control completed successfully", ?_⟩
    unfold Watch.judge
    rw [if_neg (not_lt.mpr hjoint), if_neg (not_lt.mpr hmotion),
      if_pos (hcompleted.mpr ⟨hrests, hlast⟩)]
    rfl

/-- The next pass follows the course, too. -/
theorem follows_next (hw : Follows model cfg course request w)
    (hlooks : ∀ look ∈ course.looks, look.now ≤ now)
    (hfresh : Look.Fresh cfg ⟨now, seen⟩) :
    Follows model cfg (course.look now seen) request (w.next model cfg seen now) where
  commands := hw.commands
  target := hw.target
  generation := hw.generation
  initialQ := hw.initialQ
  fresh := List.forall_mem_cons.mpr ⟨hfresh, hw.fresh⟩
  detected := detects_iff hw
  settling _ htime := settles_spec hw htime
  settled _ htime := settles_earliest hw hlooks htime

/-- A pass that does not end the request follows the course. -/
theorem judge_agrees (hw : Follows model cfg course request w)
    (hlooks : ∀ look ∈ course.looks, look.now ≤ now) :
    PhaseAgrees model cfg (course.look now seen) (w.judge model cfg seen now).1 := by
  unfold Watch.judge
  split_ifs with hjoint hmotion
  all_goals try exact trivial
  exact ⟨request, follows_next hw hlooks ⟨not_lt.mp hjoint, not_lt.mp hmotion⟩⟩

theorem judge_published : (w.judge model cfg seen now).2.published = none := by
  unfold Watch.judge
  split_ifs <;> rfl

end

/-! ## Steps -/

/-- What a step of the callback of the service comes to. -/
structure Course.Goes (model : ArmModel) (cfg : Parameters) (course : Course) (s : AbsoluteService)
    (next : Next) : Prop where
  phase : PhaseAgrees model cfg (course.advance s) next.1
  published : ∀ command, next.2.published = some command → Cleared model cfg course command
  success : (∃ message, next.2.reply = some ⟨true, message⟩) ↔
    (∃ w seen, s.phase = .looked w seen) ∧ Arrived model cfg (course.advance s)

section

variable {phase : Phase} {message : String}

/-- A step goes on to another phase. -/
theorem Course.goes_quietly (hs : ∀ w seen, s.phase ≠ .looked w seen)
    (hphase : PhaseAgrees model cfg (course.advance s) phase) :
    course.Goes model cfg s phase.quietly where
  phase := hphase
  published _ h := by cases h
  success := by
    constructor
    · rintro ⟨_, h⟩
      cases h
    · rintro ⟨⟨w, seen, h⟩, -⟩
      exact absurd h (hs w seen)

/-- A step fails the request. -/
theorem Course.goes_fails (hs : ∀ w seen, s.phase ≠ .looked w seen) :
    course.Goes model cfg s (answer false message) where
  phase := trivial
  published _ h := by cases h
  success := by
    constructor
    · rintro ⟨_, h⟩
      cases h
    · rintro ⟨⟨w, seen, h⟩, -⟩
      exact absurd h (hs w seen)

/-- A look at the motion of the arms. -/
theorem Course.goes_lookStopped {deadline : ℤ} (hs : ∀ w seen, s.phase ≠ .looked w seen)
    (hrested : course.advance s = { course with rested := some s })
    (hready : ∀ ready, course.ready = some ready → ready.now ≤ s.now)
    (hprepared : Prepared model cfg course request) :
    course.Goes model cfg s (s.lookStopped request deadline) := by
  unfold AbsoluteService.lookStopped
  split_ifs with hok hmoving
  · exact goes_fails hs
  · refine goes_quietly hs ?_
    rw [hrested]
    exact ⟨hprepared.valid, hprepared.first, hprepared.looks, hprepared.ready⟩
  · refine goes_quietly hs ?_
    obtain ⟨ready, hsome, hwas⟩ := hprepared.ready
    rw [hrested]
    exact ⟨⟨hprepared.valid, hprepared.first, ready, s, hsome, rfl, hwas,
      Bool.not_eq_true _ ▸ hmoving, hready ready hsome⟩, hprepared.looks⟩

/-- The final wait begins. -/
theorem follows_watch {generation : ℕ} {startTime : ℤ}
    (hcommands : course.sent.commands = [request]) (hlooks : course.looks = [])
    (hgeneration : generation = course.sent.generation) :
    Follows model cfg { course with sent.initialQ := s.qCurrent } request
      (s.watch model request generation startTime) where
  commands := hcommands
  target := rfl
  generation := hgeneration
  initialQ := rfl
  fresh := by simp [hlooks]
  detected := by simp [AbsoluteService.watch, Sent.Moved, hlooks]
  settling _ h := by cases h
  settled time h := by
    rw [hlooks] at h
    cases h

theorem Course.goes_advance (hs : Agrees model cfg (s, course)) {next : Next}
    (h : s.advance model cfg = some next) : course.Goes model cfg s next := by
  obtain ⟨hphase, hready, hlooks⟩ := hs
  unfold AbsoluteService.advance at h
  dsimp only at hphase hready hlooks
  cases hp : s.phase with
  | idle =>
    rw [hp] at h
    cases h
  | guarded request =>
    have hs : ∀ w seen, s.phase ≠ .looked w seen := by simp [hp]
    rw [hp] at h hphase
    dsimp only at h
    split at h
    · cases h
      exact goes_fails hs
    · rename_i hok
      cases h
      refine goes_quietly hs ?_
      unfold Course.advance
      rw [hp]
      exact ⟨hphase.1, hphase.2.1, hphase.2.2, s, rfl, AbsoluteService.feedbackReady_eq_ok.mp hok⟩
  | checked request =>
    have hs : ∀ w seen, s.phase ≠ .looked w seen := by simp [hp]
    rw [hp] at h hphase
    cases h
    refine goes_quietly hs ?_
    unfold Course.advance
    rw [hp]
    exact hphase
  | stopping request deadline =>
    have hs : ∀ w seen, s.phase ≠ .looked w seen := by simp [hp]
    rw [hp] at h hphase
    cases h
    refine goes_lookStopped hs ?_ hready hphase
    unfold Course.advance
    rw [hp]
  | blocked request deadline =>
    have hs : ∀ w seen, s.phase ≠ .looked w seen := by simp [hp]
    rw [hp] at h hphase
    dsimp only at h
    split_ifs at h
    · cases h
      exact goes_fails hs
    · cases h
      refine goes_lookStopped hs ?_ hready hphase
      unfold Course.advance
      rw [hp]
  | stopped request =>
    have hs : ∀ w seen, s.phase ≠ .looked w seen := by simp [hp]
    rw [hp] at h hphase
    cases h
    refine goes_quietly hs ?_
    unfold Course.advance
    rw [hp]
    exact ⟨⟨hphase.1.valid, hphase.1.first, hphase.1.ready⟩, hphase.2, rfl⟩
  | publishing request generation =>
    rw [hp] at h hphase
    cases h
    refine ⟨?_, fun command hcommand => ?_, ?_⟩
    · unfold Course.advance
      rw [hp]
      exact ⟨congrArg (request :: ·) hphase.1.first, hphase.2.1, hphase.2.2⟩
    · cases hcommand
      exact hphase.1
    · simp [Phase.publish, hp]
  | published request generation =>
    have hs : ∀ w seen, s.phase ≠ .looked w seen := by simp [hp]
    rw [hp] at h hphase
    cases h
    refine goes_quietly hs ?_
    unfold Course.advance
    rw [hp]
    exact hphase
  | starting request generation startTime =>
    have hs : ∀ w seen, s.phase ≠ .looked w seen := by simp [hp]
    rw [hp] at h hphase
    cases h
    refine goes_quietly hs ?_
    unfold Course.advance
    rw [hp]
    exact ⟨request, follows_watch hphase.1 hphase.2.1 hphase.2.2⟩
  | watching w =>
    have hs : ∀ w seen, s.phase ≠ .looked w seen := by simp [hp]
    rw [hp] at h hphase
    dsimp only at h
    split_ifs at h
    · cases h
      refine goes_quietly hs ?_
      unfold Course.advance
      rw [hp]
      exact hphase
    · cases h
      exact goes_fails hs
  | waiting w =>
    have hs : ∀ w seen, s.phase ≠ .looked w seen := by simp [hp]
    rw [hp] at h hphase
    cases h
    refine goes_quietly hs ?_
    unfold Course.advance
    rw [hp]
    exact hphase
  | looked w seen =>
    rw [hp] at h hphase
    cases h
    obtain ⟨request, hw⟩ := hphase
    have hnext : course.advance s = course.look s.now seen := by
      unfold Course.advance
      rw [hp]
    refine ⟨?_, fun command hcommand => ?_, ?_⟩
    · rw [hnext]
      exact judge_agrees hw hlooks
    · rw [judge_published] at hcommand
      cases hcommand
    · rw [hnext, judge_success_iff hw hlooks]
      exact ⟨fun harrived => ⟨⟨w, seen, hp⟩, harrived⟩, fun h => h.2⟩

end

/-- The request has passed the checks of its numbers and holds the lock. -/
theorem handleAbsoluteControlRequest_cases (model : ArmModel) (request : AbsoluteRequest)
    (guardError : Option String) :
    (∃ message, AbsoluteService.handleAbsoluteControlRequest model request guardError =
      answer false message) ∨
    (model.Valid request ∧ AbsoluteService.handleAbsoluteControlRequest model request guardError =
      (Phase.guarded request).quietly) := by
  unfold AbsoluteService.handleAbsoluteControlRequest
  cases hvalid : model.validateAbsoluteControlRequest request with
  | error e => exact .inl ⟨_, rfl⟩
  | ok u =>
    cases guardError with
    | some e => exact .inl ⟨_, rfl⟩
    | none => exact .inr ⟨ArmModel.validate_eq_ok.mp hvalid, rfl⟩

/-! ## Runs -/

theorem foldl_readJoint_keeps (model : ArmModel) (entries : List (String × Double))
    (s : AbsoluteService) :
    (entries.foldl (AbsoluteService.readJoint model) s).phase = s.phase ∧
      (entries.foldl (AbsoluteService.readJoint model) s).now = s.now := by
  induction entries generalizing s with
  | nil => exact ⟨rfl, rfl⟩
  | cons entry entries ih =>
    have hentry : (s.readJoint model entry).phase = s.phase ∧
        (s.readJoint model entry).now = s.now := by
      unfold AbsoluteService.readJoint
      split <;> exact ⟨rfl, rfl⟩
    rw [List.foldl_cons, (ih _).1, (ih _).2]
    exact hentry

/-- A step that leaves the callback of the service alone. -/
theorem Agrees.keep {s' : AbsoluteService} (hs : Agrees model cfg (s, course))
    (hphase : s'.phase = s.phase) (hnow : s.now ≤ s'.now) : Agrees model cfg (s', course) where
  phase := by
    rw [hphase]
    exact hs.phase
  ready ready h := (hs.ready ready h).trans hnow
  looks look h := (hs.looks look h).trans hnow

/-- A step of the callback keeps the past in the past. -/
theorem Agrees.next (hs : Agrees model cfg (s, course)) {phase : Phase}
    (hphase : PhaseAgrees model cfg (course.advance s) phase) :
    Agrees model cfg ({ s with phase := phase }, course.advance s) := by
  obtain ⟨-, hready, hlooks⟩ := hs
  refine ⟨hphase, fun ready h => ?_, fun look h => ?_⟩
  · unfold Course.advance at h
    split at h
    · cases h
      exact le_rfl
    all_goals exact hready ready h
  · unfold Course.advance at h
    cases hp : s.phase with
    | looked w seen =>
      rw [hp] at h
      rcases List.mem_cons.mp h with rfl | hold
      · exact le_rfl
      · exact hlooks look hold
    | _ =>
      rw [hp] at h
      exact hlooks look h

/-- A request begins. -/
theorem agrees_request {guardError : Option String} {next : Next}
    (h : s.serve model cfg (.request request guardError) = some next) :
    Agrees model cfg ({ s with phase := next.1 }, .fresh) := by
  unfold AbsoluteService.serve at h
  dsimp only at h
  split at h
  · cases h
    refine ⟨?_, fun ready h => ?_, fun look h => ?_⟩
    · rcases handleAbsoluteControlRequest_cases model request guardError with
        ⟨message, hfails⟩ | ⟨hvalid, hguarded⟩
      · rw [hfails]
        exact trivial
      · rw [hguarded]
        exact ⟨hvalid, rfl, rfl⟩
    · cases h
    · cases h
  · cases h

/-- Every step keeps the agreement of the phase with the course. -/
theorem agrees_step (s : AbsoluteService × Course) (l : Label) (s' : AbsoluteService × Course)
    (hs : Agrees model cfg s)
    (h : observed (AbsoluteService.step model cfg) note s l = some s') :
    Agrees model cfg s' := by
  obtain ⟨s, course⟩ := s
  obtain ⟨s', course'⟩ := s'
  obtain ⟨hstep, hnote⟩ := observed_eq_some.mp h
  dsimp only at hstep hnote
  subst hnote
  cases l with
  | jointState message =>
    cases hstep
    obtain ⟨hphase, hnow⟩ := foldl_readJoint_keeps model (message.name.zip message.position) s
    exact hs.keep hphase hnow.ge
  | motionStatus message =>
    cases hstep
    exact hs.keep rfl le_rfl
  | powerStatus message =>
    cases hstep
    exact hs.keep rfl le_rfl
  | controlModeStatus message =>
    cases hstep
    exact hs.keep rfl le_rfl
  | request request guardError =>
    obtain ⟨next, hnext, rfl⟩ := Option.map_eq_some_iff.mp hstep
    exact agrees_request hnext
  | advance =>
    obtain ⟨next, hnext, rfl⟩ := Option.map_eq_some_iff.mp hstep
    exact hs.next (Course.goes_advance hs hnext).phase
  | elapse nanoseconds =>
    cases hstep
    exact hs.keep rfl (Int.le_add_of_nonneg_right (Int.natCast_nonneg _))
  | shutdown =>
    cases hstep
    exact hs.keep rfl le_rfl

theorem agrees_initial (now : ℤ) :
    Agrees model cfg (AbsoluteService.initial now, Course.fresh) where
  phase := trivial
  ready _ h := by cases h
  looks _ h := by cases h

/-- What a request answers at once, it fails with. -/
theorem serve_request {guardError : Option String} {next : Next}
    (h : s.serve model cfg (.request request guardError) = some next) :
    next.2.published = none ∧ ∀ message, next.2.reply ≠ some ⟨true, message⟩ := by
  unfold AbsoluteService.serve at h
  dsimp only at h
  split at h
  · cases h
    rcases handleAbsoluteControlRequest_cases model request guardError with
      ⟨message, hfails⟩ | ⟨-, hguarded⟩
    · rw [hfails]
      exact ⟨rfl, fun _ hreply => by cases hreply⟩
    · rw [hguarded]
      exact ⟨rfl, fun _ hreply => by cases hreply⟩
  · cases h

end

section

variable (model : ArmModel) (cfg : Parameters)

/-- In every run, every command is the first one of its request and has valid numbers, a check of
the feedback and then a look at resting arms behind it. -/
theorem published_cleared (now : ℤ) (ls : List Label) :
    Throughout (observed (AbsoluteService.step model cfg) note) (PublishesCleared model cfg)
      (AbsoluteService.initial now, Course.fresh) ls := by
  refine throughout_of_invariant agrees_step (fun s l s' hs h command hcommand => ?_)
    (agrees_initial now)
  obtain ⟨next, hnext, hpublished⟩ := Option.bind_eq_some_iff.mp hcommand
  cases l with
  | request request guardError =>
    rw [(serve_request hnext).1] at hpublished
    cases hpublished
  | advance => exact (Course.goes_advance hs hnext).published command hpublished
  | _ => cases hnext

/-- In every run, a request ends well at exactly the passes that find the arms arrived. -/
theorem success_iff_arrived (now : ℤ) (ls : List Label) :
    Throughout (observed (AbsoluteService.step model cfg) note) (SucceedsArrived model cfg)
      (AbsoluteService.initial now, Course.fresh) ls := by
  refine throughout_of_invariant agrees_step (fun s l s' hs h => ?_) (agrees_initial now)
  obtain ⟨hstep, hnote⟩ := observed_eq_some.mp h
  unfold SucceedsArrived AbsoluteService.reply
  rw [hnote]
  cases l with
  | advance =>
    obtain ⟨next, hnext, -⟩ := Option.map_eq_some_iff.mp hstep
    have hserve : s.1.serve model cfg .advance = some next := hnext
    rw [hserve]
    refine (Course.goes_advance hs hnext).success.trans ?_
    exact ⟨fun harrived => ⟨rfl, harrived⟩, fun harrived => harrived.2⟩
  | request request guardError =>
    obtain ⟨next, hnext, -⟩ := Option.map_eq_some_iff.mp hstep
    constructor
    · rintro ⟨message, hreply⟩
      rw [hnext] at hreply
      exact absurd hreply ((serve_request hnext).2 message)
    · rintro ⟨hl, -⟩
      cases hl
  | _ =>
    constructor
    · rintro ⟨_, hreply⟩
      cases hreply
    · rintro ⟨hl, -⟩
      cases hl

end

end Joint

end JointController
