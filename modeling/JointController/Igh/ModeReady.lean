import JointController.Igh.ReentryHold

/-!
# The commands before a mode is ready

The target velocity of an axis waits until the drive reports the commanded mode, its target torque
does not: it is written as soon as the group keeps the axis in CST.

* `QuietUntilReady`: a cycle in which no axis gets a velocity or a torque before its mode is ready,
  and no torque outside CST.
* `ArmGroup.KeepsCst`: the group writes the torque of the application to an axis, in terms of what
  the last cycle has left.
* `ArmGroup.axisCommand_spec`, `ArmGroup.prepare_effort`: what the command of an axis says.
* `quietUntilReady_iff`: the rule holds along just those runs in which no torque comes early.
-/

namespace JointController

namespace Igh

/-! ## The rule -/

/-- `velocity_offset` in `WriteAxisCommandToDomain`, for an axis where it is registered; the
initialization registers it for none. -/
def velocityOffset (registered : Bool) (command : AxisCommand × AxisModeState) : Option Int32 :=
  if registered then some (if command.2 = .success then command.1.axisVelocity else 0) else none

/-- The drive does not report the mode that is commanded to it, or the mode state of the axis is not
`AXIS_MODE_SUCCESS`. -/
def NotReady (cfg : Setup) (d : Driver) (i : Input) (a : Axis) (out : PdoOutput) : Prop :=
  (i.feedback a).modeWord ≠ out.operationMode ∨
    ((d.beforeOutput cfg i).commandOf cfg i a).2 ≠ .success

/-- No axis is told to move before its mode is ready. -/
def RestsUntilReady (cfg : Setup) (registered : Axis → Bool) (d : Driver) (i : Input) : Prop :=
  ∀ a out, (a, out) ∈ d.outputs cfg i → NotReady cfg d i a out →
    (∀ v ∈ out.targetVelocity, v = 0) ∧
      ∀ v ∈ velocityOffset (registered a) ((d.beforeOutput cfg i).commandOf cfg i a), v = 0

/-- No axis is told to move, or to push, before its mode is ready, and none is told to push but in
CST. -/
structure QuietUntilReady (cfg : Setup) (registered : Axis → Bool) (d : Driver) (i : Input) :
    Prop where
  rests : RestsUntilReady cfg registered d i
  noTorque : ∀ a out, (a, out) ∈ d.outputs cfg i → NotReady cfg d i a out → out.targetTorque = 0
  torqueInCst : ∀ a out, (a, out) ∈ d.outputs cfg i → out.targetTorque ≠ 0 →
    out.operationMode = axisModeCst ∧ (i.feedback a).modeWord = axisModeCst

/-! ## When the torque of the application is written -/

namespace ArmGroup

variable (cfg : Setup) (feedback : Axis → Feedback) (power : Bool) (g : ArmGroup)
  (desire : AppCommands) (a : Axis)

/-- A powered group goes on in CST, outside the two holds on the way there. -/
def GoesOnInCst : Prop :=
  g.powerWasRequested = true ∧ g.previousMode = axisModeCst ∧ g.holdActive = true ∧
    (g.cstState = .idle ∨ g.cstState = .reEnable ∨
      g.cstState = .modeHold ∧ kEyouCstToCstModeHoldCycles ≤ increment g.cstCycles)

/-- A powered group leaves CST, or is still in the first hold on the way back. -/
def StaysInCst : Prop :=
  g.previousMode = axisModeCst ∨
    g.powerWasRequested = true ∧ g.reentry.state = .disableHold ∧
      increment g.reentry.cycles < kEyouCstToCspDisableHoldCycles

/-- A powered group keeps an axis in CST, with the torque of the application. -/
def KeepsCst : Prop :=
  if RequestsCst desire then cfg.isEyouPhModeSwitchAxis a = true → g.GoesOnInCst
  else cfg.isEyouPhModeSwitchAxis a = true ∧ g.StaysInCst

instance : Decidable g.GoesOnInCst := inferInstanceAs (Decidable (_ ∧ _ ∧ _ ∧ _))

instance : Decidable g.StaysInCst := inferInstanceAs (Decidable (_ ∨ _))

instance : Decidable (g.KeepsCst cfg desire a) := inferInstanceAs (Decidable (ite _ _ _))

end ArmGroup

/-- The drive of every axis that a powered group keeps in CST reports CST, or the application wants
no torque from it. -/
def NoEarlyTorque (cfg : Setup) (d : Driver) (i : Input) : Prop :=
  Powered cfg d i → ∀ a, cfg.isModeSwitchAxis a = true → d.group.KeepsCst cfg i.desire a →
    (i.feedback a).modeWord = axisModeCst ∨ (i.desire.axisCtr a).axisEffort.toInt16 = 0

/-! ## The command of an axis -/

section

variable (f : Feedback) {mode : UInt8} (target : Int32) (command : AxisCommand)

/-- The mode and the torque of a command are left alone, and the mode state says whether the drive
reports the mode. -/
theorem axisModeStateChage_spec (hmode : mode = axisModeCst ∨ mode = axisModeCsp)
    (hcommand : command.ecMode = mode) :
    (axisModeStateChage f mode target command).1.ecMode = mode ∧
      (axisModeStateChage f mode target command).1.axisEffort = command.axisEffort ∧
      ((axisModeStateChage f mode target command).2 = .success ↔ f.modeWord = mode) := by
  have hbusy : ¬ AxisModeState.busy = .success := by decide
  unfold axisModeStateChage
  rcases hmode with rfl | rfl
  · rw [if_pos rfl]
    by_cases hcst : f.modeWord = axisModeCst
    · rw [if_pos hcst]
      exact ⟨hcommand, rfl, iff_of_true rfl hcst⟩
    · rw [if_neg hcst]
      exact ⟨rfl, rfl, iff_of_false hbusy hcst⟩
  · rw [if_neg ArmGroup.csp_ne_cst]
    by_cases hcsp : f.modeWord = axisModeCsp
    · rw [if_pos hcsp]
      exact ⟨hcommand, rfl, iff_of_true rfl hcsp⟩
    · rw [if_neg hcsp]
      exact ⟨rfl, rfl, iff_of_false hbusy hcsp⟩

end

namespace ArmGroup

variable (cfg : Setup) (feedback : Axis → Feedback) (power : Bool) (g : ArmGroup)
  (desire : AppCommands) {mode : UInt8} {a : Axis}

theorem commandMode_cases (hmode : mode = axisModeCst ∨ mode = axisModeCsp) :
    g.commandMode cfg mode a = axisModeCst ∨ g.commandMode cfg mode a = axisModeCsp := by
  unfold commandMode
  split_ifs
  · exact .inr rfl
  · exact .inl rfl
  · exact .inl rfl
  · exact hmode
  · exact hmode

/-- The torque that the group commands to an axis. -/
def commandEffort (mode : UInt8) (desire : AppCommands) (a : Axis) : Int32 :=
  if g.commandMode cfg mode a = axisModeCst ∧
      ¬(cfg.isEyouPhModeSwitchAxis a = true ∧ mode = axisModeCst ∧ g.cstState = .modeHold) then
    (desire.axisCtr a).axisEffort
  else 0

theorem axisCommand_eq (hmode : mode = axisModeCst ∨ mode = axisModeCsp) :
    ∃ target word position velocity, g.axisCommand cfg feedback power mode desire a =
      axisModeStateChage (feedback a) (g.commandMode cfg mode a) target
        ⟨g.commandMode cfg mode a, word, position, velocity,
          g.commandEffort cfg mode desire a⟩ := by
  by_cases hhold : cfg.isEyouPhModeSwitchAxis a = true ∧ mode = axisModeCst ∧
      g.cstState = .disableHold
  · have hcsp : g.commandMode cfg mode a = axisModeCsp := by
      unfold commandMode
      rw [if_pos hhold.1, if_pos hhold.2]
    have heffort : g.commandEffort cfg mode desire a = 0 :=
      if_neg fun h => csp_ne_cst (hcsp.symm.trans h.1)
    rw [heffort]
    exact ⟨_, _, _, _, if_pos hhold⟩
  · by_cases hcst : g.commandMode cfg mode a = axisModeCst
    · have heffort : g.commandEffort cfg mode desire a =
          if cfg.isEyouPhModeSwitchAxis a = true ∧ mode = axisModeCst ∧ g.cstState = .modeHold then
            0
          else (desire.axisCtr a).axisEffort := by
        unfold commandEffort
        rw [← ite_not]
        exact if_congr (not_and_not_right.trans ⟨fun h => h hcst, fun h _ => h⟩) rfl rfl
      rw [heffort]
      exact ⟨_, _, _, _, (if_neg hhold).trans (if_pos hcst)⟩
    · have heffort : g.commandEffort cfg mode desire a = 0 := if_neg fun h => hcst h.1
      have hcsp := (g.commandMode_cases cfg (a := a) hmode).resolve_left hcst
      rw [heffort]
      unfold axisCommand
      dsimp only
      rw [if_neg hhold, if_neg hcst, hcsp]
      exact ⟨_, _, _, _, rfl⟩

/-- The command of an axis of the group: its mode, whether it is ready, and its torque. -/
theorem axisCommand_spec (hmode : mode = axisModeCst ∨ mode = axisModeCsp) :
    (g.axisCommand cfg feedback power mode desire a).1.ecMode = g.commandMode cfg mode a ∧
      (g.axisCommand cfg feedback power mode desire a).1.axisEffort =
        g.commandEffort cfg mode desire a ∧
      ((g.axisCommand cfg feedback power mode desire a).2 = .success ↔
        (feedback a).modeWord = g.commandMode cfg mode a) := by
  obtain ⟨target, word, position, velocity, heq⟩ :=
    g.axisCommand_eq cfg feedback power desire (a := a) hmode
  rw [heq]
  exact axisModeStateChage_spec _ _ _ (g.commandMode_cases cfg hmode) rfl

/-! ## What a cycle leaves -/

/-- The group has prepared CST, with the torque of the application, for an axis. -/
def PreparedCst (mode : UInt8) (a : Axis) : Prop :=
  if mode = axisModeCst then
    cfg.isEyouPhModeSwitchAxis a = true → g.cstState = .idle ∨ g.cstState = .reEnable
  else cfg.isEyouPhModeSwitchAxis a = true ∧ g.reentry.state = .disableHold

/-- The torque of the application is commanded where the group has prepared CST. -/
theorem commandEffort_spec (hmode : mode = axisModeCst ∨ mode = axisModeCsp) :
    (g.PreparedCst cfg mode a ∧ g.commandMode cfg mode a = axisModeCst ∧
      g.commandEffort cfg mode desire a = (desire.axisCtr a).axisEffort) ∨
    ¬g.PreparedCst cfg mode a ∧ g.commandEffort cfg mode desire a = 0 := by
  unfold PreparedCst commandEffort
  rcases hmode with rfl | rfl
  · rw [if_pos rfl]
    cases heyou : cfg.isEyouPhModeSwitchAxis a with
    | false =>
      have hmode : g.commandMode cfg axisModeCst a = axisModeCst := by
        unfold commandMode
        rw [heyou]
        rfl
      exact .inl ⟨fun h => absurd h Bool.false_ne_true, hmode,
        if_pos ⟨hmode, fun h => Bool.false_ne_true h.1⟩⟩
    | true =>
      have hmode : g.commandMode cfg axisModeCst a =
          if g.cstState = .disableHold then axisModeCsp else axisModeCst := by
        unfold commandMode
        rw [heyou]
        simp [csp_ne_cst.symm]
      cases hstate : g.cstState with
      | idle =>
        rw [hstate, if_neg (by decide)] at hmode
        exact .inl ⟨fun _ => .inl rfl, hmode, if_pos ⟨hmode, fun h => by cases h.2.2⟩⟩
      | reEnable =>
        rw [hstate, if_neg (by decide)] at hmode
        exact .inl ⟨fun _ => .inr rfl, hmode, if_pos ⟨hmode, fun h => by cases h.2.2⟩⟩
      | disableHold =>
        rw [hstate, if_pos rfl] at hmode
        refine .inr ⟨fun h => ?_, if_neg fun h => csp_ne_cst (hmode.symm.trans h.1)⟩
        rcases h rfl with h | h <;> cases h
      | modeHold =>
        refine .inr ⟨fun h => ?_, if_neg fun h => h.2 ⟨rfl, rfl, rfl⟩⟩
        rcases h rfl with h | h <;> cases h
  · rw [if_neg csp_ne_cst]
    have hmode : g.commandMode cfg axisModeCsp a =
        if cfg.isEyouPhModeSwitchAxis a = true ∧ g.reentry.state = .disableHold then axisModeCst
        else axisModeCsp := by
      unfold commandMode
      simp only [csp_ne_cst, false_and, if_false, true_and]
      rw [ite_and]
    by_cases hstays : cfg.isEyouPhModeSwitchAxis a = true ∧ g.reentry.state = .disableHold
    · rw [if_pos hstays] at hmode
      exact .inl ⟨hstays, hmode, if_pos ⟨hmode, fun h => csp_ne_cst h.2.1⟩⟩
    · rw [if_neg hstays] at hmode
      exact .inr ⟨hstays, if_neg fun h => csp_ne_cst (hmode.symm.trans h.1)⟩

end ArmGroup

/-! ## What a cycle prepares -/

theorem Reentry.state_wait (r : Reentry) (required : ℕ) (next : TransitionState)
    (hnext : next ≠ .disableHold) :
    (r.wait required next).state = .disableHold ↔
      r.state = .disableHold ∧ increment r.cycles < required := by
  unfold wait
  dsimp only
  by_cases hdone : required ≤ increment r.cycles
  · rw [if_pos hdone]
    exact iff_of_false hnext fun h => (not_lt.mpr hdone) h.2
  · rw [if_neg hdone]
    exact (and_iff_left (not_le.mp hdone)).symm

theorem Reentry.state_advance (r : Reentry) (i : ReentryInput) :
    (r.advance i).state = .disableHold ↔
      r.state = .disableHold ∧ increment r.cycles < kEyouCstToCspDisableHoldCycles := by
  have hupdate := r.state_updateHold i
  unfold advance
  cases hstate : r.state with
  | disableHold =>
    have hwait := r.state_wait kEyouCstToCspDisableHoldCycles .modeHold (by decide)
    rw [hstate] at hwait
    exact hwait
  | modeHold =>
    have hwait := r.state_wait kEyouCstToCspModeHoldCycles .reEnable (by decide)
    rw [hstate] at hwait
    exact iff_of_false (fun h => by cases (hwait.mp h).1) (fun h => by cases h.1)
  | reEnable =>
    rw [hstate] at hupdate
    refine iff_of_false (fun h => ?_) (fun h => by cases h.1)
    dsimp only at h
    split_ifs at h
    rw [hupdate] at h
    cases h
  | idle =>
    rw [hstate] at hupdate
    refine iff_of_false (fun h => ?_) (fun h => by cases h.1)
    rw [hupdate] at h
    cases h

namespace ArmGroup

variable (cfg : Setup) (feedback : Axis → Feedback) (power : Bool) (g : ArmGroup)
  (desire : AppCommands) {a : Axis}

theorem cstState_advanceCst :
    ((g.advanceCst cfg feedback).cstState = .idle ∨
        (g.advanceCst cfg feedback).cstState = .reEnable) ↔
      g.cstState = .idle ∨ g.cstState = .reEnable ∨
        g.cstState = .modeHold ∧ kEyouCstToCstModeHoldCycles ≤ increment g.cstCycles := by
  unfold advanceCst
  cases hstate : g.cstState with
  | disableHold =>
    dsimp only
    split_ifs
    · simp
    · simp
  | modeHold =>
    dsimp only
    split_ifs with hdone
    · simp [hdone]
    · simp [hdone]
  | reEnable =>
    dsimp only
    split_ifs
    · simp
    · simp [hstate]
  | idle => simp [hstate]

/-- The state of the way to CST after a cycle in CST. -/
theorem cstState_prepare (heyou : cfg.hasAnyEyouPhModeSwitchAxis = true)
    (hcst : RequestsCst desire) :
    ((g.prepare cfg feedback true desire).1.cstState = .idle ∨
        (g.prepare cfg feedback true desire).1.cstState = .reEnable) ↔ g.GoesOnInCst := by
  have henter : ∀ g : ArmGroup, ¬(((g.enterCst cfg feedback).advanceCst cfg feedback).cstState =
      .idle ∨ ((g.enterCst cfg feedback).advanceCst cfg feedback).cstState = .reEnable) := by
    intro g
    have hstate : (g.enterCst cfg feedback).cstState = .disableHold := if_pos heyou
    rw [cstState_advanceCst, hstate]
    rintro (h | h | h)
    · cases h
    · cases h
    · cases h.1
  unfold prepare
  rw [requestedMode_of_cst desire hcst]
  simp only [if_true]
  unfold inCst
  rw [heyou]
  simp only [if_true]
  cases hpower : g.powerWasRequested with
  | false =>
    have hfollow : (g.followPower cfg true).holdActive = false := by
      unfold followPower
      rw [hpower]
      rfl
    rw [hfollow]
    simp only [Bool.not_false, Bool.or_true, if_true]
    exact iff_of_false (henter _) fun h => Bool.false_ne_true (hpower.symm.trans h.1)
  | true =>
    rw [g.followPower_of_requested cfg hpower]
    by_cases hgoes : g.previousMode = axisModeCst ∧ g.holdActive = true
    · have hnot : (g.previousMode != axisModeCst || !g.holdActive) = false := by
        rw [hgoes.1, hgoes.2]
        rfl
      rw [hnot]
      simp only [Bool.false_eq_true, if_false]
      rw [cstState_advanceCst]
      exact ⟨fun h => ⟨hpower, hgoes.1, hgoes.2, h⟩, fun h => h.2.2.2⟩
    · have henters : (g.previousMode != axisModeCst || !g.holdActive) = true := by
        rw [Bool.or_eq_true, bne_iff_ne, Bool.not_eq_true']
        exact (not_and_or.mp hgoes).imp_right Bool.eq_false_of_not_eq_true
      rw [henters]
      simp only [if_true]
      exact iff_of_false (henter _) fun h => hgoes ⟨h.2.1, h.2.2.1⟩

/-- The way back after a cycle in CSP. -/
theorem reentry_prepare (heyou : cfg.hasAnyEyouPhModeSwitchAxis = true)
    (hcsp : requestedMode power desire = axisModeCsp) :
    ∃ i, (g.prepare cfg feedback power desire).1.reentry =
      (if g.previousMode = axisModeCst ∧ power = true then Reentry.begin true
        else (g.followPower cfg power).reentry).advance i := by
  have hleaves : ((g.followPower cfg power).previousMode == axisModeCst && power) =
      decide (g.previousMode = axisModeCst ∧ power = true) := by
    rw [previousMode_followPower, Bool.decide_and, Bool.decide_eq_true]
    rfl
  unfold prepare
  rw [hcsp]
  simp only [csp_ne_cst, if_false]
  unfold inCsp advanceReentry leaveCst
  rw [hleaves, heyou]
  by_cases h : g.previousMode = axisModeCst ∧ power = true
  · rw [decide_eq_true h, if_pos h]
    simp only [if_true]
    exact ⟨_, rfl⟩
  · rw [decide_eq_false h, if_neg h]
    simp only [Bool.false_eq_true, if_false, if_true]
    exact ⟨_, rfl⟩

theorem hasAnyEyouPhModeSwitchAxis_of_eyou (heyou : cfg.isEyouPhModeSwitchAxis a = true) :
    cfg.hasAnyEyouPhModeSwitchAxis = true :=
  decide_eq_true ⟨a, heyou⟩

/-- The group prepares CST where a powered group keeps an axis in CST. -/
theorem preparedCst_prepare :
    (g.prepare cfg feedback power desire).1.PreparedCst cfg (requestedMode power desire) a ↔
      power = true ∧ g.KeepsCst cfg desire a := by
  unfold PreparedCst KeepsCst
  cases power with
  | false =>
    rw [requestedMode_of_poweroff, if_neg csp_ne_cst]
    refine iff_of_false (fun ⟨heyou, hstate⟩ => ?_) fun h => Bool.false_ne_true h.1
    obtain ⟨i, hreentry⟩ := g.reentry_prepare cfg feedback false desire
      (hasAnyEyouPhModeSwitchAxis_of_eyou cfg heyou) (requestedMode_of_poweroff desire)
    rw [hreentry, if_neg fun h => Bool.false_ne_true h.2, Reentry.state_advance] at hstate
    cases hstate.1
  | true =>
    rw [and_iff_right rfl]
    by_cases hcst : RequestsCst desire
    · rw [requestedMode_of_cst desire hcst, if_pos rfl, if_pos hcst]
      exact forall_congr' fun heyou => g.cstState_prepare cfg feedback desire
        (hasAnyEyouPhModeSwitchAxis_of_eyou cfg heyou) hcst
    · rw [requestedMode_of_csp desire hcst, if_neg csp_ne_cst, if_neg hcst]
      refine and_congr_right fun heyou => ?_
      obtain ⟨i, hreentry⟩ := g.reentry_prepare cfg feedback true desire
        (hasAnyEyouPhModeSwitchAxis_of_eyou cfg heyou) (requestedMode_of_csp desire hcst)
      rw [hreentry, Reentry.state_advance]
      unfold StaysInCst
      by_cases hprevious : g.previousMode = axisModeCst
      · rw [if_pos ⟨hprevious, rfl⟩]
        exact iff_of_true ⟨rfl, by decide⟩ (.inl hprevious)
      · rw [if_neg fun h => hprevious h.1, or_iff_right hprevious]
        cases hpower : g.powerWasRequested with
        | false =>
          have hfollow : (g.followPower cfg true).reentry = .idle := by
            unfold followPower
            rw [hpower]
            rfl
          rw [hfollow]
          exact iff_of_false (fun h => by cases h.1) fun h => Bool.false_ne_true h.1
        | true =>
          rw [g.followPower_of_requested cfg hpower]
          exact (and_iff_right rfl).symm

theorem axisEffort_seedDesired (position : Axis → Option Int32) (a : Axis) :
    ((seedDesired cfg position desire).axisCtr a).axisEffort = (desire.axisCtr a).axisEffort := by
  unfold seedDesired
  dsimp only
  split <;> rfl

/-- The group changes no torque that the application asks for. -/
theorem axisEffort_prepare (a : Axis) :
    ((g.prepare cfg feedback power desire).2.axisCtr a).axisEffort =
      (desire.axisCtr a).axisEffort := by
  unfold prepare inCst inCsp
  dsimp only
  split_ifs <;> simp only [axisEffort_seedDesired]

theorem requestedMode_cases :
    requestedMode power desire = axisModeCst ∨ requestedMode power desire = axisModeCsp := by
  cases power with
  | false => exact .inr (requestedMode_of_poweroff desire)
  | true =>
    by_cases hcst : RequestsCst desire
    · exact .inl (requestedMode_of_cst desire hcst)
    · exact .inr (requestedMode_of_csp desire hcst)

end ArmGroup

/-! ## One cycle -/

section

variable {cfg : Setup} {registered : Axis → Bool} {d : Driver} {i : Input} {a : Axis}
  {out : PdoOutput}

theorem commandOf_modeSwitch (hforce : d.monitor.forceShutdown = false)
    (ha : cfg.isModeSwitchAxis a = true) :
    d.commandOf cfg i a =
      (d.group.prepare cfg i.feedback d.isDrivePowerOnRequested d.desire).1.axisCommand cfg
        i.feedback d.isDrivePowerOnRequested
        (ArmGroup.requestedMode d.isDrivePowerOnRequested d.desire)
        (d.group.prepare cfg i.feedback d.isDrivePowerOnRequested d.desire).2 a := by
  unfold Driver.commandOf Driver.prepareArmGroupAxisCommand
  simp only [hforce, Bool.false_eq_true, if_false, ha, if_true]

variable (cfg) in
/-- An axis is commanded to rest, or its mode state says whether the drive reports its mode. -/
theorem commandOf_rests (d : Driver) (i : Input) (a : Axis) :
    (d.commandOf cfg i a).1.axisVelocity = 0 ∨
      ((d.commandOf cfg i a).2 = .success ↔
        (i.feedback a).modeWord = (d.commandOf cfg i a).1.ecMode) := by
  cases hforce : d.monitor.forceShutdown with
  | true =>
    have hcommand : d.commandOf cfg i a = Driver.forcedShutdownAxisCommand i a := if_pos hforce
    rw [hcommand]
    exact .inl rfl
  | false =>
    right
    cases ha : cfg.isModeSwitchAxis a with
    | true =>
      obtain ⟨hmode, -, hready⟩ := (d.group.prepare cfg i.feedback d.isDrivePowerOnRequested
        d.desire).1.axisCommand_spec cfg i.feedback d.isDrivePowerOnRequested
        (d.group.prepare cfg i.feedback d.isDrivePowerOnRequested d.desire).2 (a := a)
        (ArmGroup.requestedMode_cases d.isDrivePowerOnRequested d.desire)
      rw [commandOf_modeSwitch hforce ha, hmode]
      exact hready
    | false =>
      have hcommand : d.commandOf cfg i a = d.fixedCspAxisCommand i a := by
        unfold Driver.commandOf
        rw [hforce, ha]
        rfl
      obtain ⟨hmode, -, hready⟩ := axisModeStateChage_spec (i.feedback a)
        (d.desire.axisCtr a).axisPosition ⟨axisModeCsp,
          applyAxisEnableGate d.isDrivePowerOnRequested (i.feedback a),
          (d.desire.axisCtr a).axisPosition, 0, 0⟩ (.inr rfl) rfl
      rw [hcommand]
      unfold Driver.fixedCspAxisCommand
      rw [hmode]
      exact hready

/-- No axis is told to move before its mode is ready. -/
theorem restsUntilReady (registered : Axis → Bool) (d : Driver) (i : Input) :
    RestsUntilReady cfg registered d i := by
  intro a out hout hnot
  obtain ⟨-, rfl⟩ := mem_outputs.mp hout
  have hstill : ((d.beforeOutput cfg i).commandOf cfg i a).2 = .success →
      ((d.beforeOutput cfg i).commandOf cfg i a).1.axisVelocity = 0 := by
    intro hsuccess
    obtain hzero | hready := commandOf_rests cfg (d.beforeOutput cfg i) i a
    · exact hzero
    · exact (hnot.elim (fun h => h (hready.mp hsuccess)) fun h => h hsuccess).elim
  constructor
  · intro v hv
    unfold Driver.outputOf writeAxisCommandToDomain at hv
    dsimp only at hv
    split_ifs at hv with hprofile hcsv
    · exact (Option.some_inj.mp hv).symm.trans (hstill hcsv.1)
    · exact (Option.some_inj.mp hv).symm
    · cases hv
  · intro v hv
    unfold velocityOffset at hv
    split_ifs at hv with hregistered hsuccess
    · exact (Option.some_inj.mp hv).symm.trans (hstill hsuccess)
    · exact (Option.some_inj.mp hv).symm
    · cases hv

/-- A powered group keeps an arm axis in CST, with the torque of the application. -/
def KeepsAxisInCst (cfg : Setup) (d : Driver) (i : Input) (a : Axis) : Prop :=
  Powered cfg d i ∧ cfg.isModeSwitchAxis a = true ∧ d.group.KeepsCst cfg i.desire a

variable (cfg) in
/-- The torque of the application is commanded in CST only, to the axes that a powered group keeps
there. -/
theorem effort_commandOf (hd : d.monitor.Consistent) (i : Input) (a : Axis) :
    (KeepsAxisInCst cfg d i a ∧
      ((d.beforeOutput cfg i).commandOf cfg i a).1.ecMode = axisModeCst ∧
      ((d.beforeOutput cfg i).commandOf cfg i a).1.axisEffort = (i.desire.axisCtr a).axisEffort ∧
      (((d.beforeOutput cfg i).commandOf cfg i a).2 = .success ↔
        (i.feedback a).modeWord = axisModeCst)) ∨
    ¬KeepsAxisInCst cfg d i a ∧
      ((d.beforeOutput cfg i).commandOf cfg i a).1.axisEffort = 0 := by
  have hdesire := d.desire_beforeOutput cfg i
  generalize hs : d.beforeOutput cfg i = s at hdesire
  have hpowered : Powered cfg d i ↔ s.isDrivePowerOnRequested = true := by
    unfold Powered
    rw [hs]
  cases hforce : s.monitor.forceShutdown with
  | true =>
    have hcommand : s.commandOf cfg i a = Driver.forcedShutdownAxisCommand i a := if_pos hforce
    rw [hcommand]
    refine .inr ⟨fun h => ?_, rfl⟩
    have hfree := forceShutdown_of_powered h.1
    rw [hs, hforce] at hfree
    cases hfree
  | false =>
    cases ha : cfg.isModeSwitchAxis a with
    | false =>
      have hcommand : s.commandOf cfg i a = s.fixedCspAxisCommand i a := by
        unfold Driver.commandOf
        rw [hforce, ha]
        rfl
      obtain ⟨-, heffort, -⟩ := axisModeStateChage_spec (i.feedback a)
        (s.desire.axisCtr a).axisPosition ⟨axisModeCsp,
          applyAxisEnableGate s.isDrivePowerOnRequested (i.feedback a),
          (s.desire.axisCtr a).axisPosition, 0, 0⟩ (.inr rfl) rfl
      rw [hcommand]
      exact .inr ⟨fun h => Bool.false_ne_true (ha.symm.trans h.2.1), heffort⟩
    | true =>
      have hprepared : (s.group.prepare cfg i.feedback s.isDrivePowerOnRequested
          i.desire).1.PreparedCst cfg (ArmGroup.requestedMode s.isDrivePowerOnRequested i.desire)
            a ↔ KeepsAxisInCst cfg d i a := by
        rw [ArmGroup.preparedCst_prepare]
        constructor
        · rintro ⟨hpower, hkeeps⟩
          have hgroup := group_of_powered hd (hpowered.mpr hpower)
          rw [hs] at hgroup
          exact ⟨hpowered.mpr hpower, ha, hgroup ▸ hkeeps⟩
        · rintro ⟨hpower, -, hkeeps⟩
          have hgroup := group_of_powered hd hpower
          rw [hs] at hgroup
          exact ⟨hpowered.mp hpower, hgroup ▸ hkeeps⟩
      have hmodes := ArmGroup.requestedMode_cases s.isDrivePowerOnRequested i.desire
      rw [commandOf_modeSwitch hforce ha, hdesire]
      obtain ⟨hmode, heffort, hready⟩ := (s.group.prepare cfg i.feedback
        s.isDrivePowerOnRequested i.desire).1.axisCommand_spec cfg i.feedback
        s.isDrivePowerOnRequested
        (s.group.prepare cfg i.feedback s.isDrivePowerOnRequested i.desire).2 (a := a) hmodes
      rw [hmode, heffort, hready, ← hprepared]
      obtain ⟨hprepares, hcst, happlication⟩ | hnot := (s.group.prepare cfg i.feedback
        s.isDrivePowerOnRequested i.desire).1.commandEffort_spec cfg
        (s.group.prepare cfg i.feedback s.isDrivePowerOnRequested i.desire).2 (a := a) hmodes
      · rw [hcst, happlication, ArmGroup.axisEffort_prepare]
        exact .inl ⟨hprepares, rfl, rfl, Iff.rfl⟩
      · exact .inr hnot

/-- A cycle keeps the rule if no torque comes early in it, and only then. -/
theorem quietUntilReady_cycle (hd : d.monitor.Consistent) (i : Input) :
    QuietUntilReady cfg registered d i ↔ NoEarlyTorque cfg d i := by
  constructor
  · intro h hpower a ha hkeeps
    obtain ⟨-, -, heffort, -⟩ | hnot := effort_commandOf cfg hd i a
    · rw [or_iff_not_imp_right]
      intro htorque
      refine (h.torqueInCst a _ (mem_outputs.mpr ⟨Setup.mem_order_of_modeSwitch ha, rfl⟩) ?_).2
      exact fun hzero => htorque ((congrArg Int32.toInt16 heffort).symm.trans hzero)
    · exact (hnot.1 ⟨hpower, ha, hkeeps⟩).elim
  · intro h
    have htorque : ∀ a out, (a, out) ∈ d.outputs cfg i → out.targetTorque = 0 ∨
        out.operationMode = axisModeCst ∧ (i.feedback a).modeWord = axisModeCst ∧
          ((d.beforeOutput cfg i).commandOf cfg i a).2 = .success := by
      intro a out hout
      obtain ⟨-, rfl⟩ := mem_outputs.mp hout
      obtain ⟨⟨hpower, ha, hkeeps⟩, hmode, heffort, hready⟩ | ⟨-, heffort⟩ :=
        effort_commandOf cfg hd i a
      · obtain hcst | hzero := h hpower a ha hkeeps
        · exact .inr ⟨hmode, hcst, hready.mpr hcst⟩
        · exact .inl ((congrArg Int32.toInt16 heffort).trans hzero)
      · exact .inl (congrArg Int32.toInt16 heffort)
    refine ⟨restsUntilReady registered d i, fun a out hout hnot => ?_, fun a out hout hne => ?_⟩
    · obtain hzero | ⟨hmode, hcst, hsuccess⟩ := htorque a out hout
      · exact hzero
      · exact (hnot.elim (fun h => h (hcst.trans hmode.symm)) fun h => h hsuccess).elim
    · obtain hzero | ⟨hmode, hcst, -⟩ := htorque a out hout
      · exact (hne hzero).elim
      · exact ⟨hmode, hcst⟩

end

/-! ## Runs -/

/-- Along every run no axis is told to move before its mode is ready; and just along the runs in
which no torque comes early, none is told to push before its mode is ready, or outside CST. -/
theorem quietUntilReady_iff (cfg : Setup) (registered : Axis → Bool) (desire : AppCommands)
    (inputs : List Input) :
    Runs.Throughout (Driver.step cfg) (fun d i _ => RestsUntilReady cfg registered d i)
        (Driver.initial desire) inputs ∧
      (Runs.Throughout (Driver.step cfg) (fun d i _ => QuietUntilReady cfg registered d i)
          (Driver.initial desire) inputs ↔
        Runs.Meets (Driver.step cfg) (NoEarlyTorque cfg) (Driver.initial desire) inputs) := by
  constructor
  · exact Runs.throughout_of_invariant (I := fun _ => True) (fun _ _ _ _ _ => trivial)
      (fun s l _ _ _ => restsUntilReady registered s l) trivial
  · refine Runs.throughout_iff_meets_from (I := fun d => d.monitor.Consistent) ?_ ?_ ?_
      Monitor.consistent_initial
    · intro s l s' hs _ hstep
      obtain rfl := Option.some_inj.mp hstep
      exact consistent_cycle hs l
    · intro s l s' hs _
      exact quietUntilReady_cycle hs l
    · intro s l hstep
      exact absurd hstep (Option.some_ne_none _)

/-! ## A torque that comes early -/

/-- The application asks the enabled drives for CST and for a torque, while they report a mode. -/
def torqueCycle (modeWord : UInt8) : Input where
  feedback := fun _ => ⟨7, 0, modeWord, 0x27, 0⟩
  desire := ⟨1, fun _ => ⟨axisModeCst, 0, 7, 0, 100⟩⟩

/-- An axis of each arm, one on each master, with drives of the profile `ZeroLegacy`. -/
def legacySetup : Setup where
  profile := fun a => if a = 0 ∨ a = 7 then .zeroLegacy else .none
  order := [0, 7]
  nodup := nodup_pairOrder
  mem_order := by decide

/-- In the first cycle in CST the drives still report CSP, and get the torque. -/
theorem torque_comes_early :
    ¬Runs.Throughout (Driver.step legacySetup)
      (fun d i _ => QuietUntilReady legacySetup (fun _ => false) d i)
      (Driver.initial (holdRequest 0 axisModeCsp 0)) [torqueCycle axisModeCsp] := by
  intro h
  have hcycle := (h _ rfl).1
  have hout : (0, (⟨axisModeCst, 0x0F, none, 100, some 0, 7⟩ : PdoOutput)) ∈
      (Driver.initial (holdRequest 0 axisModeCsp 0)).outputs legacySetup
        (torqueCycle axisModeCsp) := by
    decide +kernel
  exact absurd (hcycle.torqueInCst 0 _ hout (by decide)).2 (by decide)

end Igh

end JointController
