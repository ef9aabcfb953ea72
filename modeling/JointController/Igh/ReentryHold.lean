import JointController.Igh.FaultLatch
import JointController.Library.Observers

/-!
# The hold after the way back to CSP

When a powered arm group leaves CST it holds the positions of that cycle, until the drives have been
ready for a while and the application has asked for positions near them.

* `HoldNote`, `holdNote`: an observer keeps the positions of the last way back, and counts the
  cycles in a row with ready drives and with near requests.
* `HoldsReentry`: a cycle starts, keeps and releases the hold as it should.
* `Unwrapped`: no distance of a request from its hold position is one that 32 bits get wrong, and no
  velocity is the smallest word.
* `Reentry.advance_cases`: a cycle keeps the hold, or it releases it after enough good cycles.
* `holdsReentry_of_unwrapped`: the rule holds along every run of such cycles.
* `not_holdsReentry_farRun`: a request at the other end of the words releases the hold.
-/

namespace JointController

namespace Igh

/-! ## The way back, cycle by cycle -/

namespace Reentry

variable (r : Reentry) (i : ReentryInput)

/-- The counters start after the drives were disabled. -/
def Sound : Prop :=
  r.state = .disableHold ∨ r.state = .modeHold → r.readyCycles = 0 ∧ r.takeoverCycles = 0

/-- The hold lasts, and a counter has gone on only after a good cycle. -/
structure Keeps (r : Reentry) (i : ReentryInput) (r' : Reentry) : Prop where
  active : r'.holdActive = true
  ready : r'.readyCycles = 0 ∨
    i.enabledInCsp = true ∧ i.standstill = true ∧ r'.readyCycles = increment r.readyCycles
  takeover : r'.takeoverCycles = 0 ∨
    i.withinWindow = true ∧ r'.takeoverCycles = increment r.takeoverCycles

/-- The hold is released, after enough good cycles. -/
structure Releases (r : Reentry) (i : ReentryInput) (r' : Reentry) : Prop where
  inactive : r'.holdActive = false
  enabledInCsp : i.enabledInCsp = true
  standstill : i.standstill = true
  withinWindow : i.withinWindow = true
  ready : kStandstillRequiredCycles ≤ increment r.readyCycles
  takeover : kCspReentryTakeoverStableCycles ≤ increment r.takeoverCycles

theorem updateHold_cases (hactive : r.holdActive = true) :
    Keeps r i (r.updateHold i) ∨ Releases r i (r.updateHold i) := by
  have hnone : ¬ (!r.holdActive) = true := by
    rw [hactive]
    decide
  unfold updateHold
  rw [if_neg hnone]
  by_cases hready : (i.enabledInCsp && i.standstill) = true
  · have hgood : ¬ (!(i.enabledInCsp && i.standstill)) = true := by
      rw [hready]
      decide
    obtain ⟨hcsp, hstill⟩ := Bool.and_eq_true_iff.mp hready
    rw [if_neg hgood]
    dsimp only
    by_cases hlate : increment r.readyCycles < kStandstillRequiredCycles
    · rw [if_pos hlate]
      exact Or.inl ⟨hactive, Or.inr ⟨hcsp, hstill, rfl⟩, Or.inl rfl⟩
    · rw [if_neg hlate]
      by_cases hwindow : i.withinWindow = true
      · rw [if_pos hwindow]
        by_cases hstable : kCspReentryTakeoverStableCycles ≤ increment r.takeoverCycles
        · rw [if_pos hstable]
          exact Or.inr ⟨rfl, hcsp, hstill, hwindow, not_lt.mp hlate, hstable⟩
        · rw [if_neg hstable]
          exact Or.inl ⟨hactive, Or.inr ⟨hcsp, hstill, rfl⟩, Or.inr ⟨hwindow, rfl⟩⟩
      · have hfew : ¬ kCspReentryTakeoverStableCycles ≤ 0 := by decide
        rw [if_neg hwindow, if_neg hfew]
        exact Or.inl ⟨hactive, Or.inr ⟨hcsp, hstill, rfl⟩, Or.inl rfl⟩
  · have hbad : (!(i.enabledInCsp && i.standstill)) = true := by
      rw [Bool.eq_false_of_not_eq_true hready]
      rfl
    rw [if_pos hbad]
    exact Or.inl ⟨hactive, Or.inl rfl, Or.inl rfl⟩

theorem state_updateHold : (r.updateHold i).state = r.state := by
  unfold updateHold
  dsimp only
  split_ifs <;> rfl

/-- A waiting phase keeps the hold and its counters. -/
theorem wait_keeps (required : ℕ) (next : TransitionState) :
    (r.wait required next).holdActive = r.holdActive ∧
      (r.wait required next).readyCycles = r.readyCycles ∧
      (r.wait required next).takeoverCycles = r.takeoverCycles := by
  unfold wait
  dsimp only
  split_ifs <;> exact ⟨rfl, rfl, rfl⟩

theorem keeps_wait (hactive : r.holdActive = true) (hready : r.readyCycles = 0)
    (htakeover : r.takeoverCycles = 0) (required : ℕ) (next : TransitionState) :
    Keeps r i (r.wait required next) ∧ (r.wait required next).Sound := by
  obtain ⟨hkept, hkeptReady, hkeptTakeover⟩ := r.wait_keeps required next
  exact ⟨⟨hkept.trans hactive, Or.inl (hkeptReady.trans hready),
    Or.inl (hkeptTakeover.trans htakeover)⟩,
    fun _ => ⟨hkeptReady.trans hready, hkeptTakeover.trans htakeover⟩⟩

/-- A cycle with an active hold keeps or releases it.  A release is past the phase in which the mode
is still CST. -/
theorem advance_cases (hsound : r.Sound) (hactive : r.holdActive = true) :
    Keeps r i (r.advance i) ∧ (r.advance i).Sound ∨
      Releases r i (r.advance i) ∧ (r.advance i).state ≠ .disableHold := by
  have hlate : ∀ r' : Reentry, r'.state = .reEnable ∨ r'.state = .idle → r'.Sound := by
    rintro r' (h | h) (h' | h') <;> rw [h] at h' <;> cases h'
  have hsame := r.state_updateHold i
  unfold advance
  cases hstate : r.state with
  | disableHold =>
    obtain ⟨hready, htakeover⟩ := hsound (Or.inl hstate)
    exact Or.inl (r.keeps_wait i hactive hready htakeover _ _)
  | modeHold =>
    obtain ⟨hready, htakeover⟩ := hsound (Or.inr hstate)
    exact Or.inl (r.keeps_wait i hactive hready htakeover _ _)
  | reEnable =>
    rw [hstate] at hsame
    dsimp only
    obtain hkeeps | hreleases := r.updateHold_cases i hactive
    · have hheld : ¬ (!(r.updateHold i).holdActive && i.enabledInCsp) = true := by
        rw [hkeeps.active]
        simp
      rw [if_neg hheld]
      exact Or.inl ⟨hkeeps, hlate _ (Or.inl hsame)⟩
    · have hfree : (!(r.updateHold i).holdActive && i.enabledInCsp) = true := by
        rw [hreleases.inactive, hreleases.enabledInCsp]
        rfl
      rw [if_pos hfree]
      exact Or.inr ⟨⟨hreleases.inactive, hreleases.enabledInCsp, hreleases.standstill,
        hreleases.withinWindow, hreleases.ready, hreleases.takeover⟩, by rintro ⟨⟩⟩
  | idle =>
    rw [hstate] at hsame
    obtain hkeeps | hreleases := r.updateHold_cases i hactive
    · exact Or.inl ⟨hkeeps, hlate _ (Or.inr hsame)⟩
    · refine Or.inr ⟨hreleases, ?_⟩
      rw [hsame]
      rintro ⟨⟩

/-- Without a hold there is none after the cycle. -/
theorem holdActive_advance_of_not (hactive : r.holdActive = false) :
    (r.advance i).holdActive = false := by
  have hupdate : r.updateHold i = r := by
    unfold updateHold
    rw [hactive]
    rfl
  unfold advance
  rw [hupdate]
  split
  · exact (r.wait_keeps _ _).1.trans hactive
  · exact (r.wait_keeps _ _).1.trans hactive
  · dsimp only
    split_ifs <;> exact hactive
  · exact hactive

end Reentry

/-! ## The group, cycle by cycle -/

namespace ArmGroup

variable (cfg : Setup) (feedback : Axis → Feedback) (g : ArmGroup) (desire : AppCommands)

/-- What holds between two cycles. -/
structure Sound : Prop where
  reentry : g.reentry.holdActive = true → g.reentry.Sound
  powered : g.reentry.holdActive = true → g.powerWasRequested = true
  notInCst : g.previousMode = axisModeCst → g.reentry.holdActive = false

/-- The application requests CST. -/
def RequestsCst (desire : AppCommands) : Prop :=
  normalizeArmGroupMode (desire.axisCtr 0).ecMode = axisModeCst

instance (desire : AppCommands) : Decidable (RequestsCst desire) :=
  inferInstanceAs (Decidable (_ = _))

theorem requestedMode_of_cst (h : RequestsCst desire) :
    requestedMode true desire = axisModeCst := by
  unfold requestedMode
  rw [show normalizeArmGroupMode (desire.axisCtr 0).ecMode = axisModeCst from h]
  simp

theorem requestedMode_of_csp (h : ¬ RequestsCst desire) :
    requestedMode true desire = axisModeCsp := by
  unfold RequestsCst normalizeArmGroupMode at h
  unfold requestedMode normalizeArmGroupMode
  split_ifs at h ⊢ with hmode
  · exact (h rfl).elim
  · simp

theorem requestedMode_of_poweroff : requestedMode false desire = axisModeCsp := by
  unfold requestedMode normalizeArmGroupMode
  split_ifs <;> simp [axisModeCsp, axisModeCst]

theorem csp_ne_cst : axisModeCsp ≠ axisModeCst := by decide

theorem reentry_advanceCst : (g.advanceCst cfg feedback).reentry = g.reentry := by
  unfold advanceCst
  split
  · dsimp only
    split_ifs <;> rfl
  · dsimp only
    split_ifs <;> rfl
  · split_ifs <;> rfl
  · rfl

theorem previousMode_followPower (power : Bool) :
    (g.followPower cfg power).previousMode = g.previousMode := by
  unfold followPower
  split_ifs <;> rfl

/-- A group that has seen the request for power stays as it is. -/
theorem followPower_of_requested (hpower : g.powerWasRequested = true) :
    g.followPower cfg true = g := by
  unfold followPower
  rw [hpower]
  rfl

/-- With power a hold may only be given up. -/
theorem reentry_followPower :
    (g.followPower cfg true).reentry = g.reentry ∨
      (g.followPower cfg true).reentry = Reentry.idle := by
  unfold followPower
  cases g.powerWasRequested with
  | true => exact Or.inl rfl
  | false => exact Or.inr rfl

/-- A cycle in CSP that does not come from CST keeps a missing hold missing. -/
theorem inCsp_free {power : Bool} (hactive : g.reentry.holdActive = false)
    (hstays : (g.previousMode == axisModeCst && power) = false) :
    (g.inCsp cfg feedback power desire).1.reentry.holdActive = false := by
  unfold inCsp advanceReentry
  rw [hstays]
  simp only [Bool.false_eq_true, if_false]
  split_ifs
  · exact Reentry.holdActive_advance_of_not _ _ hactive
  · exact hactive

/-- Without power there is no hold. -/
theorem prepare_unpowered : (g.prepare cfg feedback false desire).1.reentry.holdActive = false := by
  unfold prepare
  rw [requestedMode_of_poweroff]
  simp only [csp_ne_cst, if_false]
  exact inCsp_free cfg feedback _ _ rfl (Bool.and_false _)

/-- In CST there is no hold. -/
theorem inCst_free (hcst : g.previousMode = axisModeCst → g.reentry.holdActive = false) :
    (g.inCst cfg feedback desire).1.reentry.holdActive = false := by
  unfold inCst
  cases henters : g.previousMode != axisModeCst || !g.holdActive with
  | true =>
    simp only [if_true]
    split_ifs
    · rw [reentry_advanceCst]
      rfl
    · rfl
  | false =>
    have hnone := hcst (bne_eq_false_iff_eq.mp (Bool.or_eq_false_iff.mp henters).1)
    simp only [Bool.false_eq_true, if_false]
    split_ifs
    · rw [reentry_advanceCst]
      exact hnone
    · exact hnone

theorem prepare_cst (hg : g.Sound) (hcst : RequestsCst desire) :
    (g.prepare cfg feedback true desire).1.reentry.holdActive = false := by
  unfold prepare
  rw [requestedMode_of_cst desire hcst]
  simp only [if_true]
  refine inCst_free cfg feedback _ _ fun hprevious => ?_
  rw [previousMode_followPower] at hprevious
  obtain hsame | hidle := g.reentry_followPower cfg
  · rw [hsame]
    exact hg.notInCst hprevious
  · rw [hidle]
    rfl

/-- A group that leaves CST begins to hold its positions. -/
theorem prepare_leaves (heyou : cfg.hasAnyEyouPhModeSwitchAxis = true)
    (hcsp : ¬ RequestsCst desire) (hprevious : g.previousMode = axisModeCst) :
    ∃ i, (g.prepare cfg feedback true desire).1.reentry = (Reentry.begin true).advance i ∧
      ∀ a, cfg.isModeSwitchAxis a = true →
        (g.prepare cfg feedback true desire).1.holdPosition a = some (feedback a).actPos := by
  have hleaves : ((g.followPower cfg true).previousMode == axisModeCst && true) = true := by
    rw [previousMode_followPower, hprevious]
    rfl
  unfold prepare
  rw [requestedMode_of_csp desire hcsp]
  simp only [csp_ne_cst, if_false]
  unfold inCsp advanceReentry leaveCst
  rw [hleaves, heyou]
  simp only [if_true]
  exact ⟨_, rfl, fun a ha => if_pos ha⟩

/-- A group with a hold goes on with it. -/
theorem prepare_holds (hg : g.Sound) (heyou : cfg.hasAnyEyouPhModeSwitchAxis = true)
    (hcsp : ¬ RequestsCst desire) (hactive : g.reentry.holdActive = true) :
    (g.prepare cfg feedback true desire).1.reentry =
        g.reentry.advance (g.reentryInput cfg feedback desire) ∧
      (g.prepare cfg feedback true desire).1.holdPosition = g.holdPosition ∧
      (g.prepare cfg feedback true desire).2 = desire := by
  have hpower := hg.powered hactive
  have hfollow := g.followPower_of_requested cfg hpower
  have hstays : (g.previousMode == axisModeCst && true) = false := by
    cases h : g.previousMode == axisModeCst with
    | false => rfl
    | true =>
      have hnone := hg.notInCst (eq_of_beq h)
      rw [hactive] at hnone
      cases hnone
  unfold prepare
  rw [requestedMode_of_csp desire hcsp, hfollow]
  simp only [csp_ne_cst, if_false]
  unfold inCsp
  simp only [hstays, hpower, heyou]
  exact ⟨rfl, rfl, rfl⟩

/-- A group in CSP without a hold gets none. -/
theorem prepare_free (hcsp : ¬ RequestsCst desire) (hprevious : g.previousMode ≠ axisModeCst)
    (hactive : g.reentry.holdActive = false) :
    (g.prepare cfg feedback true desire).1.reentry.holdActive = false := by
  unfold prepare
  rw [requestedMode_of_csp desire hcsp]
  simp only [csp_ne_cst, if_false]
  refine inCsp_free cfg feedback _ _ ?_ ?_
  · obtain hsame | hidle := g.reentry_followPower cfg
    · rw [hsame]
      exact hactive
    · rw [hidle]
      rfl
  · rw [previousMode_followPower, Bool.and_true]
    exact beq_eq_false_iff_ne.mpr hprevious

/-- In CSP a drive that is still commanded to CST holds its position; another one goes for the
target when it is ready. -/
theorem axisPosition_axisCommand (power : Bool) (a : Axis) :
    (g.axisCommand cfg feedback power axisModeCsp desire a).1.axisPosition =
      if cfg.isEyouPhModeSwitchAxis a = true ∧ g.reentry.state = .disableHold then
        g.heldPosition feedback a
      else if (feedback a).modeWord = axisModeCsp ∧ (feedback a).state = stateOperationEnabled then
        g.cspTarget desire a
      else (feedback a).actPos := by
  have hmode : g.commandMode cfg axisModeCsp a =
      if cfg.isEyouPhModeSwitchAxis a = true ∧ g.reentry.state = .disableHold then axisModeCst
      else axisModeCsp := by
    unfold commandMode
    simp only [csp_ne_cst, false_and, if_false, true_and]
    cases cfg.isEyouPhModeSwitchAxis a with
    | true => simp only [if_true, true_and]
    | false => simp only [Bool.false_eq_true, false_and, if_false]
  unfold axisCommand
  rw [hmode]
  simp only [csp_ne_cst, false_and, and_false, if_false]
  by_cases hhold : cfg.isEyouPhModeSwitchAxis a = true ∧ g.reentry.state = .disableHold
  · simp only [if_pos hhold, if_true]
    rw [axisPosition_axisModeStateChage_cst]
  · simp only [if_neg hhold, csp_ne_cst, if_false]
    rw [axisPosition_axisModeStateChage]

end ArmGroup

/-! ## The cycle -/

variable {cfg : Setup} {d : Driver} {i : Input} {a : Axis} {out : PdoOutput}

/-- Power is requested in a cycle, and there is no forced shutdown. -/
def Powered (cfg : Setup) (d : Driver) (i : Input) : Prop :=
  (d.beforeOutput cfg i).isDrivePowerOnRequested = true

instance (cfg : Setup) (d : Driver) (i : Input) : Decidable (Powered cfg d i) :=
  inferInstanceAs (Decidable (_ = true))

/-- A powered group leaves CST. -/
def Leaves (cfg : Setup) (d : Driver) (i : Input) : Prop :=
  Powered cfg d i ∧ d.group.previousMode = axisModeCst ∧ ¬ ArmGroup.RequestsCst i.desire

instance (cfg : Setup) (d : Driver) (i : Input) : Decidable (Leaves cfg d i) :=
  inferInstanceAs (Decidable (_ ∧ _ ∧ _))

theorem exists_isModeSwitchAxis (heyou : cfg.hasAnyEyouPhModeSwitchAxis = true) :
    ∃ a, cfg.isModeSwitchAxis a = true := by
  obtain ⟨a, ha⟩ := of_decide_eq_true heyou
  exact ⟨a, (Bool.and_eq_true_iff.mp ha).1⟩

theorem consistent_beforeOutput (hd : d.monitor.Consistent) (i : Input) :
    (d.beforeOutput cfg i).monitor.Consistent := by
  rw [Driver.monitor_beforeOutput]
  exact hd.update _

theorem forceShutdown_of_powered (hpower : Powered cfg d i) :
    (d.beforeOutput cfg i).monitor.forceShutdown = false := by
  unfold Powered Driver.isDrivePowerOnRequested at hpower
  exact (Bool.not_eq_true' _).mp (Bool.and_eq_true_iff.mp hpower).2

/-- What precedes the outputs of a powered cycle leaves the group alone. -/
theorem group_of_powered (hd : d.monitor.Consistent) (hpower : Powered cfg d i) :
    (d.beforeOutput cfg i).group = d.group := by
  have hforce := forceShutdown_of_powered hpower
  refine d.group_beforeOutput cfg i fun hfaulted => ?_
  rw [(consistent_beforeOutput hd i).forced.mpr hfaulted] at hforce
  cases hforce

/-- A powered cycle prepares the group as the last one has left it. -/
theorem cycle_of_powered (heyou : cfg.hasAnyEyouPhModeSwitchAxis = true)
    (hd : d.monitor.Consistent) (hpower : Powered cfg d i) :
    (d.cycle cfg i).1.group = (d.group.prepare cfg i.feedback true i.desire).1 ∧
      ∀ a out, (a, out) ∈ d.outputs cfg i → cfg.isModeSwitchAxis a = true →
        out.targetPosition = ((d.group.prepare cfg i.feedback true i.desire).1.axisCommand cfg
          i.feedback true (ArmGroup.requestedMode true i.desire)
          (d.group.prepare cfg i.feedback true i.desire).2 a).1.axisPosition := by
  have hrequested : (d.beforeOutput cfg i).isDrivePowerOnRequested = true := hpower
  have hforce := forceShutdown_of_powered hpower
  have hgroup := group_of_powered hd hpower
  have hdesire := d.desire_beforeOutput cfg i
  constructor
  · rw [Driver.group_cycle cfg i d hforce (exists_isModeSwitchAxis heyou)]
    unfold Driver.prepareArmGroupAxisCommand
    simp only [hrequested, hgroup, hdesire]
  · intro a out hout ha
    obtain ⟨-, rfl⟩ := mem_outputs.mp hout
    unfold Driver.outputOf Driver.commandOf Driver.prepareArmGroupAxisCommand
    simp only [hforce, Bool.false_eq_true, if_false, ha, if_true, hrequested, hgroup, hdesire]
    rfl

/-- After a cycle without power, or with a forced shutdown, there is no hold. -/
theorem holdActive_of_not_powered (heyou : cfg.hasAnyEyouPhModeSwitchAxis = true)
    (hd : d.monitor.Consistent) (hpower : ¬ Powered cfg d i) :
    (d.cycle cfg i).1.group.reentry.holdActive = false := by
  cases hforce : (d.beforeOutput cfg i).monitor.forceShutdown with
  | true =>
    have hfaulted := (consistent_beforeOutput hd i).forced.mp hforce
    rw [Driver.monitor_beforeOutput] at hfaulted
    rw [Driver.group_cycle_of_forced cfg i d hforce]
    unfold Driver.beforeOutput Driver.updateSharedMotorMonitorState
    dsimp only
    split_ifs with h
    · rfl
    · exact (h hfaulted).elim
  | false =>
    have hrequested : (d.beforeOutput cfg i).isDrivePowerOnRequested = false :=
      Bool.eq_false_of_not_eq_true hpower
    rw [Driver.group_cycle cfg i d hforce (exists_isModeSwitchAxis heyou)]
    unfold Driver.prepareArmGroupAxisCommand
    simp only [hrequested]
    exact ArmGroup.prepare_unpowered cfg i.feedback _ _

/-! ## The rule -/

/-- What an observer keeps: the positions of the last way back, and the numbers of cycles in a row
with ready drives and with near requests. -/
structure HoldNote where
  snapshot : Axis → Int32
  ready : ℕ
  near : ℕ

/-- All mode switch axes are in CSP, enabled and at a standstill. -/
def AllReady (cfg : Setup) (i : Input) : Prop :=
  ∀ a, cfg.isModeSwitchAxis a = true →
    (i.feedback a).modeWord = axisModeCsp ∧ (i.feedback a).state = stateOperationEnabled ∧
      |(i.feedback a).actVel.toInt| < kStandstillVelocityThreshold.toInt

instance (cfg : Setup) (i : Input) : Decidable (AllReady cfg i) :=
  inferInstanceAs (Decidable (∀ _, _ → _))

/-- All requests are within the window of the kept positions, as integers. -/
def AllNear (cfg : Setup) (snapshot : Axis → Int32) (i : Input) : Prop :=
  ∀ a, cfg.isModeSwitchAxis a = true →
    |(i.desire.axisCtr a).axisPosition.toInt - (snapshot a).toInt| ≤
      cspReentryCommandWindow.toInt

instance (cfg : Setup) (snapshot : Axis → Int32) (i : Input) :
    Decidable (AllNear cfg snapshot i) :=
  inferInstanceAs (Decidable (∀ _, _ → _))

/-- The observer. -/
def holdNote (cfg : Setup) (d : Driver) (i : Input) (n : HoldNote) : HoldNote where
  snapshot := if Leaves cfg d i then fun a => (i.feedback a).actPos else n.snapshot
  ready := if AllReady cfg i then n.ready + 1 else 0
  near := if ¬ Leaves cfg d i ∧ AllNear cfg n.snapshot i then n.near + 1 else 0

/-- A cycle in which a powered group leaves CST starts a hold.  With a hold, each mode switch axis
is sent its kept position, or its measured one when it is not in CSP or not enabled.  With power and
without a request for CST a hold ends only after 200 cycles in a row with ready drives and 20 cycles
in a row with near requests, and then the positions are near. -/
structure HoldsReentry (cfg : Setup) (s : Driver × HoldNote) (i : Input) (s' : Driver × HoldNote) :
    Prop where
  starts : Leaves cfg s.1 i → s'.1.group.reentry.holdActive = true
  holds : s'.1.group.reentry.holdActive = true → ∀ a out, (a, out) ∈ s.1.outputs cfg i →
    cfg.isModeSwitchAxis a = true → out.targetPosition = s'.2.snapshot a ∨
      ((i.feedback a).modeWord ≠ axisModeCsp ∨ (i.feedback a).state ≠ stateOperationEnabled) ∧
        out.targetPosition = (i.feedback a).actPos
  releases : s.1.group.reentry.holdActive = true → s'.1.group.reentry.holdActive = false →
    Powered cfg s.1 i → ¬ ArmGroup.RequestsCst i.desire →
    200 ≤ s'.2.ready ∧ 20 ≤ s'.2.near ∧ ∀ a out, (a, out) ∈ s.1.outputs cfg i →
      cfg.isModeSwitchAxis a = true →
      |out.targetPosition.toInt - (s'.2.snapshot a).toInt| ≤ cspReentryCommandWindow.toInt

/-- With a hold, no request lies at a distance from its kept position that 32 bits get wrong, and no
velocity is the smallest word. -/
def Unwrapped (cfg : Setup) (s : Driver × HoldNote) (i : Input) : Prop :=
  s.1.group.reentry.holdActive = true → ∀ a, cfg.isModeSwitchAxis a = true →
    ¬ SignedWords.Wraps cspReentryCommandWindow.toInt
        |(i.desire.axisCtr a).axisPosition.toInt - (s.2.snapshot a).toInt| ∧
      (i.feedback a).actVel.toInt ≠ -2 ^ 31

instance (cfg : Setup) (s : Driver × HoldNote) (i : Input) : Decidable (Unwrapped cfg s i) :=
  inferInstanceAs (Decidable (_ → ∀ _, _ → _ ∧ _))

/-! ## Runs -/

/-- What holds between two cycles. -/
structure Held (cfg : Setup) (s : Driver × HoldNote) : Prop where
  monitor : s.1.monitor.Consistent
  group : s.1.group.Sound
  positions : s.1.group.reentry.holdActive = true → ∀ a, cfg.isModeSwitchAxis a = true →
    s.1.group.holdPosition a = some (s.2.snapshot a)
  ready : s.1.group.reentry.holdActive = true → s.1.group.reentry.readyCycles ≤ s.2.ready
  near : s.1.group.reentry.holdActive = true → s.1.group.reentry.takeoverCycles ≤ s.2.near

/-- The test of the drives sees ready drives. -/
theorem allReady_of_reentryInput {g : ArmGroup}
    (hvelocity : ∀ a, cfg.isModeSwitchAxis a = true → (i.feedback a).actVel.toInt ≠ -2 ^ 31)
    (hcsp : (g.reentryInput cfg i.feedback i.desire).enabledInCsp = true)
    (hstill : (g.reentryInput cfg i.feedback i.desire).standstill = true) : AllReady cfg i := by
  intro a ha
  obtain ⟨hmode, henabled⟩ := Bool.and_eq_true_iff.mp hcsp
  have hslow := of_decide_eq_true ((allModeSwitchAxes_eq_true cfg).mp hstill a ha)
  exact ⟨eq_of_beq ((allModeSwitchAxes_eq_true cfg).mp hmode a ha),
    eq_of_beq ((allModeSwitchAxes_eq_true cfg).mp henabled a ha),
    (SignedWords.abs32_lt_iff (hvelocity a ha)).mp hslow⟩

/-- The test of the requests sees near requests. -/
theorem allNear_of_reentryInput {g : ArmGroup} {snapshot : Axis → Int32}
    (hpositions : ∀ a, cfg.isModeSwitchAxis a = true → g.holdPosition a = some (snapshot a))
    (hdistance : ∀ a, cfg.isModeSwitchAxis a = true →
      ¬ SignedWords.Wraps cspReentryCommandWindow.toInt
        |(i.desire.axisCtr a).axisPosition.toInt - (snapshot a).toInt|)
    (hwindow : (g.reentryInput cfg i.feedback i.desire).withinWindow = true) :
    AllNear cfg snapshot i := by
  intro a ha
  have hnear := (allModeSwitchAxes_eq_true cfg).mp hwindow a ha
  rw [hpositions a ha, Option.any_some] at hnear
  exact (SignedWords.abs32_sub_le_iff (by decide) (hdistance a ha)).mp (of_decide_eq_true hnear)

theorem ArmGroup.sound_of_not_active {g : ArmGroup} (h : g.reentry.holdActive = false) :
    g.Sound := by
  refine ⟨fun hactive => ?_, fun hactive => ?_, fun _ => h⟩
  · rw [h] at hactive
    cases hactive
  · rw [h] at hactive
    cases hactive

/-- The first cycle of a hold. -/
theorem Reentry.advance_begin (j : ReentryInput) :
    (Reentry.begin true).advance j = ⟨.disableHold, 1, true, true, 0, 0⟩ := rfl

/-- A powered cycle in CSP, from a group that comes from CST or has a hold: the hold begins, it goes
on, or it is released after enough good cycles. -/
inductive HoldCycle (cfg : Setup) (s : Driver × HoldNote) (i : Input) (g' : ArmGroup) : Prop
  | begins (hleaves : Leaves cfg s.1 i)
      (hreentry : g'.reentry = ⟨.disableHold, 1, true, true, 0, 0⟩)
      (hpositions : ∀ a, cfg.isModeSwitchAxis a = true →
        g'.holdPosition a = some (i.feedback a).actPos)
  | keeps (hleaves : ¬ Leaves cfg s.1 i) (hactive : s.1.group.reentry.holdActive = true)
      (hkeeps : Reentry.Keeps s.1.group.reentry
        (s.1.group.reentryInput cfg i.feedback i.desire) g'.reentry)
      (hsound : g'.reentry.Sound) (hpositions : g'.holdPosition = s.1.group.holdPosition)
  | releases (hleaves : ¬ Leaves cfg s.1 i) (hactive : s.1.group.reentry.holdActive = true)
      (hreleases : Reentry.Releases s.1.group.reentry
        (s.1.group.reentryInput cfg i.feedback i.desire) g'.reentry)
      (hstate : g'.reentry.state ≠ .disableHold)
      (hdesire : (s.1.group.prepare cfg i.feedback true i.desire).2 = i.desire)
  | free (hleaves : ¬ Leaves cfg s.1 i) (hactive : s.1.group.reentry.holdActive = false)
      (hfree : g'.reentry.holdActive = false)

theorem holdCycle {s : Driver × HoldNote} (hs : Held cfg s)
    (heyou : cfg.hasAnyEyouPhModeSwitchAxis = true) (hpower : Powered cfg s.1 i)
    (hcsp : ¬ ArmGroup.RequestsCst i.desire) :
    HoldCycle cfg s i (s.1.group.prepare cfg i.feedback true i.desire).1 := by
  by_cases hprevious : s.1.group.previousMode = axisModeCst
  · obtain ⟨j, hreentry, hpositions⟩ :=
      ArmGroup.prepare_leaves cfg i.feedback s.1.group i.desire heyou hcsp hprevious
    rw [Reentry.advance_begin] at hreentry
    exact HoldCycle.begins ⟨hpower, hprevious, hcsp⟩ hreentry hpositions
  · have hleaves : ¬ Leaves cfg s.1 i := fun h => hprevious h.2.1
    cases hactive : s.1.group.reentry.holdActive with
    | false =>
      exact HoldCycle.free hleaves hactive
        (ArmGroup.prepare_free cfg i.feedback s.1.group i.desire hcsp hprevious hactive)
    | true =>
      obtain ⟨hreentry, hpositions, hdesire⟩ :=
        ArmGroup.prepare_holds cfg i.feedback s.1.group i.desire hs.group heyou hcsp hactive
      obtain ⟨hkeeps, hsound⟩ | ⟨hreleases, hstate⟩ := s.1.group.reentry.advance_cases
        (s.1.group.reentryInput cfg i.feedback i.desire) (hs.group.reentry hactive) hactive
      · exact HoldCycle.keeps hleaves hactive (hreentry ▸ hkeeps) (hreentry ▸ hsound) hpositions
      · exact HoldCycle.releases hleaves hactive (hreentry ▸ hreleases) (hreentry ▸ hstate) hdesire

/-- A cycle that ends with a hold was powered, and was not in CST. -/
theorem powered_of_holdActive (heyou : cfg.hasAnyEyouPhModeSwitchAxis = true)
    (hd : d.monitor.Consistent) (hg : d.group.Sound)
    (hactive : (d.cycle cfg i).1.group.reentry.holdActive = true) :
    Powered cfg d i ∧ ¬ ArmGroup.RequestsCst i.desire := by
  by_cases hpower : Powered cfg d i
  · refine ⟨hpower, fun hcst => ?_⟩
    rw [(cycle_of_powered heyou hd hpower).1,
      ArmGroup.prepare_cst cfg i.feedback d.group i.desire hg hcst] at hactive
    cases hactive
  · rw [holdActive_of_not_powered heyou hd hpower] at hactive
    cases hactive

theorem ready_holdNote {n : HoldNote} (h : AllReady cfg i) :
    (holdNote cfg d i n).ready = n.ready + 1 := if_pos h

theorem snapshot_holdNote {n : HoldNote} (h : ¬ Leaves cfg d i) :
    (holdNote cfg d i n).snapshot = n.snapshot := if_neg h

theorem near_holdNote {n : HoldNote} (h : ¬ Leaves cfg d i) (hnear : AllNear cfg n.snapshot i) :
    (holdNote cfg d i n).near = n.near + 1 := if_pos ⟨h, hnear⟩

/-- The step lemma. -/
theorem Held.next {s s' : Driver × HoldNote} (hs : Held cfg s)
    (heyou : cfg.hasAnyEyouPhModeSwitchAxis = true) (hC : Unwrapped cfg s i)
    (h : Runs.observed (Driver.step cfg) (holdNote cfg) s i = some s') : Held cfg s' := by
  obtain ⟨d, n⟩ := s
  obtain ⟨d', n'⟩ := s'
  obtain ⟨hstep, hnote⟩ := Runs.observed_eq_some.mp h
  obtain rfl : n' = holdNote cfg d i n := hnote
  obtain rfl : (d.cycle cfg i).1 = d' := Option.some_inj.mp hstep
  have hmonitor : (d.cycle cfg i).1.monitor.Consistent := consistent_cycle hs.monitor i
  cases hactive : (d.cycle cfg i).1.group.reentry.holdActive with
  | false =>
    have hnone : ∀ {P : Prop}, (d.cycle cfg i).1.group.reentry.holdActive = true → P := by
      intro P h
      rw [hactive] at h
      cases h
    exact ⟨hmonitor, ArmGroup.sound_of_not_active hactive, hnone, hnone, hnone⟩
  | true =>
    obtain ⟨hpower, hcsp⟩ := powered_of_holdActive heyou hs.monitor hs.group hactive
    obtain ⟨hgroup, -⟩ := cycle_of_powered heyou hs.monitor hpower
    have hmode : (d.cycle cfg i).1.group.previousMode ≠ axisModeCst := by
      rw [hgroup]
      have hrequested := ArmGroup.requestedMode_of_csp i.desire hcsp
      exact fun h => ArmGroup.csp_ne_cst (hrequested.symm.trans h)
    have hwas : (d.cycle cfg i).1.group.powerWasRequested = true := by
      rw [hgroup]
      rfl
    have hcycle := holdCycle hs heyou hpower hcsp
    rw [← hgroup] at hcycle
    cases hcycle with
    | begins hleaves hreentry hpositions =>
      have hsnapshot : (holdNote cfg d i n).snapshot = fun a => (i.feedback a).actPos :=
        if_pos hleaves
      refine ⟨hmonitor, ⟨fun _ _ => ?_, fun _ => hwas, fun h => (hmode h).elim⟩,
        fun _ a ha => ?_, fun _ => ?_, fun _ => ?_⟩
      · rw [hreentry]
        exact ⟨rfl, rfl⟩
      · rw [hsnapshot]
        exact hpositions a ha
      · rw [hreentry]
        exact Nat.zero_le _
      · rw [hreentry]
        exact Nat.zero_le _
    | keeps hleaves hbefore hkeeps hsound hpositions =>
      have hC' := hC hbefore
      refine ⟨hmonitor, ⟨fun _ => hsound, fun _ => hwas, fun h => (hmode h).elim⟩,
        fun _ a ha => ?_, fun _ => ?_, fun _ => ?_⟩
      · rw [hpositions, snapshot_holdNote hleaves]
        exact hs.positions hbefore a ha
      · obtain hzero | ⟨henabled, hstill, hcount⟩ := hkeeps.ready
        · rw [hzero]
          exact Nat.zero_le _
        · rw [hcount, ready_holdNote (allReady_of_reentryInput (fun a ha => (hC' a ha).2)
            henabled hstill)]
          exact (increment_le _).trans (Nat.succ_le_succ (hs.ready hbefore))
      · obtain hzero | ⟨hwindow, hcount⟩ := hkeeps.takeover
        · rw [hzero]
          exact Nat.zero_le _
        · rw [hcount, near_holdNote hleaves (allNear_of_reentryInput (hs.positions hbefore)
            (fun a ha => (hC' a ha).1) hwindow)]
          exact (increment_le _).trans (Nat.succ_le_succ (hs.near hbefore))
    | releases hleaves hbefore hreleases hstate hdesire =>
      rw [hreleases.inactive] at hactive
      cases hactive
    | free hleaves hbefore hfree =>
      rw [hfree] at hactive
      cases hactive

/-- What a cycle with a hold, or with its release, sends. -/
theorem Held.holdsReentry {s s' : Driver × HoldNote} (hs : Held cfg s)
    (heyou : cfg.hasAnyEyouPhModeSwitchAxis = true) (hC : Unwrapped cfg s i)
    (h : Runs.observed (Driver.step cfg) (holdNote cfg) s i = some s') :
    HoldsReentry cfg s i s' := by
  have hs' := hs.next heyou hC h
  obtain ⟨d, n⟩ := s
  obtain ⟨d', n'⟩ := s'
  obtain ⟨hstep, hnote⟩ := Runs.observed_eq_some.mp h
  obtain rfl : n' = holdNote cfg d i n := hnote
  obtain rfl : (d.cycle cfg i).1 = d' := Option.some_inj.mp hstep
  have hstarts : Leaves cfg d i → (d.cycle cfg i).1.group.reentry.holdActive = true := by
    intro hleaves
    obtain ⟨j, hreentry, -⟩ := ArmGroup.prepare_leaves cfg i.feedback d.group i.desire heyou
      hleaves.2.2 hleaves.2.1
    rw [(cycle_of_powered heyou hs.monitor hleaves.1).1, hreentry, Reentry.advance_begin]
  refine ⟨hstarts, fun hactive a out hout ha => ?_, fun hbefore hafter hpower hcsp => ?_⟩
  · obtain ⟨hpower, hcsp⟩ := powered_of_holdActive heyou hs.monitor hs.group hactive
    obtain ⟨hgroup, hwritten⟩ := cycle_of_powered heyou hs.monitor hpower
    have hheld := hs'.positions hactive a ha
    have hposition := hwritten a out hout ha
    rw [ArmGroup.requestedMode_of_csp i.desire hcsp, ArmGroup.axisPosition_axisCommand,
      ← hgroup] at hposition
    rw [hposition]
    split_ifs with hdisabling hready
    · refine Or.inl ?_
      unfold ArmGroup.heldPosition
      rw [hheld, Option.getD_some]
    · refine Or.inl ?_
      unfold ArmGroup.cspTarget
      rw [if_pos hactive, hheld, Option.getD_some]
    · exact Or.inr ⟨not_and_or.mp hready, rfl⟩
  · obtain ⟨hgroup, hwritten⟩ := cycle_of_powered heyou hs.monitor hpower
    have hcycle := holdCycle hs heyou hpower hcsp
    rw [← hgroup] at hcycle
    have hC' := hC hbefore
    cases hcycle with
    | begins hleaves hreentry hpositions =>
      rw [hstarts hleaves] at hafter
      cases hafter
    | keeps hleaves _ hkeeps hsound hpositions =>
      rw [hkeeps.active] at hafter
      cases hafter
    | free hleaves hnot hfree =>
      rw [hnot] at hbefore
      cases hbefore
    | releases hleaves _ hreleases hstate hdesire =>
      have hready := allReady_of_reentryInput (fun a ha => (hC' a ha).2) hreleases.enabledInCsp
        hreleases.standstill
      have hnear := allNear_of_reentryInput (hs.positions hbefore) (fun a ha => (hC' a ha).1)
        hreleases.withinWindow
      rw [ready_holdNote hready, near_holdNote hleaves hnear, snapshot_holdNote hleaves]
      refine ⟨?_, ?_, fun a out hout ha => ?_⟩
      · exact hreleases.ready.trans ((increment_le _).trans (Nat.succ_le_succ (hs.ready hbefore)))
      · exact hreleases.takeover.trans
          ((increment_le _).trans (Nat.succ_le_succ (hs.near hbefore)))
      · have hposition := hwritten a out hout ha
        rw [ArmGroup.requestedMode_of_csp i.desire hcsp, ArmGroup.axisPosition_axisCommand,
          ← hgroup, hdesire, if_neg (fun h => hstate h.2),
          if_pos ⟨(hready a ha).1, (hready a ha).2.1⟩] at hposition
        unfold ArmGroup.cspTarget at hposition
        rw [if_neg (by rw [hafter]; exact Bool.false_ne_true)] at hposition
        rw [hposition]
        exact hnear a ha

/-- The driver and the observer at the start. -/
def observedStart (desire : AppCommands) : Driver × HoldNote :=
  (Driver.initial desire, ⟨fun _ => 0, 0, 0⟩)

theorem held_observedStart (desire : AppCommands) : Held cfg (observedStart desire) := by
  have hnone : ∀ {P : Prop},
      (observedStart desire).1.group.reentry.holdActive = true → P := fun h => by cases h
  exact ⟨Monitor.consistent_initial, ArmGroup.sound_of_not_active rfl, hnone, hnone, hnone⟩

/-- Along every run without such distances and velocities, a group with a drive of the profile
`EyouPh` holds its positions after the way back to CSP until a release that has found ready drives
and near requests. -/
theorem holdsReentry_of_unwrapped (cfg : Setup) (desire : AppCommands)
    (heyou : cfg.hasAnyEyouPhModeSwitchAxis = true) {inputs : List Input}
    (h : Runs.Meets (Runs.observed (Driver.step cfg) (holdNote cfg)) (Unwrapped cfg)
      (observedStart desire) inputs) :
    Runs.Throughout (Runs.observed (Driver.step cfg) (holdNote cfg)) (HoldsReentry cfg)
      (observedStart desire) inputs :=
  Runs.throughout_of_meets (fun _ _ _ hs hC hstep => hs.next heyou hC hstep)
    (fun _ _ _ hs hC hstep => hs.holdsReentry heyou hC hstep) (held_observedStart desire) h

/-! ## A near and a far request -/

theorem nodup_pairOrder : [(0 : Axis), 7].Nodup := by decide

/-- An axis of each arm, one on each master, with drives of the profile `EyouPh`. -/
def pairSetup : Setup where
  profile := fun a => if a = 0 ∨ a = 7 then .eyouPh else .none
  order := [0, 7]
  nodup := nodup_pairOrder
  mem_order := by decide

/-- The enabled drives are at the largest position in a mode, and the application requests the mode
and a position. -/
def modeCycle (mode : UInt8) (position : Int32) : Input where
  feedback := fun _ => ⟨2147483647, 0, mode, 0x27, 0⟩
  desire := holdRequest 1 mode position

/-- The start of both runs. -/
def pairStart : Driver × HoldNote := observedStart (holdRequest 0 axisModeCsp 0)

/-- A way back to CSP, up to the cycle before the release. -/
def wayBack (position : Int32) : List Input :=
  modeCycle axisModeCst 2147483647 :: List.replicate 468 (modeCycle axisModeCsp position)

/-- Near requests release the hold as they should. -/
theorem holdsReentry_nearRun :
    Runs.Throughout (Runs.observed (Driver.step pairSetup) (holdNote pairSetup))
      (HoldsReentry pairSetup) pairStart
        (wayBack 2147483200 ++ [modeCycle axisModeCsp 2147483200]) :=
  holdsReentry_of_unwrapped pairSetup (holdRequest 0 axisModeCsp 0) (by decide)
    (Runs.meets_of_passes (fun s i => of_decide_eq_true (p := Unwrapped pairSetup s i))
      (by decide +kernel))

/-- A powered cycle in CSP releases the hold, and no request was near. -/
def releasesUnnoticed (s : Driver × HoldNote) (i : Input) : Bool :=
  s.2.near == 0 && s.1.group.reentry.holdActive &&
    decide (Powered pairSetup s.1 i ∧ ¬ ArmGroup.RequestsCst i.desire) &&
    (Runs.observed (Driver.step pairSetup) (holdNote pairSetup) s i).any fun s' =>
      !s'.1.group.reentry.holdActive && s'.2.near == 0

theorem not_holdsReentry_of_releasesUnnoticed (s : Driver × HoldNote) (i : Input)
    (h : releasesUnnoticed s i = true) :
    ∃ s', Runs.observed (Driver.step pairSetup) (holdNote pairSetup) s i = some s' ∧
      ¬ HoldsReentry pairSetup s i s' := by
  obtain ⟨hbefore, hafter⟩ := Bool.and_eq_true_iff.mp h
  obtain ⟨hheld, hpower⟩ := Bool.and_eq_true_iff.mp hbefore
  obtain ⟨hpowered, hcsp⟩ := of_decide_eq_true hpower
  obtain ⟨s', hs', hreleased⟩ := (Option.any_eq_true _ _).mp hafter
  obtain ⟨hfree, hnear⟩ := Bool.and_eq_true_iff.mp hreleased
  refine ⟨s', hs', fun hrule => ?_⟩
  have hfew : 20 ≤ s'.2.near := (hrule.releases (Bool.and_eq_true_iff.mp hheld).2
    ((Bool.not_eq_true' _).mp hfree) hpowered hcsp).2.1
  rw [eq_of_beq hnear] at hfew
  omega

/-- The request at the other end of the words counts as near, and it releases the hold. -/
theorem not_holdsReentry_farRun :
    ¬ Runs.Throughout (Runs.observed (Driver.step pairSetup) (holdNote pairSetup))
      (HoldsReentry pairSetup) pairStart
      (wayBack (-2147483648) ++ [modeCycle axisModeCsp (-2147483648)]) := by
  intro h
  have hnone := Runs.Throughout.finds_eq_false not_holdsReentry_of_releasesUnnoticed h
  have hfound : Runs.finds (Runs.observed (Driver.step pairSetup) (holdNote pairSetup))
      releasesUnnoticed pairStart
      (wayBack (-2147483648) ++ [modeCycle axisModeCsp (-2147483648)]) = true := by
    decide +kernel
  rw [hfound] at hnone
  cases hnone

end Igh

end JointController
