import JointController.Lift.Generations

/-!
# What a safety command and an emergency stop supersede

All commands share one counter, so a STOP or HOLD that the control loop has consumed is newer than
everything before it.  An emergency stop has no number, and what it leaves behind depends on what
the control loop has done while it was latched.

* `BeginsNewer`: a cycle acts on no command up to a generation.
* `safety_supersedes`: behind a consumed safety command only newer commands begin a motion.
* `heavy_begins_after_estop`: a Heavy command that comes in during an emergency stop moves the lift
  once the stop is cleared.
* `NothingLeft`, `nothing_older_after_estop`: the condition under which that cannot happen.
-/

namespace JointController

namespace Lift

namespace LiftController

variable {otg : TrajectoryGenerator} (p : LiftParameters) (i : UpdateInput)
  (c : LiftController otg) {c' : LiftController otg}

/-- A control cycle acts on no command up to a generation. -/
def BeginsNewer (g : ℕ) (c : LiftController otg) (e : Event) (_ : LiftController otg) : Prop :=
  ∀ i n, e = .update i → c.BeginsMotion p i n → g < n

/-! ## Safety commands -/

/-- A cycle that consumes a safety command has read it from its buffer. -/
theorem update_consumedSafety
    (h : (c.update p i).controller.consumedSafetyCommandGeneration ≠
      c.consumedSafetyCommandGeneration) :
    c.update p i = ((c.readStateInterfaces i).intake p i).runCycle p i ∧
      ((c.readStateInterfaces i).intake p i).selectCommand.1 =
        some ⟨.safety, c.inbox.safetyCommandBuffer⟩ ∧
      (c.update p i).controller.consumedSafetyCommandGeneration =
        c.inbox.safetyCommandGeneration := by
  rcases update_cases p i c with ⟨hkeep, -, -⟩ | hrun
  · exact absurd hkeep.consumedSafety h
  refine ⟨hrun, ?_⟩
  rw [hrun, (keepsCommands_runCycle p i _).consumedSafety] at h ⊢
  have hintake : ((c.readStateInterfaces i).intake p i).consumedSafetyCommandGeneration =
      c.consumedSafetyCommandGeneration :=
    (sameIntake_takeTrajectory p i _).consumedSafety.trans
      (keepsCommands_leaveEstop p (c.readStateInterfaces i)).consumedSafety
  have hinbox : ((c.readStateInterfaces i).intake p i).inbox = c.inbox :=
    intake_inbox p i (c.readStateInterfaces i)
  generalize (c.readStateInterfaces i).intake p i = d at h hintake hinbox ⊢
  have hdispatch : (d.dispatch p i).2.consumedSafetyCommandGeneration =
      d.selectCommand.2.consumedSafetyCommandGeneration := by
    unfold dispatch
    split
    · exact (execute_spec p i d.selectCommand.2 _).1.consumedSafety
    · rfl
  rw [hdispatch] at h ⊢
  unfold selectCommand at h ⊢
  split_ifs at h ⊢
  · rw [hinbox]
    exact ⟨rfl, rfl⟩
  all_goals exact absurd hintake h

/-- A cycle that consumes a safety command executes it, and the lift comes to rest. -/
theorem update_executes_safety (hc : Numbered c)
    (h : (c.update p i).controller.consumedSafetyCommandGeneration ≠
      c.consumedSafetyCommandGeneration) (hnumber : c.inbox.safetyCommandGeneration ≠ 0) :
    (c.update p i).executed = some ⟨.safety, c.inbox.safetyCommandBuffer⟩ ∧
      (c.update p i).controller.mode.rests = true := by
  obtain ⟨hrun, hselected, -⟩ := update_consumedSafety p i c h
  rw [← hc.safety] at hnumber
  rw [hrun]
  generalize (c.readStateInterfaces i).intake p i = d at hselected ⊢
  have hnew : d.newCommand = some ⟨.safety, c.inbox.safetyCommandBuffer⟩ := by
    unfold newCommand
    rw [hselected]
    exact Option.filter_eq_some_iff.mpr ⟨rfl, by simp [isNew, hnumber]⟩
  refine ⟨hnew, ?_⟩
  have hstops : (d.dispatch p i).2.mode.rests = true := by
    unfold dispatch execute
    rw [hnew]
    dsimp only
    rw [if_pos (hc.safetyType hnumber)]
    exact executeStop_rests p _ _
  have hchecked := (keepsWindow_checkDriverGate p i (d.dispatch p i).2).rests hstops
  have hran : (((d.dispatch p i).2.checkDriverGate p i).runMode p i
      (d.dispatch p i).1).controller.mode.rests = true := by
    unfold runMode
    rw [if_neg]
    · exact (keepsWindow_motionCycle p i _).rests hchecked
    · intro hgate
      rw [hgate] at hchecked
      cases hchecked
  exact (keepsWindow_runCycle p i d).rests hran

/-- Everything up to a generation has been cancelled, and nothing of it waits behind the brake
gate. -/
theorem onlyNewer_of_cancelled {g : ℕ} (hc : Numbered c)
    (hcancelled : g ≤ c.inbox.cancellationGeneration) (hgate : GateNewer g c) : OnlyNewer g c where
  numbered := hc
  bound := hcancelled.trans hc.cancelled
  native := Or.inr fun _ hold => Or.inr (hold.trans hcancelled)
  heavy := fun _ hold => Or.inr (hold.trans hcancelled)
  trajectory := fun hold => Or.inr (Or.inr (hold.trans hcancelled))
  gate := hgate

variable {p c}

theorem cancellation_step (hc : Numbered c) {e : Event} (hstep : c.step p e = some c') :
    c.inbox.cancellationGeneration ≤ c'.inbox.cancellationGeneration := by
  by_cases he : e.callback = true
  · exact (publishes_step p hc he hstep).cancellation
  · cases e with
    | update i =>
      obtain ⟨-, rfl⟩ := update_of_step p c hstep
      rw [update_inbox]
    | activate state =>
      dsimp only [step] at hstep
      split_ifs at hstep
      obtain rfl := Option.some_inj.mp hstep
      unfold onActivate
      dsimp only
      split
      · exact le_rfl
      · exact hc.cancelled
    | deactivate state =>
      dsimp only [step] at hstep
      split_ifs at hstep
      obtain rfl := Option.some_inj.mp hstep
      exact le_rfl
    | _ => exact absurd rfl he

/-- What has been cancelled stays cancelled. -/
theorem beginsNewer_of_cancelled {g : ℕ} (h : OnlyNewer g c)
    (hcancelled : g ≤ c.inbox.cancellationGeneration) (later : List Event) :
    Runs.Throughout (step p) (BeginsNewer p g) c later := by
  refine Runs.throughout_of_invariant
    (I := fun c => OnlyNewer g c ∧ g ≤ c.inbox.cancellationGeneration) ?_ ?_ ⟨h, hcancelled⟩
  · rintro c e c' ⟨hc, hcancelled⟩ hstep
    refine ⟨hc.step p hstep fun _ _ _ _ _ hold => Or.inr (hold.trans hcancelled), ?_⟩
    exact hcancelled.trans (cancellation_step hc.numbered hstep)
  · rintro c e c' ⟨hc, -⟩ - i n rfl hn
    exact hc.begins p i hn

variable (p)

/-- Once a control cycle has consumed a safety command, neither that cycle nor any later one acts on
a command up to its generation, whatever callbacks and activations come in between. -/
theorem safety_supersedes {run : List Event} {c c' : LiftController otg} {i : UpdateInput}
    (h : Runs.exec (step p) (configured p) run = some c) (hstep : c.step p (.update i) = some c')
    (hconsumed : c'.consumedSafetyCommandGeneration ≠ c.consumedSafetyCommandGeneration)
    (later : List Event) :
    (∀ n, c.BeginsMotion p i n → c'.consumedSafetyCommandGeneration < n) ∧
      Runs.Throughout (step p) (BeginsNewer p c'.consumedSafetyCommandGeneration) c' later := by
  have hc := onlyNewer_zero p h
  have hinbox : c'.inbox = c.inbox := by
    obtain ⟨-, rfl⟩ := update_of_step p c hstep
    exact update_inbox p i c
  have hnumber : c'.consumedSafetyCommandGeneration = c.inbox.safetyCommandGeneration := by
    obtain ⟨-, rfl⟩ := update_of_step p c hstep
    exact (update_consumedSafety p i c hconsumed).2.2
  have hcancelled : c.inbox.safetyCommandGeneration ≤ c'.inbox.cancellationGeneration := by
    rw [hinbox]
    exact hc.numbered.safetyCancelled
  rw [hnumber]
  by_cases hzero : c.inbox.safetyCommandGeneration = 0
  -- a command without a number supersedes nothing
  · rw [hzero]
    have hc' : OnlyNewer 0 c' :=
      hc.step p hstep fun _ _ _ _ _ hold => Or.inr (hold.trans (Nat.zero_le _))
    exact ⟨fun _ hn => hc.begins p i hn, beginsNewer_of_cancelled hc' (Nat.zero_le _) later⟩
  · obtain ⟨-, rfl⟩ := update_of_step p c hstep
    obtain ⟨hexecuted, hrests⟩ := update_executes_safety p i c hc.numbered hconsumed hzero
    refine ⟨fun n hn => ?_, ?_⟩
    · cases hn with
      | executed hs hmotion =>
        obtain rfl := Option.some_inj.mp (hs.symm.trans hexecuted)
        rcases hc.numbered.safetyType (hc.numbered.safety ▸ hzero) with htype | htype <;>
        · dsimp only at hmotion
          rw [htype] at hmotion
          cases hmotion
      | trajectory hfinite hestop htakes =>
        exact hc.numbered.safetyCancelled.trans_lt (takesTrajectory_spec i c htakes).2.1
      | started hstarted hmoves => cases (Mode.not_rests_of_moves hmoves).symm.trans hrests
    · refine beginsNewer_of_cancelled (onlyNewer_of_cancelled _ (hc.numbered.of_inbox hinbox)
        hcancelled fun command hwaits => ?_) hcancelled later
      rw [hwaits.1] at hrests
      cases hrests

/-- A jog waits behind the brake gate when a STOP comes in. -/
def stopRun : List Event :=
  [.activate standing, .driverStatus (10 * 10 ^ 6) readyReport, .jog (.finite (-1 / 100)),
    .update ⟨standing, 20 * 10 ^ 6, 1 / 100, true⟩, .stop]

/-- The STOP is consumed, and only a later jog is taken. -/
theorem safety_supersedes_stopRun :
    ∃ c c' : LiftController immediateGenerator,
      Runs.exec (step defaultParameters) (configured defaultParameters) stopRun = some c ∧
      c.step defaultParameters (.update ⟨standing, 120 * 10 ^ 6, 1 / 100, true⟩) = some c' ∧
      c'.consumedSafetyCommandGeneration = 2 ∧
      Runs.Throughout (step defaultParameters) (BeginsNewer defaultParameters 2) c'
        [.jog (.finite (-1 / 100)), .update ⟨standing, 130 * 10 ^ 6, 1 / 100, true⟩] := by
  obtain ⟨c, hc, -, hP⟩ := Runs.reachable_of_run (step defaultParameters)
    (configured defaultParameters : LiftController immediateGenerator) stopRun
    (fun c => c.consumedSafetyCommandGeneration == 0 &&
      (c.step defaultParameters (.update ⟨standing, 120 * 10 ^ 6, 1 / 100, true⟩)).any
        fun c' => c'.consumedSafetyCommandGeneration == 2) (by decide +kernel)
  obtain ⟨hbefore, hafter⟩ := Bool.and_eq_true_iff.mp hP
  obtain ⟨c', hc', hafter⟩ := (Option.any_eq_true _ _).mp hafter
  have hbefore := beq_iff_eq.mp hbefore
  have hafter := beq_iff_eq.mp hafter
  have hlater := (safety_supersedes defaultParameters hc hc' (by rw [hbefore, hafter]; decide)
    [.jog (.finite (-1 / 100)), .update ⟨standing, 130 * 10 ^ 6, 1 / 100, true⟩]).2
  rw [hafter] at hlater
  exact ⟨c, c', hc, hc', hafter, hlater⟩

/-! ## Emergency stops -/

/-- A FOLLOW command that asks for 0.1 m below the zero. -/
def heavyFollow : Command :=
  { Command.empty with
    sequence := 1000001
    mode := Command.modeFollowPosition
    fieldMask := Command.fieldPosition
    position := fun _ => .finite (-1 / 10) }

/-- A Heavy command comes in while the emergency stop is latched and its cycles run. -/
def estopRun : List Event :=
  [.activate standing, .leaseGate true,
    .driverStatus (10 * 10 ^ 6) { readyReport with estopLatched := true },
    .update ⟨standing, 20 * 10 ^ 6, 1 / 100, true⟩, .heavyCommand heavyFollow,
    .update ⟨standing, 30 * 10 ^ 6, 1 / 100, true⟩]

/-- The report that clears the emergency stop. -/
def clearEvent : Event := .driverStatus (40 * 10 ^ 6) readyReport

/-- The cycles behind the emergency stop. -/
def resumedRun : List Event :=
  [.update ⟨standing, 50 * 10 ^ 6, 1 / 100, true⟩, .update ⟨standing, 150 * 10 ^ 6, 1 / 100, true⟩]

/-- The Heavy command is acted on once the emergency stop is cleared, and the lift streams its
target. -/
theorem heavy_begins_after_estop :
    ∃ c c₁ c₂ : LiftController immediateGenerator,
      Runs.exec (step defaultParameters) (configured defaultParameters) estopRun = some c ∧
      c.driver.estopLatched = true ∧ c.step defaultParameters clearEvent = some c₁ ∧
      c₁.driver.estopLatched = false ∧
      Runs.exec (step defaultParameters) c₁ resumedRun = some c₂ ∧ c₂.mode = .streaming ∧
      ¬ Runs.Throughout (step defaultParameters)
        (BeginsNewer defaultParameters c.inbox.motionGeneration) c₁ resumedRun := by
  obtain ⟨c, hc, -, hP⟩ := Runs.reachable_of_run (step defaultParameters)
    (configured defaultParameters : LiftController immediateGenerator) estopRun
    (fun c => c.driver.estopLatched && (c.step defaultParameters clearEvent).any fun c₁ =>
      !c₁.driver.estopLatched && ((Runs.exec (step defaultParameters) c₁ resumedRun).any fun c₂ =>
        c₂.mode == .streaming) && (c₁.step defaultParameters
          (.update ⟨standing, 50 * 10 ^ 6, 1 / 100, true⟩)).isSome &&
      (c₁.update defaultParameters ⟨standing, 50 * 10 ^ 6, 1 / 100, true⟩).executed.any fun s =>
        s.command.type.isMotion && decide (s.command.generation ≤ c.inbox.motionGeneration))
    (by decide +kernel)
  obtain ⟨hlatched, hP⟩ := Bool.and_eq_true_iff.mp hP
  obtain ⟨c₁, hc₁, hP⟩ := (Option.any_eq_true _ _).mp hP
  simp only [Bool.and_eq_true, Bool.not_eq_true', Option.any_eq_true, beq_iff_eq,
    decide_eq_true_eq, Option.isSome_iff_exists] at hP
  obtain ⟨⟨⟨hclear, c₂, hc₂, hmode⟩, c', hc'⟩, s, hs, hmotion, hold⟩ := hP
  refine ⟨c, c₁, c₂, hc, hlatched, hc₁, hclear, hc₂, hmode, fun hall => ?_⟩
  have hnewer := (hall c' hc').1 _ _ rfl (.executed hs hmotion)
  exact absurd hnewer (not_lt.mpr hold)

/-- The native command asks for no motion, or has been consumed or cancelled. -/
def NativeTaken (c : LiftController otg) : Prop :=
  c.inbox.commandBuffer.type.isMotion = true →
    c.inbox.commandBuffer.generation = c.consumedGeneration ∨
      c.inbox.commandBuffer.generation ≤ c.inbox.cancellationGeneration

/-- No command is left over that could still begin a motion.  In the mode of the emergency stop the
next cycle takes the native command. -/
structure NothingLeft (c : LiftController otg) : Prop where
  native : c.mode = .estop ∨ NativeTaken c
  heavy : c.inbox.heavyCommandBuffer.type.isMotion = true →
    c.consumedHeavyCommandGeneration = c.inbox.heavyCommandGeneration ∨
      c.inbox.heavyCommandBuffer.generation ≤ c.inbox.cancellationGeneration
  trajectory : c.trajectories.pending = none ∨
    c.trajectories.consumedGeneration = c.trajectories.pendingGeneration ∨
      c.trajectories.pendingGeneration ≤ c.inbox.cancellationGeneration
  gate : c.mode = .brakeGate → c.gatedCommandValid = true →
    c.gatedCommand.type = .trajectory ∧ c.trajectories.active = none

instance (c : LiftController otg) : Decidable (NativeTaken c) :=
  inferInstanceAs (Decidable (_ → _))

instance (c : LiftController otg) : Decidable (NothingLeft c) :=
  decidable_of_iff
    ((c.mode = .estop ∨ NativeTaken c) ∧
      (c.inbox.heavyCommandBuffer.type.isMotion = true →
        c.consumedHeavyCommandGeneration = c.inbox.heavyCommandGeneration ∨
          c.inbox.heavyCommandBuffer.generation ≤ c.inbox.cancellationGeneration) ∧
      (c.trajectories.pending = none ∨
        c.trajectories.consumedGeneration = c.trajectories.pendingGeneration ∨
          c.trajectories.pendingGeneration ≤ c.inbox.cancellationGeneration) ∧
      (c.mode = .brakeGate → c.gatedCommandValid = true →
        c.gatedCommand.type = .trajectory ∧ c.trajectories.active = none))
    ⟨fun h => ⟨h.1, h.2.1, h.2.2.1, h.2.2.2⟩,
      fun h => ⟨h.native, h.heavy, h.trajectory, h.gate⟩⟩

/-- An emergency stop is cleared only when no command is left over, and no cycle that cannot read
its state interfaces leaves the mode of the emergency stop while a native command waits. -/
def ClearsClean (c : LiftController otg) : Event → Prop
  | .driverStatus _ report =>
    c.driver.estopLatched = true → report.estopLatched = false → NothingLeft c
  | .update i => i.state.finite = false → c.mode = .estop → NativeTaken c
  | _ => True

instance (c : LiftController otg) : ∀ e, Decidable (ClearsClean c e)
  | .driverStatus _ report => inferInstanceAs (Decidable
      (c.driver.estopLatched = true → report.estopLatched = false → NothingLeft c))
  | .update i => inferInstanceAs (Decidable
      (i.state.finite = false → c.mode = .estop → NativeTaken c))
  | .jog _ | .stream _ | .trajectory _ | .command _ | .stop | .hold | .heavyCommand _
  | .leaseGate _ | .activate _ | .deactivate _ => inferInstanceAs (Decidable True)

theorem NothingLeft.onlyNewer (h : NothingLeft c) (hc : Numbered c) :
    OnlyNewer c.inbox.motionGeneration c where
  numbered := hc
  bound := le_rfl
  native := h.native.imp id fun htaken hmotion _ => htaken hmotion
  heavy := fun hmotion _ => h.heavy hmotion
  trajectory := fun _ => h.trajectory
  gate := by
    intro command hwaits hactive
    obtain ⟨hmode, hvalid, rfl⟩ := hwaits
    obtain ⟨htype, hnone⟩ := h.gate hmode hvalid
    have hsome := hactive htype
    rw [hnone] at hsome
    cases hsome

/-- Behind an emergency stop that is cleared with no command left over, no cycle acts on a command
that came in before the clearing. -/
theorem nothing_older_after_estop {before later : List Event} {c c₁ : LiftController otg} {now : ℕ}
    {report : DriverReport} (h : Runs.exec (step p) (configured p) before = some c)
    (hlatched : c.driver.estopLatched = true)
    (hclear : c.step p (.driverStatus now report) = some c₁)
    (hreport : report.estopLatched = false)
    (hclean : Runs.Meets (step p) ClearsClean c (.driverStatus now report :: later)) :
    Runs.Throughout (step p) (BeginsNewer p c.inbox.motionGeneration) c₁ later := by
  have hnumbered := (onlyNewer_zero p h).numbered
  have hleft := (hclean.1 hlatched hreport).onlyNewer hnumbered
  have hc₁ := hleft.callback (publishes_step p hnumbered rfl hclear) (keepsLoop_step p c rfl hclear)
  refine Runs.throughout_of_meets (I := OnlyNewer c.inbox.motionGeneration) (C := ClearsClean)
    ?_ ?_ hc₁ (hclean.2 c₁ hclear)
  · intro d e d' hd hcleans hstep
    refine hd.step p hstep fun i he hfinite hestop hmotion _ => ?_
    subst he
    exact hcleans hfinite hestop hmotion
  · rintro d e d' hd - - i n rfl hn
    exact hd.begins p i hn

/-- A jog waits behind the brake gate when the emergency stop comes, and its cycle runs. -/
def gatedEstopRun : List Event :=
  [.activate standing, .driverStatus (10 * 10 ^ 6) readyReport, .jog (.finite (-1 / 100)),
    .update ⟨standing, 20 * 10 ^ 6, 1 / 100, true⟩,
    .driverStatus (25 * 10 ^ 6) { readyReport with estopLatched := true },
    .update ⟨standing, 30 * 10 ^ 6, 1 / 100, true⟩]

/-- The lift rests behind the clearing until a new jog comes in. -/
def newJogRun : List Event :=
  [.update ⟨standing, 50 * 10 ^ 6, 1 / 100, true⟩, .jog (.finite (-2 / 100)),
    .update ⟨standing, 60 * 10 ^ 6, 1 / 100, true⟩, .update ⟨standing, 160 * 10 ^ 6, 1 / 100, true⟩]

theorem nothing_older_after_estop_newJogRun :
    ∃ c c₁ c₂ : LiftController immediateGenerator,
      Runs.exec (step defaultParameters) (configured defaultParameters) gatedEstopRun = some c ∧
      c.step defaultParameters clearEvent = some c₁ ∧
      Runs.exec (step defaultParameters) c₁ newJogRun = some c₂ ∧ c₂.mode = .jog ∧
      Runs.Throughout (step defaultParameters)
        (BeginsNewer defaultParameters c.inbox.motionGeneration) c₁ newJogRun := by
  obtain ⟨c, hc, -, hP⟩ := Runs.reachable_of_run (step defaultParameters)
    (configured defaultParameters : LiftController immediateGenerator) gatedEstopRun
    (fun c => c.driver.estopLatched && (c.step defaultParameters clearEvent).any (fun c₁ =>
      (Runs.exec (step defaultParameters) c₁ newJogRun).any fun c₂ => c₂.mode == .jog) &&
      Runs.passes (step defaultParameters) (fun c e => decide (ClearsClean c e)) c
        (clearEvent :: newJogRun)) (by decide +kernel)
  simp only [Bool.and_eq_true, Option.any_eq_true, beq_iff_eq] at hP
  obtain ⟨⟨hlatched, c₁, hc₁, c₂, hc₂, hmode⟩, hclean⟩ := hP
  exact ⟨c, c₁, c₂, hc, hc₁, hc₂, hmode, nothing_older_after_estop defaultParameters hc hlatched hc₁
    rfl (Runs.meets_of_passes (fun _ _ => of_decide_eq_true) hclean)⟩

end LiftController

end Lift

end JointController
