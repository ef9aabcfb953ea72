import JointController.Hardware.CycleEffects

/-!
# The reason of a motion block

Whether a motion block comes with a reason code, and the published status with a text for it.

* `errorReasonText`, `detailedErrorReason`, `faultReason`: the text in the status.
* `Reasoned`: a block has a code, and the codes are those that have a text.
* `step_reasoned`: every call keeps this, unless it activates a blocked lift.
* `hasReason_iff`: along every run.
-/

namespace JointController

namespace Hardware

/-- `error_reason_text`. -/
def errorReasonText : ℕ → String
  | 1 => "PDO exchange failed"
  | 2 => "feedback coordinate jump exceeded max_feedback_jump_m"
  | 3 => "feedback position is outside software limits"
  | 4 => "zero offset persistence failed"
  | 5 => "actual velocity exceeded the configured mechanical limit"
  | 6 => "non-finite ros2_control command"
  | 7 => "CiA 402 fault or mode mismatch"
  | 8 => "emergency stop latched"
  | _ => ""

/-- `detailed_error_reason`.  The text of a feedback jump goes on with its details. -/
def detailedErrorReason (jumpDetails : String) (code : ℕ) : String :=
  if code ≠ 2 then errorReasonText code
  else "feedback coordinate jump: previous=" ++ jumpDetails

/-- A motion block has a code, and every code has a text. -/
structure BlockReasoned (motionBlocked : Bool) (code : ℕ) : Prop where
  coded : motionBlocked = true → code ≠ 0
  known : code ≤ 8

theorem BlockReasoned.clear : BlockReasoned false 0 :=
  ⟨fun h => absurd h Bool.false_ne_true, Nat.zero_le 8⟩

theorem BlockReasoned.of_step {b b' : Bool} {c c' : ℕ} (h : BlockReasoned b c)
    (hstep : BlockStep b c b' c') : BlockReasoned b' c' := by
  cases hstep with
  | keeps => exact h
  | clears => exact .clear
  | names _ _ hpos hle => exact ⟨fun _ => Nat.ne_of_gt hpos, hle⟩

theorem errorReasonText_ne_empty : ∀ code ≤ 8, code ≠ 0 → errorReasonText code ≠ "" := by decide

theorem detailedErrorReason_ne_empty {code : ℕ} (h0 : code ≠ 0) (h8 : code ≤ 8)
    (jumpDetails : String) : detailedErrorReason jumpDetails code ≠ "" := by
  by_cases hjump : code = 2
  · rw [detailedErrorReason, if_neg (not_not.mpr hjump)]
    intro hempty
    have hlength := congrArg String.length hempty
    rw [String.length_append] at hlength
    have hpos : 0 < "feedback coordinate jump: previous=".length := by decide
    have hzero : "".length = 0 := rfl
    omega
  · rw [detailedErrorReason, if_pos hjump]
    exact errorReasonText_ne_empty code h8 h0

namespace LiftHardware

variable (p : HardwareParameters) (hw : LiftHardware)

/-- The `fault_reason` of the published status. -/
def faultReason (jumpDetails : String) : String :=
  detailedErrorReason jumpDetails
    (if hw.motionBlocked then hw.latchedMotionReasonCode else hw.errorReasonCode)

/-- A motion block has a code, and every code has a text. -/
def Reasoned : Prop := BlockReasoned hw.motionBlocked hw.latchedMotionReasonCode

variable {hw}

theorem Reasoned.of_effect {hw' : LiftHardware} (h : hw.Reasoned) (heffect : CycleEffect hw hw') :
    hw'.Reasoned := h.of_step heffect.block

/-! ## Activations and maintenance handlers -/

/-- An activation that comes to its bootstrap clears the reason and leaves the block. -/
theorem onActivate_block (a : ActivateInput) (hready : hw.configured = true ∧ a.startOk = true) :
    (hw.onActivate p a).hardware.motionBlocked = hw.motionBlocked ∧
      (hw.onActivate p a).hardware.latchedMotionReasonCode = 0 := by
  have hbooted := bootstrap_keeps p
    (I := fun s => s.motionBlocked = hw.motionBlocked ∧ s.latchedMotionReasonCode = 0)
    (fun _ _ h => h) (fun _ _ _ _ _ h => h) a.rounds (hw.prepareActivation p a) {} ⟨rfl, rfl⟩
  unfold onActivate
  rw [if_neg (not_or.mpr ⟨not_not.mpr hready.1, not_not.mpr hready.2⟩)]
  dsimp only
  split
  · exact hbooted
  · exact hbooted

theorem onActivate_refused (a : ActivateInput) (h : ¬ (hw.configured = true ∧ a.startOk = true)) :
    (hw.onActivate p a).hardware = hw := by
  unfold onActivate
  rw [if_pos (not_and_or.mp h)]

theorem handleHome_reasoned (h : hw.Reasoned) (now : ℕ) : (hw.handleHome p now).2.Reasoned := by
  unfold handleHome
  repeat' first | exact h | split

theorem handleSetDriveZero_reasoned (h : hw.Reasoned) (now : ℕ) :
    (hw.handleSetDriveZero p now).2.Reasoned := by
  unfold handleSetDriveZero
  repeat' first | exact h | split

/-- A handler that looks again leaves the block and the brake alone, but for the completion of a
zero request. -/
theorem maintain_rule {I : LiftHardware → Prop} {m : MaintenanceInput}
    (hkeep : ∀ {a : LiftHardware}, I a → ∀ b : LiftHardware, b.motionBlocked = a.motionBlocked ∧
      b.latchedMotionReasonCode = a.latchedMotionReasonCode ∧
      b.brake.unlocked = a.brake.unlocked → I b)
    (hzero : ∀ {a : LiftHardware}, I a → I (a.completePendingZero p m.now m.saveOk))
    (h : I hw) : I (hw.maintain p m).2 := by
  unfold maintain
  split
  · exact h
  · unfold homeStopped
    repeat' first | exact hkeep h _ ⟨rfl, rfl, rfl⟩ | split
  · unfold homeSearched
    split <;> exact hkeep h _ ⟨rfl, rfl, rfl⟩
  · unfold homeDisabled
    dsimp only
    repeat' first | exact hkeep h _ ⟨rfl, rfl, rfl⟩ | split
  · have hdone := hzero h
    unfold homeSavesZero
    dsimp only
    split
    · exact hkeep h _ ⟨rfl, rfl, rfl⟩
    · repeat' first | exact hkeep hdone _ ⟨rfl, rfl, rfl⟩ | split
  · unfold driveZeroStopped
    dsimp only
    split
    · exact hkeep h _ ⟨rfl, rfl, rfl⟩
    · split
      · exact h
      · split
        · exact hkeep h _ ⟨rfl, rfl, rfl⟩
        · exact hzero (hkeep h _ ⟨rfl, rfl, rfl⟩)

theorem maintain_reasoned (h : hw.Reasoned) (m : MaintenanceInput) :
    (hw.maintain p m).2.Reasoned := by
  refine maintain_rule p (fun ha b hb => ?_)
    (fun {a} ha => ha.of_effect (completePendingZero_effect p a m.now m.saveOk)) h
  obtain ⟨hblocked, hcode, -⟩ := hb
  show BlockReasoned b.motionBlocked b.latchedMotionReasonCode
  rw [hblocked, hcode]
  exact ha

/-! ## Calls -/

/-- An activation does not come to its bootstrap while the motion is blocked. -/
def ActivatesUnblocked (hw : LiftHardware) (e : Event) : Prop :=
  ∀ a, e = .activate a → hw.configured = true → a.startOk = true → hw.motionBlocked = false

/-- Every call keeps the block and its reason together, unless it activates a blocked lift. -/
theorem step_reasoned {hw' : LiftHardware} {e : Event} (h : hw.Reasoned)
    (hactivates : ActivatesUnblocked hw e) (hstep : step p hw e = some hw') : hw'.Reasoned := by
  obtain ⟨-, rfl⟩ := (step_eq_some p).mp hstep
  cases hmaintains : e.maintains with
  | false => exact h.of_effect (handle_effect p hw hmaintains)
  | true =>
    cases e with
    | activate a =>
      show (hw.onActivate p a).hardware.Reasoned
      by_cases hready : hw.configured = true ∧ a.startOk = true
      · obtain ⟨hblocked, hcode⟩ := onActivate_block p a hready
        rw [Reasoned, hblocked, hcode, hactivates a rfl hready.1 hready.2]
        exact BlockReasoned.clear
      · rw [onActivate_refused p a hready]
        exact h
    | deactivate => exact h
    | home now => exact handleHome_reasoned p h now
    | setDriveZero now => exact handleSetDriveZero_reasoned p h now
    | maintain m => exact maintain_reasoned p h m
    | _ => exact absurd hmaintains Bool.noConfusion

/-! ## Runs -/

/-- A motion block comes with a nonzero reason code, and with a text in the published status. -/
def HasReason (hw : LiftHardware) : Prop :=
  hw.motionBlocked = true →
    hw.latchedMotionReasonCode ≠ 0 ∧ ∀ jumpDetails, hw.faultReason jumpDetails ≠ ""

theorem Reasoned.hasReason (h : hw.Reasoned) : hw.HasReason := by
  intro hblocked
  have hcode := h.coded hblocked
  refine ⟨hcode, fun jumpDetails => ?_⟩
  unfold faultReason
  rw [if_pos hblocked]
  exact detailedErrorReason_ne_empty hcode h.known jumpDetails

/-- The reason is not cleared without the block. -/
def ClearsTogether (hw : LiftHardware) (_ : Event) (hw' : LiftHardware) : Prop :=
  hw.latchedMotionReasonCode ≠ 0 → hw'.latchedMotionReasonCode = 0 → hw'.motionBlocked = false

theorem HasReason.clearsTogether {hw' : LiftHardware} {e : Event} (h : hw'.HasReason) :
    ClearsTogether hw e hw' := by
  intro _ hcode
  by_contra hblocked
  exact (h (eq_true_of_ne_false hblocked)).1 hcode

/-- In every run a motion block has its reason, and the reason is only cleared with the block,
exactly when no activation comes to its bootstrap while the motion is blocked. -/
theorem hasReason_iff (positionM : ℚ) (events : List Event) :
    (Runs.Always (step p) HasReason (initial p positionM) events ∧
        Runs.Throughout (step p) ClearsTogether (initial p positionM) events) ↔
      Runs.Meets (step p) ActivatesUnblocked (initial p positionM) events := by
  have hinitial : (initial p positionM).Reasoned := BlockReasoned.clear
  have halways : Runs.Always (step p) HasReason (initial p positionM) events ↔
      Runs.Meets (step p) ActivatesUnblocked (initial p positionM) events := by
    refine Runs.always_iff_meets_from (I := Reasoned) (fun _ _ _ h hC hstep =>
      step_reasoned p h hC hstep) (fun _ h => h.hasReason) ?_ ?_ hinitial
    · rintro s e s' h hstep hreason a rfl hconfigured hstart
      obtain ⟨-, rfl⟩ := (step_eq_some p).mp hstep
      obtain ⟨hblocked, hcode⟩ := onActivate_block p a ⟨hconfigured, hstart⟩
      by_contra hno
      exact (hreason (hblocked.trans (eq_true_of_ne_false hno))).1 hcode
    · rintro s e hdisabled a rfl
      -- an activation is always enabled
      exact absurd hdisabled (Option.some_ne_none _)
  refine ⟨fun h => halways.mp h.1, fun h => ⟨halways.mpr h, ?_⟩⟩
  exact Runs.throughout_of_meets (I := Reasoned)
    (fun _ _ _ h hC hstep => step_reasoned p h hC hstep)
    (fun _ _ _ h hC hstep => (step_reasoned p h hC hstep).hasReason.clearsTogether) hinitial h

/-- The position jumps by 300 mm, and the lift is deactivated and activated again. -/
def reactivation : List Event :=
  Bench.start 1 0 ++
    [Bench.readAt 7 0x0021 0, Bench.readAt 8 0x0021 300000, .deactivate] ++
    (Bench.start 9 300000).tail

/-- The lift that was activated again is blocked without a reason. -/
theorem not_hasReason_reactivation :
    ¬ Runs.Always (step bench) HasReason (initial bench 0) reactivation := by
  intro h
  obtain ⟨hw, hexec, -, hblocked⟩ := Runs.reachable_of_run (step bench) (initial bench 0)
    reactivation (fun hw => hw.motionBlocked && hw.latchedMotionReasonCode == 0) (by decide +kernel)
  rw [Bool.and_eq_true, beq_iff_eq] at hblocked
  exact ((h.last hexec) hblocked.1).1 hblocked.2

end LiftHardware

end Hardware

end JointController
