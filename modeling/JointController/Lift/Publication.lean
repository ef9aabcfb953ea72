import JointController.Lift.Superseded

/-!
# Publication of a command in two steps

A callback announces the generation of its command and then replaces the payload of the buffer.

* `Inbox.generation`, `Inbox.payload`, `Inbox.announce`, `Inbox.write`: the buffers by their source.
* `publication`: the command that a callback publishes.
* `beginPublication`, `endPublication`: the two steps of the callback.
* `step_publication`: together they are the callback.
* `KeepsBuffers`, `keepsBuffers_step`: what a step without a publication leaves alone.
* `endPublication_inbox`, `endPublication_consumed`: what the second step changes.
-/

namespace JointController

namespace Lift

/-! ## The buffers -/

namespace Inbox

variable (inbox : Inbox)

/-- The generation that is announced for a buffer. -/
def generation : Source → ℕ
  | .native => inbox.commandGeneration
  | .safety => inbox.safetyCommandGeneration
  | .heavy => inbox.heavyCommandGeneration

/-- The payload of a buffer. -/
def payload : Source → MotionCommand
  | .native => inbox.commandBuffer
  | .safety => inbox.safetyCommandBuffer
  | .heavy => inbox.heavyCommandBuffer

/-- The first step of a publication: the generation of the command is announced. -/
def announce : Source → Inbox
  | .native => inbox.announceCommand
  | .safety => inbox.announceSafetyCommand
  | .heavy => inbox.announceHeavyCommand

/-- The second step of a publication: the payload is replaced. -/
def write (command : MotionCommand) : Source → Inbox
  | .native => inbox.writeCommand command
  | .safety => inbox.writeSafetyCommand command
  | .heavy => inbox.writeHeavyCommand command

variable {inbox} {source other : Source} {command : MotionCommand}

@[simp] theorem announce_motionGeneration :
    (inbox.announce source).motionGeneration = inbox.nextMotionGeneration := by
  cases source <;> rfl

@[simp] theorem announce_payload : (inbox.announce source).payload other = inbox.payload other := by
  cases source <;> cases other <;> rfl

@[simp] theorem announce_generation :
    (inbox.announce source).generation source = inbox.nextMotionGeneration := by
  cases source <;> rfl

theorem announce_generation_of_ne (h : other ≠ source) :
    (inbox.announce source).generation other = inbox.generation other := by
  cases source <;> cases other <;> first | rfl | exact absurd rfl h

@[simp] theorem write_motionGeneration :
    (inbox.write command source).motionGeneration = inbox.motionGeneration := by
  cases source <;> rfl

@[simp] theorem write_generation :
    (inbox.write command source).generation other = inbox.generation other := by
  cases source <;> cases other <;> rfl

@[simp] theorem write_payload : (inbox.write command source).payload source = command := by
  cases source <;> rfl

theorem write_payload_of_ne (h : other ≠ source) :
    (inbox.write command source).payload other = inbox.payload other := by
  cases source <;> cases other <;> first | rfl | exact absurd rfl h

end Inbox

namespace LiftController

variable {otg : TrajectoryGenerator} (p : LiftParameters) (c : LiftController otg)

/-! ## The two steps of a callback -/

/-- The buffer and the command that a callback publishes, before the command is numbered. -/
def publication : Event → Option (Source × MotionCommand)
  | .jog velocity =>
    if ¬ velocity.isFinite ∨ c.nativeBlocked then none else some (.native, jogCommand p velocity)
  | .stream message =>
    match message.positions with
    | [] => none
    | position :: _ =>
      if ¬ position.isFinite ∨ c.nativeBlocked then none
      else some (.native,
        { type := .stream
          positionM := p.limits.clampPosition position
          velocityMps := firstFinite message.velocities
          accelerationMps2 := firstFinite message.accelerations
          velocityScale := .finite p.limits.defaultVelocityScale })
  | .command request =>
    if c.inbox.heavyLeaseActive ∨ c.driver.estopLatched then none
    else match request.jointNames, request.values with
    | [name], [value] =>
      if name ≠ jointName ∨ ¬ value.isFinite ∨ ¬ request.vel.isFinite ∨ ¬ request.acc.isFinite then
        none
      else some (.native, positionCommand p request (c.requestedTarget request.relative value))
    | _, _ => none
  | .stop => some (.safety, { type := .softStop })
  | .hold =>
    if c.inbox.active then
      some (.safety, { type := .hold, positionM := c.snapshot.measuredPosition })
    else none
  | .heavyCommand message =>
    if message.sequence ≤ c.inbox.admittedHeavySequence then none
    else (heavyTarget p message).map fun command => (.heavy, command)
  | .trajectory _ | .driverStatus _ _ | .leaseGate _ | .activate _ | .deactivate _ | .update _ =>
    none

/-- What a callback does before it announces its command. -/
def preparePublication : Event → LiftController otg
  | .stop | .hold => c.cancelPendingTrajectory c.inbox.nextMotionGeneration
  | .heavyCommand message => c.admitSequence message.sequence
  | _ => c

/-- The first step of a callback: the generation of its command is announced. -/
def beginPublication (e : Event) (source : Source) : LiftController otg :=
  let c := c.preparePublication e
  { c with inbox := c.inbox.announce source }

/-- A STOP or HOLD is done at once if the lift stands still already. -/
def completeAtRest (e : Event) (generation : ℕ) : LiftController otg :=
  match e with
  | .stop =>
    if ¬ c.inbox.active then c
    else if c.holdSnapshotIsSafe p ∧ ¬ c.powerEnableRequested then
      { c with appliedCancellationGeneration := generation }
    else c
  | .hold =>
    if c.holdSnapshotIsSafe p then { c with appliedCancellationGeneration := generation } else c
  | _ => c

/-- The second step of a callback: the payload of the buffer is replaced. -/
def endPublication (e : Event) (source : Source) (command : MotionCommand) : LiftController otg :=
  ({ c with inbox := c.inbox.write command source }).completeAtRest p e command.generation

theorem endPublication_safety {e : Event} (he : e = .stop ∨ e = .hold) (command : MotionCommand) :
    (c.beginPublication e .safety).endPublication p e .safety
        { command with generation := c.inbox.nextMotionGeneration } =
      (c.enqueueSafetyCommand command).completeAtRest p e c.inbox.nextMotionGeneration := by
  have hcancel : (c.cancelPendingTrajectory c.inbox.nextMotionGeneration).inbox = c.inbox :=
    (keepsCommands_cancelPendingTrajectory c _).inbox
  have hprepare : c.preparePublication e =
      c.cancelPendingTrajectory c.inbox.nextMotionGeneration := by
    rcases he with rfl | rfl <;> rfl
  unfold endPublication beginPublication enqueueSafetyCommand
  rw [hprepare]
  dsimp only
  rw [hcancel]
  rfl

/-- The two steps of a callback, one behind the other, are the callback. -/
theorem step_publication {e : Event} {source : Source} {command : MotionCommand}
    (h : c.publication p e = some (source, command)) :
    c.step p e = some ((c.beginPublication e source).endPublication p e source
      { command with generation := c.inbox.nextMotionGeneration }) := by
  unfold publication at h
  cases e with
  | jog velocity =>
    dsimp only at h
    split_ifs at h with hblocked
    obtain ⟨rfl, rfl⟩ := Prod.mk.inj (Option.some_inj.mp h)
    exact congrArg some (if_neg hblocked)
  | stream message =>
    dsimp only at h
    split at h
    · cases h
    · rename_i hpositions
      split_ifs at h with hblocked
      obtain ⟨rfl, rfl⟩ := Prod.mk.inj (Option.some_inj.mp h)
      unfold step streamCallback
      simp only [hpositions, if_neg hblocked]
      rfl
  | command request =>
    dsimp only at h
    split_ifs at h with hblocked
    rw [not_or] at hblocked
    split at h
    · rename_i hnames hvalues
      split_ifs at h with hrejected
      obtain ⟨rfl, rfl⟩ := Prod.mk.inj (Option.some_inj.mp h)
      unfold step commandService
      simp only [if_neg hblocked.1, if_neg hblocked.2, hnames, hvalues, if_neg hrejected]
      rfl
    · cases h
  | stop =>
    obtain ⟨rfl, rfl⟩ := Prod.mk.inj (Option.some_inj.mp h)
    rw [endPublication_safety p c (Or.inl rfl)]
    unfold step stopService completeAtRest
    dsimp only
    split_ifs <;> rfl
  | hold =>
    dsimp only at h
    split_ifs at h with hactive
    obtain ⟨rfl, rfl⟩ := Prod.mk.inj (Option.some_inj.mp h)
    rw [endPublication_safety p c (Or.inr rfl)]
    unfold step holdService completeAtRest
    dsimp only
    rw [if_neg (not_not.mpr hactive)]
    split_ifs <;> rfl
  | heavyCommand message =>
    dsimp only at h
    split_ifs at h with hold
    obtain ⟨target, htarget, hpair⟩ := Option.map_eq_some_iff.mp h
    obtain ⟨rfl, rfl⟩ := Prod.mk.inj hpair
    unfold step heavyCommandCallback
    simp only [if_neg hold, htarget]
    rfl
  | _ => cases h

variable (i : UpdateInput) {c} {c' : LiftController otg}

/-! ## What a step without a publication leaves alone -/

/-- No generation is announced and no payload is replaced, and what is consumed has been announced
before. -/
structure KeepsBuffers (c c' : LiftController otg) : Prop where
  generation : ∀ source, c'.inbox.generation source = c.inbox.generation source
  payload : ∀ source, c'.inbox.payload source = c.inbox.payload source
  motion : c.inbox.motionGeneration ≤ c'.inbox.motionGeneration
  consumedSafety : c'.consumedSafetyCommandGeneration = c.consumedSafetyCommandGeneration ∨
    c'.consumedSafetyCommandGeneration = c.inbox.safetyCommandGeneration
  consumedHeavy : c'.consumedHeavyCommandGeneration = c.consumedHeavyCommandGeneration ∨
    c'.consumedHeavyCommandGeneration = c.inbox.heavyCommandGeneration

theorem KeepsBuffers.refl : KeepsBuffers c c :=
  ⟨fun _ => rfl, fun _ => rfl, le_rfl, Or.inl rfl, Or.inl rfl⟩

theorem keepsBuffers_update : KeepsBuffers c (c.update p i).controller where
  generation source := by rw [update_inbox]
  payload source := by rw [update_inbox]
  motion := by rw [update_inbox]
  consumedSafety := by
    by_cases hsame : (c.update p i).controller.consumedSafetyCommandGeneration =
        c.consumedSafetyCommandGeneration
    · exact Or.inl hsame
    · exact Or.inr (update_consumedSafety p i c hsame).2.2
  consumedHeavy := update_consumedHeavy p i c

theorem keepsBuffers_activate {state : StateInterfaces} :
    KeepsBuffers c (c.onActivate p state) := by
  unfold onActivate
  dsimp only
  split
  · exact ⟨fun _ => rfl, fun _ => rfl, le_rfl, Or.inl rfl, Or.inl rfl⟩
  · exact ⟨by rintro ⟨⟩ <;> rfl, by rintro ⟨⟩ <;> rfl, le_rfl, Or.inr rfl, Or.inr rfl⟩

/-- A step that publishes no command keeps the buffers. -/
theorem keepsBuffers_step {e : Event} (h : c.publication p e = none)
    (hstep : c.step p e = some c') : KeepsBuffers c c' := by
  unfold publication at h
  cases e with
  | jog velocity =>
    obtain rfl := Option.some_inj.mp hstep
    dsimp only at h
    split_ifs at h with hblocked
    have hsame : c.jogCallback p velocity = c := if_pos hblocked
    exact hsame.symm ▸ .refl
  | stream message =>
    obtain rfl := Option.some_inj.mp hstep
    have hsame : c.streamCallback p message = c := by
      unfold streamCallback
      split
      · rfl
      · rename_i hpositions
        simp only [hpositions] at h
        split_ifs at h with hblocked
        exact if_pos hblocked
    exact hsame.symm ▸ .refl
  | trajectory message =>
    obtain rfl := Option.some_inj.mp hstep
    unfold trajectoryCallback
    split
    · exact .refl
    · exact ⟨by rintro ⟨⟩ <;> rfl, by rintro ⟨⟩ <;> rfl, Nat.le_succ _, Or.inl rfl, Or.inl rfl⟩
  | command request =>
    obtain rfl := Option.some_inj.mp hstep
    have hsame : (c.commandService p request).2 = c := by
      dsimp only at h
      unfold commandService
      by_cases hlease : c.inbox.heavyLeaseActive = true
      · rw [if_pos hlease]
      by_cases hestop : c.driver.estopLatched = true
      · rw [if_neg hlease, if_pos hestop]
      rw [if_neg (not_or.mpr ⟨hlease, hestop⟩)] at h
      rw [if_neg hlease, if_neg hestop]
      split
      · rename_i hnames hvalues
        simp only [hnames, hvalues] at h
        split_ifs at h with hrejected
        rw [if_pos hrejected]
      · rfl
    exact hsame.symm ▸ .refl
  | stop => cases h
  | hold =>
    obtain rfl := Option.some_inj.mp hstep
    dsimp only at h
    split_ifs at h with hactive
    unfold holdService
    rw [if_pos hactive]
    exact .refl
  | driverStatus now report =>
    obtain rfl := Option.some_inj.mp hstep
    unfold driverStatusCallback
    dsimp only
    split <;> exact ⟨fun _ => rfl, fun _ => rfl, le_rfl, Or.inl rfl, Or.inl rfl⟩
  | heavyCommand message =>
    obtain rfl := Option.some_inj.mp hstep
    dsimp only at h
    unfold heavyCommandCallback
    split_ifs at h with hold
    · rw [if_pos hold]
      exact .refl
    · have hnone : heavyTarget p message = none := by simpa using h
      rw [if_neg hold, hnone]
      exact ⟨by rintro ⟨⟩ <;> rfl, by rintro ⟨⟩ <;> rfl, le_rfl, Or.inl rfl, Or.inl rfl⟩
  | leaseGate data =>
    obtain rfl := Option.some_inj.mp hstep
    unfold leaseGateCallback
    split
    · exact ⟨by rintro ⟨⟩ <;> rfl, by rintro ⟨⟩ <;> rfl, le_rfl, Or.inl rfl, Or.inl rfl⟩
    · exact ⟨by rintro ⟨⟩ <;> rfl, by rintro ⟨⟩ <;> rfl, le_rfl, Or.inl rfl, Or.inl rfl⟩
  | activate state =>
    dsimp only [step] at hstep
    split_ifs at hstep
    obtain rfl := Option.some_inj.mp hstep
    exact keepsBuffers_activate p
  | deactivate state =>
    dsimp only [step] at hstep
    split_ifs at hstep
    obtain rfl := Option.some_inj.mp hstep
    exact ⟨by rintro ⟨⟩ <;> rfl, by rintro ⟨⟩ <;> rfl, le_rfl, Or.inl rfl, Or.inr rfl⟩
  | update input =>
    obtain ⟨-, rfl⟩ := update_of_step p c hstep
    exact keepsBuffers_update p input

/-! ## What the two steps change -/

theorem keepsBuffers_preparePublication (e : Event) : KeepsBuffers c (c.preparePublication e) := by
  have hcancel := keepsCommands_cancelPendingTrajectory c c.inbox.nextMotionGeneration
  have hsafety : KeepsBuffers c (c.cancelPendingTrajectory c.inbox.nextMotionGeneration) :=
    ⟨fun source => by rw [hcancel.inbox], fun source => by rw [hcancel.inbox],
      by rw [hcancel.inbox], Or.inl hcancel.consumedSafety, Or.inl hcancel.consumedHeavy⟩
  cases e with
  | stop => exact hsafety
  | hold => exact hsafety
  | heavyCommand message =>
    exact ⟨by rintro ⟨⟩ <;> rfl, by rintro ⟨⟩ <;> rfl, le_rfl, Or.inl rfl, Or.inl rfl⟩
  | _ => exact .refl

theorem preparePublication_motionGeneration (e : Event) :
    (c.preparePublication e).inbox.motionGeneration = c.inbox.motionGeneration := by
  have hcancel := keepsCommands_cancelPendingTrajectory c c.inbox.nextMotionGeneration
  cases e with
  | stop => exact congrArg _ hcancel.inbox
  | hold => exact congrArg _ hcancel.inbox
  | _ => rfl

theorem endPublication_inbox (e : Event) (source : Source) (command : MotionCommand) :
    (c.endPublication p e source command).inbox = c.inbox.write command source := by
  unfold endPublication completeAtRest
  cases e with
  | stop =>
    dsimp only
    split_ifs <;> rfl
  | hold =>
    dsimp only
    split_ifs <;> rfl
  | _ => rfl

theorem endPublication_consumed (e : Event) (source : Source) (command : MotionCommand) :
    (c.endPublication p e source command).consumedSafetyCommandGeneration =
        c.consumedSafetyCommandGeneration ∧
      (c.endPublication p e source command).consumedHeavyCommandGeneration =
        c.consumedHeavyCommandGeneration := by
  unfold endPublication completeAtRest
  cases e with
  | stop =>
    dsimp only
    split_ifs <;> exact ⟨rfl, rfl⟩
  | hold =>
    dsimp only
    split_ifs <;> exact ⟨rfl, rfl⟩
  | _ => exact ⟨rfl, rfl⟩

end LiftController

end Lift

end JointController
