import JointController.Hardware.Calls
import JointController.Hardware.Cycle

/-!
# The emergency stop of the lift hardware

A latched emergency stop holds until a safety reset is accepted.

* `write_latched`: the frame of a write while the emergency stop is latched.
* `frames_latched`: the frames of every other call.
* `asksForMotion`, `refuses_latched`: the services that are refused.
* `handle_latched`: nothing but an accepted safety reset clears the latch.
* `staysStopped`: along every run.
-/

namespace JointController

namespace Hardware

namespace LiftHardware

variable (p : HardwareParameters) (hw : LiftHardware) (i : WriteInput)

/-! ## The frames -/

/-- A latched emergency stop allows no motion and answers with a quick stop or a shutdown. -/
theorem decided_latched (hlatched : hw.estopLatched = true) : hw.allowsMotion p i = false ∧
    ((hw.decided p i).2.1 = 0x000b ∨ (hw.decided p i).2.1 = 0x0006) := by
  have hsampled : (hw.sampled p i).estopLatched = true :=
    (congrArg CycleConstants.estopLatched (hw.sampled_constants p i)).trans hlatched
  have hprepare : (hw.prepare p i).estopLatched = true :=
    (congrArg CycleConstants.estopLatched (hw.prepare_constants p i)).trans hlatched
  have henable : (hw.sampled p i).enableRequested p = false := by
    unfold enableRequested
    rw [hsampled, Bool.not_true, Bool.false_and, Bool.false_and, Bool.false_and]
  have hstopped := (hw.prepare p i).cia402.step_stopped
    ((hw.prepare p i).cia402Inputs p i ((hw.sampled p i).pdoFresh p i)
      ((hw.sampled p i).enableRequested p))
    (by unfold cia402Inputs; rw [henable, Bool.false_and])
    (by unfold cia402Inputs; rw [hprepare, Bool.not_true, Bool.and_false])
  refine ⟨hstopped.1, ?_⟩
  unfold decided decide402 finishQuickStop
  dsimp only
  split
  · exact Or.inr rfl
  · unfold homingWord
    rw [if_neg fun hboth => absurd (hstopped.1.symm.trans hboth.2) Bool.false_ne_true]
    exact hstopped.2

/-- While the emergency stop is latched a write sends no velocity, and a quick stop or a
shutdown. -/
theorem write_latched (hlatched : hw.estopLatched = true) {frame : LiftRxPdo}
    (hframe : (hw.write p i).frame = some frame) : frame.targetVelocityUnitsPerS = 0 ∧
      (frame.controlWord = 0x000b ∨ frame.controlWord = 0x0006) := by
  cases hactive : hw.active with
  | false =>
    rw [write_inactive p hw i hactive] at hframe
    exact absurd hframe.symm (Option.some_ne_none frame)
  | true =>
    rw [write_active p hw i hactive] at hframe
    obtain rfl := Option.some_inj.mp hframe
    obtain ⟨hallow, hword⟩ := hw.decided_latched p i hlatched
    refine ⟨?_, hword⟩
    by_contra hvelocity
    obtain ⟨-, hmotion, -⟩ := emit_velocity p _ i hvelocity
    exact absurd (hallow.symm.trans hmotion) Bool.false_ne_true

/-- A frame that asks for no motion and does not switch the drive on. -/
def StopFrame (frame : LiftRxPdo) : Prop :=
  frame.targetVelocityUnitsPerS = 0 ∧ Cia402Controller.enabling frame.controlWord = false

theorem stopFrame_of_disabled {frame : LiftRxPdo} (h : DisabledFrame frame) : StopFrame frame := by
  refine ⟨h.1, ?_⟩
  rcases h.2 with hword | hword
  · rw [hword]
    rfl
  · rw [hword]
    rfl

/-- While the emergency stop is latched no call sends a velocity or switches the drive on. -/
theorem frames_latched (hlatched : hw.estopLatched = true) (e : Event) :
    ∀ frame ∈ (hw.handle p e).frames, StopFrame frame := by
  intro frame hframe
  cases e with
  | write i =>
    obtain ⟨hvelocity, hword⟩ := hw.write_latched p i hlatched (Option.mem_toList.mp hframe)
    refine ⟨hvelocity, ?_⟩
    rcases hword with hword | hword
    · rw [hword]
      rfl
    · rw [hword]
      rfl
  | configure i =>
    have hnone : (hw.onConfigure p i).frames = [] := by
      unfold onConfigure
      split <;> rfl
    have hmem : frame ∈ (hw.onConfigure p i).frames := hframe
    rw [hnone] at hmem
    exact absurd hmem List.not_mem_nil
  | activate i =>
    refine stopFrame_of_disabled ?_
    have hbootstrap := bootstrap_disabled p i.rounds (hw.prepareActivation p i) {} ⟨rfl, Or.inl rfl⟩
    have hmem : frame ∈ (hw.onActivate p i).frames := hframe
    unfold onActivate at hmem
    split at hmem
    · exact absurd hmem List.not_mem_nil
    · dsimp only at hmem
      split at hmem
      · exact hbootstrap frame hmem
      · exact hbootstrap frame hmem
  | deactivate =>
    rcases List.mem_cons.mp hframe with rfl | hrest
    · exact ⟨rfl, rfl⟩
    · obtain rfl := List.mem_singleton.mp hrest
      exact ⟨rfl, rfl⟩
  | _ => exact absurd hframe List.not_mem_nil

/-! ## The services -/

/-- The requests to release the brake, to take over, to hold, to set a zero and to home. -/
def asksForMotion : Event → Bool
  | .brakeCommand data | .resetVelocity _ data | .resetHold _ data => data
  | .resetZero _ | .home _ | .setDriveZero _ => true
  | _ => false

/-- While the emergency stop is latched these requests are refused, and change nothing. -/
theorem refuses_latched (hlatched : hw.estopLatched = true) (e : Event)
    (hasks : asksForMotion e = true) : (hw.handle p e).hardware = hw ∧
      ∃ response, (hw.handle p e).response = some response ∧ response.success = false := by
  cases e with
  | brakeCommand data =>
    obtain rfl : data = true := hasks
    show (hw.handleBrakeCommand p true).2 = hw ∧
      ∃ response, some (hw.handleBrakeCommand p true).1 = some response ∧ response.success = false
    unfold handleBrakeCommand
    split
    · exact ⟨rfl, _, rfl, rfl⟩
    · rw [if_pos ⟨rfl, hlatched⟩]
      exact ⟨rfl, _, rfl, rfl⟩
  | resetVelocity now data =>
    obtain rfl : data = true := hasks
    show (hw.handleResetVelocity p now true).2 = hw ∧
      ∃ response, some (hw.handleResetVelocity p now true).1 = some response ∧
        response.success = false
    unfold handleResetVelocity
    rw [if_neg (not_not.mpr rfl), if_pos hlatched]
    exact ⟨rfl, _, rfl, rfl⟩
  | resetHold now data =>
    obtain rfl : data = true := hasks
    show (hw.handleResetHold p now true).2 = hw ∧
      ∃ response, some (hw.handleResetHold p now true).1 = some response ∧ response.success = false
    unfold handleResetHold
    rw [if_neg (not_not.mpr rfl), if_pos hlatched]
    exact ⟨rfl, _, rfl, rfl⟩
  | resetZero now =>
    show (hw.handleResetZero p now).2 = hw ∧
      ∃ response, some (hw.handleResetZero p now).1 = some response ∧ response.success = false
    unfold handleResetZero
    rw [if_pos hlatched]
    exact ⟨rfl, _, rfl, rfl⟩
  | home now =>
    show (hw.handleHome p now).2 = hw ∧
      ∃ response, (hw.handleHome p now).1 = some response ∧ response.success = false
    unfold handleHome
    rw [if_pos (Or.inl hlatched)]
    exact ⟨rfl, _, rfl, rfl⟩
  | setDriveZero now =>
    show (hw.handleSetDriveZero p now).2 = hw ∧
      ∃ response, (hw.handleSetDriveZero p now).1 = some response ∧ response.success = false
    unfold handleSetDriveZero
    rw [if_pos hlatched]
    exact ⟨rfl, _, rfl, rfl⟩
  | _ => exact absurd hasks.symm (by rintro ⟨⟩)

/-! ## The latch -/

/-- A safety reset is accepted. -/
def acceptsReset (e : Event) : Bool :=
  match e with
  | .safetyReset now => (hw.handleSafetyReset p now).1.success
  | _ => false

theorem safetyReset_refused {now : ℕ} (hlatched : hw.estopLatched = true)
    (hrefused : (hw.handleSafetyReset p now).1.success = false) :
    (hw.handleSafetyReset p now).2.estopLatched = true := by
  unfold handleSafetyReset at hrefused ⊢
  split
  · exact hlatched
  · rename_i hactive
    rw [if_neg hactive] at hrefused
    split
    · exact hlatched
    · rename_i hready
      rw [if_neg hready] at hrefused
      exact absurd hrefused.symm Bool.false_ne_true

/-- Nothing but an accepted safety reset clears the latch. -/
theorem handle_latched (hlatched : hw.estopLatched = true) (e : Event)
    (hreset : hw.acceptsReset p e = false) : (hw.handle p e).hardware.estopLatched = true := by
  have hcall {hw' : LiftHardware} {c : CallConstants} (h : hw'.callConstants = c)
      (hc : c.estopLatched = hw.estopLatched) : hw'.estopLatched = true :=
    (congrArg CallConstants.estopLatched h).trans (hc.trans hlatched)
  cases e with
  | read i => exact hcall (read_call p hw i) rfl
  | write i =>
    show (hw.write p i).hardware.estopLatched = true
    cases hactive : hw.active with
    | false =>
      rw [write_inactive p hw i hactive]
      exact hlatched
    | true =>
      exact (congrArg CycleConstants.estopLatched (hw.write_constants p i hactive)).trans hlatched
  | configure i =>
    show (hw.onConfigure p i).hardware.estopLatched = true
    unfold onConfigure
    split
    · exact hlatched
    · exact hlatched
  | activate i =>
    refine hcall (activate_call p hw i) ?_
    split <;> rfl
  | resetZero now => exact hcall (resetZero_call p hw now) rfl
  | estop => rfl
  | safetyReset now => exact safetyReset_refused p hw hlatched hreset
  | maintain m => exact hcall (maintain_call p hw m) rfl
  | publishStatus now saveOk => exact hcall (completePendingZero_call p hw now saveOk) rfl
  | _ => exact hcall (asks_call p hw _ rfl) rfl

/-! ## Along a run -/

/-- What a step does while the emergency stop is latched. -/
structure StaysStopped (p : HardwareParameters) (hw : LiftHardware) (e : Event)
    (hw' : LiftHardware) : Prop where
  -- the frames of a write, and those of any call
  writes : ∀ frame, writtenFrame p hw e = some frame → frame.targetVelocityUnitsPerS = 0 ∧
    (frame.controlWord = 0x000b ∨ frame.controlWord = 0x0006)
  frames : ∀ frame ∈ (hw.handle p e).frames, StopFrame frame
  refuses : asksForMotion e = true → hw' = hw ∧
    ∃ response, (hw.handle p e).response = some response ∧ response.success = false
  latched : hw'.estopLatched = true

theorem step_staysStopped {hw hw' : LiftHardware} {e : Event} (hlatched : hw.estopLatched = true)
    (hreset : ¬ hw.acceptsReset p e = true) (hstep : step p hw e = some hw') :
    StaysStopped p hw e hw' := by
  obtain ⟨-, rfl⟩ := (step_eq_some p).mp hstep
  refine ⟨?_, hw.frames_latched p hlatched e, hw.refuses_latched p hlatched e,
    hw.handle_latched p hlatched e (eq_false_of_ne_true hreset)⟩
  intro frame hframe
  cases e with
  | write i => exact hw.write_latched p i hlatched hframe
  | _ => exact absurd hframe.symm (Option.some_ne_none frame)

/-- The emergency stop: from the moment it is latched, and as long as no safety reset is accepted,
every step keeps it latched and the drive stopped. -/
theorem staysStopped {hw : LiftHardware} {calls : List Event} (hlatched : hw.estopLatched = true)
    (hreset : Runs.Meets (step p) (fun hw e => ¬ hw.acceptsReset p e = true) hw calls) :
    Runs.Throughout (step p) (StaysStopped p) hw calls :=
  Runs.throughout_of_meets (I := fun hw => hw.estopLatched = true)
    (fun _ _ _ hlatched hreset hstep => (step_staysStopped p hlatched hreset hstep).latched)
    (fun _ _ _ hlatched hreset hstep => step_staysStopped p hlatched hreset hstep)
    hlatched hreset

/-- The lift moves when the emergency stop is latched. -/
def estopCalls : List Event :=
  Bench.start 1 (-200000) ++ Bench.enable 10 (-200000) (-1 / 2) ++
    [Event.write (Bench.writeAt 13), .estop]

/-- Everything is tried but a safety reset. -/
def restartCalls : List Event :=
  [Event.write (Bench.writeAt 14), .brakeCommand true, .resetZero (Bench.time 14),
    .home (Bench.time 14), .resetVelocity (Bench.time 14) true, Bench.powerOn 0,
    Bench.readAt 15 0x0027 (-200000), .write (Bench.writeAt 15), .deactivate] ++
    Bench.start 20 (-200000) ++ Bench.enable 30 (-200000) (-1 / 2) ++
    [Event.write (Bench.writeAt 33)]

theorem staysStopped_restartCalls :
    ∃ hw, Runs.exec (step bench) (initial bench 0) estopCalls = some hw ∧
      (Runs.exec (step bench) hw restartCalls).isSome = true ∧
      Runs.Throughout (step bench) (StaysStopped bench) hw restartCalls := by
  have h : (Runs.exec (step bench) (initial bench 0) estopCalls).any (fun hw =>
      hw.estopLatched && (Runs.exec (step bench) hw restartCalls).isSome &&
        Runs.passes (step bench) (fun hw e => !hw.acceptsReset bench e) hw restartCalls) =
          true := by
    decide +kernel
  obtain ⟨hw, hexec, hall⟩ := (Option.any_eq_true _ _).mp h
  rw [Bool.and_eq_true, Bool.and_eq_true] at hall
  obtain ⟨⟨hlatched, hruns⟩, hpasses⟩ := hall
  have hmeets : Runs.Meets (step bench) (fun hw e => ¬ hw.acceptsReset bench e = true) hw
      restartCalls :=
    Runs.meets_of_passes (fun _ _ htest => by rw [Bool.not_eq_true'] at htest; rw [htest]; decide)
      hpasses
  exact ⟨hw, hexec, hruns, staysStopped bench hlatched hmeets⟩

/-- The services that end a takeover or a hold are not refused. -/
theorem ends_takeover_latched :
    ∃ hw, Runs.exec (step bench) (initial bench 0) estopCalls = some hw ∧ hw.estopLatched = true ∧
      ∀ e ∈ [Event.resetVelocity (Bench.time 14) false, Event.resetHold (Bench.time 14) false],
        hw.enabled e = true ∧
          (hw.handle bench e).response.map ServiceResponse.success = some true := by
  have h : (Runs.exec (step bench) (initial bench 0) estopCalls).any (fun hw =>
      hw.estopLatched &&
        [Event.resetVelocity (Bench.time 14) false, Event.resetHold (Bench.time 14) false].all
          fun e => hw.enabled e &&
            (hw.handle bench e).response.map ServiceResponse.success == some true) = true := by
    decide +kernel
  obtain ⟨hw, hexec, hboth⟩ := (Option.any_eq_true _ _).mp h
  rw [Bool.and_eq_true, List.all_eq_true] at hboth
  refine ⟨hw, hexec, hboth.1, fun e he => ?_⟩
  have hanswer := hboth.2 e he
  rw [Bool.and_eq_true, beq_iff_eq] at hanswer
  exact hanswer

end LiftHardware

end Hardware

end JointController
