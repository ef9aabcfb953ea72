import JointController.Library.Observers
import JointController.Lift.FaultRecords
import JointController.Lift.System

/-!
# The faults that the lift controller reports

Each place that puts the controller into its fault mode records a fault there.  The status of the
controller shows the records, and gives a reason while the mode is shown as a fault.

* `driverGateFailureReason`: why the driver gate is not ready.
* `LiftController.faults`: the faults that a cycle records, with their details.
* `recordedStep`: the controller with its fault log.
* `EntersFault`: a stage of a cycle does not enter the fault mode by itself.
* `FaultsTold`, `faults_told`: what the status tells of the faults in every run.

The clock is read once in a cycle, and the status is published between two calls.  How numbers are
printed is a parameter.
-/

open Runs

namespace JointController

namespace Lift

/-! ## The details -/

/-- How a stream and `std::to_string` print a number. -/
structure NumberTexts where
  stream : Double → String
  fixed : Double → String

/-- `mode_name`. -/
def Mode.name : Mode → String
  | .hold => "hold"
  | .brakeGate => "brake_gate"
  | .position => "position"
  | .trajectory => "trajectory"
  | .jog => "jog"
  | .streaming => "streaming"
  | .softStop => "soft_stop"
  | .estop => "estop"
  | .fault => "fault"

namespace LiftController

variable {otg : TrajectoryGenerator} (t : NumberTexts) (p : LiftParameters) (i : UpdateInput)
  (c : LiftController otg)

/-- What `driver_gate_failure_reason` notes. -/
def driverGateNotes : List String :=
  let stamp := c.driver.statusNs
  let age : ℚ := ((i.now - stamp : ℕ) : ℚ) / 10 ^ 9
  (if stamp = 0 then ["driver_status=never_received"]
    else if stamp ≤ i.now ∧ p.driverStatusTimeoutSec < age then
      ["driver_status_age_sec=" ++ t.fixed (.finite age)]
    else []) ++
  (if ¬ c.driver.feedbackFresh then ["feedback_fresh=false"] else []) ++
  (if ¬ c.driver.ethercatOperational then ["ethercat_operational=false"] else []) ++
  (if ¬ c.driver.workingCounterOk then ["working_counter_ok=false"] else []) ++
  (if ¬ c.powerEnabledState then ["power_enabled_state=false"] else []) ++
  (if ¬ c.driver.operationEnabled then ["cia402_operation_enabled=false"] else []) ++
  (if c.driver.estopLatched then ["estop_latched=true"] else []) ++
  (if c.driver.errorCode ≠ 0 then ["driver_error_code=" ++ toString c.driver.errorCode] else []) ++
  (if c.driver.modeDisplay ≠ 9 then ["mode_display=" ++ toString c.driver.modeDisplay] else [])

/-- `driver_gate_failure_reason`. -/
def driverGateFailureReason : String :=
  let notes := c.driverGateNotes t p i
  if notes = [] then "none" else String.intercalate "," notes

/-- The limits that a fault of the profile names. -/
def limitsText : String :=
  " limits[max_velocity_mps=" ++ t.stream (.finite p.limits.maxVelocityMps) ++
    ",max_acceleration_mps2=" ++ t.stream (.finite p.limits.maxAccelerationMps2) ++
    ",max_jerk_mps3=" ++ t.stream (.finite p.limits.maxJerkMps3) ++ "]"

/-! ## The faults of a cycle -/

/-- The fault of state interfaces that are not finite. -/
def nonFiniteFaults : List Fault :=
  [⟨.nonFiniteStateInterfaces,
    "entry_mode=" ++ c.mode.name ++ " position=" ++ t.stream c.measuredPositionM ++
      " velocity=" ++ t.stream c.measuredVelocityMps ++
      " power_enable=" ++ t.stream i.state.powerEnabled⟩]

/-- The fault of a jog command whose velocity the profile rejects. -/
def jogFaults (command : MotionCommand) : List Fault :=
  if command.type = .jog ∧ c.mode = .jog ∧ c.driverGateReady p i.now ∧
      ¬ (c.profile.setVelocityTarget p.limits command.velocityMps command.velocityScale).1 then
    [⟨.invalidJogVelocity,
      "entry_mode=" ++ c.mode.name ++ " jog_velocity_mps=" ++ t.stream command.velocityMps ++
        " requested_velocity_scale=" ++ t.stream command.velocityScale ++ limitsText t p⟩]
  else []

/-- The fault of the command of a cycle. -/
def dispatchFaults : List Fault :=
  (c.newCommand.map fun s => (c.selectCommand.2.consume s).jogFaults t p i s.command).getD []

/-- The fault of a driver gate that is lost during motion. -/
def gateFaults : List Fault :=
  if c.mode ≠ .hold ∧ c.mode ≠ .brakeGate ∧ c.mode ≠ .estop ∧ ¬ c.driverGateReady p i.now ∧
      c.powerEnableRequested then
    [⟨.gateLostDuringMotion,
      "entry_mode=" ++ c.mode.name ++ " position=" ++ t.stream c.measuredPositionM ++
        " velocity=" ++ t.stream c.measuredVelocityMps ++
        " command_position=" ++ t.stream c.commandSample.positionM ++
        " command_velocity=" ++ t.stream c.commandSample.velocityMps ++
        " gate[" ++ c.driverGateFailureReason t p i ++ "]"⟩]
  else []

/-- The fault of a sample that the profile could not compute. -/
def sampleFaults : List Fault :=
  if c.commandSample.valid then []
  else
    [⟨.ruckigRejectedState,
      "entry_mode=" ++ c.mode.name ++ " position=" ++ t.stream c.measuredPositionM ++
        " velocity=" ++ t.stream c.measuredVelocityMps ++
        " profile_position=" ++ t.stream c.profile.state.positionM ++
        " profile_velocity=" ++ t.stream c.profile.state.velocityMps ++
        " profile_acceleration=" ++ t.stream c.profile.state.accelerationMps2 ++
        " profile_jerk=" ++ t.stream c.profile.state.jerkMps3 ++ limitsText t p⟩]

/-- The faults that a cycle records after the intake of commands, in their order. -/
def cycleFaults : List Fault :=
  let dispatched := c.dispatch p i
  let ran := (dispatched.2.checkDriverGate p i).runMode p i dispatched.1
  c.dispatchFaults t p i ++ dispatched.2.gateFaults t p i ++ ran.controller.sampleFaults t p

/-- The faults that `update` records. -/
def faults : List Fault :=
  let c := c.readStateInterfaces i
  if ¬ i.state.finite then c.nonFiniteFaults t i
  else if c.driver.estopLatched then []
  else (c.intake p i).cycleFaults t p i

end LiftController

/-! ## Who enters the fault mode -/

section

variable {otg : TrajectoryGenerator} {t : NumberTexts} {p : LiftParameters} {i : UpdateInput}
  {c c' c'' : LiftController otg}

/-- The step from one state to another does not enter the fault mode. -/
def Unfaulted (c c' : LiftController otg) : Prop := c'.mode = .fault → c.mode = .fault

/-- The step from one state to another only enters the fault mode with a fault. -/
def EntersFault (c c' : LiftController otg) (faults : List Fault) : Prop :=
  c'.mode = .fault → c.mode = .fault ∨ faults ≠ []

theorem Unfaulted.of_ne (h : c'.mode ≠ .fault) : Unfaulted c c' := fun hmode => absurd hmode h

theorem Unfaulted.of_eq (h : c'.mode = c.mode) : Unfaulted c c' := fun hmode => h.symm.trans hmode

theorem Unfaulted.trans (h : Unfaulted c c') (h' : Unfaulted c' c'') : Unfaulted c c'' :=
  fun hmode => h (h' hmode)

theorem Unfaulted.enters (h : Unfaulted c c') (faults : List Fault) : EntersFault c c' faults :=
  fun hmode => .inl (h hmode)

theorem EntersFault.append {faults faults' : List Fault} (h : EntersFault c c' faults)
    (h' : EntersFault c' c'' faults') : EntersFault c c'' (faults ++ faults') := by
  intro hmode
  rcases h' hmode with hmode' | hfaults
  · rcases h hmode' with hmode'' | hfaults
    · exact .inl hmode''
    · exact .inr fun hnil => hfaults (List.append_eq_nil_iff.mp hnil).1
  · exact .inr fun hnil => hfaults (List.append_eq_nil_iff.mp hnil).2

theorem EntersFault.after {faults : List Fault} (h : Unfaulted c c')
    (h' : EntersFault c' c'' faults) : EntersFault c c'' faults :=
  fun hmode => (h' hmode).imp_left h

theorem EntersFault.before {faults : List Fault} (h : EntersFault c c' faults)
    (h' : Unfaulted c' c'') : EntersFault c c'' faults := fun hmode => h (h' hmode)

theorem unfaulted_intake : Unfaulted c (c.intake p i) := by
  have hestop : Unfaulted c (c.leaveEstop p) := by
    unfold LiftController.leaveEstop
    split_ifs
    · exact .of_ne nofun
    · exact .of_eq rfl
  have htake (d : LiftController otg) : Unfaulted d (d.takeTrajectory p i) := by
    unfold LiftController.takeTrajectory
    split_ifs
    · unfold LiftController.discardNative LiftController.dropPendingTrajectory
      dsimp only
      split_ifs <;> exact .of_eq rfl
    · split
      · exact .of_ne nofun
      · exact .of_eq rfl
  exact (hestop.trans (.of_eq rfl)).trans (htake _)

theorem entersFault_executeJog {command : MotionCommand} (htype : command.type = .jog)
    (hmode : c.mode = .jog) (hready : c.driverGateReady p i.now = true) :
    EntersFault c (c.executeJog p i command) (c.jogFaults t p i command) := by
  unfold LiftController.executeJog LiftController.jogFaults
  dsimp only
  split_ifs with haccepted hrejected hrejected
  · exact Unfaulted.enters (.of_eq rfl) _
  · exact Unfaulted.enters (.of_eq rfl) _
  · exact fun _ => .inr (List.cons_ne_nil _ _)
  · exact absurd ⟨htype, hmode, hready, haccepted⟩ hrejected

theorem unfaulted_executeStop (s : Selection) : Unfaulted c (c.executeStop p s) := by
  have hstops := LiftController.stops_executeStop p c s
  generalize c.executeStop p s = d at hstops ⊢
  cases hstops with
  | hold => exact .of_ne nofun
  | brake => exact .of_ne nofun
  | softStop => exact .of_ne nofun

theorem unfaulted_beginBrakeGate (now : ℕ) (command : MotionCommand) :
    Unfaulted c (c'.beginBrakeGate p now command) := .of_ne nofun

theorem entersFault_execute (s : Selection) :
    EntersFault c (c.execute p i s).2 ((c.consume s).jogFaults t p i s.command) := by
  have hconsume : Unfaulted c (c.consume s) := by
    unfold LiftController.consume
    split_ifs <;> exact .of_eq rfl
  refine .after hconsume ?_
  unfold LiftController.execute LiftController.consume
  dsimp only
  generalize (if s.source = .native then { c with consumedGeneration := s.command.generation }
    else c) = d
  split
  · exact (unfaulted_executeStop s).enters _
  · split
    · exact Unfaulted.enters (.of_eq rfl) _
    · split
      · rename_i hjog
        exact entersFault_executeJog hjog.1 hjog.2.1 hjog.2.2
      · split
        · exact Unfaulted.enters (.of_eq rfl) _
        · split
          · exact (unfaulted_beginBrakeGate _ _).enters _
          · exact Unfaulted.enters (.of_eq rfl) _

theorem entersFault_dispatch : EntersFault c (c.dispatch p i).2 (c.dispatchFaults t p i) := by
  have hselect : Unfaulted c c.selectCommand.2 := by
    unfold LiftController.selectCommand
    split_ifs <;> exact .of_eq rfl
  refine .after hselect ?_
  unfold LiftController.dispatch LiftController.dispatchFaults
  cases c.newCommand with
  | none => exact Unfaulted.enters (.of_eq rfl) _
  | some s => exact entersFault_execute s

theorem entersFault_checkDriverGate :
    EntersFault c (c.checkDriverGate p i) (c.gateFaults t p i) := by
  unfold LiftController.checkDriverGate LiftController.gateFaults
  split_ifs
  · exact fun _ => .inr (List.cons_ne_nil _ _)
  · exact Unfaulted.enters (.of_eq rfl) _

theorem unfaulted_startTrajectoryPoint (index : ℕ) :
    Unfaulted c (c.startTrajectoryPoint p index).2 := by
  unfold LiftController.startTrajectoryPoint
  split <;> exact .of_eq rfl

theorem unfaulted_startGatedMotion (now : ℕ) : Unfaulted c (c.startGatedMotion p now) := by
  unfold LiftController.startGatedMotion
  split
  · exact .of_eq rfl
  · unfold LiftController.startGatedCommand
    dsimp only
    split
    · exact .of_ne nofun
    · split
      · exact .of_ne nofun
      · exact .of_ne nofun
    · exact .of_ne nofun
    · exact .of_ne nofun
    · exact .of_ne nofun

theorem unfaulted_motionCycle : Unfaulted c (c.motionCycle p i) := by
  have hnext (d : LiftController otg) : Unfaulted d (d.nextTrajectoryPoint p) := by
    unfold LiftController.nextTrajectoryPoint
    dsimp only
    split_ifs
    · exact Unfaulted.trans (.of_eq rfl) (unfaulted_startTrajectoryPoint _)
    · exact .of_ne nofun
    · exact .of_eq rfl
  unfold LiftController.motionCycle
  split_ifs
  · exact .of_ne nofun
  · unfold LiftController.trajectoryCycle
    dsimp only
    split_ifs
    · exact Unfaulted.trans (.of_eq rfl) (hnext _)
    · exact .of_eq rfl
  · exact .of_eq rfl
  · exact .of_eq rfl
  · exact .of_eq rfl

theorem unfaulted_runMode (streamSelected : Bool) :
    Unfaulted c (c.runMode p i streamSelected).controller := by
  have hstart := unfaulted_startGatedMotion (p := p) (c := c) i.now
  unfold LiftController.runMode LiftController.brakeGateCycle
  dsimp only
  split_ifs
  · exact .of_ne nofun
  · exact .of_eq rfl
  · exact hstart.trans (.of_eq rfl)
  · exact hstart
  · exact .of_eq rfl
  · exact .of_eq rfl
  · exact unfaulted_motionCycle

theorem entersFault_checkSample : EntersFault c (c.checkSample p) (c.sampleFaults t p) := by
  unfold LiftController.checkSample LiftController.sampleFaults
  split_ifs
  · exact Unfaulted.enters (.of_eq rfl) _
  · exact fun _ => .inr (List.cons_ne_nil _ _)

theorem unfaulted_finishSoftStop : Unfaulted c (c.finishSoftStop p) := by
  unfold LiftController.finishSoftStop
  dsimp only
  split_ifs
  · exact .of_ne nofun
  · exact .of_ne nofun
  · exact .of_eq rfl

theorem unfaulted_checkGoal : Unfaulted c (c.checkGoal p i) := by
  unfold LiftController.checkGoal
  split
  · exact .of_eq rfl
  · split
    · exact .of_eq rfl
    · split
      · exact .of_ne nofun
      · exact .of_eq rfl

theorem unfaulted_applyZeroFrameResync : Unfaulted c (c.applyZeroFrameResync p) := by
  unfold LiftController.applyZeroFrameResync
  split
  · exact .of_eq rfl
  · dsimp only
    split
    · unfold LiftController.reseat
      intro hmode
      dsimp only at hmode
      split_ifs at hmode with hlatched
      exact hmode
    · exact .of_eq rfl

/-- What follows the last stage of a cycle keeps the mode and shows it. -/
theorem shown_of_acknowledge {d : LiftController otg} {sample : LiftMotionSample}
    (s : Option Selection) (streamSelected : Bool)
    (hc : c' = ((((d.writeCommandInterfaces p sample).confirmPendingHold p).acknowledgeConsumed
      s).2.acknowledgeFollow p i streamSelected).2) :
    c'.mode = d.mode ∧ c'.snapshot.mode = d.mode := by
  have hconfirm (e : LiftController otg) :
      (e.confirmPendingHold p).mode = e.mode ∧ (e.confirmPendingHold p).snapshot = e.snapshot := by
    unfold LiftController.confirmPendingHold LiftController.failPendingHold
    split_ifs <;> exact ⟨rfl, rfl⟩
  have hconsumed (e : LiftController otg) :
      (e.acknowledgeConsumed s).2.mode = e.mode ∧
        (e.acknowledgeConsumed s).2.snapshot = e.snapshot := by
    unfold LiftController.acknowledgeConsumed
    split
    · split_ifs <;> exact ⟨rfl, rfl⟩
    · exact ⟨rfl, rfl⟩
  have hfollow (e : LiftController otg) :
      (e.acknowledgeFollow p i streamSelected).2.mode = e.mode ∧
        (e.acknowledgeFollow p i streamSelected).2.snapshot = e.snapshot := by
    unfold LiftController.acknowledgeFollow
    split_ifs <;> exact ⟨rfl, rfl⟩
  subst hc
  rw [(hfollow _).1, (hfollow _).2, (hconsumed _).1, (hconsumed _).2, (hconfirm _).1,
    (hconfirm _).2]
  exact ⟨rfl, rfl⟩

theorem estopCycle_mode :
    (c.estopCycle p i).mode = .estop ∧ (c.estopCycle p i).snapshot.mode = .estop := by
  unfold LiftController.estopCycle LiftController.dropPendingTrajectory
  dsimp only
  split_ifs <;> exact ⟨rfl, rfl⟩

/-- A cycle shows the mode that it ends in, and only enters the fault mode with a fault. -/
theorem entersFault_update :
    EntersFault c (c.update p i).controller (c.faults t p i) ∧
      (c.update p i).controller.snapshot.mode = (c.update p i).controller.mode := by
  unfold LiftController.update LiftController.faults
  dsimp only
  split_ifs
  · obtain ⟨hmode, hshown⟩ := estopCycle_mode (p := p) (i := i) (c := c.readStateInterfaces i)
    refine ⟨Unfaulted.enters (.of_ne ?_) _, hshown.trans hmode.symm⟩
    rw [hmode]
    exact nofun
  · have hread : Unfaulted c ((c.readStateInterfaces i).intake p i) :=
      Unfaulted.trans (.of_eq rfl) unfaulted_intake
    generalize (c.readStateInterfaces i).intake p i = d at hread ⊢
    unfold LiftController.runCycle LiftController.cycleFaults LiftController.finishCycle
    dsimp only
    have hdispatch : EntersFault d (d.dispatch p i).2 (d.dispatchFaults t p i) :=
      entersFault_dispatch
    generalize (d.dispatch p i) = dispatched at hdispatch ⊢
    have hgate : EntersFault dispatched.2 (dispatched.2.checkDriverGate p i)
        (dispatched.2.gateFaults t p i) := entersFault_checkDriverGate
    have hrun := unfaulted_runMode (p := p) (i := i) (c := dispatched.2.checkDriverGate p i)
      dispatched.1
    generalize (dispatched.2.checkDriverGate p i).runMode p i dispatched.1 = ran at hrun ⊢
    have hsample : EntersFault ran.controller (ran.controller.checkSample p)
        (ran.controller.sampleFaults t p) := entersFault_checkSample
    have hfinish : Unfaulted (ran.controller.checkSample p)
        ((((ran.controller.checkSample p).finishSoftStop p).checkGoal p i).applyZeroFrameResync
          p) :=
      (unfaulted_finishSoftStop.trans unfaulted_checkGoal).trans unfaulted_applyZeroFrameResync
    have hall := ((hdispatch.append hgate).before hrun).append (hsample.before hfinish)
    obtain ⟨hmode, hshown⟩ := shown_of_acknowledge (p := p) (i := i) d.selectCommand.1
      ran.streamSelected rfl
    refine ⟨?_, hshown.trans hmode.symm⟩
    refine .after hread (fun hfault => hall ?_)
    exact hmode.symm.trans hfault
  · exact ⟨fun _ => .inr (List.cons_ne_nil _ _), rfl⟩

end

/-! ## The controller with its log -/

section

variable {otg : TrajectoryGenerator} (t : NumberTexts) (p : LiftParameters)

/-- The log after an event. -/
def FaultLog.next (c : LiftController otg) (log : FaultLog) : Event → FaultLog
  | .update i => (c.faults t p i).foldl (fun log fault => log.record i.now fault) log
  | .activate state => if state.finite then log.rearm else log
  | _ => log

/-- The controller with its fault log. -/
def recordedStep (s : LiftController otg × FaultLog) (e : Event) :
    Option (LiftController otg × FaultLog) :=
  (s.1.step p e).map fun c => (c, s.2.next t p s.1 e)

/-- What has been recorded so far: the faults, the newest first, and their bursts. -/
structure FaultTrace where
  raised : List Fault
  bursts : Bursts

namespace FaultTrace

/-- Nothing has been recorded. -/
def empty : FaultTrace := ⟨[], .empty⟩

/-- A fault is recorded. -/
def add (now : ℕ) (trace : FaultTrace) (fault : Fault) : FaultTrace :=
  ⟨fault :: trace.raised, trace.bursts.record now fault⟩

/-- What is recorded in an event. -/
def note (s : LiftController otg × FaultLog) (e : Event) (trace : FaultTrace) : FaultTrace :=
  match e with
  | .update i => (s.1.faults t p i).foldl (FaultTrace.add i.now) trace
  | .activate state =>
    if state.finite then { trace with bursts := trace.bursts.rearm } else trace
  | _ => trace

end FaultTrace

/-- What the status tells of the faults.  It shows the last eight bursts and counts every fault; it
gives a reason exactly while the mode is shown as a fault, and that names the last fault. -/
structure FaultsTold (s : (LiftController otg × FaultLog) × FaultTrace) : Prop where
  history : s.1.2.history.toList = s.2.bursts.records.take faultHistoryCapacity
  total : s.1.2.total = s.2.raised.length
  counted : s.2.bursts.count = s.2.raised.length
  silent : s.1.1.snapshot.mode ≠ .fault → s.1.2.lastFaultText s.1.1.snapshot.mode = ""
  reason : s.1.1.snapshot.mode = .fault → ∃ fault rest detail, s.2.raised = fault :: rest ∧
    s.1.2.lastFaultText s.1.1.snapshot.mode = fault.code.text ++ detail

variable {t p}

/-! ## What is recorded -/

/-- The log shows the bursts of the trace, the newest of which is that of the last fault. -/
structure Told (log : FaultLog) (trace : FaultTrace) : Prop where
  refines : Refines log trace.bursts
  counted : trace.bursts.count = trace.raised.length
  newest : ∀ fault rest, trace.raised = fault :: rest → ∃ newest,
    trace.bursts.records.head? = some newest ∧ newest.code = fault.code.text

/-- A controller in its fault mode has recorded a fault. -/
structure Recorded (s : (LiftController otg × FaultLog) × FaultTrace) : Prop
    extends Told s.1.2 s.2 where
  faulted : s.1.1.mode = .fault ∨ s.1.1.snapshot.mode = .fault → s.2.raised ≠ []

theorem recorded_initial :
    Recorded (((LiftController.configured p : LiftController otg), .empty), .empty) where
  refines := refines_empty
  counted := rfl
  newest := fun _ _ h => absurd h.symm (List.cons_ne_nil _ _)
  faulted := fun h => h.elim (fun hmode => nomatch hmode) (fun hmode => nomatch hmode)

/-- A fault begins a burst or goes on with one of its kind. -/
theorem Bursts.record_spec (b : Bursts) (now : ℕ) (fault : Fault) :
    (b.record now fault).count = b.count + 1 ∧ ∃ newest,
      (b.record now fault).records.head? = some newest ∧ newest.code = fault.code.text := by
  unfold Bursts.record
  split_ifs with hcontinues
  · obtain ⟨-, newest, hnewest, hcode⟩ := Bursts.newest_of_continues hcontinues
    exact ⟨sum_modifyHead (fun _ => rfl) hnewest, _, head?_modifyHead hnewest, hcode⟩
  · obtain ⟨-, newest, hnewest, hcode⟩ := Bursts.newest_of_continues hcontinues
    exact ⟨sum_modifyHead (fun _ => rfl) hnewest, _, head?_modifyHead hnewest, hcode⟩
  · refine ⟨?_, _, rfl, rfl⟩
    unfold Bursts.count
    rw [List.map_cons, List.sum_cons]
    exact Nat.add_comm _ _

theorem Told.add {log : FaultLog} {trace : FaultTrace} (h : Told log trace) (now : ℕ)
    (fault : Fault) : Told (log.record now fault) (trace.add now fault) := by
  obtain ⟨hcount, hnewest⟩ := trace.bursts.record_spec now fault
  refine ⟨refines_record h.refines now fault, ?_, ?_⟩
  · exact hcount.trans (congrArg (· + 1) h.counted)
  · intro fault' rest hraised
    obtain ⟨rfl, -⟩ := List.cons.inj hraised
    exact hnewest

/-- The faults of a cycle are recorded one after the other. -/
theorem Told.addAll (now : ℕ) (faults : List Fault) :
    ∀ {log : FaultLog} {trace : FaultTrace}, Told log trace →
      Told (faults.foldl (fun log fault => log.record now fault) log)
          (faults.foldl (FaultTrace.add now) trace) ∧
        (trace.raised ≠ [] ∨ faults ≠ [] →
          (faults.foldl (FaultTrace.add now) trace).raised ≠ []) := by
  induction faults with
  | nil => exact fun h => ⟨h, fun hsome => hsome.elim id fun hnil => absurd rfl hnil⟩
  | cons fault faults ih =>
    intro log trace h
    obtain ⟨htold, hraised⟩ := ih (h.add now fault)
    exact ⟨htold, fun _ => hraised (.inl (List.cons_ne_nil _ _))⟩

theorem enqueueSafetyCommand_mode (c : LiftController otg) (command : MotionCommand) :
    (c.enqueueSafetyCommand command).mode = c.mode ∧
      (c.enqueueSafetyCommand command).snapshot.mode = c.snapshot.mode := by
  unfold LiftController.enqueueSafetyCommand LiftController.cancelPendingTrajectory
  dsimp only
  split_ifs <;> exact ⟨rfl, rfl⟩

theorem recorded_step (s : (LiftController otg × FaultLog) × FaultTrace) (e : Event)
    (s' : (LiftController otg × FaultLog) × FaultTrace) (h : Recorded s)
    (hstep : observed (recordedStep t p) (FaultTrace.note t p) s e = some s') : Recorded s' := by
  obtain ⟨⟨c, log⟩, trace⟩ := s
  obtain ⟨⟨c', log'⟩, trace'⟩ := s'
  obtain ⟨hstep, rfl⟩ := observed_eq_some.mp hstep
  obtain ⟨d, hd, heq⟩ := Option.map_eq_some_iff.mp hstep
  cases heq
  have hkeep (hmode : c'.mode = c.mode) (hshown : c'.snapshot.mode = c.snapshot.mode) :
      c'.mode = .fault ∨ c'.snapshot.mode = .fault → trace.raised ≠ [] := by
    rw [hmode, hshown]
    exact h.faulted
  cases e with
  | update i =>
    obtain ⟨-, hupdate⟩ := Option.ite_none_right_eq_some.mp hd
    obtain rfl := Option.some_inj.mp hupdate
    obtain ⟨henters, hshown⟩ := entersFault_update (t := t) (p := p) (i := i) (c := c)
    obtain ⟨htold, hraised⟩ := Told.addAll i.now (c.faults t p i) h.toTold
    refine ⟨htold, fun hfault => hraised ?_⟩
    rw [hshown, or_self] at hfault
    exact (henters hfault).imp_left fun hmode => h.faulted (.inl hmode)
  | activate state =>
    obtain ⟨-, hactivate⟩ := Option.ite_none_left_eq_some.mp hd
    obtain rfl := Option.some_inj.mp hactivate
    have hfaulted : (c.onActivate p state).mode = .fault ∨
        (c.onActivate p state).snapshot.mode = .fault → trace.raised ≠ [] := by
      unfold LiftController.onActivate
      dsimp only
      split_ifs
      · rintro (hmode | hshown)
        · cases hmode
        · exact h.faulted (.inl hshown)
      · exact h.faulted
    unfold FaultLog.next FaultTrace.note
    dsimp only
    split_ifs
    · exact ⟨⟨refines_rearm h.refines, h.counted, h.newest⟩, hfaulted⟩
    · exact ⟨h.toTold, hfaulted⟩
  | deactivate state =>
    obtain ⟨-, hdeactivate⟩ := Option.ite_none_right_eq_some.mp hd
    obtain rfl := Option.some_inj.mp hdeactivate
    refine ⟨h.toTold, ?_⟩
    rintro (hmode | hshown)
    · exact h.faulted (.inl hmode)
    · exact h.faulted (.inl hshown)
  | _ =>
    refine ⟨h.toTold, ?_⟩
    have hcases := LiftController.callback_cases p c rfl hd
    cases hcases with
    | safety _ command =>
      obtain ⟨hmode, hshown⟩ := enqueueSafetyCommand_mode c command
      exact hkeep hmode hshown
    | _ => exact hkeep rfl rfl

theorem Recorded.told {s : (LiftController otg × FaultLog) × FaultTrace} (h : Recorded s) :
    FaultsTold s where
  history := h.refines.history
  total := h.refines.total.trans h.counted
  counted := h.counted
  silent := fun hmode => by
    unfold FaultLog.lastFaultText
    rw [if_neg hmode]
  reason := fun hmode => by
    obtain ⟨fault, rest, hraised⟩ := List.exists_cons_of_ne_nil (h.faulted (.inr hmode))
    obtain ⟨newest, hnewest, hcode⟩ := h.newest fault rest hraised
    refine ⟨fault, rest, if newest.detail = "" then "" else ": " ++ newest.detail, hraised, ?_⟩
    unfold FaultLog.lastFaultText
    rw [if_pos hmode, h.refines.newest?, hnewest, Option.map_some, Option.getD_some, hcode]

variable (t p)

/-- In every run, the status tells of the faults what `FaultsTold` says. -/
theorem faults_told (es : List Event) :
    Throughout (observed (recordedStep t p) (FaultTrace.note t p)) (fun _ _ s' => FaultsTold s')
      (((LiftController.configured p : LiftController otg), FaultLog.empty), FaultTrace.empty)
      es :=
  throughout_of_invariant recorded_step
    (fun s e s' h hstep => (recorded_step s e s' h hstep).told) recorded_initial

end

end Lift

end JointController
