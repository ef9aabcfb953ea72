import JointController.Arm.HeavyCommand
import JointController.Library.History
import JointController.Library.Outputs

/-!
# The order in which Heavy commands are applied

The executor takes the callbacks of the Heavy topics while the control cycle of the arm controller
runs, so that a cycle meets a command or an edge of the lease gate between any two of its accesses
to the shared markers.

* `Stage`, `ArmThreads`, `Label`, `ArmThreads.step`: the callbacks and the cycle, access by access.
* `Note`, `notes`: the commands that are applied and the acknowledgements.
* `cycle_eq_updateHeavy`: a cycle that is not interrupted is `updateHeavy`.
* `LeasesInOrder`, `AcknowledgesApplied`: what holds of every run, by `applies_in_order`.
-/

namespace JointController

namespace Arm

/-! ## The threads -/

/-- How far a control cycle has come, with the values that it has read. -/
inductive Stage where
  | idle
  -- heavy_lease_active
  | gated (leaseActive : Bool)
  | edged (leaseActive : Bool)
  -- heavy_generation, when it is a new one
  | loaded (generation : Option ℕ)
  -- heavy_setpoint
  | holding (setpoint : Option HeavyArmSetpoint)
  -- heavy_ack_sequence
  | applied (ack : Option ℕ)

/-- The arm controller with what its threads are doing: whether the callback has still to count its
command, and the stage of the cycle. -/
structure ArmThreads where
  controller : RobotController
  counting : Bool
  stage : Stage

/-- An access of one of the threads. -/
inductive Label where
  -- the callback of the accepted commands: writeFromNonRT, and the count
  | writeCommand (message : Command)
  | countCommand
  | gate (data : Bool)
  | deactivate
  /-- What else the controller does to its command processor. -/
  | processor (processor : CommandProcessor)
  /-- The next access of the cycle, with the setpoint that `readFromRT` returns there, if it is the
  one that reads the buffer. -/
  | cycle (read : HeavyArmSetpoint)

namespace RobotController

/-- `observeLeaseGate` with the lease gate that the cycle has read. -/
def observeEdge (r : RobotController) (leaseActive : Bool) : RobotController :=
  if ¬ leaseActive ∧ r.heavyLeaseActiveLastUpdate then
    { r with
      processor := { r.processor with externalPositionStreamActive := false }.requestPositionHold.2
      lastHeavySequence := 0
      consumedHeavyCommandGeneration := r.heavyCommandGeneration
      heavyLeaseActiveLastUpdate := false }
  else { r with heavyLeaseActiveLastUpdate := leaseActive }

/-- The generation of a command that the cycle has not seen. -/
def newGeneration (r : RobotController) (leaseActive : Bool) : Option ℕ :=
  if leaseActive ∧ r.heavyCommandGeneration ≠ r.consumedHeavyCommandGeneration then
    some r.heavyCommandGeneration
  else none

/-- A setpoint is applied when its sequence is a new one, and acknowledged when the processor takes
it. -/
def applySetpoint (p : ArmParameters) (r : RobotController) (setpoint : HeavyArmSetpoint) :
    Option ℕ × RobotController :=
  if r.lastHeavySequence < setpoint.sequence then
    match r.processor.applyHeavySetpoint p setpoint with
    | (.ok (), processor) =>
      (some setpoint.sequence,
        { r with processor := processor, lastHeavySequence := setpoint.sequence })
    | (.error _, processor) => (none, { r with processor := processor })
  else (none, r)

end RobotController

namespace ArmThreads

variable (p : ArmParameters) (s : ArmThreads)

/-- The threads after `on_configure`. -/
def start (processor : CommandProcessor) : ArmThreads where
  controller := .configured processor
  counting := false
  stage := .idle

/-- The cycle at its next access. -/
def cycleStep (read : HeavyArmSetpoint) : ArmThreads :=
  match s.stage with
  | .idle => { s with stage := .gated s.controller.heavyLeaseActive }
  | .gated leaseActive =>
    { s with controller := s.controller.observeEdge leaseActive, stage := .edged leaseActive }
  | .edged leaseActive => { s with stage := .loaded (s.controller.newGeneration leaseActive) }
  | .loaded none => { s with stage := .holding none }
  | .loaded (some generation) =>
    { s with
      controller := { s.controller with consumedHeavyCommandGeneration := generation }
      stage := .holding (some read) }
  | .holding none => { s with stage := .applied none }
  | .holding (some setpoint) =>
    let applied := s.controller.applySetpoint p setpoint
    { s with controller := applied.2, stage := .applied applied.1 }
  | .applied _ => { s with stage := .idle }

/-- The step of a label. -/
def step : Label → Option ArmThreads
  | .writeCommand message =>
    if s.counting then none
    else some
      { s with
        controller := { s.controller with heavyCommandBuffer := .ofCommand message }
        counting := true }
  | .countCommand =>
    if s.counting then some
      { s with
        controller := { s.controller with
          heavyCommandGeneration := s.controller.heavyCommandGeneration + 1 }
        counting := false }
    else none
  | .gate data => some { s with controller := s.controller.leaseGateCallback data }
  | .deactivate =>
    match s.stage with
    | .idle => some { s with controller := s.controller.onDeactivate }
    | _ => none
  | .processor processor =>
    some { s with controller := { s.controller with processor := processor } }
  | .cycle read => some (s.cycleStep p read)

/-! ## Applications and acknowledgements -/

/-- What a cycle does: it begins, it hands a setpoint to the command processor, which takes it, and
it publishes an acknowledgement. -/
inductive Note where
  | begun
  | applied (setpoint : HeavyArmSetpoint)
  | acknowledged (sequence : ℕ)

/-- What the next access of the cycle does. -/
def cycleNotes : List Note :=
  match s.stage with
  | .idle => [.begun]
  | .holding (some setpoint) =>
    if (s.controller.applySetpoint p setpoint).1.isSome then [.applied setpoint] else []
  | .applied (some sequence) => [.acknowledged sequence]
  | _ => []

/-- The notes of a step. -/
def notes : Label → List Note
  | .cycle _ => s.cycleNotes p
  | _ => []

/-- The sequence of a setpoint that was applied. -/
def appliedSequence : Note → Option ℕ
  | .applied setpoint => some setpoint.sequence
  | _ => none

/-- The sequences that were applied, the oldest first. -/
def appliedSequences (ns : List Note) : List ℕ := ns.filterMap appliedSequence

/-! ## A cycle without interruption -/

/-- The sequence of an acknowledgement. -/
def acknowledgedSequence : Note → Option ℕ
  | .acknowledged sequence => some sequence
  | _ => none

/-- The accesses of a cycle that is not interrupted and reads what was written last. -/
def wholeCycle : List Label := List.replicate 6 (.cycle s.controller.heavyCommandBuffer)

theorem consumeHeavy_none {r : RobotController}
    (h : r.newGeneration r.heavyLeaseActive = none) : r.consumeHeavy p = (none, r) := by
  unfold RobotController.newGeneration at h
  split at h
  · exact absurd h.symm (Option.some_ne_none _).symm
  · rename_i hold
    unfold RobotController.consumeHeavy
    rw [if_neg hold]

theorem consumeHeavy_some {r : RobotController} {generation : ℕ}
    (h : r.newGeneration r.heavyLeaseActive = some generation) :
    r.consumeHeavy p = RobotController.applySetpoint p
      { r with consumedHeavyCommandGeneration := generation } r.heavyCommandBuffer := by
  unfold RobotController.newGeneration at h
  split at h
  · rename_i hnew
    obtain rfl := Option.some_inj.mp h
    unfold RobotController.consumeHeavy
    rw [if_pos hnew]
    rfl
  · cases h

/-- The last accesses of a cycle that holds a setpoint. -/
theorem outputs_holding (r : RobotController) (setpoint read : HeavyArmSetpoint)
    (counting : Bool) :
    (Runs.outputs (step p) (notes p) ⟨r, counting, .holding (some setpoint)⟩
        (List.replicate 2 (.cycle read))).filterMap acknowledgedSequence =
      (r.applySetpoint p setpoint).1.toList := by
  show (List.filterMap acknowledgedSequence
    ((if (r.applySetpoint p setpoint).1.isSome then [Note.applied setpoint] else []) ++
      (cycleNotes p ⟨(r.applySetpoint p setpoint).2, counting,
        .applied (r.applySetpoint p setpoint).1⟩ ++ []))) = _
  cases (r.applySetpoint p setpoint).1 with
  | none => rfl
  | some sequence => rfl

/-- A cycle that is not interrupted is `updateHeavy`, and acknowledges what it acknowledges. -/
theorem cycle_eq_updateHeavy (hidle : s.stage = .idle) :
    ∃ t, Runs.exec (step p) s s.wholeCycle = some t ∧ t.stage = .idle ∧
      t.controller = (s.controller.updateHeavy p).2 ∧
      (Runs.outputs (step p) (notes p) s s.wholeCycle).filterMap acknowledgedSequence =
        (s.controller.updateHeavy p).1.toList := by
  obtain ⟨r, counting, stage⟩ := s
  obtain rfl : stage = .idle := hidle
  have hbuffer : r.observeLeaseGate.heavyCommandBuffer = r.heavyCommandBuffer := by
    unfold RobotController.observeLeaseGate
    split <;> rfl
  have hactive : r.observeLeaseGate.heavyLeaseActive = r.heavyLeaseActive := by
    unfold RobotController.observeLeaseGate
    split <;> rfl
  have hsplit : wholeCycle ⟨r, counting, .idle⟩ =
      List.replicate 3 (.cycle r.heavyCommandBuffer) ++
        List.replicate 3 (.cycle r.heavyCommandBuffer) := rfl
  have hfirst : Runs.exec (step p) ⟨r, counting, .idle⟩
      (List.replicate 3 (.cycle r.heavyCommandBuffer)) = some ⟨r.observeLeaseGate, counting,
        .loaded (r.observeLeaseGate.newGeneration r.heavyLeaseActive)⟩ := rfl
  have hfirstNotes : Runs.outputs (step p) (notes p) ⟨r, counting, .idle⟩
      (List.replicate 3 (.cycle r.heavyCommandBuffer)) = [.begun] := rfl
  rw [hsplit, Runs.exec_append, Runs.outputs_append hfirst, hfirst, hfirstNotes, Option.bind_some,
    RobotController.updateHeavy]
  rw [← hactive, ← hbuffer]
  cases hgeneration : r.observeLeaseGate.newGeneration r.observeLeaseGate.heavyLeaseActive with
  | none =>
    rw [consumeHeavy_none p hgeneration]
    exact ⟨_, rfl, rfl, rfl, rfl⟩
  | some generation =>
    rw [consumeHeavy_some p hgeneration]
    exact ⟨_, rfl, rfl, rfl, outputs_holding p _ _ _ _⟩

/-- The processor takes what is handed to it: the setpoint that is noted is a new one. -/
theorem applySetpoint_cases (r : RobotController) (setpoint : HeavyArmSetpoint) :
    (∃ processor, r.lastHeavySequence < setpoint.sequence ∧
      (r.processor.applyHeavySetpoint p setpoint).1 = .ok () ∧
      r.applySetpoint p setpoint = (some setpoint.sequence,
        { r with processor := processor, lastHeavySequence := setpoint.sequence })) ∨
    ∃ processor, r.applySetpoint p setpoint = (none, { r with processor := processor }) := by
  unfold RobotController.applySetpoint
  split
  · rename_i hnew
    split
    · rename_i processor heq
      exact Or.inl ⟨processor, hnew, by rw [heq], rfl⟩
    · rename_i processor heq
      exact Or.inr ⟨processor, rfl⟩
  · exact Or.inr ⟨r.processor, rfl⟩

/-- A step is an access of the cycle, or it notes nothing and leaves the cycle and the watermark. -/
theorem step_cases {s s' : ArmThreads} {l : Label} (h : step p s l = some s') :
    (∃ read, l = .cycle read ∧ s' = s.cycleStep p read) ∨
      notes p s l = [] ∧ s'.stage = s.stage ∧
        s'.controller.lastHeavySequence = s.controller.lastHeavySequence := by
  cases l with
  | writeCommand message =>
    simp only [step, Option.ite_none_left_eq_some, Option.some_inj] at h
    obtain ⟨-, rfl⟩ := h
    exact Or.inr ⟨rfl, rfl, rfl⟩
  | countCommand =>
    simp only [step, Option.ite_none_right_eq_some, Option.some_inj] at h
    obtain ⟨-, rfl⟩ := h
    exact Or.inr ⟨rfl, rfl, rfl⟩
  | gate data =>
    obtain rfl := Option.some_inj.mp h
    exact Or.inr ⟨rfl, rfl, rfl⟩
  | deactivate =>
    simp only [step] at h
    split at h
    · obtain rfl := Option.some_inj.mp h
      exact Or.inr ⟨rfl, rfl, rfl⟩
    · cases h
  | processor processor =>
    obtain rfl := Option.some_inj.mp h
    exact Or.inr ⟨rfl, rfl, rfl⟩
  | cycle read => exact Or.inl ⟨read, rfl, (Option.some_inj.mp h).symm⟩

/-! ## The order within a lease -/

/-- The lease gate is open. -/
def LeaseActive (s : ArmThreads) : Prop := s.controller.heavyLeaseActive = true

/-- The sequences that a lease has applied are strictly increasing and none of them is beyond the
watermark, and a cycle that has still to observe a closed gate has applied none of them. -/
structure InOrder (ns : List Note) (s : ArmThreads) : Prop where
  increasing : (appliedSequences ns).Pairwise (· < ·)
  bounded : ∀ k ∈ appliedSequences ns, k ≤ s.controller.lastHeavySequence
  fresh : s.stage = .gated false → appliedSequences ns = []

theorem appliedSequences_append (ns ns' : List Note) :
    appliedSequences (ns ++ ns') = appliedSequences ns ++ appliedSequences ns' :=
  List.filterMap_append

theorem InOrder.of_none {ns : List Note} {s : ArmThreads} (h : appliedSequences ns = []) :
    InOrder ns s where
  increasing := h ▸ List.Pairwise.nil
  bounded := by
    rw [h]
    exact fun k hk => absurd hk List.not_mem_nil
  fresh := fun _ => h

/-- A step that applies nothing and leaves the watermark. -/
theorem InOrder.of_quiet {ns ns' : List Note} {s t : ArmThreads} (h : InOrder ns s)
    (hns : appliedSequences ns' = [])
    (hlast : t.controller.lastHeavySequence = s.controller.lastHeavySequence)
    (hstage : t.stage = .gated false → s.stage = .gated false) : InOrder (ns ++ ns') t := by
  have hsame : appliedSequences (ns ++ ns') = appliedSequences ns := by
    rw [appliedSequences_append, hns, List.append_nil]
  refine ⟨?_, ?_, ?_⟩
  · rw [hsame]
    exact h.increasing
  · rw [hsame, hlast]
    exact h.bounded
  · intro hgated
    rw [hsame]
    exact h.fresh (hstage hgated)

/-- A setpoint beyond the watermark is applied. -/
theorem InOrder.of_applied {ns ns' : List Note} {s t : ArmThreads} (h : InOrder ns s) {k : ℕ}
    (hns : appliedSequences ns' = [k]) (hnew : s.controller.lastHeavySequence < k)
    (hlast : t.controller.lastHeavySequence = k) (hstage : t.stage ≠ .gated false) :
    InOrder (ns ++ ns') t := by
  refine ⟨?_, ?_, fun hgated => absurd hgated hstage⟩
  · rw [appliedSequences_append, hns, List.pairwise_append]
    refine ⟨h.increasing, List.pairwise_singleton _ k, fun a ha b hb => ?_⟩
    obtain rfl := List.mem_singleton.mp hb
    exact (h.bounded a ha).trans_lt hnew
  · rw [appliedSequences_append, hns, hlast]
    intro a ha
    rcases List.mem_append.mp ha with ha | ha
    · exact ((h.bounded a ha).trans_lt hnew).le
    · exact (List.mem_singleton.mp ha).le

/-- The next access of a cycle keeps the order while the lease gate is open. -/
theorem InOrder.cycleStep {ns : List Note} {s : ArmThreads} (hopen : s.LeaseActive)
    (h : InOrder ns s) (read : HeavyArmSetpoint) :
    InOrder (ns ++ s.cycleNotes p) (s.cycleStep p read) := by
  obtain ⟨r, counting, stage⟩ := s
  cases stage with
  | idle =>
    refine h.of_quiet rfl rfl ?_
    intro hgated
    -- the cycle reads the open gate
    have hclosed : r.heavyLeaseActive = false := Stage.gated.inj hgated
    exact absurd (hopen.symm.trans hclosed) Bool.noConfusion
  | gated leaseActive =>
    cases leaseActive with
    | true => exact h.of_quiet rfl rfl Stage.noConfusion
    | false =>
      have hnone : appliedSequences (ns ++ []) = [] := by
        rw [List.append_nil]
        exact h.fresh rfl
      exact .of_none hnone
  | edged leaseActive => exact h.of_quiet rfl rfl Stage.noConfusion
  | loaded generation =>
    cases generation with
    | none => exact h.of_quiet rfl rfl Stage.noConfusion
    | some generation => exact h.of_quiet rfl rfl Stage.noConfusion
  | holding setpoint =>
    cases setpoint with
    | none => exact h.of_quiet rfl rfl Stage.noConfusion
    | some setpoint =>
      show InOrder (ns ++ if (r.applySetpoint p setpoint).1.isSome then [.applied setpoint] else [])
        ⟨(r.applySetpoint p setpoint).2, counting, .applied (r.applySetpoint p setpoint).1⟩
      rcases applySetpoint_cases p r setpoint with ⟨processor, hnew, -, happlied⟩ |
        ⟨processor, hrefused⟩
      · rw [happlied]
        exact h.of_applied rfl hnew rfl Stage.noConfusion
      · rw [hrefused]
        exact h.of_quiet rfl rfl Stage.noConfusion
  | applied ack =>
    cases ack with
    | none => exact h.of_quiet rfl rfl Stage.noConfusion
    | some sequence => exact h.of_quiet rfl rfl Stage.noConfusion

theorem InOrder.step {ns : List Note} {s s' : ArmThreads} (hopen : s.LeaseActive)
    (h : InOrder ns s) {l : Label} (hstep : step p s l = some s') :
    InOrder (ns ++ notes p s l) s' := by
  rcases step_cases p hstep with ⟨read, rfl, rfl⟩ | ⟨hnotes, hstage, hlast⟩
  · exact h.cycleStep p hopen read
  · rw [hnotes]
    exact h.of_quiet rfl hlast fun hgated => hstage.symm.trans hgated

/-! ## Acknowledgements -/

/-- A cycle begins. -/
def isBegun : Note → Bool
  | .begun => true
  | _ => false

/-- The cycle that began last has applied a setpoint with a sequence, as the past shows, the newest
note first. -/
def AppliedInCycle (past : List Note) (sequence : ℕ) : Prop :=
  ∃ setpoint, Note.applied setpoint ∈ History.since isBegun past ∧ setpoint.sequence = sequence

/-- Every acknowledgement is published by the cycle that has handed the targets of its sequence to
the command processor. -/
def AcknowledgesApplied (ns : List Note) : Prop :=
  History.Justified (fun n past => ∀ sequence, n = .acknowledged sequence →
    AppliedInCycle past sequence) ns.reverse

theorem AcknowledgesApplied.snoc {ns : List Note} (h : AcknowledgesApplied ns) {n : Note}
    (hn : ∀ sequence, n = .acknowledged sequence → AppliedInCycle ns.reverse sequence) :
    AcknowledgesApplied (ns ++ [n]) := by
  rw [AcknowledgesApplied, List.reverse_append, List.reverse_singleton, List.singleton_append,
    History.justified_cons]
  exact ⟨hn, h⟩

/-- The acknowledgements so far are those of sequences that were applied, and a sequence that the
cycle is about to acknowledge has been applied by it. -/
structure Acknowledges (ns : List Note) (s : ArmThreads) : Prop where
  applied : AcknowledgesApplied ns
  held : ∀ sequence, s.stage = .applied (some sequence) → AppliedInCycle ns.reverse sequence

/-- A step that notes nothing and does not come to an acknowledgement. -/
theorem Acknowledges.of_quiet {ns : List Note} {s t : ArmThreads} (h : Acknowledges ns s)
    (hstage : ∀ sequence, t.stage = .applied (some sequence) → s.stage = .applied (some sequence)) :
    Acknowledges (ns ++ []) t := by
  rw [List.append_nil]
  exact ⟨h.applied, fun sequence hheld => h.held sequence (hstage sequence hheld)⟩

theorem Acknowledges.cycleStep {ns : List Note} {s : ArmThreads} (h : Acknowledges ns s)
    (read : HeavyArmSetpoint) : Acknowledges (ns ++ s.cycleNotes p) (s.cycleStep p read) := by
  obtain ⟨r, counting, stage⟩ := s
  cases stage with
  | idle =>
    exact ⟨h.applied.snoc fun _ hn => Note.noConfusion hn, fun _ hheld => Stage.noConfusion hheld⟩
  | gated leaseActive => exact h.of_quiet fun _ hheld => Stage.noConfusion hheld
  | edged leaseActive => exact h.of_quiet fun _ hheld => Stage.noConfusion hheld
  | loaded generation =>
    cases generation with
    | none => exact h.of_quiet fun _ hheld => Stage.noConfusion hheld
    | some generation => exact h.of_quiet fun _ hheld => Stage.noConfusion hheld
  | holding setpoint =>
    cases setpoint with
    | none =>
      exact h.of_quiet fun _ hheld => absurd (Stage.applied.inj hheld).symm (Option.some_ne_none _)
    | some setpoint =>
      show Acknowledges
        (ns ++ if (r.applySetpoint p setpoint).1.isSome then [.applied setpoint] else [])
        ⟨(r.applySetpoint p setpoint).2, counting, .applied (r.applySetpoint p setpoint).1⟩
      rcases applySetpoint_cases p r setpoint with ⟨processor, -, -, happlied⟩ |
        ⟨processor, hrefused⟩
      · rw [happlied]
        refine ⟨h.applied.snoc fun _ hn => Note.noConfusion hn, fun sequence hheld => ?_⟩
        refine ⟨setpoint, ?_, Option.some.inj (Stage.applied.inj hheld)⟩
        show Note.applied setpoint ∈ History.since isBegun (ns ++ [Note.applied setpoint]).reverse
        rw [List.reverse_append, List.reverse_singleton, List.singleton_append,
          History.since_cons_of_not_stop rfl]
        exact List.mem_cons_self
      · rw [hrefused]
        exact h.of_quiet fun _ hheld =>
          absurd (Stage.applied.inj hheld).symm (Option.some_ne_none _)
  | applied ack =>
    cases ack with
    | none => exact h.of_quiet fun _ hheld => Stage.noConfusion hheld
    | some sequence =>
      refine ⟨h.applied.snoc fun k hn => ?_, fun _ hheld => Stage.noConfusion hheld⟩
      obtain rfl := Note.acknowledged.inj hn
      exact h.held sequence rfl

theorem Acknowledges.step {ns : List Note} {s s' : ArmThreads} (h : Acknowledges ns s) {l : Label}
    (hstep : step p s l = some s') : Acknowledges (ns ++ notes p s l) s' := by
  rcases step_cases p hstep with ⟨read, rfl, rfl⟩ | ⟨hnotes, hstage, -⟩
  · exact h.cycleStep p read
  · rw [hnotes]
    exact h.of_quiet fun sequence hheld => hstage.symm.trans hheld

/-! ## Runs -/

/-- In every part of a run during which the lease gate is open, the sequences that are applied are
strictly increasing, so that none at or below the last one is applied again. -/
def LeasesInOrder (s : ArmThreads) (run : List Label) : Prop :=
  ∀ before lease after opened, run = before ++ lease ++ after →
    Runs.exec (step p) s before = some opened → Runs.Always (step p) LeaseActive opened lease →
    (appliedSequences (Runs.outputs (step p) (notes p) opened lease)).Pairwise (· < ·)

/-- In every run of the arm controller each lease applies its sequences in order, and a sequence is
acknowledged by the cycle that has applied it. -/
theorem applies_in_order (processor : CommandProcessor) (run : List Label) :
    LeasesInOrder p (start processor) run ∧
      AcknowledgesApplied (Runs.outputs (step p) (notes p) (start processor) run) := by
  refine ⟨fun before lease after opened _ _ hopen => ?_, ?_⟩
  · have hnone : InOrder [] opened := .of_none rfl
    exact Runs.outputs_invariant (I := InOrder)
      (Q := fun ns => (appliedSequences ns).Pairwise (· < ·))
      (fun _ _ _ _ hP hI hstep => hI.step p hP hstep) (fun _ _ hI => hI.increasing) hnone hopen
  · have hstart : Acknowledges [] (start processor) :=
      ⟨History.justified_nil _, fun _ hheld => Stage.noConfusion hheld⟩
    exact Runs.outputs_invariant (P := fun _ => True) (I := Acknowledges)
      (Q := AcknowledgesApplied) (fun _ _ _ _ _ hI hstep => hI.step p hstep)
      (fun _ _ hI => hI.applied) hstart (Runs.always_of_forall (fun _ => trivial) run _)

end ArmThreads

end Arm

end JointController
