import JointController.Lift.Publication

/-!
# What a control cycle consumes

A cycle of the lift controller reads the generation that is announced for a buffer and the payload
of the buffer, and takes the generation for consumed.

* `ExecutesConsumed`: a cycle that consumes a safety or Heavy generation executes its payload.
* `RunsFrom`: a cycle after the intake of its commands.
* `PayloadsWritten`, `executesConsumed_iff`: that is so exactly when what waits is in its buffer.
-/

namespace JointController

namespace Lift

namespace LiftController

variable {otg : TrajectoryGenerator} (p : LiftParameters) (c : LiftController otg)

/-! ## What a cycle consumes -/

/-- A cycle that consumes a safety generation executes its payload or a newer one.  So does a cycle
that consumes a Heavy generation under an open lease gate, unless a newer safety command has
cancelled it.  (The closing edge of the gate discards the Heavy command.) -/
structure ExecutesConsumed (i : UpdateInput) : Prop where
  safety : (c.update p i).controller.consumedSafetyCommandGeneration ≠
      c.consumedSafetyCommandGeneration →
    ∃ command, (c.update p i).executed = some ⟨.safety, command⟩ ∧
      (c.update p i).controller.consumedSafetyCommandGeneration ≤ command.generation
  heavy : c.inbox.heavyLeaseActive = true →
    (c.update p i).controller.consumedHeavyCommandGeneration ≠ c.consumedHeavyCommandGeneration →
    (c.update p i).controller.consumedHeavyCommandGeneration ≤ c.inbox.cancellationGeneration ∨
      ∃ command, (c.update p i).executed = some ⟨.heavy, command⟩ ∧
        (c.update p i).controller.consumedHeavyCommandGeneration ≤ command.generation

/-- A safety generation is not consumed yet. -/
def safetyWaits : Bool := c.inbox.safetyCommandGeneration != c.consumedSafetyCommandGeneration

/-- A Heavy generation is not consumed yet, the lease gate is open and no newer safety command has
cancelled it. -/
def heavyWaits : Bool :=
  c.inbox.heavyLeaseActive && c.inbox.heavyCommandGeneration != c.consumedHeavyCommandGeneration &&
    decide (c.inbox.cancellationGeneration < c.inbox.heavyCommandGeneration)

/-- What waits is in its buffer when a cycle takes commands in. -/
structure PayloadsWritten (i : UpdateInput) : Prop where
  safety : i.state.finite = true → c.driver.estopLatched = false → c.safetyWaits = true →
    c.inbox.safetyCommandGeneration ≤ c.inbox.safetyCommandBuffer.generation
  heavy : i.state.finite = true → c.driver.estopLatched = false → c.safetyWaits = false →
    c.heavyWaits = true →
    c.inbox.heavyCommandGeneration ≤ c.inbox.heavyCommandBuffer.generation

/-- What the control loop has consumed has been announced. -/
structure ConsumedAnnounced : Prop where
  safety : c.consumedSafetyCommandGeneration ≤ c.inbox.safetyCommandGeneration
  heavy : c.consumedHeavyCommandGeneration ≤ c.inbox.heavyCommandGeneration

variable (i : UpdateInput) {c} {c' : LiftController otg}

/-- A cycle consumes what it selects. -/
theorem runCycle_consumed :
    (c.runCycle p i).controller.consumedSafetyCommandGeneration =
        c.selectCommand.2.consumedSafetyCommandGeneration ∧
      (c.runCycle p i).controller.consumedHeavyCommandGeneration =
        c.selectCommand.2.consumedHeavyCommandGeneration := by
  have hkeep := keepsCommands_runCycle p i c
  have hdispatch : SameIntake c.selectCommand.2 (c.dispatch p i).2 := by
    unfold dispatch
    split
    · exact (execute_spec p i c.selectCommand.2 _).1
    · exact ⟨rfl, rfl, rfl, rfl⟩
  exact ⟨hkeep.consumedSafety.trans hdispatch.consumedSafety,
    hkeep.consumedHeavy.trans hdispatch.consumedHeavy⟩

/-- The cycle runs from a controller that has taken its commands in. -/
structure RunsFrom (d : LiftController otg) : Prop where
  run : c.update p i = d.runCycle p i
  inbox : d.inbox = c.inbox
  safety : d.consumedSafetyCommandGeneration = c.consumedSafetyCommandGeneration
  heavy : c.inbox.heavyLeaseActive = true →
    d.consumedHeavyCommandGeneration = c.consumedHeavyCommandGeneration

theorem runsFrom_intake (hfinite : i.state.finite = true) (hestop : c.driver.estopLatched = false) :
    c.RunsFrom p i ((c.readStateInterfaces i).intake p i) where
  run := update_run p i c hfinite hestop
  inbox := intake_inbox p i (c.readStateInterfaces i)
  safety := (sameIntake_takeTrajectory p i _).consumedSafety.trans
    (keepsCommands_leaveEstop p (c.readStateInterfaces i)).consumedSafety
  heavy hlease := by
    rcases intake_consumedHeavy p i (c.readStateInterfaces i) with hkeep | ⟨hclosed, -⟩
    · exact hkeep
    · cases hlease.symm.trans hclosed

theorem selectCommand_safety (h : c.safetyWaits = true) :
    c.selectCommand = (some ⟨.safety, c.inbox.safetyCommandBuffer⟩,
      { c with consumedSafetyCommandGeneration := c.inbox.safetyCommandGeneration }) :=
  if_pos (bne_iff_ne.mp h)

theorem selectCommand_lease (h : c.safetyWaits = false) (hlease : c.inbox.heavyLeaseActive = true) :
    c.selectCommand =
      if c.inbox.heavyCommandGeneration ≠ c.consumedHeavyCommandGeneration then
        (some ⟨.heavy, c.inbox.heavyCommandBuffer⟩,
          { c with consumedHeavyCommandGeneration := c.inbox.heavyCommandGeneration })
      else (none, c) := by
  have hsame : ¬ c.inbox.safetyCommandGeneration ≠ c.consumedSafetyCommandGeneration :=
    not_not.mpr (bne_eq_false_iff_eq.mp h)
  unfold selectCommand
  rw [if_neg hsame, if_pos hlease]

theorem selectCommand_consumedSafety (h : c.safetyWaits = false) :
    c.selectCommand.2.consumedSafetyCommandGeneration = c.consumedSafetyCommandGeneration := by
  unfold selectCommand
  rw [if_neg (not_not.mpr (bne_eq_false_iff_eq.mp h))]
  split_ifs <;> rfl

section RunsFrom

variable {p i} {d : LiftController otg}

theorem RunsFrom.executed (h : c.RunsFrom p i d) : (c.update p i).executed = d.newCommand := by
  rw [h.run]
  rfl

theorem RunsFrom.safetyWaits (h : c.RunsFrom p i d) : d.safetyWaits = c.safetyWaits := by
  unfold LiftController.safetyWaits
  rw [h.inbox, h.safety]

theorem RunsFrom.consumed (h : c.RunsFrom p i d) :
    (c.update p i).controller.consumedSafetyCommandGeneration =
        d.selectCommand.2.consumedSafetyCommandGeneration ∧
      (c.update p i).controller.consumedHeavyCommandGeneration =
        d.selectCommand.2.consumedHeavyCommandGeneration := by
  rw [h.run]
  exact runCycle_consumed p i

theorem RunsFrom.kept (h : c.RunsFrom p i d) (hw : c.safetyWaits = false) :
    (c.update p i).controller.consumedSafetyCommandGeneration =
      c.consumedSafetyCommandGeneration := by
  rw [h.consumed.1, selectCommand_consumedSafety (h.safetyWaits.trans hw), h.safety]

/-- A waiting safety generation is consumed, and executed if its payload is written. -/
theorem RunsFrom.executesConsumed_safety (h : c.RunsFrom p i d) (hc : ConsumedAnnounced c)
    (hw : c.safetyWaits = true) :
    c.ExecutesConsumed p i ↔
      c.inbox.safetyCommandGeneration ≤ c.inbox.safetyCommandBuffer.generation := by
  have hselect := selectCommand_safety (h.safetyWaits.trans hw)
  obtain ⟨hsafety, hheavy⟩ := h.consumed
  rw [hselect] at hsafety hheavy
  rw [h.inbox] at hselect hsafety
  have hchanged : c.inbox.safetyCommandGeneration ≠ c.consumedSafetyCommandGeneration :=
    bne_iff_ne.mp hw
  constructor
  · intro hexecutes
    obtain ⟨command, hsome, hle⟩ := hexecutes.safety (by rw [hsafety]; exact hchanged)
    rw [hsafety] at hle
    rcases update_executed p i c hsome with ⟨-, hbuffer⟩ | ⟨hsource, -⟩ | ⟨hsource, -⟩
    · exact hbuffer ▸ hle
    · cases hsource
    · cases hsource
  · intro hle
    have hpos : c.inbox.safetyCommandBuffer.generation ≠ 0 := by
      have hannounced := hc.safety
      omega
    refine ⟨fun _ => ⟨c.inbox.safetyCommandBuffer, ?_, by rw [hsafety]; exact hle⟩,
      fun hlease hne => absurd (hheavy.trans (h.heavy hlease)) hne⟩
    rw [h.executed]
    unfold newCommand
    rw [hselect]
    exact Option.filter_eq_some_iff.mpr ⟨rfl, by simp [isNew, hpos]⟩

/-- A waiting Heavy generation is consumed, and executed if its payload is written. -/
theorem RunsFrom.executesConsumed_heavy (h : c.RunsFrom p i d) (hw : c.safetyWaits = false)
    (hlease : c.inbox.heavyLeaseActive = true) :
    c.ExecutesConsumed p i ↔ (c.heavyWaits = true →
      c.inbox.heavyCommandGeneration ≤ c.inbox.heavyCommandBuffer.generation) := by
  have hselect := selectCommand_lease (h.safetyWaits.trans hw) (by rw [h.inbox]; exact hlease)
  have hheavy := h.consumed.2
  have hkept := h.kept hw
  rw [h.inbox, h.heavy hlease] at hselect
  by_cases hpending : c.inbox.heavyCommandGeneration ≠ c.consumedHeavyCommandGeneration
  · rw [if_pos hpending] at hselect
    rw [hselect] at hheavy
    have hwaits : c.heavyWaits = true ↔
        c.inbox.cancellationGeneration < c.inbox.heavyCommandGeneration := by
      simp [heavyWaits, hlease, hpending]
    rw [hwaits]
    constructor
    · intro hexecutes hnewer
      rcases hexecutes.heavy hlease (by rw [hheavy]; exact hpending) with hcancelled | hsome
      · rw [hheavy] at hcancelled
        exact absurd hnewer (not_lt.mpr hcancelled)
      · obtain ⟨command, hsome, hle⟩ := hsome
        rw [hheavy] at hle
        rcases update_executed p i c hsome with ⟨hsource, -⟩ | ⟨-, hbuffer, -⟩ | ⟨hsource, -⟩
        · cases hsource
        · exact hbuffer ▸ hle
        · cases hsource
    · intro hwritten
      refine ⟨fun hne => absurd hkept hne, fun _ _ => ?_⟩
      rw [hheavy, or_iff_not_imp_left, not_le]
      intro hnewer
      have hle := hwritten hnewer
      have hlater : c.inbox.cancellationGeneration < c.inbox.heavyCommandBuffer.generation :=
        hnewer.trans_le hle
      have hpos : c.inbox.heavyCommandBuffer.generation ≠ 0 := Nat.ne_zero_of_lt hlater
      refine ⟨c.inbox.heavyCommandBuffer, ?_, hle⟩
      rw [h.executed]
      unfold newCommand
      rw [hselect]
      exact Option.filter_eq_some_iff.mpr ⟨rfl, by simp [isNew, hpos, hlater]⟩
  · rw [if_neg hpending] at hselect
    rw [hselect] at hheavy
    refine iff_of_true ⟨fun hne => absurd hkept hne, fun _ hne => ?_⟩ fun hwaiting => ?_
    · exact absurd (hheavy.trans (h.heavy hlease)) hne
    · simp [heavyWaits, not_not.mp hpending] at hwaiting

theorem RunsFrom.executesConsumed (h : c.RunsFrom p i d) (hc : ConsumedAnnounced c) :
    c.ExecutesConsumed p i ↔
      (c.safetyWaits = true →
        c.inbox.safetyCommandGeneration ≤ c.inbox.safetyCommandBuffer.generation) ∧
      (c.safetyWaits = false → c.heavyWaits = true →
        c.inbox.heavyCommandGeneration ≤ c.inbox.heavyCommandBuffer.generation) := by
  cases hw : c.safetyWaits with
  | true => simpa using h.executesConsumed_safety hc hw
  | false =>
    cases hlease : c.inbox.heavyLeaseActive with
    | true => simpa using h.executesConsumed_heavy hw hlease
    | false =>
      have hkept := h.kept hw
      refine iff_of_true ⟨fun hne => absurd hkept hne, fun hopen => ?_⟩
        ⟨fun hfalse => absurd hfalse Bool.false_ne_true, fun _ hwaiting => ?_⟩
      · cases hlease.symm.trans hopen
      · simp [heavyWaits, hlease] at hwaiting

end RunsFrom

/-- A cycle loses nothing exactly when the payloads that it reads are written. -/
theorem executesConsumed_iff (hc : ConsumedAnnounced c) :
    c.ExecutesConsumed p i ↔ c.PayloadsWritten i := by
  have hidle (hkeep : KeepsCommands c (c.update p i).controller) : c.ExecutesConsumed p i :=
    ⟨fun h => absurd hkeep.consumedSafety h, fun _ h => absurd hkeep.consumedHeavy h⟩
  have hread := keepsCommands_readStateInterfaces i c
  by_cases hfinite : i.state.finite = true
  · cases hestop : c.driver.estopLatched with
    | true =>
      have hkeep : KeepsCommands c (c.update p i).controller := by
        rw [update_estop p i c hfinite hestop]
        exact hread.trans (keepsCommands_estopCycle p i _)
      exact iff_of_true (hidle hkeep)
        ⟨fun _ hclear => absurd (hestop.symm.trans hclear) (by rintro ⟨⟩),
          fun _ hclear => absurd (hestop.symm.trans hclear) (by rintro ⟨⟩)⟩
    | false =>
      rw [(runsFrom_intake p i hfinite hestop).executesConsumed hc]
      exact ⟨fun h => ⟨fun _ _ => h.1, fun _ _ => h.2⟩,
        fun h => ⟨h.safety hfinite hestop, h.heavy hfinite hestop⟩⟩
  · have hkeep : KeepsCommands c (c.update p i).controller := by
      rw [update_nonFinite p i c (eq_false_of_ne_true hfinite)]
      exact hread.trans (keepsCommands_nonFiniteFault p _)
    exact iff_of_true (hidle hkeep) ⟨fun h => absurd h hfinite, fun h => absurd h hfinite⟩

theorem ConsumedAnnounced.keepsBuffers (hc : ConsumedAnnounced c) (h : KeepsBuffers c c') :
    ConsumedAnnounced c' where
  safety := by
    rw [show c'.inbox.safetyCommandGeneration = _ from h.generation .safety]
    rcases h.consumedSafety with hkept | htaken
    · exact hkept.trans_le hc.safety
    · exact htaken.le
  heavy := by
    rw [show c'.inbox.heavyCommandGeneration = _ from h.generation .heavy]
    rcases h.consumedHeavy with hkept | htaken
    · exact hkept.trans_le hc.heavy
    · exact htaken.le

end LiftController

end Lift

end JointController
