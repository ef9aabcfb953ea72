import JointController.Lift.Consumed

/-!
# Control cycles between the two steps of a publication

The control loop runs in a thread of its own.  A cycle may run when a callback has announced its
command and has not replaced the payload yet.

* `Concurrent.step`: the callbacks, the control cycles and the publications under way, in any order.
* `exec_call_finish`: a callback that is not interrupted.
* `LosesNothing`: a cycle that consumes a safety or Heavy generation executes its payload.
* `stop_consumed_unexecuted`: a STOP is lost when a cycle runs between its two steps.
* `Serial`, `Slot`, `coherent_step`: what a buffer holds while its publications do not overlap.
* `Unsplit`, `losesNothing_iff_unsplit`: no generation is lost exactly when no cycle splits its
  publication.
-/

namespace JointController

namespace Lift

/-! ## Publications under way -/

/-- A publication whose generation is announced and whose payload is not replaced yet. -/
structure Publication where
  event : Event
  command : MotionCommand
  deriving DecidableEq

/-- The lift controller and the publications to each buffer that are under way. -/
structure Concurrent (otg : TrajectoryGenerator) where
  controller : LiftController otg
  underWay : Source → List Publication

namespace Concurrent

/-- A callback or a control cycle begins, or a publication ends. -/
inductive Label where
  | call (e : Event)
  | finish (source : Source) (n : ℕ)
  deriving DecidableEq

variable {otg : TrajectoryGenerator} (p : LiftParameters) (s : Concurrent otg)

/-- A callback has taken its first step. -/
def begun (e : Event) (source : Source) (command : MotionCommand) : Concurrent otg where
  controller := s.controller.beginPublication e source
  underWay := Function.update s.underWay source (s.underWay source ++
    [⟨e, { command with generation := s.controller.inbox.nextMotionGeneration }⟩])

/-- A publication to a buffer has taken its second step. -/
def ended (source : Source) (n : ℕ) (publication : Publication) : Concurrent otg where
  controller := s.controller.endPublication p publication.event source publication.command
  underWay := Function.update s.underWay source ((s.underWay source).eraseIdx n)

/-- A callback that publishes a command takes its first step.  Everything else is one step. -/
def step : Label → Option (Concurrent otg)
  | .call e =>
    match s.controller.publication p e with
    | some (source, command) => some (s.begun e source command)
    | none => (s.controller.step p e).map fun c => { s with controller := c }
  | .finish source n =>
    (s.underWay source)[n]?.map fun publication => s.ended p source n publication

theorem step_call_publishes {e : Event} {source : Source} {command : MotionCommand}
    (h : s.controller.publication p e = some (source, command)) :
    s.step p (.call e) = some (s.begun e source command) := by
  unfold step
  dsimp only
  rw [h]

theorem step_call_of_none {e : Event} (h : s.controller.publication p e = none) :
    s.step p (.call e) = (s.controller.step p e).map fun c => { s with controller := c } := by
  unfold step
  dsimp only
  rw [h]

theorem begun_underWay (e : Event) (source : Source) (command : MotionCommand) :
    (s.begun e source command).underWay source = s.underWay source ++
      [⟨e, { command with generation := s.controller.inbox.nextMotionGeneration }⟩] :=
  Function.update_self _ _ _

theorem ended_underWay (source : Source) (n : ℕ) (publication : Publication) :
    (s.ended p source n publication).underWay source = (s.underWay source).eraseIdx n :=
  Function.update_self _ _ _

/-- A controller with no publication under way. -/
def idle (c : LiftController otg) : Concurrent otg := ⟨c, fun _ => []⟩

/-- A callback whose two steps follow each other is a step of the controller. -/
theorem exec_call_finish {e : Event} {source : Source} {command : MotionCommand}
    {c' : LiftController otg} (h : s.controller.publication p e = some (source, command))
    (hstep : s.controller.step p e = some c') :
    Runs.exec (step p) s [.call e, .finish source (s.underWay source).length] =
      some { s with controller := c' } := by
  rw [LiftController.step_publication p _ h] at hstep
  obtain rfl := Option.some_inj.mp hstep
  rw [Runs.exec_cons, step_call_publishes p s h, Option.bind_some, Runs.exec_cons]
  unfold step ended begun
  simp [List.eraseIdx_append_of_length_le]

/-- No cycle loses a command that it consumes. -/
def LosesNothing (s : Concurrent otg) (l : Label) (_ : Concurrent otg) : Prop :=
  ∀ i, l = .call (.update i) → s.controller.ExecutesConsumed p i

/-- The lift moves when a STOP is announced. -/
def announcedStopRun : List Label :=
  [.call (.activate standing), .call (.driverStatus (10 * 10 ^ 6) readyReport),
    .call (.jog (.finite (-1 / 100))), .finish .native 0,
    .call (.update ⟨standing, 20 * 10 ^ 6, 1 / 100, true⟩),
    .call (.update ⟨standing, 120 * 10 ^ 6, 1 / 100, true⟩), .call .stop]

/-- A cycle runs before the payload of the STOP is replaced, and one after it. -/
def lateStopRun : List Label :=
  [.call (.update ⟨standing, 130 * 10 ^ 6, 1 / 100, true⟩), .finish .safety 0,
    .call (.update ⟨standing, 140 * 10 ^ 6, 1 / 100, true⟩)]

/-- The STOP counts as consumed, and the lift goes on moving. -/
theorem stop_consumed_unexecuted :
    ∃ s : Concurrent immediateGenerator,
      Runs.exec (step defaultParameters) (idle (LiftController.configured defaultParameters))
        (announcedStopRun ++ lateStopRun) = some s ∧
      s.controller.mode = .jog ∧ s.controller.inbox.safetyCommandBuffer.type = .softStop ∧
      s.controller.consumedSafetyCommandGeneration = s.controller.inbox.safetyCommandGeneration ∧
      ¬ Runs.Throughout (step defaultParameters) (LosesNothing defaultParameters)
        (idle (LiftController.configured defaultParameters : LiftController immediateGenerator))
        (announcedStopRun ++ lateStopRun) := by
  obtain ⟨s, hs, -, hP⟩ := Runs.reachable_of_run (step defaultParameters)
    (idle (LiftController.configured defaultParameters : LiftController immediateGenerator))
    announcedStopRun
    (fun s => ((Runs.exec (step defaultParameters) s lateStopRun).any fun s' =>
      s'.controller.mode == .jog && s'.controller.inbox.safetyCommandBuffer.type == .softStop &&
        s'.controller.consumedSafetyCommandGeneration ==
          s'.controller.inbox.safetyCommandGeneration) &&
      (s.step defaultParameters
        (.call (.update ⟨standing, 130 * 10 ^ 6, 1 / 100, true⟩))).isSome &&
      ((s.controller.update defaultParameters
          ⟨standing, 130 * 10 ^ 6, 1 / 100, true⟩).controller.consumedSafetyCommandGeneration !=
        s.controller.consumedSafetyCommandGeneration) &&
      (s.controller.update defaultParameters
        ⟨standing, 130 * 10 ^ 6, 1 / 100, true⟩).executed == none)
    (by decide +kernel)
  simp only [Bool.and_eq_true, Option.any_eq_true, beq_iff_eq, bne_iff_ne,
    Option.isSome_iff_exists] at hP
  obtain ⟨⟨⟨⟨s', hs', ⟨hmode, htype⟩, hconsumed⟩, t, ht⟩, hchanged⟩, hnone⟩ := hP
  have hexec : Runs.exec (step defaultParameters) (idle (LiftController.configured
      defaultParameters)) (announcedStopRun ++ lateStopRun) = some s' := by
    rw [Runs.exec_append, hs]
    exact hs'
  refine ⟨s', hexec, hmode, htype, hconsumed, fun hall => ?_⟩
  have hcycle := (hall.of_append hs t ht).1 _ rfl
  obtain ⟨command, hexecuted, -⟩ := hcycle.safety hchanged
  cases hnone.symm.trans hexecuted

/-! ## The condition -/

/-- The publications to the safety buffer do not overlap, nor do those to the Heavy buffer: a
callback publishes there when no other publication is under way. -/
def Serial (s : Concurrent otg) : Label → Prop
  | .call e => ∀ published ∈ s.controller.publication p e,
    published.1 ≠ .native → s.underWay published.1 = []
  | .finish _ _ => True

instance (l : Label) : Decidable (Serial p s l) := by
  cases l <;> unfold Serial <;> infer_instance

/-- No cycle that takes commands in runs between the two steps of a publication that it consumes. -/
def Unsplit (s : Concurrent otg) : Label → Prop
  | .call (.update i) => i.state.finite = true → s.controller.driver.estopLatched = false →
    (s.controller.safetyWaits = true → s.underWay .safety = []) ∧
      (s.controller.safetyWaits = false → s.controller.heavyWaits = true →
        s.underWay .heavy = [])
  | _ => True

instance : ∀ l, Decidable (Unsplit s l)
  | .call (.update i) => inferInstanceAs (Decidable
      (i.state.finite = true → s.controller.driver.estopLatched = false →
        (s.controller.safetyWaits = true → s.underWay .safety = []) ∧
          (s.controller.safetyWaits = false → s.controller.heavyWaits = true →
            s.underWay .heavy = [])))
  | .call (.jog _) | .call (.stream _) | .call (.trajectory _) | .call (.command _) | .call .stop
  | .call .hold | .call (.driverStatus _ _) | .call (.heavyCommand _) | .call (.leaseGate _)
  | .call (.activate _) | .call (.deactivate _) | .finish _ _ => inferInstanceAs (Decidable True)

/-- A buffer holds the payload that is announced, unless that payload is under way. -/
structure Slot (s : Concurrent otg) (source : Source) : Prop where
  announced : s.controller.inbox.generation source ≤ s.controller.inbox.motionGeneration
  written : (s.underWay source = [] ∧
      (s.controller.inbox.payload source).generation = s.controller.inbox.generation source) ∨
    ∃ publication, s.underWay source = [publication] ∧
      publication.command.generation = s.controller.inbox.generation source ∧
      (s.controller.inbox.payload source).generation < s.controller.inbox.generation source

/-- The safety and the Heavy buffer hold what is announced, and nothing else is consumed. -/
structure Coherent (s : Concurrent otg) : Prop where
  slot : ∀ source, source ≠ .native → Slot s source
  consumed : s.controller.ConsumedAnnounced

variable {s} {s' : Concurrent otg} {source other : Source}

theorem Slot.of_same (h : Slot s source)
    (hgeneration : s'.controller.inbox.generation source = s.controller.inbox.generation source)
    (hpayload : s'.controller.inbox.payload source = s.controller.inbox.payload source)
    (hmotion : s.controller.inbox.motionGeneration ≤ s'.controller.inbox.motionGeneration)
    (hunderWay : s'.underWay source = s.underWay source) : Slot s' source where
  announced := by
    rw [hgeneration]
    exact h.announced.trans hmotion
  written := by
    rw [hgeneration, hpayload, hunderWay]
    exact h.written

theorem Slot.le_payload (h : Slot s source) (hidle : s.underWay source = []) :
    (s.controller.inbox.payload source).generation ≤ s.controller.inbox.generation source := by
  rcases h.written with ⟨-, heq⟩ | ⟨publication, hone, -⟩
  · exact heq.le
  · rw [hone] at hidle
    cases hidle

/-- A payload is written exactly when its publication is not under way. -/
theorem Slot.le_payload_iff (h : Slot s source) :
    s.controller.inbox.generation source ≤ (s.controller.inbox.payload source).generation ↔
      s.underWay source = [] := by
  rcases h.written with ⟨hnone, heq⟩ | ⟨publication, hone, -, hlt⟩
  · exact iff_of_true heq.ge hnone
  · refine iff_of_false (not_le.mpr hlt) ?_
    rw [hone]
    exact List.cons_ne_nil _ _

/-- A callback takes its first step. -/
theorem Coherent.begun (h : Coherent s) {e : Event} {command : MotionCommand}
    (hserial : source ≠ .native → s.underWay source = []) :
    Coherent (s.begun e source command) := by
  have hprepare := LiftController.keepsBuffers_preparePublication (c := s.controller) e
  have hmotion := LiftController.preparePublication_motionGeneration (c := s.controller) e
  have hnext : (s.begun e source command).controller.inbox.motionGeneration =
      s.controller.inbox.nextMotionGeneration :=
    Inbox.announce_motionGeneration.trans (congrArg (· + 1) hmotion)
  have hannounced : (s.begun e source command).controller.inbox.generation source =
      s.controller.inbox.nextMotionGeneration :=
    Inbox.announce_generation.trans (congrArg (· + 1) hmotion)
  have hlater : s.controller.inbox.motionGeneration ≤
      (s.begun e source command).controller.inbox.motionGeneration :=
    hnext ▸ Nat.le_succ _
  have hpayload (other : Source) : (s.begun e source command).controller.inbox.payload other =
      s.controller.inbox.payload other := Inbox.announce_payload.trans (hprepare.payload other)
  have hothers {other : Source} (hne : other ≠ source) :
      (s.begun e source command).controller.inbox.generation other =
        s.controller.inbox.generation other :=
    (Inbox.announce_generation_of_ne hne).trans (hprepare.generation other)
  constructor
  · intro other hother
    have hslot := h.slot other hother
    by_cases hsame : other = source
    · subst hsame
      have hidle := hserial hother
      have hold : (s.controller.inbox.payload other).generation <
          s.controller.inbox.nextMotionGeneration :=
        Nat.lt_succ_of_le ((hslot.le_payload hidle).trans hslot.announced)
      have hqueue := begun_underWay s e other command
      rw [hidle, List.nil_append] at hqueue
      refine ⟨(hannounced.trans hnext.symm).le, Or.inr ⟨_, hqueue, hannounced.symm, ?_⟩⟩
      · rw [hpayload, hannounced]
        exact hold
    · exact hslot.of_same (hothers hsame) (hpayload other) hlater
        (Function.update_of_ne hsame _ _)
  · have hgrows (other : Source) (hother : other ≠ .native) :
        s.controller.inbox.generation other ≤
          (s.begun e source command).controller.inbox.generation other := by
      by_cases hsame : other = source
      · subst hsame
        rw [hannounced]
        exact (h.slot other hother).announced.trans (Nat.le_succ _)
      · exact (hothers hsame).ge
    have hconsumed := h.consumed.keepsBuffers hprepare
    exact ⟨(hconsumed.safety.trans (hprepare.generation .safety).le).trans
        (hgrows .safety (by rintro ⟨⟩)),
      (hconsumed.heavy.trans (hprepare.generation .heavy).le).trans
        (hgrows .heavy (by rintro ⟨⟩))⟩

/-- A publication takes its second step. -/
theorem Coherent.ended (h : Coherent s) {n : ℕ} {publication : Publication}
    (hn : (s.underWay source)[n]? = some publication) :
    Coherent (s.ended p source n publication) := by
  have hinbox : (s.ended p source n publication).controller.inbox =
      s.controller.inbox.write publication.command source :=
    LiftController.endPublication_inbox p _ source publication.command
  have hconsumed := LiftController.endPublication_consumed p (c := s.controller) publication.event
    source publication.command
  constructor
  · intro other hother
    have hslot := h.slot other hother
    by_cases hsame : other = source
    · subst hsame
      rcases hslot.written with ⟨hnone, -⟩ | ⟨pending, hone, hannounced, -⟩
      · rw [hnone] at hn
        cases hn
      · rw [hone, List.getElem?_singleton] at hn
        split_ifs at hn with hzero
        obtain rfl := Option.some_inj.mp hn
        refine ⟨?_, Or.inl ⟨?_, ?_⟩⟩
        · rw [hinbox, Inbox.write_generation, Inbox.write_motionGeneration]
          exact hslot.announced
        · rw [ended_underWay, hone, hzero]
          rfl
        · rw [hinbox, Inbox.write_payload, Inbox.write_generation]
          exact hannounced
    · refine hslot.of_same ?_ ?_ ?_ (Function.update_of_ne hsame _ _)
      · rw [hinbox, Inbox.write_generation]
      · rw [hinbox, Inbox.write_payload_of_ne hsame]
      · rw [hinbox, Inbox.write_motionGeneration]
  · have hkept (other : Source) :
        (s.ended p source n publication).controller.inbox.generation other =
        s.controller.inbox.generation other := by
      rw [hinbox, Inbox.write_generation]
    exact ⟨(hconsumed.1.trans_le h.consumed.safety).trans (hkept .safety).ge,
      (hconsumed.2.trans_le h.consumed.heavy).trans (hkept .heavy).ge⟩

theorem coherent_step {l : Label} (h : Coherent s) (hserial : Serial p s l)
    (hstep : s.step p l = some s') : Coherent s' := by
  cases l with
  | call e =>
    cases hpublishes : s.controller.publication p e with
    | some published =>
      obtain ⟨source, command⟩ := published
      rw [step_call_publishes p s hpublishes] at hstep
      obtain rfl := Option.some_inj.mp hstep
      exact h.begun (hserial (source, command) hpublishes)
    | none =>
      rw [step_call_of_none p s hpublishes] at hstep
      obtain ⟨c', hc', rfl⟩ := Option.map_eq_some_iff.mp hstep
      have hkeep := LiftController.keepsBuffers_step p hpublishes hc'
      exact ⟨fun source hsource => (h.slot source hsource).of_same (hkeep.generation source)
        (hkeep.payload source) hkeep.motion rfl, h.consumed.keepsBuffers hkeep⟩
  | finish source n =>
    obtain ⟨publication, hn, rfl⟩ := Option.map_eq_some_iff.mp hstep
    exact h.ended p hn

/-- A cycle loses nothing exactly when it does not split a publication. -/
theorem losesNothing_iff {l : Label} (h : Coherent s) :
    LosesNothing p s l s' ↔ Unsplit s l := by
  have hsafety := (h.slot .safety (by rintro ⟨⟩)).le_payload_iff
  have hheavy := (h.slot .heavy (by rintro ⟨⟩)).le_payload_iff
  have hupdate (i : UpdateInput) : LosesNothing p s (.call (.update i)) s' ↔
      s.controller.PayloadsWritten i := by
    rw [← LiftController.executesConsumed_iff p i h.consumed]
    refine ⟨fun hall => hall i rfl, fun hi j hj => ?_⟩
    obtain rfl : i = j := Event.update.inj (Label.call.inj hj)
    exact hi
  cases l with
  | call e =>
    cases e with
    | update i =>
      rw [hupdate]
      constructor
      · intro hwritten hfinite hestop
        exact ⟨fun hw => hsafety.mp (hwritten.safety hfinite hestop hw),
          fun hw hw' => hheavy.mp (hwritten.heavy hfinite hestop hw hw')⟩
      · intro hunsplit
        exact ⟨fun hfinite hestop hw => hsafety.mpr ((hunsplit hfinite hestop).1 hw),
          fun hfinite hestop hw hw' => hheavy.mpr ((hunsplit hfinite hestop).2 hw hw')⟩
    | _ => exact iff_of_true (by rintro i ⟨⟩) trivial
  | finish source n => exact iff_of_true (by rintro i ⟨⟩) trivial

theorem coherent_configured :
    Coherent (idle (LiftController.configured p : LiftController otg)) where
  slot source _ := by
    cases source <;> exact ⟨le_rfl, Or.inl ⟨rfl, rfl⟩⟩
  consumed := ⟨le_rfl, le_rfl⟩

/-- While the publications to a buffer do not overlap, no cycle loses a command that it consumes
exactly when no cycle splits its publication. -/
theorem losesNothing_iff_unsplit {run : List Label} {s : Concurrent otg}
    (hserial : Runs.Meets (step p) (Serial p)
      (idle (LiftController.configured p : LiftController otg)) run)
    (h : Runs.exec (step p) (idle (LiftController.configured p)) run = some s) :
    Runs.Throughout (step p) (LosesNothing p)
        (idle (LiftController.configured p : LiftController otg)) run ↔
      Runs.Meets (step p) Unsplit (idle (LiftController.configured p : LiftController otg)) run :=
  Runs.throughout_iff_meets_within (I := Coherent) (A := Serial p) (C := Unsplit)
    (R := LosesNothing p) (fun _ _ _ hs hA hstep => coherent_step p hs hA hstep)
    (fun _ _ _ hs _ _ => losesNothing_iff p hs) (coherent_configured p) hserial h

/-- The payload of the STOP is replaced before the next cycle. -/
def wholeStopRun : List Label :=
  announcedStopRun ++
    [Label.finish .safety 0, .call (.update ⟨standing, 130 * 10 ^ 6, 1 / 100, true⟩)]

theorem losesNothing_iff_unsplit_wholeStopRun :
    ∃ s : Concurrent immediateGenerator,
      Runs.exec (step defaultParameters) (idle (LiftController.configured defaultParameters))
        wholeStopRun = some s ∧ s.controller.mode = .hold ∧
      Runs.Throughout (step defaultParameters) (LosesNothing defaultParameters)
        (idle (LiftController.configured defaultParameters : LiftController immediateGenerator))
        wholeStopRun := by
  obtain ⟨s, hs, -, hmode⟩ := Runs.reachable_of_run (step defaultParameters)
    (idle (LiftController.configured defaultParameters : LiftController immediateGenerator))
    wholeStopRun (fun s => s.controller.mode == .hold) (by decide +kernel)
  have hserial : Runs.Meets (step defaultParameters) (Serial defaultParameters)
      (idle (LiftController.configured defaultParameters : LiftController immediateGenerator))
      wholeStopRun :=
    Runs.meets_of_passes (fun _ _ => of_decide_eq_true) (by decide +kernel)
  have hunsplit : Runs.Meets (step defaultParameters) Unsplit
      (idle (LiftController.configured defaultParameters : LiftController immediateGenerator))
      wholeStopRun :=
    Runs.meets_of_passes (fun _ _ => of_decide_eq_true) (by decide +kernel)
  exact ⟨s, hs, beq_iff_eq.mp hmode,
    (losesNothing_iff_unsplit defaultParameters hserial hs).mpr hunsplit⟩

end Concurrent

end Lift

end JointController
