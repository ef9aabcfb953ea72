import JointController.Library.Observers
import JointController.Hardware.Calls
import JointController.Hardware.Cycle

/-!
# The request for a new zero

A request for a new zero is completed once a write has observed the controlled disable of the drive.

* `commitsZero`: a call completes a request, with `handle_offset`: no other call but a configuration
  changes the offset.
* `ZeroObserver`: whether a controlled disable has been sent since the last accepted request.
* `ObservesSent`: a request begins without an observation, and an observation is sent.
* `ObservationSent`, `step_observationSent`: the invariant.
* `commitsBehindDisable`: along every run whose calls all meet `ObservesSent`.
* `commit_without_disable`: an observation that is left over, and one that is not sent.
-/

namespace JointController

namespace Hardware

namespace LiftHardware

variable (p : HardwareParameters) (hw : LiftHardware) (i : WriteInput)

/-! ## The calls that complete a request -/

/-- A call completes a request for a new zero. -/
def commitsZero (e : Event) : Bool :=
  match e with
  | .publishStatus now _ => hw.zeroReady p now
  | .maintain m => hw.zero.requestPending && !(hw.maintain p m).2.zero.requestPending
  | _ => false

theorem zeroReady_spec {now : ℕ} (h : hw.zeroReady p now = true) :
    hw.zero.requestPending = true ∧ hw.zero.disableObserved = true := by
  unfold zeroReady at h
  simp only [Bool.and_eq_true] at h
  exact ⟨h.1.1.1.1.2, h.1.1.1.2⟩

/-- A completion either does nothing or ends the request. -/
theorem completePendingZero_zero (now : ℕ) (saveOk : Bool) :
    hw.zeroReady p now = false ∧ hw.completePendingZero p now saveOk = hw ∨
      hw.zeroReady p now = true ∧
        (hw.completePendingZero p now saveOk).zero.requestPending = false := by
  unfold completePendingZero
  split
  · rename_i h
    exact Or.inl ⟨eq_false_of_ne_true h, rfl⟩
  · rename_i h
    refine Or.inr ⟨not_not.mp h, ?_⟩
    dsimp only
    split
    · rfl
    · split <;> rfl

/-- What a maintenance handler does with the request: nothing, or it completes it, or it makes a new
one, without an observation. -/
theorem maintain_zero (m : MaintenanceInput) :
    ((hw.zero.requestPending = true ∧ hw.zero.disableObserved = true) ∧
      (hw.maintain p m).2.zero.requestPending = false) ∨
    ((hw.maintain p m).2.zero.requestPending = hw.zero.requestPending ∧
      (hw.maintain p m).2.zero.disableObserved = hw.zero.disableObserved ∧
      (hw.maintain p m).2.zero.offsetUnitsAtomic = hw.zero.offsetUnitsAtomic) ∨
    ((hw.maintain p m).2.zero.requestPending = true ∧
      (hw.maintain p m).2.zero.disableObserved = false ∧
      (hw.maintain p m).2.zero.offsetUnitsAtomic = hw.zero.offsetUnitsAtomic) := by
  have hkeep {hw' : LiftHardware} (h : hw'.zero = hw.zero) :
      hw'.zero.requestPending = hw.zero.requestPending ∧
        hw'.zero.disableObserved = hw.zero.disableObserved ∧
        hw'.zero.offsetUnitsAtomic = hw.zero.offsetUnitsAtomic := by
    rw [h]
    exact ⟨rfl, rfl, rfl⟩
  unfold maintain
  split
  · exact Or.inr (Or.inl (hkeep rfl))
  · refine Or.inr (Or.inl (hkeep ?_))
    unfold homeStopped
    repeat' first | rfl | split
  · refine Or.inr (Or.inl (hkeep ?_))
    unfold homeSearched
    split <;> rfl
  · unfold homeDisabled
    dsimp only
    split
    · exact Or.inr (Or.inl (hkeep rfl))
    · split
      · exact Or.inr (Or.inl (hkeep rfl))
      · split
        · exact Or.inr (Or.inl (hkeep rfl))
        · exact Or.inr (Or.inr ⟨rfl, rfl, rfl⟩)
  · unfold homeSavesZero
    dsimp only
    split
    · exact Or.inr (Or.inl (hkeep rfl))
    · rcases hw.completePendingZero_zero p m.now m.saveOk with ⟨-, hsame⟩ | ⟨hready, hdone⟩
      · rw [hsame]
        refine Or.inr (Or.inl (hkeep ?_))
        repeat' first | rfl | split
      · refine Or.inl ⟨hw.zeroReady_spec p hready, ?_⟩
        rw [if_neg (by rw [hdone]; exact Bool.false_ne_true)]
        split
        · exact hdone
        · exact hdone
  · unfold driveZeroStopped
    dsimp only
    split
    · exact Or.inr (Or.inl (hkeep rfl))
    · split
      · exact Or.inr (Or.inl (hkeep rfl))
      · split
        · exact Or.inr (Or.inl (hkeep rfl))
        · rcases completePendingZero_zero p { hw with
              homing := { hw.homing with driveZeroPending := false }
              maintenance := .idle
              zero := { hw.zero with generation := hw.zero.generation + 1 } } m.now m.saveOk with
            ⟨-, hsame⟩ | ⟨hready, hdone⟩
          · rw [hsame]
            exact Or.inr (Or.inl ⟨rfl, rfl, rfl⟩)
          · exact Or.inl ⟨zeroReady_spec p _ hready, hdone⟩

/-- Only a configuration and the completion of a request change the offset. -/
theorem handle_offset (e : Event) (hconfigure : ∀ i, e ≠ .configure i)
    (hcommit : hw.commitsZero p e = false) :
    (hw.handle p e).hardware.zero.offsetUnitsAtomic = hw.zero.offsetUnitsAtomic := by
  have hcall {hw' : LiftHardware} {c : CallConstants} (h : hw'.callConstants = c)
      (hc : c.zero.offsetUnitsAtomic = hw.zero.offsetUnitsAtomic) :
      hw'.zero.offsetUnitsAtomic = hw.zero.offsetUnitsAtomic :=
    (congrArg (fun c => c.zero.offsetUnitsAtomic) h).trans hc
  cases e with
  | configure i => exact absurd rfl (hconfigure i)
  | write i =>
    show (hw.write p i).hardware.zero.offsetUnitsAtomic = hw.zero.offsetUnitsAtomic
    cases hactive : hw.active with
    | false => rw [write_inactive p hw i hactive]
    | true => exact congrArg CycleConstants.zeroOffsetUnitsAtomic (hw.write_constants p i hactive)
  | read i => exact hcall (read_call p hw i) rfl
  | activate i =>
    refine hcall (activate_call p hw i) ?_
    split <;> rfl
  | resetZero now =>
    show (hw.handleResetZero p now).2.zero.offsetUnitsAtomic = hw.zero.offsetUnitsAtomic
    unfold handleResetZero
    repeat' first | rfl | split
  | estop => rfl
  | safetyReset now => exact hcall (safetyReset_call p hw now) rfl
  | maintain m =>
    rcases hw.maintain_zero p m with ⟨hready, hdone⟩ | ⟨-, -, hsame⟩ | ⟨-, -, hsame⟩
    · have hcommits : hw.commitsZero p (.maintain m) = true := by
        unfold commitsZero
        dsimp only
        rw [hready.1, hdone]
        rfl
      exact absurd (hcommit.symm.trans hcommits) Bool.false_ne_true
    · exact hsame
    · exact hsame
  | publishStatus now saveOk =>
    rcases hw.completePendingZero_zero p now saveOk with ⟨-, hsame⟩ | ⟨hready, -⟩
    · exact congrArg (fun hw' => hw'.zero.offsetUnitsAtomic) hsame
    · exact absurd (hcommit.symm.trans hready) Bool.false_ne_true
  | _ => exact hcall (asks_call p hw _ rfl) rfl

/-! ## The observation -/

end LiftHardware

/-- What a request for a new zero needs to know about the past: whether a write has sent the
controlled disable for it. -/
abbrev ZeroObserver := Bool

namespace ZeroObserver

/-- A write sends the controlled disable: a shutdown without a velocity, while a request waits. -/
def sendsDisable (p : HardwareParameters) (hw : LiftHardware) (i : WriteInput) : Bool :=
  hw.zero.requestPending && i.writeOk && (hw.write p i).frame.any fun frame =>
    frame.controlWord == 0x0006 && frame.targetVelocityUnitsPerS == 0

/-- A call makes an accepted request. -/
def requests (p : HardwareParameters) (hw : LiftHardware) : Event → Bool
  | .resetZero now => (hw.handleResetZero p now).1.success
  | .maintain m => hw.maintenance != .homeSavesZero &&
    (hw.maintain p m).2.maintenance == .homeSavesZero
  | _ => false

/-- The observer follows a call. -/
def next (p : HardwareParameters) (hw : LiftHardware) (e : Event) (sent : ZeroObserver) :
    ZeroObserver :=
  match e with
  | .write i => sent || sendsDisable p hw i
  | e => sent && !requests p hw e

end ZeroObserver

/-- A request is completed only behind a controlled disable that has been sent for it. -/
def CommitsBehindDisable (p : HardwareParameters) (s : LiftHardware × ZeroObserver) (e : Event)
    (_ : LiftHardware × ZeroObserver) : Prop :=
  s.1.commitsZero p e = true → s.2 = true

/-- A request by the service is accepted only when no observation is left over, and a write that
makes the observation is transmitted. -/
def ObservesSent (p : HardwareParameters) (s : LiftHardware × ZeroObserver) (e : Event) : Prop :=
  (∀ now, e = .resetZero now → (s.1.handleResetZero p now).1.success = true →
    s.1.zero.disableObserved = false) ∧
  ∀ i, e = .write i → s.1.active = true → s.1.zero.disableObserved = false →
    s.1.observesDisable p i = true → i.writeOk = true

/-- An observation for a request that waits has been sent. -/
def ObservationSent (s : LiftHardware × ZeroObserver) : Prop :=
  s.1.zero.requestPending = true → s.1.zero.disableObserved = true → s.2 = true

namespace LiftHardware

variable (p : HardwareParameters) (hw : LiftHardware) (i : WriteInput)

/-- A write that observes the disable sends it. -/
theorem observesDisable_sends (hactive : hw.active = true) (hok : i.writeOk = true)
    (h : hw.observesDisable p i = true) : ZeroObserver.sendsDisable p hw i = true := by
  unfold observesDisable at h
  simp only [Bool.and_eq_true, Bool.not_eq_true', beq_iff_eq] at h
  obtain ⟨⟨hpending, hallow⟩, hword⟩ := h
  have hvelocity : (hw.emitted p i).1.targetVelocityUnitsPerS = 0 := by
    by_contra hmoves
    obtain ⟨-, hmotion, -⟩ := emit_velocity p _ i hmoves
    exact absurd (hallow.symm.trans hmotion) Bool.false_ne_true
  have hframe : (hw.emitted p i).1.controlWord = 0x0006 := hword
  unfold ZeroObserver.sendsDisable
  rw [hpending, hok, write_active p hw i hactive]
  simp only [Option.any_some, hframe, hvelocity]
  rfl

theorem observationSent_write {sent : ZeroObserver} (h : ObservationSent (hw, sent))
    (hmeets : ObservesSent p (hw, sent) (.write i)) :
    ObservationSent ((hw.write p i).hardware, ZeroObserver.next p hw (.write i) sent) := by
  intro hpending hobserved
  unfold ZeroObserver.next
  dsimp only at hpending hobserved ⊢
  cases hactive : hw.active with
  | false =>
    rw [write_inactive p hw i hactive] at hpending hobserved
    have hsent : sent = true := h hpending hobserved
    rw [hsent, Bool.true_or]
  | true =>
    have hconstants := hw.write_constants p i hactive
    have hrequest : hw.zero.requestPending = true :=
      (congrArg CycleConstants.zeroRequestPending hconstants).symm.trans hpending
    have hboth : (hw.zero.disableObserved || hw.observesDisable p i) = true :=
      (congrArg CycleConstants.zeroDisableObserved hconstants).symm.trans hobserved
    cases hold : hw.zero.disableObserved with
    | true =>
      have hsent : sent = true := h hrequest hold
      rw [hsent, Bool.true_or]
    | false =>
      rw [hold, Bool.false_or] at hboth
      have hok := hmeets.2 i rfl hactive hold hboth
      rw [hw.observesDisable_sends p i hactive hok hboth, Bool.or_true]

theorem observationSent_resetZero {sent : ZeroObserver} (h : ObservationSent (hw, sent)) (now : ℕ)
    (hmeets : ObservesSent p (hw, sent) (.resetZero now)) :
    ObservationSent ((hw.handleResetZero p now).2,
      ZeroObserver.next p hw (.resetZero now) sent) := by
  have haccepted := hmeets.1 now rfl
  intro hpending hobserved
  unfold ZeroObserver.next ZeroObserver.requests
  dsimp only at hpending hobserved haccepted ⊢
  unfold handleResetZero at hpending hobserved haccepted ⊢
  split
  · rename_i hestop
    rw [if_pos hestop] at hpending hobserved
    have hsent : sent = true := h hpending hobserved
    rw [hsent]
    rfl
  · rename_i hestop
    rw [if_neg hestop] at hpending hobserved haccepted
    split
    · rename_i hbusy
      rw [if_pos hbusy] at hpending hobserved
      have hsent : sent = true := h hpending hobserved
      rw [hsent]
      rfl
    · rename_i hready
      rw [if_neg hready] at hobserved haccepted
      exact absurd ((haccepted rfl).symm.trans hobserved) Bool.false_ne_true

theorem completePendingZero_maintenance (now : ℕ) (saveOk : Bool) :
    (hw.completePendingZero p now saveOk).maintenance = hw.maintenance := by
  unfold completePendingZero
  dsimp only
  repeat' first | rfl | split

/-- A maintenance handler makes its own request without an observation. -/
theorem maintain_requests {m : MaintenanceInput}
    (h : ZeroObserver.requests p hw (.maintain m) = true) :
    (hw.maintain p m).2.zero.disableObserved = false := by
  unfold ZeroObserver.requests at h
  rw [Bool.and_eq_true, bne_iff_ne, beq_iff_eq] at h
  obtain ⟨hbefore, hafter⟩ := h
  revert hafter
  unfold maintain
  cases hm : hw.maintenance with
  | idle => simp [hm]
  | homeStops =>
    dsimp only
    unfold homeStopped
    split_ifs <;> simp [hm]
  | homeSearches =>
    dsimp only
    unfold homeSearched
    split_ifs <;> simp [hm]
  | homeDisables homed =>
    dsimp only
    unfold homeDisabled
    dsimp only
    split_ifs <;> simp [hm]
  | homeSavesZero => exact absurd hm hbefore
  | driveZeroStops =>
    dsimp only
    unfold driveZeroStopped
    dsimp only
    split
    · simp
    · split
      · simp [hm]
      · split
        · simp
        · rw [completePendingZero_maintenance]
          simp

theorem observationSent_maintain {sent : ZeroObserver} (h : ObservationSent (hw, sent))
    (m : MaintenanceInput) : ObservationSent ((hw.maintain p m).2,
      ZeroObserver.next p hw (.maintain m) sent) := by
  intro hpending hobserved
  dsimp only at hpending hobserved
  have hnone : ZeroObserver.requests p hw (.maintain m) = false := by
    refine eq_false_of_ne_true fun hrequests => ?_
    exact absurd ((hw.maintain_requests p hrequests).symm.trans hobserved) Bool.false_ne_true
  rcases hw.maintain_zero p m with ⟨-, hdone⟩ | ⟨hsame, hkept, -⟩ | ⟨-, hcleared, -⟩
  · exact absurd (hdone.symm.trans hpending) Bool.false_ne_true
  · have hsent : sent = true := h (hsame ▸ hpending) (hkept ▸ hobserved)
    show (sent && !ZeroObserver.requests p hw (.maintain m)) = true
    rw [hsent, hnone]
    rfl
  · exact absurd (hcleared.symm.trans hobserved) Bool.false_ne_true

/-- The steps that meet the condition keep the invariant. -/
theorem step_observationSent (s : LiftHardware × ZeroObserver) (e : Event)
    (s' : LiftHardware × ZeroObserver) (h : ObservationSent s) (hmeets : ObservesSent p s e)
    (hstep : Runs.observed (step p) (ZeroObserver.next p) s e = some s') : ObservationSent s' := by
  obtain ⟨hnext, hobserver⟩ := Runs.observed_eq_some.mp hstep
  obtain ⟨-, hhandle⟩ := (step_eq_some p).mp hnext
  obtain ⟨hw, sent⟩ := s
  obtain ⟨hw', sent'⟩ := s'
  obtain rfl := hhandle
  obtain rfl := hobserver
  -- a call that makes no request and leaves the zero as it is
  have hkeep {hw' : LiftHardware} {c : CallConstants} {sent' : ZeroObserver}
      (hcall : hw'.callConstants = c) (hzero : c.zero = hw.zero) (hsent : sent' = sent) :
      ObservationSent (hw', sent') := by
    have hsame : hw'.zero = hw.zero := (congrArg CallConstants.zero hcall).trans hzero
    intro hpending hobserved
    dsimp only at hpending hobserved ⊢
    rw [hsame] at hpending hobserved
    exact hsent.trans (h hpending hobserved)
  -- a call that ends the request or its observation
  have hend {hw' : LiftHardware} {sent' : ZeroObserver}
      (hno : hw'.zero.requestPending = false ∨ hw'.zero.disableObserved = false) :
      ObservationSent (hw', sent') := by
    intro hpending hobserved
    rcases hno with hno | hno
    · exact absurd (hno.symm.trans hpending) Bool.false_ne_true
    · exact absurd (hno.symm.trans hobserved) Bool.false_ne_true
  cases e with
  | write i => exact observationSent_write p hw i h hmeets
  | resetZero now => exact observationSent_resetZero p hw h now hmeets
  | maintain m => exact observationSent_maintain p hw h m
  | read i => exact hkeep (read_call p hw i) rfl (Bool.and_true _)
  | safetyReset now => exact hkeep (safetyReset_call p hw now) rfl (Bool.and_true _)
  | estop => exact hend (Or.inl rfl)
  | configure i =>
    show ObservationSent ((hw.onConfigure p i).hardware, _)
    unfold onConfigure
    split
    · exact hkeep rfl rfl (Bool.and_true _)
    · exact hend (Or.inl rfl)
  | activate i =>
    have hcall := activate_call p hw i
    split at hcall
    · exact hend (Or.inr (congrArg (fun c => c.zero.disableObserved) hcall))
    · exact hkeep hcall rfl (Bool.and_true _)
  | publishStatus now saveOk =>
    rcases hw.completePendingZero_zero p now saveOk with ⟨-, hsame⟩ | ⟨-, hdone⟩
    · exact hkeep (congrArg callConstants hsame) rfl (Bool.and_true _)
    · exact hend (Or.inl hdone)
  | _ => exact hkeep (asks_call p hw _ rfl) rfl (Bool.and_true _)

/-- From the invariant a request is completed only behind its disable. -/
theorem commits_observationSent (s : LiftHardware × ZeroObserver) (e : Event)
    (s' : LiftHardware × ZeroObserver) (h : ObservationSent s) : CommitsBehindDisable p s e s' := by
  obtain ⟨hw, sent⟩ := s
  intro hcommits
  cases e with
  | publishStatus now saveOk =>
    have hready := hw.zeroReady_spec p hcommits
    exact h hready.1 hready.2
  | maintain m =>
    have hboth : (hw.zero.requestPending && !(hw.maintain p m).2.zero.requestPending) = true :=
      hcommits
    rw [Bool.and_eq_true, Bool.not_eq_true'] at hboth
    rcases hw.maintain_zero p m with ⟨hready, -⟩ | ⟨hsame, -, -⟩ | ⟨hnew, -, -⟩
    · exact h hready.1 hready.2
    · exact absurd (hboth.2.symm.trans (hsame.trans hboth.1)) Bool.false_ne_true
    · exact absurd (hboth.2.symm.trans hnew) Bool.false_ne_true
  | _ => exact absurd hcommits Bool.false_ne_true

/-- Along every run whose calls all meet the condition, a new zero is committed only behind a
controlled disable that has been sent for the last accepted request. -/
theorem commitsBehindDisable {positionM : ℚ} {calls : List Event}
    (h : Runs.Meets (Runs.observed (step p) (ZeroObserver.next p)) (ObservesSent p)
      (initial p positionM, false) calls) :
    Runs.Throughout (Runs.observed (step p) (ZeroObserver.next p)) (CommitsBehindDisable p)
      (initial p positionM, false) calls :=
  Runs.throughout_of_meets (step_observationSent p)
    (fun s e s' hsent _ _ => commits_observationSent p s e s' hsent)
    (fun hpending _ => absurd hpending Bool.false_ne_true) h

/-! ## Runs on fixed inputs -/

/-- A request is made, its disable is sent, and the status timer completes it. -/
def commitCalls : List Event :=
  Bench.start 1 (-200000) ++ [Event.resetZero (Bench.time 7), Bench.readAt 10 0x0021 (-200000),
    .write (Bench.writeAt 10), .publishStatus (Bench.time 11) true]

/-- The emergency stop cancels a request whose disable has been observed, and a new request is made
behind the safety reset. -/
def cancelledCalls : List Event :=
  Bench.start 1 (-200000) ++ [Event.resetZero (Bench.time 7), Bench.readAt 10 0x0021 (-200000),
    .write (Bench.writeAt 10), .estop, .safetyReset (Bench.time 11), .resetZero (Bench.time 12)]

/-- The write that observes the disable is not transmitted. -/
def untransmittedCalls : List Event :=
  Bench.start 1 (-200000) ++ [Event.resetZero (Bench.time 7), Bench.readAt 10 0x0021 (-200000),
    .write { Bench.writeAt 10 with writeOk := false }, Bench.readAt 12 0x0021 (-200000)]

theorem commitsBehindDisable_commitCalls :
    ((Runs.exec (step bench) (initial bench 0) commitCalls).any fun hw => hw.zero.applyPending) =
        true ∧
      Runs.Throughout (Runs.observed (step bench) (ZeroObserver.next bench))
        (CommitsBehindDisable bench) (initial bench 0, false) commitCalls := by
  have hpasses : Runs.passes (Runs.observed (step bench) (ZeroObserver.next bench))
      (fun s e => match e with
        | .resetZero _ => !s.1.zero.disableObserved
        | .write i => i.writeOk
        | _ => true) (initial bench 0, false) commitCalls = true := by
    decide +kernel
  refine ⟨by decide +kernel, commitsBehindDisable bench (Runs.meets_of_passes ?_ hpasses)⟩
  intro s e htest
  constructor
  · rintro now rfl -
    exact (Bool.not_eq_true' _).mp htest
  · rintro i rfl - - -
    exact htest

/-- A request is completed without its disable: by an observation that a cancelled request has left
over, and by one whose frame was not transmitted. -/
theorem commit_without_disable :
    (∃ hw, Runs.exec (Runs.observed (step bench) (ZeroObserver.next bench)) (initial bench 0, false)
        cancelledCalls = some (hw, false) ∧
      hw.enabled (.publishStatus (Bench.time 12) true) = true ∧
      hw.commitsZero bench (.publishStatus (Bench.time 12) true) = true) ∧
    ∃ hw, Runs.exec (Runs.observed (step bench) (ZeroObserver.next bench)) (initial bench 0, false)
        untransmittedCalls = some (hw, false) ∧
      hw.enabled (.publishStatus (Bench.time 12) true) = true ∧
      hw.commitsZero bench (.publishStatus (Bench.time 12) true) = true := by
  have hrun {calls : List Event}
      (h : (Runs.exec (Runs.observed (step bench) (ZeroObserver.next bench))
        (initial bench 0, false)
        calls).any (fun s => s.2 == false && s.1.enabled (.publishStatus (Bench.time 12) true) &&
          s.1.commitsZero bench (.publishStatus (Bench.time 12) true)) = true) :
      ∃ hw, Runs.exec (Runs.observed (step bench) (ZeroObserver.next bench))
        (initial bench 0, false)
          calls = some (hw, false) ∧
        hw.enabled (.publishStatus (Bench.time 12) true) = true ∧
        hw.commitsZero bench (.publishStatus (Bench.time 12) true) = true := by
    obtain ⟨⟨hw, sent⟩, hexec, hall⟩ := (Option.any_eq_true _ _).mp h
    simp only [Bool.and_eq_true, beq_iff_eq] at hall
    obtain ⟨⟨rfl, henabled⟩, hcommits⟩ := hall
    exact ⟨hw, hexec, henabled, hcommits⟩
  exact ⟨hrun (by decide +kernel), hrun (by decide +kernel)⟩

end LiftHardware

end Hardware

end JointController
