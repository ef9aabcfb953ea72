import JointController.Hardware.CycleEffects
import JointController.Library.Observers

/-!
# The operating mode behind a homing run

`handle_home` writes 6060h = 6 to the drive, waits, and writes 6060h = 9 back.

* `sdoWrites`: the SDO writes that a call makes.
* `ModeObserver`: whether 6060h = 6 was accepted since the last attempt to write 6060h = 9.
* `RestoresOnExit`: how a homing handler leaves the mode and its flags when it returns.
* `restoresOnExit_iff`: along every run.
-/

namespace JointController

namespace Hardware

/-- A handler of `/lift_home` waits. -/
def Maintenance.homes : Maintenance → Bool
  | .homeStops | .homeSearches | .homeDisables _ | .homeSavesZero => true
  | .idle | .driveZeroStops => false

/-- A handler of `/lift_home` waits behind its write of 6060h = 6. -/
def Maintenance.switched : Maintenance → Bool
  | .homeSearches | .homeDisables _ => true
  | .idle | .homeStops | .homeSavesZero | .driveZeroStops => false

theorem Maintenance.homes_of_switched {maintenance : Maintenance}
    (h : maintenance.switched = true) : maintenance.homes = true := by
  cases maintenance with
  | homeSearches => rfl
  | homeDisables homed => rfl
  | _ => cases h

/-- The write of the homing mode. -/
def homingModeWrite : LiftHardware.SdoWrite := ⟨0x6060, 0, [6]⟩

/-- The write of the velocity mode. -/
def velocityModeWrite : LiftHardware.SdoWrite := ⟨0x6060, 0, [9]⟩

/-- The flags of a maintenance run are clear. -/
structure Homing.Clear (homing : Homing) : Prop where
  active : homing.active = false
  startRequested : homing.startRequested = false
  driveZeroPending : homing.driveZeroPending = false

theorem Homing.Clear.default : Homing.Clear {} := ⟨rfl, rfl, rfl⟩

namespace LiftHardware

variable (p : HardwareParameters) (hw : LiftHardware)

/-! ## The writes -/

/-- The SDO writes that a maintenance handler makes when it looks again.  The writes before a homing
run end with the first one that the drive refuses. -/
def sdoWrites (m : MaintenanceInput) : List SdoWrite :=
  if hw.waitFails m ∨ ¬ hw.driveStopped p m.now then []
  else match hw.maintenance with
    | .homeStops => (homingWrites p).take (m.acceptedWrites + 1)
    | .homeDisables _ => [velocityModeWrite]
    | .driveZeroStops => [⟨0x2015, 0, [9, 0]⟩]
    | _ => []

/-- The writes that the drive accepts. -/
def acceptedSdoWrites (m : MaintenanceInput) : List SdoWrite :=
  (hw.sdoWrites p m).take m.acceptedWrites

/-- The drive is left in the homing mode: it has accepted 6060h = 6, and no write of 6060h = 9 was
attempted since. -/
def ModeObserver.next (hw : LiftHardware) (e : Event) (homingMode : Bool) : Bool :=
  match e with
  | .maintain m =>
    if velocityModeWrite ∈ hw.sdoWrites p m then false
    else if homingModeWrite ∈ hw.acceptedSdoWrites p m then true
    else homingMode
  | _ => homingMode

/-- The writes before a homing run are all accepted. -/
def homingWritten (m : MaintenanceInput) : Bool :=
  !hw.waitFails m && hw.driveStopped p m.now && decide ((homingWrites p).length ≤ m.acceptedWrites)

theorem velocityModeWrite_mem_iff (m : MaintenanceInput) :
    velocityModeWrite ∈ hw.sdoWrites p m ↔ (∃ homed, hw.maintenance = .homeDisables homed) ∧
      hw.waitFails m = false ∧ hw.driveStopped p m.now = true := by
  have hhoming (n : ℕ) : velocityModeWrite ∉ (homingWrites p).take n := by
    intro hmem
    have hin := List.mem_of_mem_take hmem
    simp [homingWrites, velocityModeWrite] at hin
  unfold sdoWrites
  by_cases hwait : hw.waitFails m = true ∨ ¬ hw.driveStopped p m.now = true
  · rw [if_pos hwait]
    refine iff_of_false List.not_mem_nil ?_
    rintro ⟨-, hfails, hstopped⟩
    obtain hno | hno := hwait
    · exact Bool.false_ne_true (hfails.symm.trans hno)
    · exact hno hstopped
  · rw [if_neg hwait]
    obtain ⟨hfails, hstopped⟩ := not_or.mp hwait
    have hready : hw.waitFails m = false ∧ hw.driveStopped p m.now = true :=
      ⟨eq_false_of_ne_true hfails, not_not.mp hstopped⟩
    cases hmaintenance : hw.maintenance with
    | homeStops => simp [hhoming]
    | homeDisables homed => simp [hready]
    | driveZeroStops => simp [velocityModeWrite]
    | _ => simp

/-- The write of the homing mode is the last of those before a homing run. -/
theorem homingModeWrite_mem_take (n : ℕ) :
    homingModeWrite ∈ (homingWrites p).take n ↔ (homingWrites p).length ≤ n := by
  have hlength : (homingWrites p).length = 6 := rfl
  constructor
  · intro hmem
    by_contra hshort
    have hfirst : homingModeWrite ∈ ((homingWrites p).take 5).take n := by
      rw [List.take_take, Nat.min_eq_left (by omega)]
      exact hmem
    have hin := List.mem_of_mem_take hfirst
    simp [homingWrites, homingModeWrite] at hin
  · intro hlong
    rw [List.take_of_length_le hlong]
    simp [homingWrites, homingModeWrite]

theorem homingModeWrite_mem_iff (m : MaintenanceInput) :
    homingModeWrite ∈ hw.acceptedSdoWrites p m ↔
      hw.maintenance = .homeStops ∧ hw.homingWritten p m = true := by
  have htaken : ((homingWrites p).take (m.acceptedWrites + 1)).take m.acceptedWrites =
      (homingWrites p).take m.acceptedWrites := by
    rw [List.take_take, Nat.min_eq_left (Nat.le_succ _)]
  have hother (write : SdoWrite) (h : homingModeWrite ≠ write) :
      homingModeWrite ∉ [write].take m.acceptedWrites :=
    fun hmem => h (List.mem_singleton.mp (List.mem_of_mem_take hmem))
  unfold acceptedSdoWrites sdoWrites homingWritten
  by_cases hwait : hw.waitFails m = true ∨ ¬ hw.driveStopped p m.now = true
  · rw [if_pos hwait, List.take_nil]
    refine iff_of_false List.not_mem_nil ?_
    rintro ⟨-, hwritten⟩
    simp only [Bool.and_eq_true, Bool.not_eq_true'] at hwritten
    obtain hno | hno := hwait
    · exact Bool.false_ne_true (hwritten.1.1.symm.trans hno)
    · exact hno hwritten.1.2
  · rw [if_neg hwait]
    obtain ⟨hfails, hstopped⟩ := not_or.mp hwait
    rw [eq_false_of_ne_true hfails, not_not.mp hstopped]
    cases hmaintenance : hw.maintenance with
    | homeStops =>
      dsimp only
      rw [htaken, homingModeWrite_mem_take]
      simp
    | homeDisables homed =>
      exact iff_of_false (hother _ (by decide)) fun h => Maintenance.noConfusion h.1
    | driveZeroStops =>
      exact iff_of_false (hother _ (by decide)) fun h => Maintenance.noConfusion h.1
    | _ => simp

/-! ## The phases of a handler -/

/-- What holds while a handler waits: the flags of the run are clear but for those that the handler
has set, and the drive is in the homing mode between the two writes. -/
def PhaseHolds (maintenance : Maintenance) (homing : Homing) (homingMode : Bool) : Prop :=
  match maintenance with
  | .idle | .homeStops | .homeSavesZero => homing.Clear ∧ homingMode = false
  | .homeSearches | .homeDisables _ => homing.driveZeroPending = false ∧ homingMode = true
  | .driveZeroStops =>
    homing.active = false ∧ homing.startRequested = false ∧ homingMode = false

/-- The hardware and the observer are in a phase. -/
def InPhase (s : LiftHardware × Bool) : Prop := PhaseHolds s.1.maintenance s.1.homing s.2

/-- Clearing flags keeps a phase. -/
theorem PhaseHolds.of_le {maintenance : Maintenance} {homing homing' : Homing} {homingMode : Bool}
    (h : PhaseHolds maintenance homing homingMode)
    (hactive : homing'.active = true → homing.active = true)
    (hstart : homing'.startRequested = true → homing.startRequested = true)
    (hpending : homing'.driveZeroPending = true → homing.driveZeroPending = true) :
    PhaseHolds maintenance homing' homingMode := by
  have hfalls {a b : Bool} (himp : a = true → b = true) (hb : b = false) : a = false :=
    eq_false_of_ne_true fun ha => Bool.false_ne_true (hb.symm.trans (himp ha))
  have hclear (hc : homing.Clear) : homing'.Clear :=
    ⟨hfalls hactive hc.active, hfalls hstart hc.startRequested,
      hfalls hpending hc.driveZeroPending⟩
  cases maintenance with
  | idle => exact ⟨hclear h.1, h.2⟩
  | homeStops => exact ⟨hclear h.1, h.2⟩
  | homeSavesZero => exact ⟨hclear h.1, h.2⟩
  | homeSearches => exact ⟨hfalls hpending h.1, h.2⟩
  | homeDisables homed => exact ⟨hfalls hpending h.1, h.2⟩
  | driveZeroStops => exact ⟨hfalls hactive h.1, hfalls hstart h.2.1, h.2.2⟩

/-- The drive is in the homing mode between the two writes. -/
theorem PhaseHolds.mode {maintenance : Maintenance} {homing : Homing} {homingMode : Bool}
    (h : PhaseHolds maintenance homing homingMode) : homingMode = maintenance.switched := by
  cases maintenance with
  | idle => exact h.2
  | homeStops => exact h.2
  | homeSavesZero => exact h.2
  | homeSearches => exact h.2
  | homeDisables homed => exact h.2
  | driveZeroStops => exact h.2.2

/-! ## How a handler returns -/

/-- A homing handler returns: one that waits gives its answer or is given up, or a new one answers
at once. -/
def Returns (hw : LiftHardware) (e : Event) (hw' : LiftHardware) : Prop :=
  (hw.maintenance.homes = true ∨ ∃ now, e = .home now) ∧ hw'.maintenance = .idle

/-- When a homing handler returns, it has attempted to restore the velocity mode, and the flags of
the run are clear. -/
def RestoresOnExit (s : LiftHardware × Bool) (e : Event) (s' : LiftHardware × Bool) : Prop :=
  Returns s.1 e s'.1 → s'.2 = false ∧ s'.1.homing.Clear

/-- Behind the homing run no wait is given up: the second stop of the drive comes before its
deadline, and the lift is not deactivated before it. -/
def WaitsForRestore (s : LiftHardware × Bool) (e : Event) : Prop :=
  match e with
  | .maintain m =>
    ∀ homed, s.1.maintenance = .homeDisables homed → s.1.waitFails m = false
  | .deactivate => s.1.maintenance.switched = false
  | _ => True

/-! ## The calls of a maintenance handler -/

variable {hw}

/-- Without a second stop and without the writes of the first, the mode stays as it is. -/
theorem next_maintain_other {m : MaintenanceInput} {homingMode : Bool}
    (hdisables : ∀ homed, hw.maintenance = .homeDisables homed →
      ¬ (hw.waitFails m = false ∧ hw.driveStopped p m.now = true))
    (hstops : hw.maintenance = .homeStops → hw.homingWritten p m = false) :
    ModeObserver.next p hw (.maintain m) homingMode = homingMode := by
  have hvelocity : velocityModeWrite ∉ hw.sdoWrites p m := by
    rw [velocityModeWrite_mem_iff]
    rintro ⟨⟨homed, hmaintenance⟩, hready⟩
    exact hdisables homed hmaintenance hready
  have hhoming : homingModeWrite ∉ hw.acceptedSdoWrites p m := by
    rw [homingModeWrite_mem_iff]
    rintro ⟨hmaintenance, hwritten⟩
    exact Bool.false_ne_true ((hstops hmaintenance).symm.trans hwritten)
  exact (if_neg hvelocity).trans (if_neg hhoming)

theorem homeStopped_phase {m : MaintenanceInput} (hmaintenance : hw.maintenance = .homeStops)
    (hclear : hw.homing.Clear) :
    InPhase ((hw.homeStopped p m).2, ModeObserver.next p hw (.maintain m) false) := by
  have hdisables (homed : Bool) (h : hw.maintenance = .homeDisables homed) :
      ¬ (hw.waitFails m = false ∧ hw.driveStopped p m.now = true) :=
    Maintenance.noConfusion (hmaintenance.symm.trans h)
  unfold homeStopped
  split
  · rename_i hfails
    rw [next_maintain_other p hdisables fun _ => by rw [homingWritten, hfails]; rfl]
    exact ⟨hclear, rfl⟩
  · rename_i hfails
    split
    · rename_i hstopped
      rw [next_maintain_other p hdisables fun _ => by
        rw [homingWritten, eq_false_of_ne_true hstopped, Bool.and_false, Bool.false_and]]
      unfold InPhase
      rw [hmaintenance]
      exact ⟨hclear, rfl⟩
    · rename_i hstopped
      split
      · rename_i hrefused
        rw [next_maintain_other p hdisables fun _ => by
          rw [homingWritten, decide_eq_false (Nat.not_le.mpr hrefused), Bool.and_false]]
        exact ⟨hclear, rfl⟩
      · rename_i haccepted
        have hwritten : hw.homingWritten p m = true := by
          rw [homingWritten, eq_false_of_ne_true hfails, not_not.mp hstopped,
            decide_eq_true (Nat.le_of_not_lt haccepted)]
          rfl
        have hvelocity : velocityModeWrite ∉ hw.sdoWrites p m := by
          rw [velocityModeWrite_mem_iff]
          rintro ⟨⟨homed, h⟩, hready⟩
          exact hdisables homed h hready
        have hnext : ModeObserver.next p hw (.maintain m) false = true :=
          (if_neg hvelocity).trans
            (if_pos ((homingModeWrite_mem_iff p hw m).mpr ⟨hmaintenance, hwritten⟩))
        rw [hnext]
        exact ⟨hclear.driveZeroPending, rfl⟩

theorem homeSearched_phase {m : MaintenanceInput} (hmaintenance : hw.maintenance = .homeSearches)
    (hpending : hw.homing.driveZeroPending = false) :
    InPhase ((hw.homeSearched m).2, ModeObserver.next p hw (.maintain m) true) ∧
      (hw.homeSearched m).2.maintenance ≠ .idle := by
  rw [next_maintain_other p
    (fun homed h => Maintenance.noConfusion (hmaintenance.symm.trans h))
    (fun h => Maintenance.noConfusion (hmaintenance.symm.trans h))]
  unfold homeSearched
  split
  · unfold InPhase
    dsimp only
    rw [hmaintenance]
    exact ⟨⟨hpending, rfl⟩, Maintenance.noConfusion⟩
  · exact ⟨⟨hpending, rfl⟩, Maintenance.noConfusion⟩

/-- The second stop of the drive: the wait for it is given up, or goes on, or the velocity mode is
restored. -/
theorem homeDisabled_phase {m : MaintenanceInput} {homed : Bool}
    (hmaintenance : hw.maintenance = .homeDisables homed)
    (hpending : hw.homing.driveZeroPending = false) :
    if hw.waitFails m then
      (hw.homeDisabled p m homed).2.maintenance = .idle ∧
        ModeObserver.next p hw (.maintain m) true = true
    else InPhase ((hw.homeDisabled p m homed).2, ModeObserver.next p hw (.maintain m) true) := by
  have hstops (h : hw.maintenance = .homeStops) : hw.homingWritten p m = false :=
    Maintenance.noConfusion (hmaintenance.symm.trans h)
  unfold homeDisabled
  by_cases hfails : hw.waitFails m = true
  · rw [if_pos hfails, if_pos hfails]
    exact ⟨rfl, next_maintain_other p (fun _ _ h => Bool.false_ne_true (h.1.symm.trans hfails))
      hstops⟩
  · rw [if_neg hfails, if_neg hfails]
    by_cases hstopped : hw.driveStopped p m.now = true
    · have hvelocity : velocityModeWrite ∈ hw.sdoWrites p m := by
        rw [velocityModeWrite_mem_iff]
        exact ⟨⟨homed, hmaintenance⟩, eq_false_of_ne_true hfails, hstopped⟩
      have hnext : ModeObserver.next p hw (.maintain m) true = false := if_pos hvelocity
      rw [if_neg (not_not.mpr hstopped), hnext]
      dsimp only
      split
      · exact ⟨⟨rfl, rfl, hpending⟩, rfl⟩
      · exact ⟨⟨rfl, rfl, hpending⟩, rfl⟩
    · rw [if_pos hstopped, next_maintain_other p (fun _ _ h => hstopped h.2) hstops]
      unfold InPhase
      rw [hmaintenance]
      exact ⟨hpending, rfl⟩

theorem homeSavesZero_phase {m : MaintenanceInput} (hmaintenance : hw.maintenance = .homeSavesZero)
    (hclear : hw.homing.Clear) :
    InPhase ((hw.homeSavesZero p m).2, ModeObserver.next p hw (.maintain m) false) := by
  have hdone := completePendingZero_effect p hw m.now m.saveOk
  have hidle : PhaseHolds .idle hw.homing false := ⟨hclear, rfl⟩
  have hphase : PhaseHolds .idle (hw.completePendingZero p m.now m.saveOk).homing false :=
    hidle.of_le hdone.active hdone.startRequested hdone.driveZeroPending
  rw [next_maintain_other p
    (fun homed h => Maintenance.noConfusion (hmaintenance.symm.trans h))
    (fun h => Maintenance.noConfusion (hmaintenance.symm.trans h))]
  unfold homeSavesZero
  dsimp only
  split
  · exact ⟨hclear, rfl⟩
  · split
    · unfold InPhase
      dsimp only
      rw [hdone.maintenance, hmaintenance]
      exact hphase
    · split
      · exact hphase
      · exact hphase

theorem driveZeroStopped_phase {m : MaintenanceInput}
    (hmaintenance : hw.maintenance = .driveZeroStops) (hactive : hw.homing.active = false)
    (hstart : hw.homing.startRequested = false) :
    InPhase ((hw.driveZeroStopped p m).2, ModeObserver.next p hw (.maintain m) false) := by
  rw [next_maintain_other p
    (fun homed h => Maintenance.noConfusion (hmaintenance.symm.trans h))
    (fun h => Maintenance.noConfusion (hmaintenance.symm.trans h))]
  unfold driveZeroStopped
  dsimp only
  split
  · exact ⟨⟨hactive, hstart, rfl⟩, rfl⟩
  · split
    · unfold InPhase
      rw [hmaintenance]
      exact ⟨hactive, hstart, rfl⟩
    · split
      · exact ⟨⟨hactive, hstart, rfl⟩, rfl⟩
      · generalize hbumped : ({ hw with
          homing := { hw.homing with driveZeroPending := false }
          maintenance := .idle
          zero := { hw.zero with generation := hw.zero.generation + 1 } } : LiftHardware) = bumped
        have hdone := completePendingZero_effect p bumped m.now m.saveOk
        have hphase : PhaseHolds bumped.maintenance bumped.homing false := by
          rw [← hbumped]
          exact ⟨⟨hactive, hstart, rfl⟩, rfl⟩
        unfold InPhase
        dsimp only
        rw [hdone.maintenance]
        exact hphase.of_le hdone.active hdone.startRequested hdone.driveZeroPending

/-! ## Calls -/

theorem onActivate_phase (a : ActivateInput) {homingMode : Bool} (h : InPhase (hw, homingMode)) :
    InPhase ((hw.onActivate p a).hardware, homingMode) ∧
      (hw.onActivate p a).hardware.maintenance = hw.maintenance := by
  have hbooted := bootstrap_keeps p
    (I := fun s => s.maintenance = hw.maintenance ∧ s.homing = {})
    (fun _ _ h => h) (fun _ _ _ _ _ h => h) a.rounds (hw.prepareActivation p a) {} ⟨rfl, rfl⟩
  have hphase {hw' : LiftHardware} (h' : hw'.maintenance = hw.maintenance ∧ hw'.homing = {}) :
      InPhase (hw', homingMode) ∧ hw'.maintenance = hw.maintenance := by
    obtain ⟨hmaintenance, hhoming⟩ := h'
    refine ⟨?_, hmaintenance⟩
    unfold InPhase
    rw [hmaintenance, hhoming]
    exact h.of_le (fun hno => absurd hno Bool.false_ne_true)
      (fun hno => absurd hno Bool.false_ne_true)
      fun hno => absurd hno Bool.false_ne_true
  unfold onActivate
  split
  · exact ⟨h, rfl⟩
  · dsimp only
    split
    · exact hphase hbooted
    · exact hphase hbooted

theorem handleHome_phase (now : ℕ) (hmaintenance : hw.maintenance = .idle)
    (hclear : hw.homing.Clear) : InPhase ((hw.handleHome p now).2, false) := by
  have hidle : InPhase (hw, false) := by
    unfold InPhase
    rw [hmaintenance]
    exact ⟨hclear, rfl⟩
  unfold handleHome
  repeat' first | exact hidle | exact ⟨hclear, rfl⟩ | split

theorem handleSetDriveZero_phase (now : ℕ) (hmaintenance : hw.maintenance = .idle)
    (hclear : hw.homing.Clear) : InPhase ((hw.handleSetDriveZero p now).2, false) := by
  have hidle : InPhase (hw, false) := by
    unfold InPhase
    rw [hmaintenance]
    exact ⟨hclear, rfl⟩
  unfold handleSetDriveZero
  split
  · exact hidle
  · split
    · rename_i hbusy
      exfalso
      obtain hpending | hactive := hbusy
      · exact Bool.false_ne_true (hclear.driveZeroPending.symm.trans hpending)
      · exact Bool.false_ne_true (hclear.active.symm.trans hactive)
    · split
      · unfold InPhase
        dsimp only
        rw [hmaintenance]
        exact ⟨⟨hclear.active, hclear.startRequested, rfl⟩, rfl⟩
      · exact ⟨hclear.active, hclear.startRequested, rfl⟩

theorem InPhase.idle {homingMode : Bool} (h : InPhase (hw, homingMode))
    (hmaintenance : hw.maintenance = .idle) : hw.homing.Clear ∧ homingMode = false := by
  unfold InPhase at h
  rw [hmaintenance] at h
  exact h

/-- A handler that is not given up behind its homing run keeps the phases. -/
theorem InPhase.maintain {homingMode : Bool} {m : MaintenanceInput} (h : InPhase (hw, homingMode))
    (hbusy : hw.maintenance ≠ .idle)
    (hwaits : ∀ homed, hw.maintenance = .homeDisables homed → hw.waitFails m = false) :
    InPhase ((hw.maintain p m).2, ModeObserver.next p hw (.maintain m) homingMode) := by
  unfold InPhase at h
  unfold LiftHardware.maintain
  cases hmaintenance : hw.maintenance with
  | idle => exact absurd hmaintenance hbusy
  | homeStops =>
    rw [hmaintenance] at h
    obtain ⟨hclear, rfl⟩ := h
    exact homeStopped_phase p hmaintenance hclear
  | homeSearches =>
    rw [hmaintenance] at h
    obtain ⟨hpending, rfl⟩ := h
    exact (homeSearched_phase p hmaintenance hpending).1
  | homeDisables homed =>
    rw [hmaintenance] at h
    obtain ⟨hpending, rfl⟩ := h
    have hphase := homeDisabled_phase p (m := m) hmaintenance hpending
    rw [hwaits homed hmaintenance, if_neg Bool.false_ne_true] at hphase
    exact hphase
  | homeSavesZero =>
    rw [hmaintenance] at h
    obtain ⟨hclear, rfl⟩ := h
    exact homeSavesZero_phase p hmaintenance hclear
  | driveZeroStops =>
    rw [hmaintenance] at h
    obtain ⟨hactive, hstart, rfl⟩ := h
    exact driveZeroStopped_phase p hmaintenance hactive hstart

/-- A call that waits for the restore keeps the phases. -/
theorem step_phase {s s' : LiftHardware × Bool} {e : Event} (h : InPhase s)
    (hwaits : WaitsForRestore s e)
    (hstep : Runs.observed (step p) (ModeObserver.next p) s e = some s') : InPhase s' := by
  obtain ⟨hnext, hmode⟩ := Runs.observed_eq_some.mp hstep
  obtain ⟨henabled, hhandled⟩ := (step_eq_some p).mp hnext
  obtain ⟨hw, homingMode⟩ := s
  obtain ⟨hw', homingMode'⟩ := s'
  dsimp only at hmode hhandled henabled
  subst hmode hhandled
  cases hmaintains : e.maintains with
  | false =>
    have heffect := handle_effect p hw hmaintains
    have hsame : ModeObserver.next p hw e homingMode = homingMode := by
      cases e with
      | maintain m => exact absurd hmaintains Bool.noConfusion
      | _ => rfl
    unfold InPhase
    rw [hsame, heffect.maintenance]
    exact h.of_le heffect.active heffect.startRequested heffect.driveZeroPending
  | true =>
    cases e with
    | activate a => exact (onActivate_phase p a h).1
    | deactivate => exact ⟨.default, h.mode.trans hwaits⟩
    | home now =>
      have hmaintenance : hw.maintenance = .idle :=
        beq_iff_eq.mp ((Bool.and_eq_true _ _).mp henabled).2
      obtain ⟨hclear, hfalse⟩ := h.idle hmaintenance
      show InPhase ((hw.handleHome p now).2, homingMode)
      rw [hfalse]
      exact handleHome_phase p now hmaintenance hclear
    | setDriveZero now =>
      have hmaintenance : hw.maintenance = .idle :=
        beq_iff_eq.mp ((Bool.and_eq_true _ _).mp henabled).2
      obtain ⟨hclear, hfalse⟩ := h.idle hmaintenance
      show InPhase ((hw.handleSetDriveZero p now).2, homingMode)
      rw [hfalse]
      exact handleSetDriveZero_phase p now hmaintenance hclear
    | maintain m =>
      have hbusy : (hw.maintenance != .idle) = true := henabled
      exact h.maintain p (bne_iff_ne.mp hbusy) hwaits
    | _ => exact absurd hmaintains Bool.noConfusion

/-- A call restores the mode before its handler returns exactly when it waits for the restore. -/
theorem restoresOnExit_step {s s' : LiftHardware × Bool} {e : Event} (h : InPhase s)
    (hstep : Runs.observed (step p) (ModeObserver.next p) s e = some s') :
    RestoresOnExit s e s' ↔ WaitsForRestore s e := by
  constructor
  · intro hrestores
    obtain ⟨hnext, hmode⟩ := Runs.observed_eq_some.mp hstep
    obtain ⟨-, hhandled⟩ := (step_eq_some p).mp hnext
    cases e with
    | maintain m =>
      intro homed hmaintenance
      by_contra hno
      have hfails : s.1.waitFails m = true := eq_true_of_ne_false hno
      unfold InPhase at h
      rw [hmaintenance] at h
      obtain ⟨hpending, hhoming⟩ := h
      have hphase := homeDisabled_phase p (m := m) hmaintenance hpending
      rw [if_pos hfails] at hphase
      have hexit : s'.1.maintenance = .idle := by
        rw [← hhandled]
        show (s.1.maintain p m).2.maintenance = .idle
        unfold maintain
        rw [hmaintenance]
        exact hphase.1
      have hhomes : s.1.maintenance.homes = true := by rw [hmaintenance]; rfl
      have hrestored := (hrestores ⟨Or.inl hhomes, hexit⟩).1
      rw [hmode, hhoming, hphase.2] at hrestored
      exact Bool.false_ne_true hrestored.symm
    | deactivate =>
      show s.1.maintenance.switched = false
      by_contra hno
      have hswitched : s.1.maintenance.switched = true := eq_true_of_ne_false hno
      have hexit : s'.1.maintenance = .idle := by
        rw [← hhandled]
        rfl
      have hrestored := (hrestores ⟨Or.inl (Maintenance.homes_of_switched hswitched), hexit⟩).1
      rw [hmode] at hrestored
      exact Bool.false_ne_true (hrestored.symm.trans (h.mode.trans hswitched))
    | _ => trivial
  · rintro hwaits ⟨-, hidle⟩
    have hphase := step_phase p h hwaits hstep
    unfold InPhase at hphase
    rw [hidle] at hphase
    exact ⟨hphase.2, hphase.1⟩

/-- In every run, each homing handler has attempted to restore the velocity mode and has cleared its
flags when it returns exactly when no wait behind a homing run is given up. -/
theorem restoresOnExit_iff (positionM : ℚ) (events : List Event) :
    Runs.Throughout (Runs.observed (step p) (ModeObserver.next p)) RestoresOnExit
        (initial p positionM, false) events ↔
      Runs.Meets (Runs.observed (step p) (ModeObserver.next p)) WaitsForRestore
        (initial p positionM, false) events := by
  have hinitial : InPhase (initial p positionM, false) := ⟨.default, rfl⟩
  refine Runs.throughout_iff_meets_from (I := InPhase) (C := WaitsForRestore)
    (R := RestoresOnExit) (fun _ _ _ h hC hstep => step_phase p h hC hstep)
    (fun _ _ _ h hstep => restoresOnExit_step p h hstep) ?_ hinitial
  intro s e hdisabled
  cases e with
  | maintain m =>
    -- a handler that looks again is only disabled when none waits
    intro homed hmaintenance
    have henabled : s.1.enabled (.maintain m) = true := by
      show (s.1.maintenance != .idle) = true
      rw [hmaintenance]
      rfl
    have hnext : step p s.1 (.maintain m) = some (s.1.handle p (.maintain m)).hardware :=
      if_pos henabled
    unfold Runs.observed at hdisabled
    rw [hnext] at hdisabled
    exact absurd hdisabled (Option.some_ne_none _)
  | deactivate => exact absurd hdisabled (Option.some_ne_none _)
  | _ => trivial

/-! ## A wait that is given up -/

/-- The lift stands still with the drive disabled, the homing run is started and reported as failed,
and the second stop of the drive comes too late. -/
def lateDisable : List Event :=
  Bench.start 1 0 ++
    [Bench.readAt 7 0x0021 0, .write (Bench.writeAt 7), .home (Bench.time 7),
      .maintain ⟨Bench.time 7, false, 6, true⟩, .maintain ⟨Bench.time 8, true, 0, true⟩,
      .maintain ⟨Bench.time 9, true, 0, true⟩]

/-- A homing handler returns with the drive left in the homing mode. -/
def leavesHomingMode (s : LiftHardware × Bool) (e : Event) : Bool :=
  (Runs.observed (step bench) (ModeObserver.next bench) s e).any fun s' =>
    s.1.maintenance.homes && s'.1.maintenance == .idle && s'.2

theorem not_restoresOnExit_of_leavesHomingMode (s : LiftHardware × Bool) (e : Event)
    (h : leavesHomingMode s e = true) :
    ∃ s', Runs.observed (step bench) (ModeObserver.next bench) s e = some s' ∧
      ¬ RestoresOnExit s e s' := by
  obtain ⟨s', hstep, hleft⟩ := (Option.any_eq_true _ _).mp h
  simp only [Bool.and_eq_true, beq_iff_eq] at hleft
  obtain ⟨⟨hhomes, hidle⟩, hmode⟩ := hleft
  refine ⟨s', hstep, fun hrestores => ?_⟩
  exact Bool.false_ne_true ((hrestores ⟨Or.inl hhomes, hidle⟩).1.symm.trans hmode)

/-- A homing handler whose second stop comes too late leaves the drive in the homing mode. -/
theorem not_restoresOnExit_lateDisable :
    ¬ Runs.Throughout (Runs.observed (step bench) (ModeObserver.next bench)) RestoresOnExit
      (initial bench 0, false) lateDisable := by
  intro h
  have hfound : Runs.finds (Runs.observed (step bench) (ModeObserver.next bench)) leavesHomingMode
      (initial bench 0, false) lateDisable = true := by decide +kernel
  exact Bool.false_ne_true
    ((h.finds_eq_false not_restoresOnExit_of_leavesHomingMode).symm.trans hfound)

end LiftHardware

end Hardware

end JointController
