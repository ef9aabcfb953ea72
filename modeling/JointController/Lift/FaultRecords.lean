import JointController.Library.RingBuffer
import JointController.Lift.Cycle

/-!
# The fault records of the lift controller

A fault is recorded in every cycle in which its condition holds.  A line is written for it at most
once in a second, and faults of one kind that follow each other share a record.

* `FaultCode`, `Fault`: the faults and their details.
* `FaultLog`: the last eight records, with `lineDue`, `noteRepeat`, `write` and `record`.
* `lastFaultText`: the reason that the status of the controller gives for a fault.
* `Bursts`: the records of a log that forgets nothing and is asked each time.
* `Refines`, `refines_record`: the log shows the last records of the bursts, and counts each fault.
-/

namespace JointController

namespace Lift

/-! ## Faults -/

/-- The codes of `record_lift_fault`. -/
inductive FaultCode where
  | nonFiniteStateInterfaces | invalidJogVelocity | gateLostDuringMotion | ruckigRejectedState
  deriving DecidableEq

/-- The text of a code. -/
def FaultCode.text : FaultCode → String
  | .nonFiniteStateInterfaces => "non_finite_state_interfaces"
  | .invalidJogVelocity => "invalid_jog_velocity"
  | .gateLostDuringMotion => "gate_lost_during_motion"
  | .ruckigRejectedState => "ruckig_rejected_state"

/-- A fault with the text that its line is written with. -/
structure Fault where
  code : FaultCode
  detail : String

/-! ## The log -/

/-- `kFaultHistoryCapacity`. -/
abbrev faultHistoryCapacity : ℕ := 8

/-- `kFaultBurstWindowNs`. -/
def faultBurstWindowNs : ℕ := 60000000000

/-- `kFaultLineThrottleNs`. -/
def faultLineThrottleNs : ℕ := 1000000000

/-- `LiftFaultRecord`. -/
structure FaultRecord where
  firstNs : ℕ
  lastNs : ℕ
  repeats : ℕ
  code : String
  detail : String

/-- What `strncpy` leaves in a buffer with a place for the end of the text. -/
def clip (size : ℕ) (text : String) : String := String.ofList (text.toList.take (size - 1))

/-- The members of the controller that are about its faults.  A time is zero when it is not set. -/
structure FaultLog where
  history : RingBuffer FaultRecord faultHistoryCapacity
  total : ℕ
  lastRecordNs : ℕ
  lastLineNs : ℕ
  lineSuppressed : ℕ
  lastCode : String

namespace FaultLog

/-- No fault has been recorded. -/
def empty : FaultLog := ⟨.empty ⟨0, 0, 0, "", ""⟩, 0, 0, 0, 0, ""⟩

variable (log : FaultLog) (now : ℕ)

/-- `lift_fault_line_due`. -/
def lineDue (code : FaultCode) : Bool :=
  log.lastLineNs == 0 || log.lastCode != code.text ||
    decide (faultLineThrottleNs ≤ now - log.lastLineNs)

/-- A fault that goes on. -/
def repeated (record : FaultRecord) : FaultRecord :=
  { record with lastNs := now, repeats := record.repeats + 1 }

/-- `note_lift_fault_repeat`. -/
def noteRepeat (code : FaultCode) : FaultLog :=
  { log with
    total := log.total + 1
    lineSuppressed := log.lineSuppressed + 1
    history :=
      if log.history.newest?.any fun newest => newest.code == code.text then
        log.history.modifyNewest (repeated now)
      else log.history }

/-- `new_burst`. -/
def newBurst (code : FaultCode) : Bool :=
  log.history.newest?.all fun newest =>
    log.lastRecordNs == 0 || newest.code != code.text ||
      decide (faultBurstWindowNs ≤ now - log.lastRecordNs)

/-- `write_lift_fault`. -/
def write (fault : Fault) : FaultLog where
  history :=
    if log.newBurst now fault.code then
      log.history.push ⟨now, now, 1, clip 40 fault.code.text, clip 256 fault.detail⟩
    else
      log.history.modifyNewest fun newest =>
        { repeated now newest with detail := clip 256 fault.detail }
  total := log.total + 1
  lastRecordNs := now
  lastLineNs := now
  lineSuppressed := 0
  lastCode := clip 40 fault.code.text

/-- `record_lift_fault`. -/
def record (fault : Fault) : FaultLog :=
  if log.lineDue now fault.code then log.write now fault else log.noteRepeat now fault.code

/-- An activation clears the latch and re-arms the lines.  The records stay. -/
def rearm : FaultLog :=
  { log with lastRecordNs := 0, lastLineNs := 0, lineSuppressed := 0, lastCode := "" }

/-- `last_fault_text`, in a mode that the controller shows. -/
def lastFaultText (mode : Mode) : String :=
  if mode = .fault then
    (log.history.newest?.map fun newest =>
      newest.code ++ if newest.detail = "" then "" else ": " ++ newest.detail).getD ""
  else ""

end FaultLog

/-! ## Bursts -/

/-- The records of all bursts, the newest first, and when the last line was written since the last
activation, or zero. -/
structure Bursts where
  records : List FaultRecord
  last : ℕ

namespace Bursts

variable (b : Bursts) (now : ℕ)

/-- No fault has been recorded. -/
def empty : Bursts := ⟨[], 0⟩

/-- A fault goes on with the newest burst when that is of its kind, and the last line was written
since the last activation and less than a minute ago. -/
def continues (code : FaultCode) : Bool :=
  b.last != 0 && (b.records.head?.any fun newest => newest.code == code.text) &&
    decide (now - b.last < faultBurstWindowNs)

/-- A fault.  The details are those of the last line. -/
def record (fault : Fault) : Bursts :=
  if b.continues now fault.code then
    if faultLineThrottleNs ≤ now - b.last then
      { records := b.records.modifyHead fun newest =>
          { FaultLog.repeated now newest with detail := clip 256 fault.detail }
        last := now }
    else { b with records := b.records.modifyHead (FaultLog.repeated now) }
  else
    { records := ⟨now, now, 1, fault.code.text, clip 256 fault.detail⟩ :: b.records
      last := now }

/-- An activation. -/
def rearm : Bursts := { b with last := 0 }

/-- How many faults the records count. -/
def count : ℕ := (b.records.map FaultRecord.repeats).sum

end Bursts

/-! ## The log shows the last bursts -/

/-- The log shows the last records of the bursts, and its lines are those of the newest one. -/
structure Refines (log : FaultLog) (b : Bursts) : Prop where
  history : log.history.toList = b.records.take faultHistoryCapacity
  line : log.lastLineNs = b.last
  record : log.lastRecordNs = b.last
  code : b.last ≠ 0 → ∃ newest, b.records.head? = some newest ∧ newest.code = log.lastCode
  total : log.total = b.count

theorem clip_text (code : FaultCode) : clip 40 code.text = code.text := by
  cases code <;> rfl

theorem take_modifyHead {α : Type*} (f : α → α) (l : List α) (n : ℕ) :
    (l.take (n + 1)).modifyHead f = (l.modifyHead f).take (n + 1) := by
  cases l <;> rfl

theorem take_cons_take {α : Type*} (x : α) (l : List α) (n : ℕ) :
    (x :: l.take (n + 1)).take (n + 1) = (x :: l).take (n + 1) := by
  rw [List.take_succ_cons, List.take_succ_cons, List.take_take, Nat.min_eq_left n.le_succ]

/-- A change of the newest record that counts one more fault. -/
theorem sum_modifyHead {f : FaultRecord → FaultRecord}
    (hf : ∀ r, (f r).repeats = r.repeats + 1) {records : List FaultRecord} {newest : FaultRecord}
    (h : records.head? = some newest) :
    ((records.modifyHead f).map FaultRecord.repeats).sum =
      (records.map FaultRecord.repeats).sum + 1 := by
  cases records with
  | nil => cases h
  | cons r rest =>
    simp only [List.modifyHead_cons, List.map_cons, List.sum_cons, hf]
    omega

variable {log : FaultLog} {b : Bursts}

theorem refines_empty : Refines .empty .empty :=
  ⟨RingBuffer.toList_empty _, rfl, rfl, fun h => absurd rfl h, rfl⟩

theorem refines_rearm (h : Refines log b) : Refines log.rearm b.rearm :=
  ⟨h.history, rfl, rfl, fun hset => absurd rfl hset, h.total⟩

/-- The newest record of the log is that of the bursts. -/
theorem Refines.newest? (h : Refines log b) : log.history.newest? = b.records.head? := by
  rw [RingBuffer.newest?_eq_head?, h.history]
  cases b.records <;> rfl

/-- A line begins a burst exactly when the bursts do not go on. -/
theorem Refines.newBurst (h : Refines log b) (now : ℕ) (code : FaultCode) :
    log.newBurst now code = !b.continues now code := by
  unfold FaultLog.newBurst Bursts.continues
  rw [h.newest?, h.record]
  cases b.records.head? with
  | none => simp
  | some newest =>
    rw [Bool.eq_iff_iff]
    simp only [Option.all_some, Option.any_some, Bool.or_eq_true, beq_iff_eq, bne_iff_ne,
      decide_eq_true_eq, Bool.not_eq_true', Bool.and_eq_false_iff, bne_eq_false_iff_eq,
      beq_eq_false_iff_ne, decide_eq_false_iff_not, not_lt]

/-- A line that is not due repeats a burst that goes on. -/
theorem Refines.of_not_due (h : Refines log b) {now : ℕ} {code : FaultCode}
    (hdue : log.lineDue now code = false) :
    b.continues now code = true ∧ now - b.last < faultLineThrottleNs := by
  simp only [FaultLog.lineDue, h.line, Bool.or_eq_false_iff, beq_eq_false_iff_ne,
    bne_eq_false_iff_eq, decide_eq_false_iff_not, not_le] at hdue
  obtain ⟨⟨hset, hcode⟩, hlate⟩ := hdue
  obtain ⟨newest, hnewest, hlast⟩ := h.code hset
  refine ⟨?_, hlate⟩
  unfold Bursts.continues
  rw [hnewest]
  simp only [Option.any_some, Bool.and_eq_true, bne_iff_ne, beq_iff_eq, decide_eq_true_eq]
  exact ⟨⟨hset, hlast.trans hcode⟩, hlate.trans (by decide)⟩

/-- The newest burst is of the kind of a fault that goes on with it. -/
theorem Bursts.newest_of_continues {now : ℕ} {code : FaultCode}
    (h : b.continues now code = true) :
    b.last ≠ 0 ∧ ∃ newest, b.records.head? = some newest ∧ newest.code = code.text := by
  simp only [Bursts.continues, Bool.and_eq_true, bne_iff_ne, Option.any_eq_true, beq_iff_eq] at h
  obtain ⟨⟨hset, newest, hnewest, hcode⟩, -⟩ := h
  exact ⟨hset, newest, hnewest, hcode⟩

/-- What goes on keeps its code. -/
theorem head?_modifyHead {f : FaultRecord → FaultRecord} {records : List FaultRecord}
    {newest : FaultRecord} (h : records.head? = some newest) :
    (records.modifyHead f).head? = some (f newest) := by
  cases records with
  | nil => cases h
  | cons r rest =>
    cases h
    rfl

/-- The log shows what the bursts record. -/
theorem refines_record (h : Refines log b) (now : ℕ) (fault : Fault) :
    Refines (log.record now fault) (b.record now fault) := by
  unfold FaultLog.record Bursts.record
  cases hdue : log.lineDue now fault.code with
  | false =>
    obtain ⟨hcontinues, hlate⟩ := h.of_not_due hdue
    obtain ⟨hset, newest, hnewest, hcode⟩ := Bursts.newest_of_continues hcontinues
    rw [if_neg Bool.false_ne_true, if_pos hcontinues, if_neg (Nat.not_le.mpr hlate)]
    refine ⟨?_, h.line, h.record, fun _ => ?_, ?_⟩
    · unfold FaultLog.noteRepeat
      dsimp only
      rw [h.newest?, hnewest, Option.any_some, hcode, beq_self_eq_true, if_pos rfl,
        RingBuffer.toList_modifyNewest, h.history]
      exact take_modifyHead _ _ _
    · obtain ⟨newest', hnewest', hlast⟩ := h.code hset
      exact ⟨_, head?_modifyHead hnewest', hlast⟩
    · exact (congrArg Nat.succ h.total).trans (sum_modifyHead (fun _ => rfl) hnewest).symm
  | true =>
    rw [if_pos rfl]
    have hburst := h.newBurst now fault.code
    cases hcontinues : b.continues now fault.code with
    | false =>
      rw [hcontinues] at hburst
      rw [if_neg Bool.false_ne_true]
      refine ⟨?_, rfl, rfl, fun _ => ⟨_, rfl, (clip_text fault.code).symm⟩, ?_⟩
      · unfold FaultLog.write
        dsimp only
        rw [hburst, Bool.not_false, if_pos rfl, RingBuffer.toList_push, h.history, clip_text]
        exact take_cons_take _ _ _
      · have htotal := h.total
        change log.total + 1 = _
        unfold Bursts.count at htotal ⊢
        rw [List.map_cons, List.sum_cons, htotal]
        exact Nat.add_comm _ _
    | true =>
      obtain ⟨hset, newest, hnewest, hcode⟩ := Bursts.newest_of_continues hcontinues
      rw [hcontinues] at hburst
      have hlate : faultLineThrottleNs ≤ now - b.last := by
        obtain ⟨newest', hnewest', hlast⟩ := h.code hset
        obtain rfl : newest = newest' := Option.some_inj.mp (hnewest.symm.trans hnewest')
        simp only [FaultLog.lineDue, h.line, Bool.or_eq_true, beq_iff_eq, bne_iff_ne,
          decide_eq_true_eq] at hdue
        rcases hdue with (hzero | hother) | hlate
        · exact absurd hzero hset
        · exact absurd (hlast.symm.trans hcode) hother
        · exact hlate
      rw [if_pos rfl, if_pos hlate]
      refine ⟨?_, rfl, rfl, fun _ => ⟨_, head?_modifyHead hnewest, ?_⟩, ?_⟩
      · unfold FaultLog.write
        dsimp only
        rw [hburst, Bool.not_true, if_neg Bool.false_ne_true, RingBuffer.toList_modifyNewest,
          h.history]
        exact take_modifyHead _ _ _
      · exact hcode.trans (clip_text fault.code).symm
      · exact (congrArg Nat.succ h.total).trans (sum_modifyHead (fun _ => rfl) hnewest).symm

end Lift

end JointController
