import JointController.Hardware.Cia402
import JointController.Library.BoundedRetries
import Mathlib.Data.List.Induction

/-!
# Runs of fault steps

What the CiA 402 state machine does while the drive reports a fault: bounded attempts to reset it,
each followed by a pause, which is an instance of `Retries`.

* `decisions`, `after`: the decisions on a list of inputs, and the controller that is left.
* `FaultRun`: a maximal run of consecutive fault steps in a list of inputs.
* `retries_step`: a fault step is a tick of the retries.
* `FaultRun.resets_bounded`: the number of reset pulses in a run, their spacing, and what the run
  does not do.
* `FaultRun.exhaustion_final_iff`: exhaustion is reported with all attempts made, and is final,
  exactly when every fault step at which an attempt is due requests it.
-/

namespace JointController

namespace Hardware

namespace Cia402Decision

/-- The decision is a fault reset pulse. -/
def resets (decision : Cia402Decision) : Bool := decision.controlWord == 0x0080

/-- Bit 7 of the control word is low. -/
def resetLow (decision : Cia402Decision) : Bool := decision.controlWord &&& 0x0080 == 0

end Cia402Decision

namespace Cia402Controller

variable (c : Cia402Controller)

/-! ## Lists of inputs -/

/-- The decisions on inputs one after the other. -/
def decisions : Cia402Controller → List Cia402Inputs → List Cia402Decision
  | _, [] => []
  | c, inputs :: rest => (c.step inputs).1 :: decisions (c.step inputs).2 rest

/-- The controller after the inputs. -/
def after : Cia402Controller → List Cia402Inputs → Cia402Controller
  | c, [] => c
  | c, inputs :: rest => after (c.step inputs).2 rest

@[simp] theorem decisions_nil : c.decisions [] = [] := rfl

@[simp] theorem decisions_cons (inputs : Cia402Inputs) (rest : List Cia402Inputs) :
    c.decisions (inputs :: rest) = (c.step inputs).1 :: (c.step inputs).2.decisions rest := rfl

theorem length_decisions (all : List Cia402Inputs) : (c.decisions all).length = all.length := by
  induction all generalizing c with
  | nil => rfl
  | cons inputs rest ih => simp [ih]

theorem decisions_append (all all' : List Cia402Inputs) :
    c.decisions (all ++ all') = c.decisions all ++ (c.after all).decisions all' := by
  induction all generalizing c with
  | nil => rfl
  | cons inputs rest ih =>
    rw [List.cons_append, decisions_cons, decisions_cons, ih]
    rfl

theorem after_append (all all' : List Cia402Inputs) :
    c.after (all ++ all') = (c.after all).after all' := by
  induction all generalizing c with
  | nil => rfl
  | cons inputs rest ih => exact ih _

/-! ## A fault step as a tick -/

/-- The attempts to reset a fault as bounded retries. -/
def retries : Retries where
  max := c.maxFaultResetAttempts
  pause := c.faultResetBackoffCycles
  used := c.faultResetAttempts
  waiting := c.faultResetBackoffRemaining

/-- What a fault step sends. -/
def faultWord : Retries.Outcome → UInt16
  | .tried => 0x0080
  | .paused | .refused => 0x0006

variable {inputs : Cia402Inputs}

theorem step_of_fault (h : inputs.fault = true) : c.step inputs = c.faultStep inputs := if_pos h

/-- A step without a fault starts all over. -/
theorem step_of_not_fault (h : inputs.fault = false) : (c.step inputs).2 = c.reset := by
  have hno : ¬ inputs.fault = true := by simp [h]
  unfold step
  rw [if_neg hno]
  split_ifs <;> rfl

/-- A fault step is a tick of the retries, and a refusal is reported as exhaustion from then on. -/
theorem retries_step (h : inputs.fault = true) :
    (c.step inputs).2.retries = (c.retries.tick inputs.requestFaultReset).2 ∧
      (c.step inputs).1.controlWord =
        faultWord (c.retries.tick inputs.requestFaultReset).1 ∧
      (c.step inputs).2.recoveryExhausted = (c.recoveryExhausted ||
        (c.retries.tick inputs.requestFaultReset).1 == .refused) ∧
      (c.step inputs).1.recoveryExhausted = (c.step inputs).2.recoveryExhausted := by
  rw [c.step_of_fault h]
  obtain ⟨hwaiting, htick⟩ | ⟨h0, hasked, hleft, htick⟩ | ⟨h0, hno, htick⟩ :=
    c.retries.tick_cases inputs.requestFaultReset
  · have hstep : c.faultStep inputs = (forbids inputs 0x0006 c.recoveryExhausted,
        { c with faultResetBackoffRemaining := c.faultResetBackoffRemaining - 1 }) :=
      if_pos hwaiting
    rw [hstep, htick]
    exact ⟨rfl, rfl, by simp, rfl⟩
  · have hzero : ¬ 0 < c.faultResetBackoffRemaining := Nat.not_lt.mpr (Nat.le_of_eq h0)
    have hstep : c.faultStep inputs = (forbids inputs 0x0080 c.recoveryExhausted,
        { c with
          faultResetAttempts := c.faultResetAttempts + 1
          faultResetBackoffRemaining := c.faultResetBackoffCycles }) := by
      unfold faultStep
      rw [if_neg hzero, if_pos ⟨hasked, hleft⟩]
    rw [hstep, htick]
    exact ⟨rfl, rfl, by simp, rfl⟩
  · have hzero : ¬ 0 < c.faultResetBackoffRemaining := Nat.not_lt.mpr (Nat.le_of_eq h0)
    have hstep : c.faultStep inputs =
        (forbids inputs 0x0006 true, { c with recoveryExhausted := true }) := by
      unfold faultStep
      rw [if_neg hzero]
      exact if_neg hno
    rw [hstep, htick]
    exact ⟨rfl, rfl, by simp, rfl⟩

/-- A step keeps the parameters. -/
theorem reset_step (inputs : Cia402Inputs) : (c.step inputs).2.reset = c.reset := by
  cases h : inputs.fault with
  | true =>
    rw [c.step_of_fault h]
    unfold faultStep
    split_ifs <;> rfl
  | false =>
    rw [c.step_of_not_fault h]
    rfl

theorem reset_after (all : List Cia402Inputs) : (c.after all).reset = c.reset := by
  induction all generalizing c with
  | nil => rfl
  | cons inputs rest ih => exact (ih _).trans (c.reset_step inputs)

theorem faultStep_allowMotion (inputs : Cia402Inputs) :
    (c.faultStep inputs).1.allowMotion = false := by
  unfold faultStep
  split_ifs <;> rfl

/-! ## Steps that all report a fault -/

variable {run : List Cia402Inputs}

/-- The control words of fault steps are those of the outcomes of their ticks. -/
theorem controlWord_decisions (hrun : ∀ inputs ∈ run, inputs.fault = true) :
    (c.decisions run).map (·.controlWord) =
      (c.retries.outcomes (run.map (·.requestFaultReset))).map faultWord := by
  induction run generalizing c with
  | nil => rfl
  | cons inputs rest ih =>
    obtain ⟨hretries, hword, -, -⟩ := c.retries_step (hrun inputs List.mem_cons_self)
    have hrest := ih (c.step inputs).2 fun i hi => hrun i (List.mem_cons_of_mem _ hi)
    simp only [decisions_cons, List.map_cons, Retries.outcomes_cons]
    rw [hrest, hword, hretries]

/-- A fault step reports exhaustion exactly when one of the steps up to it was a refusal, or if it
was reported before. -/
theorem recoveryExhausted_decisions (hrun : ∀ inputs ∈ run, inputs.fault = true) {i : ℕ}
    {decision : Cia402Decision} (hi : (c.decisions run)[i]? = some decision) :
    decision.recoveryExhausted = true ↔ c.recoveryExhausted = true ∨
      ∃ k ≤ i, (c.retries.outcomes (run.map (·.requestFaultReset)))[k]? = some .refused := by
  induction run generalizing c i with
  | nil => simp at hi
  | cons inputs rest ih =>
    obtain ⟨hretries, -, hafter, hreports⟩ := c.retries_step (hrun inputs List.mem_cons_self)
    rw [decisions_cons] at hi
    simp only [List.map_cons, Retries.outcomes_cons]
    cases i with
    | zero =>
      rw [List.getElem?_cons_zero, Option.some_inj] at hi
      rw [← hi, hreports, hafter]
      simp
    | succ i =>
      rw [List.getElem?_cons_succ] at hi
      rw [ih (c.step inputs).2 (fun i hi => hrun i (List.mem_cons_of_mem _ hi)) hi, hafter,
        hretries, Bool.or_eq_true, beq_iff_eq, or_assoc]
      refine or_congr_right ⟨?_, ?_⟩
      · rintro (hfirst | ⟨k, hk, hlater⟩)
        · exact ⟨0, Nat.zero_le _, congrArg some hfirst⟩
        · exact ⟨k + 1, Nat.succ_le_succ hk, by simpa using hlater⟩
      · rintro ⟨k, hk, hat⟩
        cases k with
        | zero => exact Or.inl (Option.some_inj.mp hat)
        | succ k => exact Or.inr ⟨k, Nat.le_of_succ_le_succ hk, by simpa using hat⟩

theorem decisions_still (hrun : ∀ inputs ∈ run, inputs.fault = true) {decision : Cia402Decision}
    (h : decision ∈ c.decisions run) :
    decision.allowMotion = false ∧ enabling decision.controlWord = false := by
  induction run generalizing c with
  | nil => simp at h
  | cons inputs rest ih =>
    rw [decisions_cons, List.mem_cons] at h
    obtain rfl | h := h
    · rw [c.step_of_fault (hrun inputs List.mem_cons_self)]
      exact ⟨c.faultStep_allowMotion inputs, c.not_enabling_faultStep inputs⟩
    · exact ih _ (fun i hi => hrun i (List.mem_cons_of_mem _ hi)) h

theorem faultWord_eq_reset (o : Retries.Outcome) : (faultWord o == 0x0080) = (o == .tried) := by
  cases o <;> rfl

/-- A fault step is a reset pulse exactly when its tick is an attempt. -/
theorem resets_iff (hrun : ∀ inputs ∈ run, inputs.fault = true) {i : ℕ}
    {decision : Cia402Decision} (hi : (c.decisions run)[i]? = some decision) :
    decision.resets = true ↔
      (c.retries.outcomes (run.map (·.requestFaultReset)))[i]? = some .tried := by
  have hword := congrArg (·[i]?) (c.controlWord_decisions hrun)
  simp only [List.getElem?_map, hi, Option.map_some] at hword
  obtain ⟨o, ho, hfault⟩ := Option.map_eq_some_iff.mp hword.symm
  rw [ho, Option.some_inj, Cia402Decision.resets, ← hfault, faultWord_eq_reset, beq_iff_eq]

/-- The first steps have as many reset pulses as their ticks have attempts. -/
theorem countP_resets_take (hrun : ∀ inputs ∈ run, inputs.fault = true) (i : ℕ) :
    ((c.decisions run).take i).countP (·.resets) =
      ((c.retries.outcomes (run.map (·.requestFaultReset))).take i).count .tried := by
  have hwords : ((c.decisions run).take i).map (·.controlWord) =
      ((c.retries.outcomes (run.map (·.requestFaultReset))).take i).map faultWord := by
    rw [List.map_take, List.map_take, c.controlWord_decisions hrun]
  have hcount := congrArg (List.countP (· == 0x0080)) hwords
  rw [List.countP_map, List.countP_map] at hcount
  rw [List.count_eq_countP]
  refine hcount.trans (List.countP_congr fun o _ => ?_)
  rw [Function.comp_apply, faultWord_eq_reset]

end Cia402Controller

/-! ## Maximal runs -/

/-- A maximal run of consecutive fault steps in a list of inputs. -/
structure FaultRun where
  before : List Cia402Inputs
  run : List Cia402Inputs
  rest : List Cia402Inputs
  fault : ∀ inputs ∈ run, inputs.fault = true
  starts : ∀ inputs ∈ before.getLast?, inputs.fault = false
  ends : ∀ inputs ∈ rest.head?, inputs.fault = false

namespace FaultRun

open Cia402Controller

variable (r : FaultRun) (c : Cia402Controller)

/-- All the inputs. -/
def inputs : List Cia402Inputs := r.before ++ r.run ++ r.rest

/-- The decisions of the run, among those on all the inputs. -/
def decisions : List Cia402Decision :=
  ((c.decisions r.inputs).drop r.before.length).take r.run.length

theorem decisions_eq : r.decisions c = (c.after r.before).decisions r.run := by
  have hbefore := c.length_decisions r.before
  have hrun := (c.after r.before).length_decisions r.run
  unfold decisions inputs
  rw [List.append_assoc, decisions_append, ← hbefore, List.drop_left, decisions_append, ← hrun,
    List.take_left]

/-- A maximal run finds the counters as a controller has them that was just made or reset. -/
theorem after_before : c.reset.after r.before = c.reset := by
  cases hbefore : r.before using List.reverseRecOn with
  | nil => rfl
  | append_singleton rest last =>
    have hlast : last.fault = false := r.starts last (by rw [hbefore]; simp)
    rw [after_append]
    show ((c.reset.after rest).step last).2 = c.reset
    rw [step_of_not_fault _ hlast, reset_after]
    rfl

/-! ## Attempts and their spacing -/

/-- In steps with these decisions there are at most `max` fault reset pulses, any two of them more
than `backoff` steps apart, and the reset bit is low in the `backoff` steps after a pulse.  No step
allows motion or sends an enabling control word. -/
structure ResetsBounded (max backoff : ℕ) (decisions : List Cia402Decision) : Prop where
  bounded : decisions.countP (·.resets) ≤ max
  spaced : ∀ i j, i < j → ∀ d ∈ decisions[i]?, ∀ e ∈ decisions[j]?, d.resets = true →
    e.resets = true → i + backoff < j
  low : ∀ i k, i < k → k ≤ i + backoff → ∀ d ∈ decisions[i]?, ∀ e ∈ decisions[k]?,
    d.resets = true → e.resetLow = true
  still : ∀ d ∈ decisions, d.allowMotion = false ∧ enabling d.controlWord = false

/-- Between two fault reset pulses there is a step with the reset bit low. -/
def ResetsSeparated (decisions : List Cia402Decision) : Prop :=
  ∀ i j : ℕ, i < j → ∀ d ∈ decisions[i]?, ∀ e ∈ decisions[j]?, d.resets = true →
    e.resets = true → ∃ k : ℕ, i < k ∧ k < j ∧ ∃ f ∈ decisions[k]?, f.resetLow = true

/-- Steps in which the bit is low after each pulse separate the pulses. -/
theorem ResetsBounded.separated {max backoff : ℕ} {decisions : List Cia402Decision}
    (h : ResetsBounded max backoff decisions) (hbackoff : 0 < backoff) :
    ResetsSeparated decisions := by
  intro i j hij d hd e he hdr her
  have hspaced : i + backoff < j := h.spaced i j hij d hd e he hdr her
  have hj : j < decisions.length := (List.getElem?_eq_some_iff.mp he).1
  have hat : decisions[i + 1]? = some (decisions.get ⟨i + 1, by omega⟩) :=
    List.getElem?_eq_getElem (by omega)
  exact ⟨i + 1, by omega, by omega, _, hat, h.low i (i + 1) (by omega) (by omega) d hd _ hat hdr⟩

/-- A fault step that is not a reset pulse has the reset bit low. -/
theorem resets_or_resetLow {d : Cia402Decision} (h : d ∈ (c.after r.before).decisions r.run) :
    d.resets = true ∨ d.resetLow = true := by
  have hmem : d.controlWord ∈ ((c.after r.before).decisions r.run).map (·.controlWord) :=
    List.mem_map_of_mem h
  rw [controlWord_decisions _ r.fault] at hmem
  obtain ⟨o, -, ho⟩ := List.mem_map.mp hmem
  unfold Cia402Decision.resets Cia402Decision.resetLow
  rw [← ho]
  cases o with
  | tried => exact Or.inl rfl
  | paused => exact Or.inr rfl
  | refused => exact Or.inr rfl

/-- The fault resets of a maximal run of fault steps are bounded and spaced.  With a backoff of at
least one step they are separated by steps with the reset bit low. -/
theorem resets_bounded :
    ResetsBounded c.maxFaultResetAttempts c.faultResetBackoffCycles (r.decisions c) ∧
      (0 < c.faultResetBackoffCycles → ResetsSeparated (r.decisions c)) := by
  set s := c.after r.before with hs
  have hreset : s.reset = c.reset := c.reset_after r.before
  have hmax : s.maxFaultResetAttempts = c.maxFaultResetAttempts :=
    congrArg (·.maxFaultResetAttempts) hreset
  have hpause : s.faultResetBackoffCycles = c.faultResetBackoffCycles :=
    congrArg (·.faultResetBackoffCycles) hreset
  have hspaced : ∀ i j, i < j → ∀ d ∈ (s.decisions r.run)[i]?, ∀ e ∈ (s.decisions r.run)[j]?,
      d.resets = true → e.resets = true → i + c.faultResetBackoffCycles < j := by
    intro i j hij d hd e he hdr her
    have h := s.retries.tried_spacing hij ((s.resets_iff r.fault hd).mp hdr)
      ((s.resets_iff r.fault he).mp her)
    exact hpause ▸ h
  have hbounds : ResetsBounded c.maxFaultResetAttempts c.faultResetBackoffCycles
      (r.decisions c) := by
    rw [r.decisions_eq, ← hs]
    refine ⟨?_, hspaced, ?_, ?_⟩
    · have hcount := s.countP_resets_take r.fault (s.decisions r.run).length
      rw [List.take_length] at hcount
      calc (s.decisions r.run).countP (·.resets)
          ≤ (s.retries.outcomes (r.run.map (·.requestFaultReset))).count .tried :=
            hcount ▸ (List.take_sublist _ _).count_le _
        _ ≤ s.retries.max - s.retries.used := s.retries.count_tried_le _
        _ ≤ s.maxFaultResetAttempts := Nat.sub_le _ _
        _ = c.maxFaultResetAttempts := hmax
    · intro i k hik hk d hd e he hdr
      obtain her | hlow := r.resets_or_resetLow c (List.mem_of_getElem? he)
      · have hlt := hspaced i k hik d hd e he hdr her
        omega
      · exact hlow
    · exact fun d hd => s.decisions_still r.fault hd
  exact ⟨hbounds, hbounds.separated⟩

/-- A drive that reports a fault. -/
def faulted (requestFaultReset : Bool) : Cia402Inputs where
  statusWord := 0x0008
  errorCode := 0x2310
  modeDisplay := 9
  expectedMode := 9
  linkOperational := true
  pdoFresh := true
  workingCounterOk := true
  requestEnable := true
  requestQuickStop := false
  requestFaultReset := requestFaultReset

theorem fault_faulted : ∀ requestFaultReset, (faulted requestFaultReset).fault = true := by decide

/-- A drive that reports a fault in two steps, with a request to reset it in each as given. -/
def faultedTwice (first second : Bool) : FaultRun where
  before := []
  run := [faulted first, faulted second]
  rest := []
  fault := by
    intro inputs hmem
    rw [List.mem_pair] at hmem
    obtain rfl | rfl := hmem
    · exact fault_faulted first
    · exact fault_faulted second
  starts := by simp
  ends := by simp

/-- Without a backoff two fault reset pulses follow each other directly. -/
theorem not_separated_of_no_backoff :
    ¬ ResetsSeparated ((faultedTwice true true).decisions
      { maxFaultResetAttempts := 2, faultResetBackoffCycles := 0 }) := by
  intro h
  obtain ⟨k, h0, h1, -⟩ := h 0 1 Nat.zero_lt_one _ rfl _ rfl rfl rfl
  omega

/-! ## Exhaustion -/

/-- A step that reports exhaustion comes with all the attempts made, and none follows it. -/
def ExhaustionFinal (max : ℕ) (decisions : List Cia402Decision) : Prop :=
  ∀ i : ℕ, ∀ d ∈ decisions[i]?, d.recoveryExhausted = true →
    (decisions.take (i + 1)).countP (·.resets) = max ∧
      ∀ j, i < j → ∀ e ∈ decisions[j]?, e.resets = false

/-- With no attempt made and no exhaustion reported, exhaustion is final exactly when the refusals
are. -/
theorem exhaustionFinal_iff_refusedFinal (hattempts : c.faultResetAttempts = 0)
    (hexhausted : c.recoveryExhausted = false) {run : List Cia402Inputs}
    (hrun : ∀ inputs ∈ run, inputs.fault = true) :
    ExhaustionFinal c.maxFaultResetAttempts (c.decisions run) ↔
      c.retries.RefusedFinal (run.map (·.requestFaultReset)) := by
  have hcounts := c.countP_resets_take hrun
  have hresets {i : ℕ} {d : Cia402Decision} (hd : (c.decisions run)[i]? = some d) :
      d.resets = true ↔
        (c.retries.outcomes (run.map (·.requestFaultReset)))[i]? = some .tried :=
    c.resets_iff hrun hd
  have hlength : (c.decisions run).length =
      (c.retries.outcomes (run.map (·.requestFaultReset))).length := by
    rw [c.length_decisions, c.retries.length_outcomes, List.length_map]
  have hreports {i : ℕ} {d : Cia402Decision} (hd : (c.decisions run)[i]? = some d) :
      d.recoveryExhausted = true ↔
        ∃ k ≤ i, (c.retries.outcomes (run.map (·.requestFaultReset)))[k]? = some .refused := by
    rw [c.recoveryExhausted_decisions hrun hd, hexhausted]
    simp
  generalize run.map (·.requestFaultReset) = asked at *
  constructor
  · intro hfinal i hi
    have hi' : i < (c.decisions run).length := by
      rw [hlength]
      exact (List.getElem?_eq_some_iff.mp hi).1
    have hd := List.getElem?_eq_getElem hi'
    obtain ⟨hcount, -⟩ := hfinal i _ hd ((hreports hd).mpr ⟨i, Nat.le_refl i, hi⟩)
    rw [hcounts, List.take_add_one, hi, List.count_append] at hcount
    have husedZero : c.retries.used = 0 := hattempts
    rw [husedZero, Nat.zero_add]
    exact hcount
  · intro hfinal i d hd hexh
    obtain ⟨k, hk, hrefused⟩ := (hreports hd).mp hexh
    have hused := hfinal k hrefused
    have hzero : c.retries.used = 0 := hattempts
    have hle := c.retries.count_tried_le asked
    have hmono : ((c.retries.outcomes asked).take k).count .tried ≤
        ((c.retries.outcomes asked).take (i + 1)).count .tried :=
      (List.take_sublist_take_left (by omega)).count_le _
    have htotal : ((c.retries.outcomes asked).take (i + 1)).count .tried ≤
        (c.retries.outcomes asked).count .tried := (List.take_sublist _ _).count_le _
    refine ⟨?_, ?_⟩
    · rw [hcounts]
      show _ = c.retries.max
      omega
    · intro j hij e he
      have hnot := hfinal.not_tried (Nat.lt_of_le_of_lt hk hij) hrefused
      exact eq_false_of_ne_true fun hpulse => hnot ((hresets he).mp hpulse)

/-- Exhaustion is reported only with all attempts made, and is final, exactly when every fault step
at which an attempt is due requests the reset. -/
theorem exhaustion_final_iff :
    ExhaustionFinal c.maxFaultResetAttempts (r.decisions c.reset) ↔
      ∀ k < c.maxFaultResetAttempts,
        ∀ inputs ∈ r.run[k * (c.faultResetBackoffCycles + 1)]?,
          inputs.requestFaultReset = true := by
  rw [r.decisions_eq, r.after_before]
  have hfinal := exhaustionFinal_iff_refusedFinal c.reset rfl rfl r.fault
  rw [show c.maxFaultResetAttempts = c.reset.maxFaultResetAttempts from rfl, hfinal,
    Retries.refused_final_iff _ (Nat.zero_le _)]
  refine forall_congr' fun k => ?_
  rw [show c.reset.retries.used + k = k from Nat.zero_add k,
    show c.reset.retries.waiting + k * (c.reset.retries.pause + 1) =
      k * (c.faultResetBackoffCycles + 1) from Nat.zero_add _, List.getElem?_map]
  refine imp_congr_right fun _ => ?_
  cases r.run[k * (c.faultResetBackoffCycles + 1)]? with
  | none => simp
  | some inputs => simp

/-- A first fault step that requests no reset reports exhaustion before any attempt, and the next
one makes an attempt. -/
theorem not_exhaustionFinal_of_unasked :
    ¬ ExhaustionFinal 1 ((faultedTwice false true).decisions
      { maxFaultResetAttempts := 1, faultResetBackoffCycles := 10 }) := by
  intro h
  obtain ⟨-, hnone⟩ := h 0 _ rfl rfl
  exact Bool.false_ne_true (hnone 1 Nat.zero_lt_one _ rfl).symm

end FaultRun

end Hardware

end JointController
