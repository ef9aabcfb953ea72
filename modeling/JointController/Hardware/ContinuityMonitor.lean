import JointController.Hardware.Continuity
import JointController.Library.Double
import Mathlib.Data.List.Induction
import Mathlib.Tactic.Common

/-!
# The continuity guard over a sequence of calls

`FeedbackContinuityGuard` with the values that its callers can hand over: positions that need not
be finite, times that need not be positive, and a 64-bit epoch.

* `Guard`, `Guard.reset`, `Guard.invalidate`, `Guard.observe`: the guard and its calls.
* `Guard.Tracks`, `tracks_run`: after any calls the guard remembers the last sample, unless
  something dropped it.
* `jumpAt_iff`: the calls at which a jump is reported.
* `epoch_run`: the epoch counts the dropped baselines, in 64 bits.
* `observe_history`: both together.
* `observe_represents`: for finite positions and positive times this is the guard of the cycle.
-/

namespace JointController

namespace Hardware

namespace ContinuityMonitor

/-! ## The guard -/

/-- `FeedbackContinuityResult`. -/
structure Result where
  state : FeedbackContinuityState := .invalid
  previousPositionM : Double := .finite 0
  currentPositionM : Double := .finite 0
  deltaM : Double := .finite 0
  thresholdM : Double := .finite 0
  intervalMs : Double := .finite 0
  epoch : UInt64 := 0
  source : UInt32 := 0
  deriving DecidableEq

/-- `FeedbackContinuityGuard`. -/
structure Guard where
  thresholdM : Double := .finite (1 / 5)
  maxIntervalNs : ℤ := 100000000
  baselineValid : Bool := false
  previousPositionM : Double := .finite 0
  previousSampleTimeNs : ℤ := 0
  epoch : UInt64 := 0
  source : UInt32 := 0
  deriving DecidableEq

/-- The arguments of `observe`. -/
structure Sample where
  positionM : Double
  sampleTimeNs : ℤ
  source : UInt32
  fresh : Bool
  deriving DecidableEq

/-- The samples that `observe` compares. -/
def Sample.Usable (sample : Sample) : Prop :=
  sample.fresh = true ∧ sample.positionM.isFinite = true ∧ 0 < sample.sampleTimeNs

instance (sample : Sample) : Decidable sample.Usable := inferInstanceAs (Decidable (_ ∧ _))

namespace Guard

variable (g : Guard)

/-- `configure`. -/
def configure (thresholdM : Double) (maxIntervalNs : ℤ) : Guard :=
  { g with
    thresholdM :=
      if thresholdM.isFinite = true ∧ .finite 0 < thresholdM then thresholdM else g.thresholdM
    maxIntervalNs := if 0 < maxIntervalNs then maxIntervalNs else g.maxIntervalNs }

/-- The constructor. -/
def make (thresholdM : Double) (maxIntervalNs : ℤ) : Guard :=
  ({} : Guard).configure thresholdM maxIntervalNs

/-- `advance_epoch`. -/
def advanceEpoch (source : UInt32) : Guard :=
  { g with
    epoch := g.epoch + 1
    source := source
    baselineValid := false
    previousPositionM := .finite 0
    previousSampleTimeNs := 0 }

/-- `reset`. -/
def reset (source : UInt32) : Guard := g.advanceEpoch source

/-- `invalidate`. -/
def invalidate (source : UInt32) : Guard :=
  if g.baselineValid = true ∨ source ≠ g.source then g.advanceEpoch source else g

/-- The epoch that a usable sample belongs to.  Both times are positive where they are
subtracted. -/
def epochFor (sample : Sample) : Guard :=
  if sample.source ≠ g.source then g.advanceEpoch sample.source
  else if g.baselineValid = true ∧ (sample.sampleTimeNs ≤ g.previousSampleTimeNs ∨
      g.maxIntervalNs < sample.sampleTimeNs - g.previousSampleTimeNs) then
    g.advanceEpoch sample.source
  else g

/-- The baseline is the sample. -/
def remember (sample : Sample) : Guard :=
  { g with
    previousPositionM := sample.positionM
    previousSampleTimeNs := sample.sampleTimeNs
    baselineValid := true }

/-- The comparison of a sample with the baseline. -/
def compare (sample : Sample) : Result :=
  let result : Result :=
    { currentPositionM := sample.positionM
      thresholdM := g.thresholdM
      epoch := g.epoch
      source := g.source }
  if ¬ g.baselineValid then
    { result with previousPositionM := sample.positionM, state := .baselineEstablished }
  else
    let delta := Double.abs (sample.positionM - g.previousPositionM)
    { result with
      previousPositionM := g.previousPositionM
      deltaM := delta
      intervalMs := .finite ((sample.sampleTimeNs - g.previousSampleTimeNs) / 1000000)
      state := if g.thresholdM < delta then .jumpDetected else .continuous }

/-- `observe`. -/
def observe (sample : Sample) : Result × Guard :=
  if ¬ sample.Usable then
    let dropped := g.invalidate sample.source
    ({ currentPositionM := sample.positionM
       thresholdM := g.thresholdM
       epoch := dropped.epoch
       source := dropped.source }, dropped)
  else
    let current := g.epochFor sample
    (current.compare sample, current.remember sample)

end Guard

/-! ## Calls -/

/-- The calls of a guard. -/
inductive Call where
  | observe : Sample → Call
  | reset : UInt32 → Call
  | invalidate : UInt32 → Call

/-- A call that hands over a usable sample. -/
def Call.Accepts : Call → Prop
  | observe sample => sample.Usable
  | _ => False

/-- A reset, an invalidation, or a sample that invalidates. -/
def Call.Drops : Call → Prop
  | observe sample => ¬ sample.Usable
  | _ => True

/-- The guard after a call. -/
def Guard.step (g : Guard) : Call → Guard
  | .observe sample => (g.observe sample).2
  | .reset source => g.reset source
  | .invalidate source => g.invalidate source

/-- The guard after some calls. -/
def Guard.run (g : Guard) (calls : List Call) : Guard := calls.foldl Guard.step g

/-- What the call at an index reports. -/
def Guard.reportAt (g : Guard) (calls : List Call) (k : ℕ) : Option Result :=
  match calls[k]? with
  | some (.observe sample) => some ((g.run (calls.take k)).observe sample).1
  | _ => none

variable {g : Guard} {sample : Sample} {calls : List Call}

theorem Guard.run_append (g : Guard) (xs ys : List Call) : g.run (xs ++ ys) = (g.run xs).run ys :=
  List.foldl_append

theorem Guard.run_singleton (g : Guard) (call : Call) : g.run [call] = g.step call := rfl

theorem Guard.observe_of_usable (h : sample.Usable) :
    g.observe sample = ((g.epochFor sample).compare sample, (g.epochFor sample).remember sample) :=
  if_neg (not_not_intro h)

theorem Guard.observe_of_not_usable (h : ¬ sample.Usable) :
    (g.observe sample).1.state = .invalid ∧ (g.observe sample).2 = g.invalidate sample.source := by
  rw [Guard.observe, if_pos h]
  exact ⟨rfl, rfl⟩

/-! ## What the guard remembers -/

/-- What a guard remembers of a sequence of calls: the sample of the last call, if it is usable. -/
structure Guard.Tracks (start : Guard) (calls : List Call) (g : Guard) : Prop where
  thresholdM : g.thresholdM = start.thresholdM
  maxIntervalNs : g.maxIntervalNs = start.maxIntervalNs
  baseline : g.baselineValid = true → ∃ sample, calls.getLast? = some (.observe sample) ∧
    sample.Usable ∧ g.previousPositionM = sample.positionM ∧
      g.previousSampleTimeNs = sample.sampleTimeNs ∧ g.source = sample.source
  sample : ∀ sample, calls.getLast? = some (.observe sample) → sample.Usable →
    g.baselineValid = true

variable {start : Guard}

theorem Guard.invalidate_baselineValid (g : Guard) (source : UInt32) :
    (g.invalidate source).baselineValid = false := by
  unfold Guard.invalidate
  split_ifs with h
  · rfl
  · exact Bool.eq_false_of_not_eq_true (not_or.mp h).1

theorem Guard.epochFor_source (g : Guard) (sample : Sample) :
    (g.epochFor sample).source = sample.source := by
  unfold Guard.epochFor
  split_ifs with hsource
  · rfl
  · rfl
  · exact (not_not.mp hsource).symm

/-- A baseline survives until a sample exactly if the sample is of its epoch. -/
theorem Guard.epochFor_baselineValid (g : Guard) (sample : Sample) :
    (g.epochFor sample).baselineValid = true ↔
      g.baselineValid = true ∧ g.source = sample.source ∧
        0 < sample.sampleTimeNs - g.previousSampleTimeNs ∧
        sample.sampleTimeNs - g.previousSampleTimeNs ≤ g.maxIntervalNs := by
  unfold Guard.epochFor
  split_ifs with hsource hinterval
  · exact ⟨fun h => absurd h Bool.false_ne_true, fun h => absurd h.2.1.symm hsource⟩
  · refine ⟨fun h => absurd h Bool.false_ne_true, fun ⟨_, _, hpositive, hle⟩ => ?_⟩
    obtain ⟨-, hlate | hlong⟩ := hinterval <;> omega
  · refine ⟨fun h => ⟨h, (not_not.mp hsource).symm, ?_⟩, fun h => h.1⟩
    obtain ⟨hlate, hlong⟩ := not_or.mp fun hi => hinterval ⟨h, hi⟩
    omega

/-- A baseline that survives is the same one. -/
theorem Guard.epochFor_eq (h : (g.epochFor sample).baselineValid = true) :
    g.epochFor sample = g := by
  obtain ⟨hvalid, hsource, hpositive, hle⟩ := (g.epochFor_baselineValid sample).mp h
  have hinterval : ¬ (g.baselineValid = true ∧ (sample.sampleTimeNs ≤ g.previousSampleTimeNs ∨
      g.maxIntervalNs < sample.sampleTimeNs - g.previousSampleTimeNs)) := by
    rintro ⟨-, hlate | hlong⟩ <;> omega
  rw [Guard.epochFor, if_neg (not_not_intro hsource.symm), if_neg hinterval]

theorem Guard.compare_state_iff :
    (g.compare sample).state = .jumpDetected ↔
      g.baselineValid = true ∧
        g.thresholdM < Double.abs (sample.positionM - g.previousPositionM) := by
  unfold Guard.compare
  by_cases hbaseline : g.baselineValid = true
  · rw [if_neg (not_not_intro hbaseline)]
    show (if g.thresholdM < Double.abs (sample.positionM - g.previousPositionM)
      then FeedbackContinuityState.jumpDetected else .continuous) = .jumpDetected ↔ _
    split_ifs with hfar
    · exact iff_of_true rfl ⟨hbaseline, hfar⟩
    · exact iff_of_false (by decide) fun h => hfar h.2
  · rw [if_pos hbaseline]
    exact iff_of_false (by show ¬ FeedbackContinuityState.baselineEstablished = _; decide)
      fun h => hbaseline h.1

/-- A jump is reported for a usable sample that is far from a baseline of its epoch. -/
theorem Guard.observe_jump_iff :
    (g.observe sample).1.state = .jumpDetected ↔
      sample.Usable ∧ g.baselineValid = true ∧ g.source = sample.source ∧
        0 < sample.sampleTimeNs - g.previousSampleTimeNs ∧
        sample.sampleTimeNs - g.previousSampleTimeNs ≤ g.maxIntervalNs ∧
        g.thresholdM < Double.abs (sample.positionM - g.previousPositionM) := by
  by_cases husable : sample.Usable
  · rw [Guard.observe_of_usable husable, Guard.compare_state_iff]
    constructor
    · rintro ⟨hvalid, hfar⟩
      obtain ⟨hbaseline, hsource, hpositive, hle⟩ := (g.epochFor_baselineValid sample).mp hvalid
      rw [Guard.epochFor_eq hvalid] at hfar
      exact ⟨husable, hbaseline, hsource, hpositive, hle, hfar⟩
    · rintro ⟨-, hbaseline, hsource, hpositive, hle, hfar⟩
      have hvalid := (g.epochFor_baselineValid sample).mpr ⟨hbaseline, hsource, hpositive, hle⟩
      rw [Guard.epochFor_eq hvalid]
      exact ⟨hbaseline, hfar⟩
  · rw [(Guard.observe_of_not_usable husable).1]
    exact iff_of_false (by decide) fun h => husable h.1

theorem Guard.step_limits (g : Guard) (call : Call) :
    (g.step call).thresholdM = g.thresholdM ∧ (g.step call).maxIntervalNs = g.maxIntervalNs := by
  cases call with
  | observe sample =>
    show (g.observe sample).2.thresholdM = _ ∧ (g.observe sample).2.maxIntervalNs = _
    unfold Guard.observe Guard.invalidate Guard.epochFor
    split_ifs <;> exact ⟨rfl, rfl⟩
  | reset source => exact ⟨rfl, rfl⟩
  | invalidate source =>
    show (g.invalidate source).thresholdM = _ ∧ (g.invalidate source).maxIntervalNs = _
    unfold Guard.invalidate
    split_ifs <;> exact ⟨rfl, rfl⟩

/-- After a call that drops there is no baseline. -/
theorem Guard.step_of_drops (g : Guard) {call : Call} (h : call.Drops) :
    (g.step call).baselineValid = false := by
  cases call with
  | observe sample =>
    show (g.observe sample).2.baselineValid = false
    rw [(Guard.observe_of_not_usable h).2]
    exact g.invalidate_baselineValid sample.source
  | reset source => rfl
  | invalidate source => exact g.invalidate_baselineValid source

/-- After a usable sample it is the baseline. -/
theorem Guard.step_of_usable (g : Guard) (h : sample.Usable) :
    g.step (.observe sample) = (g.epochFor sample).remember sample :=
  congrArg Prod.snd (Guard.observe_of_usable h)

theorem Call.drops_or_usable (call : Call) :
    call.Drops ∨ ∃ sample : Sample, call = .observe sample ∧ sample.Usable := by
  cases call with
  | observe sample =>
    by_cases h : sample.Usable
    · exact Or.inr ⟨sample, rfl, h⟩
    · exact Or.inl h
  | reset source => exact Or.inl trivial
  | invalidate source => exact Or.inl trivial

/-- One call. -/
theorem Guard.Tracks.step (h : start.Tracks calls g) (call : Call) :
    start.Tracks (calls ++ [call]) (g.step call) := by
  obtain ⟨hthreshold, hinterval⟩ := g.step_limits call
  refine ⟨hthreshold.trans h.thresholdM, hinterval.trans h.maxIntervalNs, fun hvalid => ?_,
    fun sample hlast husable => ?_⟩
  · obtain hdrops | ⟨sample, rfl, husable⟩ := call.drops_or_usable
    · rw [g.step_of_drops hdrops] at hvalid
      exact absurd hvalid Bool.false_ne_true
    · refine ⟨sample, List.getLast?_concat, husable, ?_⟩
      rw [g.step_of_usable husable]
      exact ⟨rfl, rfl, g.epochFor_source sample⟩
  · rw [List.getLast?_concat, Option.some.injEq] at hlast
    subst hlast
    rw [g.step_of_usable husable]
    rfl

/-- After any calls. -/
theorem Guard.tracks_run (hstart : start.baselineValid = false) (calls : List Call) :
    start.Tracks calls (start.run calls) := by
  induction calls using List.reverseRecOn with
  | nil =>
    refine ⟨rfl, rfl, fun h => ?_, fun _ h => absurd h (Option.some_ne_none _).symm⟩
    exact absurd (hstart.symm.trans h) Bool.false_ne_true
  | append_singleton calls call ih =>
    rw [Guard.run_append, Guard.run_singleton]
    exact ih.step call

/-! ## Jumps -/

/-- A jump is reported at an index. -/
def Guard.JumpAt (start : Guard) (calls : List Call) (k : ℕ) : Prop :=
  ∃ result, start.reportAt calls k = some result ∧ result.state = .jumpDetected

/-- The accepted sample before an index, with nothing in between that drops or replaces it. -/
def LastSample (calls : List Call) (k : ℕ) (earlier : Sample) : Prop :=
  ∃ j < k, calls[j]? = some (.observe earlier) ∧ earlier.Usable ∧
    ∀ i call, j < i → i < k → calls[i]? = some call → ¬ call.Accepts ∧ ¬ call.Drops

/-- Every call accepts a sample or drops the baseline. -/
theorem lastSample_iff {k : ℕ} {earlier : Sample} (hk : k ≤ calls.length) :
    LastSample calls k earlier ↔
      (calls.take k).getLast? = some (.observe earlier) ∧ earlier.Usable := by
  rw [List.getLast?_take]
  constructor
  · rintro ⟨j, hj, hcall, husable, hbetween⟩
    have hsucc : j + 1 = k := by
      by_contra hne
      have hlt : j + 1 < k := by omega
      have hcalls := List.getElem?_eq_getElem (lt_of_lt_of_le hlt hk)
      obtain ⟨haccepts, hdrops⟩ := hbetween (j + 1) _ (Nat.lt_succ_self j) hlt hcalls
      obtain h | ⟨sample, hsample, h⟩ := (calls[j + 1]).drops_or_usable
      · exact hdrops h
      · rw [hsample] at haccepts
        exact haccepts h
    subst hsucc
    rw [if_neg (Nat.succ_ne_zero j), Nat.add_sub_cancel, hcall, Option.some_or]
    exact ⟨rfl, husable⟩
  · rintro ⟨hlast, husable⟩
    split_ifs at hlast with hzero
    have hlt : k - 1 < calls.length := by omega
    rw [List.getElem?_eq_getElem hlt, Option.some_or] at hlast
    refine ⟨k - 1, by omega, ?_, husable, fun i call hi hik => by omega⟩
    rw [List.getElem?_eq_getElem hlt, hlast]

/-- **The reported jumps.** -/
theorem Guard.jumpAt_iff (hstart : start.baselineValid = false) (calls : List Call) (k : ℕ) :
    start.JumpAt calls k ↔
      ∃ sample earlier, calls[k]? = some (.observe sample) ∧ sample.Usable ∧
        LastSample calls k earlier ∧ earlier.source = sample.source ∧
        0 < sample.sampleTimeNs - earlier.sampleTimeNs ∧
        sample.sampleTimeNs - earlier.sampleTimeNs ≤ start.maxIntervalNs ∧
        start.thresholdM < Double.abs (sample.positionM - earlier.positionM) := by
  have htracks := Guard.tracks_run hstart (calls.take k)
  constructor
  · rintro ⟨result, hresult, hjump⟩
    unfold Guard.reportAt at hresult
    split at hresult
    · rename_i sample hcall
      obtain rfl := Option.some_injective _ hresult
      obtain ⟨husable, hbaseline, hsource, hpositive, hle, hfar⟩ := Guard.observe_jump_iff.mp hjump
      obtain ⟨earlier, hlast, hearlier, hposition, htime, hearlierSource⟩ :=
        htracks.baseline hbaseline
      have hk : k ≤ calls.length := (List.getElem?_eq_some_iff.mp hcall).1.le
      rw [htracks.thresholdM, hposition] at hfar
      rw [htracks.maxIntervalNs, htime] at hle
      rw [htime] at hpositive
      exact ⟨sample, earlier, hcall, husable, (lastSample_iff hk).mpr ⟨hlast, hearlier⟩,
        hearlierSource.symm.trans hsource, hpositive, hle, hfar⟩
    · exact absurd hresult (Option.some_ne_none result).symm
  · rintro ⟨sample, earlier, hcall, husable, hlastSample, hsource, hpositive, hle, hfar⟩
    have hk : k ≤ calls.length := (List.getElem?_eq_some_iff.mp hcall).1.le
    obtain ⟨hlast, hearlier⟩ := (lastSample_iff hk).mp hlastSample
    have hbaseline := htracks.sample earlier hlast hearlier
    obtain ⟨remembered, hremembered, -, hposition, htime, hrememberedSource⟩ :=
      htracks.baseline hbaseline
    rw [hlast, Option.some.injEq, Call.observe.injEq] at hremembered
    subst hremembered
    refine ⟨((start.run (calls.take k)).observe sample).1, by rw [Guard.reportAt, hcall], ?_⟩
    rw [Guard.observe_jump_iff, htracks.thresholdM, htracks.maxIntervalNs, hposition, htime]
    exact ⟨husable, hbaseline, hrememberedSource.trans hsource, hpositive, hle, hfar⟩

/-! ## Epochs -/

/-- A call stays in the epoch or begins the next one. -/
theorem Guard.step_epoch (g : Guard) (call : Call) :
    (g.step call).epoch = g.epoch ∨ (g.step call).epoch = g.epoch + 1 := by
  cases call with
  | observe sample =>
    show (g.observe sample).2.epoch = _ ∨ (g.observe sample).2.epoch = _
    unfold Guard.observe Guard.invalidate Guard.epochFor
    split_ifs <;> first | exact Or.inl rfl | exact Or.inr rfl
  | reset source => exact Or.inr rfl
  | invalidate source =>
    show (g.invalidate source).epoch = _ ∨ (g.invalidate source).epoch = _
    unfold Guard.invalidate
    split_ifs <;> first | exact Or.inl rfl | exact Or.inr rfl

/-- The epoch after some calls exceeds the one before by at most their number, in 64 bits. -/
theorem Guard.run_epoch (g : Guard) (calls : List Call) :
    ∃ advances ≤ calls.length, (g.run calls).epoch = g.epoch + UInt64.ofNat advances := by
  induction calls using List.reverseRecOn with
  | nil => exact ⟨0, le_rfl, (UInt64.add_zero _).symm⟩
  | append_singleton calls call ih =>
    obtain ⟨advances, hle, hepoch⟩ := ih
    rw [Guard.run_append, Guard.run_singleton, List.length_append, List.length_singleton]
    obtain h | h := (g.run calls).step_epoch call
    · exact ⟨advances, by omega, h.trans hepoch⟩
    · refine ⟨advances + 1, by omega, ?_⟩
      rw [h, hepoch, UInt64.ofNat_add, UInt64.add_assoc]
      rfl

/-- Within `2 ^ 64` calls from the first epoch the epoch never decreases. -/
theorem Guard.epoch_mono (hstart : start.epoch = 0) (calls : List Call) {j k : ℕ} (hjk : j ≤ k)
    (hk : k < 2 ^ 64) : (start.run (calls.take j)).epoch ≤ (start.run (calls.take k)).epoch := by
  obtain ⟨before, hbefore, hj⟩ := start.run_epoch (calls.take j)
  obtain ⟨after, hafter, hrest⟩ := (start.run (calls.take j)).run_epoch ((calls.take k).drop j)
  have hsplit : calls.take j ++ (calls.take k).drop j = calls.take k := by
    have htake : calls.take j = (calls.take k).take j := by
      rw [List.take_take, Nat.min_eq_left hjk]
    rw [htake, List.take_append_drop]
  have hk' : (start.run (calls.take k)).epoch = UInt64.ofNat (before + after) := by
    rw [← hsplit, Guard.run_append, hrest, hj, hstart, UInt64.ofNat_add, UInt64.zero_add]
  have hcount : before + after ≤ k := by
    rw [List.length_take] at hbefore
    rw [List.length_drop, List.length_take] at hafter
    omega
  rw [hj, hk', hstart, UInt64.zero_add, UInt64.le_iff_toNat_le, UInt64.toNat_ofNat',
    UInt64.toNat_ofNat', Nat.mod_eq_of_lt (by omega), Nat.mod_eq_of_lt (by omega)]
  exact Nat.le_add_right before after

theorem Guard.compare_epoch (g : Guard) (sample : Sample) :
    (g.compare sample).epoch = g.epoch := by
  unfold Guard.compare
  split_ifs <;> rfl

theorem Guard.observe_epoch (g : Guard) (sample : Sample) :
    (g.observe sample).1.epoch = (g.observe sample).2.epoch := by
  by_cases husable : sample.Usable
  · rw [Guard.observe_of_usable husable]
    exact Guard.compare_epoch _ sample
  · rw [Guard.observe, if_pos husable]

/-- A result carries the epoch after its call. -/
theorem Guard.reportAt_epoch {calls : List Call} {k : ℕ} {result : Result}
    (h : start.reportAt calls k = some result) :
    result.epoch = (start.run (calls.take (k + 1))).epoch := by
  unfold Guard.reportAt at h
  split at h
  · rename_i sample hcall
    obtain rfl := Option.some_injective _ h
    rw [List.take_add_one, hcall, Option.toList_some, Guard.run_append, Guard.run_singleton]
    exact Guard.observe_epoch _ sample
  · exact absurd h (Option.some_ne_none result).symm

/-- **The guard over any calls**: a jump is reported exactly for a sample that is far from the
accepted sample before it, of the same source and within the interval, when nothing in between
has dropped that one; and the epoch never decreases before the counter wraps around. -/
theorem observe_history (thresholdM : Double) (maxIntervalNs : ℤ) (calls : List Call) :
    (∀ k, (Guard.make thresholdM maxIntervalNs).JumpAt calls k ↔
      ∃ sample earlier, calls[k]? = some (.observe sample) ∧ sample.Usable ∧
        LastSample calls k earlier ∧ earlier.source = sample.source ∧
        0 < sample.sampleTimeNs - earlier.sampleTimeNs ∧
        sample.sampleTimeNs - earlier.sampleTimeNs ≤
          (Guard.make thresholdM maxIntervalNs).maxIntervalNs ∧
        (Guard.make thresholdM maxIntervalNs).thresholdM <
          Double.abs (sample.positionM - earlier.positionM)) ∧
    (∀ k result, (Guard.make thresholdM maxIntervalNs).reportAt calls k = some result →
      result.epoch = ((Guard.make thresholdM maxIntervalNs).run (calls.take (k + 1))).epoch) ∧
    ∀ j k, j ≤ k → k < 2 ^ 64 →
      ((Guard.make thresholdM maxIntervalNs).run (calls.take j)).epoch ≤
        ((Guard.make thresholdM maxIntervalNs).run (calls.take k)).epoch :=
  ⟨Guard.jumpAt_iff rfl calls, fun _ _ => Guard.reportAt_epoch,
    fun _ _ => Guard.epoch_mono rfl calls⟩

theorem Guard.epoch_resets (g : Guard) (n : ℕ) :
    (g.run (List.replicate n (.reset 0))).epoch = g.epoch + UInt64.ofNat n := by
  induction n with
  | zero => exact (UInt64.add_zero _).symm
  | succ n ih =>
    rw [List.replicate_succ', Guard.run_append, Guard.run_singleton]
    show (g.run (List.replicate n (.reset 0))).epoch + 1 = _
    rw [ih, UInt64.ofNat_add, UInt64.add_assoc]
    rfl

/-- After `2 ^ 64` resets the epoch is back at the first one. -/
theorem epoch_wraps :
    (({} : Guard).run (List.replicate (2 ^ 64) (.reset 0))).epoch <
      (({} : Guard).run ((List.replicate (2 ^ 64) (.reset 0)).take (2 ^ 64 - 1))).epoch := by
  rw [List.take_replicate, Guard.epoch_resets, Guard.epoch_resets]
  decide

/-! ## The guard of the cycle -/

/-- The guard of the cycle that a guard with finite values is. -/
structure Guard.Represents (g : Guard) (f : FeedbackContinuityGuard) : Prop where
  thresholdM : g.thresholdM = .finite f.thresholdM
  maxIntervalNs : g.maxIntervalNs = f.maxIntervalNs
  baselineValid : g.baselineValid = f.baselineValid
  previousPositionM : g.previousPositionM = .finite f.previousPositionM
  previousSampleTimeNs : g.previousSampleTimeNs = f.previousSampleTimeNs
  epoch : g.epoch = UInt64.ofNat f.epoch
  source : g.source.toNat = f.source

theorem represents_default : Guard.Represents {} {} := ⟨rfl, rfl, rfl, rfl, rfl, rfl, rfl⟩

variable {f : FeedbackContinuityGuard}

theorem Guard.Represents.advanceEpoch (h : g.Represents f) (source : UInt32) :
    (g.advanceEpoch source).Represents (f.advanceEpoch source.toNat) where
  thresholdM := h.thresholdM
  maxIntervalNs := h.maxIntervalNs
  baselineValid := rfl
  previousPositionM := rfl
  previousSampleTimeNs := rfl
  epoch := by
    show g.epoch + 1 = UInt64.ofNat (f.epoch + 1)
    rw [h.epoch, UInt64.ofNat_add]
    rfl
  source := rfl

theorem Guard.Represents.source_eq_iff (h : g.Represents f) (source : UInt32) :
    source ≠ g.source ↔ source.toNat ≠ f.source := by
  rw [← h.source, Ne, Ne, UInt32.toNat_inj]

theorem Guard.Represents.invalidate (h : g.Represents f) (source : UInt32) :
    (g.invalidate source).Represents (f.invalidate source.toNat) := by
  unfold Guard.invalidate FeedbackContinuityGuard.invalidate
  simp only [h.baselineValid, h.source_eq_iff source]
  split_ifs
  · exact h.advanceEpoch source
  · exact h

/-- A finite position at a positive time. -/
def sampleOf (positionM : ℚ) (sampleTimeNs : ℕ) (source : UInt32) (fresh : Bool) : Sample :=
  ⟨.finite positionM, sampleTimeNs, source, fresh⟩

theorem Guard.Represents.epochFor (h : g.Represents f) (positionM : ℚ) (sampleTimeNs : ℕ)
    (source : UInt32) (fresh : Bool) :
    (g.epochFor (sampleOf positionM sampleTimeNs source fresh)).Represents
      (f.epochFor sampleTimeNs source.toNat) := by
  have hinterval : (g.baselineValid = true ∧ ((sampleTimeNs : ℤ) ≤ g.previousSampleTimeNs ∨
      g.maxIntervalNs < sampleTimeNs - g.previousSampleTimeNs)) ↔
      f.baselineValid = true ∧ (sampleTimeNs ≤ f.previousSampleTimeNs ∨
        f.previousSampleTimeNs + f.maxIntervalNs < sampleTimeNs) := by
    rw [h.baselineValid, h.previousSampleTimeNs, h.maxIntervalNs]
    refine and_congr_right fun _ => ?_
    omega
  unfold Guard.epochFor FeedbackContinuityGuard.epochFor
  show (if source ≠ g.source then g.advanceEpoch source else
    if g.baselineValid = true ∧ ((sampleTimeNs : ℤ) ≤ g.previousSampleTimeNs ∨
      g.maxIntervalNs < sampleTimeNs - g.previousSampleTimeNs) then g.advanceEpoch source
    else g).Represents _
  simp only [h.source_eq_iff source, hinterval]
  split_ifs
  · exact h.advanceEpoch source
  · exact h.advanceEpoch source
  · exact h

theorem usable_sampleOf_iff {positionM : ℚ} {sampleTimeNs : ℕ} {source : UInt32} {fresh : Bool} :
    (sampleOf positionM sampleTimeNs source fresh).Usable ↔ fresh = true ∧ sampleTimeNs ≠ 0 := by
  show fresh = true ∧ true = true ∧ (0 : ℤ) < sampleTimeNs ↔ _
  rw [and_iff_right rfl]
  refine and_congr_right fun _ => ?_
  omega

theorem Guard.Represents.compare_state (h : g.Represents f) (positionM : ℚ) (sampleTimeNs : ℕ)
    (source : UInt32) (fresh : Bool) :
    (g.compare (sampleOf positionM sampleTimeNs source fresh)).state =
      if ¬ f.baselineValid then .baselineEstablished
      else if f.thresholdM < |positionM - f.previousPositionM| then .jumpDetected
      else .continuous := by
  have hdelta : Double.abs (.finite positionM - .finite f.previousPositionM) =
      .finite |positionM - f.previousPositionM| := by
    rw [sub_eq_add_neg]
    rfl
  have hfar : g.thresholdM < Double.abs (.finite positionM - g.previousPositionM) ↔
      f.thresholdM < |positionM - f.previousPositionM| := by
    rw [h.thresholdM, h.previousPositionM, hdelta, Double.finite_lt_finite]
  unfold Guard.compare
  rw [h.baselineValid]
  split_ifs with hbaseline hjump
  · exact if_pos (hfar.mpr hjump)
  · exact if_neg (mt hfar.mp hjump)
  · rfl

/-- **The guard of the cycle** observes finite positions as this one does. -/
theorem observe_represents (h : g.Represents f) (positionM : ℚ) (sampleTimeNs : ℕ)
    (source : UInt32) (fresh : Bool) :
    (g.observe (sampleOf positionM sampleTimeNs source fresh)).1.state =
        (f.observe positionM sampleTimeNs source.toNat fresh).1 ∧
      (g.observe (sampleOf positionM sampleTimeNs source fresh)).2.Represents
        (f.observe positionM sampleTimeNs source.toNat fresh).2 := by
  have husable : ¬ (sampleOf positionM sampleTimeNs source fresh).Usable ↔
      (¬ fresh = true ∨ sampleTimeNs = 0) := by
    rw [usable_sampleOf_iff, not_and_or, not_not]
  unfold FeedbackContinuityGuard.observe
  by_cases hdropped : ¬ fresh = true ∨ sampleTimeNs = 0
  · obtain ⟨hstate, hguard⟩ := Guard.observe_of_not_usable (g := g) (husable.mpr hdropped)
    rw [if_pos hdropped, hstate, hguard]
    exact ⟨rfl, h.invalidate source⟩
  · rw [if_neg hdropped, Guard.observe_of_usable (not_not.mp (mt husable.mp hdropped))]
    have hepoch := h.epochFor positionM sampleTimeNs source fresh
    have hnext : ((g.epochFor (sampleOf positionM sampleTimeNs source fresh)).remember
        (sampleOf positionM sampleTimeNs source fresh)).Represents
        { f.epochFor sampleTimeNs source.toNat with
          previousPositionM := positionM
          previousSampleTimeNs := sampleTimeNs
          baselineValid := true } :=
      ⟨hepoch.thresholdM, hepoch.maxIntervalNs, rfl, rfl, rfl, hepoch.epoch, hepoch.source⟩
    have hstate := hepoch.compare_state positionM sampleTimeNs source fresh
    simp only
    rw [hstate]
    split_ifs
    · exact ⟨rfl, hnext⟩
    · exact ⟨rfl, hnext⟩
    · exact ⟨rfl, hnext⟩

end ContinuityMonitor

end Hardware

end JointController
