import JointController.Library.Double
import JointController.Library.KeyedEntries
import Mathlib.Data.List.FinRange
import Mathlib.Data.List.Induction
import Mathlib.Data.List.Nodup
import Mathlib.Tactic.Common

/-!
# Joint states in canonical order

A backend reports its joints under their native names and in an order of its own.  `mapJointState`
puts the values into the order of the configuration, and lists what is wrong with the message.

* `JointState`, `JointState.Rearranges`: a message, and the same message in another order.
* `mapJointState`: the loop over the names of the message.
* `mapJointState_eq`: its result by the first entry of every native joint.
* `valid_mapJointState_iff`: the messages that are valid.
* `mapJointState_position`: the mapped values of a valid message.
* `mapJointState_rearranges`: what another order of the message leaves alone.
-/

namespace JointController

namespace Gateway

namespace Mapping

/-! ## The message and the result -/

/-- `sensor_msgs::msg::JointState`. -/
structure JointState where
  name : List String
  position : List Double
  velocity : List Double
  effort : List Double
  deriving DecidableEq

/-- `JointStateMappingResult`. -/
structure JointStateMappingResult where
  positions : List Double
  velocities : List Double := []
  efforts : List Double := []
  complete : Bool := false
  valid : Bool := false
  error : String := ""
  deriving DecidableEq

/-- `appendError`. -/
def appendError (error issue : String) : String :=
  (if error ≠ "" then error ++ "; " else error) ++ issue

/-- What the loop reads at one index of a message. -/
structure JointEntry where
  name : String
  position : Double
  velocity : Option Double
  effort : Option Double
  deriving DecidableEq

/-- The value of an optional array at an index. -/
def optionalAt (values : List Double) (source : ℕ) : Option Double :=
  if values = [] then none else some (values.getD source .nan)

/-- What the loop reads at one index of a message. -/
def JointState.entry (message : JointState) (source : ℕ) : JointEntry where
  name := message.name.getD source ""
  position := message.position.getD source .nan
  velocity := optionalAt message.velocity source
  effort := optionalAt message.effort source

/-! ## The loop -/

/-- The variables of the loop. -/
structure MappingLoop where
  positions : List Double
  velocities : List Double
  efforts : List Double
  error : String
  seen : List Bool

/-- The message about a value that is not finite. -/
def nonFiniteIssue (kind name : String) : String := "non-finite " ++ kind ++ " for '" ++ name ++ "'"

/-- A value goes into its column, or an error is reported about it. -/
def recordValue (kind name : String) (target : ℕ) (column : List Double × String)
    (value : Double) : List Double × String :=
  if ¬ value.isFinite then (column.1, appendError column.2 (nonFiniteIssue kind name))
  else (column.1.set target value, column.2)

/-- The same for the value of an array that may be empty. -/
def recordOptional (kind name : String) (target : ℕ) (column : List Double × String) :
    Option Double → List Double × String
  | none => column
  | some value => recordValue kind name target column value

/-- The values of the first entry of a joint are recorded. -/
def MappingLoop.recordValues (loop : MappingLoop) (target : ℕ) (entry : JointEntry) :
    MappingLoop :=
  let position :=
    recordValue "position" entry.name target (loop.positions, loop.error) entry.position
  let velocity :=
    recordOptional "velocity" entry.name target (loop.velocities, position.2) entry.velocity
  let effort :=
    recordOptional "effort" entry.name target (loop.efforts, velocity.2) entry.effort
  { positions := position.1
    velocities := velocity.1
    efforts := effort.1
    error := effort.2
    seen := loop.seen.set target true }

/-- One iteration of the loop.  The first index of a native name is its target. -/
def MappingLoop.record (native : List String) (loop : MappingLoop) (entry : JointEntry) :
    MappingLoop :=
  if entry.name ∉ native then
    { loop with error := appendError loop.error ("unknown joint '" ++ entry.name ++ "'") }
  else if loop.seen.getD (native.idxOf entry.name) false then
    { loop with error := appendError loop.error ("duplicate joint '" ++ entry.name ++ "'") }
  else loop.recordValues (native.idxOf entry.name) entry

/-- The loop over the native joints that are missing. -/
def appendMissing (native : List String) (seen : List Bool) (error : String) : String :=
  (native.zip seen).foldl (fun error joint =>
    if joint.2 then error else appendError error ("missing joint '" ++ joint.1 ++ "'")) error

/-- The checks before the loop, and the error of the one that fails. -/
def refusal (message : JointState) (canonical native : List String) : Option String :=
  let count := message.name.length
  if canonical.length = 0 ∨ canonical.length ≠ native.length then
    some "invalid canonical/native joint configuration"
  else if message.position.length ≠ count then
    some ("position length " ++ toString message.position.length ++
      " does not match name length " ++ toString count)
  else if message.velocity ≠ [] ∧ message.velocity.length ≠ count then
    some ("nonempty velocity length " ++ toString message.velocity.length ++
      " does not match name length " ++ toString count)
  else if message.effort ≠ [] ∧ message.effort.length ≠ count then
    some ("nonempty effort length " ++ toString message.effort.length ++
      " does not match name length " ++ toString count)
  else none

/-- The loop over the names of a message. -/
def mapEntries (message : JointState) (canonical native : List String) : MappingLoop :=
  let unset : List Double := List.replicate canonical.length .nan
  (List.range message.name.length).foldl
    (fun loop source => loop.record native (message.entry source))
    { positions := unset
      velocities := if message.velocity = [] then [] else unset
      efforts := if message.effort = [] then [] else unset
      error := ""
      seen := List.replicate canonical.length false }

/-- `mapJointState`. -/
def mapJointState (message : JointState) (canonical native : List String) :
    JointStateMappingResult :=
  match refusal message canonical native with
  | some error => { positions := List.replicate canonical.length .nan, error := error }
  | none =>
    let loop := mapEntries message canonical native
    let error := appendMissing native loop.seen loop.error
    { positions := loop.positions
      velocities := loop.velocities
      efforts := loop.efforts
      complete := loop.seen.all id
      valid := loop.seen.all id && error = ""
      error := error }

/-! ## Errors -/

/-- The text after some issues. -/
def joined (error : String) (issues : List String) : String := issues.foldl appendError error

theorem joined_append (error : String) (xs ys : List String) :
    joined error (xs ++ ys) = joined (joined error xs) ys :=
  List.foldl_append

theorem appendError_ne_empty {error issue : String} (h : issue ≠ "") :
    appendError error issue ≠ "" := by
  unfold appendError
  split_ifs <;> simp [h]

/-- Without an empty issue, the text is empty only if there is no issue. -/
theorem joined_eq_empty_iff {issues : List String} (h : "" ∉ issues) :
    joined "" issues = "" ↔ issues = [] := by
  induction issues using List.reverseRecOn with
  | nil => exact ⟨fun _ => rfl, fun _ => rfl⟩
  | append_singleton issues issue =>
    have hissue : issue ≠ "" := by
      rintro rfl
      exact h (List.mem_append_right _ List.mem_cons_self)
    have hjoined : joined "" (issues ++ [issue]) ≠ "" := by
      rw [joined_append]
      exact appendError_ne_empty hissue
    exact ⟨fun he => absurd he hjoined, fun he => absurd he (List.append_ne_nil_of_right_ne_nil _
      (List.cons_ne_nil _ _))⟩

/-- The issue about a value that may be absent. -/
def valueIssue (kind name : String) : Option Double → List String
  | none => []
  | some value => if value.isFinite then [] else [nonFiniteIssue kind name]

/-- The issues about the values of an entry. -/
def JointEntry.valueIssues (entry : JointEntry) : List String :=
  valueIssue "position" entry.name (some entry.position) ++
    (valueIssue "velocity" entry.name entry.velocity ++
      valueIssue "effort" entry.name entry.effort)

/-- The issues about an entry behind entries with some names. -/
def JointEntry.issues (native earlier : List String) (entry : JointEntry) : List String :=
  if entry.name ∉ native then ["unknown joint '" ++ entry.name ++ "'"]
  else if entry.name ∈ earlier then ["duplicate joint '" ++ entry.name ++ "'"]
  else entry.valueIssues

/-- The issues about some entries. -/
def entryIssues (native : List String) : List String → List JointEntry → List String
  | _, [] => []
  | earlier, entry :: entries =>
    entry.issues native earlier ++ entryIssues native (earlier ++ [entry.name]) entries

/-- The issues about the native joints that no entry has. -/
def missingIssues (native : List String) (entries : List JointEntry) : List String :=
  (native.filter fun joint => joint ∉ entries.map JointEntry.name).map
    fun joint => "missing joint '" ++ joint ++ "'"

/-! ## Columns -/

/-- A value of the first entry of a joint, if it is finite. -/
def valueOf (value : JointEntry → Option Double) (entries : List JointEntry) (joint : String) :
    Double :=
  (((KeyedEntries.first JointEntry.name entries joint).bind value).filter
    Double.isFinite).getD .nan

/-- The column of the joints, if the message has it. -/
def column (present : Bool) (native : List String) (value : JointEntry → Option Double)
    (entries : List JointEntry) : List Double :=
  if present then native.map (valueOf value entries) else []

variable {native : List String} {value : JointEntry → Option Double} {before : List JointEntry}
  {entry : JointEntry} {joint : String}

/-- An entry that is not the first one of a joint changes none of its values. -/
theorem valueOf_append (h : entry.name = joint → joint ∈ before.map JointEntry.name) :
    valueOf value (before ++ [entry]) joint = valueOf value before joint := by
  unfold valueOf
  rw [KeyedEntries.first_append_singleton]
  by_cases hname : entry.name = joint
  · obtain ⟨e, he⟩ := Option.isSome_iff_exists.mp
      ((KeyedEntries.isSome_first JointEntry.name).mpr (h hname))
    rw [he, Option.some_or]
  · rw [if_neg hname, Option.or_none]

/-- The first entry of a joint brings its value. -/
theorem valueOf_append_self (h : entry.name ∉ before.map JointEntry.name) :
    valueOf value (before ++ [entry]) entry.name =
      ((value entry).filter Double.isFinite).getD .nan := by
  have hnone : KeyedEntries.first JointEntry.name before entry.name = none := by
    rw [← Option.not_isSome_iff_eq_none, KeyedEntries.isSome_first]
    exact h
  unfold valueOf
  rw [KeyedEntries.first_append_singleton, hnone, Option.none_or, if_pos rfl, Option.bind_some]

theorem column_append {present : Bool}
    (h : entry.name ∈ native → entry.name ∈ before.map JointEntry.name) :
    column present native value (before ++ [entry]) = column present native value before := by
  unfold column
  split_ifs
  · refine List.map_congr_left fun joint hjoint => ?_
    exact valueOf_append fun hname => hname ▸ h (hname ▸ hjoint)
  · rfl

/-- Without a value the first entry of a joint leaves the columns alone. -/
theorem column_append_of_no_value {present : Bool}
    (hnew : entry.name ∉ before.map JointEntry.name)
    (hvalue : (value entry).filter Double.isFinite = none) :
    column present native value (before ++ [entry]) = column present native value before := by
  have hnone : KeyedEntries.first JointEntry.name before entry.name = none := by
    rw [← Option.not_isSome_iff_eq_none, KeyedEntries.isSome_first]
    exact hnew
  unfold column
  split_ifs
  · refine List.map_congr_left fun joint _ => ?_
    by_cases hname : entry.name = joint
    · rw [← hname, valueOf_append_self hnew, hvalue, valueOf, hnone]
      rfl
    · exact valueOf_append fun h => absurd h hname
  · rfl

/-- A finite value of the first entry of a joint is set in its column. -/
theorem column_append_of_value {v : Double} (hnodup : native.Nodup)
    (hnative : entry.name ∈ native) (hnew : entry.name ∉ before.map JointEntry.name)
    (hvalue : (value entry).filter Double.isFinite = some v) :
    column true native value (before ++ [entry]) =
      (column true native value before).set (native.idxOf entry.name) v := by
  have hupdate := hnodup.map_update (valueOf value before) entry.name v
  rw [if_pos hnative] at hupdate
  show native.map (valueOf value (before ++ [entry])) = _
  rw [column, if_pos rfl, ← hupdate]
  refine List.map_congr_left fun joint _ => ?_
  by_cases hname : joint = entry.name
  · rw [hname, Function.update_self, valueOf_append_self hnew, hvalue, Option.getD_some]
  · rw [Function.update_of_ne hname, valueOf_append fun h => absurd h.symm hname]

/-- What recording a value does to its column and to the text. -/
theorem recordOptional_eq (present : Bool) (value : JointEntry → Option Double)
    (kind error : String) (hnodup : native.Nodup) (hnative : entry.name ∈ native)
    (hnew : entry.name ∉ before.map JointEntry.name)
    (habsent : present = false → value entry = none) :
    recordOptional kind entry.name (native.idxOf entry.name)
        (column present native value before, error) (value entry) =
      (column present native value (before ++ [entry]),
        joined error (valueIssue kind entry.name (value entry))) := by
  cases hvalue : value entry with
  | none =>
    rw [column_append_of_no_value hnew (by rw [hvalue]; rfl)]
    rfl
  | some v =>
    have hpresent : present = true := by
      cases present with
      | false =>
        rw [habsent rfl] at hvalue
        exact absurd hvalue (Option.some_ne_none v).symm
      | true => rfl
    subst hpresent
    by_cases hv : v.isFinite = true
    · have hfinite : (value entry).filter Double.isFinite = some v := by
        rw [hvalue, Option.filter_some, if_pos hv]
      rw [column_append_of_value hnodup hnative hnew hfinite, recordOptional, recordValue,
        if_neg (not_not_intro hv), valueIssue, if_pos hv]
      rfl
    · have hinfinite : (value entry).filter Double.isFinite = none := by
        rw [hvalue, Option.filter_some, if_neg hv]
      rw [column_append_of_no_value hnew hinfinite, recordOptional, recordValue, if_pos hv,
        valueIssue, if_neg hv]
      rfl

/-! ## The run of the loop -/

/-- The loop after some entries. -/
structure Mapped (native : List String) (velocity effort : Bool) (before : List JointEntry)
    (loop : MappingLoop) : Prop where
  positions : loop.positions = column true native (fun e => some e.position) before
  velocities : loop.velocities = column velocity native JointEntry.velocity before
  efforts : loop.efforts = column effort native JointEntry.effort before
  seen : loop.seen = native.map fun joint => decide (joint ∈ before.map JointEntry.name)

variable {velocity effort : Bool} {loop : MappingLoop}

theorem Mapped.seen_getD (h : Mapped native velocity effort before loop)
    (hnative : joint ∈ native) :
    loop.seen.getD (native.idxOf joint) false = decide (joint ∈ before.map JointEntry.name) := by
  have hlt := List.idxOf_lt_length_iff.mpr hnative
  rw [h.seen, List.getD_eq_getElem?_getD, List.getElem?_map, List.getElem?_eq_getElem hlt,
    List.getElem_idxOf, Option.map_some, Option.getD_some]

/-- An entry that is not the first one of a native joint is only reported. -/
theorem Mapped.skip (h : Mapped native velocity effort before loop)
    (hskip : entry.name ∈ native → entry.name ∈ before.map JointEntry.name) (error : String) :
    Mapped native velocity effort (before ++ [entry]) { loop with error := error } where
  positions := h.positions.trans (column_append hskip).symm
  velocities := h.velocities.trans (column_append hskip).symm
  efforts := h.efforts.trans (column_append hskip).symm
  seen := by
    rw [h.seen]
    refine List.map_congr_left fun joint hjoint => ?_
    rw [List.map_append, List.map_cons, List.map_nil, decide_eq_decide, List.mem_append,
      List.mem_singleton]
    refine ⟨Or.inl, ?_⟩
    rintro (hmem | rfl)
    exacts [hmem, hskip hjoint]

/-- The first entry of a native joint is recorded. -/
theorem Mapped.recordValues (hnodup : native.Nodup)
    (h : Mapped native velocity effort before loop) (hnative : entry.name ∈ native)
    (hnew : entry.name ∉ before.map JointEntry.name)
    (hvelocity : velocity = false → entry.velocity = none)
    (heffort : effort = false → entry.effort = none) :
    Mapped native velocity effort (before ++ [entry])
        (loop.recordValues (native.idxOf entry.name) entry) ∧
      (loop.recordValues (native.idxOf entry.name) entry).error =
        joined loop.error entry.valueIssues := by
  have hposition : recordValue "position" entry.name (native.idxOf entry.name)
      (loop.positions, loop.error) entry.position =
        (column true native (fun e => some e.position) (before ++ [entry]),
          joined loop.error (valueIssue "position" entry.name (some entry.position))) := by
    rw [h.positions]
    exact recordOptional_eq true (fun e => some e.position) "position" loop.error hnodup hnative
      hnew fun hf => absurd hf.symm Bool.false_ne_true
  have hvelocities (error : String) : recordOptional "velocity" entry.name
      (native.idxOf entry.name) (loop.velocities, error) entry.velocity =
        (column velocity native JointEntry.velocity (before ++ [entry]),
          joined error (valueIssue "velocity" entry.name entry.velocity)) := by
    rw [h.velocities]
    exact recordOptional_eq velocity JointEntry.velocity "velocity" error hnodup hnative hnew
      hvelocity
  have hefforts (error : String) : recordOptional "effort" entry.name
      (native.idxOf entry.name) (loop.efforts, error) entry.effort =
        (column effort native JointEntry.effort (before ++ [entry]),
          joined error (valueIssue "effort" entry.name entry.effort)) := by
    rw [h.efforts]
    exact recordOptional_eq effort JointEntry.effort "effort" error hnodup hnative hnew heffort
  have hseen : loop.seen.set (native.idxOf entry.name) true =
      native.map fun joint => decide (joint ∈ (before ++ [entry]).map JointEntry.name) := by
    have hupdate := hnodup.map_update
      (fun joint => decide (joint ∈ before.map JointEntry.name)) entry.name true
    rw [if_pos hnative] at hupdate
    rw [h.seen, ← hupdate]
    refine List.map_congr_left fun joint _ => ?_
    rw [List.map_append, List.map_cons, List.map_nil]
    by_cases hname : joint = entry.name
    · rw [hname, Function.update_self]
      exact (decide_eq_true (List.mem_append_right _ List.mem_cons_self)).symm
    · rw [Function.update_of_ne hname, decide_eq_decide, List.mem_append, List.mem_singleton,
        or_iff_left hname]
  constructor
  · simp only [MappingLoop.recordValues, hposition, hvelocities, hefforts]
    exact ⟨rfl, rfl, rfl, hseen⟩
  · simp only [MappingLoop.recordValues, hposition, hvelocities, hefforts]
    rw [JointEntry.valueIssues, joined_append, joined_append]

/-- One iteration. -/
theorem Mapped.record (hnodup : native.Nodup) (h : Mapped native velocity effort before loop)
    (hvelocity : velocity = false → entry.velocity = none)
    (heffort : effort = false → entry.effort = none) :
    Mapped native velocity effort (before ++ [entry]) (loop.record native entry) ∧
      (loop.record native entry).error =
        joined loop.error (entry.issues native (before.map JointEntry.name)) := by
  unfold MappingLoop.record JointEntry.issues
  by_cases hnative : entry.name ∈ native
  · rw [if_neg (not_not_intro hnative), if_neg (not_not_intro hnative), h.seen_getD hnative]
    by_cases hseen : entry.name ∈ before.map JointEntry.name
    · rw [if_pos (decide_eq_true hseen), if_pos hseen]
      exact ⟨h.skip (fun _ => hseen) _, rfl⟩
    · rw [if_neg (by simpa using hseen), if_neg hseen]
      exact h.recordValues hnodup hnative hseen hvelocity heffort
  · rw [if_pos hnative, if_pos hnative]
    exact ⟨h.skip (fun hmem => absurd hmem hnative) _, rfl⟩

/-- The whole loop. -/
theorem Mapped.run (hnodup : native.Nodup) (entries : List JointEntry)
    (hvelocity : velocity = false → ∀ e ∈ entries, e.velocity = none)
    (heffort : effort = false → ∀ e ∈ entries, e.effort = none)
    (h : Mapped native velocity effort before loop) :
    Mapped native velocity effort (before ++ entries)
        (entries.foldl (MappingLoop.record native) loop) ∧
      (entries.foldl (MappingLoop.record native) loop).error =
        joined loop.error (entryIssues native (before.map JointEntry.name) entries) := by
  induction entries generalizing before loop with
  | nil => exact ⟨by rwa [List.append_nil], rfl⟩
  | cons entry entries ih =>
    have hnoVelocity : velocity = false → entry.velocity = none :=
      fun hf => hvelocity hf entry List.mem_cons_self
    have hnoEffort : effort = false → entry.effort = none :=
      fun hf => heffort hf entry List.mem_cons_self
    obtain ⟨hstep, herror⟩ := h.record hnodup hnoVelocity hnoEffort
    obtain ⟨hrest, hrestError⟩ := ih (fun hf e he => hvelocity hf e (List.mem_cons_of_mem _ he))
      (fun hf e he => heffort hf e (List.mem_cons_of_mem _ he)) hstep
    rw [List.append_assoc, List.singleton_append] at hrest
    refine ⟨hrest, hrestError.trans ?_⟩
    rw [herror, entryIssues, joined_append, List.map_append, List.map_cons, List.map_nil]

/-- The joints without an entry are reported. -/
theorem appendMissing_eq (entries : List JointEntry) (error : String) :
    appendMissing native (native.map fun joint => decide (joint ∈ entries.map JointEntry.name))
      error = joined error (missingIssues native entries) := by
  unfold appendMissing missingIssues joined
  induction native generalizing error with
  | nil => rfl
  | cons joint native ih =>
    rw [List.map_cons, List.zip_cons_cons, List.foldl_cons, ih, List.filter_cons]
    by_cases hjoint : joint ∈ entries.map JointEntry.name
    · rw [if_pos (decide_eq_true hjoint), if_neg (by simpa using hjoint)]
    · rw [if_neg (by simpa using hjoint), if_pos (by simpa using hjoint), List.map_cons,
        List.foldl_cons]

/-! ## The result -/

/-- The entries of a message. -/
def JointState.entries (message : JointState) : List JointEntry :=
  (List.range message.name.length).map message.entry

/-- The issues of a message. -/
def JointState.issues (message : JointState) (native : List String) : List String :=
  entryIssues native [] message.entries ++ missingIssues native message.entries

/-- Every array that is present has one value for each name. -/
structure JointState.Consistent (message : JointState) : Prop where
  position : message.position.length = message.name.length
  velocity : message.velocity ≠ [] → message.velocity.length = message.name.length
  effort : message.effort ≠ [] → message.effort.length = message.name.length

variable {message : JointState} {canonical : List String}

theorem guard_eq_none {c : Prop} [Decidable c] {error : String} {x : Option String} :
    (if c then some error else x) = none ↔ ¬ c ∧ x = none := by
  by_cases h : c
  · simp [h]
  · simp [h]

theorem refusal_eq_none_iff :
    refusal message canonical native = none ↔
      (native ≠ [] ∧ canonical.length = native.length) ∧ message.Consistent := by
  have hconfiguration : ¬ (canonical.length = 0 ∨ canonical.length ≠ native.length) ↔
      native ≠ [] ∧ canonical.length = native.length := by
    rw [not_or, not_not, ← List.length_pos_iff]
    omega
  rw [refusal, guard_eq_none, guard_eq_none, guard_eq_none, guard_eq_none, hconfiguration, not_not,
    not_and_not_right, not_and_not_right]
  exact and_congr_right fun _ =>
    ⟨fun ⟨hp, hv, he, _⟩ => ⟨hp, hv, he⟩, fun ⟨hp, hv, he⟩ => ⟨hp, hv, he, rfl⟩⟩

/-- The loop of a consistent message, by the first entry of every native joint. -/
theorem mapEntries_eq (hnodup : native.Nodup) (hcount : canonical.length = native.length) :
    Mapped native (message.velocity ≠ []) (message.effort ≠ []) message.entries
        (mapEntries message canonical native) ∧
      (mapEntries message canonical native).error =
        joined "" (entryIssues native [] message.entries) := by
  have hstart : Mapped native (message.velocity ≠ []) (message.effort ≠ []) []
      { positions := List.replicate canonical.length .nan
        velocities := if message.velocity = [] then [] else List.replicate canonical.length .nan
        efforts := if message.effort = [] then [] else List.replicate canonical.length .nan
        error := ""
        seen := List.replicate canonical.length false } := by
    have hcolumn (present : Bool) (value : JointEntry → Option Double) :
        column present native value [] =
          if present then List.replicate canonical.length .nan else [] := by
      rw [hcount]
      exact if_congr Iff.rfl List.map_const' rfl
    have hseen : List.replicate canonical.length false =
        native.map fun joint => decide (joint ∈ ([] : List JointEntry).map JointEntry.name) := by
      rw [hcount]
      exact List.map_const'.symm
    refine ⟨(hcolumn true _).symm, ?_, ?_, hseen⟩ <;> rw [hcolumn] <;> simp
  have hvelocity : decide (message.velocity ≠ []) = false →
      ∀ e ∈ message.entries, e.velocity = none := by
    intro hnil e he
    obtain ⟨source, -, rfl⟩ := List.mem_map.mp he
    exact if_pos (by simpa using hnil)
  have heffort : decide (message.effort ≠ []) = false →
      ∀ e ∈ message.entries, e.effort = none := by
    intro hnil e he
    obtain ⟨source, -, rfl⟩ := List.mem_map.mp he
    exact if_pos (by simpa using hnil)
  have hrun := Mapped.run hnodup message.entries hvelocity heffort hstart
  unfold JointState.entries at hrun ⊢
  rw [List.foldl_map] at hrun
  exact hrun

/-- The result of a message that passes the checks, by the first entry of every native joint. -/
theorem mapJointState_eq (hnodup : native.Nodup)
    (h : refusal message canonical native = none) :
    mapJointState message canonical native =
      { positions := column true native (fun e => some e.position) message.entries
        velocities := column (message.velocity ≠ []) native JointEntry.velocity message.entries
        efforts := column (message.effort ≠ []) native JointEntry.effort message.entries
        complete := native.all fun joint => joint ∈ message.entries.map JointEntry.name
        valid := (native.all fun joint => joint ∈ message.entries.map JointEntry.name) &&
          joined "" (message.issues native) = ""
        error := joined "" (message.issues native) } := by
  obtain ⟨hmapped, herror⟩ := mapEntries_eq hnodup (refusal_eq_none_iff.mp h).1.2
  have hall : (mapEntries message canonical native).seen.all id =
      native.all fun joint => joint ∈ message.entries.map JointEntry.name := by
    rw [hmapped.seen, List.all_map]
    rfl
  have htext : appendMissing native (mapEntries message canonical native).seen
      (mapEntries message canonical native).error = joined "" (message.issues native) := by
    rw [hmapped.seen, herror, appendMissing_eq, JointState.issues, joined_append]
  unfold mapJointState
  rw [h]
  simp only [hall, htext, hmapped.positions, hmapped.velocities, hmapped.efforts]

/-! ## Valid messages -/

theorem nonFiniteIssue_ne_empty (kind name : String) : nonFiniteIssue kind name ≠ "" := by
  simp [nonFiniteIssue]

theorem empty_notMem_valueIssue (kind name : String) (v : Option Double) :
    "" ∉ valueIssue kind name v := by
  unfold valueIssue
  split
  · exact List.not_mem_nil
  · split_ifs
    · exact List.not_mem_nil
    · exact fun h => nonFiniteIssue_ne_empty kind name (List.mem_singleton.mp h).symm

theorem empty_notMem_issues (earlier : List String) :
    "" ∉ entry.issues native earlier := by
  unfold JointEntry.issues JointEntry.valueIssues
  split_ifs
  · simp
  · simp only [List.mem_append, empty_notMem_valueIssue, or_false, not_false_eq_true]
  · simp

theorem empty_notMem_entryIssues (entries : List JointEntry) (earlier : List String) :
    "" ∉ entryIssues native earlier entries := by
  induction entries generalizing earlier with
  | nil => exact List.not_mem_nil
  | cons entry entries ih =>
    rw [entryIssues, List.mem_append]
    exact not_or.mpr ⟨empty_notMem_issues earlier, ih _⟩

/-- No issue is an empty text. -/
theorem JointState.empty_notMem_issues : "" ∉ message.issues native := by
  rw [JointState.issues, List.mem_append]
  refine not_or.mpr ⟨empty_notMem_entryIssues _ _, ?_⟩
  simp [missingIssues]

/-- The values of an entry are finite. -/
structure JointEntry.Finite (entry : JointEntry) : Prop where
  position : entry.position.isFinite = true
  velocity : ∀ v ∈ entry.velocity, v.isFinite = true
  effort : ∀ v ∈ entry.effort, v.isFinite = true

theorem valueIssue_eq_nil_iff {kind name : String} {v : Option Double} :
    valueIssue kind name v = [] ↔ ∀ x ∈ v, x.isFinite = true := by
  cases v with
  | none => simp [valueIssue]
  | some v => simp [valueIssue]

theorem JointEntry.valueIssues_eq_nil_iff : entry.valueIssues = [] ↔ entry.Finite := by
  rw [JointEntry.valueIssues, List.append_eq_nil_iff, List.append_eq_nil_iff,
    valueIssue_eq_nil_iff, valueIssue_eq_nil_iff, valueIssue_eq_nil_iff]
  exact ⟨fun ⟨hp, hv, he⟩ => ⟨hp _ rfl, hv, he⟩,
    fun ⟨hp, hv, he⟩ => ⟨fun x hx => Option.some_injective _ hx ▸ hp, hv, he⟩⟩

theorem JointEntry.issues_eq_nil_iff {earlier : List String} :
    entry.issues native earlier = [] ↔
      entry.name ∈ native ∧ entry.name ∉ earlier ∧ entry.Finite := by
  unfold JointEntry.issues
  by_cases hnative : entry.name ∈ native
  · by_cases hearlier : entry.name ∈ earlier
    · simp [hnative, hearlier]
    · simp [hnative, hearlier, JointEntry.valueIssues_eq_nil_iff]
  · simp [hnative]

theorem entryIssues_eq_nil_iff {entries : List JointEntry} {earlier : List String} :
    entryIssues native earlier entries = [] ↔
      (∀ e ∈ entries, e.name ∈ native ∧ e.name ∉ earlier ∧ e.Finite) ∧
        (entries.map JointEntry.name).Nodup := by
  induction entries generalizing earlier with
  | nil => simp [entryIssues]
  | cons entry entries ih =>
    rw [entryIssues, List.append_eq_nil_iff, JointEntry.issues_eq_nil_iff, ih, List.map_cons,
      List.nodup_cons, List.forall_mem_cons]
    constructor
    · rintro ⟨hentry, hrest, hdistinct⟩
      refine ⟨⟨hentry, fun e he => ?_⟩, ?_, hdistinct⟩
      · obtain ⟨hnative, hearlier, hfinite⟩ := hrest e he
        exact ⟨hnative, fun h => hearlier (List.mem_append_left _ h), hfinite⟩
      · intro hmem
        obtain ⟨e, he, hname⟩ := List.mem_map.mp hmem
        exact (hrest e he).2.1 (List.mem_append_right _ (List.mem_singleton.mpr hname))
    · rintro ⟨⟨hentry, hrest⟩, hnew, hdistinct⟩
      refine ⟨hentry, fun e he => ?_, hdistinct⟩
      obtain ⟨hnative, hearlier, hfinite⟩ := hrest e he
      refine ⟨hnative, fun h => ?_, hfinite⟩
      obtain h | h := List.mem_append.mp h
      · exact hearlier h
      · exact hnew (List.mem_map.mpr ⟨e, he, List.mem_singleton.mp h⟩)

theorem missingIssues_eq_nil_iff {entries : List JointEntry} :
    missingIssues native entries = [] ↔ ∀ joint ∈ native, joint ∈ entries.map JointEntry.name := by
  rw [missingIssues, List.map_eq_nil_iff, List.filter_eq_nil_iff]
  simp

/-- Without an issue the names are those of the native joints, and every value is finite. -/
theorem JointState.issues_eq_nil_iff (hnodup : native.Nodup) :
    message.issues native = [] ↔
      (message.entries.map JointEntry.name).Perm native ∧ ∀ e ∈ message.entries, e.Finite := by
  rw [JointState.issues, List.append_eq_nil_iff, entryIssues_eq_nil_iff, missingIssues_eq_nil_iff]
  constructor
  · rintro ⟨⟨hentries, hdistinct⟩, hmissing⟩
    refine ⟨(List.perm_ext_iff_of_nodup hdistinct hnodup).mpr fun joint => ⟨fun h => ?_,
      hmissing joint⟩, fun e he => (hentries e he).2.2⟩
    obtain ⟨e, he, rfl⟩ := List.mem_map.mp h
    exact (hentries e he).1
  · rintro ⟨hperm, hfinite⟩
    refine ⟨⟨fun e he => ⟨hperm.mem_iff.mp (List.mem_map_of_mem he), List.not_mem_nil,
      hfinite e he⟩, hperm.nodup_iff.mpr hnodup⟩, fun joint hjoint => hperm.mem_iff.mpr hjoint⟩

/-- The names of the entries. -/
theorem JointState.map_name_entries :
    message.entries.map JointEntry.name = message.name := by
  rw [JointState.entries, List.map_map]
  refine List.ext_getElem (by simp) fun i hi hname => ?_
  rw [List.getElem_map, List.getElem_range]
  exact (List.getElem_eq_getD "").symm

/-- The result is valid exactly for a message without an issue. -/
theorem valid_iff_issues (hnodup : native.Nodup) :
    (mapJointState message canonical native).valid = true ↔
      refusal message canonical native = none ∧ message.issues native = [] := by
  cases hrefusal : refusal message canonical native with
  | some error =>
    rw [mapJointState, hrefusal]
    simp
  | none =>
    rw [mapJointState_eq hnodup hrefusal]
    simp only [Bool.and_eq_true, decide_eq_true_eq, true_and,
      joined_eq_empty_iff JointState.empty_notMem_issues]
    refine and_iff_right_of_imp fun hissues => ?_
    have hmissing := (List.append_eq_nil_iff.mp hissues).2
    rw [List.all_eq_true]
    exact fun joint hjoint => decide_eq_true (missingIssues_eq_nil_iff.mp hmissing joint hjoint)

/-- The values of a message are finite. -/
structure JointState.Finite (message : JointState) : Prop where
  position : ∀ x ∈ message.position, x.isFinite = true
  velocity : ∀ x ∈ message.velocity, x.isFinite = true
  effort : ∀ x ∈ message.effort, x.isFinite = true

theorem forall_getD_isFinite_iff {values : List Double} {count : ℕ}
    (h : values.length = count) :
    (∀ i < count, (values.getD i .nan).isFinite = true) ↔ ∀ x ∈ values, x.isFinite = true := by
  subst h
  rw [List.forall_mem_iff_forall_getElem]
  refine forall₂_congr fun i hi => ?_
  rw [← List.getElem_eq_getD]

theorem forall_optionalAt_isFinite_iff {values : List Double} {count : ℕ}
    (h : values ≠ [] → values.length = count) :
    (∀ i < count, ∀ v ∈ optionalAt values i, v.isFinite = true) ↔
      ∀ x ∈ values, x.isFinite = true := by
  by_cases hnil : values = []
  · subst hnil
    simp [optionalAt]
  · rw [← forall_getD_isFinite_iff (h hnil)]
    simp [optionalAt, hnil]

/-- The entries of a consistent message have the values of its arrays. -/
theorem JointState.forall_finite_iff (h : message.Consistent) :
    (∀ e ∈ message.entries, e.Finite) ↔ message.Finite := by
  have hindex : (∀ e ∈ message.entries, e.Finite) ↔
      ∀ i < message.name.length, (message.entry i).Finite := by
    simp [JointState.entries]
  rw [hindex]
  constructor
  · intro hfinite
    exact ⟨(forall_getD_isFinite_iff h.position).mp fun i hi => (hfinite i hi).position,
      (forall_optionalAt_isFinite_iff h.velocity).mp fun i hi => (hfinite i hi).velocity,
      (forall_optionalAt_isFinite_iff h.effort).mp fun i hi => (hfinite i hi).effort⟩
  · rintro ⟨hposition, hvelocity, heffort⟩ i hi
    exact ⟨(forall_getD_isFinite_iff h.position).mpr hposition i hi,
      (forall_optionalAt_isFinite_iff h.velocity).mpr hvelocity i hi,
      (forall_optionalAt_isFinite_iff h.effort).mpr heffort i hi⟩

/-- **The valid messages**: the names are those of the native joints in some order, every array
that is present has a value for each name, and every value is finite. -/
theorem valid_mapJointState_iff (hnodup : native.Nodup) :
    (mapJointState message canonical native).valid = true ↔
      (native ≠ [] ∧ canonical.length = native.length) ∧ message.name.Perm native ∧
        message.Consistent ∧ message.Finite := by
  rw [valid_iff_issues hnodup, refusal_eq_none_iff, JointState.issues_eq_nil_iff hnodup,
    JointState.map_name_entries]
  constructor
  · rintro ⟨⟨hconfiguration, hconsistent⟩, hperm, hfinite⟩
    exact ⟨hconfiguration, hperm, hconsistent,
      (JointState.forall_finite_iff hconsistent).mp hfinite⟩
  · rintro ⟨hconfiguration, hperm, hconsistent, hfinite⟩
    exact ⟨⟨hconfiguration, hconsistent⟩, hperm,
      (JointState.forall_finite_iff hconsistent).mpr hfinite⟩

/-! ## Mapped values -/

/-- The only entry of a joint gives its value. -/
theorem valueOf_eq {entries : List JointEntry} {v : Double} (hmem : entry ∈ entries)
    (honce : (entries.map JointEntry.name).count entry.name ≤ 1) (hvalue : value entry = some v)
    (hv : v.isFinite = true) : valueOf value entries entry.name = v := by
  rw [valueOf, KeyedEntries.first_eq_some JointEntry.name hmem honce, Option.bind_some, hvalue,
    Option.filter_some, if_pos hv, Option.getD_some]

/-- The value of a joint in a valid message is the one at its name. -/
theorem column_getElem? {i j : ℕ} (hnative : native[i]? = some joint)
    (hname : message.name[j]? = some joint) (honce : message.name.count joint ≤ 1)
    {v : Double} (hvalue : value (message.entry j) = some v) (hv : v.isFinite = true) :
    (column true native value message.entries)[i]? = some v := by
  have hj : j < message.name.length := (List.getElem?_eq_some_iff.mp hname).1
  have hmem : message.entry j ∈ message.entries :=
    List.mem_map_of_mem (List.mem_range.mpr hj)
  have hentry : (message.entry j).name = joint := by
    show message.name.getD j "" = joint
    rw [List.getD_eq_getElem?_getD, hname, Option.getD_some]
  have heq := valueOf_eq hmem (by rwa [JointState.map_name_entries, hentry]) hvalue hv
  rw [hentry] at heq
  rw [column, if_pos rfl, List.getElem?_map, hnative, Option.map_some, heq]

theorem getElem?_of_lt {values : List Double} {j : ℕ} (h : j < values.length) :
    values[j]? = some (values.getD j .nan) := by
  rw [List.getElem?_eq_getElem h, ← List.getElem_eq_getD]

/-- **The values**: every mapped value of a valid message is the one at the joint's name. -/
theorem mapJointState_values (hnodup : native.Nodup)
    (hvalid : (mapJointState message canonical native).valid = true) {i j : ℕ}
    (hnative : native[i]? = some joint) (hname : message.name[j]? = some joint) :
    (mapJointState message canonical native).positions[i]? = message.position[j]? ∧
      (mapJointState message canonical native).velocities[i]? = message.velocity[j]? ∧
      (mapJointState message canonical native).efforts[i]? = message.effort[j]? := by
  obtain ⟨hconfiguration, hperm, hconsistent, hfinite⟩ := (valid_mapJointState_iff hnodup).mp hvalid
  have honce : message.name.count joint ≤ 1 := by
    rw [hperm.count_eq]
    exact List.nodup_iff_count_le_one.mp hnodup joint
  have hj : j < message.name.length := (List.getElem?_eq_some_iff.mp hname).1
  have hoptional {values : List Double} (value : JointEntry → Option Double)
      (hentry : value (message.entry j) = optionalAt values j)
      (hlength : values ≠ [] → values.length = message.name.length)
      (hall : ∀ x ∈ values, x.isFinite = true) :
      (column (values ≠ []) native value message.entries)[i]? = values[j]? := by
    by_cases hnil : values = []
    · subst hnil
      rfl
    · rw [← hlength hnil] at hj
      have hv := (forall_getD_isFinite_iff rfl).mpr hall j hj
      rw [decide_eq_true hnil, getElem?_of_lt hj]
      exact column_getElem? hnative hname honce (hentry.trans (if_neg hnil)) hv
  rw [mapJointState_eq hnodup ((valid_iff_issues hnodup).mp hvalid).1]
  refine ⟨?_, hoptional JointEntry.velocity rfl hconsistent.velocity hfinite.velocity,
    hoptional JointEntry.effort rfl hconsistent.effort hfinite.effort⟩
  rw [← hconsistent.position] at hj
  have hv := (forall_getD_isFinite_iff rfl).mpr hfinite.position j hj
  rw [getElem?_of_lt hj]
  exact column_getElem? hnative hname honce rfl hv

/-! ## Another order of the message -/

/-- The values of an array with one value for each of `n` names in another order.  An array of any
other length keeps its length. -/
def Moved {α : Type*} {n : ℕ} (σ : Equiv.Perm (Fin n)) (xs ys : List α) : Prop :=
  ys.length = xs.length ∧ (xs.length = n → ∀ i : Fin n, ys[i.val]? = xs[(σ i).val]?)

/-- Another order of the names, with the values moved alongside. -/
def JointState.Rearranges (message other : JointState) : Prop :=
  ∃ σ : Equiv.Perm (Fin message.name.length),
    Moved σ message.name other.name ∧ Moved σ message.position other.position ∧
      Moved σ message.velocity other.velocity ∧ Moved σ message.effort other.effort

section Rearranged

variable {other : JointState}

theorem Moved.eq_nil_iff {α : Type*} {n : ℕ} {σ : Equiv.Perm (Fin n)} {xs ys : List α}
    (h : Moved σ xs ys) : ys = [] ↔ xs = [] := by
  rw [← List.length_eq_zero_iff, h.1, List.length_eq_zero_iff]

theorem Moved.getD {α : Type*} {n : ℕ} {σ : Equiv.Perm (Fin n)} {xs ys : List α}
    (h : Moved σ xs ys) (hn : xs.length = n) (i : Fin n) (d : α) :
    ys.getD i d = xs.getD (σ i) d := by
  rw [List.getD_eq_getElem?_getD, h.2 hn i, List.getD_eq_getElem?_getD]

theorem Moved.optionalAt {n : ℕ} {σ : Equiv.Perm (Fin n)} {xs ys : List Double}
    (h : Moved σ xs ys) (hn : xs ≠ [] → xs.length = n) (i : Fin n) :
    optionalAt ys i = optionalAt xs (σ i) := by
  unfold Mapping.optionalAt
  by_cases hnil : xs = []
  · rw [if_pos hnil, if_pos (h.eq_nil_iff.mpr hnil)]
  · rw [if_neg hnil, if_neg (mt h.eq_nil_iff.mp hnil), h.getD (hn hnil)]

/-- The checks before the loop read lengths only. -/
theorem JointState.Rearranges.refusal (h : message.Rearranges other) :
    refusal other canonical native = refusal message canonical native := by
  obtain ⟨σ, hname, hposition, hvelocity, heffort⟩ := h
  simp only [Mapping.refusal, hname.1, hposition.1, hvelocity.1, heffort.1, ne_eq,
    hvelocity.eq_nil_iff, heffort.eq_nil_iff]

/-- The entries are the same in another order. -/
theorem JointState.Rearranges.entries (h : message.Rearranges other)
    (hconsistent : message.Consistent) : other.entries.Perm message.entries := by
  obtain ⟨σ, hname, hposition, hvelocity, heffort⟩ := h
  have hentry (i : Fin message.name.length) : other.entry i = message.entry (σ i) := by
    rw [JointState.entry, hname.getD rfl, hposition.getD hconsistent.position,
      hvelocity.optionalAt hconsistent.velocity, heffort.optionalAt hconsistent.effort]
    rfl
  have hother : other.entries =
      (List.finRange message.name.length).map fun i => message.entry (σ i) := by
    rw [JointState.entries, hname.1, ← List.map_coe_finRange_eq_range, List.map_map]
    exact List.map_congr_left fun i _ => hentry i
  have hmessage : message.entries =
      (List.finRange message.name.length).map fun i => message.entry i.val := by
    rw [JointState.entries, ← List.map_coe_finRange_eq_range, List.map_map]
    rfl
  rw [hother, hmessage]
  have hσ := σ.map_finRange_perm.map fun i => message.entry i.val
  rwa [List.map_map] at hσ

/-- Without a repeated native name the columns do not depend on the order. -/
theorem column_perm (present : Bool) (value : JointEntry → Option Double)
    {entries others : List JointEntry} (h : entries.Perm others)
    (honce : ∀ joint ∈ native, (entries.map JointEntry.name).count joint ≤ 1) :
    column present native value others = column present native value entries := by
  unfold column valueOf
  split_ifs
  · refine List.map_congr_left fun joint hjoint => ?_
    rw [KeyedEntries.first_perm JointEntry.name h (honce joint hjoint)]
  · rfl

/-- Without a repeated native name an entry is not a duplicate. -/
theorem entryIssues_eq_flatMap {entries : List JointEntry} {earlier : List String}
    (honce : ∀ joint ∈ native, (earlier ++ entries.map JointEntry.name).count joint ≤ 1) :
    entryIssues native earlier entries = entries.flatMap (JointEntry.issues native []) := by
  induction entries generalizing earlier with
  | nil => rfl
  | cons entry entries ih =>
    have hentry : entry.issues native earlier = entry.issues native [] := by
      unfold JointEntry.issues
      by_cases hnative : entry.name ∈ native
      · have hcount := honce entry.name hnative
        rw [List.count_append, List.map_cons, List.count_cons_self] at hcount
        have hnew : entry.name ∉ earlier := List.count_eq_zero.mp (by omega)
        rw [if_neg (not_not_intro hnative), if_neg hnew, if_neg (not_not_intro hnative),
          if_neg List.not_mem_nil]
      · rw [if_pos hnative, if_pos hnative]
    have hrest : ∀ joint ∈ native,
        (earlier ++ [entry.name] ++ entries.map JointEntry.name).count joint ≤ 1 := by
      rw [List.append_assoc, List.singleton_append]
      exact honce
    rw [entryIssues, hentry, ih hrest, List.flatMap_cons]

theorem missingIssues_perm {entries others : List JointEntry} (h : entries.Perm others) :
    missingIssues native others = missingIssues native entries := by
  unfold missingIssues
  refine congrArg _ (List.filter_congr fun joint _ => ?_)
  exact decide_eq_decide.mpr (not_congr (h.map JointEntry.name).symm.mem_iff)

/-- Without a repeated native name the issues are the same in another order. -/
theorem issues_perm (h : other.entries.Perm message.entries)
    (honce : ∀ joint ∈ native, message.name.count joint ≤ 1) :
    (other.issues native).Perm (message.issues native) := by
  have honceOther : ∀ joint ∈ native, other.name.count joint ≤ 1 := by
    intro joint hjoint
    rw [← JointState.map_name_entries, (h.map JointEntry.name).count_eq,
      JointState.map_name_entries]
    exact honce joint hjoint
  rw [JointState.issues, JointState.issues, missingIssues_perm h.symm,
    entryIssues_eq_flatMap (by rwa [JointState.map_name_entries]),
    entryIssues_eq_flatMap (by rwa [JointState.map_name_entries])]
  exact (h.flatMap_right _).append_right _

/-- The entries of another order of a message that passes the checks. -/
theorem entries_of_accepted (h : message.Rearranges other)
    (haccepted : refusal message canonical native = none) : other.entries.Perm message.entries :=
  h.entries (refusal_eq_none_iff.mp haccepted).2

/-- A message that fails a check fails it in any order. -/
theorem mapJointState_of_refusal (h : message.Rearranges other) {error : String}
    (herror : refusal message canonical native = some error) :
    mapJointState other canonical native = mapJointState message canonical native := by
  rw [mapJointState, mapJointState, h.refusal, herror]

variable (canonical)

theorem valid_rearranges (hnodup : native.Nodup) (h : message.Rearranges other) :
    (mapJointState other canonical native).valid =
      (mapJointState message canonical native).valid := by
  rw [Bool.eq_iff_iff, valid_iff_issues hnodup, valid_iff_issues hnodup, h.refusal]
  refine and_congr_right fun haccepted => ?_
  have hperm := entries_of_accepted h haccepted
  rw [JointState.issues_eq_nil_iff hnodup, JointState.issues_eq_nil_iff hnodup]
  exact and_congr ⟨(hperm.map JointEntry.name).symm.trans, (hperm.map JointEntry.name).trans⟩
    (forall_congr' fun e => imp_congr hperm.mem_iff Iff.rfl)

theorem complete_rearranges (hnodup : native.Nodup) (h : message.Rearranges other) :
    (mapJointState other canonical native).complete =
      (mapJointState message canonical native).complete := by
  cases hmessage : refusal message canonical native with
  | some error => rw [mapJointState_of_refusal h hmessage]
  | none =>
    have hnames := (entries_of_accepted h hmessage).map JointEntry.name
    rw [mapJointState_eq hnodup hmessage, mapJointState_eq hnodup (h.refusal.trans hmessage),
      Bool.eq_iff_iff, List.all_eq_true, List.all_eq_true]
    simp only [decide_eq_true_eq, hnames.mem_iff]

/-- The columns, unless a native name is repeated. -/
theorem columns_rearranges (hnodup : native.Nodup) (h : message.Rearranges other)
    (honce : ∀ joint ∈ native, message.name.count joint ≤ 1) :
    (mapJointState other canonical native).positions =
        (mapJointState message canonical native).positions ∧
      (mapJointState other canonical native).velocities =
        (mapJointState message canonical native).velocities ∧
      (mapJointState other canonical native).efforts =
        (mapJointState message canonical native).efforts := by
  cases hmessage : refusal message canonical native with
  | some error =>
    rw [mapJointState_of_refusal h hmessage]
    exact ⟨rfl, rfl, rfl⟩
  | none =>
    have hperm := entries_of_accepted h hmessage
    rw [← JointState.map_name_entries] at honce
    have hcolumn (present : Bool) (value : JointEntry → Option Double) :=
      column_perm present value hperm.symm honce
    obtain ⟨σ, -, -, hvelocity, heffort⟩ := id h
    rw [mapJointState_eq hnodup hmessage, mapJointState_eq hnodup (h.refusal.trans hmessage)]
    simp only [hcolumn, ne_eq, hvelocity.eq_nil_iff, heffort.eq_nil_iff, and_self]

/-- The issues, unless a native name is repeated. -/
theorem error_rearranges (hnodup : native.Nodup) (h : message.Rearranges other)
    (honce : ∀ joint ∈ native, message.name.count joint ≤ 1) :
    ∃ issues issues' : List String, issues'.Perm issues ∧
      (mapJointState message canonical native).error = joined "" issues ∧
      (mapJointState other canonical native).error = joined "" issues' := by
  cases hmessage : refusal message canonical native with
  | some error =>
    have herror : (mapJointState message canonical native).error = joined "" [error] := by
      rw [mapJointState, hmessage]
      simp [joined, appendError]
    rw [mapJointState_of_refusal h hmessage]
    exact ⟨[error], [error], List.Perm.rfl, herror, herror⟩
  | none =>
    rw [mapJointState_eq hnodup hmessage, mapJointState_eq hnodup (h.refusal.trans hmessage)]
    exact ⟨message.issues native, other.issues native,
      issues_perm (entries_of_accepted h hmessage) honce, rfl, rfl⟩

/-- The whole result, for a valid message. -/
theorem result_rearranges (hnodup : native.Nodup) (h : message.Rearranges other)
    (hvalid : (mapJointState message canonical native).valid = true) :
    mapJointState other canonical native = mapJointState message canonical native := by
  have hnames := ((valid_mapJointState_iff hnodup).mp hvalid).2.1
  have honce : ∀ joint ∈ native, message.name.count joint ≤ 1 := by
    intro joint _
    rw [hnames.count_eq]
    exact List.nodup_iff_count_le_one.mp hnodup joint
  obtain ⟨hpositions, hvelocities, hefforts⟩ := columns_rearranges canonical hnodup h honce
  have hcomplete := complete_rearranges canonical hnodup h
  have hvalidOther := valid_rearranges canonical hnodup h
  have htext {m : JointState} (hm : (mapJointState m canonical native).valid = true) :
      (mapJointState m canonical native).error = "" := by
    obtain ⟨haccepted, hissues⟩ := (valid_iff_issues hnodup).mp hm
    rw [mapJointState_eq hnodup haccepted, hissues]
    rfl
  have herror := (htext (hvalidOther.trans hvalid)).trans (htext hvalid).symm
  rcases hother : mapJointState other canonical native with ⟨p, v, e, c, ok, error⟩
  rcases hmessage : mapJointState message canonical native with ⟨p', v', e', c', ok', error'⟩
  rw [hother, hmessage] at hpositions hvelocities hefforts hcomplete hvalidOther herror
  exact JointStateMappingResult.mk.injEq .. ▸
    ⟨hpositions, hvelocities, hefforts, hcomplete, hvalidOther, herror⟩

end Rearranged

/-! ## The mapping as a whole -/

/-- **The mapping**: under distinct native names it accepts exactly the finite and consistent
messages about the native joints, gives every joint its own values, and depends on the order of a
message only in the order of the issues and in which of several entries of one joint counts. -/
theorem mapJointState_spec (message : JointState) (canonical native : List String)
    (hnodup : native.Nodup) :
    ((mapJointState message canonical native).valid = true ↔
      (native ≠ [] ∧ canonical.length = native.length) ∧ message.name.Perm native ∧
        message.Consistent ∧ message.Finite) ∧
    ((mapJointState message canonical native).valid = true →
      ∀ (i j : ℕ) (joint : String), native[i]? = some joint → message.name[j]? = some joint →
        (mapJointState message canonical native).positions[i]? = message.position[j]? ∧
        (mapJointState message canonical native).velocities[i]? = message.velocity[j]? ∧
        (mapJointState message canonical native).efforts[i]? = message.effort[j]?) ∧
    ∀ other, message.Rearranges other →
      (mapJointState other canonical native).valid =
          (mapJointState message canonical native).valid ∧
        (mapJointState other canonical native).complete =
          (mapJointState message canonical native).complete ∧
        ((mapJointState message canonical native).valid = true →
          mapJointState other canonical native = mapJointState message canonical native) ∧
        ((∀ joint ∈ native, message.name.count joint ≤ 1) →
          ((mapJointState other canonical native).positions =
              (mapJointState message canonical native).positions ∧
            (mapJointState other canonical native).velocities =
              (mapJointState message canonical native).velocities ∧
            (mapJointState other canonical native).efforts =
              (mapJointState message canonical native).efforts) ∧
          ∃ issues issues' : List String, issues'.Perm issues ∧
            (mapJointState message canonical native).error = joined "" issues ∧
            (mapJointState other canonical native).error = joined "" issues') := by
  refine ⟨valid_mapJointState_iff hnodup, fun hvalid i j joint hi hj =>
    mapJointState_values hnodup hvalid hi hj, fun other h => ?_⟩
  exact ⟨valid_rearranges canonical hnodup h, complete_rearranges canonical hnodup h,
    result_rearranges canonical hnodup h, fun honce =>
      ⟨columns_rearranges canonical hnodup h honce, error_rearranges canonical hnodup h honce⟩⟩

/-- Two joints whose entries come in the other order. -/
theorem mapJointState_spec_swapped :
    ["a", "b"].Nodup ∧ (mapJointState ⟨["b", "a"], [.finite 2, .finite 1], [], []⟩
      ["left", "right"] ["a", "b"]).positions[1]? = some (.finite 2) := by
  have hnodup : ["a", "b"].Nodup := by decide
  have hvalid : (mapJointState ⟨["b", "a"], [.finite 2, .finite 1], [], []⟩
      ["left", "right"] ["a", "b"]).valid = true := by decide +kernel
  exact ⟨hnodup, ((mapJointState_spec ⟨["b", "a"], [.finite 2, .finite 1], [], []⟩
    ["left", "right"] ["a", "b"] hnodup).2.1 hvalid 1 0 "b" rfl rfl).1⟩

/-- Without any joint an empty message is refused, and the errors about two unknown joints come in
the order of the message. -/
theorem mapJointState_empty_and_unknown :
    (([] : List String).Nodup ∧ ([] : List String).Perm [] ∧
      (⟨[], [], [], []⟩ : JointState).Consistent ∧ (⟨[], [], [], []⟩ : JointState).Finite ∧
      (mapJointState ⟨[], [], [], []⟩ [] []).valid = false) ∧
    (⟨["x", "y"], [.finite 0, .finite 0], [], []⟩ : JointState).Rearranges
        ⟨["y", "x"], [.finite 0, .finite 0], [], []⟩ ∧
      mapJointState ⟨["y", "x"], [.finite 0, .finite 0], [], []⟩ ["left"] ["a"] ≠
        mapJointState ⟨["x", "y"], [.finite 0, .finite 0], [], []⟩ ["left"] ["a"] := by
  have hempty : (⟨[], [], [], []⟩ : JointState).Consistent :=
    ⟨rfl, fun h => absurd rfl h, fun h => absurd rfl h⟩
  have hfinite : (⟨[], [], [], []⟩ : JointState).Finite := by
    constructor <;> exact fun x hx => absurd hx List.not_mem_nil
  refine ⟨⟨List.nodup_nil, List.Perm.rfl, hempty, hfinite, by decide +kernel⟩,
    ⟨Equiv.swap 0 1, ⟨rfl, ?_⟩, ⟨rfl, ?_⟩, ⟨rfl, ?_⟩, ⟨rfl, ?_⟩⟩, by decide +kernel⟩
  all_goals decide

end Mapping

end Gateway

end JointController
