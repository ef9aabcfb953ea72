import JointController.Workspace.Supervisor

/-!
# What the waits come to

A unit that has been stopped shows that in time, and then the wait for the end sees that nothing is
left.  A unit that has been started has to show it at the second look; then the wait for the stack
sees it ready in time.

* `Settled`, `Falling`: a unit that stays as it is, and one that will show that it is down.
* `waitForStackStopped_ok`, `waitForStackStopped_not_ok`.
* `waitForStackReady_ok`, `waitForStackReady_not_ok`.
-/

namespace JointController.Workspace

open StableWait

/-- A unit that shows what it is. -/
structure Settled (life : UnitLife) (state : UnitState) : Prop where
  shown : life.shown = state
  goal : life.goal = state

/-- A unit that is down and shows that at the time `t` at the latest. -/
structure Falling (life : UnitLife) (t : ℕ) : Prop where
  goal : life.goal = .inactive
  due : life.shown = .inactive ∨ ∃ due, life.due = some due ∧ due ≤ t

theorem Settled.watched {a b : UnitLife} {state : UnitState} (hs : Settled a state)
    (hw : Watched a b) : Settled b state where
  shown := by
    rcases hw.shown with hshown | hshown
    · exact hshown.trans hs.shown
    · exact hshown.trans hs.goal
  goal := hw.goal.trans hs.goal

theorem Settled.falling {a : UnitLife} (hs : Settled a .inactive) (t : ℕ) : Falling a t :=
  ⟨hs.goal, Or.inl hs.shown⟩

theorem Falling.watched {a b : UnitLife} {t t' : ℕ} (hf : Falling a t) (hw : Watched a b)
    (hle : t ≤ t') : Falling b t' where
  goal := hw.goal.trans hf.goal
  due := by
    rcases hf.due with hshown | ⟨due, hdue, hlate⟩
    · rcases hw.shown with hsame | hgoal
      · exact Or.inl (hsame.trans hshown)
      · exact Or.inl (hgoal.trans hf.goal)
    · exact Or.inr ⟨due, hw.due.trans hdue, Nat.le_trans hlate hle⟩

/-- A look shows what a unit will be if that is due. -/
theorem look_shown_of_due {life : UnitLife} {now : ℕ}
    (h : life.left = 0 ∨ life.due.any (fun due => due ≤ now) = true) :
    (life.look now).shown = life.goal := by
  unfold UnitLife.look
  rw [if_pos h]

theorem Falling.look_shown {life : UnitLife} {t now : ℕ} (hf : Falling life t) (hlate : t ≤ now) :
    (life.look now).shown = .inactive := by
  rcases hf.due with hshown | ⟨due, hdue, hle⟩
  · exact (Settled.watched ⟨hshown, hf.goal⟩ (watched_look now life)).shown
  · have hany : life.due.any (fun due => due ≤ now) = true := by
      rw [hdue]
      exact decide_eq_true (Nat.le_trans hle hlate)
    exact (look_shown_of_due (Or.inr hany)).trans hf.goal

section

variable {p : Parameters} {h : Host p} {w : World}

/-! ## Looks at units -/

theorem unitState_units_self (u : ManagedUnit) :
    (w.unitState h u).2.units u = (w.units u).look (w.tick h).now :=
  Function.update_self u _ _

/-- A look tells what the unit shows afterwards. -/
theorem unitState_fst (u : ManagedUnit) :
    (w.unitState h u).1 = ((w.unitState h u).2.units u).shown := by
  rw [unitState_units_self]
  rfl

theorem unitIsActive_iff (u : ManagedUnit) :
    (unitIsActive h u w).1 = true ↔ ((unitIsActive h u w).2.units u).shown = .active := by
  show ((w.unitState h u).1 == .active) = true ↔ ((w.unitState h u).2.units u).shown = .active
  rw [unitState_fst, beq_iff_eq]

theorem unitIsFailed_iff (u : ManagedUnit) :
    (unitIsFailed h u w).1 = true ↔ ((unitIsFailed h u w).2.units u).shown = .failed := by
  show ((w.unitState h u).1 == .failed) = true ↔ ((w.unitState h u).2.units u).shown = .failed
  rw [unitState_fst, beq_iff_eq]

theorem unitIsActive_of_settled {u : ManagedUnit} {state : UnitState}
    (hs : Settled (w.units u) state) : (unitIsActive h u w).1 = true ↔ state = .active := by
  rw [unitIsActive_iff, (hs.watched ((unitIsActive_looks h u w).unit u)).shown]

theorem unitIsFailed_of_settled {u : ManagedUnit} {state : UnitState}
    (hs : Settled (w.units u) state) : (unitIsFailed h u w).1 = true ↔ state = .failed := by
  rw [unitIsFailed_iff, (hs.watched ((unitIsFailed_looks h u w).unit u)).shown]

theorem now_le_tick : w.now ≤ (w.tick h).now := Nat.le_add_right _ _

theorem Falling.unitState_shown {u : ManagedUnit} {t : ℕ} (hf : Falling (w.units u) t)
    (hlate : t ≤ w.now) : ((w.unitState h u).2.units u).shown = .inactive := by
  rw [unitState_units_self]
  exact hf.look_shown (Nat.le_trans hlate now_le_tick)

/-! ## Units that are not down -/

variable {u : ManagedUnit} {t : ℕ}

theorem unitIssue_eq_nil_iff : (unitIssue h u w).1 = [] ↔
    ¬ (unitIsActive h u w).1 = true ∧ ¬ (unitIsFailed h u (unitIsActive h u w).2).1 = true := by
  unfold unitIssue
  dsimp only
  split
  · rename_i hactive
    exact iff_of_false (List.cons_ne_nil _ _) fun hboth => hboth.1 hactive
  · rename_i hactive
    split
    · rename_i hfailed
      exact iff_of_false (List.cons_ne_nil _ _) fun hboth => hboth.2 hfailed
    · rename_i hfailed
      exact iff_of_true rfl ⟨hactive, hfailed⟩

theorem unitIssue_snd_of_nil (hnil : (unitIssue h u w).1 = []) :
    (unitIssue h u w).2 = (unitIsFailed h u (unitIsActive h u w).2).2 := by
  obtain ⟨hactive, hfailed⟩ := unitIssue_eq_nil_iff.mp hnil
  unfold unitIssue
  dsimp only
  rw [if_neg hactive, if_neg hfailed]

theorem unitIssue_ne_nil_of_active (hs : Settled (w.units u) .active) :
    (unitIssue h u w).1 ≠ [] := fun hnil =>
  (unitIssue_eq_nil_iff.mp hnil).1 ((unitIsActive_of_settled hs).mpr rfl)

/-- A unit that is down has no issue once it is late. -/
theorem unitIssue_eq_nil_of_late (hf : Falling (w.units u) t) (hlate : t ≤ w.now) :
    (unitIssue h u w).1 = [] := by
  have hshown : ((unitIsActive h u w).2.units u).shown = .inactive := hf.unitState_shown hlate
  have hgoal : ((unitIsActive h u w).2.units u).goal = .inactive :=
    ((unitIsActive_looks h u w).unit u).goal.trans hf.goal
  refine unitIssue_eq_nil_iff.mpr ⟨?_, ?_⟩
  · rw [unitIsActive_iff, hshown]
    decide
  · rw [unitIsFailed_of_settled ⟨hshown, hgoal⟩]
    decide

/-- A unit that is down and has no issue shows that it is down. -/
theorem settled_of_unitIssue_eq_nil (hf : Falling (w.units u) t) (hnil : (unitIssue h u w).1 = []) :
    Settled ((unitIssue h u w).2.units u) .inactive := by
  obtain ⟨hactive, hfailed⟩ := unitIssue_eq_nil_iff.mp hnil
  have hgoal := ((unitIssue_looks h u w).unit u).goal.trans hf.goal
  rw [unitIssue_snd_of_nil hnil] at hgoal ⊢
  refine ⟨?_, hgoal⟩
  rw [unitIsActive_iff] at hactive
  rw [unitIsFailed_iff] at hfailed
  rcases ((unitIsFailed_looks h u (unitIsActive h u w).2).unit u).shown with hsame | hnew
  · rw [hsame] at hfailed ⊢
    cases hstate : ((unitIsActive h u w).2.units u).shown with
    | inactive => rfl
    | active => exact absurd hstate hactive
    | failed => exact absurd hstate hfailed
  · exact hnew.trans (((unitIsActive_looks h u w).unit u).goal.trans hf.goal)

variable {units : List ManagedUnit}

theorem unitIssues_ne_nil_of_active (hmem : u ∈ units) (hs : Settled (w.units u) .active) :
    (unitIssues h units w).1 ≠ [] := by
  induction units generalizing w with
  | nil => cases hmem
  | cons v units ih =>
    intro hnil
    obtain ⟨hfirst, hrest⟩ := List.append_eq_nil_iff.mp hnil
    rcases List.mem_cons.mp hmem with rfl | hmem
    · exact unitIssue_ne_nil_of_active hs hfirst
    · exact ih hmem (hs.watched ((unitIssue_looks h v w).unit u)) hrest

theorem unitIssues_eq_nil_of_late (hf : ∀ u, Falling (w.units u) t) (hlate : t ≤ w.now) :
    (unitIssues h units w).1 = [] := by
  induction units generalizing w with
  | nil => rfl
  | cons v units ih =>
    have hlooks := unitIssue_looks h v w
    refine List.append_eq_nil_iff.mpr ⟨unitIssue_eq_nil_of_late (hf v) hlate, ?_⟩
    exact ih (fun u => (hf u).watched (hlooks.unit u) le_rfl) (Nat.le_trans hlate hlooks.now_le)

theorem unitIssues_eq_nil_of_settled (hs : ∀ u, Settled (w.units u) .inactive) :
    (unitIssues h units w).1 = [] :=
  unitIssues_eq_nil_of_late (fun u => (hs u).falling w.now) le_rfl

theorem settled_of_unitIssues_eq_nil (hf : ∀ u, Falling (w.units u) t)
    (hnil : (unitIssues h units w).1 = []) :
    ∀ u ∈ units, Settled ((unitIssues h units w).2.units u) .inactive := by
  induction units generalizing w with
  | nil =>
    intro u hmem
    cases hmem
  | cons v units ih =>
    intro u hmem
    obtain ⟨hfirst, hrest⟩ := List.append_eq_nil_iff.mp hnil
    have hlooks := unitIssue_looks h v w
    rcases List.mem_cons.mp hmem with rfl | hmem
    · exact (settled_of_unitIssue_eq_nil (hf u) hfirst).watched
        ((unitIssues_looks h units _).unit u)
    · exact ih (fun u => (hf u).watched (hlooks.unit u) le_rfl) hrest u hmem

/-! ## What is left of a stack -/

/-- The processes and the graph show what has been called for. -/
def GraphShows (h : Host p) (w : World) : Prop := w.graphLeft = 0 ∨ w.graphDue ≤ (w.tick h).now

instance : Decidable (GraphShows h w) := inferInstanceAs (Decidable (_ ∨ _))

theorem graphLeft_takeSnapshot (hshows : GraphShows h w) : (w.takeSnapshot h).2.graphLeft = 0 := by
  show (if decide (GraphShows h w) = true then 0 else w.graphLeft - 1) = 0
  rw [if_pos (decide_eq_true hshows)]

theorem collectUnmanagedStackIssues_eq_nil_iff
    (hgoals : ∀ u : ManagedUnit, u.isControl = true → (w.units u).goal ≠ .active) :
    (collectUnmanagedStackIssues h w).1 = [] ↔ GraphShows h w :=
  (h.clean _ _ _ _ hgoals).trans decide_eq_true_iff

/-! ## The wait for the end -/

/-- Since the time `begun` everything is down and shows that at the time `t` at the latest; while it
is calm, it shows that already. -/
structure Cleaning (begun t : ℕ) (calls : Action → ManagedUnit → ℕ) (calm : Bool) (w : World) :
    Prop where
  begun : begun ≤ w.now
  units : ∀ u, Falling (w.units u) t
  graph : w.graphDue ≤ t
  calls : w.calls = calls
  started : w.lifecycleStartedAt ≤ w.now
  calm : calm = true → (∀ u, Settled (w.units u) .inactive) ∧ w.graphLeft = 0

variable {begun : ℕ} {calls : Action → ManagedUnit → ℕ} {calm : Bool} {w' : World} {k : ℕ}

theorem Cleaning.looks (hc : Cleaning begun t calls calm w) (hlooks : Looks h k w w') :
    Cleaning begun t calls calm w' where
  begun := Nat.le_trans hc.begun hlooks.now_le
  units u := (hc.units u).watched (hlooks.unit u) le_rfl
  graph := by
    rw [hlooks.graphDue]
    exact hc.graph
  calls := hlooks.calls.trans hc.calls
  started := by
    rw [hlooks.started]
    exact Nat.le_trans hc.started hlooks.now_le
  calm hcalm := by
    obtain ⟨hunits, hgraph⟩ := hc.calm hcalm
    exact ⟨fun u => (hunits u).watched (hlooks.unit u),
      Nat.le_zero.mp (Nat.le_trans hlooks.graphLeft (Nat.le_of_eq hgraph))⟩

theorem Cleaning.goals (hc : Cleaning begun t calls calm w) (u : ManagedUnit)
    (_ : u.isControl = true) : (w.units u).goal ≠ .active := by
  rw [(hc.units u).goal]
  decide

/-- The issues of a poll are the units that do not show that they are down, and the graph. -/
theorem Cleaning.poll_eq_nil_iff (hc : Cleaning begun t calls calm w) :
    (collectStoppedIssues h w).1 = [] ↔ (unitIssues h ManagedUnit.all w).1 = [] ∧
      GraphShows h (unitIssues h ManagedUnit.all w).2 := by
  have hunits := hc.looks (unitIssues_looks h ManagedUnit.all w)
  rw [← collectUnmanagedStackIssues_eq_nil_iff hunits.goals]
  exact List.append_eq_nil_iff

/-- The look at the graph does not change the units. -/
theorem collectStoppedIssues_snd :
    (collectStoppedIssues h w).2 = ((unitIssues h ManagedUnit.all w).2.takeSnapshot h).2 := rfl

theorem Cleaning.of_poll_nil (hc : Cleaning begun t calls calm w)
    (hnil : (collectStoppedIssues h w).1 = []) :
    Cleaning begun t calls true (collectStoppedIssues h w).2 := by
  obtain ⟨hunits, hgraph⟩ := hc.poll_eq_nil_iff.mp hnil
  have hafter := hc.looks (collectStoppedIssues_looks h w)
  have hsettled := settled_of_unitIssues_eq_nil hc.units hunits
  refine ⟨hafter.begun, hafter.units, hafter.graph, hafter.calls, hafter.started, fun _ => ?_⟩
  rw [collectStoppedIssues_snd]
  generalize (unitIssues h ManagedUnit.all w).2 = seen at hgraph hsettled
  exact ⟨fun u => (hsettled u (ManagedUnit.mem_all u)).watched (takeSnapshot_looks.unit u),
    graphLeft_takeSnapshot hgraph⟩

theorem Cleaning.poll_of_calm (hc : Cleaning begun t calls true w) :
    (collectStoppedIssues h w).1 = [] := by
  obtain ⟨hunits, hgraph⟩ := hc.calm rfl
  refine hc.poll_eq_nil_iff.mpr ⟨unitIssues_eq_nil_of_settled hunits, Or.inl ?_⟩
  exact ((hc.looks (unitIssues_looks h ManagedUnit.all w)).calm rfl).2

theorem Cleaning.poll_of_late (hc : Cleaning begun t calls calm w) (hlate : t ≤ w.now) :
    (collectStoppedIssues h w).1 = [] := by
  have hlooks := unitIssues_looks h ManagedUnit.all w
  refine hc.poll_eq_nil_iff.mpr ⟨unitIssues_eq_nil_of_late hc.units hlate, Or.inr ?_⟩
  exact Nat.le_trans (hc.looks hlooks).graph
    (Nat.le_trans hlate (Nat.le_trans hlooks.now_le now_le_tick))

/-- Everything that is down shows that in time. -/
theorem settles_stoppedWait (begun t : ℕ) (calls : Action → ManagedUnit → ℕ) :
    Wait.Settles (stoppedWait h) (Cleaning begun t calls) (Cleaning begun t calls)
      (Cleaning begun t calls true) t (pace h.longestLook) where
  calm w hc := ⟨hc.poll_of_calm, hc.looks (collectStoppedIssues_looks h w)⟩
  free _ hc hnil := hc.of_poll_nil hnil
  issue w hc _ := hc.looks (collectStoppedIssues_looks h w)
  late _ hc hlate := hc.poll_of_late hlate
  accept w hc := by
    refine ⟨?_, hc.looks (collectStoppedIssues_looks h w)⟩
    show (collectStoppedIssues h w).1.isEmpty = true
    rw [hc.poll_of_calm]
    rfl
  proceed _ w hc :=
    ⟨w.sleep, rfl, ⟨Nat.le_trans hc.begun (Nat.le_add_right _ _), hc.units, hc.graph, hc.calls,
      Nat.le_trans hc.started (Nat.le_add_right _ _), hc.calm⟩,
      Nat.add_le_add_left (Nat.le_add_right _ _) _⟩
  pace_poll _ w _ := by
    have hpace := (collectStoppedIssues_looks h w).pace
    exact Nat.le_trans hpace (Nat.add_le_add_left (Nat.le_add_left _ _) _)

theorem one_lt_pace (look : ℕ) : 1 < pace look :=
  Nat.lt_of_lt_of_le (by decide) (Nat.le_add_right _ _)

/-- If everything is down, the wait for the end succeeds. -/
theorem waitForStackStopped_ok (hunits : ∀ u, Falling (w.units u) (w.now + h.stopWithin))
    (hgraph : w.graphDue ≤ w.now + h.stopWithin) (hstarted : w.lifecycleStartedAt ≤ w.now) :
    (waitForStackStopped h w).ok = true ∧
      Cleaning w.now (w.now + h.stopWithin) w.calls true (waitForStackStopped h w).state := by
  have htime := h.cleanup_time
  have hpos := one_lt_pace h.longestLook
  refine Wait.ok_of_settles (c := false) (settles_stoppedWait _ _ _) (by omega)
    ⟨le_rfl, hunits, hgraph, rfl, hstarted, fun hfalse => by cases hfalse⟩ (Or.inl ⟨rfl, ?_⟩)
  show w.now ≤ _
  omega

/-- If a unit stays active, the wait for the end does not succeed. -/
theorem waitForStackStopped_not_ok (hs : Settled (w.units u) .active) :
    (waitForStackStopped h w).ok = false := by
  refine Wait.not_ok_of_never (B := fun w : World => Settled (w.units u) .active) ?_ ?_ hs
  · intro w hs
    refine ⟨fun hnil => ?_, hs.watched ((collectStoppedIssues_looks h w).unit u)⟩
    exact unitIssues_ne_nil_of_active (ManagedUnit.mem_all u) hs (List.append_eq_nil_iff.mp hnil).1
  · intro w w' hs hok
    obtain rfl := Except.ok.inj hok
    exact hs

/-! ## The wait for a stack -/

/-- Only the stack of a mode is up, and the graph shows that at the time `t` at the latest; while it
is calm, the unit and the graph show it already. -/
structure Coming (mode : Mode) (t : ℕ) (calm : Bool) (w : World) : Prop where
  goal : (w.units (unitForMode mode)).goal = .active
  others : ∀ u : ManagedUnit, u.isControl = true → u ≠ unitForMode mode →
    Settled (w.units u) .inactive
  graph : w.graphDue ≤ t
  started : w.lifecycleStartedAt ≤ w.now
  calm : calm = true → (w.units (unitForMode mode)).shown = .active ∧ w.graphLeft = 0

/-- Before a poll the unit shows that it is active, or will show it at the second look. -/
def BeforePoll (mode : Mode) (t : ℕ) (calm : Bool) (w : World) : Prop :=
  Coming mode t calm w ∧ ((w.units (unitForMode mode)).shown = .active ∨
    ((w.units (unitForMode mode)).left ≤ 1 ∧ w.now < t))

/-- After a poll the next look at the unit shows that it is active. -/
def AfterPoll (mode : Mode) (t : ℕ) (calm : Bool) (w : World) : Prop :=
  Coming mode t calm w ∧
    ((w.units (unitForMode mode)).shown = .active ∨ (w.units (unitForMode mode)).left = 0)

variable {mode : Mode}

theorem Coming.looks (hc : Coming mode t calm w) (hlooks : Looks h k w w') :
    Coming mode t calm w' where
  goal := (hlooks.unit _).goal.trans hc.goal
  others u hu hne := (hc.others u hu hne).watched (hlooks.unit u)
  graph := by
    rw [hlooks.graphDue]
    exact hc.graph
  started := by
    rw [hlooks.started]
    exact Nat.le_trans hc.started hlooks.now_le
  calm hcalm := by
    obtain ⟨hshown, hgraph⟩ := hc.calm hcalm
    exact ⟨(Settled.watched ⟨hshown, hc.goal⟩ (hlooks.unit _)).shown,
      Nat.le_zero.mp (Nat.le_trans hlooks.graphLeft (Nat.le_of_eq hgraph))⟩

/-- Only the unit of the mode is active. -/
theorem Coming.goals (hc : Coming mode t calm w) (u : ManagedUnit) (hu : u.isControl = true) :
    (w.units u).goal = .active ↔ u = unitForMode mode := by
  constructor
  · intro hgoal
    by_contra hne
    rw [(hc.others u hu hne).goal] at hgoal
    cases hgoal
  · rintro rfl
    exact hc.goal

/-- Once the unit shows that it is active, it does so for good. -/
theorem shown_of_looks (hgoal : (w.units u).goal = .active) (hlooks : Looks h k w w')
    (hshown : (w.units u).shown = .active) : (w'.units u).shown = .active :=
  (Settled.watched ⟨hshown, hgoal⟩ (hlooks.unit u)).shown

theorem AfterPoll.isActive (ha : AfterPoll mode t calm w) :
    (unitIsActive h (unitForMode mode) w).1 = true := by
  obtain ⟨hc, hshown | hleft⟩ := ha
  · exact (unitIsActive_of_settled ⟨hshown, hc.goal⟩).mpr rfl
  · rw [unitIsActive_iff]
    show ((w.unitState h (unitForMode mode)).2.units (unitForMode mode)).shown = .active
    rw [unitState_units_self]
    exact (look_shown_of_due (Or.inl hleft)).trans hc.goal

theorem AfterPoll.looks (ha : AfterPoll mode t calm w) (hlooks : Looks h k w w') :
    AfterPoll mode t calm w' := by
  obtain ⟨hc, hshown | hleft⟩ := ha
  · exact ⟨hc.looks hlooks, Or.inl (shown_of_looks hc.goal hlooks hshown)⟩
  · exact ⟨hc.looks hlooks,
      Or.inr (Nat.le_zero.mp (Nat.le_trans (hlooks.unit _).left (Nat.le_of_eq hleft)))⟩

/-- One look brings the unit so far that the next one shows it active. -/
theorem BeforePoll.unitIsActive_snd (hb : BeforePoll mode t calm w) :
    AfterPoll mode t calm (unitIsActive h (unitForMode mode) w).2 := by
  have hlooks := unitIsActive_looks h (unitForMode mode) w
  obtain ⟨hc, hshown | ⟨hleft, -⟩⟩ := hb
  · exact ⟨hc.looks hlooks, Or.inl (shown_of_looks hc.goal hlooks hshown)⟩
  · refine ⟨hc.looks hlooks, ?_⟩
    show ((w.unitState h (unitForMode mode)).2.units (unitForMode mode)).shown = .active ∨
      ((w.unitState h (unitForMode mode)).2.units (unitForMode mode)).left = 0
    rw [unitState_units_self]
    unfold UnitLife.look
    split
    · exact Or.inl hc.goal
    · exact Or.inr (Nat.sub_eq_zero_of_le hleft)

/-- The issues of a poll are the unit that does not show that it is active, and the graph. -/
theorem Coming.poll_eq_nil_iff (hc : Coming mode t calm w) :
    (collectReadinessIssues h (unitForMode mode) w).1 = [] ↔
      (unitIsActive h (unitForMode mode) w).1 = true ∧
        GraphShows h (unitIsActive h (unitForMode mode) w).2 := by
  have hafter := hc.looks (unitIsActive_looks h (unitForMode mode) w)
  unfold collectReadinessIssues
  dsimp only
  split
  · rename_i hactive
    rw [and_iff_right hactive]
    generalize (unitIsActive h (unitForMode mode) w).2 = seen at hafter
    exact (h.ready _ _ _ _ mode _ hafter.goals
      (Nat.le_trans hafter.started now_le_tick)).trans decide_eq_true_iff
  · rename_i hactive
    exact iff_of_false (List.cons_ne_nil _ _) fun hboth => hactive hboth.1

theorem collectReadinessIssues_snd (hactive : (unitIsActive h u w).1 = true) :
    (collectReadinessIssues h u w).2 = ((unitIsActive h u w).2.takeSnapshot h).2 := by
  unfold collectReadinessIssues
  dsimp only
  rw [if_pos hactive]

theorem BeforePoll.poll (hb : BeforePoll mode t calm w) :
    AfterPoll mode t calm (collectReadinessIssues h (unitForMode mode) w).2 := by
  have hafter := hb.unitIsActive_snd (h := h)
  unfold collectReadinessIssues
  dsimp only
  split
  · exact hafter.looks takeSnapshot_looks
  · exact hafter

theorem BeforePoll.of_poll_nil (hb : BeforePoll mode t calm w)
    (hnil : (collectReadinessIssues h (unitForMode mode) w).1 = []) :
    AfterPoll mode t true (collectReadinessIssues h (unitForMode mode) w).2 := by
  obtain ⟨hactive, hgraph⟩ := hb.1.poll_eq_nil_iff.mp hnil
  obtain ⟨hafter, hshows⟩ := hb.poll (h := h)
  refine ⟨⟨hafter.goal, hafter.others, hafter.graph, hafter.started, fun _ => ?_⟩, hshows⟩
  have hgoal := ((unitIsActive_looks h (unitForMode mode) w).unit (unitForMode mode)).goal
  rw [unitIsActive_iff] at hactive
  rw [collectReadinessIssues_snd (unitIsActive_iff _ |>.mpr hactive)]
  exact ⟨shown_of_looks (hgoal.trans hb.1.goal) takeSnapshot_looks hactive,
    graphLeft_takeSnapshot hgraph⟩

theorem Coming.poll_of_calm (hc : Coming mode t true w) :
    (collectReadinessIssues h (unitForMode mode) w).1 = [] := by
  have hafter := hc.looks (unitIsActive_looks h (unitForMode mode) w)
  refine hc.poll_eq_nil_iff.mpr ⟨?_, Or.inl (hafter.calm rfl).2⟩
  exact (unitIsActive_of_settled ⟨(hc.calm rfl).1, hc.goal⟩).mpr rfl

theorem BeforePoll.poll_of_late (hb : BeforePoll mode t calm w) (hlate : t ≤ w.now) :
    (collectReadinessIssues h (unitForMode mode) w).1 = [] := by
  obtain ⟨hc, hshows⟩ := hb
  have hlooks := unitIsActive_looks h (unitForMode mode) w
  have hshown : (w.units (unitForMode mode)).shown = .active :=
    hshows.resolve_right fun hearly => absurd hearly.2 (Nat.not_lt.mpr hlate)
  refine hc.poll_eq_nil_iff.mpr ⟨(unitIsActive_of_settled ⟨hshown, hc.goal⟩).mpr rfl, Or.inr ?_⟩
  exact Nat.le_trans (hc.looks hlooks).graph
    (Nat.le_trans hlate (Nat.le_trans hlooks.now_le now_le_tick))

/-- A stack that comes up and shows its unit in time is ready in time. -/
theorem settles_readyWait (mode : Mode) (t startedAt : ℕ) :
    Wait.Settles (readyWait h (unitForMode mode) startedAt) (BeforePoll mode t) (AfterPoll mode t)
      (Coming mode t true) t (pace h.longestLook) where
  calm w hb := ⟨hb.1.poll_of_calm, hb.poll⟩
  free _ hb hnil := hb.of_poll_nil hnil
  issue _ hb _ := hb.poll
  late _ hb hlate := hb.poll_of_late hlate
  accept w ha := by
    have hnil : (collectReadinessIssues h (unitForMode mode) w).1 = [] := ha.1.poll_of_calm
    have hafter := ha.looks (collectReadinessIssues_looks h (unitForMode mode) w)
    show (if _ then _ else _ : Bool × List String × World).1 = true ∧
      Coming mode t true (if _ then _ else _ : Bool × List String × World).2.2
    rw [if_pos (List.isEmpty_iff.mpr hnil)]
    exact ⟨hafter.isActive, hafter.1.looks (unitIsActive_looks h _ _)⟩
  proceed c w ha := by
    have hobserved := ha.looks (observeHardware_looks h (unitForMode mode) startedAt w)
    have hlooks := readyProceed_looks h (unitForMode mode) startedAt w
    have hactive := hobserved.isActive (h := h)
    have hafter := hobserved.1.looks (unitIsActive_looks h (unitForMode mode) _)
    refine ⟨_, if_pos hactive, ⟨⟨hafter.goal, hafter.others, hafter.graph,
      Nat.le_trans hafter.started (Nat.le_add_right _ _), hafter.calm⟩,
      Or.inl ((unitIsActive_iff _).mp hactive)⟩, ?_⟩
    have hpace := hlooks.pace
    show _ + ms 250 ≤ w.now + (ms 250 + 11 * h.longestLook)
    omega
  pace_poll _ w _ := by
    have hpace := (collectReadinessIssues_looks h (unitForMode mode) w).pace
    show _ ≤ w.now + (ms 250 + 11 * h.longestLook)
    exact Nat.le_trans hpace (by omega)

/-- If only the stack comes up and its unit shows at the second look, the wait succeeds. -/
theorem waitForStackReady_ok
    (hc : Coming mode (w.now + max h.stopWithin h.startWithin + 1) false w)
    (hshows : (w.units (unitForMode mode)).shown = .active ∨
      (w.units (unitForMode mode)).left ≤ 1) :
    (waitForStackReady h (unitForMode mode) w).ok = true ∧
      Coming mode (w.now + max h.stopWithin h.startWithin + 1) true
        (waitForStackReady h (unitForMode mode) w).state := by
  have htime := h.startup_time
  have hpos := one_lt_pace h.longestLook
  refine Wait.ok_of_settles (c := false) (settles_readyWait mode _ w.now) (by omega)
    ⟨hc, hshows.imp_right fun hleft => ⟨hleft, by omega⟩⟩ (Or.inl ⟨rfl, ?_⟩)
  show w.now ≤ _
  omega

/-- A unit that does not show that it is active, for `k` more looks. -/
structure Hidden (life : UnitLife) (k : ℕ) : Prop where
  shown : life.shown ≠ .active
  left : k ≤ life.left
  due : life.due = none

theorem Hidden.look {life : UnitLife} (hh : Hidden life (k + 1)) (now : ℕ) :
    Hidden (life.look now) k := by
  have hleft := hh.left
  have hlater : ¬ (life.left = 0 ∨ life.due.any (fun due => due ≤ now) = true) := by
    rw [hh.due]
    rintro (hzero | hnone)
    · omega
    · cases hnone
  unfold UnitLife.look
  rw [if_neg hlater]
  exact ⟨hh.shown, Nat.le_sub_one_of_lt hleft, hh.due⟩

theorem Hidden.not_isActive (hh : Hidden (w.units u) (k + 1)) :
    (unitIsActive h u w).1 = false ∧ Hidden ((unitIsActive h u w).2.units u) k := by
  have hafter : Hidden ((unitIsActive h u w).2.units u) k := by
    show Hidden ((w.unitState h u).2.units u) k
    rw [unitState_units_self]
    exact hh.look _
  refine ⟨(Bool.not_eq_true _).mp fun hactive => ?_, hafter⟩
  exact hafter.shown ((unitIsActive_iff u).mp hactive)

theorem observeHardware_units (startedAt : ℕ) :
    (observeHardware h u startedAt w).units = w.units := by
  unfold observeHardware
  split <;> rfl

/-- If the unit does not show at the second look, the wait gives up. -/
theorem waitForStackReady_not_ok (hh : Hidden (w.units u) 2) :
    (waitForStackReady h u w).ok = false := by
  obtain ⟨hfirst, hafter⟩ := hh.not_isActive (h := h)
  have hpoll : collectReadinessIssues h u w =
      (["unit inactive: " ++ u.name], (unitIsActive h u w).2) := by
    unfold collectReadinessIssues
    dsimp only
    rw [if_neg ((Bool.not_eq_true _).mpr hfirst)]
  have hsecond : Hidden
      ((observeHardware h u w.now (unitIsActive h u w).2).units u) (0 + 1) := by
    rw [observeHardware_units]
    exact hafter
  have hinactive := (Bool.not_eq_true _).mpr (hsecond.not_isActive (h := h)).1
  have hissue : ((readyWait h u w.now).poll w).1 ≠ [] := by
    show (collectReadinessIssues h u w).1 ≠ []
    rw [hpoll]
    exact List.cons_ne_nil _ _
  have hgiveUp : (readyWait h u w.now).proceed ((readyWait h u w.now).poll w).2 =
      .error (collectReadinessIssues h u
        (unitIsActive h u (observeHardware h u w.now (unitIsActive h u w).2)).2) := by
    show readyProceed h u w.now (collectReadinessIssues h u w).2 = _
    rw [hpoll]
    exact if_neg hinactive
  exact Wait.not_ok_of_giveUp hissue hgiveUp

end

end JointController.Workspace
