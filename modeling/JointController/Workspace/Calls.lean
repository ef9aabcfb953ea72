import JointController.Workspace.Waits

/-!
# What the calls do

Stops and resets only take units down: `Lowers`.  A stop takes down the unit and what is part of it,
and no other unit.

* `lowers_call`, `watched_call`, `falls_stop`: one call.
* `stopFailedTarget_spec`, `stopSimulationRviz_spec`, `stopPrevious_spec`: the stages of a START.
* `resetFailedManagedUnits_spec`: afterwards no unit stays failed.
-/

namespace JointController.Workspace

/-- A unit that is down or has failed. -/
def Falls (life : UnitLife) (t : ℕ) : Prop := Falling life t ∨ Settled life .failed

/-- A unit that neither is nor shows active. -/
structure NotActive (life : UnitLife) : Prop where
  shown : life.shown ≠ .active
  goal : life.goal ≠ .active

theorem Falls.watched {a b : UnitLife} {t t' : ℕ} (hf : Falls a t) (hw : Watched a b)
    (hle : t ≤ t') : Falls b t' := by
  rcases hf with hf | hs
  · exact Or.inl (hf.watched hw hle)
  · exact Or.inr (hs.watched hw)

theorem NotActive.watched {a b : UnitLife} (hn : NotActive a) (hw : Watched a b) : NotActive b where
  shown := by
    rcases hw.shown with hsame | hgoal
    · rw [hsame]
      exact hn.shown
    · rw [hgoal]
      exact hn.goal
  goal := by
    rw [hw.goal]
    exact hn.goal

theorem Settled.falls {a : UnitLife} {state : UnitState} (hs : Settled a state)
    (hstate : state ≠ .active) (t : ℕ) : Falls a t := by
  cases state with
  | inactive => exact Or.inl (hs.falling t)
  | active => exact absurd rfl hstate
  | failed => exact Or.inr hs

/-- A call on the unit `u` matters for the unit `v`. -/
def Touches (u v : ManagedUnit) : Prop := v = u ∨ u ∈ v.partOf

theorem touches_iff_of_control {u v : ManagedUnit} (hv : v.isControl = true) :
    Touches u v ↔ v = u := by
  cases v with
  | rviz => cases hv
  | _ => exact or_iff_left List.not_mem_nil

/-! ## The effect of a call -/

section

variable {action : Action} {u v : ManagedUnit} {state : UnitState}

theorem effect_inactive (haction : action ≠ .start) : effect action u v .inactive = .inactive := by
  cases action with
  | start => exact absurd rfl haction
  | stop => exact ite_id _
  | resetFailed => exact ite_id _

theorem effect_ne_active (haction : action ≠ .start) (hstate : state ≠ .active) :
    effect action u v state ≠ .active := by
  cases action with
  | start => exact absurd rfl haction
  | stop =>
    show (if _ then state.stopped else state) ≠ .active
    split
    · cases state <;> decide
    · exact hstate
  | resetFailed =>
    show (if _ then UnitState.inactive else state) ≠ .active
    split
    · decide
    · exact hstate

theorem effect_of_not_touches (haction : action ≠ .start) (hv : ¬ Touches u v) :
    effect action u v state = state := by
  cases action with
  | start => exact absurd rfl haction
  | stop => exact if_neg hv
  | resetFailed => exact if_neg fun hboth => hv (Or.inl hboth.1)

/-- A reset does nothing to a unit that has not failed. -/
theorem effect_reset_of_ne (hstate : state ≠ .failed) : effect .resetFailed u v state = state :=
  if_neg fun hboth => hstate hboth.2

end

theorem UnitLife.expect_self {life : UnitLife} {goal : UnitState} (left : ℕ) (due : Option ℕ)
    (hgoal : goal = life.goal) : life.expect goal left due = life :=
  if_pos hgoal

section

variable {p : Parameters} {h : Host p} {w w' w'' : World}

/-- Units only go down from `w` to `w'`. -/
structure Lowers (h : Host p) (w w' : World) : Prop where
  now_le : w.now ≤ w'.now
  down : ∀ u, Settled (w.units u) .inactive → Settled (w'.units u) .inactive
  falling : ∀ u, Falling (w.units u) (w.now + h.stopWithin) →
    Falling (w'.units u) (w'.now + h.stopWithin)
  falls : ∀ u, Falls (w.units u) (w.now + h.stopWithin) →
    Falls (w'.units u) (w'.now + h.stopWithin)
  notActive : ∀ u, NotActive (w.units u) → NotActive (w'.units u)
  graph : w.graphDue ≤ w.now + h.stopWithin → w'.graphDue ≤ w'.now + h.stopWithin
  calls : w'.calls .start = w.calls .start
  started : w'.lifecycleStartedAt = w.lifecycleStartedAt

theorem Lowers.trans (hfirst : Lowers h w w') (hsecond : Lowers h w' w'') : Lowers h w w'' where
  now_le := Nat.le_trans hfirst.now_le hsecond.now_le
  down u hu := hsecond.down u (hfirst.down u hu)
  falling u hu := hsecond.falling u (hfirst.falling u hu)
  falls u hu := hsecond.falls u (hfirst.falls u hu)
  notActive u hu := hsecond.notActive u (hfirst.notActive u hu)
  graph hgraph := hsecond.graph (hfirst.graph hgraph)
  calls := hsecond.calls.trans hfirst.calls
  started := hsecond.started.trans hfirst.started

theorem Looks.lowers {k : ℕ} (hlooks : Looks h k w w') : Lowers h w w' where
  now_le := hlooks.now_le
  down u hu := hu.watched (hlooks.unit u)
  falling u hu := hu.watched (hlooks.unit u) (Nat.add_le_add_right hlooks.now_le _)
  falls u hu := hu.watched (hlooks.unit u) (Nat.add_le_add_right hlooks.now_le _)
  notActive u hu := hu.watched (hlooks.unit u)
  graph hgraph := by
    rw [hlooks.graphDue]
    exact Nat.le_trans hgraph (Nat.add_le_add_right hlooks.now_le _)
  calls := by rw [hlooks.calls]
  started := hlooks.started

variable {action : Action} {u v : ManagedUnit}

/-- A unit for which a call does nothing. -/
theorem call_units_of_effect_eq
    (heffect : effect action u v (w.units v).goal = (w.units v).goal) :
    (w.call h action u).units v = w.units v :=
  UnitLife.expect_self _ _ heffect

/-- A unit that a stop or a reset takes down. -/
theorem falling_call (haction : action ≠ .start) (hgoal : (w.units v).goal ≠ .inactive)
    (heffect : effect action u v (w.units v).goal = .inactive) :
    Falling ((w.call h action u).units v) ((w.call h action u).now + h.stopWithin) := by
  show Falling (UnitLife.expect _ _ (World.dueOf h action _) (w.units v)) _
  rw [heffect]
  unfold UnitLife.expect World.dueOf
  rw [if_neg hgoal.symm, if_neg haction]
  exact ⟨rfl, Or.inr ⟨_, rfl, le_rfl⟩⟩

theorem lowers_call (haction : action ≠ .start) : Lowers h w (w.call h action u) where
  now_le := Nat.le_add_right _ _
  down v hv := by
    rw [call_units_of_effect_eq (by rw [hv.goal]; exact effect_inactive haction)]
    exact hv
  falling v hv := by
    rw [call_units_of_effect_eq (by rw [hv.goal]; exact effect_inactive haction)]
    exact hv.watched (.refl _) (Nat.add_le_add_right (Nat.le_add_right _ _) _)
  falls v hv := by
    rcases hv with hf | hs
    · rw [call_units_of_effect_eq (by rw [hf.goal]; exact effect_inactive haction)]
      exact Or.inl (hf.watched (.refl _) (Nat.add_le_add_right (Nat.le_add_right _ _) _))
    · by_cases heffect : effect action u v (w.units v).goal = .inactive
      · refine Or.inl (falling_call haction ?_ heffect)
        rw [hs.goal]
        decide
      · have hfailed : effect action u v (w.units v).goal = (w.units v).goal := by
          rw [hs.goal] at heffect ⊢
          have hne := effect_ne_active (u := u) (v := v) haction
            (by decide : UnitState.failed ≠ .active)
          cases hstate : effect action u v .failed with
          | inactive => exact absurd hstate heffect
          | active => exact absurd hstate hne
          | failed => rfl
        rw [call_units_of_effect_eq hfailed]
        exact Or.inr hs
  notActive v hv := by
    show NotActive (UnitLife.expect _ _ _ (w.units v))
    unfold UnitLife.expect
    split
    · exact hv
    · exact ⟨hv.shown, effect_ne_active haction hv.goal⟩
  graph hgraph := by
    show max w.graphDue (_ + World.graphWithin h action) ≤ _
    unfold World.graphWithin
    rw [if_neg haction]
    refine Nat.max_le.mpr ⟨Nat.le_trans hgraph ?_, le_rfl⟩
    exact Nat.add_le_add_right (Nat.le_add_right _ _) _
  calls := Function.update_of_ne haction.symm _ _
  started := rfl

/-- A stop or a reset does nothing to the other units. -/
theorem watched_call (haction : action ≠ .start) (hv : ¬ Touches u v) :
    Watched (w.units v) ((w.call h action u).units v) := by
  rw [call_units_of_effect_eq (effect_of_not_touches haction hv)]
  exact .refl _

/-- A stop takes down what it touches. -/
theorem falls_stop (hv : Touches u v) (hs : Settled (w.units v) .active) :
    Falls ((w.call h .stop u).units v) ((w.call h .stop u).now + h.stopWithin) := by
  refine Or.inl (falling_call (by decide) ?_ ?_)
  · rw [hs.goal]
    decide
  · rw [hs.goal]
    exact if_pos hv

/-! ## Stages -/

theorem unitIsPresent_of_settled {state : UnitState} (hs : Settled (w.units u) state) :
    (unitIsPresent h u w).1 = true ↔ state ≠ .inactive := by
  have hafter := hs.watched ((unitIsActive_looks h u w).unit u)
  unfold unitIsPresent
  dsimp only
  split
  · rename_i hactive
    rw [(unitIsActive_of_settled hs).mp hactive]
    exact iff_of_true ((unitIsActive_of_settled hs).mpr ((unitIsActive_of_settled hs).mp hactive))
      (by decide)
  · rename_i hactive
    rw [unitIsActive_of_settled hs] at hactive
    rw [unitIsFailed_of_settled hafter]
    cases state with
    | inactive => decide
    | active => exact absurd rfl hactive
    | failed => decide

/-- What a stage of a START does that stops the unit `u` if it is there. -/
structure Stage (h : Host p) (u : ManagedUnit) (w w' : World) : Prop where
  lowers : Lowers h w w'
  frame : ∀ v, ¬ Touches u v → Watched (w.units v) (w'.units v)
  falls : ∀ state, Settled (w.units u) state → Falls (w'.units u) (w'.now + h.stopWithin)

/-- A unit is looked at and stopped if it is there. -/
theorem stage_unitIsPresent : Stage h u w
    (if (unitIsPresent h u w).1 = true then (unitIsPresent h u w).2.call h .stop u
      else (unitIsPresent h u w).2) := by
  have hlooks := unitIsPresent_looks h u w
  split
  · refine ⟨hlooks.lowers.trans (lowers_call (by decide)), fun v hv => ?_, fun state hs => ?_⟩
    · exact (hlooks.unit v).trans (watched_call (by decide) hv)
    · by_cases hstate : state = .active
      · subst hstate
        exact falls_stop (Or.inl rfl) (hs.watched (hlooks.unit u))
      · exact (hlooks.lowers.trans (lowers_call (by decide))).falls u (hs.falls hstate _)
  · rename_i hpresent
    refine ⟨hlooks.lowers, fun v _ => hlooks.unit v, fun state hs => ?_⟩
    have hstate : state = .inactive := by
      by_contra hne
      exact hpresent ((unitIsPresent_of_settled hs).mpr hne)
    exact hlooks.lowers.falls u (hs.falls (by rw [hstate]; decide) _)

theorem stopSimulationRviz_stage : Stage h .rviz w (stopSimulationRviz h w) :=
  stage_unitIsPresent

variable {s : Preparation}

theorem stopPrevious_of_not (u : ManagedUnit) : stopPrevious h false u s = s :=
  if_neg fun hboth => Bool.false_ne_true hboth.2

/-- Another unit is stopped if it is active or failed, and this is noted. -/
theorem stopPrevious_spec {state : UnitState} (hresult : s.result = 0)
    (hs : Settled (s.world.units u) state) :
    (stopPrevious h true u s).result = 0 ∧
      ((stopPrevious h true u s).stoppedPreviousStack = true ↔
        s.stoppedPreviousStack = true ∨ state ≠ .inactive) ∧
      Stage h u s.world (stopPrevious h true u s).world := by
  have hstage := stage_unitIsPresent (h := h) (u := u) (w := s.world)
  have hpresent := unitIsPresent_of_settled (h := h) hs
  unfold stopPrevious
  rw [if_pos ⟨hresult, rfl⟩]
  dsimp only
  split
  · rename_i hyes
    rw [if_pos hyes] at hstage
    exact ⟨rfl, iff_of_true rfl (Or.inr (hpresent.mp hyes)), hstage⟩
  · rename_i hno
    rw [if_neg hno] at hstage
    exact ⟨hresult, (or_iff_left (mt hpresent.mpr hno)).symm, hstage⟩

/-- Other units are stopped one after the other. -/
def stopAll (h : Host p) (units : List ManagedUnit) (s : Preparation) : Preparation :=
  units.foldl (fun s u => stopPrevious h true u s) s

/-- Control units are all taken down, and it is noted if there was one. -/
theorem stopAll_spec {units : List ManagedUnit} {states : ManagedUnit → UnitState}
    (hresult : s.result = 0) (hcontrol : ∀ u ∈ units, u.isControl = true) (hnodup : units.Nodup)
    (hs : ∀ u ∈ units, Settled (s.world.units u) (states u)) :
    (stopAll h units s).result = 0 ∧
      ((stopAll h units s).stoppedPreviousStack = true ↔
        s.stoppedPreviousStack = true ∨ ∃ u ∈ units, states u ≠ .inactive) ∧
      Lowers h s.world (stopAll h units s).world ∧
      (∀ v, (∀ u ∈ units, ¬ Touches u v) →
        Watched (s.world.units v) ((stopAll h units s).world.units v)) ∧
      ∀ u ∈ units, Falls ((stopAll h units s).world.units u)
        ((stopAll h units s).world.now + h.stopWithin) := by
  induction units generalizing s with
  | nil =>
    refine ⟨hresult, (or_iff_left ?_).symm, (Looks.refl (h := h) 0 s.world).lowers,
      fun v _ => .refl _, fun u hu => by cases hu⟩
    rintro ⟨u, hu, -⟩
    cases hu
  | cons u units ih =>
    obtain ⟨hnew, hnodup⟩ := List.nodup_cons.mp hnodup
    obtain ⟨hfirst, hnoted, hstage⟩ := stopPrevious_spec (h := h) hresult (hs u List.mem_cons_self)
    have hothers : ∀ v ∈ units, Settled ((stopPrevious h true u s).world.units v) (states v) := by
      intro v hv
      refine (hs v (List.mem_cons_of_mem u hv)).watched (hstage.frame v ?_)
      rw [touches_iff_of_control (hcontrol v (List.mem_cons_of_mem u hv))]
      rintro rfl
      exact hnew hv
    obtain ⟨hrest, hrestNoted, hlowers, hframe, hfalls⟩ := ih hfirst
      (fun v hv => hcontrol v (List.mem_cons_of_mem u hv)) hnodup hothers
    refine ⟨hrest, ?_, hstage.lowers.trans hlowers, ?_, ?_⟩
    · rw [List.exists_mem_cons_iff, ← or_assoc, ← hnoted]
      exact hrestNoted
    · intro v hv
      exact (hstage.frame v (hv u List.mem_cons_self)).trans
        (hframe v fun u' hu' => hv u' (List.mem_cons_of_mem u hu'))
    · intro v hv
      rcases List.mem_cons.mp hv with rfl | hv
      · exact hlowers.falls v (hstage.falls _ (hs v List.mem_cons_self))
      · exact hfalls v hv

/-! ## The target -/

/-- A failed target is stopped, and with it what is part of it. -/
theorem stopFailedTarget_spec {target : ManagedUnit} {state : UnitState}
    (hs : Settled (w.units target) state) :
    (stopFailedTarget h target w).result = 0 ∧
      (stopFailedTarget h target w).stoppedPreviousStack = false ∧
      Lowers h w (stopFailedTarget h target w).world ∧
      (∀ v, (state = .failed → ¬ Touches target v) →
        Watched (w.units v) ((stopFailedTarget h target w).world.units v)) ∧
      (state = .failed → ∀ v, Touches target v → Settled (w.units v) .active →
        Falls ((stopFailedTarget h target w).world.units v)
          ((stopFailedTarget h target w).world.now + h.stopWithin)) := by
  have hactive := unitIsActive_of_settled (h := h) hs
  have hlooks := (unitIsActive_looks h target w).trans
    (unitIsFailed_looks h target (unitIsActive h target w).2)
  have hfailed := unitIsFailed_of_settled (h := h)
    (hs.watched ((unitIsActive_looks h target w).unit target))
  unfold stopFailedTarget
  dsimp only
  split
  · rename_i hyes
    refine ⟨rfl, rfl, (unitIsActive_looks h target w).lowers,
      fun v _ => (unitIsActive_looks h target w).unit v, fun hfail => ?_⟩
    rw [hactive.mp hyes] at hfail
    cases hfail
  · split
    · rename_i hyes
      refine ⟨rfl, rfl, hlooks.lowers.trans (lowers_call (by decide)), fun v hv => ?_,
        fun _ v hv hup => falls_stop hv (hup.watched (hlooks.unit v))⟩
      exact (hlooks.unit v).trans (watched_call (by decide) (hv (hfailed.mp hyes)))
    · rename_i hno
      exact ⟨rfl, rfl, hlooks.lowers, fun v _ => hlooks.unit v,
        fun hfail => absurd (hfailed.mpr hfail) hno⟩

/-! ## Failed units -/

theorem resetIfFailed_lowers : Lowers h w (resetIfFailed h w u) := by
  have hlooks := unitIsFailed_looks h u w
  unfold resetIfFailed
  dsimp only
  split
  · exact hlooks.lowers.trans (lowers_call (by decide))
  · exact hlooks.lowers

/-- A reset leaves active units alone. -/
theorem resetIfFailed_active (hs : Settled (w.units v) .active) :
    Settled ((resetIfFailed h w u).units v) .active := by
  have hafter := hs.watched ((unitIsFailed_looks h u w).unit v)
  unfold resetIfFailed
  dsimp only
  split
  · show Settled ((World.call h _ .resetFailed u).units v) .active
    rw [call_units_of_effect_eq (effect_reset_of_ne (by rw [hafter.goal]; decide))]
    exact hafter
  · exact hafter

/-- After a reset a unit that is down does not stay failed. -/
theorem resetIfFailed_falling (hf : Falls (w.units u) (w.now + h.stopWithin)) :
    Falling ((resetIfFailed h w u).units u) ((resetIfFailed h w u).now + h.stopWithin) := by
  rcases hf with hf | hs
  · exact resetIfFailed_lowers.falling u hf
  · have hafter := hs.watched ((unitIsFailed_looks h u w).unit u)
    unfold resetIfFailed
    dsimp only
    rw [if_pos ((unitIsFailed_of_settled hs).mpr rfl)]
    refine falling_call (by decide) ?_ ?_
    · rw [hafter.goal]
      decide
    · rw [hafter.goal]
      exact if_pos ⟨rfl, rfl⟩

theorem foldl_resetIfFailed_spec (units : List ManagedUnit) (w : World) :
    Lowers h w (units.foldl (resetIfFailed h) w) ∧
      (∀ v, Settled (w.units v) .active →
        Settled ((units.foldl (resetIfFailed h) w).units v) .active) ∧
      ∀ u ∈ units, Falls (w.units u) (w.now + h.stopWithin) →
        Falling ((units.foldl (resetIfFailed h) w).units u)
          ((units.foldl (resetIfFailed h) w).now + h.stopWithin) := by
  induction units generalizing w with
  | nil => exact ⟨(Looks.refl (h := h) 0 w).lowers, fun _ hv => hv, fun u hu => by cases hu⟩
  | cons v units ih =>
    obtain ⟨hlowers, hactive, hfalling⟩ := ih (resetIfFailed h w v)
    refine ⟨resetIfFailed_lowers.trans hlowers, fun u hu => hactive u (resetIfFailed_active hu), ?_⟩
    intro u hu hf
    rcases List.mem_cons.mp hu with rfl | hu
    · exact hlowers.falling u (resetIfFailed_falling hf)
    · exact hfalling u hu (resetIfFailed_lowers.falls u hf)

/-- Afterwards no unit that is down stays failed. -/
theorem resetFailedManagedUnits_spec (w : World) :
    Lowers h w (resetFailedManagedUnits h w) ∧
      (∀ v, Settled (w.units v) .active →
        Settled ((resetFailedManagedUnits h w).units v) .active) ∧
      ∀ u, Falls (w.units u) (w.now + h.stopWithin) →
        Falling ((resetFailedManagedUnits h w).units u)
          ((resetFailedManagedUnits h w).now + h.stopWithin) := by
  obtain ⟨hlowers, hactive, hfalling⟩ := foldl_resetIfFailed_spec (h := h) ManagedUnit.all w
  unfold resetFailedManagedUnits
  exact ⟨hlowers, hactive, fun u hu => hfalling u (ManagedUnit.mem_all u) hu⟩

end

end JointController.Workspace
