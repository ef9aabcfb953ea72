import Mathlib.Data.List.Basic
import Mathlib.Data.Nat.Basic

/-!
# Waiting until a condition is stable

A wait polls a system that changes on its own, up to a deadline.  It reports success after the polls
have found nothing for a while, and a last look accepts it.

* `Wait`, `Wait.run`: the loop, with the polls that it has made.
* `run_keeps`: what every part of the loop keeps holds at its end.
* `Unbroken`, `unbroken_of_ok`: a success rests on polls without issues that cover an unbroken
  interval of the required length.
* `Settles`, `ok_of_settles`: if the issues end in time, the wait succeeds.
* `not_ok_of_never`, `not_ok_of_giveUp`: if they never end, or the wait gives up, it does not.
-/

namespace StableWait

/-- What a wait has found: whether it succeeds, its last issues, and all its polls with their
times. -/
structure Outcome (σ ι : Type*) where
  ok : Bool
  issues : List ι
  state : σ
  history : List (ℕ × List ι)

/-- A wait on states `σ` with issues `ι`. -/
structure Wait (σ ι : Type*) where
  now : σ → ℕ
  poll : σ → List ι × σ
  /-- The last look before a success is reported. -/
  accept : σ → Bool × List ι × σ
  /-- What is done before the next poll.  It may give up. -/
  proceed : σ → Except (List ι × σ) σ
  /-- The look after the deadline. -/
  expire : σ → List ι × σ
  now_poll : ∀ s, now s ≤ now (poll s).2
  now_proceed : ∀ s s', proceed s = .ok s' → now s < now s'

namespace Wait

variable {σ ι : Type*} (w : Wait σ ι)

/-- The start of the interval without issues, after a poll. -/
def freeSince (since : Option ℕ) (s : σ) : Option ℕ :=
  if (w.poll s).1.isEmpty then some (since.getD (w.now (w.poll s).2)) else none

/-- The loop of a wait. -/
def run (stable deadline : ℕ) (since : Option ℕ) (s : σ) : Outcome σ ι :=
  if h : w.now s < deadline then
    let polled := w.poll s
    let entry := (w.now polled.2, polled.1)
    if (w.freeSince since s).any (fun start => start + stable ≤ w.now polled.2) then
      let accepted := w.accept polled.2
      ⟨accepted.1, accepted.2.1, accepted.2.2, [entry]⟩
    else
      match hproceed : w.proceed polled.2 with
      | .error gaveUp => ⟨false, gaveUp.1, gaveUp.2, [entry]⟩
      | .ok s' =>
        have : deadline - w.now s' < deadline - w.now s := by
          have hpoll := w.now_poll s
          have hlater : w.now (w.poll s).2 < w.now s' := w.now_proceed _ _ hproceed
          omega
        let rest := run stable deadline (w.freeSince since s) s'
        { rest with history := entry :: rest.history }
  else
    let expired := w.expire s
    ⟨false, expired.1, expired.2, []⟩
termination_by deadline - w.now s

variable {w} {stable deadline : ℕ} {since : Option ℕ} {s : σ}

/-! ## One poll -/

theorem freeSince_of_nil (h : (w.poll s).1 = []) :
    w.freeSince since s = some (since.getD (w.now (w.poll s).2)) := by
  unfold freeSince
  rw [h]
  rfl

theorem freeSince_of_ne (h : (w.poll s).1 ≠ []) : w.freeSince since s = none := by
  unfold freeSince
  rw [if_neg fun hempty => h (List.isEmpty_iff.mp hempty)]

/-- What holds of a wait from poll to poll: it is too late, the last look decides, it gives up, or
it goes on. -/
theorem run_rule {P : Option ℕ → σ → Outcome σ ι → Prop}
    (late : ∀ since s, deadline ≤ w.now s → P since s ⟨false, (w.expire s).1, (w.expire s).2, []⟩)
    (decide : ∀ since s, w.now s < deadline →
      (w.freeSince since s).any (fun start => start + stable ≤ w.now (w.poll s).2) = true →
      P since s ⟨(w.accept (w.poll s).2).1, (w.accept (w.poll s).2).2.1,
        (w.accept (w.poll s).2).2.2, [(w.now (w.poll s).2, (w.poll s).1)]⟩)
    (giveUp : ∀ since s gaveUp, w.proceed (w.poll s).2 = .error gaveUp →
      P since s ⟨false, gaveUp.1, gaveUp.2, [(w.now (w.poll s).2, (w.poll s).1)]⟩)
    (proceed : ∀ since s s' rest, w.now s < deadline →
      ¬ (w.freeSince since s).any (fun start => start + stable ≤ w.now (w.poll s).2) = true →
      w.proceed (w.poll s).2 = .ok s' → P (w.freeSince since s) s' rest →
      P since s { rest with history := (w.now (w.poll s).2, (w.poll s).1) :: rest.history })
    (since : Option ℕ) (s : σ) : P since s (w.run stable deadline since s) := by
  rw [run]
  by_cases h : w.now s < deadline
  · rw [dif_pos h]
    dsimp only
    by_cases hstable :
        (w.freeSince since s).any (fun start => start + stable ≤ w.now (w.poll s).2) = true
    · rw [if_pos hstable]
      exact decide since s h hstable
    · rw [if_neg hstable]
      split
      · rename_i gaveUp hproceed
        exact giveUp since s gaveUp hproceed
      · rename_i s' hproceed
        have hpoll := w.now_poll s
        have hlater := w.now_proceed _ _ hproceed
        exact proceed since s s' _ h hstable hproceed
          (run_rule late decide giveUp proceed (w.freeSince since s) s')
  · rw [dif_neg h]
    exact late since s (Nat.not_lt.mp h)
termination_by deadline - w.now s

/-- What the polls, the looks and the pauses keep holds at the end of a wait. -/
theorem run_keeps {B : σ → Prop} (poll : ∀ s, B s → B (w.poll s).2)
    (accept : ∀ s, B s → B (w.accept s).2.2)
    (proceed : ∀ s s', B s → w.proceed s = .ok s' → B s')
    (giveUp : ∀ s gaveUp, B s → w.proceed s = .error gaveUp → B gaveUp.2)
    (expire : ∀ s, B s → B (w.expire s).2) (hs : B s) :
    B (w.run stable deadline since s).state := by
  revert hs
  refine run_rule (P := fun _ s outcome => B s → B outcome.state) ?_ ?_ ?_ ?_ since s
  · intro _ s _ hs
    exact expire s hs
  · intro _ s _ _ hs
    exact accept _ (poll s hs)
  · intro _ s gaveUp hgiveUp hs
    exact giveUp _ gaveUp (poll s hs) hgiveUp
  · intro _ s s' _ _ _ hproceed hrest hs
    exact hrest (proceed _ s' (poll s hs) hproceed)

/-! ## A success -/

/-- The polls end with an interval that is long enough and has no issues. -/
def Unbroken (stable : ℕ) (history : List (ℕ × List ι)) : Prop :=
  ∃ earlier first rest, history = earlier ++ first :: rest ∧
    (∀ q ∈ first :: rest, q.2 = []) ∧ first.1 + stable ≤ (rest.getLastD first).1

theorem Unbroken.cons {stable : ℕ} {history : List (ℕ × List ι)} (h : Unbroken stable history)
    (entry : ℕ × List ι) : Unbroken stable (entry :: history) := by
  obtain ⟨earlier, first, rest, rfl, hfree, hlong⟩ := h
  exact ⟨entry :: earlier, first, rest, rfl, hfree, hlong⟩

/-- The interval that is required, where the first part of it was before the polls. -/
def UnbrokenFrom (stable : ℕ) (since : Option ℕ) (history : List (ℕ × List ι)) : Prop :=
  ∃ start first rest, since = some start ∧ history = first :: rest ∧
    (∀ q ∈ first :: rest, q.2 = []) ∧ start + stable ≤ (rest.getLastD first).1

/-- One more poll before: with issues, or at the start of the interval, or in it. -/
theorem unbroken_cons {history : List (ℕ × List ι)}
    (h : Unbroken stable history ∨ UnbrokenFrom stable (w.freeSince since s) history) :
    Unbroken stable ((w.now (w.poll s).2, (w.poll s).1) :: history) ∨
      UnbrokenFrom stable since ((w.now (w.poll s).2, (w.poll s).1) :: history) := by
  rcases h with h | ⟨start, first, rest, hstart, rfl, hfree, hlong⟩
  · exact Or.inl (h.cons _)
  · by_cases hnil : (w.poll s).1 = []
    · rw [freeSince_of_nil hnil] at hstart
      obtain rfl := Option.some.inj hstart
      have hall : ∀ q ∈ (w.now (w.poll s).2, (w.poll s).1) :: first :: rest, q.2 = [] := by
        intro q hq
        rcases List.mem_cons.mp hq with rfl | hrest
        · exact hnil
        · exact hfree q hrest
      rw [← List.getLastD_cons (b := first) (a := (w.now (w.poll s).2, (w.poll s).1))] at hlong
      cases since with
      | none => exact Or.inl ⟨[], _, first :: rest, rfl, hall, hlong⟩
      | some start => exact Or.inr ⟨start, _, first :: rest, rfl, rfl, hall, hlong⟩
    · rw [freeSince_of_ne hnil] at hstart
      cases hstart

/-- A success rests on an unbroken interval of polls without issues. -/
theorem unbroken_of_ok (hok : (w.run stable deadline since s).ok = true) :
    Unbroken stable (w.run stable deadline since s).history ∨
      UnbrokenFrom stable since (w.run stable deadline since s).history := by
  revert hok
  refine run_rule (P := fun since _ outcome => outcome.ok = true →
    Unbroken stable outcome.history ∨ UnbrokenFrom stable since outcome.history) ?_ ?_ ?_ ?_ since s
  · intro since s _ hok
    cases hok
  · intro since s _ hstable _
    by_cases hnil : (w.poll s).1 = []
    · rw [freeSince_of_nil hnil] at hstable
      have hlong := of_decide_eq_true hstable
      have hall : ∀ q ∈ [(w.now (w.poll s).2, (w.poll s).1)], q.2 = [] := by
        intro q hq
        rw [List.mem_singleton.mp hq]
        exact hnil
      cases since with
      | none => exact Or.inl ⟨[], _, [], rfl, hall, hlong⟩
      | some start => exact Or.inr ⟨start, _, [], rfl, rfl, hall, hlong⟩
    · rw [freeSince_of_ne hnil] at hstable
      cases hstable
  · intro since s _ _ hok
    cases hok
  · intro since s s' rest _ _ _ hrest hok
    exact unbroken_cons (hrest hok)

/-- A success of a wait that starts its interval itself. -/
theorem unbroken_of_ok_none (hok : (w.run stable deadline none s).ok = true) :
    Unbroken stable (w.run stable deadline none s).history := by
  rcases unbroken_of_ok hok with h | ⟨_, _, _, hstart, -⟩
  · exact h
  · cases hstart

/-! ## No success -/

/-- A wait whose polls always find something does not succeed. -/
theorem not_ok_of_never {B : σ → Prop}
    (hpoll : ∀ s, B s → (w.poll s).1 ≠ [] ∧ B (w.poll s).2)
    (hproceed : ∀ s s', B s → w.proceed s = .ok s' → B s') (hs : B s) :
    (w.run stable deadline since s).ok = false := by
  revert hs
  refine run_rule (P := fun _ s outcome => B s → outcome.ok = false) ?_ ?_ ?_ ?_ since s
  · intro _ _ _ _
    rfl
  · intro since s _ hstable hs
    rw [freeSince_of_ne (hpoll s hs).1] at hstable
    cases hstable
  · intro _ _ _ _ _
    rfl
  · intro since s s' rest _ _ hok hrest hs
    exact hrest (hproceed _ _ (hpoll s hs).2 hok)

/-- A wait that finds something at its first poll and then gives up does not succeed. -/
theorem not_ok_of_giveUp (hissue : (w.poll s).1 ≠ []) {gaveUp : List ι × σ}
    (hgiveUp : w.proceed (w.poll s).2 = .error gaveUp) :
    (w.run stable deadline since s).ok = false := by
  revert hissue hgiveUp
  refine run_rule (P := fun _ s outcome => (w.poll s).1 ≠ [] →
    w.proceed (w.poll s).2 = .error gaveUp → outcome.ok = false) ?_ ?_ ?_ ?_ since s
  · intro _ _ _ _ _
    rfl
  · intro since s _ hstable hissue _
    rw [freeSince_of_ne hissue] at hstable
    cases hstable
  · intro _ _ _ _ _ _
    rfl
  · intro since s s' rest _ _ hok _ _ hgiveUp
    rw [hok] at hgiveUp
    cases hgiveUp

/-! ## In time -/

/-- A system whose issues end: `Before` holds before a poll and `After` after it, and the flag says
that no issue will come any more.  From the time `settled` on no poll finds anything, and a poll and
what follows it take at most `pace` each. -/
structure Settles (w : Wait σ ι) (Before After : Bool → σ → Prop) (Post : σ → Prop)
    (settled pace : ℕ) : Prop where
  calm : ∀ s, Before true s → (w.poll s).1 = [] ∧ After true (w.poll s).2
  free : ∀ s, Before false s → (w.poll s).1 = [] → After true (w.poll s).2
  issue : ∀ s, Before false s → (w.poll s).1 ≠ [] → After false (w.poll s).2
  late : ∀ s, Before false s → settled ≤ w.now s → (w.poll s).1 = []
  accept : ∀ s, After true s → (w.accept s).1 = true ∧ Post (w.accept s).2.2
  proceed : ∀ c s, After c s →
    ∃ s', w.proceed s = .ok s' ∧ Before c s' ∧ w.now s' ≤ w.now s + pace
  pace_poll : ∀ c s, Before c s → w.now (w.poll s).2 ≤ w.now s + pace

variable {Before After : Bool → σ → Prop} {Post : σ → Prop} {settled pace : ℕ}

/-- Where a wait may be when its next poll comes. -/
def OnTime (w : Wait σ ι) (stable settled pace : ℕ) (c : Bool) (since : Option ℕ) (s : σ) : Prop :=
  (since = none ∧ w.now s ≤ settled + pace + pace) ∨
    ∃ start, c = true ∧ since = some start ∧ start ≤ settled + pace + pace + pace ∧
      w.now s < start + stable + pace

/-- After a poll the system is calm exactly if the poll found nothing. -/
theorem Settles.after_poll (h : Settles w Before After Post settled pace) {c : Bool}
    (hs : Before c s) : ∃ c', After c' (w.poll s).2 ∧
      (c' = true → (w.poll s).1 = []) ∧ (c' = false → (w.poll s).1 ≠ [] ∧ w.now s < settled) := by
  cases c with
  | true =>
    obtain ⟨hnil, hafter⟩ := h.calm s hs
    exact ⟨true, hafter, fun _ => hnil, fun hfalse => by cases hfalse⟩
  | false =>
    by_cases hnil : (w.poll s).1 = []
    · exact ⟨true, h.free s hs hnil, fun _ => hnil, fun hfalse => by cases hfalse⟩
    · refine ⟨false, h.issue s hs hnil, fun htrue => (by cases htrue), fun _ => ⟨hnil, ?_⟩⟩
      by_contra hlate
      exact hnil (h.late s hs (Nat.not_lt.mp hlate))

/-- If the issues end in time, the wait succeeds. -/
theorem ok_of_settles (h : Settles w Before After Post settled pace)
    (hdeadline : settled + pace + pace + pace + pace + stable < deadline) {c : Bool}
    (hs : Before c s) (htime : OnTime w stable settled pace c since s) :
    (w.run stable deadline since s).ok = true ∧ Post (w.run stable deadline since s).state := by
  revert c
  refine run_rule (P := fun since s outcome => ∀ {c : Bool}, Before c s →
    OnTime w stable settled pace c since s → outcome.ok = true ∧ Post outcome.state)
    ?_ ?_ ?_ ?_ since s
  · rintro since s hlate c - (⟨-, htime⟩ | ⟨start, -, -, hstart, htime⟩) <;> omega
  · intro since s _ hstable c hs _
    obtain ⟨c', hafter, htrue, hfalse⟩ := h.after_poll hs
    cases c' with
    | true => exact h.accept _ hafter
    | false =>
      rw [freeSince_of_ne (hfalse rfl).1] at hstable
      cases hstable
  · intro since s gaveUp hgiveUp c hs _
    obtain ⟨c', hafter, -⟩ := h.after_poll hs
    obtain ⟨s', hok, -⟩ := h.proceed c' _ hafter
    rw [hok] at hgiveUp
    cases hgiveUp
  · intro since s s' rest _ hstable hproceed hrest c hs htime
    obtain ⟨c', hafter, htrue, hfalse⟩ := h.after_poll hs
    obtain ⟨s'', hok, hbefore, hnow⟩ := h.proceed c' _ hafter
    obtain rfl : s'' = s' := Except.ok.inj (hok.symm.trans hproceed)
    have hpace := h.pace_poll c s hs
    refine hrest hbefore ?_
    cases c' with
    | false =>
      obtain ⟨hissue, hearly⟩ := hfalse rfl
      exact Or.inl ⟨freeSince_of_ne hissue, by omega⟩
    | true =>
      rw [freeSince_of_nil (htrue rfl)] at hstable ⊢
      have hshort : w.now (w.poll s).2 < since.getD (w.now (w.poll s).2) + stable :=
        Nat.not_le.mp fun hle => hstable (decide_eq_true hle)
      refine Or.inr ⟨_, rfl, rfl, ?_, by omega⟩
      rcases htime with ⟨rfl, htime⟩ | ⟨start, -, rfl, hstart, -⟩
      · show w.now (w.poll s).2 ≤ _
        omega
      · exact hstart

end Wait

end StableWait
