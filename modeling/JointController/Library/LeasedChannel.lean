import JointController.Library.History
import Mathlib.Data.Fintype.Basic
import Mathlib.Logic.Function.Basic

/-!
# A leased channel with one outstanding transaction

A channel hands requests to a set `ι` of executors, under a lease that one owner holds at a time.
A request is handed out as a numbered transaction, and the channel waits until every executor has
acknowledged that number.  Meanwhile at most one further request is staged, which a newer one may
replace.  The holder of the channel may also hand out a hold of its own, which takes the place of
the outstanding transaction and drops what is staged.

* `Channel`: the state, with the log of its events; `Step`: one step of the channel.
* `Settled`: every executor has acknowledged the last transaction since it was handed out.
* `Disciplined`: the invariant of the channel, kept by every step (`Step.disciplined`).  It says
  that transactions are numbered in order, that a request is dispatched on a settled log, in the
  order of the request sequences of its lease, and either right away or from the staging slot.
* `Disciplined.not_dispatched`: a staged request that has been followed by anything but
  acknowledgements is never dispatched.
* `OwnApplied`: the applied sequence belongs to the current lease, kept by every step that does not
  grant a lease below the applied sequence (`Step.ownApplied`).
-/

namespace LeasedChannel

open History

variable {ι β : Type*}

/-! ## Events -/

/-- The events of a channel.  A request is named by its arrival. -/
inductive Event (ι β : Type*) where
  /-- A lease is granted. -/
  | granted : (lease : ℕ) → Event ι β
  /-- A hold of the channel's own is handed out. -/
  | held : (lease generation : ℕ) → Event ι β
  /-- A request is handed out. -/
  | dispatched : (lease arrival generation : ℕ) → β → Event ι β
  /-- A request is staged. -/
  | staged : (lease arrival : ℕ) → β → Event ι β
  /-- An acknowledgement of an executor arrives. -/
  | acked : ι → (generation : ℕ) → Event ι β
  /-- The lease ends. -/
  | cleared : (lease : ℕ) → Event ι β
  deriving DecidableEq

namespace Event

/-- The number of the transaction that the event hands out. -/
def generation? : Event ι β → Option ℕ
  | held _ n => some n
  | dispatched _ _ n _ => some n
  | _ => none

/-- The request that the event dispatches or stages. -/
def arrival? : Event ι β → Option ℕ
  | dispatched _ a _ _ => some a
  | staged _ a _ => some a
  | _ => none

/-- The event is an acknowledgement. -/
def isAck : Event ι β → Bool
  | acked _ _ => true
  | _ => false

/-- The event grants or ends a lease. -/
def changesLease : Event ι β → Bool
  | granted _ => true
  | cleared _ => true
  | _ => false

end Event

/-- The number of the last transaction that was handed out. -/
def lastGeneration (log : List (Event ι β)) : Option ℕ := log.findSome? Event.generation?

/-- The events since the last transaction was handed out. -/
def sinceIssue (log : List (Event ι β)) : List (Event ι β) :=
  since (fun e => e.generation?.isSome) log

/-- Every executor has acknowledged the last transaction since it was handed out. -/
def Settled (log : List (Event ι β)) : Prop :=
  ∃ n, lastGeneration log = some n ∧ ∀ i, Event.acked i n ∈ sinceIssue log

theorem lastGeneration_cons_of_some {e : Event ι β} {n : ℕ} (he : e.generation? = some n)
    (log : List (Event ι β)) : lastGeneration (e :: log) = some n := by
  simp [lastGeneration, he]

theorem lastGeneration_cons_of_none {e : Event ι β} (he : e.generation? = none)
    (log : List (Event ι β)) : lastGeneration (e :: log) = lastGeneration log := by
  simp [lastGeneration, he]

theorem sinceIssue_cons_of_none {e : Event ι β} (he : e.generation? = none)
    (log : List (Event ι β)) : sinceIssue (e :: log) = e :: sinceIssue log :=
  since_cons_of_not_stop (by rw [he]; rfl) log

theorem Settled.cons {e : Event ι β} (he : e.generation? = none) {log : List (Event ι β)}
    (h : Settled log) : Settled (e :: log) := by
  obtain ⟨n, hn, hacks⟩ := h
  refine ⟨n, by rw [lastGeneration_cons_of_none he, hn], fun i => ?_⟩
  rw [sinceIssue_cons_of_none he]
  exact List.mem_cons_of_mem e (hacks i)

/-! ## The channel -/

/-- The transaction that the executors own. -/
structure Outstanding (ι : Type*) where
  generation : ℕ
  /-- The sequence of the request, for a transaction that is no hold. -/
  request : Option ℕ
  acked : ι → Bool

/-- The state of the channel. -/
structure Channel (ι β : Type*) where
  leases : ℕ
  active : Bool
  /-- The sequence of the last request dispatched under the lease. -/
  last : ℕ
  /-- The sequence of the last request that every executor has acknowledged. -/
  applied : ℕ
  issued : ℕ
  outstanding : Option (Outstanding ι)
  staged : Option (ℕ × β)
  log : List (Event ι β)

namespace Channel

/-- A lease is granted, and its first hold is handed out. -/
def grant (first : ℕ → ℕ) (c : Channel ι β) : Channel ι β :=
  { c with
    leases := c.leases + 1
    active := true
    last := first (c.leases + 1) - 1
    issued := c.issued + 1
    outstanding := some ⟨c.issued + 1, none, fun _ => false⟩
    staged := none
    log := .held (c.leases + 1) (c.issued + 1) :: .granted (c.leases + 1) :: c.log }

/-- A request is handed out. -/
def dispatch (seq : β → ℕ) (c : Channel ι β) (arrival : ℕ) (b : β) : Channel ι β :=
  { c with
    last := seq b
    issued := c.issued + 1
    outstanding := some ⟨c.issued + 1, some (seq b), fun _ => false⟩
    staged := none
    log := .dispatched c.leases arrival (c.issued + 1) b :: c.log }

/-- A request is staged, in place of the one that was. -/
def stage (c : Channel ι β) (arrival : ℕ) (b : β) : Channel ι β :=
  { c with
    staged := some (arrival, b)
    log := .staged c.leases arrival b :: c.log }

/-- A hold of the channel's own is handed out. -/
def hold (c : Channel ι β) : Channel ι β :=
  { c with
    issued := c.issued + 1
    outstanding := some ⟨c.issued + 1, none, fun _ => false⟩
    staged := none
    log := .held c.leases (c.issued + 1) :: c.log }

/-- The lease ends. -/
def clear (c : Channel ι β) : Channel ι β :=
  { c with
    active := false
    outstanding := none
    staged := none
    log := .cleared c.leases :: c.log }

/-- An executor acknowledges a transaction.  The last acknowledgement settles it. -/
def ack [Fintype ι] [DecidableEq ι] (c : Channel ι β) (i : ι) (n : ℕ) : Channel ι β :=
  match c.outstanding with
  | none => { c with log := .acked i n :: c.log }
  | some o =>
    if o.generation = n then
      if ∀ j, Function.update o.acked i true j = true then
        { c with
          applied := o.request.getD c.applied
          outstanding := none
          log := .acked i n :: c.log }
      else
        { c with
          outstanding := some { o with acked := Function.update o.acked i true }
          log := .acked i n :: c.log }
    else { c with log := .acked i n :: c.log }

end Channel

/-- One step of the channel.  `first` gives the first sequence of a lease by its number, and
`fresh` holds for the arrivals that may come in with the step. -/
inductive Step [Fintype ι] [DecidableEq ι] (first : ℕ → ℕ) (seq : β → ℕ) (fresh : ℕ → Prop) :
    Channel ι β → Channel ι β → Prop where
  | grant {c : Channel ι β} : c.active = false → Step first seq fresh c (c.grant first)
  | dispatch {c : Channel ι β} {a : ℕ} {b : β} : c.active = true → c.outstanding = none →
      c.staged = none → c.last < seq b → fresh a → (∀ e ∈ c.log, e.arrival? ≠ some a) →
      Step first seq fresh c (c.dispatch seq a b)
  | stage {c : Channel ι β} {a : ℕ} {b : β} : c.active = true → c.last < seq b → fresh a →
      (∀ e ∈ c.log, e.arrival? ≠ some a) → Step first seq fresh c (c.stage a b)
  | promote {c : Channel ι β} {a : ℕ} {b : β} : c.active = true → c.outstanding = none →
      c.staged = some (a, b) → Step first seq fresh c (c.dispatch seq a b)
  | ack {c : Channel ι β} (i : ι) (n : ℕ) : Step first seq fresh c (c.ack i n)
  | hold {c : Channel ι β} : c.active = true → Step first seq fresh c c.hold
  | clear {c : Channel ι β} : c.active = true → Step first seq fresh c c.clear

theorem Step.mono [Fintype ι] [DecidableEq ι] {first : ℕ → ℕ} {seq : β → ℕ}
    {fresh fresh' : ℕ → Prop} {c c' : Channel ι β} (hstep : Step first seq fresh c c')
    (hfresh : ∀ a, fresh a → fresh' a) : Step first seq fresh' c c' := by
  cases hstep with
  | grant hinactive => exact .grant hinactive
  | dispatch hact hnone hstaged hlt ha hnew =>
    exact .dispatch hact hnone hstaged hlt (hfresh _ ha) hnew
  | stage hact hlt ha hnew => exact .stage hact hlt (hfresh _ ha) hnew
  | promote hact hnone hstaged => exact .promote hact hnone hstaged
  | ack i n => exact .ack i n
  | hold hact => exact .hold hact
  | clear hact => exact .clear hact

/-! ## The discipline of the channel -/

/-- Transactions are numbered in the order in which they are handed out. -/
def Numbered (e : Event ι β) (past : List (Event ι β)) : Prop :=
  ∀ n ∈ e.generation?, ∀ e' ∈ past, ∀ n' ∈ e'.generation?, n' < n

/-- A request is only handed out when the transaction before it is settled. -/
def AfterSettled (e : Event ι β) (past : List (Event ι β)) : Prop :=
  ∀ l a n b, e = .dispatched l a n b → Settled past

/-- Within a lease, requests are handed out in the order of their sequences. -/
def InOrder (seq : β → ℕ) (e : Event ι β) (past : List (Event ι β)) : Prop :=
  ∀ l a n b, e = .dispatched l a n b →
    ∀ a' n' b', Event.dispatched l a' n' b' ∈ past → seq b' < seq b

/-- The last thing before the acknowledgements at the end of `past` is that the request was
staged. -/
def StagedLast (l a : ℕ) (b : β) (past : List (Event ι β)) : Prop :=
  ∃ acks older, past = acks ++ .staged l a b :: older ∧ ∀ e ∈ acks, e.isAck = true

/-- A request is staged when it arrives, and it is handed out either when it arrives or from the
staging slot, with nothing but acknowledgements since it was staged. -/
def Whole (e : Event ι β) (past : List (Event ι β)) : Prop :=
  (∀ l a b, e = .staged l a b → ∀ e' ∈ past, e'.arrival? ≠ some a) ∧
    ∀ l a n b, e = .dispatched l a n b →
      (∀ e' ∈ past, e'.arrival? ≠ some a) ∨ StagedLast l a b past

/-- The acknowledgements that the channel has noted for a transaction arrived after it was handed
out, and a request among them is the one of the log. -/
structure Tracked (seq : β → ℕ) (c : Channel ι β) (o : Outstanding ι) : Prop where
  generation : o.generation = c.issued
  last : lastGeneration c.log = some o.generation
  acked : ∀ i, o.acked i = true → Event.acked i o.generation ∈ sinceIssue c.log
  request : ∀ q, o.request = some q → ∃ newer a b older,
    c.log = newer ++ .dispatched c.leases a o.generation b :: older ∧ seq b = q ∧
      ∀ i, o.acked i = true → Event.acked i o.generation ∈ newer

/-- The invariant of the channel. -/
structure Disciplined (seq : β → ℕ) (c : Channel ι β) : Prop where
  numbered : Justified Numbered c.log
  issued : ∀ e ∈ c.log, ∀ n ∈ e.generation?, n ≤ c.issued
  outstanding : ∀ o, c.outstanding = some o → Tracked seq c o
  idle : c.active = true → c.outstanding = none → Settled c.log
  settled : Justified AfterSettled c.log
  inOrder : Justified (InOrder seq) c.log
  last : ∀ l a n b, Event.dispatched l a n b ∈ c.log →
    l ≤ c.leases ∧ (l = c.leases → seq b ≤ c.last)
  whole : Justified Whole c.log
  staged : ∀ a b, c.staged = some (a, b) → c.last < seq b ∧ StagedLast c.leases a b c.log

/-! ### One event more -/

theorem StagedLast.cons_ack {l a : ℕ} {b : β} {log : List (Event ι β)} {e : Event ι β}
    (he : e.isAck = true) (h : StagedLast l a b log) : StagedLast l a b (e :: log) := by
  obtain ⟨acks, older, rfl, hacks⟩ := h
  refine ⟨e :: acks, older, rfl, fun x hx => ?_⟩
  rcases List.mem_cons.mp hx with rfl | hx
  · exact he
  · exact hacks x hx

/-- The parts of the invariant that only speak of the log, the leases and the counters are kept
when an event is added that hands nothing out and stages nothing. -/
theorem Disciplined.cons_passive {seq : β → ℕ} {c c' : Channel ι β} {e : Event ι β}
    (h : Disciplined seq c) (hgen : e.generation? = none) (harr : e.arrival? = none)
    (hlog : c'.log = e :: c.log) (hissued : c'.issued = c.issued) (hleases : c'.leases = c.leases)
    (hlast : c'.last = c.last)
    (houtstanding : ∀ o, c'.outstanding = some o → Tracked seq c' o)
    (hidle : c'.active = true → c'.outstanding = none → Settled c'.log)
    (hstaged : ∀ a b, c'.staged = some (a, b) →
      c'.last < seq b ∧ StagedLast c'.leases a b c'.log) :
    Disciplined seq c' := by
  have hdisp : ∀ l a n b, e ≠ .dispatched l a n b := by
    rintro l a n b rfl
    exact nomatch hgen
  have hstage : ∀ l a b, e ≠ .staged l a b := by
    rintro l a b rfl
    exact nomatch harr
  refine ⟨?_, ?_, houtstanding, hidle, ?_, ?_, ?_, ?_, hstaged⟩
  · rw [hlog, justified_cons]
    refine ⟨fun n hn => ?_, h.numbered⟩
    rw [hgen] at hn
    exact nomatch hn
  · rw [hlog, hissued]
    intro x hx n hn
    rcases List.mem_cons.mp hx with rfl | hx
    · rw [hgen] at hn
      exact nomatch hn
    · exact h.issued x hx n hn
  · rw [hlog, justified_cons]
    exact ⟨fun l a n b he => (hdisp l a n b he).elim, h.settled⟩
  · rw [hlog, justified_cons]
    exact ⟨fun l a n b he => (hdisp l a n b he).elim, h.inOrder⟩
  · rw [hlog, hleases, hlast]
    intro l a n b hx
    rcases List.mem_cons.mp hx with hx | hx
    · exact (hdisp l a n b hx.symm).elim
    · exact h.last l a n b hx
  · rw [hlog, justified_cons]
    exact ⟨⟨fun l a b he => (hstage l a b he).elim, fun l a n b he => (hdisp l a n b he).elim⟩,
      h.whole⟩

/-! ### Acknowledgements -/

/-- An acknowledgement of another transaction, or of one that is not outstanding. -/
theorem Tracked.cons_ack {seq : β → ℕ} {c c' : Channel ι β} {o : Outstanding ι} {i : ι} {n : ℕ}
    (h : Tracked seq c o) (hlog : c'.log = .acked i n :: c.log) (hissued : c'.issued = c.issued)
    (hleases : c'.leases = c.leases) : Tracked seq c' o := by
  refine ⟨by rw [hissued]; exact h.generation, ?_, ?_, ?_⟩
  · rw [hlog, lastGeneration_cons_of_none rfl]
    exact h.last
  · intro j hj
    rw [hlog, sinceIssue_cons_of_none rfl]
    exact List.mem_cons_of_mem _ (h.acked j hj)
  · intro q hq
    obtain ⟨newer, a, b, older, hsplit, hseq, hacks⟩ := h.request q hq
    refine ⟨.acked i n :: newer, a, b, older, ?_, hseq, fun j hj => ?_⟩
    · rw [hlog, hsplit, hleases, List.cons_append]
    · exact List.mem_cons_of_mem _ (hacks j hj)

/-- An acknowledgement of the outstanding transaction is noted. -/
theorem Tracked.note_ack [DecidableEq ι] {seq : β → ℕ} {c d : Channel ι β}
    {o : Outstanding ι} {i : ι}
    (h : Tracked seq c o) (hlog : d.log = .acked i o.generation :: c.log)
    (hissued : d.issued = c.issued) (hleases : d.leases = c.leases) :
    Tracked seq d { o with acked := Function.update o.acked i true } := by
  have h' := h.cons_ack hlog hissued hleases
  have hcases : ∀ j, Function.update o.acked i true j = true → j = i ∨ o.acked j = true := by
    intro j hj
    by_cases hji : j = i
    · exact Or.inl hji
    · rw [Function.update_of_ne hji] at hj
      exact Or.inr hj
  refine ⟨h'.generation, h'.last, fun j hj => ?_, fun q hq => ?_⟩
  · rcases hcases j hj with rfl | hj
    · rw [hlog, sinceIssue_cons_of_none rfl]
      exact List.mem_cons_self
    · exact h'.acked j hj
  · obtain ⟨newer, a, b, older, hsplit, hseq, hacks⟩ := h.request q hq
    refine ⟨.acked i o.generation :: newer, a, b, older, ?_, hseq, fun j hj => ?_⟩
    · rw [hlog, hsplit, hleases, List.cons_append]
    · rcases hcases j hj with rfl | hj
      · exact List.mem_cons_self
      · exact List.mem_cons_of_mem _ (hacks j hj)

/-- When every executor has acknowledged the outstanding transaction, the log is settled. -/
theorem Tracked.settled {seq : β → ℕ} {c : Channel ι β} {o : Outstanding ι} (h : Tracked seq c o)
    (hall : ∀ i, o.acked i = true) : Settled c.log :=
  ⟨o.generation, h.last, fun i => h.acked i (hall i)⟩

theorem Disciplined.ack [Fintype ι] [DecidableEq ι] {seq : β → ℕ} {c : Channel ι β}
    (h : Disciplined seq c) (i : ι) (n : ℕ) : Disciplined seq (c.ack i n) := by
  have hstaged : ∀ a b, c.staged = some (a, b) →
      c.last < seq b ∧ StagedLast c.leases a b (.acked i n :: c.log) := fun a b hab =>
    ⟨(h.staged a b hab).1, (h.staged a b hab).2.cons_ack rfl⟩
  have hidle : c.active = true → c.outstanding = none → Settled (.acked i n :: c.log) :=
    fun hact hnone => (h.idle hact hnone).cons rfl
  unfold Channel.ack
  split
  · next ho =>
    exact h.cons_passive rfl rfl rfl rfl rfl rfl (fun o hnone => nomatch ho.symm.trans hnone)
      (fun hact _ => hidle hact ho) hstaged
  · next o ho =>
    have htracked := h.outstanding o ho
    split_ifs with hn hall
    · -- The last acknowledgement of the outstanding transaction.
      subst hn
      refine h.cons_passive rfl rfl rfl rfl rfl rfl (fun o' h' => nomatch h') (fun _ _ => ?_)
        hstaged
      exact (htracked.note_ack (d := { c with log := .acked i o.generation :: c.log })
        rfl rfl rfl).settled hall
    · -- Another executor is still to acknowledge it.
      subst hn
      refine h.cons_passive rfl rfl rfl rfl rfl rfl ?_ (fun _ hnone => nomatch hnone) hstaged
      intro o' ho'
      exact Option.some_inj.mp ho' ▸ htracked.note_ack rfl rfl rfl
    · refine h.cons_passive rfl rfl rfl rfl rfl rfl ?_ ?_ hstaged
      · intro o' ho'
        have heq : o = o' := Option.some_inj.mp (ho.symm.trans ho')
        exact heq ▸ htracked.cons_ack rfl rfl rfl
      · exact fun _ hnone => nomatch ho.symm.trans hnone

/-! ### Transactions -/

theorem Disciplined.lt_succ {seq : β → ℕ} {c : Channel ι β} (h : Disciplined seq c)
    {e : Event ι β} (he : e.generation? = some (c.issued + 1)) : Numbered e c.log := by
  intro n hn x hx n' hn'
  have hle := h.issued x hx n' hn'
  rw [he, Option.mem_def, Option.some_inj] at hn
  omega

theorem Disciplined.issued_cons {seq : β → ℕ} {c : Channel ι β} (h : Disciplined seq c)
    {e : Event ι β} (he : e.generation? = some (c.issued + 1)) :
    ∀ x ∈ e :: c.log, ∀ n ∈ x.generation?, n ≤ c.issued + 1 := by
  intro x hx n hn
  rcases List.mem_cons.mp hx with rfl | hx
  · rw [he, Option.mem_def, Option.some_inj] at hn
    exact hn.ge
  · exact (h.issued x hx n hn).trans (Nat.le_succ _)

/-- What a new transaction tracks: nobody has acknowledged it. -/
theorem tracked_of_new {seq : β → ℕ} {c : Channel ι β} {e : Event ι β} {log : List (Event ι β)}
    {request : Option ℕ} (hlog : c.log = e :: log) (he : e.generation? = some c.issued)
    (hrequest : ∀ q, request = some q →
      ∃ a b, e = .dispatched c.leases a c.issued b ∧ seq b = q) :
    Tracked seq c ⟨c.issued, request, fun _ => false⟩ := by
  refine ⟨rfl, ?_, fun i hi => (nomatch hi), fun q hq => ?_⟩
  · rw [hlog, lastGeneration_cons_of_some he]
  · obtain ⟨a, b, hb, hseq⟩ := hrequest q hq
    exact ⟨[], a, b, log, by rw [hlog, hb]; rfl, hseq, fun i hi => nomatch hi⟩

theorem Disciplined.hold {seq : β → ℕ} {c : Channel ι β} (h : Disciplined seq c) :
    Disciplined seq c.hold := by
  refine ⟨justified_cons.mpr ⟨h.lt_succ rfl, h.numbered⟩, h.issued_cons rfl, ?_,
    fun _ hnone => (nomatch hnone), justified_cons.mpr ⟨fun _ _ _ _ he => (nomatch he), h.settled⟩,
    justified_cons.mpr ⟨fun _ _ _ _ he => (nomatch he), h.inOrder⟩, ?_,
    justified_cons.mpr ⟨⟨fun _ _ _ he => (nomatch he), fun _ _ _ _ he => (nomatch he)⟩, h.whole⟩,
    fun _ _ hab => nomatch hab⟩
  · intro o ho
    exact Option.some_inj.mp ho ▸ tracked_of_new rfl rfl fun q hq => nomatch hq
  · intro l a n b hx
    rcases List.mem_cons.mp hx with hx | hx
    · exact nomatch hx
    · exact h.last l a n b hx

theorem Disciplined.clear {seq : β → ℕ} {c : Channel ι β} (h : Disciplined seq c) :
    Disciplined seq c.clear :=
  h.cons_passive rfl rfl rfl rfl rfl rfl (fun _ ho => nomatch ho) (fun hact => nomatch hact)
    (fun _ _ hab => nomatch hab)

/-- A grant is a new lease number followed by a hold under it. -/
theorem Disciplined.grant {first : ℕ → ℕ} {seq : β → ℕ} {c : Channel ι β}
    (h : Disciplined seq c) : Disciplined seq (c.grant first) := by
  have hnew : Disciplined seq
      { c with
        leases := c.leases + 1
        active := false
        last := first (c.leases + 1) - 1
        outstanding := none
        staged := none
        log := .granted (c.leases + 1) :: c.log } := by
    refine ⟨justified_cons.mpr ⟨fun _ hn => (nomatch hn), h.numbered⟩, ?_, fun _ ho => (nomatch ho),
      fun hact => (nomatch hact), justified_cons.mpr ⟨fun _ _ _ _ he => (nomatch he), h.settled⟩,
      justified_cons.mpr ⟨fun _ _ _ _ he => (nomatch he), h.inOrder⟩, ?_,
      justified_cons.mpr ⟨⟨fun _ _ _ he => (nomatch he), fun _ _ _ _ he => (nomatch he)⟩,
        h.whole⟩, fun _ _ hab => nomatch hab⟩
    · intro x hx n hn
      rcases List.mem_cons.mp hx with rfl | hx
      · exact nomatch hn
      · exact h.issued x hx n hn
    · intro l a n b hx
      rcases List.mem_cons.mp hx with hx | hx
      · exact nomatch hx
      · have hle := (h.last l a n b hx).1
        exact ⟨hle.trans (Nat.le_succ _), fun hl =>
        absurd hle (Nat.not_le.mpr (by rw [hl]; exact Nat.lt_succ_self _))⟩
  have hheld := hnew.hold
  refine ⟨hheld.numbered, hheld.issued, fun o ho => ?_, fun _ hnone => (nomatch hnone),
    hheld.settled, hheld.inOrder, hheld.last, hheld.whole, fun _ _ hab => nomatch hab⟩
  have htracked := hheld.outstanding o ho
  exact ⟨htracked.generation, htracked.last, htracked.acked, htracked.request⟩

/-- A request is handed out on a settled channel, when it has just arrived or when it is the one
that is staged. -/
theorem Disciplined.dispatch {seq : β → ℕ} {c : Channel ι β} (h : Disciplined seq c) {a : ℕ}
    {b : β} (hact : c.active = true) (hnone : c.outstanding = none) (hlt : c.last < seq b)
    (hwhole : (∀ e ∈ c.log, e.arrival? ≠ some a) ∨ StagedLast c.leases a b c.log) :
    Disciplined seq (c.dispatch seq a b) := by
  refine ⟨justified_cons.mpr ⟨h.lt_succ rfl, h.numbered⟩, h.issued_cons rfl, ?_,
    fun _ hnone => (nomatch hnone),
    justified_cons.mpr ⟨fun _ _ _ _ _ => h.idle hact hnone, h.settled⟩,
    justified_cons.mpr ⟨?_, h.inOrder⟩, ?_, justified_cons.mpr ⟨⟨?_, ?_⟩, h.whole⟩,
    fun _ _ hab => nomatch hab⟩
  · intro o ho
    exact Option.some_inj.mp ho ▸ tracked_of_new rfl rfl fun q hq =>
      ⟨a, b, rfl, Option.some_inj.mp hq⟩
  · intro l a₁ n b₁ he a' n' b' hx
    cases he
    exact ((h.last _ _ _ _ hx).2 rfl).trans_lt hlt
  · intro l a' n b' hx
    rcases List.mem_cons.mp hx with hx | hx
    · cases hx
      exact ⟨le_rfl, fun _ => le_rfl⟩
    · obtain ⟨hl, hle⟩ := h.last l a' n b' hx
      exact ⟨hl, fun hl' => (hle hl').trans hlt.le⟩
  · exact fun _ _ _ he => nomatch he
  · intro l a₁ n b₁ he
    cases he
    exact hwhole

theorem Disciplined.stage {seq : β → ℕ} {c : Channel ι β} (h : Disciplined seq c) {a : ℕ} {b : β}
    (hlt : c.last < seq b) (hfresh : ∀ e ∈ c.log, e.arrival? ≠ some a) :
    Disciplined seq (c.stage a b) := by
  have hpassive : ∀ o, c.outstanding = some o → Tracked seq (c.stage a b) o := by
    intro o ho
    obtain ⟨hgen, hlast, hacked, hrequest⟩ := h.outstanding o ho
    refine ⟨hgen, (lastGeneration_cons_of_none rfl _).trans hlast, fun i hi => ?_, fun q hq => ?_⟩
    · exact (sinceIssue_cons_of_none (e := .staged c.leases a b) rfl c.log).symm ▸
        List.mem_cons_of_mem _ (hacked i hi)
    · obtain ⟨newer, a', b', older, hsplit, hseq, hacks⟩ := hrequest q hq
      exact ⟨.staged c.leases a b :: newer, a', b', older, congrArg (_ :: ·) hsplit, hseq,
        fun i hi => List.mem_cons_of_mem _ (hacks i hi)⟩
  refine ⟨justified_cons.mpr ⟨fun _ hn => (nomatch hn), h.numbered⟩, ?_, hpassive,
    fun hact hnone => (h.idle hact hnone).cons rfl,
    justified_cons.mpr ⟨fun _ _ _ _ he => (nomatch he), h.settled⟩,
    justified_cons.mpr ⟨fun _ _ _ _ he => (nomatch he), h.inOrder⟩, ?_,
    justified_cons.mpr ⟨⟨?_, fun _ _ _ _ he => nomatch he⟩, h.whole⟩, ?_⟩
  · intro x hx n hn
    rcases List.mem_cons.mp hx with rfl | hx
    · exact nomatch hn
    · exact h.issued x hx n hn
  · intro l a' n b' hx
    rcases List.mem_cons.mp hx with hx | hx
    · exact nomatch hx
    · exact h.last l a' n b' hx
  · intro l a' b' he
    cases he
    exact hfresh
  · intro a' b' hab
    cases hab
    exact ⟨hlt, [], c.log, rfl, fun _ hx => nomatch hx⟩

/-- Every step keeps the discipline. -/
theorem Step.disciplined [Fintype ι] [DecidableEq ι] {first : ℕ → ℕ} {seq : β → ℕ}
    {fresh : ℕ → Prop} {c c' : Channel ι β} (hstep : Step first seq fresh c c')
    (h : Disciplined seq c) :
    Disciplined seq c' := by
  cases hstep with
  | grant _ => exact h.grant
  | dispatch hact hnone _ hlt _ hnew => exact h.dispatch hact hnone hlt (Or.inl hnew)
  | stage _ hlt _ hnew => exact h.stage hlt hnew
  | promote hact hnone hstaged =>
    obtain ⟨hlt, hlast⟩ := h.staged _ _ hstaged
    exact h.dispatch hact hnone hlt (Or.inr hlast)
  | ack i n => exact h.ack i n
  | hold _ => exact h.hold
  | clear _ => exact h.clear

/-! ## Arrivals -/

/-- The request of an arrival occurs in the log. -/
def Arrived (log : List (Event ι β)) (a : ℕ) : Prop := ∃ e ∈ log, e.arrival? = some a

theorem arrived_cons {log : List (Event ι β)} {a : ℕ} {e : Event ι β} :
    Arrived (e :: log) a ↔ e.arrival? = some a ∨ Arrived log a := by
  simp [Arrived]

/-- Only a fresh arrival comes into the log. -/
theorem Step.arrived [Fintype ι] [DecidableEq ι] {first : ℕ → ℕ} {seq : β → ℕ}
    {fresh : ℕ → Prop} {c c' : Channel ι β} (hstep : Step first seq fresh c c')
    (h : Disciplined seq c) {a : ℕ} (ha : Arrived c'.log a) : Arrived c.log a ∨ fresh a := by
  cases hstep with
  | grant _ =>
    rcases arrived_cons.mp ha with he | ha
    · exact nomatch he
    · exact Or.inl ((arrived_cons.mp ha).resolve_left fun he => nomatch he)
  | dispatch _ _ _ _ hfresh _ =>
    rcases arrived_cons.mp ha with he | ha
    · cases he
      exact Or.inr hfresh
    · exact Or.inl ha
  | stage _ _ hfresh _ =>
    rcases arrived_cons.mp ha with he | ha
    · cases he
      exact Or.inr hfresh
    · exact Or.inl ha
  | promote _ _ hstaged =>
    rcases arrived_cons.mp ha with he | ha
    · cases he
      obtain ⟨-, acks, older, hlog, -⟩ := h.staged _ _ hstaged
      exact Or.inl ⟨_, by rw [hlog]; exact List.mem_append_right acks List.mem_cons_self, rfl⟩
    · exact Or.inl ha
  | ack i n =>
    have hlog : (c.ack i n).log = .acked i n :: c.log := by
      unfold Channel.ack
      repeat' split
      all_goals rfl
    rw [hlog] at ha
    exact Or.inl ((arrived_cons.mp ha).resolve_left fun he => nomatch he)
  | hold _ => exact Or.inl ((arrived_cons.mp ha).resolve_left fun he => nomatch he)
  | clear _ => exact Or.inl ((arrived_cons.mp ha).resolve_left fun he => nomatch he)

/-! ## Staged requests -/

/-- Once anything but an acknowledgement has followed a staged request, it is not handed out. -/
theorem Disciplined.not_dispatched {seq : β → ℕ} {c : Channel ι β} (h : Disciplined seq c)
    {newer between older : List (Event ι β)} {e : Event ι β} {l a : ℕ} {b : β}
    (hlog : c.log = newer ++ e :: (between ++ .staged l a b :: older)) (he : e.isAck = false)
    {l' n : ℕ} {b' : β} : Event.dispatched l' a n b' ∉ newer := by
  intro hmem
  obtain ⟨newer₁, newer₂, rfl⟩ := List.append_of_mem hmem
  have hsplit : c.log = newer₁ ++ .dispatched l' a n b' ::
      (newer₂ ++ e :: (between ++ .staged l a b :: older)) := by
    rw [hlog, List.append_assoc, List.cons_append]
  have hstagedMem : Event.staged l a b ∈ newer₂ ++ e :: (between ++ .staged l a b :: older) := by
    simp
  rcases (h.whole.split hsplit).2 l' a n b' rfl with hfresh | ⟨acks, past, hpast, hacks⟩
  · exact hfresh _ hstagedMem rfl
  -- The request was staged a second time, after `e`.
  have hpre : Justified Whole (newer₂ ++ e :: (between ++ .staged l a b :: older)) := by
    have hwhole := h.whole
    rw [hsplit] at hwhole
    exact (justified_cons.mp hwhole.of_append).2
  have hstaged : Justified Whole (acks ++ .staged l' a b' :: past) := hpast ▸ hpre
  have hfresh := (hstaged.split rfl).1 l' a b' rfl
  rcases List.append_eq_append_iff.mp hpast with ⟨mid, rfl, hrest⟩ | ⟨mid, rfl, hrest⟩
  · rcases mid with _ | ⟨x, mid⟩
    · rw [List.nil_append, List.cons.injEq] at hrest
      exact hfresh (.staged l a b) (by rw [← hrest.2]; simp) rfl
    · rw [List.cons_append, List.cons.injEq] at hrest
      have hx := hacks x (by simp)
      rw [← hrest.1, he] at hx
      exact nomatch hx
  · rcases mid with _ | ⟨x, mid⟩
    · rw [List.nil_append, List.cons.injEq] at hrest
      exact hfresh (.staged l a b) (by rw [hrest.2]; simp) rfl
    · rw [List.cons_append, List.cons.injEq] at hrest
      exact hfresh (.staged l a b) (by rw [hrest.2]; simp) rfl

/-! ## The applied sequence -/

/-- The applied sequence is below the sequences of the current lease, or it is the sequence of a
request of this lease that every executor has acknowledged since it was handed out. -/
def OwnApplied (first : ℕ → ℕ) (seq : β → ℕ) (c : Channel ι β) : Prop :=
  c.applied < first c.leases ∨ ∃ newer a n b older,
    c.log = newer ++ .dispatched c.leases a n b :: older ∧ seq b = c.applied ∧
      ∀ i, Event.acked i n ∈ newer

theorem OwnApplied.of_cons {first : ℕ → ℕ} {seq : β → ℕ} {c c' : Channel ι β} {e : Event ι β}
    (h : OwnApplied first seq c) (hlog : c'.log = e :: c.log) (hleases : c'.leases = c.leases)
    (happlied : c'.applied = c.applied) : OwnApplied first seq c' := by
  rcases h with h | ⟨newer, a, n, b, older, hsplit, hseq, hacks⟩
  · exact Or.inl (by rw [happlied, hleases]; exact h)
  · refine Or.inr ⟨e :: newer, a, n, b, older, ?_, by rw [happlied]; exact hseq,
      fun i => List.mem_cons_of_mem e (hacks i)⟩
    rw [hlog, hsplit, hleases, List.cons_append]

/-- The last acknowledgement of a request makes its sequence the applied one. -/
theorem OwnApplied.ack [Fintype ι] [DecidableEq ι] {first : ℕ → ℕ} {seq : β → ℕ}
    {c : Channel ι β} (h : OwnApplied first seq c) (hc : Disciplined seq c) (i : ι) (n : ℕ) :
    OwnApplied first seq (c.ack i n) := by
  unfold Channel.ack
  split
  · exact h.of_cons rfl rfl rfl
  · next o ho =>
    split_ifs with hn hall
    · rcases hrequest : o.request with _ | q
      · exact h.of_cons rfl rfl rfl
      · subst hn
        have htracked := ((hc.outstanding o ho).note_ack (i := i)
          (d := { c with log := .acked i o.generation :: c.log }) rfl rfl rfl)
        obtain ⟨newer, a, b, older, hsplit, hseq, hacks⟩ := htracked.request q hrequest
        exact Or.inr ⟨newer, a, o.generation, b, older, hsplit, hseq, fun j => hacks j (hall j)⟩
    · exact h.of_cons rfl rfl rfl
    · exact h.of_cons rfl rfl rfl

theorem Step.leases_le [Fintype ι] [DecidableEq ι] {first : ℕ → ℕ} {seq : β → ℕ}
    {fresh : ℕ → Prop} {c c' : Channel ι β} (hstep : Step first seq fresh c c') :
    c.leases ≤ c'.leases := by
  cases hstep with
  | grant _ => exact Nat.le_succ _
  | ack i n =>
    unfold Channel.ack
    repeat' split
    all_goals exact le_rfl
  | _ => exact le_rfl

/-- Every step that does not grant a lease keeps the applied sequence its own lease's, and so does
the grant of a lease that starts above the applied sequence. -/
theorem Step.ownApplied [Fintype ι] [DecidableEq ι] {first : ℕ → ℕ} {seq : β → ℕ}
    {fresh : ℕ → Prop} {c c' : Channel ι β} (hstep : Step first seq fresh c c')
    (hc : Disciplined seq c)
    (h : OwnApplied first seq c) (hgrant : c'.leases ≠ c.leases → c.applied < first c'.leases) :
    OwnApplied first seq c' := by
  cases hstep with
  | grant _ => exact Or.inl (hgrant (Nat.succ_ne_self _))
  | dispatch _ _ _ _ _ _ => exact h.of_cons rfl rfl rfl
  | stage _ _ _ _ => exact h.of_cons rfl rfl rfl
  | promote _ _ _ => exact h.of_cons rfl rfl rfl
  | ack i n => exact h.ack hc i n
  | hold _ => exact h.of_cons rfl rfl rfl
  | clear _ => exact h.of_cons rfl rfl rfl

end LeasedChannel
