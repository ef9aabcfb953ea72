import JointController.Lift.System
import JointController.Library.Runs

/-!
# The lift behind the lease gate

The gateway tells the lift controller about a lease on two topics: the accepted commands and the
lease gate.  Each of them is delivered in order, but nothing orders one against the other, and a
command may be delivered more than once.

* `LeaseLink`, `Label`, `step`: the gateway's side of the two topics and the controller.
* `LeaseLink.HeldInLease`: a command that came in while the gate was open, of a lease whose end the
  controller has not been told.
* `KeepsToLease`: a cycle executes and starts no other Heavy command.
* `late_command_executed`: a command that is delivered behind the closing of the gate is executed
  under the next lease.
* `GateClean`, `keepsToLease_of_gateClean`: the condition under which that cannot happen.
-/

namespace JointController

namespace Lift

/-- A Heavy command that the controller has put into its buffer: the number it was given, the lease
it was published for, and whether the gate was open when it came in. -/
structure Reception where
  generation : ℕ
  lease : ℕ
  gateOpen : Bool
  deriving DecidableEq

/-- The two topics between the gateway and the lift controller, and the controller.  `ended` and
`receptions` record what the controller has been told; no step reads them. -/
structure LeaseLink (otg : TrajectoryGenerator) where
  controller : LiftController otg
  /-- The lease that the gateway has granted last, and whether it is active. -/
  lease : ℕ
  granted : Bool
  /-- The messages in flight, the oldest first, each with the lease that it is about. -/
  gates : List (Bool × ℕ)
  commands : List (Command × ℕ)
  /-- The last lease whose end has been delivered. -/
  ended : ℕ
  receptions : List Reception

/-- The steps of the gateway, the deliveries, and the other events of the controller. -/
inductive Label where
  | grant
  | revoke
  | publish (message : Command)
  | deliverGate
  | deliverCommand
  | redeliverCommand
  | event (e : Event)
  deriving DecidableEq

namespace LeaseLink

variable {otg : TrajectoryGenerator} (p : LiftParameters) (s : LeaseLink otg)

/-- Nothing has happened yet. -/
def initial : LeaseLink otg where
  controller := .configured p
  lease := 0
  granted := false
  gates := []
  commands := []
  ended := 0
  receptions := []

/-! ## Steps -/

/-- A command is delivered. -/
def receive (message : Command) (lease : ℕ) : LeaseLink otg :=
  let controller := (s.controller.heavyCommandCallback p message).2
  { s with
    controller := controller
    receptions :=
      if s.controller.takesHeavy p message then
        ⟨controller.inbox.heavyCommandGeneration, lease, s.controller.inbox.heavyLeaseActive⟩ ::
          s.receptions
      else s.receptions }

/-- A gate message is delivered. -/
def receiveGate (data : Bool) (lease : ℕ) : LeaseLink otg :=
  { s with
    controller := s.controller.leaseGateCallback data
    ended := if data then s.ended else max s.ended lease }

/-- The step of a label.  The deliveries are steps of their own, so the events that a topic brings
are not among the other events. -/
def step : Label → Option (LeaseLink otg)
  | .grant =>
    if s.granted then none
    else some { s with
      lease := s.lease + 1
      granted := true
      gates := s.gates ++ [(true, s.lease + 1)] }
  | .revoke =>
    if s.granted then some { s with granted := false, gates := s.gates ++ [(false, s.lease)] }
    else none
  | .publish message =>
    if s.granted then some { s with commands := s.commands ++ [(message, s.lease)] } else none
  | .deliverGate =>
    match s.gates with
    | [] => none
    | (data, lease) :: gates => some ({ s with gates := gates }.receiveGate data lease)
  | .deliverCommand =>
    match s.commands with
    | [] => none
    | (message, lease) :: commands => some ({ s with commands := commands }.receive p message lease)
  | .redeliverCommand =>
    match s.commands with
    | [] => none
    | (message, lease) :: _ => some (s.receive p message lease)
  | .event (.heavyCommand _) => none
  | .event (.leaseGate _) => none
  | .event e => (s.controller.step p e).map fun controller => { s with controller := controller }

/-! ## The property -/

/-- The reception of the command with a number. -/
def receptionOf (generation : ℕ) : Option Reception :=
  s.receptions.find? fun r => r.generation == generation

/-- The command came in while the gate was open, and the controller has not been told that its lease
has ended. -/
def HeldInLease (command : MotionCommand) : Prop :=
  ∃ r, s.receptionOf command.generation = some r ∧ r.gateOpen = true ∧ s.ended < r.lease

instance (command : MotionCommand) : Decidable (s.HeldInLease command) :=
  decidable_of_iff
    ((s.receptionOf command.generation).any fun r => r.gateOpen && decide (s.ended < r.lease)) <| by
    simp [HeldInLease, Option.any_eq_true]

end LeaseLink

/-- A cycle acts on a command: it executes it, or releases it from the brake gate. -/
def CycleResult.ActsOn {otg : TrajectoryGenerator} (result : CycleResult otg)
    (command : MotionCommand) : Prop :=
  (∃ source, result.executed = some ⟨source, command⟩) ∨ result.started = some command

/-- The Heavy commands that a control cycle acts on are held in their lease. -/
def KeepsToLease {otg : TrajectoryGenerator} (p : LiftParameters) (s : LeaseLink otg) (l : Label)
    (_ : LeaseLink otg) : Prop :=
  ∀ input command, l = .event (.update input) → command.heavySequence ≠ 0 →
    (s.controller.update p input).ActsOn command → s.HeldInLease command

/-! ## The condition -/

namespace LiftController

variable {otg : TrajectoryGenerator} (c : LiftController otg)

/-- A Heavy command waits in its buffer for a control cycle. -/
def HeavyPending : Prop :=
  c.inbox.active = true ∧ c.inbox.heavyCommandGeneration ≠ c.consumedHeavyCommandGeneration

instance : Decidable c.HeavyPending := inferInstanceAs (Decidable (_ ∧ _))

/-- A Heavy command waits behind the brake gate. -/
def HeavyGated : Prop :=
  c.inbox.active = true ∧ c.mode = .brakeGate ∧ c.gatedCommandValid = true ∧
    c.gatedCommand.heavySequence ≠ 0

instance : Decidable c.HeavyGated := inferInstanceAs (Decidable (_ ∧ _))

end LiftController

/-- The deliveries do not cross: the gate opens only when no Heavy command waits in the buffer, it
closes only when none waits behind the brake gate, and a command that is taken under an open gate
belongs to a lease that has not ended. -/
def GateClean {otg : TrajectoryGenerator} (p : LiftParameters) (s : LeaseLink otg) :
    Label → Prop
  | .deliverGate => ∀ message ∈ s.gates.head?,
      if message.1 then ¬ s.controller.HeavyPending else ¬ s.controller.HeavyGated
  | .deliverCommand | .redeliverCommand => ∀ message ∈ s.commands.head?,
      s.controller.takesHeavy p message.1 = true → s.controller.inbox.heavyLeaseActive = true →
        s.ended < message.2
  | _ => True

instance {otg : TrajectoryGenerator} (p : LiftParameters) (s : LeaseLink otg) (l : Label) :
    Decidable (GateClean p s l) :=
  match l with
  | .deliverGate => inferInstanceAs (Decidable (∀ message ∈ s.gates.head?, _))
  | .deliverCommand => inferInstanceAs (Decidable (∀ message ∈ s.commands.head?, _))
  | .redeliverCommand => inferInstanceAs (Decidable (∀ message ∈ s.commands.head?, _))
  | .grant => isTrue trivial
  | .revoke => isTrue trivial
  | .publish _ => isTrue trivial
  | .event _ => isTrue trivial

namespace LeaseLink

variable {otg : TrajectoryGenerator} {p : LiftParameters} {s : LeaseLink otg}

/-! ## The invariant -/

/-- Under an open gate the Heavy command in the buffer is held in its lease, and so is the one
behind the brake gate. -/
structure Clean (s : LeaseLink otg) : Prop where
  unsequenced : s.controller.Unsequenced
  numbered : ∀ r ∈ s.receptions, r.generation ≤ s.controller.inbox.motionGeneration
  pending : s.controller.HeavyPending → s.controller.inbox.heavyLeaseActive = true →
    s.HeldInLease s.controller.inbox.heavyCommandBuffer
  gated : s.controller.inbox.active = true → ∀ command, s.controller.Waits command →
    command.heavySequence ≠ 0 → s.HeldInLease command

theorem clean_initial (p : LiftParameters) : Clean (initial p : LeaseLink otg) where
  unsequenced := ⟨rfl, rfl⟩
  numbered := nofun
  pending h := absurd rfl h.2
  gated h := absurd h Bool.false_ne_true

theorem heldInLease_generation (hs : Clean s) {command : MotionCommand}
    (h : s.HeldInLease command) :
    command.generation ≤ s.controller.inbox.motionGeneration := by
  obtain ⟨r, hr, -, -⟩ := h
  have hmem := hs.numbered r (List.mem_of_find?_eq_some hr)
  have hgeneration : r.generation = command.generation := by
    have := List.find?_some hr
    exact beq_iff_eq.mp this
  omega

theorem clean_of_keepsHeavy (hs : Clean s) {c : LiftController otg}
    (h : LiftController.KeepsHeavy s.controller c) : Clean { s with controller := c } where
  unsequenced := h.unsequenced hs.unsequenced
  numbered r hr := (hs.numbered r hr).trans h.motion
  pending hpending hopen := by
    have hbefore : s.controller.HeavyPending :=
      ⟨h.active ▸ hpending.1, by rw [← h.generation, ← h.consumed]; exact hpending.2⟩
    show s.HeldInLease c.inbox.heavyCommandBuffer
    rw [h.buffer]
    exact hs.pending hbefore (h.leaseActive ▸ hopen)
  gated hactive command hwaits hheavy :=
    hs.gated (h.active ▸ hactive) command (h.waits command hwaits) hheavy

/-! ## Deliveries -/

/-- The callback of the accepted commands leaves the buffer alone, or publishes the target of the
message. -/
theorem heavyCommandCallback_cases (c : LiftController otg) (message : Command) :
    (c.takesHeavy p message = false ∧
        LiftController.KeepsHeavy c (c.heavyCommandCallback p message).2) ∨
      (c.takesHeavy p message = true ∧ ∃ command,
        (c.heavyCommandCallback p message).2 =
          (c.admitSequence message.sequence).publishHeavy command) := by
  have hadmit : LiftController.KeepsHeavy c (c.admitSequence message.sequence) :=
    ⟨rfl, rfl, rfl, rfl, rfl, fun _ hw => hw, le_rfl, id⟩
  unfold LiftController.heavyCommandCallback LiftController.takesHeavy
  split
  · rename_i hduplicate
    exact Or.inl ⟨by simp [hduplicate], .refl c⟩
  · rename_i hnew
    dsimp only
    split
    · rename_i hnone
      exact Or.inl ⟨by simp [hnone], hadmit⟩
    · rename_i command hsome
      exact Or.inr ⟨by simp [hsome, not_le.mp hnew], command, rfl⟩

/-- A new reception does not hide an older one. -/
theorem heldInLease_cons (hs : Clean s) {c : LiftController otg} {r : Reception}
    (hr : s.controller.inbox.motionGeneration < r.generation) {command : MotionCommand}
    (h : s.HeldInLease command) :
    { s with controller := c, receptions := r :: s.receptions }.HeldInLease command := by
  have hold := heldInLease_generation hs h
  obtain ⟨r', hr', hopen, hended⟩ := h
  refine ⟨r', ?_, hopen, hended⟩
  have hne : ¬ r.generation = command.generation := by omega
  show List.find? _ (r :: s.receptions) = some r'
  rw [List.find?_cons_of_neg (by simpa using hne)]
  exact hr'

/-- The delivery of a command keeps the invariant, when a command that is taken under an open gate
belongs to a lease that has not ended. -/
theorem clean_receive (hs : Clean s) (message : Command) (lease : ℕ)
    (hlease : s.controller.takesHeavy p message = true →
      s.controller.inbox.heavyLeaseActive = true → s.ended < lease) :
    Clean (s.receive p message lease) := by
  unfold receive
  rcases heavyCommandCallback_cases (p := p) s.controller message with
    ⟨hdropped, hkeep⟩ | ⟨htaken, command, hpublish⟩
  · rw [hdropped]
    exact clean_of_keepsHeavy hs hkeep
  · rw [htaken, hpublish]
    set c := (s.controller.admitSequence message.sequence).publishHeavy command
    have hfresh : s.controller.inbox.motionGeneration <
        c.inbox.heavyCommandGeneration := Nat.lt_succ_self _
    exact
      { unsequenced := hs.unsequenced
        numbered := by
          rintro r (_ | ⟨_, hr⟩)
          · exact le_rfl
          · exact (hs.numbered r hr).trans (Nat.le_succ _)
        pending := fun _ hopen =>
          ⟨⟨c.inbox.heavyCommandGeneration, lease, s.controller.inbox.heavyLeaseActive⟩,
            List.find?_cons_of_pos (beq_self_eq_true _), hopen, hlease htaken hopen⟩
        gated := fun hactive command hwaits hheavy =>
          heldInLease_cons hs hfresh (hs.gated hactive command hwaits hheavy) }

/-- The delivery of a gate message keeps the invariant, when the gate opens on an empty buffer and
closes on an empty brake gate. -/
theorem clean_receiveGate (hs : Clean s) (data : Bool) (lease : ℕ)
    (h : if data then ¬ s.controller.HeavyPending else ¬ s.controller.HeavyGated) :
    Clean (s.receiveGate data lease) := by
  cases data with
  | true =>
    exact
      { unsequenced := hs.unsequenced
        numbered := hs.numbered
        pending := fun hpending _ => absurd hpending h
        gated := hs.gated }
  | false =>
    exact
      { unsequenced := hs.unsequenced
        numbered := hs.numbered
        pending := fun _ hopen => absurd hopen Bool.false_ne_true
        gated := fun hactive command ⟨hmode, hvalid, hcommand⟩ hheavy =>
          absurd ⟨hactive, hmode, hvalid, hcommand ▸ hheavy⟩ h }

/-! ## Activation and control cycles -/

theorem clean_onActivate (hs : Clean s) (state : LiftController.StateInterfaces)
    (hinactive : s.controller.inbox.active = false) :
    Clean { s with controller := s.controller.onActivate p state } := by
  unfold LiftController.onActivate
  dsimp only
  split
  · exact
      { unsequenced := hs.unsequenced
        numbered := hs.numbered
        pending := fun hpending _ => absurd (hinactive.symm.trans hpending.1) Bool.false_ne_true
        gated := fun hactive => absurd (hinactive.symm.trans hactive) Bool.false_ne_true }
  · exact
      { unsequenced := hs.unsequenced
        numbered := hs.numbered
        pending := fun hpending _ => absurd rfl hpending.2
        gated := fun _ command hwaits _ =>
          absurd hwaits (LiftController.not_waits_of_invalid rfl command) }

theorem clean_onDeactivate (hs : Clean s) (state : LiftController.StateInterfaces) :
    Clean { s with controller := s.controller.onDeactivate p state } where
  unsequenced := hs.unsequenced
  numbered := hs.numbered
  pending hpending _ := absurd hpending.1 Bool.false_ne_true
  gated hactive := absurd hactive Bool.false_ne_true

/-- What a cycle executes is held in its lease. -/
theorem heldInLease_executed (hs : Clean s) (hactive : s.controller.inbox.active = true)
    {input : UpdateInput} {executed : Selection}
    (h : (s.controller.update p input).executed = some executed)
    (hheavy : executed.command.heavySequence ≠ 0) : s.HeldInLease executed.command := by
  rcases s.controller.update_executed p input h with
    ⟨-, hsafety⟩ | ⟨-, hcommand, hopen, hnew⟩ | ⟨-, hnative⟩
  · rw [hsafety] at hheavy
    exact absurd hs.unsequenced.2 hheavy
  · rw [hcommand]
    exact hs.pending ⟨hactive, hnew⟩ hopen
  · rw [hnative] at hheavy
    exact absurd hs.unsequenced.1 hheavy

/-- What a cycle releases from the brake gate is held in its lease, and so is what it leaves
there. -/
theorem heldInLease_gate (hs : Clean s) (hactive : s.controller.inbox.active = true)
    {input : UpdateInput} {command : MotionCommand} (hheavy : command.heavySequence ≠ 0)
    (h : s.controller.Waits command ∨
      (∃ executed, (s.controller.update p input).executed = some executed ∧
        executed.command = command) ∨ command = LiftController.trajectoryCommand) :
    s.HeldInLease command := by
  rcases h with hwaits | ⟨executed, hexecuted, rfl⟩ | rfl
  · exact hs.gated hactive command hwaits hheavy
  · exact heldInLease_executed hs hactive hexecuted hheavy
  · exact absurd rfl hheavy

theorem clean_update (hs : Clean s) (hactive : s.controller.inbox.active = true)
    (input : UpdateInput) :
    Clean { s with controller := (s.controller.update p input).controller } := by
  have hinbox := s.controller.update_inbox p input
  exact
    { unsequenced := by
        unfold LiftController.Unsequenced
        dsimp only
        rw [hinbox]
        exact hs.unsequenced
      numbered := by
        dsimp only
        rw [hinbox]
        exact hs.numbered
      pending := by
        rintro ⟨-, hnew⟩ hopen
        dsimp only at hnew hopen ⊢
        rw [hinbox] at hnew hopen ⊢
        rcases s.controller.update_consumedHeavy p input with hkeep | hconsume
        · rw [hkeep] at hnew
          exact hs.pending ⟨hactive, hnew⟩ hopen
        · exact absurd hconsume.symm hnew
      gated := fun _ command hwaits hheavy =>
        heldInLease_gate hs hactive hheavy (s.controller.update_waits p input hwaits) }

/-! ## Steps and runs -/

/-- The invariant does not read the gateway's side of the topics. -/
theorem clean_of_eq (hs : Clean s) {s' : LeaseLink otg} (hcontroller : s'.controller = s.controller)
    (hended : s'.ended = s.ended) (hreceptions : s'.receptions = s.receptions) : Clean s' := by
  obtain ⟨controller, lease, granted, gates, commands, ended, receptions⟩ := s'
  dsimp only at hcontroller hended hreceptions
  subst hcontroller hended hreceptions
  exact ⟨hs.unsequenced, hs.numbered, hs.pending, hs.gated⟩

theorem clean_event {e : Event} {s' : LeaseLink otg} (hs : Clean s)
    (h : s.step p (.event e) = some s') : Clean s' := by
  have hnative (he : e.native = true)
      (h : (s.controller.step p e).map (fun controller => { s with controller := controller }) =
        some s') : Clean s' := by
    obtain ⟨c, hc, rfl⟩ := Option.map_eq_some_iff.mp h
    exact clean_of_keepsHeavy hs (LiftController.keepsHeavy_step p s.controller he hc)
  cases e with
  | heavyCommand message => exact (Option.some_ne_none s' h.symm).elim
  | leaseGate data => exact (Option.some_ne_none s' h.symm).elim
  | activate state =>
    obtain ⟨c, hc, rfl⟩ := Option.map_eq_some_iff.mp h
    unfold LiftController.step at hc
    split_ifs at hc with hactive
    obtain rfl := Option.some_inj.mp hc
    exact clean_onActivate hs state (eq_false_of_ne_true hactive)
  | deactivate state =>
    obtain ⟨c, hc, rfl⟩ := Option.map_eq_some_iff.mp h
    unfold LiftController.step at hc
    split_ifs at hc
    obtain rfl := Option.some_inj.mp hc
    exact clean_onDeactivate hs state
  | update input =>
    obtain ⟨c, hc, rfl⟩ := Option.map_eq_some_iff.mp h
    unfold LiftController.step at hc
    split_ifs at hc with hactive
    obtain rfl := Option.some_inj.mp hc
    exact clean_update hs hactive input
  | _ => exact hnative rfl h

theorem clean_step {l : Label} {s' : LeaseLink otg} (hs : Clean s) (hl : GateClean p s l)
    (h : s.step p l = some s') : Clean s' := by
  cases l with
  | grant =>
    dsimp only [step] at h
    split_ifs at h
    obtain rfl := Option.some_inj.mp h
    exact clean_of_eq hs rfl rfl rfl
  | revoke =>
    dsimp only [step] at h
    split_ifs at h
    obtain rfl := Option.some_inj.mp h
    exact clean_of_eq hs rfl rfl rfl
  | publish message =>
    dsimp only [step] at h
    split_ifs at h
    obtain rfl := Option.some_inj.mp h
    exact clean_of_eq hs rfl rfl rfl
  | deliverGate =>
    dsimp only [step] at h
    split at h
    · exact (Option.some_ne_none s' h.symm).elim
    · rename_i data lease gates hgates
      obtain rfl := Option.some_inj.mp h
      have hclean := hl (data, lease) (by rw [hgates]; rfl)
      have hpopped : Clean { s with gates := gates } := clean_of_eq hs rfl rfl rfl
      exact clean_receiveGate hpopped data lease hclean
  | deliverCommand =>
    dsimp only [step] at h
    split at h
    · exact (Option.some_ne_none s' h.symm).elim
    · rename_i message lease commands hcommands
      obtain rfl := Option.some_inj.mp h
      have hclean := hl (message, lease) (by rw [hcommands]; rfl)
      have hpopped : Clean { s with commands := commands } := clean_of_eq hs rfl rfl rfl
      exact clean_receive hpopped message lease hclean
  | redeliverCommand =>
    dsimp only [step] at h
    split at h
    · exact (Option.some_ne_none s' h.symm).elim
    · rename_i message lease commands hcommands
      obtain rfl := Option.some_inj.mp h
      have hclean := hl (message, lease) (by rw [hcommands]; rfl)
      exact clean_receive hs message lease hclean
  | event e => exact clean_event hs h

theorem keepsToLease_step {l : Label} {s' : LeaseLink otg} (hs : Clean s)
    (h : s.step p l = some s') : KeepsToLease p s l s' := by
  rintro input command rfl hheavy hacts
  obtain ⟨c, hc, -⟩ := Option.map_eq_some_iff.mp h
  unfold LiftController.step at hc
  split_ifs at hc with hactive
  rcases hacts with ⟨source, hexecuted⟩ | hstarted
  · exact heldInLease_executed hs hactive hexecuted hheavy
  · exact heldInLease_gate hs hactive hheavy (s.controller.update_started p input hstarted)

end LeaseLink

/-! ## The runs -/

/-- A FOLLOW command that asks for 0.1 m below the zero. -/
def followCommand (sequence : ℕ) : Command :=
  { Command.empty with
    sequence := sequence
    mode := Command.modeFollowPosition
    fieldMask := Command.fieldPosition
    position := fun _ => .finite (-1 / 10) }

/-- A control cycle of 10 ms at a time in milliseconds. -/
def cycleInput (ms : ℕ) : UpdateInput := ⟨standing, ms * 10 ^ 6, 1 / 100, true⟩

/-- The step of that cycle. -/
def cycleAt (ms : ℕ) : Label := .event (.update (cycleInput ms))

/-- The command of the first lease is delivered behind the closing of its gate, and the gate opens
for the second lease before the gateway has published a command of it. -/
def lateRun : List Label :=
  [.event (.activate standing), .grant, .deliverGate, cycleAt 10, .publish (followCommand 1000001),
    .revoke, .deliverGate, cycleAt 20, .deliverCommand, .grant, .deliverGate]

/-- The next cycle executes the command of the lease that has ended. -/
theorem late_command_executed :
    ¬ Runs.Throughout (LeaseLink.step defaultParameters) (KeepsToLease defaultParameters)
      (LeaseLink.initial defaultParameters : LeaseLink immediateGenerator)
      (lateRun ++ [cycleAt 30]) := by
  intro hall
  obtain ⟨s, hs, -, hP⟩ := Runs.reachable_of_run (LeaseLink.step defaultParameters)
    (LeaseLink.initial defaultParameters : LeaseLink immediateGenerator) lateRun
    (fun s => (s.step defaultParameters (cycleAt 30)).isSome &&
      (s.controller.update defaultParameters (cycleInput 30)).executed.any fun executed =>
        executed.command.heavySequence != 0 && !decide (s.HeldInLease executed.command))
    (by decide +kernel)
  obtain ⟨henabled, hexecuted⟩ := Bool.and_eq_true_iff.mp hP
  obtain ⟨s', hs'⟩ := Option.isSome_iff_exists.mp henabled
  obtain ⟨executed, hexecuted, hstale⟩ := (Option.any_eq_true _ _).mp hexecuted
  obtain ⟨hheavy, hstale⟩ := Bool.and_eq_true_iff.mp hstale
  have hkeeps := Runs.Throughout.last hall hs hs'
  have hheld : s.HeldInLease executed.command :=
    hkeeps (cycleInput 30) executed.command rfl (bne_iff_ne.mp hheavy)
      (Or.inl ⟨executed.source, hexecuted⟩)
  exact of_decide_eq_false (Bool.not_eq_true' _ ▸ hstale) hheld

/-- In a run in which the deliveries of the two topics do not cross, the lift controller acts on no
Heavy command but those that came in under an open gate, of a lease that has not ended. -/
theorem keepsToLease_of_gateClean {otg : TrajectoryGenerator} (p : LiftParameters)
    {run : List Label}
    (hclean : Runs.Meets (LeaseLink.step p) (GateClean p)
      (LeaseLink.initial p : LeaseLink otg) run) :
    Runs.Throughout (LeaseLink.step p) (KeepsToLease p)
      (LeaseLink.initial p : LeaseLink otg) run :=
  Runs.throughout_of_meets (fun _ _ _ hs hl h => LeaseLink.clean_step hs hl h)
    (fun _ _ _ hs _ h => LeaseLink.keepsToLease_step hs h) (LeaseLink.clean_initial p) hclean

/-- A HOLD command at the zero of the lift. -/
def holdCommand (sequence : ℕ) : Command :=
  { Command.empty with
    sequence := sequence
    mode := Command.modeHold
    fieldMask := Command.fieldPosition }

/-- A FOLLOW command is delivered twice, waits behind the brake gate and is started. -/
def followRun : List Label :=
  [.event (.activate standing), .event (.driverStatus (10 * 10 ^ 6) readyReport), .grant,
    .deliverGate, .publish (followCommand 1000001), .redeliverCommand, .deliverCommand,
    cycleAt 20]

/-- Then a HOLD command ends the lease. -/
def releaseRun : List Label :=
  [cycleAt 120, .publish (holdCommand 1000002), .deliverCommand, cycleAt 130, .revoke,
    .deliverGate, cycleAt 140]

theorem keepsToLease_followRun :
    (Runs.exec (LeaseLink.step defaultParameters)
        (LeaseLink.initial defaultParameters : LeaseLink immediateGenerator) followRun).any
        (fun s => (s.controller.update defaultParameters (cycleInput 120)).started.any
          fun command => command.heavySequence == 1000001) = true ∧
      Runs.Throughout (LeaseLink.step defaultParameters) (KeepsToLease defaultParameters)
        (LeaseLink.initial defaultParameters : LeaseLink immediateGenerator)
        (followRun ++ releaseRun) :=
  ⟨by decide +kernel, keepsToLease_of_gateClean defaultParameters
    (Runs.meets_of_passes (fun _ _ => of_decide_eq_true) (by decide +kernel))⟩

end Lift

end JointController
