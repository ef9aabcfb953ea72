import JointController.Waist.System
import JointController.Waist.Transport

/-!
# The requests to the object dictionary of the waist

A call sends a request and takes frames out of the queue until one has the index, the subindex and
the command of the answer, or its time is over.  The queue stays as it is between two calls.

* `SdoCall`, `isSdoResponse`: a call, and the frames that it takes for its answer.
* `enableCalls`: the calls that enable the drive.
* `Bus`, `Bus.step`: the driver with its queue and the call that is open, and a step.
* `Bus.transport_receive`, `Bus.recvFrame_transport`: without the annotations, the queue is that of
  the transport.
* `TakesOwnAnswer`: a call that succeeds has taken an answer to its own request.
* `InTime`: no answer to an earlier request can be taken for the one that is open.
* `takesOwnAnswer_of_inTime`: the rule along every run of such steps.
-/

namespace JointController

namespace Waist

/-! ## Calls -/

/-- `kSdoWriteAck`. -/
def kSdoWriteAck : UInt8 := 0x60

/-- `kSdoReadI32Response`. -/
def kSdoReadI32Response : UInt8 := 0x43

/-- What a call does: `sdo_write_i8`, `sdo_write_u16`, `sdo_write_u32`, which `sdo_write_i32` is of
the same 32 bits, or `sdo_read_i32`. -/
inductive SdoAccess where
  | writeI8 (value : UInt8)
  | writeU16 (value : UInt16)
  | writeU32 (value : UInt32)
  | readI32
  deriving DecidableEq

namespace SdoAccess

/-- The command of the request. -/
def command : SdoAccess → UInt8
  | writeI8 _ => 0x2F
  | writeU16 _ => 0x2B
  | writeU32 _ => 0x23
  | readI32 => 0x40

/-- The value in the request. -/
def bytes : SdoAccess → List UInt8
  | writeI8 value => [value, 0, 0, 0]
  | writeU16 value => [value.toUInt8, (value >>> 8).toUInt8, 0, 0]
  | writeU32 value =>
    [value.toUInt8, (value >>> 8).toUInt8, (value >>> 16).toUInt8, (value >>> 24).toUInt8]
  | readI32 => [0, 0, 0, 0]

/-- The command of the answer. -/
def expectedCommand : SdoAccess → UInt8
  | readI32 => kSdoReadI32Response
  | _ => kSdoWriteAck

end SdoAccess

/-- A call with its arguments. -/
structure SdoCall where
  access : SdoAccess
  index : UInt16
  subindex : UInt8
  timeoutMs : ℤ
  deriving DecidableEq

/-- The request of a call. -/
def SdoCall.request (nodeId : ℕ) (c : SdoCall) : Frame where
  canId := sdoTxId nodeId
  payload := [c.access.command, c.index.toUInt8, (c.index >>> 8).toUInt8, c.subindex] ++
    c.access.bytes

/-- The calls of `init_waist_once`, with its timeout. -/
def enableCalls (timeoutMs : ℤ) : List SdoCall :=
  [⟨.writeU32 0, kIndexTargetVelocity, 0, timeoutMs⟩, ⟨.writeI8 3, kIndexMode, 0, timeoutMs⟩,
    ⟨.writeU16 0x0006, kIndexControlword, 0, timeoutMs⟩,
    ⟨.writeU16 0x0007, kIndexControlword, 0, timeoutMs⟩,
    ⟨.writeU16 0x000F, kIndexControlword, 0, timeoutMs⟩]

theorem map_request_enableCalls (nodeId : ℕ) (timeoutMs : ℤ) :
    (enableCalls timeoutMs).map (SdoCall.request nodeId) = enableRequests nodeId := rfl

/-- `is_sdo_response` with an expected command.  The frames of the queue have masked
identifiers. -/
def isSdoResponse (nodeId : ℕ) (f : Frame) (index : UInt16) (subindex command : UInt8) : Bool :=
  f.canId &&& canSffMask == sdoRxId nodeId && decide (8 ≤ f.payload.length) &&
    beToU16 (f.payload.getD 2 0) (f.payload.getD 1 0) == index &&
    f.payload.getD 3 0 == subindex && f.payload.getD 0 0 == command

/-- The call takes the frame for its answer. -/
def SdoCall.takes (nodeId : ℕ) (c : SdoCall) (f : Frame) : Bool :=
  isSdoResponse nodeId f c.index c.subindex c.access.expectedCommand

/-- `sdo_i32_value`. -/
def sdoI32Value (f : Frame) : Int32 := Int32.ofNat (LittleEndian.load 4 (f.payload.drop 4))

/-- The configuration with the time that a call has by default. -/
structure SdoSettings extends Settings where
  waistTimeoutMs : ℕ
  waistTimeoutMs_bound : 50 ≤ waistTimeoutMs

/-- The time of a call, in seconds. -/
def SdoSettings.timeout (cfg : SdoSettings) (c : SdoCall) : ℚ :=
  if 0 < c.timeoutMs then c.timeoutMs / 1000 else cfg.waistTimeoutMs / 1000

/-! ## The driver -/

/-- A frame in the queue.  The driver sees the frame only; a reader of a run also sees how many
requests had been sent when it was received, and which request the drive answers with it. -/
structure Received where
  frame : Frame
  sent : ℕ
  answers : Option ℕ

/-- A call that waits for its answer, with the number of its request. -/
structure OpenCall where
  call : SdoCall
  number : ℕ
  deadline : ℚ

/-- The driver with the frames that it has received; the calls come one after the other. -/
structure Bus where
  hw : WaistHardware
  rxQueue : DropQueue Received rxQueueSize
  sent : ℕ
  opened : Option OpenCall

/-- What a call returns, with the frame that it has taken for its answer. -/
structure Returned where
  success : Bool
  taken : Option Received
  value : Option Int32

/-- A step: a frame arrives, a call is made and its request is accepted by the bridge or not, the
loop of `wait_sdo_response` goes once around, time goes by, or the bridge is closed and opened
again. -/
inductive BusEvent where
  | receive (value : CanValue) (answers : Option ℕ)
  | call (c : SdoCall) (accepted : Bool)
  | poll
  | elapse (duration : ℚ)
  | reopen (acquired : Bool)

namespace Bus

variable (cfg : SdoSettings) (b : Bus)

/-- The driver with an open bridge and no feedback. -/
def initial : Bus where
  hw := { WaistHardware.initial 0 with bridge := true, online := true }
  rxQueue := .empty
  sent := 0
  opened := none

/-- The driver as the transport knows it. -/
def transport : Transport := ⟨b.hw, b.rxQueue.map Received.frame⟩

/-- `handle_bridge_frame`. -/
def receive (value : CanValue) (answers : Option ℕ) : Bus :=
  if (parseFeedback cfg.nodeId value.frame).isSome then
    { b with hw := b.hw.handleBridgeFrame cfg.toSettings value.frame }
  else if value.canId ≠ sdoRxId cfg.nodeId then b
  else { b with rxQueue := b.rxQueue.push ⟨value.sdoFrame, b.sent, answers⟩ }

/-- The request of a call goes out, or the call fails at once. -/
def begin (c : SdoCall) (accepted : Bool) : Bus :=
  if b.hw.bridge && accepted then
    { b with sent := b.sent + 1, opened := some ⟨c, b.sent, b.hw.now + cfg.timeout c⟩ }
  else b

/-- `recv_frame`; an empty queue lets its time go by. -/
def recvFrame : Option (Received × DropQueue Received rxQueueSize) :=
  if b.hw.bridge then b.rxQueue.pop? else none

/-- One round of the loop of `wait_sdo_response`, and of the call around it. -/
def poll (o : OpenCall) : Bus × Option Returned :=
  if o.deadline ≤ b.hw.now then ({ b with opened := none }, some ⟨false, none, none⟩)
  else
    match b.recvFrame with
    | none => (b, none)
    | some (r, rest) =>
      let b := { b with rxQueue := rest, hw := b.hw.handleBridgeFrame cfg.toSettings r.frame }
      if o.call.takes cfg.nodeId r.frame then
        ({ b with opened := none }, some ⟨true, some r,
          if o.call.access = .readI32 then some (sdoI32Value r.frame) else none⟩)
      else (b, none)

/-- One step, with what the call returns if it does. -/
def transition : BusEvent → Option (Bus × Option Returned)
  | .receive value answers => some (b.receive cfg value answers, none)
  | .call c accepted =>
    if b.opened.isSome then none
    else some (b.begin cfg c accepted,
      if b.hw.bridge && accepted then none else some ⟨false, none, none⟩)
  | .poll => b.opened.map (b.poll cfg)
  | .elapse duration =>
    if 0 < duration then some ({ b with hw := { b.hw with now := b.hw.now + duration } }, none)
    else none
  | .reopen acquired =>
    if b.opened.isSome then none
    else some ({ b with hw := { b.hw with bridge := acquired }, rxQueue := .empty }, none)

/-- The next state. -/
def step (e : BusEvent) : Option Bus := (b.transition cfg e).map Prod.fst

/-- What the call returns in a step. -/
def returned (e : BusEvent) : Option Returned := (b.transition cfg e).bind Prod.snd

end Bus

/-! ## Without the annotations -/

theorem Bus.transport_receive (cfg : SdoSettings) (b : Bus) (value : CanValue)
    (answers : Option ℕ) :
    (b.receive cfg value answers).transport =
      b.transport.handleBridgeFrame cfg.toSettings value := by
  unfold receive Transport.handleBridgeFrame
  split_ifs
  · rfl
  · rfl
  · exact congrArg (Transport.mk b.hw) (DropQueue.map_push Received.frame)

/-- A round of the loop takes the oldest frame out of that queue. -/
theorem Bus.recvFrame_transport (b : Bus) :
    (if b.hw.bridge then b.transport.rxQueue.pop? else none) =
      b.recvFrame.map fun taken => (taken.1.frame, taken.2.map Received.frame) := by
  unfold recvFrame
  split_ifs
  · exact DropQueue.map_pop? Received.frame
  · rfl

/-! ## The rule -/

/-- A call that succeeds has taken a frame that was received after its request was sent, and that
the drive has sent for this request. -/
def TakesOwnAnswer (cfg : SdoSettings) (b : Bus) (e : BusEvent) (_ : Bus) : Prop :=
  ∀ out, b.returned cfg e = some out → out.success = true →
    ∃ o r, b.opened = some o ∧ out.taken = some r ∧ o.call.takes cfg.nodeId r.frame = true ∧
      o.number < r.sent ∧ r.answers = some o.number

/-- When a request is sent, the queue holds no frame that its call takes for its answer; and while
the call waits, no such frame arrives but the answer to its request. -/
def InTime (cfg : SdoSettings) (b : Bus) (e : BusEvent) : Prop :=
  match e with
  | .call c accepted => (b.hw.bridge && accepted) = true →
    ∀ r ∈ b.rxQueue.items, c.takes cfg.nodeId r.frame = false
  | .receive value answers => ∀ o ∈ b.opened, o.call.takes cfg.nodeId value.sdoFrame = true →
    answers = some o.number
  | _ => True

instance (cfg : SdoSettings) (b : Bus) (e : BusEvent) : Decidable (InTime cfg b e) :=
  match e with
  | .call c accepted => inferInstanceAs (Decidable ((b.hw.bridge && accepted) = true →
      ∀ r ∈ b.rxQueue.items, c.takes cfg.nodeId r.frame = false))
  | .receive value answers => inferInstanceAs (Decidable (∀ o ∈ b.opened,
      o.call.takes cfg.nodeId value.sdoFrame = true → answers = some o.number))
  | .poll => isTrue trivial
  | .elapse _ => isTrue trivial
  | .reopen _ => isTrue trivial

/-- What the open call can take is its own answer. -/
def Matched (cfg : SdoSettings) (b : Bus) : Prop :=
  ∀ o ∈ b.opened, o.number < b.sent ∧ ∀ r ∈ b.rxQueue.items,
    o.call.takes cfg.nodeId r.frame = true → o.number < r.sent ∧ r.answers = some o.number

variable {cfg : SdoSettings} {b b' : Bus} {e : BusEvent}

theorem matched_closed (h : b.opened = none) : Matched cfg b := by
  intro o ho
  rw [h] at ho
  cases ho

/-- A frame that arrives. -/
theorem Matched.receive (h : Matched cfg b) {value : CanValue} {answers : Option ℕ}
    (hintime : InTime cfg b (.receive value answers)) :
    Matched cfg (b.receive cfg value answers) := by
  unfold Bus.receive
  split_ifs
  · exact h
  · exact h
  · intro o ho
    obtain ⟨hsent, hown⟩ := h o ho
    refine ⟨hsent, fun r hr htakes => ?_⟩
    rcases DropQueue.mem_push hr with hr | rfl
    · exact hown r hr htakes
    · exact ⟨hsent, hintime o ho htakes⟩

/-- A call that is made. -/
theorem Matched.begin (h : Matched cfg b) {c : SdoCall} {accepted : Bool}
    (hintime : InTime cfg b (.call c accepted)) : Matched cfg (b.begin cfg c accepted) := by
  unfold Bus.begin
  split_ifs with hsent
  · intro o ho
    obtain rfl := Option.mem_some.mp ho
    refine ⟨Nat.lt_succ_self _, fun r hr htakes => ?_⟩
    exact absurd ((hintime hsent r hr).symm.trans htakes) Bool.false_ne_true
  · exact h

theorem mem_of_recvFrame {r : Received} {rest : DropQueue Received rxQueueSize}
    (h : b.recvFrame = some (r, rest)) :
    r ∈ b.rxQueue.items ∧ ∀ r' ∈ rest.items, r' ∈ b.rxQueue.items := by
  unfold Bus.recvFrame at h
  split_ifs at h
  exact DropQueue.mem_of_pop? h

/-- The three ends of a round of the loop. -/
theorem Bus.poll_cases (cfg : SdoSettings) (b : Bus) (o : OpenCall) :
    ((b.poll cfg o).1.opened = none ∧ (b.poll cfg o).2 = some ⟨false, none, none⟩) ∨
    (((b.poll cfg o).1.opened = b.opened ∧ (b.poll cfg o).1.sent = b.sent ∧
      ∀ r ∈ (b.poll cfg o).1.rxQueue.items, r ∈ b.rxQueue.items) ∧ (b.poll cfg o).2 = none) ∨
    ∃ r ∈ b.rxQueue.items, o.call.takes cfg.nodeId r.frame = true ∧
      (b.poll cfg o).1.opened = none ∧
      ∃ value, (b.poll cfg o).2 = some ⟨true, some r, value⟩ := by
  unfold poll
  by_cases hlate : o.deadline ≤ b.hw.now
  · rw [if_pos hlate]
    exact .inl ⟨rfl, rfl⟩
  · rw [if_neg hlate]
    cases hrecv : b.recvFrame with
    | none => exact .inr (.inl ⟨⟨rfl, rfl, fun _ hr => hr⟩, rfl⟩)
    | some taken =>
      obtain ⟨r, rest⟩ := taken
      obtain ⟨hr, hrest⟩ := mem_of_recvFrame hrecv
      dsimp only
      by_cases htakes : o.call.takes cfg.nodeId r.frame = true
      · rw [if_pos htakes]
        exact .inr (.inr ⟨r, hr, htakes, rfl, _, rfl⟩)
      · rw [if_neg htakes]
        exact .inr (.inl ⟨⟨rfl, rfl, hrest⟩, rfl⟩)

theorem Matched.poll (h : Matched cfg b) (o : OpenCall) :
    Matched cfg (b.poll cfg o).1 := by
  obtain ⟨hclosed, -⟩ | ⟨⟨hopened, hsent, hrest⟩, -⟩ | ⟨-, -, -, hclosed, -⟩ :=
    b.poll_cases cfg o
  · exact matched_closed hclosed
  · intro o' ho'
    rw [hopened] at ho'
    obtain ⟨hnumber, hown⟩ := h o' ho'
    rw [hsent]
    exact ⟨hnumber, fun r hr => hown r (hrest r hr)⟩
  · exact matched_closed hclosed

/-- What the open call can take stays its own answer. -/
theorem matched_step (h : Matched cfg b) (hintime : InTime cfg b e)
    (hstep : b.step cfg e = some b') : Matched cfg b' := by
  obtain ⟨⟨b'', out⟩, htransition, rfl⟩ := Option.map_eq_some_iff.mp hstep
  cases e with
  | receive value answers =>
    obtain ⟨rfl, -⟩ := Prod.mk.inj (Option.some_inj.mp htransition)
    exact h.receive hintime
  | call c accepted =>
    simp only [Bus.transition, Option.ite_none_left_eq_some, Option.some_inj] at htransition
    obtain ⟨rfl, -⟩ := Prod.mk.inj htransition.2
    exact h.begin hintime
  | poll =>
    obtain ⟨o, ho, hpoll⟩ := Option.map_eq_some_iff.mp htransition
    have hnext := h.poll o
    rw [hpoll] at hnext
    exact hnext
  | elapse duration =>
    simp only [Bus.transition, Option.ite_none_right_eq_some, Option.some_inj] at htransition
    obtain ⟨rfl, -⟩ := Prod.mk.inj htransition.2
    exact h
  | reopen acquired =>
    simp only [Bus.transition, Option.ite_none_left_eq_some, Option.some_inj] at htransition
    obtain ⟨rfl, -⟩ := Prod.mk.inj htransition.2
    refine matched_closed ?_
    exact Option.not_isSome_iff_eq_none.mp htransition.1

/-- A call that returns keeps the rule. -/
theorem Matched.takesOwnAnswer (h : Matched cfg b) : TakesOwnAnswer cfg b e b' := by
  intro out hreturned hsuccess
  obtain ⟨⟨b'', out'⟩, htransition, rfl⟩ := Option.bind_eq_some_iff.mp hreturned
  cases e with
  | receive value answers =>
    obtain ⟨-, hout⟩ := Prod.mk.inj (Option.some_inj.mp htransition)
    cases hout
  | call c accepted =>
    simp only [Bus.transition, Option.ite_none_left_eq_some, Option.some_inj] at htransition
    obtain ⟨-, hout⟩ := Prod.mk.inj htransition.2
    split_ifs at hout
    obtain rfl := Option.some_inj.mp hout
    cases hsuccess
  | poll =>
    obtain ⟨o, ho, hpoll⟩ := Option.map_eq_some_iff.mp htransition
    have hcases := b.poll_cases cfg o
    rw [hpoll] at hcases
    obtain ⟨-, hout⟩ | ⟨-, hout⟩ | ⟨r, hr, htakes, -, value, hout⟩ := hcases
    · obtain rfl := Option.some_inj.mp hout
      cases hsuccess
    · cases hout
    · obtain rfl := Option.some_inj.mp hout
      obtain ⟨-, hown⟩ := h o ho
      exact ⟨o, r, ho, rfl, htakes, hown r hr htakes⟩
  | elapse duration =>
    simp only [Bus.transition, Option.ite_none_right_eq_some, Option.some_inj] at htransition
    obtain ⟨-, hout⟩ := Prod.mk.inj htransition.2
    cases hout
  | reopen acquired =>
    simp only [Bus.transition, Option.ite_none_left_eq_some, Option.some_inj] at htransition
    obtain ⟨-, hout⟩ := Prod.mk.inj htransition.2
    cases hout

/-- Along every run in which no answer to an earlier request can be taken for the one that is open,
every call that succeeds has taken an answer to its own request. -/
theorem takesOwnAnswer_of_inTime (cfg : SdoSettings) (events : List BusEvent)
    (h : Runs.Meets (Bus.step cfg) (InTime cfg) Bus.initial events) :
    Runs.Throughout (Bus.step cfg) (TakesOwnAnswer cfg) Bus.initial events :=
  Runs.throughout_of_meets (I := Matched cfg) (fun _ _ _ hs hC hstep => matched_step hs hC hstep)
    (fun _ _ _ hs _ _ => hs.takesOwnAnswer) (matched_closed rfl) h

/-! ## A late acknowledgement -/

/-- The waist with a default time of a tenth of a second. -/
def benchSdo : SdoSettings where
  toSettings := benchRoute.toSettings
  waistTimeoutMs := 100
  waistTimeoutMs_bound := by decide

/-- The drive acknowledges a request. -/
def acknowledgement (index : UInt16) : CanValue where
  id := 0x581
  data := [kSdoWriteAck, index.toUInt8, (index >>> 8).toUInt8, 0, 0, 0, 0, 0]
  isFd := false
  bitrateSwitch := false

/-- The time of a write is over before the drive acknowledges it. -/
def timedOut : List BusEvent :=
  [.call ⟨.writeU16 0x0006, kIndexControlword, 0, 100⟩ true, .elapse (1 / 10), .poll]

/-- A write that the drive acknowledges in time. -/
def answered (c : SdoCall) (number : ℕ) : List BusEvent :=
  [.call c true, .receive (acknowledgement c.index) (some number), .poll]

theorem takesOwnAnswer_bench :
    Runs.Throughout (Bus.step benchSdo) (TakesOwnAnswer benchSdo) Bus.initial
      (timedOut ++ answered ⟨.writeU32 0, kIndexTargetVelocity, 0, 100⟩ 1) :=
  takesOwnAnswer_of_inTime benchSdo _ (Runs.meets_of_passes (fun _ _ => of_decide_eq_true)
    (by decide +kernel))

/-- The first attempt to enable the drive gives up; in the second one its acknowledgement comes
after the mode was set, and before the control word is written again. -/
def lateRun : List BusEvent :=
  timedOut ++ answered ⟨.writeU32 0, kIndexTargetVelocity, 0, 100⟩ 1 ++
    answered ⟨.writeI8 3, kIndexMode, 0, 100⟩ 2 ++
    [BusEvent.receive (acknowledgement kIndexControlword) (some 0),
      .call ⟨.writeU16 0x0006, kIndexControlword, 0, 100⟩ true, .poll]

/-- A call succeeds with a frame that answers another request, or none. -/
def takesStranger (b : Bus) (e : BusEvent) : Bool :=
  (b.returned benchSdo e).any fun out => out.success && out.taken.all fun r =>
    b.opened.all fun o => r.answers != some o.number

theorem not_takesOwnAnswer_of_takesStranger (b : Bus) (e : BusEvent)
    (h : takesStranger b e = true) :
    ∃ b', b.step benchSdo e = some b' ∧ ¬TakesOwnAnswer benchSdo b e b' := by
  obtain ⟨out, hreturned, hstranger⟩ := (Option.any_eq_true _ _).mp h
  obtain ⟨hsuccess, hall⟩ := Bool.and_eq_true_iff.mp hstranger
  obtain ⟨next, htransition, -⟩ := Option.bind_eq_some_iff.mp hreturned
  refine ⟨next.1, Option.map_eq_some_iff.mpr ⟨next, htransition, rfl⟩, fun hrule => ?_⟩
  obtain ⟨o, r, ho, hr, -, -, hanswers⟩ := hrule out hreturned hsuccess
  rw [hr, ho] at hall
  exact bne_iff_ne.mp hall hanswers

/-- The late acknowledgement is taken for the answer to the write of the second attempt. -/
theorem late_acknowledgement_taken :
    ¬Runs.Throughout (Bus.step benchSdo) (TakesOwnAnswer benchSdo) Bus.initial lateRun := by
  intro h
  have hfinds := h.finds_eq_false not_takesOwnAnswer_of_takesStranger
  exact absurd hfinds (by decide +kernel)

end Waist

end JointController
