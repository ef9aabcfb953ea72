import JointController.Hardware.UsbBridge
import JointController.Library.DropQueue
import JointController.Library.LittleEndian
import JointController.Waist.Hardware

/-!
# The transport of the waist driver

From a packet of the USB bridge to the members of the waist driver: the decoder hands a frame to the
listener, and the listener takes it for feedback, puts it into the queue of the SDO answers, or
drops it.

* `handlePacket`: what the bridge makes of a packet.
* `Transport`, `Transport.handleBridgeFrame`: the driver with its queue, and a frame that arrives.
* `FromWaist`: the packets that may change anything.
* `Accepted`, `Unmistakable`: the packets that do, and when they are the right ones.
* `filters_iff`: the filter is right for just the packets that are unmistakable.
-/

namespace JointController

namespace Waist

open Hardware (Packet)

/-! ## Packets -/

/-- `kMsgCanRx`. -/
def kMsgCanRx : UInt8 := 0x81

/-- `kMsgCanSetBitrateAck`. -/
def kMsgCanSetBitrateAck : UInt8 := 0x82

/-- `kFlagFd`. -/
def kFlagFd : UInt8 := 0x04

/-- `kFlagBrs`. -/
def kFlagBrs : UInt8 := 0x08

/-- `kCanHeaderSize`. -/
def kCanHeaderSize : ℕ := 7

/-- `CanValue`.  The channel of the packet is not part of it. -/
structure CanValue where
  id : ℕ
  data : List UInt8
  isFd : Bool
  bitrateSwitch : Bool
  deriving DecidableEq

/-- What `handle_packet` makes of a packet: an acknowledgement that `configure_bitrate` waits for,
or a frame that the listeners get. -/
inductive Handled where
  | bitrateAck (channel status : UInt8) (bitrate : ℕ)
  | frame (value : CanValue)
  | ignored
  deriving DecidableEq

/-- `handle_packet`. -/
def handlePacket (p : Packet) : Handled :=
  if p.type = kMsgCanSetBitrateAck ∧ p.payload.length = 6 then
    .bitrateAck (p.payload.getD 0 0) (p.payload.getD 1 0) (LittleEndian.load 4 (p.payload.drop 2))
  else if p.type ≠ kMsgCanRx ∨ p.payload.length < kCanHeaderSize then .ignored
  else
    let dataSize := (p.payload.getD 6 0).toNat
    if 64 < dataSize ∨ p.payload.length ≠ kCanHeaderSize + dataSize then .ignored
    else
      let flags := p.payload.getD 1 0
      .frame {
        id := LittleEndian.load 4 (p.payload.drop 2)
        data := p.payload.drop kCanHeaderSize
        isFd := flags &&& kFlagFd != 0
        bitrateSwitch := flags &&& kFlagBrs != 0 }

/-! ## Frames -/

/-- `CAN_SFF_MASK`. -/
def canSffMask : ℕ := 0x7FF

/-- `kSdoRxBaseId`. -/
def kSdoRxBaseId : ℕ := 0x580

/-- `sdo_rx_id`. -/
def sdoRxId (nodeId : ℕ) : ℕ := kSdoRxBaseId ||| nodeId &&& 0x7F

/-- The length of `bridge_rx_queue_`. -/
def rxQueueSize : ℕ := 32

/-- The members of the waist driver, with `bridge_rx_queue_`. -/
structure Transport where
  hw : WaistHardware
  rxQueue : DropQueue Frame rxQueueSize

/-- The identifier that the listener sees; with the mask the flags of an extended or a remote frame
are gone, so that the question of `parse_feedback` for them has one answer. -/
def CanValue.canId (value : CanValue) : ℕ := value.id &&& canSffMask

/-- The frame that `handle_bridge_frame` looks at. -/
def CanValue.frame (value : CanValue) : Frame := ⟨value.canId, value.data⟩

/-- The frame that it puts into the queue, with eight bytes at most. -/
def CanValue.sdoFrame (value : CanValue) : Frame := ⟨value.canId, value.data.take 8⟩

namespace Transport

variable (cfg : Settings) (t : Transport)

/-- `handle_bridge_frame`. -/
def handleBridgeFrame (value : CanValue) : Transport :=
  if (parseFeedback cfg.nodeId value.frame).isSome then
    { t with hw := t.hw.handleBridgeFrame cfg value.frame }
  else if value.canId ≠ sdoRxId cfg.nodeId then t
  else { t with rxQueue := t.rxQueue.push value.sdoFrame }

/-- A packet arrives, while the listener is registered. -/
def receivePacket (p : Packet) : Transport :=
  match handlePacket p with
  | .frame value => t.handleBridgeFrame cfg value
  | _ => t

end Transport

/-! ## The filter -/

/-- The configuration with the channel of the waist. -/
structure RouteSettings extends Settings where
  bridgeChannel : UInt8
  bridgeChannel_le : bridgeChannel ≤ 2

/-- The channel of a packet with a frame. -/
def channelOf (p : Packet) : UInt8 := p.payload.getD 0 0

/-- The packet brings a frame of the waist: it comes from the channel of the waist, with the
identifier of the feedback or of the SDO answers and with all bytes of their format. -/
def FromWaist (cfg : RouteSettings) (p : Packet) : Prop :=
  ∃ value, handlePacket p = .frame value ∧ channelOf p = cfg.bridgeChannel ∧
    (value.id = feedbackId cfg.nodeId ∧ 12 ≤ value.data.length ∨
      value.id = sdoRxId cfg.nodeId ∧ 8 ≤ value.data.length)

/-- The packet brings a frame whose eleven low bits are an identifier that the driver listens
to. -/
def Accepted (cfg : RouteSettings) (value : CanValue) : Prop :=
  value.canId = feedbackId cfg.nodeId ∧ 12 ≤ value.data.length ∨ value.canId = sdoRxId cfg.nodeId

/-- Nothing that the driver does not look at tells the frame from one of the waist. -/
def Unmistakable (cfg : RouteSettings) (p : Packet) : Prop :=
  ∀ value, handlePacket p = .frame value → Accepted cfg value →
    channelOf p = cfg.bridgeChannel ∧ value.id ≤ canSffMask ∧
      (value.canId = sdoRxId cfg.nodeId → 8 ≤ value.data.length)

/-- Feedback is parsed from its identifier and twelve bytes. -/
theorem isSome_parseFeedback {nodeId : ℕ} {f : Frame} :
    (parseFeedback nodeId f).isSome = true ↔
      f.canId = feedbackId nodeId ∧ 12 ≤ f.payload.length := by
  obtain ⟨canId, payload⟩ := f
  unfold parseFeedback
  by_cases hid : canId = feedbackId nodeId
  · rw [if_pos hid, and_iff_right hid]
    rcases payload with _ | ⟨_, _ | ⟨_, _ | ⟨_, _ | ⟨_, _ | ⟨_, _ | ⟨_, _ | ⟨_, _ | ⟨_, _ | ⟨_,
      _ | ⟨_, _ | ⟨_, _ | ⟨_, _⟩⟩⟩⟩⟩⟩⟩⟩⟩⟩⟩⟩
    -- the payloads of fewer than twelve bytes, and the others
    iterate 12
      exact iff_of_false Bool.false_ne_true (by simp)
    exact iff_of_true rfl (by simp)
  · rw [if_neg hid]
    exact iff_of_false Bool.false_ne_true fun h => hid h.1

/-- Only the identifiers of the feedback have the bit of `0x200`. -/
theorem sdoRxId_ne_feedbackId (nodeId : ℕ) : sdoRxId nodeId ≠ feedbackId nodeId := by
  intro h
  have hmask : (0x7F : ℕ).testBit 9 = false := by decide
  have hfeedback : (feedbackId nodeId).testBit 9 = true := by
    unfold feedbackId kFeedbackBaseId
    rw [Nat.testBit_or]
    exact Bool.or_eq_true_iff.mpr (Or.inl (by decide))
  have hsdo : (sdoRxId nodeId).testBit 9 = false := by
    unfold sdoRxId kSdoRxBaseId
    rw [Nat.testBit_or, Nat.testBit_and, hmask, Bool.and_false]
    decide
  rw [← h, hsdo] at hfeedback
  exact Bool.false_ne_true hfeedback

/-- An identifier of the driver has eleven bits. -/
theorem identifier_le (nodeId : ℕ) {base : ℕ} (hbase : base ≤ canSffMask) :
    base ||| nodeId &&& 0x7F ≤ canSffMask := by
  have hnode : nodeId &&& 0x7F < 2 ^ 11 := lt_of_le_of_lt Nat.and_le_right (by decide)
  have hbits : base < 2 ^ 11 := lt_of_le_of_lt hbase (by decide)
  exact Nat.le_of_lt_succ (Nat.or_lt_two_pow hbits hnode)

/-- The mask leaves an identifier of eleven bits alone, and no other. -/
theorem canId_eq_iff {value : CanValue} : value.canId = value.id ↔ value.id ≤ canSffMask := by
  have hmod : value.canId = value.id % 2 ^ 11 := Nat.and_two_pow_sub_one_eq_mod value.id 11
  rw [hmod]
  constructor
  · intro h
    exact Nat.le_of_lt_succ (h ▸ Nat.mod_lt _ (by decide))
  · exact fun h => Nat.mod_eq_of_lt (Nat.lt_succ_of_le h)

/-- A frame that is not accepted leaves everything alone. -/
theorem Transport.handleBridgeFrame_of_not_accepted {cfg : RouteSettings} (t : Transport)
    {value : CanValue} (h : ¬Accepted cfg value) :
    t.handleBridgeFrame cfg.toSettings value = t := by
  unfold handleBridgeFrame
  rw [if_neg fun hsome => h (Or.inl (isSome_parseFeedback.mp hsome)),
    if_pos fun hid => h (Or.inr hid)]

/-- An accepted frame changes a driver that has had no feedback and no answer. -/
theorem Transport.handleBridgeFrame_ne {cfg : RouteSettings} {t : Transport} {value : CanValue}
    (hfeedback : t.hw.feedbackValid = false) (hqueue : t.rxQueue = .empty)
    (h : Accepted cfg value) : t.handleBridgeFrame cfg.toSettings value ≠ t := by
  intro hsame
  unfold handleBridgeFrame at hsame
  cases hparse : parseFeedback cfg.nodeId value.frame with
  | some feedback =>
    rw [hparse, if_pos Option.isSome_some] at hsame
    have hvalid : (t.hw.handleBridgeFrame cfg.toSettings value.frame).feedbackValid = true := by
      unfold WaistHardware.handleBridgeFrame
      rw [hparse]
    have hhw : t.hw.handleBridgeFrame cfg.toSettings value.frame = t.hw :=
      congrArg Transport.hw hsame
    rw [hhw, hfeedback] at hvalid
    exact Bool.false_ne_true hvalid
  | none =>
    have hnot : ¬(parseFeedback cfg.nodeId value.frame).isSome = true := by
      rw [hparse]
      exact Bool.false_ne_true
    have hid := h.resolve_left fun hlong => hnot (isSome_parseFeedback.mpr hlong)
    rw [if_neg hnot, if_neg (not_not.mpr hid)] at hsame
    have hpush := congrArg Transport.rxQueue hsame
    rw [hqueue] at hpush
    exact DropQueue.push_empty_ne (by decide) hpush

/-- A packet changes the driver only if it brings a frame of the waist, for just those packets that
the driver cannot mistake for one. -/
theorem filters_iff (cfg : RouteSettings) (p : Packet) :
    (∀ t : Transport, ¬FromWaist cfg p → t.receivePacket cfg.toSettings p = t) ↔
      Unmistakable cfg p := by
  constructor
  · intro h value hp haccepted
    let t : Transport := ⟨.initial 0, .empty⟩
    have hchanges : t.receivePacket cfg.toSettings p ≠ t := by
      unfold Transport.receivePacket
      rw [hp]
      exact Transport.handleBridgeFrame_ne rfl rfl haccepted
    obtain ⟨value', hp', hchannel, hid⟩ : FromWaist cfg p := by
      by_contra hnot
      exact hchanges (h t hnot)
    obtain rfl : value' = value := Handled.frame.inj (hp'.symm.trans hp)
    refine ⟨hchannel, ?_, fun hsdo => ?_⟩
    · rcases hid with ⟨hid, -⟩ | ⟨hid, -⟩
      · exact hid ▸ identifier_le cfg.nodeId (by decide)
      · exact hid ▸ identifier_le cfg.nodeId (by decide)
    · rcases hid with ⟨hid, -⟩ | ⟨-, hlong⟩
      · have hle : value'.id ≤ canSffMask := hid ▸ identifier_le cfg.nodeId (by decide)
        have hfeedback := (canId_eq_iff.mpr hle).trans hid
        exact absurd (hsdo.symm.trans hfeedback) (sdoRxId_ne_feedbackId cfg.nodeId)
      · exact hlong
  · intro h t hnot
    unfold Transport.receivePacket
    cases hp : handlePacket p with
    | bitrateAck channel status bitrate => rfl
    | ignored => rfl
    | frame value =>
      refine t.handleBridgeFrame_of_not_accepted fun haccepted => hnot ?_
      obtain ⟨hchannel, hid, hlong⟩ := h value hp haccepted
      rw [Accepted, canId_eq_iff.mpr hid] at haccepted
      rw [canId_eq_iff.mpr hid] at hlong
      exact ⟨value, hp, hchannel, haccepted.imp_right fun hsdo => ⟨hsdo, hlong hsdo⟩⟩

theorem sign_abs_one : (1 : ℚ) = 1 ∨ (1 : ℚ) = -1 := Or.inl rfl

/-- The waist on the third channel, as node 1. -/
def benchRoute : RouteSettings where
  nodeId := 1
  initRetryCount := 2
  profileVel := 10
  profileAcc := 2000
  minRad := -1
  maxRad := 1
  commandResendHz := 50
  feedbackSyncHz := 60
  commandEpsilon := 1 / 1000
  sign := 1
  initRetryCount_pos := Nat.succ_pos 1
  limits := by decide +kernel
  commandResendHz_bound := by decide +kernel
  feedbackSyncHz_bound := by decide +kernel
  commandEpsilon_pos := by decide +kernel
  sign_abs := sign_abs_one
  bridgeChannel := 2
  bridgeChannel_le := by decide

/-- A packet of the first channel, with twelve bytes under the identifier of the feedback. -/
def strangerPacket : Packet where
  type := kMsgCanRx
  payload := [0, 0x0C, 0x01, 0x03, 0, 0, 12] ++ List.replicate 12 0
  length_lt := by decide

/-- A packet of another channel is taken for feedback. -/
theorem stranger_is_accepted :
    ¬∀ (cfg : RouteSettings) (p : Packet) (t : Transport), ¬FromWaist cfg p →
      t.receivePacket cfg.toSettings p = t := by
  intro h
  have hvalid := congrArg (fun t => t.hw.feedbackValid)
    (h benchRoute strangerPacket ⟨.initial 0, .empty⟩ fun hfrom => ?_)
  · exact absurd hvalid (by decide)
  · obtain ⟨-, -, hchannel, -⟩ := hfrom
    exact absurd hchannel (by decide)

end Waist

end JointController
