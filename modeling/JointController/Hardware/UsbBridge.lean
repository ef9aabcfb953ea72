import JointController.Library.StreamParser
import Mathlib.Data.List.GetD
import Mathlib.Logic.Function.Iterate

/-!
# Packets of the USB bridge

What `UsbBridgeHub` sends and receives on its serial link: packets with two sync bytes, a type, a
length and a checksum.

* `Packet`, `Packet.encode`: the bytes that `send_packet` writes.
* `scanPacket`: one round of the loop of `process_bytes`.
* `UsbBridge.processBytes`: a delivery of the receive loop.
* `processBytes_packets`: exactly the packets that arrive are handled, however the bytes are split.
-/

namespace JointController

namespace Hardware

/-! ## Packets -/

/-- `kSync0`. -/
def sync0 : UInt8 := 0x55

/-- `kSync1`. -/
def sync1 : UInt8 := 0xAA

/-- The inner loop of `crc8`: one bit. -/
def crc8Bit (crc : UInt8) : UInt8 :=
  if crc &&& 0x80 ≠ 0 then (crc <<< 1) ^^^ 0x07 else crc <<< 1

/-- `crc8`. -/
def crc8 (data : List UInt8) : UInt8 :=
  data.foldl (fun crc byte => crc8Bit^[8] (crc ^^^ byte)) 0

/-- What a call of `handle_packet` gets: a type, and a payload whose length fits in a byte. -/
structure Packet where
  type : UInt8
  payload : List UInt8
  length_lt : payload.length < 256
  deriving DecidableEq

/-- The frame of `send_packet`. -/
def Packet.encode (p : Packet) : List UInt8 :=
  let body := p.type :: UInt8.ofNat p.payload.length :: p.payload
  sync0 :: sync1 :: body ++ [crc8 body]

/-! ## The receiver -/

/-- The arguments of the call of `handle_packet`. -/
def packetAt (buffer : List UInt8) (payloadSize : UInt8) : Packet where
  type := buffer.getD 2 0
  payload := (buffer.drop 4).take payloadSize.toNat
  length_lt := Nat.lt_of_le_of_lt (List.length_take_le _ _) payloadSize.toNat_lt

/-- One round of the loop of `process_bytes`: how many bytes are erased from the front of
`rx_buffer`, and the packet that is handled. -/
def scanPacket (buffer : List UInt8) : Option (ℕ × Option Packet) :=
  if buffer.length < 5 then none
  else if buffer.getD 0 0 ≠ sync0 ∨ buffer.getD 1 0 ≠ sync1 then some (1, none)
  else
    let payloadSize := buffer.getD 3 0
    let frameSize := payloadSize.toNat + 5
    if buffer.length < frameSize then none
    else if buffer.getD (frameSize - 1) 0 =
        crc8 ((buffer.drop 2).take (payloadSize.toNat + 2)) then
      some (frameSize, some (packetAt buffer payloadSize))
    else some (frameSize, none)

theorem five_le_of_scanPacket {buffer : List UInt8} {taken : ℕ × Option Packet}
    (h : scanPacket buffer = some taken) : 5 ≤ buffer.length := by
  by_contra hshort
  unfold scanPacket at h
  rw [if_pos (Nat.not_le.mp hshort)] at h
  cases h

/-- A round takes bytes that are there. -/
theorem scanPacket_bounds {buffer : List UInt8} {n : ℕ} {item : Option Packet}
    (h : scanPacket buffer = some (n, item)) : 0 < n ∧ n ≤ buffer.length := by
  have hlong := five_le_of_scanPacket h
  unfold scanPacket at h
  dsimp only at h
  split_ifs at h with hshort hsync hframe hcrc
  · obtain ⟨rfl, -⟩ := Prod.mk.inj (Option.some_inj.mp h)
    omega
  · obtain ⟨rfl, -⟩ := Prod.mk.inj (Option.some_inj.mp h)
    omega
  · obtain ⟨rfl, -⟩ := Prod.mk.inj (Option.some_inj.mp h)
    omega

/-- Bytes that arrive later do not change a round. -/
theorem scanPacket_append {buffer : List UInt8} {taken : ℕ × Option Packet} (more : List UInt8)
    (h : scanPacket buffer = some taken) : scanPacket (buffer ++ more) = some taken := by
  have hlong := five_le_of_scanPacket h
  have hbyte : ∀ i < buffer.length, (buffer ++ more).getD i 0 = buffer.getD i 0 :=
    fun i hi => List.getD_append _ _ _ _ hi
  have hpart : ∀ i k, i + k ≤ buffer.length →
      ((buffer ++ more).drop i).take k = (buffer.drop i).take k := by
    intro i k hik
    rw [List.drop_append_of_le_length (by omega),
      List.take_append_of_le_length (by rw [List.length_drop]; omega)]
  have hpacket : ∀ size : UInt8, 4 + size.toNat ≤ buffer.length →
      packetAt (buffer ++ more) size = packetAt buffer size := by
    intro size hsize
    unfold packetAt
    congr 1
    · exact hbyte 2 (by omega)
    · exact hpart 4 _ hsize
  unfold scanPacket at h ⊢
  dsimp only at h ⊢
  rw [if_neg (Nat.not_lt.mpr hlong)] at h
  rw [if_neg (by rw [List.length_append]; omega), hbyte 0 (by omega), hbyte 1 (by omega),
    hbyte 3 (by omega)]
  by_cases hsync : buffer.getD 0 0 ≠ sync0 ∨ buffer.getD 1 0 ≠ sync1
  · rw [if_pos hsync] at h ⊢
    exact h
  · rw [if_neg hsync] at h ⊢
    by_cases hframe : buffer.length < (buffer.getD 3 0).toNat + 5
    · rw [if_pos hframe] at h
      cases h
    · rw [if_neg hframe] at h
      rw [if_neg (by rw [List.length_append]; omega), hbyte _ (by omega), hpart 2 _ (by omega),
        hpacket _ (by omega)]
      exact h

/-- The receiver of the packets. -/
def packetParser : StreamParser UInt8 Packet where
  round := scanPacket
  pos h := (scanPacket_bounds h).1
  le_length h := (scanPacket_bounds h).2
  append := scanPacket_append

/-- `UsbBridgeHub::Impl`, with the calls of `handle_packet`, the oldest first. -/
structure UsbBridge where
  handled : List Packet
  rxBuffer : List UInt8
  deriving DecidableEq

/-- The bridge before the receive loop. -/
def UsbBridge.opened : UsbBridge := ⟨[], []⟩

/-- `process_bytes`. -/
def UsbBridge.processBytes (b : UsbBridge) (data : List UInt8) : UsbBridge :=
  let later := packetParser.drain (b.rxBuffer ++ data)
  ⟨b.handled ++ later.1, later.2⟩

/-- Deliveries of the receive loop, the first one first. -/
def UsbBridge.receive (b : UsbBridge) (chunks : List (List UInt8)) : UsbBridge :=
  chunks.foldl UsbBridge.processBytes b

/-! ## What is handled -/

/-- A frame of `send_packet` is one round. -/
theorem scanPacket_encode (p : Packet) (rest : List UInt8) :
    scanPacket (p.encode ++ rest) = some (p.encode.length, some p) := by
  obtain ⟨type, payload, hlt⟩ := p
  have hsize : (UInt8.ofNat payload.length).toNat = payload.length := UInt8.toNat_ofNat_of_lt' hlt
  generalize hcrc : crc8 (type :: UInt8.ofNat payload.length :: payload) = crc
  have hencode : Packet.encode ⟨type, payload, hlt⟩ =
      sync0 :: sync1 :: type :: UInt8.ofNat payload.length :: (payload ++ [crc]) := by
    rw [Packet.encode, hcrc]
    rfl
  have hlength : (Packet.encode ⟨type, payload, hlt⟩).length = payload.length + 5 := by
    rw [hencode]
    simp only [List.length_cons, List.length_append, List.length_nil]
  generalize hbuffer : Packet.encode ⟨type, payload, hlt⟩ ++ rest = buffer
  have hbytes : buffer =
      sync0 :: sync1 :: type :: UInt8.ofNat payload.length :: (payload ++ crc :: rest) := by
    rw [← hbuffer, hencode]
    simp only [List.cons_append, List.append_assoc, List.nil_append]
  have hlong : payload.length + 5 ≤ buffer.length := by
    rw [← hbuffer, List.length_append, hlength]
    omega
  have hsync : ¬ (buffer.getD 0 0 ≠ sync0 ∨ buffer.getD 1 0 ≠ sync1) := by
    rw [hbytes]
    exact not_or.mpr ⟨not_not.mpr rfl, not_not.mpr rfl⟩
  have h3 : buffer.getD 3 0 = UInt8.ofNat payload.length := by
    rw [hbytes]
    rfl
  have hlast : buffer.getD (payload.length + 5 - 1) 0 = crc := by
    rw [hbytes, show payload.length + 5 - 1 = payload.length + 1 + 1 + 1 + 1 from rfl,
      List.getD_cons_succ, List.getD_cons_succ, List.getD_cons_succ, List.getD_cons_succ,
      List.getD_append_right _ _ _ _ (Nat.le_refl _), Nat.sub_self, List.getD_cons_zero]
  have hbody : (buffer.drop 2).take (payload.length + 2) =
      type :: UInt8.ofNat payload.length :: payload := by
    rw [hbytes]
    simp only [List.drop_succ_cons, List.drop_zero, List.take_succ_cons, List.take_left]
  have hpacket : packetAt buffer (UInt8.ofNat payload.length) = ⟨type, payload, hlt⟩ := by
    unfold packetAt
    congr 1
    · rw [hbytes]
      rfl
    · rw [hbytes, hsize]
      simp only [List.drop_succ_cons, List.drop_zero, List.take_left]
  unfold scanPacket
  dsimp only
  rw [if_neg (by omega), if_neg hsync, h3, hsize, if_neg (Nat.not_lt.mpr hlong), hlast, hbody,
    hcrc, if_pos rfl, hpacket, hlength]

/-- The bridge is the parser of the packets. -/
theorem receive_eq (b : UsbBridge) (chunks : List (List UInt8)) :
    ((b.receive chunks).handled, (b.receive chunks).rxBuffer) =
      chunks.foldl packetParser.feed (b.handled, b.rxBuffer) := by
  unfold UsbBridge.receive
  induction chunks generalizing b with
  | nil => rfl
  | cons chunk chunks ih => exact ih (b.processBytes chunk)

theorem receive_opened (chunks : List (List UInt8)) :
    (((UsbBridge.opened.receive chunks).handled, (UsbBridge.opened.receive chunks).rxBuffer) :
      List Packet × List UInt8) = packetParser.drain chunks.flatten := by
  rw [receive_eq, StreamParser.foldl_feed chunks _ StreamParser.round_nil]
  rfl

/-- Packets are handled once each, in order and unchanged, however their bytes are split; and for
any bytes the split makes no difference to what is handled and what is left. -/
theorem processBytes_packets :
    (∀ (packets : List Packet) (chunks : List (List UInt8)),
      chunks.flatten = packets.flatMap Packet.encode →
        (UsbBridge.opened.receive chunks).handled = packets) ∧
    ∀ chunks chunks' : List (List UInt8), chunks.flatten = chunks'.flatten →
      UsbBridge.opened.receive chunks = UsbBridge.opened.receive chunks' := by
  constructor
  · intro packets chunks h
    have hreceive := receive_opened chunks
    rw [h, StreamParser.drain_items (P := packetParser) scanPacket_encode] at hreceive
    exact congrArg Prod.fst hreceive
  · intro chunks chunks' h
    have hreceive := receive_opened chunks
    rw [h, ← receive_opened chunks'] at hreceive
    obtain ⟨hhandled, hbuffer⟩ := Prod.mk.inj hreceive
    exact UsbBridge.mk.injEq .. ▸ ⟨hhandled, hbuffer⟩

/-- A received frame without data, and an acknowledgement without payload. -/
def twoPackets : List Packet :=
  [⟨0x81, [2, 4, 0x01, 0x02, 0, 0, 0], by decide⟩, ⟨0x82, [], by decide⟩]

/-- The bytes of the packets, split in the header of the first one and in the second one. -/
def splitChunks : List (List UInt8) :=
  let bytes := twoPackets.flatMap Packet.encode
  [bytes.take 1, (bytes.drop 1).take 13, [], bytes.drop 14]

theorem processBytes_packets_splitChunks :
    splitChunks.length = 4 ∧ (UsbBridge.opened.receive splitChunks).handled = twoPackets ∧
      UsbBridge.opened.receive splitChunks = UsbBridge.opened.receive [splitChunks.flatten] :=
  ⟨rfl, processBytes_packets.1 twoPackets splitChunks (by decide +kernel),
    processBytes_packets.2 _ _ (by decide +kernel)⟩

end Hardware

end JointController
