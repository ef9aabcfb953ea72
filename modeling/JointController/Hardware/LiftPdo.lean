import JointController.Hardware.EthercatRoundTrip
import JointController.Hardware.State

/-!
# The process data of the lift on the wire

The codecs of `ethercat_backend.cpp` between process data and their bytes, and those of
`ethercat_frame.cpp` that put the bytes into a frame of one datagram.

* `LiftRxPdo`, `LiftTxPdo`: the process data, in words of their widths.
* `rx_decode_encode`, `rx_encode_decode`, `tx_decode_encode`, `tx_encode_decode`: the bytes.
* `encodeLiftRxPdoFrame`, `decodeLiftTxPdoFrame`: the frames.
* `decodeLiftTxPdoFrame_cases`: the frames that the decoder accepts.
* `lift_pdo_round_trip`: process data come back from bytes and from frames.
-/

namespace JointController

namespace Hardware

namespace PdoCodec

/-! ## Process data -/

/-- `LiftRxPdo`. -/
structure LiftRxPdo where
  controlWord : UInt16 := 0
  targetVelocityUnitsPerS : Int32 := 0
  torqueFeedforward : Int16 := 0
  deriving DecidableEq

/-- `LiftTxPdo`. -/
structure LiftTxPdo where
  statusWord : UInt16 := 0
  errorCode : UInt16 := 0
  modeDisplay : Int8 := 0
  actualPositionUnits : Int32 := 0
  actualVelocityUnitsPerS : Int32 := 0
  digitalInputs : UInt32 := 0
  deriving DecidableEq

/-- The numbers that the cycle works with. -/
def LiftRxPdo.value (pdo : LiftRxPdo) : Hardware.LiftRxPdo where
  controlWord := pdo.controlWord
  targetVelocityUnitsPerS := pdo.targetVelocityUnitsPerS.toInt
  torqueFeedforward := pdo.torqueFeedforward.toInt

/-- The numbers that the cycle works with. -/
def LiftTxPdo.value (pdo : LiftTxPdo) : Hardware.LiftTxPdo where
  statusWord := pdo.statusWord
  errorCode := pdo.errorCode
  modeDisplay := pdo.modeDisplay.toInt
  actualPositionUnits := pdo.actualPositionUnits.toInt
  actualVelocityUnitsPerS := pdo.actualVelocityUnitsPerS.toInt
  digitalInputs := pdo.digitalInputs.toNat

/-! ## Bytes -/

/-- `LiftRxPdoWire`. -/
abbrev LiftRxPdoWire := { bytes : List UInt8 // bytes.length = 8 }

/-- `LiftTxPdoWire`. -/
abbrev LiftTxPdoWire := { bytes : List UInt8 // bytes.length = 17 }

/-- The bytes of the process data to the drive. -/
def LiftRxPdo.bytes (pdo : LiftRxPdo) : List UInt8 :=
  storeU16Le pdo.controlWord ++ (storeU32Le pdo.targetVelocityUnitsPerS.toUInt32 ++
    storeU16Le pdo.torqueFeedforward.toUInt16)

/-- The bytes of the process data from the drive. -/
def LiftTxPdo.bytes (pdo : LiftTxPdo) : List UInt8 :=
  storeU16Le pdo.statusWord ++ (storeU16Le pdo.errorCode ++ (pdo.modeDisplay.toUInt8 ::
    (storeU32Le pdo.actualPositionUnits.toUInt32 ++
      (storeU32Le pdo.actualVelocityUnitsPerS.toUInt32 ++ storeU32Le pdo.digitalInputs))))

theorem LiftRxPdo.length_bytes (pdo : LiftRxPdo) : pdo.bytes.length = 8 := by
  simp only [LiftRxPdo.bytes, List.length_append, length_storeU16Le, length_storeU32Le]

theorem LiftTxPdo.length_bytes (pdo : LiftTxPdo) : pdo.bytes.length = 17 := by
  simp only [LiftTxPdo.bytes, List.length_append, List.length_cons, length_storeU16Le,
    length_storeU32Le]

/-- `encode_lift_rx_pdo_le`, which never fails. -/
def encodeLiftRxPdoLe (pdo : LiftRxPdo) : LiftRxPdoWire := ⟨pdo.bytes, pdo.length_bytes⟩

/-- `encode_lift_tx_pdo_le`, which never fails. -/
def encodeLiftTxPdoLe (pdo : LiftTxPdo) : LiftTxPdoWire := ⟨pdo.bytes, pdo.length_bytes⟩

/-- `decode_lift_rx_pdo_le`, which never fails. -/
def decodeLiftRxPdoLe (wire : LiftRxPdoWire) : LiftRxPdo where
  controlWord := loadU16Le wire.1
  targetVelocityUnitsPerS := (loadU32Le (wire.1.drop 2)).toInt32
  torqueFeedforward := (loadU16Le (wire.1.drop 6)).toInt16

/-- `decode_lift_tx_pdo_le`, which never fails. -/
def decodeLiftTxPdoLe (wire : LiftTxPdoWire) : LiftTxPdo where
  statusWord := loadU16Le wire.1
  errorCode := loadU16Le (wire.1.drop 2)
  modeDisplay := (wire.1.getD 4 0).toInt8
  actualPositionUnits := (loadU32Le (wire.1.drop 5)).toInt32
  actualVelocityUnitsPerS := (loadU32Le (wire.1.drop 9)).toInt32
  digitalInputs := loadU32Le (wire.1.drop 13)

/-! ## Frames -/

/-- The datagram of `encode_lift_rx_pdo_frame`. -/
def rxDatagram (pdo : LiftRxPdo) (datagramIndex : UInt8) (logicalAddress : UInt32)
    (workingCounter : UInt16) : EthercatDatagram where
  header :=
    { command := .lwr
      index := datagramIndex
      address := logicalAddress
      dataLength := .ofNat (encodeLiftRxPdoLe pdo).1.length
      interrupt := 0
      more := false }
  data := (encodeLiftRxPdoLe pdo).1
  workingCounter := workingCounter

/-- `encode_lift_rx_pdo_frame`. -/
def encodeLiftRxPdoFrame (pdo : LiftRxPdo) (datagramIndex : UInt8) (logicalAddress : UInt32)
    (workingCounter : UInt16) : Option (List UInt8) :=
  encodeEthercatFrame ⟨[rxDatagram pdo datagramIndex logicalAddress workingCounter]⟩

/-- What `decode_lift_tx_pdo_frame` leaves behind: whether the frame is accepted, the process data,
the working counter and the error. -/
structure TxPdoDecoding where
  accepted : Bool
  pdo : LiftTxPdo
  workingCounter : UInt16
  error : String
  deriving DecidableEq

/-- `decode_lift_tx_pdo_frame`, with the values that its references have before. -/
def decodeLiftTxPdoFrame (bytes : List UInt8) (pdo : LiftTxPdo) (workingCounter : UInt16)
    (error : String) : TxPdoDecoding :=
  match decodeEthercatFrame bytes with
  | none => ⟨false, pdo, workingCounter, "invalid EtherCAT frame"⟩
  | some ⟨[datagram]⟩ =>
    if datagram.header.command ≠ .lrd then
      ⟨false, pdo, workingCounter, "expected one logical-read datagram for the lift TxPDO"⟩
    else if h : datagram.data.length = 17 then
      ⟨true, decodeLiftTxPdoLe ⟨datagram.data, h⟩, datagram.workingCounter, error⟩
    else
      ⟨false, pdo, workingCounter,
        "lift TxPDO length does not match the configured 17-byte mapping"⟩
  | some _ =>
    ⟨false, pdo, workingCounter, "expected one logical-read datagram for the lift TxPDO"⟩

/-! ## The bytes round trip -/

/-- The decoder undoes the encoder of the process data to the drive. -/
theorem rx_decode_encode (pdo : LiftRxPdo) : decodeLiftRxPdoLe (encodeLiftRxPdoLe pdo) = pdo := by
  have h2 : pdo.bytes.drop 2 = storeU32Le pdo.targetVelocityUnitsPerS.toUInt32 ++
      storeU16Le pdo.torqueFeedforward.toUInt16 := List.drop_left' (length_storeU16Le _)
  have h6 : pdo.bytes.drop 6 = storeU16Le pdo.torqueFeedforward.toUInt16 := by
    rw [← List.drop_drop (i := 4) (j := 2), h2, List.drop_left' (length_storeU32Le _)]
  show LiftRxPdo.mk (loadU16Le pdo.bytes) (loadU32Le (pdo.bytes.drop 2)).toInt32
    (loadU16Le (pdo.bytes.drop 6)).toInt16 = pdo
  rw [h2, h6, LiftRxPdo.bytes, loadU16Le_append (length_storeU16Le _),
    loadU32Le_append (length_storeU32Le _), loadU16Le_storeU16Le, loadU16Le_storeU16Le,
    loadU32Le_storeU32Le, Int32.toInt32_toUInt32, Int16.toInt16_toUInt16]

/-- The decoder undoes the encoder of the process data from the drive. -/
theorem tx_decode_encode (pdo : LiftTxPdo) : decodeLiftTxPdoLe (encodeLiftTxPdoLe pdo) = pdo := by
  have h2 : pdo.bytes.drop 2 = storeU16Le pdo.errorCode ++ (pdo.modeDisplay.toUInt8 ::
      (storeU32Le pdo.actualPositionUnits.toUInt32 ++
        (storeU32Le pdo.actualVelocityUnitsPerS.toUInt32 ++ storeU32Le pdo.digitalInputs))) :=
    List.drop_left' (length_storeU16Le _)
  have h4 : pdo.bytes.drop 4 = pdo.modeDisplay.toUInt8 ::
      (storeU32Le pdo.actualPositionUnits.toUInt32 ++
        (storeU32Le pdo.actualVelocityUnitsPerS.toUInt32 ++ storeU32Le pdo.digitalInputs)) := by
    rw [← List.drop_drop (i := 2) (j := 2), h2, List.drop_left' (length_storeU16Le _)]
  have h5 : pdo.bytes.drop 5 = storeU32Le pdo.actualPositionUnits.toUInt32 ++
      (storeU32Le pdo.actualVelocityUnitsPerS.toUInt32 ++ storeU32Le pdo.digitalInputs) := by
    rw [← List.drop_drop (i := 1) (j := 4), h4]
    rfl
  have h9 : pdo.bytes.drop 9 =
      storeU32Le pdo.actualVelocityUnitsPerS.toUInt32 ++ storeU32Le pdo.digitalInputs := by
    rw [← List.drop_drop (i := 4) (j := 5), h5, List.drop_left' (length_storeU32Le _)]
  have h13 : pdo.bytes.drop 13 = storeU32Le pdo.digitalInputs := by
    rw [← List.drop_drop (i := 4) (j := 9), h9, List.drop_left' (length_storeU32Le _)]
  have hmode : pdo.bytes.getD 4 0 = pdo.modeDisplay.toUInt8 := by
    rw [List.getD_eq_getElem?_getD, ← Nat.add_zero 4, ← List.getElem?_drop, h4]
    rfl
  show LiftTxPdo.mk (loadU16Le pdo.bytes) (loadU16Le (pdo.bytes.drop 2))
    (pdo.bytes.getD 4 0).toInt8 (loadU32Le (pdo.bytes.drop 5)).toInt32
    (loadU32Le (pdo.bytes.drop 9)).toInt32 (loadU32Le (pdo.bytes.drop 13)) = pdo
  rw [h2, h5, h9, h13, hmode, LiftTxPdo.bytes, loadU16Le_append (length_storeU16Le _),
    loadU16Le_append (length_storeU16Le _), loadU32Le_append (length_storeU32Le _),
    loadU32Le_append (length_storeU32Le _)]
  simp only [loadU16Le_storeU16Le, loadU32Le_storeU32Le, Int8.toInt8_toUInt8,
    Int32.toInt32_toUInt32]

/-- A word in front of some bytes. -/
theorem storeU16Le_loadU16Le_append (bytes : List UInt8) (h : 2 ≤ bytes.length) :
    storeU16Le (loadU16Le bytes) ++ bytes.drop 2 = bytes := by
  have hword : (bytes.take 2).length = 2 := by
    rw [List.length_take]
    omega
  rw [← List.take_append_drop 2 bytes, loadU16Le_append hword, storeU16Le_loadU16Le hword,
    List.drop_left' hword]

/-- A double word in front of some bytes. -/
theorem storeU32Le_loadU32Le_append (bytes : List UInt8) (h : 4 ≤ bytes.length) :
    storeU32Le (loadU32Le bytes) ++ bytes.drop 4 = bytes := by
  have hword : (bytes.take 4).length = 4 := by
    rw [List.length_take]
    omega
  rw [← List.take_append_drop 4 bytes, loadU32Le_append hword, storeU32Le_loadU32Le hword,
    List.drop_left' hword]

/-- The encoder undoes the decoder of the process data to the drive. -/
theorem rx_encode_decode (wire : LiftRxPdoWire) :
    encodeLiftRxPdoLe (decodeLiftRxPdoLe wire) = wire := by
  obtain ⟨bytes, hlength⟩ := wire
  have hcontrol := storeU16Le_loadU16Le_append bytes (by omega)
  have hvelocity := storeU32Le_loadU32Le_append (bytes.drop 2)
    (by rw [List.length_drop]; omega)
  have htorque : storeU16Le (loadU16Le (bytes.drop 6)) = bytes.drop 6 :=
    storeU16Le_loadU16Le (by rw [List.length_drop]; omega)
  rw [List.drop_drop] at hvelocity
  refine Subtype.ext ?_
  show storeU16Le (loadU16Le bytes) ++ (storeU32Le (loadU32Le (bytes.drop 2)).toInt32.toUInt32 ++
    storeU16Le (loadU16Le (bytes.drop 6)).toInt16.toUInt16) = bytes
  rw [UInt32.toUInt32_toInt32, UInt16.toUInt16_toInt16, htorque, hvelocity, hcontrol]

/-- The encoder undoes the decoder of the process data from the drive. -/
theorem tx_encode_decode (wire : LiftTxPdoWire) :
    encodeLiftTxPdoLe (decodeLiftTxPdoLe wire) = wire := by
  obtain ⟨bytes, hlength⟩ := wire
  have hstatus := storeU16Le_loadU16Le_append bytes (by omega)
  have herror := storeU16Le_loadU16Le_append (bytes.drop 2)
    (by rw [List.length_drop]; omega)
  have hmode : bytes.getD 4 0 :: bytes.drop 5 = bytes.drop 4 := by
    have hlt : 4 < bytes.length := by omega
    rw [List.drop_eq_getElem_cons hlt, ← List.getElem_eq_getD]
  have hposition := storeU32Le_loadU32Le_append (bytes.drop 5)
    (by rw [List.length_drop]; omega)
  have hvelocity := storeU32Le_loadU32Le_append (bytes.drop 9)
    (by rw [List.length_drop]; omega)
  have hinputs : storeU32Le (loadU32Le (bytes.drop 13)) = bytes.drop 13 :=
    storeU32Le_loadU32Le (by rw [List.length_drop]; omega)
  rw [List.drop_drop] at herror hposition hvelocity
  refine Subtype.ext ?_
  show storeU16Le (loadU16Le bytes) ++ (storeU16Le (loadU16Le (bytes.drop 2)) ++
    ((bytes.getD 4 0).toInt8.toUInt8 :: (storeU32Le (loadU32Le (bytes.drop 5)).toInt32.toUInt32 ++
      (storeU32Le (loadU32Le (bytes.drop 9)).toInt32.toUInt32 ++
        storeU32Le (loadU32Le (bytes.drop 13)))))) = bytes
  rw [UInt8.toUInt8_toInt8, UInt32.toUInt32_toInt32, UInt32.toUInt32_toInt32, hinputs, hvelocity,
    hposition, hmode, herror, hstatus]

/-! ## The frames round trip -/

/-- A datagram that fits makes a frame of its own. -/
theorem encodeEthercatFrame_single {d : EthercatDatagram} (hfits : d.Fits)
    (hsize : d.size ≤ ethercatLengthMask.toNat) :
    ∃ bytes, encodeEthercatFrame ⟨[d]⟩ = some bytes ∧
      decodeEthercatFrame bytes = some ⟨[{ d with header.more := false }]⟩ := by
  have hall : ∀ e ∈ [d], e.Fits := by
    intro e he
    rwa [List.mem_singleton.mp he]
  have hsum : 0 + ([d].map EthercatDatagram.size).sum = d.size := by
    rw [Nat.zero_add, List.map_singleton, List.sum_singleton]
  have hadd := foldlM_addPayload_of_fits hall (hsum.trans_le hsize)
  rw [hsum] at hadd
  obtain ⟨headerBytes, hheader⟩ : ∃ headerBytes,
      encodeEthercatDatagramHeader { d.header with more := false } = some headerBytes :=
    ⟨_, if_neg hfits.1⟩
  have hdatagram := encodeEthercatDatagram_eq_some.mpr
    (show ({ d with header.more := false } : EthercatDatagram).Fits ∧ _ from
      ⟨hfits, headerBytes, hheader, rfl⟩)
  have hmap : (EthercatFrame.canonical ⟨[d]⟩).datagrams.mapM encodeEthercatDatagram =
      some [headerBytes ++ d.data ++ storeU16Le d.workingCounter] := by
    show [({ d with header.more := false } : EthercatDatagram)].mapM encodeEthercatDatagram = _
    rw [List.mapM_cons, hdatagram, List.mapM_nil]
    rfl
  have hmask := (ofNat_payload (not_lt.mpr hsize)).2
  obtain ⟨bytes, hbytes⟩ : ∃ bytes, encodeEthercatFrame ⟨[d]⟩ = some bytes := by
    unfold encodeEthercatFrame
    rw [if_neg (List.cons_ne_nil d [])]
    simp only [hadd, hmap, Option.bind_eq_bind, Option.bind_some,
      if_neg (not_lt.mpr hsize), encodeEthercatFrameHeader_eq hmask]
    exact ⟨_, rfl⟩
  exact ⟨bytes, hbytes, decode_encode_frame hbytes⟩

/-- Process data to the drive come back from their frame. -/
theorem rx_frame_round_trip (pdo : LiftRxPdo) (datagramIndex : UInt8) (logicalAddress : UInt32)
    (workingCounter : UInt16) :
    ∃ bytes datagram, encodeLiftRxPdoFrame pdo datagramIndex logicalAddress workingCounter =
        some bytes ∧
      decodeEthercatFrame bytes = some ⟨[datagram]⟩ ∧ datagram.header.command = .lwr ∧
      datagram.header.index = datagramIndex ∧ datagram.header.address = logicalAddress ∧
      datagram.workingCounter = workingCounter ∧
      ∃ h : datagram.data.length = 8, decodeLiftRxPdoLe ⟨datagram.data, h⟩ = pdo := by
  have hlength := pdo.length_bytes
  have hword : (UInt16.ofNat pdo.bytes.length).toNat = pdo.bytes.length := by rw [hlength]; rfl
  have hsmall : ¬ ethercatLengthMask < UInt16.ofNat pdo.bytes.length := by
    rw [hlength]
    decide
  have hfits : (rxDatagram pdo datagramIndex logicalAddress workingCounter).Fits :=
    ⟨hsmall, hword.symm⟩
  have hsize : (rxDatagram pdo datagramIndex logicalAddress workingCounter).size ≤
      ethercatLengthMask.toNat := by
    show 10 + pdo.bytes.length + 2 ≤ 2047
    omega
  obtain ⟨bytes, hencode, hdecode⟩ := encodeEthercatFrame_single hfits hsize
  exact ⟨bytes, _, hencode, hdecode, rfl, rfl, rfl, rfl, hlength, rx_decode_encode pdo⟩

/-- A frame with one datagram that carries process data from the drive. -/
structure CarriesTxPdo (d : EthercatDatagram) (pdo : LiftTxPdo) : Prop where
  command : d.header.command = .lrd
  length : d.header.dataLength = 17
  data : d.data = (encodeLiftTxPdoLe pdo).1

/-- Process data from the drive come back from any frame that carries them. -/
theorem tx_frame_round_trip {d : EthercatDatagram} {pdo : LiftTxPdo} (h : CarriesTxPdo d pdo)
    (before : LiftTxPdo) (counter : UInt16) (error : String) :
    ∃ bytes, encodeEthercatFrame ⟨[d]⟩ = some bytes ∧
      decodeLiftTxPdoFrame bytes before counter error = ⟨true, pdo, d.workingCounter, error⟩ := by
  have hlength : d.data.length = 17 := by
    rw [h.data]
    exact pdo.length_bytes
  have hsmall : ¬ ethercatLengthMask < (17 : UInt16) := by decide
  have hfits : d.Fits := by
    rw [EthercatDatagram.Fits, h.length]
    exact ⟨hsmall, hlength⟩
  have hsize : d.size ≤ ethercatLengthMask.toNat := by
    show 10 + d.data.length + 2 ≤ 2047
    omega
  obtain ⟨bytes, hencode, hdecode⟩ := encodeEthercatFrame_single hfits hsize
  refine ⟨bytes, hencode, ?_⟩
  have hwire : (⟨d.data, hlength⟩ : LiftTxPdoWire) = encodeLiftTxPdoLe pdo := Subtype.ext h.data
  unfold decodeLiftTxPdoFrame
  rw [hdecode]
  simp only [h.command, ne_eq, not_true_eq_false, if_false, dif_pos hlength, hwire,
    tx_decode_encode]

/-- **The accepted frames** consist of one logical read of 17 bytes, whatever their working
counter, and a frame that is refused leaves the process data and the counter alone. -/
theorem decodeLiftTxPdoFrame_cases (bytes : List UInt8) (pdo : LiftTxPdo) (counter : UInt16)
    (error : String) :
    (∃ (d : EthercatDatagram) (h : d.data.length = 17),
        decodeEthercatFrame bytes = some ⟨[d]⟩ ∧ d.header.command = .lrd ∧
        decodeLiftTxPdoFrame bytes pdo counter error =
          ⟨true, decodeLiftTxPdoLe ⟨d.data, h⟩, d.workingCounter, error⟩) ∨
      (¬ ∃ d : EthercatDatagram, decodeEthercatFrame bytes = some ⟨[d]⟩ ∧
        d.header.command = .lrd ∧ d.data.length = 17) ∧
        ∃ reason, decodeLiftTxPdoFrame bytes pdo counter error = ⟨false, pdo, counter, reason⟩ := by
  unfold decodeLiftTxPdoFrame
  split
  · rename_i hframe
    refine Or.inr ⟨?_, _, rfl⟩
    rintro ⟨d, hd, -⟩
    rw [hframe] at hd
    cases hd
  · rename_i d hframe
    by_cases hcommand : d.header.command = .lrd
    · by_cases hlength : d.data.length = 17
      · refine Or.inl ⟨d, hlength, hframe, hcommand, ?_⟩
        rw [if_neg (not_not_intro hcommand), dif_pos hlength]
      · refine Or.inr ⟨?_, _, by rw [if_neg (not_not_intro hcommand), dif_neg hlength]⟩
        rintro ⟨d', hd', -, hlength'⟩
        rw [hframe, Option.some.injEq, EthercatFrame.mk.injEq, List.singleton_inj] at hd'
        exact hlength (hd' ▸ hlength')
    · refine Or.inr ⟨?_, _, if_pos hcommand⟩
      rintro ⟨d', hd', hcommand', -⟩
      rw [hframe, Option.some.injEq, EthercatFrame.mk.injEq, List.singleton_inj] at hd'
      exact hcommand (hd' ▸ hcommand')
  · rename_i frame hnot hframe
    refine Or.inr ⟨?_, _, rfl⟩
    rintro ⟨d, hd, -⟩
    rw [hframe] at hd
    exact hnot d (Option.some_injective _ hd)

/-- **The process data of the lift**: both codecs are inverse to each other, process data to the
drive come back from their frame, process data from the drive come back from any frame that carries
them, and the decoder accepts no other frame and changes nothing when it refuses one. -/
theorem lift_pdo_round_trip :
    (∀ pdo, decodeLiftRxPdoLe (encodeLiftRxPdoLe pdo) = pdo) ∧
    (∀ wire, encodeLiftRxPdoLe (decodeLiftRxPdoLe wire) = wire) ∧
    (∀ pdo, decodeLiftTxPdoLe (encodeLiftTxPdoLe pdo) = pdo) ∧
    (∀ wire, encodeLiftTxPdoLe (decodeLiftTxPdoLe wire) = wire) ∧
    (∀ pdo datagramIndex logicalAddress workingCounter, ∃ bytes datagram,
      encodeLiftRxPdoFrame pdo datagramIndex logicalAddress workingCounter = some bytes ∧
      decodeEthercatFrame bytes = some ⟨[datagram]⟩ ∧ datagram.header.command = .lwr ∧
      datagram.header.index = datagramIndex ∧ datagram.header.address = logicalAddress ∧
      datagram.workingCounter = workingCounter ∧
      ∃ h : datagram.data.length = 8, decodeLiftRxPdoLe ⟨datagram.data, h⟩ = pdo) ∧
    (∀ d pdo, CarriesTxPdo d pdo → ∀ before counter error, ∃ bytes,
      encodeEthercatFrame ⟨[d]⟩ = some bytes ∧
        decodeLiftTxPdoFrame bytes before counter error = ⟨true, pdo, d.workingCounter, error⟩) ∧
    ∀ bytes pdo counter error,
      (∃ (d : EthercatDatagram) (h : d.data.length = 17),
        decodeEthercatFrame bytes = some ⟨[d]⟩ ∧ d.header.command = .lrd ∧
        decodeLiftTxPdoFrame bytes pdo counter error =
          ⟨true, decodeLiftTxPdoLe ⟨d.data, h⟩, d.workingCounter, error⟩) ∨
      (¬ ∃ d : EthercatDatagram, decodeEthercatFrame bytes = some ⟨[d]⟩ ∧
        d.header.command = .lrd ∧ d.data.length = 17) ∧
        ∃ reason, decodeLiftTxPdoFrame bytes pdo counter error = ⟨false, pdo, counter, reason⟩ :=
  ⟨rx_decode_encode, rx_encode_decode, tx_decode_encode, tx_encode_decode, rx_frame_round_trip,
    fun _ _ => tx_frame_round_trip, decodeLiftTxPdoFrame_cases⟩

/-- A logical read of the default process data. -/
def logicalRead (workingCounter : UInt16) : EthercatDatagram where
  header :=
    { command := .lrd
      index := 1
      address := 0x100
      dataLength := 17
      interrupt := 0
      more := false }
  data := (encodeLiftTxPdoLe {}).1
  workingCounter := workingCounter

/-- A frame that no slave has answered, and one that a slave has, are both accepted. -/
theorem decodeLiftTxPdoFrame_ignores_counter :
    ∃ unanswered answered, encodeEthercatFrame ⟨[logicalRead 0]⟩ = some unanswered ∧
      encodeEthercatFrame ⟨[logicalRead 1]⟩ = some answered ∧
      (decodeLiftTxPdoFrame unanswered {} 9 "").accepted = true ∧
      (decodeLiftTxPdoFrame unanswered {} 9 "").workingCounter = 0 ∧
      (decodeLiftTxPdoFrame answered {} 9 "").accepted = true ∧
      (decodeLiftTxPdoFrame answered {} 9 "").workingCounter = 1 := by
  have hcarries (counter : UInt16) : CarriesTxPdo (logicalRead counter) {} := ⟨rfl, rfl, rfl⟩
  obtain ⟨unanswered, hunanswered, hzero⟩ := tx_frame_round_trip (hcarries 0) {} 9 ""
  obtain ⟨answered, hanswered, hone⟩ := tx_frame_round_trip (hcarries 1) {} 9 ""
  refine ⟨unanswered, answered, hunanswered, hanswered, ?_⟩
  rw [hzero, hone]
  exact ⟨rfl, rfl, rfl, rfl⟩

end PdoCodec

end Hardware

end JointController
