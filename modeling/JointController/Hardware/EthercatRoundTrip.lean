import JointController.Hardware.EthercatFrame
import Mathlib.Tactic.IntervalCases

/-!
# The EtherCAT codec round trips

* `loadU16Le_storeU16Le`, `storeU16Le_loadU16Le` and the bits of a length: the words.
* `decode_encode_header`, `encode_decode_header`: a datagram header.
* `decode_encode_datagram`, `encode_decode_datagram`: a datagram.
* `decodeDatagrams_append`, `decodeDatagrams_cases`: one round of the decoder.
* `EthercatFrame.keptBits`: the bits that a frame gives a meaning to.
* `ethercat_frame_round_trip`: the decoder undoes the encoder, and the encoder undoes the decoder up
  to the reserved bits.
-/

namespace JointController

namespace Hardware

/-! ## Words -/

theorem length_storeU16Le (v : UInt16) : (storeU16Le v).length = 2 :=
  LittleEndian.length_store 2 v.toNat

theorem length_storeU32Le (v : UInt32) : (storeU32Le v).length = 4 :=
  LittleEndian.length_store 4 v.toNat

theorem loadU16Le_append {bytes : List UInt8} (h : bytes.length = 2) (rest : List UInt8) :
    loadU16Le (bytes ++ rest) = loadU16Le bytes :=
  congrArg UInt16.ofNat (LittleEndian.load_append rest h)

theorem loadU32Le_append {bytes : List UInt8} (h : bytes.length = 4) (rest : List UInt8) :
    loadU32Le (bytes ++ rest) = loadU32Le bytes :=
  congrArg UInt32.ofNat (LittleEndian.load_append rest h)

theorem loadU16Le_storeU16Le (v : UInt16) : loadU16Le (storeU16Le v) = v := by
  unfold loadU16Le storeU16Le
  rw [LittleEndian.load_store v.toNat_lt, UInt16.ofNat_toNat]

theorem loadU32Le_storeU32Le (v : UInt32) : loadU32Le (storeU32Le v) = v := by
  unfold loadU32Le storeU32Le
  rw [LittleEndian.load_store v.toNat_lt, UInt32.ofNat_toNat]

theorem storeU16Le_loadU16Le {bytes : List UInt8} (h : bytes.length = 2) :
    storeU16Le (loadU16Le bytes) = bytes := by
  unfold loadU16Le storeU16Le
  rw [UInt16.toNat_ofNat_of_lt' (LittleEndian.load_lt h), LittleEndian.store_load h]

theorem storeU32Le_loadU32Le {bytes : List UInt8} (h : bytes.length = 4) :
    storeU32Le (loadU32Le bytes) = bytes := by
  unfold loadU32Le storeU32Le
  rw [UInt32.toNat_ofNat_of_lt' (LittleEndian.load_lt h), LittleEndian.store_load h]

/-- A mask acts on both bytes of a word. -/
theorem storeU16Le_and (v mask : UInt16) :
    storeU16Le (v &&& mask) = List.zipWith (· &&& ·) (storeU16Le v) (storeU16Le mask) := by
  unfold storeU16Le
  rw [UInt16.toNat_and, LittleEndian.store_and]

theorem and_or_and (v a b : UInt16) : v &&& a ||| v &&& b = v &&& (a ||| b) := by
  rw [← UInt16.toNat_inj, UInt16.toNat_or, UInt16.toNat_and, UInt16.toNat_and, UInt16.toNat_and,
    UInt16.toNat_or, Nat.and_or_distrib_left]

theorem or_and (a b mask : UInt16) : (a ||| b) &&& mask = a &&& mask ||| b &&& mask := by
  rw [UInt16.and_comm, ← and_or_and, UInt16.and_comm a, UInt16.and_comm b]

/-! ## The bits of a length -/

theorem and_lengthMask {v : UInt16} (h : ¬ ethercatLengthMask < v) :
    v &&& ethercatLengthMask = v := by
  have hv : v.toNat < 2 ^ 11 := Nat.lt_succ_of_le (UInt16.not_lt.mp h)
  rw [← UInt16.toNat_inj, UInt16.toNat_and]
  exact Nat.and_two_pow_sub_one_of_lt_two_pow hv

theorem not_lengthMask_lt_and (v : UInt16) : ¬ ethercatLengthMask < v &&& ethercatLengthMask := by
  have hle : (v &&& ethercatLengthMask).toNat ≤ ethercatLengthMask.toNat := by
    rw [UInt16.toNat_and]
    exact Nat.and_le_right
  exact UInt16.not_lt.mpr hle

/-- The flag of a length without flags is clear. -/
theorem and_moreFlag {v : UInt16} (h : ¬ ethercatLengthMask < v) :
    v &&& ethercatDatagramMoreFlag = 0 := by
  have hdisjoint : ethercatLengthMask &&& ethercatDatagramMoreFlag = 0 := by decide
  rw [← and_lengthMask h, UInt16.and_assoc, hdisjoint, UInt16.and_zero]

theorem and_moreFlag_cases (v : UInt16) :
    v &&& ethercatDatagramMoreFlag = 0 ∨
      v &&& ethercatDatagramMoreFlag = ethercatDatagramMoreFlag := by
  have hbit : (v &&& ethercatDatagramMoreFlag).toNat = (v.toNat.testBit 15).toNat * 2 ^ 15 := by
    rw [UInt16.toNat_and, ← Nat.and_two_pow]
    rfl
  rw [← UInt16.toNat_inj, ← UInt16.toNat_inj, hbit]
  cases v.toNat.testBit 15 with
  | false => exact Or.inl rfl
  | true => exact Or.inr rfl

/-- The bits 11 to 14 of the length of a datagram are reserved. -/
def reservedLengthBits : UInt16 := 0x7800

/-- The bit 11 of the frame header is reserved. -/
def reservedHeaderBits : UInt16 := 0x0800

/-- The length that the encoder writes for what the decoder has read. -/
theorem length_of_decoded (length : UInt16) :
    (if decide (length &&& ethercatDatagramMoreFlag ≠ 0) = true then
        length &&& ethercatLengthMask ||| ethercatDatagramMoreFlag
      else length &&& ethercatLengthMask) = length &&& ~~~reservedLengthBits := by
  have hmask : ethercatLengthMask ||| ethercatDatagramMoreFlag = ~~~reservedLengthBits := by decide
  have hsum : length &&& ethercatLengthMask ||| length &&& ethercatDatagramMoreFlag =
      length &&& ~~~reservedLengthBits := by rw [and_or_and, hmask]
  rcases and_moreFlag_cases length with hclear | hset
  · rw [if_neg (by simp [hclear]), ← hsum, hclear, UInt16.or_zero]
  · have hne : length &&& ethercatDatagramMoreFlag ≠ 0 := by
      rw [hset]
      decide
    rw [if_pos (decide_eq_true hne), ← hsum, hset]

/-! ## Commands and headers -/

theorem ofByte_toByte (c : EthercatCommand) : EthercatCommand.ofByte c.toByte = c := by
  cases c <;> rfl

theorem validCommand_toByte (c : EthercatCommand) : validCommand c.toByte = true := by
  cases c <;> rfl

theorem toByte_ofByte {v : UInt8} (h : validCommand v = true) :
    (EthercatCommand.ofByte v).toByte = v := by
  have hv : v.toNat < 15 := Nat.lt_succ_of_le (of_decide_eq_true h)
  rw [← UInt8.ofNat_toNat (x := v)]
  generalize v.toNat = n at hv
  interval_cases n <;> rfl

/-- A header is a command, an index and three words. -/
theorem exists_header_parts {bytes : List UInt8} (h : ethercatDatagramHeaderSize ≤ bytes.length) :
    ∃ command index address length interrupt rest, bytes =
        command :: index :: (address ++ (length ++ (interrupt ++ rest))) ∧
      address.length = 4 ∧ length.length = 2 ∧ interrupt.length = 2 := by
  unfold ethercatDatagramHeaderSize at h
  rcases bytes with _ | ⟨command, _ | ⟨index, bytes⟩⟩
  · cases h
  · cases Nat.le_of_succ_le_succ h
  · rw [List.length_cons, List.length_cons] at h
    refine ⟨command, index, bytes.take 4, (bytes.drop 4).take 2, (bytes.drop 6).take 2,
      bytes.drop 8, ?_, ?_, ?_, ?_⟩
    · congr 2
      have hinterrupt := List.take_append_drop 2 (bytes.drop 6)
      have hlength := List.take_append_drop 2 (bytes.drop 4)
      rw [List.drop_drop] at hinterrupt hlength
      rw [hinterrupt, hlength, List.take_append_drop]
    · rw [List.length_take]
      omega
    · rw [List.length_take, List.length_drop]
      omega
    · rw [List.length_take, List.length_drop]
      omega

theorem decode_header_parts {bytes : List UInt8} {command index : UInt8}
    {address length interrupt rest : List UInt8} (haddress : address.length = 4)
    (hlength : length.length = 2) (hinterrupt : interrupt.length = 2)
    (hbytes : bytes = command :: index :: (address ++ (length ++ (interrupt ++ rest)))) :
    decodeEthercatDatagramHeader bytes =
      if validCommand command then some
        { command := .ofByte command
          index := index
          address := loadU32Le address
          dataLength := loadU16Le length &&& ethercatLengthMask
          interrupt := loadU16Le interrupt
          more := loadU16Le length &&& ethercatDatagramMoreFlag ≠ 0 }
      else none := by
  have hlong : ¬ bytes.length < ethercatDatagramHeaderSize := by
    rw [hbytes]
    simp only [List.length_cons, List.length_append, haddress, hlength, hinterrupt,
      ethercatDatagramHeaderSize]
    omega
  have hcommand : bytes.getD 0 0 = command := by rw [hbytes, List.getD_cons_zero]
  have hindex : bytes.getD 1 0 = index := by rw [hbytes, List.getD_cons_succ, List.getD_cons_zero]
  have h2 : bytes.drop 2 = address ++ (length ++ (interrupt ++ rest)) := by
    rw [hbytes, List.drop_succ_cons, List.drop_succ_cons, List.drop_zero]
  have h6 : bytes.drop 6 = length ++ (interrupt ++ rest) := by
    rw [← List.drop_drop (i := 4) (j := 2), h2, ← haddress, List.drop_left]
  have h8 : bytes.drop 8 = interrupt ++ rest := by
    rw [← List.drop_drop (i := 2) (j := 6), h6, ← hlength, List.drop_left]
  unfold decodeEthercatDatagramHeader
  rw [hcommand, hindex, h2, h6, h8, loadU32Le_append haddress, loadU16Le_append hlength,
    loadU16Le_append hinterrupt]
  by_cases hvalid : validCommand command = true
  · rw [if_neg (not_or.mpr ⟨hlong, not_not.mpr hvalid⟩), if_pos hvalid]
  · rw [if_pos (Or.inr hvalid), if_neg hvalid]

/-- The length that the encoder writes for a header. -/
def EthercatDatagramHeader.wireLength (header : EthercatDatagramHeader) : UInt16 :=
  if header.more then header.dataLength ||| ethercatDatagramMoreFlag else header.dataLength

theorem encodeEthercatDatagramHeader_eq_some {header : EthercatDatagramHeader}
    {headerBytes : List UInt8} :
    encodeEthercatDatagramHeader header = some headerBytes ↔
      ¬ ethercatLengthMask < header.dataLength ∧
        headerBytes = header.command.toByte :: header.index :: (storeU32Le header.address ++
          (storeU16Le header.wireLength ++ storeU16Le header.interrupt)) := by
  unfold encodeEthercatDatagramHeader
  by_cases hlong : ethercatLengthMask < header.dataLength
  · rw [if_pos hlong]
    exact iff_of_false (by simp) fun h => h.1 hlong
  · rw [if_neg hlong, Option.some_inj, List.append_assoc, eq_comm]
    exact (and_iff_right hlong).symm

/-- The two fields of a length come back. -/
theorem wireLength_fields {header : EthercatDatagramHeader}
    (h : ¬ ethercatLengthMask < header.dataLength) :
    header.wireLength &&& ethercatLengthMask = header.dataLength ∧
      decide (header.wireLength &&& ethercatDatagramMoreFlag ≠ 0) = header.more := by
  have hflag : ethercatDatagramMoreFlag &&& ethercatLengthMask = 0 := by decide
  have hset : ¬ ethercatDatagramMoreFlag = 0 := by decide
  unfold EthercatDatagramHeader.wireLength
  cases header.more with
  | true =>
    rw [if_pos rfl, or_and, or_and, and_lengthMask h, and_moreFlag h, hflag, UInt16.or_zero,
      UInt16.and_self, UInt16.zero_or]
    exact ⟨rfl, decide_eq_true hset⟩
  | false =>
    rw [if_neg Bool.false_ne_true, and_lengthMask h, and_moreFlag h]
    exact ⟨rfl, rfl⟩

/-- The decoder reads back what the encoder has written, whatever follows it. -/
theorem decode_encode_header {header : EthercatDatagramHeader} {headerBytes : List UInt8}
    (h : encodeEthercatDatagramHeader header = some headerBytes) (rest : List UInt8) :
    headerBytes.length = ethercatDatagramHeaderSize ∧
      decodeEthercatDatagramHeader (headerBytes ++ rest) = some header := by
  obtain ⟨hfits, rfl⟩ := encodeEthercatDatagramHeader_eq_some.mp h
  obtain ⟨hlength, hmore⟩ := wireLength_fields hfits
  constructor
  · simp [length_storeU16Le, length_storeU32Le, ethercatDatagramHeaderSize]
  · have hbytes : (header.command.toByte :: header.index :: (storeU32Le header.address ++
          (storeU16Le header.wireLength ++ storeU16Le header.interrupt))) ++ rest =
        header.command.toByte :: header.index :: (storeU32Le header.address ++
          (storeU16Le header.wireLength ++ (storeU16Le header.interrupt ++ rest))) := by
      simp only [List.cons_append, List.append_assoc]
    rw [decode_header_parts (length_storeU32Le header.address)
        (length_storeU16Le header.wireLength) (length_storeU16Le header.interrupt) hbytes,
      if_pos (validCommand_toByte header.command), ofByte_toByte, loadU32Le_storeU32Le,
      loadU16Le_storeU16Le, loadU16Le_storeU16Le, hlength, hmore]

/-- The bits of a datagram header that have a meaning. -/
def headerKeptBits : List UInt8 :=
  List.replicate 6 0xFF ++ storeU16Le (~~~reservedLengthBits) ++ List.replicate 2 0xFF

theorem zipWith_and_ones (bytes : List UInt8) :
    List.zipWith (· &&& ·) bytes (List.replicate bytes.length 0xFF) = bytes := by
  induction bytes with
  | nil => rfl
  | cons b bytes ih =>
    have hb : b &&& 0xFF = b := UInt8.and_neg_one
    rw [List.length_cons, List.replicate_succ, List.zipWith_cons_cons, ih, hb]

/-- Encoding what the decoder has read clears the reserved bits of the length. -/
theorem encode_decode_header {bytes : List UInt8} {header : EthercatDatagramHeader}
    (h : decodeEthercatDatagramHeader bytes = some header) :
    encodeEthercatDatagramHeader header = some (List.zipWith (· &&& ·)
      (bytes.take ethercatDatagramHeaderSize) headerKeptBits) := by
  have hlong : ethercatDatagramHeaderSize ≤ bytes.length := by
    by_contra hshort
    unfold decodeEthercatDatagramHeader at h
    rw [if_pos (Or.inl (not_le.mp hshort))] at h
    cases h
  obtain ⟨command, index, address, length, interrupt, rest, hbytes, haddress, hlength,
    hinterrupt⟩ :=
    exists_header_parts hlong
  rw [decode_header_parts haddress hlength hinterrupt hbytes, Option.ite_none_right_eq_some,
    Option.some_inj] at h
  obtain ⟨hvalid, rfl⟩ := h
  refine encodeEthercatDatagramHeader_eq_some.mpr ⟨not_lengthMask_lt_and _, ?_⟩
  have htake : bytes.take ethercatDatagramHeaderSize =
      command :: index :: (address ++ (length ++ interrupt)) := by
    have hsplit : bytes =
        (command :: index :: (address ++ (length ++ interrupt))) ++ rest := by
      rw [hbytes]
      simp only [List.cons_append, List.append_assoc]
    rw [hsplit]
    refine List.take_left' ?_
    simp only [List.length_cons, List.length_append, haddress, hlength, hinterrupt,
      ethercatDatagramHeaderSize]
  have hkept : headerKeptBits = 0xFF :: 0xFF :: (List.replicate address.length 0xFF ++
      (storeU16Le (~~~reservedLengthBits) ++ List.replicate interrupt.length 0xFF)) := by
    rw [haddress, hinterrupt]
    rfl
  have hword : storeU16Le (loadU16Le length &&& ~~~reservedLengthBits) =
      List.zipWith (· &&& ·) length (storeU16Le (~~~reservedLengthBits)) := by
    rw [storeU16Le_and, storeU16Le_loadU16Le hlength]
  have hones : ∀ b : UInt8, b &&& 0xFF = b := fun _ => UInt8.and_neg_one
  unfold EthercatDatagramHeader.wireLength
  dsimp only
  rw [length_of_decoded, hword, htake, hkept, List.zipWith_cons_cons, List.zipWith_cons_cons,
    List.zipWith_append (List.length_replicate ..).symm,
    List.zipWith_append (hlength.trans (length_storeU16Le _).symm), zipWith_and_ones,
    zipWith_and_ones, toByte_ofByte hvalid, storeU32Le_loadU32Le haddress,
    storeU16Le_loadU16Le hinterrupt, hones, hones]

/-! ## Datagrams -/

/-- The bits of a datagram that have a meaning. -/
def EthercatDatagram.keptBits (d : EthercatDatagram) : List UInt8 :=
  headerKeptBits ++ List.replicate (d.data.length + ethercatWorkingCounterSize) 0xFF

/-- The length of a datagram is the length of its data, and fits in its field. -/
def EthercatDatagram.Fits (d : EthercatDatagram) : Prop :=
  ¬ ethercatLengthMask < d.header.dataLength ∧ d.data.length = d.header.dataLength.toNat

theorem fits_iff {d : EthercatDatagram} :
    ¬ (ethercatLengthMask.toNat < d.data.length ∨ d.data.length ≠ d.header.dataLength.toNat) ↔
      d.Fits := by
  unfold EthercatDatagram.Fits
  rw [not_or, not_not]
  constructor
  · rintro ⟨hfits, hlength⟩
    exact ⟨fun h => hfits (hlength ▸ UInt16.lt_iff_toNat_lt.mp h), hlength⟩
  · rintro ⟨hfits, hlength⟩
    exact ⟨fun h => hfits (UInt16.lt_iff_toNat_lt.mpr (hlength ▸ h)), hlength⟩

theorem encodeEthercatDatagram_eq_some {d : EthercatDatagram} {bytes : List UInt8} :
    encodeEthercatDatagram d = some bytes ↔ d.Fits ∧ ∃ headerBytes,
      encodeEthercatDatagramHeader d.header = some headerBytes ∧
        bytes = headerBytes ++ d.data ++ storeU16Le d.workingCounter := by
  unfold encodeEthercatDatagram
  by_cases hfits : d.Fits
  · rw [if_neg (fits_iff.mpr hfits), Option.map_eq_some_iff, and_iff_right hfits]
    exact exists_congr fun headerBytes => and_congr_right fun _ => eq_comm
  · rw [if_pos (not_not.mp (mt fits_iff.mp hfits))]
    exact iff_of_false (by simp) fun h => hfits h.1

theorem decode_encode_datagram {d : EthercatDatagram} {bytes : List UInt8}
    (h : encodeEthercatDatagram d = some bytes) :
    bytes.length = d.size ∧ decodeEthercatDatagram bytes = some d ∧
      ∀ rest, decodeEthercatDatagramHeader (bytes ++ rest) = some d.header := by
  obtain ⟨hfits, headerBytes, hheader, rfl⟩ := encodeEthercatDatagram_eq_some.mp h
  obtain ⟨hlength, -⟩ := decode_encode_header hheader []
  have hsize : (headerBytes ++ d.data ++ storeU16Le d.workingCounter).length = d.size := by
    simp only [List.length_append, hlength, length_storeU16Le, EthercatDatagram.size,
      ethercatWorkingCounterSize]
  have hread : ∀ rest, decodeEthercatDatagramHeader
      (headerBytes ++ d.data ++ storeU16Le d.workingCounter ++ rest) = some d.header := by
    intro rest
    rw [List.append_assoc, List.append_assoc]
    exact (decode_encode_header hheader _).2
  refine ⟨hsize, ?_, hread⟩
  have hself := hread []
  rw [List.append_nil] at hself
  have hshort : ¬ d.size < ethercatDatagramHeaderSize + ethercatWorkingCounterSize := by
    unfold EthercatDatagram.size
    omega
  have hexact : ¬ d.size ≠
      ethercatDatagramHeaderSize + d.header.dataLength.toNat + ethercatWorkingCounterSize := by
    rw [← hfits.2]
    exact not_not.mpr rfl
  have hdata : ((headerBytes ++ d.data ++ storeU16Le d.workingCounter).drop
      ethercatDatagramHeaderSize).take d.header.dataLength.toNat = d.data := by
    rw [List.append_assoc, ← hlength, List.drop_left, ← hfits.2, List.take_left]
  have hcounter : (headerBytes ++ d.data ++ storeU16Le d.workingCounter).drop
      (ethercatDatagramHeaderSize + d.header.dataLength.toNat) =
        storeU16Le d.workingCounter := by
    rw [← hlength, ← hfits.2, ← List.length_append, List.drop_left]
  unfold decodeEthercatDatagram
  rw [hsize, if_neg hshort, hself]
  dsimp only
  rw [if_neg hexact, hdata, hcounter, loadU16Le_storeU16Le]

/-- Encoding what the decoder has read clears the reserved bits. -/
theorem encode_decode_datagram {bytes : List UInt8} {d : EthercatDatagram}
    (h : decodeEthercatDatagram bytes = some d) :
    bytes.length = d.size ∧ d.Fits ∧ encodeEthercatDatagram d =
      some (List.zipWith (· &&& ·) bytes d.keptBits) := by
  unfold decodeEthercatDatagram at h
  split_ifs at h with hshort
  split at h
  · cases h
  · rename_i header hheader
    split_ifs at h with hexact
    obtain rfl := Option.some_inj.mp h
    have hlength := not_not.mp hexact
    have hdata : ((bytes.drop ethercatDatagramHeaderSize).take header.dataLength.toNat).length =
        header.dataLength.toNat := by
      rw [List.length_take, List.length_drop]
      omega
    have hencoded := encode_decode_header hheader
    have hfits := (encodeEthercatDatagramHeader_eq_some.mp hencoded).1
    refine ⟨?_, ⟨hfits, hdata⟩, ?_⟩
    · unfold EthercatDatagram.size
      dsimp only
      rw [hdata]
      exact hlength
    · refine encodeEthercatDatagram_eq_some.mpr ⟨⟨hfits, hdata⟩, _, hencoded, ?_⟩
      have hbytes := List.take_append_drop ethercatDatagramHeaderSize bytes
      have hbody := List.take_append_drop header.dataLength.toNat
        (bytes.drop ethercatDatagramHeaderSize)
      rw [List.drop_drop] at hbody
      have hcounter :
          (bytes.drop (ethercatDatagramHeaderSize + header.dataLength.toNat)).length = 2 := by
        rw [List.length_drop, hlength]
        unfold ethercatWorkingCounterSize
        omega
      have hheaderBits :
          (bytes.take ethercatDatagramHeaderSize).length = headerKeptBits.length := by
        rw [List.length_take, min_eq_left (by omega)]
        rfl
      have hbodyBits : (bytes.drop ethercatDatagramHeaderSize).length =
          header.dataLength.toNat + ethercatWorkingCounterSize := by
        rw [List.length_drop, hlength]
        omega
      unfold EthercatDatagram.keptBits
      dsimp only
      have hsplit : List.zipWith (· &&& ·) bytes (headerKeptBits ++
            List.replicate (bytes.drop ethercatDatagramHeaderSize).length 0xFF) =
          List.zipWith (· &&& ·) (bytes.take ethercatDatagramHeaderSize) headerKeptBits ++
            bytes.drop ethercatDatagramHeaderSize := by
        conv_lhs => rw [← hbytes, List.zipWith_append hheaderBits]
        rw [hbytes, zipWith_and_ones]
      rw [hdata, ← hbodyBits, storeU16Le_loadU16Le hcounter, List.append_assoc, hbody, hsplit]

/-! ## The chain of datagrams -/

/-- The decoder takes the datagram in front when its `more` flag says whether another one
follows. -/
theorem decodeDatagrams_append {d : EthercatDatagram} {bytes rest : List UInt8}
    (hencode : encodeEthercatDatagram d = some bytes) (hmore : d.header.more = !rest.isEmpty) :
    decodeDatagrams (bytes ++ rest) = (decodeDatagrams rest).map (d :: ·) := by
  obtain ⟨hlength, hdecode, hheader⟩ := decode_encode_datagram hencode
  have hsize : ethercatDatagramHeaderSize + d.header.dataLength.toNat +
      ethercatWorkingCounterSize = bytes.length := by
    rw [hlength, EthercatDatagram.size, (encodeEthercatDatagram_eq_some.mp hencode).1.2]
  obtain ⟨first, others, hcons⟩ : ∃ first others, bytes ++ rest = first :: others := by
    refine List.exists_cons_of_length_pos ?_
    rw [List.length_append, hlength]
    unfold EthercatDatagram.size ethercatDatagramHeaderSize
    omega
  have hlast : ¬ d.header.more = decide (bytes.length = (bytes ++ rest).length) := by
    rw [hmore, List.length_append]
    cases rest with
    | nil => simp
    | cons b rest => simp
  have hshort : ¬ (bytes ++ rest).length < bytes.length := by
    rw [List.length_append]
    omega
  rw [hcons, decodeDatagrams]
  dsimp only
  rw [← hcons, hheader]
  dsimp only
  rw [hsize, if_neg hshort, List.take_left, hdecode]
  dsimp only
  rw [if_neg hlast, List.drop_left]

/-- What one round of the decoder has taken. -/
theorem decodeDatagrams_cases {bytes : List UInt8} {ds : List EthercatDatagram}
    (h : decodeDatagrams bytes = some ds) :
    (bytes = [] ∧ ds = []) ∨ ∃ d front rest ds', bytes = front ++ rest ∧ ds = d :: ds' ∧
      decodeEthercatDatagram front = some d ∧ d.header.more = !rest.isEmpty ∧
        decodeDatagrams rest = some ds' := by
  rcases bytes with _ | ⟨first, others⟩
  · rw [decodeDatagrams, Option.some_inj] at h
    exact Or.inl ⟨rfl, h.symm⟩
  · rw [decodeDatagrams] at h
    dsimp only at h
    generalize first :: others = bytes at h
    split at h
    · cases h
    · rename_i header hheader
      split_ifs at h with hshort
      split at h
      · cases h
      · rename_i d hdecode
        split_ifs at h with hlast
        obtain ⟨ds', hrest, rfl⟩ := Option.map_eq_some_iff.mp h
        refine Or.inr ⟨d, _, _, ds', (List.take_append_drop _ bytes).symm, rfl, hdecode, ?_, hrest⟩
        -- the flag says whether the round has come to the end
        have hend : (bytes.drop (ethercatDatagramHeaderSize + header.dataLength.toNat +
              ethercatWorkingCounterSize)).isEmpty =
            decide (ethercatDatagramHeaderSize + header.dataLength.toNat +
              ethercatWorkingCounterSize = bytes.length) := by
          rw [Bool.eq_iff_iff, List.isEmpty_iff_length_eq_zero, List.length_drop,
            decide_eq_true_iff]
          omega
        rw [hend]
        exact Bool.eq_not.mpr hlast

theorem setMore_eq_nil {ds : List EthercatDatagram} : setMore ds = [] ↔ ds = [] := by
  cases ds with
  | nil => exact iff_of_true rfl rfl
  | cons d ds => exact iff_of_false (List.cons_ne_nil _ _) (List.cons_ne_nil _ _)

/-- The decoder reads back the chain that the encoder has written. -/
theorem decodeDatagrams_encode (ds : List EthercatDatagram) : ∀ {chunks : List (List UInt8)},
    (setMore ds).mapM encodeEthercatDatagram = some chunks →
      decodeDatagrams chunks.flatten = some (setMore ds) ∧
        (chunks.flatten.isEmpty = ds.isEmpty) := by
  induction ds with
  | nil =>
    intro chunks h
    obtain rfl := Option.some_inj.mp h
    exact ⟨decodeDatagrams.eq_1, rfl⟩
  | cons d ds ih =>
    intro chunks h
    rw [setMore, List.mapM_cons] at h
    obtain ⟨bytes, hencode, h⟩ := Option.bind_eq_some_iff.mp h
    obtain ⟨chunks', hmap, h⟩ := Option.bind_eq_some_iff.mp h
    obtain rfl := Option.some_inj.mp h
    obtain ⟨hrest, hempty⟩ := ih hmap
    have hpos : bytes ≠ [] := by
      rintro rfl
      cases (decode_encode_datagram hencode).1
    rw [List.flatten_cons, setMore]
    constructor
    · rw [decodeDatagrams_append hencode (by rw [hempty]), hrest]
      rfl
    · rw [List.isEmpty_eq_false_iff.mpr (List.append_ne_nil_of_left_ne_nil hpos _)]
      rfl

theorem decodeDatagrams_isEmpty {bytes : List UInt8} {ds : List EthercatDatagram}
    (h : decodeDatagrams bytes = some ds) : ds.isEmpty = bytes.isEmpty := by
  rcases decodeDatagrams_cases h with ⟨rfl, rfl⟩ | ⟨d, front, rest, ds', rfl, rfl, hdecode, -⟩
  · rfl
  · have hpos : front ≠ [] := by
      rintro rfl
      cases (encode_decode_datagram hdecode).1
    rw [List.isEmpty_eq_false_iff.mpr (List.append_ne_nil_of_left_ne_nil hpos _)]
    rfl

theorem length_keptBits (d : EthercatDatagram) : d.keptBits.length = d.size := by
  have hheader : headerKeptBits.length = ethercatDatagramHeaderSize := rfl
  unfold EthercatDatagram.keptBits EthercatDatagram.size
  rw [List.length_append, List.length_replicate, hheader, Nat.add_assoc]

/-- Encoding the chain that the decoder has read clears the reserved bits. -/
theorem encode_decodeDatagrams (ds : List EthercatDatagram) : ∀ {bytes : List UInt8},
    decodeDatagrams bytes = some ds → setMore ds = ds ∧ (∀ d ∈ ds, d.Fits) ∧
      bytes.length = (ds.map EthercatDatagram.size).sum ∧ ∃ chunks,
        ds.mapM encodeEthercatDatagram = some chunks ∧ chunks.flatten =
          List.zipWith (· &&& ·) bytes (ds.flatMap EthercatDatagram.keptBits) := by
  induction ds with
  | nil =>
    intro bytes h
    rcases decodeDatagrams_cases h with ⟨rfl, -⟩ | ⟨_, _, _, _, -, hcons, -⟩
    · exact ⟨rfl, List.forall_mem_nil _, rfl, [], rfl, rfl⟩
    · cases hcons
  | cons d ds ih =>
    intro bytes h
    rcases decodeDatagrams_cases h with
      ⟨-, hcons⟩ | ⟨d', front, rest, ds', rfl, hcons, hdecode, hmore, hrest⟩
    · cases hcons
    obtain ⟨rfl, rfl⟩ := List.cons.inj hcons
    obtain ⟨hset, hfits, hlength, chunks, hchunks, hflatten⟩ := ih hrest
    obtain ⟨hfront, hfit, hencode⟩ := encode_decode_datagram hdecode
    have hlast : d.header.more = !ds.isEmpty := by rw [hmore, decodeDatagrams_isEmpty hrest]
    refine ⟨?_, List.forall_mem_cons.mpr ⟨hfit, hfits⟩, ?_,
      List.zipWith (· &&& ·) front d.keptBits :: chunks, ?_, ?_⟩
    · rw [setMore, hset, ← hlast]
    · rw [List.length_append, hfront, hlength, List.map_cons, List.sum_cons]
    · rw [List.mapM_cons, hencode, hchunks]
      rfl
    · rw [List.flatten_cons, List.flatMap_cons, hflatten,
        List.zipWith_append (hfront.trans (length_keptBits d).symm)]

/-! ## Frames -/

/-- The first loop of the encoder adds up the sizes of datagrams that fit. -/
theorem foldlM_addPayload {ds : List EthercatDatagram} : ∀ {n size : ℕ},
    ds.foldlM addPayload n = some size →
      (∀ d ∈ ds, d.Fits) ∧ size = n + (ds.map EthercatDatagram.size).sum := by
  induction ds with
  | nil =>
    intro n size h
    exact ⟨List.forall_mem_nil _, (Option.some_inj.mp h).symm⟩
  | cons d ds ih =>
    intro n size h
    rw [List.foldlM_cons] at h
    obtain ⟨m, hadd, hrest⟩ := Option.bind_eq_some_iff.mp h
    unfold addPayload at hadd
    split_ifs at hadd with hfit hroom
    obtain rfl := Option.some_inj.mp hadd
    obtain ⟨hfits, rfl⟩ := ih hrest
    refine ⟨List.forall_mem_cons.mpr ⟨fits_iff.mp hfit, hfits⟩, ?_⟩
    rw [List.map_cons, List.sum_cons, Nat.add_assoc]

/-- Datagrams that fit are added up when the sum is no longer than a length field can say. -/
theorem foldlM_addPayload_of_fits {ds : List EthercatDatagram} : ∀ {n : ℕ},
    (∀ d ∈ ds, d.Fits) → n + (ds.map EthercatDatagram.size).sum ≤ ethercatLengthMask.toNat →
      ds.foldlM addPayload n = some (n + (ds.map EthercatDatagram.size).sum) := by
  induction ds with
  | nil => exact fun _ _ => rfl
  | cons d ds ih =>
    intro n hfits hsum
    rw [List.map_cons, List.sum_cons] at hsum ⊢
    have hfit := fits_iff.mpr (hfits d (List.mem_cons_self ..))
    have hmask : ethercatLengthMask.toNat = 2047 := rfl
    have hroom : ¬ maxSize - ethercatDatagramHeaderSize - d.data.length -
        ethercatWorkingCounterSize < n := by
      unfold EthercatDatagram.size at hsum
      unfold maxSize
      omega
    have hadd : addPayload n d = some (n + d.size) := by
      unfold addPayload
      rw [if_neg hfit, if_neg hroom]
    rw [List.foldlM_cons, hadd]
    rw [← Nat.add_assoc] at hsum ⊢
    exact ih (fun d' hd' => hfits d' (List.mem_cons_of_mem _ hd')) hsum

/-- The word of a frame header. -/
theorem encodeEthercatFrameHeader_eq {v : UInt16} (h : ¬ ethercatLengthMask < v) :
    encodeEthercatFrameHeader ⟨v, ethercatFrameType⟩ = some (storeU16Le (v ||| 0x1000)) := by
  have htype : ¬ (ethercatLengthMask < v ∨ 0x0F < ethercatFrameType) :=
    not_or.mpr ⟨h, by decide⟩
  unfold encodeEthercatFrameHeader
  rw [if_neg htype]
  rfl

theorem or_type_shiftRight {v : UInt16} (h : ¬ ethercatLengthMask < v) :
    (v ||| 0x1000) >>> 12 = 1 := by
  have hv : v.toNat < 2 ^ 11 := Nat.lt_succ_of_le (UInt16.not_lt.mp h)
  have hzero : v >>> 12 = 0 := by
    rw [← UInt16.toNat_inj, UInt16.toNat_shiftRight]
    exact (Nat.shiftRight_eq_div_pow _ _).trans (Nat.div_eq_of_lt (hv.trans (by decide)))
  have hone : (0x1000 : UInt16) >>> 12 = 1 := by decide
  rw [UInt16.shiftRight_or, hzero, hone, UInt16.zero_or]

theorem decode_encode_frameHeader {v : UInt16} (h : ¬ ethercatLengthMask < v) (rest : List UInt8) :
    decodeEthercatFrameHeader (storeU16Le (v ||| 0x1000) ++ rest) =
      some ⟨v, ethercatFrameType⟩ := by
  have hlong : ¬ (storeU16Le (v ||| 0x1000) ++ rest).length < ethercatFrameHeaderSize := by
    rw [List.length_append, length_storeU16Le]
    unfold ethercatFrameHeaderSize
    omega
  have hmask : (0x1000 : UInt16) &&& ethercatLengthMask = 0 := by decide
  have hone : ((1 : UInt16) &&& 0x0F).toUInt8 = ethercatFrameType := by decide
  unfold decodeEthercatFrameHeader
  rw [if_neg hlong, loadU16Le_append (length_storeU16Le _), loadU16Le_storeU16Le]
  dsimp only
  rw [or_and, and_lengthMask h, hmask, UInt16.or_zero, or_type_shiftRight h, hone, if_pos rfl]

/-- The high bits of a word with the frame type. -/
theorem and_typeBits {wire : UInt16} (h : ((wire >>> 12) &&& 0x0F).toUInt8 = ethercatFrameType) :
    wire &&& 0xF000 = 0x1000 := by
  have hhigh : (wire >>> 12).toNat < 2 ^ 4 := by
    have hwire := wire.toNat_lt
    rw [UInt16.toNat_shiftRight, Nat.shiftRight_eq_div_pow]
    exact Nat.div_lt_of_lt_mul hwire
  have hone : wire >>> 12 = 1 := by
    have hnat := congrArg UInt8.toNat h
    have hmask : (wire >>> 12).toNat &&& 15 = (wire >>> 12).toNat :=
      Nat.and_two_pow_sub_one_of_lt_two_pow hhigh
    rw [UInt16.toNat_toUInt8, UInt16.toNat_and] at hnat
    rw [← UInt16.toNat_inj]
    calc (wire >>> 12).toNat = ((wire >>> 12).toNat &&& 15) % 256 := by
          rw [hmask, Nat.mod_eq_of_lt (hhigh.trans (by decide))]
      _ = 1 := hnat
  have hshift : wire >>> 12 <<< 12 = wire &&& 0xF000 := by
    rw [← UInt16.toBitVec_inj]
    exact BitVec.shiftLeft_ushiftRight
  rw [← hshift, hone]
  decide

/-- Encoding the frame header that the decoder has read clears its reserved bit. -/
theorem encode_decode_frameHeader {bytes : List UInt8} {header : EthercatFrameHeader}
    (h : decodeEthercatFrameHeader bytes = some header) :
    ¬ ethercatLengthMask < header.payloadLength ∧ header.type = ethercatFrameType ∧
      storeU16Le (header.payloadLength ||| 0x1000) = List.zipWith (· &&& ·)
        (bytes.take ethercatFrameHeaderSize) (storeU16Le (~~~reservedHeaderBits)) := by
  unfold decodeEthercatFrameHeader at h
  split_ifs at h with hlong
  dsimp only at h
  split_ifs at h with htype
  obtain rfl := Option.some_inj.mp h
  refine ⟨not_lengthMask_lt_and _, htype, ?_⟩
  have htake : (bytes.take ethercatFrameHeaderSize).length = 2 := by
    rw [List.length_take]
    exact min_eq_left (not_lt.mp hlong)
  have hwire : loadU16Le bytes = loadU16Le (bytes.take ethercatFrameHeaderSize) := by
    conv_lhs => rw [← List.take_append_drop ethercatFrameHeaderSize bytes]
    exact loadU16Le_append htake _
  have hmask : ethercatLengthMask ||| 0xF000 = ~~~reservedHeaderBits := by decide
  dsimp only
  rw [← and_typeBits htype, and_or_and, hmask, storeU16Le_and, hwire, storeU16Le_loadU16Le htake]

/-- The bits of a frame that have a meaning: all but the reserved ones. -/
def EthercatFrame.keptBits (frame : EthercatFrame) : List UInt8 :=
  storeU16Le (~~~reservedHeaderBits) ++ frame.datagrams.flatMap EthercatDatagram.keptBits

/-- The bytes that the datagrams of a frame take. -/
def EthercatFrame.payloadSize (frame : EthercatFrame) : ℕ :=
  (frame.datagrams.map EthercatDatagram.size).sum

theorem setMore_sizes (ds : List EthercatDatagram) :
    (setMore ds).map EthercatDatagram.size = ds.map EthercatDatagram.size := by
  induction ds with
  | nil => rfl
  | cons d ds ih =>
    rw [setMore, List.map_cons, List.map_cons, ih]
    rfl

theorem length_of_mapM_encode {ds : List EthercatDatagram} : ∀ {chunks : List (List UInt8)},
    ds.mapM encodeEthercatDatagram = some chunks →
      chunks.flatten.length = (ds.map EthercatDatagram.size).sum := by
  induction ds with
  | nil =>
    intro chunks h
    obtain rfl := Option.some_inj.mp h
    rfl
  | cons d ds ih =>
    intro chunks h
    rw [List.mapM_cons] at h
    obtain ⟨bytes, hencode, h⟩ := Option.bind_eq_some_iff.mp h
    obtain ⟨chunks', hmap, h⟩ := Option.bind_eq_some_iff.mp h
    obtain rfl := Option.some_inj.mp h
    rw [List.flatten_cons, List.length_append, (decode_encode_datagram hencode).1, ih hmap,
      List.map_cons, List.sum_cons]

theorem ofNat_payload {n : ℕ} (h : ¬ ethercatLengthMask.toNat < n) :
    (UInt16.ofNat n).toNat = n ∧ ¬ ethercatLengthMask < UInt16.ofNat n := by
  have hsize : n < UInt16.size := (not_lt.mp h).trans_lt (by decide)
  have hn : (UInt16.ofNat n).toNat = n := UInt16.toNat_ofNat_of_lt' hsize
  exact ⟨hn, fun hlt => h (hn ▸ UInt16.lt_iff_toNat_lt.mp hlt)⟩

/-- The decoder undoes the encoder. -/
theorem decode_encode_frame {frame : EthercatFrame} {bytes : List UInt8}
    (h : encodeEthercatFrame frame = some bytes) :
    decodeEthercatFrame bytes = some frame.canonical := by
  unfold encodeEthercatFrame at h
  split_ifs at h with hempty
  obtain ⟨size, hsize, h⟩ := Option.bind_eq_some_iff.mp h
  split_ifs at h with hfits
  obtain ⟨hword, hmask⟩ := ofNat_payload hfits
  rw [encodeEthercatFrameHeader_eq hmask] at h
  obtain ⟨headerBytes, hheader, h⟩ := Option.bind_eq_some_iff.mp h
  obtain ⟨chunks, hchunks, h⟩ := Option.bind_eq_some_iff.mp h
  obtain rfl := Option.some_inj.mp hheader
  obtain rfl := Option.some_inj.mp h
  have hpayload : chunks.flatten.length = size := by
    rw [length_of_mapM_encode hchunks, EthercatFrame.canonical, setMore_sizes,
      (foldlM_addPayload hsize).2, Nat.zero_add]
  have hlength : (storeU16Le (UInt16.ofNat size ||| 0x1000) ++ chunks.flatten).length =
      ethercatFrameHeaderSize + size := by
    rw [List.length_append, length_storeU16Le, hpayload]
    rfl
  have hdrop : (storeU16Le (UInt16.ofNat size ||| 0x1000) ++ chunks.flatten).drop
      ethercatFrameHeaderSize = chunks.flatten :=
    List.drop_left' (length_storeU16Le _)
  unfold decodeEthercatFrame
  rw [hlength, if_neg (by omega), decode_encode_frameHeader hmask, hdrop,
    (decodeDatagrams_encode frame.datagrams hchunks).1]
  dsimp only
  rw [hword, if_neg (not_not.mpr rfl), if_neg (mt setMore_eq_nil.mp hempty)]
  rfl

/-- What the decoder accepts is one chain of datagrams, which takes exactly the declared length. -/
structure EthercatFrame.Consumes (frame : EthercatFrame) (bytes : List UInt8) : Prop where
  declared : ∃ header, decodeEthercatFrameHeader bytes = some header ∧
    header.payloadLength.toNat = frame.payloadSize
  length : bytes.length = ethercatFrameHeaderSize + frame.payloadSize

/-- The encoder undoes the decoder, up to the reserved bits. -/
theorem encode_decode_frame {bytes : List UInt8} {frame : EthercatFrame}
    (h : decodeEthercatFrame bytes = some frame) :
    frame.Consumes bytes ∧ frame.canonical = frame ∧
      encodeEthercatFrame frame = some (List.zipWith (· &&& ·) bytes frame.keptBits) := by
  unfold decodeEthercatFrame at h
  split_ifs at h with hshort
  split at h
  · cases h
  · rename_i header hheader
    split_ifs at h with hlength
    split at h
    · cases h
    · rename_i ds hchain
      split_ifs at h with hempty
      obtain rfl := Option.some_inj.mp h
      obtain ⟨hset, hfits, hsum, chunks, hchunks, hflatten⟩ := encode_decodeDatagrams ds hchain
      obtain ⟨hmask, -, hbits⟩ := encode_decode_frameHeader hheader
      have hdrop : (bytes.drop ethercatFrameHeaderSize).length = header.payloadLength.toNat := by
        rw [List.length_drop]
        omega
      have hpayload : (ds.map EthercatDatagram.size).sum = header.payloadLength.toNat :=
        hsum.symm.trans hdrop
      refine ⟨⟨⟨header, hheader, hpayload.symm⟩, ?_⟩, congrArg EthercatFrame.mk hset, ?_⟩
      · rw [EthercatFrame.payloadSize, hpayload]
        exact not_not.mp hlength
      · have hle : (ds.map EthercatDatagram.size).sum ≤ ethercatLengthMask.toNat := by
          rw [hpayload]
          exact UInt16.le_iff_toNat_le.mp (UInt16.not_lt.mp hmask)
        have hadd := foldlM_addPayload_of_fits hfits ((Nat.zero_add _).trans_le hle)
        have hword : UInt16.ofNat (0 + (ds.map EthercatDatagram.size).sum) =
            header.payloadLength := by
          rw [Nat.zero_add, hpayload, UInt16.ofNat_toNat]
        have hsplit : (bytes.take ethercatFrameHeaderSize).length =
            (storeU16Le (~~~reservedHeaderBits)).length := by
          rw [List.length_take, length_storeU16Le]
          exact min_eq_left (not_lt.mp hshort)
        unfold encodeEthercatFrame EthercatFrame.keptBits EthercatFrame.canonical
        dsimp only
        rw [if_neg hempty, hadd, hset, hchunks, Option.bind_eq_bind, Option.bind_some, hword,
          if_neg (by omega), encodeEthercatFrameHeader_eq hmask]
        rw [Option.bind_eq_bind, Option.bind_some, Option.bind_eq_bind, Option.bind_some, hbits,
          hflatten, ← List.zipWith_append hsplit, List.take_append_drop]

/-- The decoder undoes the encoder, and the encoder undoes the decoder up to the reserved bits,
which it clears.  The decoder accepts exactly one chain of datagrams of the declared length. -/
theorem ethercat_frame_round_trip :
    (∀ frame bytes, encodeEthercatFrame frame = some bytes →
      decodeEthercatFrame bytes = some frame.canonical) ∧
    ∀ bytes frame, decodeEthercatFrame bytes = some frame →
      encodeEthercatFrame frame = some (List.zipWith (· &&& ·) bytes frame.keptBits) ∧
        frame.keptBits.length = bytes.length ∧ frame.Consumes bytes := by
  refine ⟨fun frame bytes h => decode_encode_frame h, fun bytes frame h => ?_⟩
  obtain ⟨hconsumes, -, hencode⟩ := encode_decode_frame h
  refine ⟨hencode, ?_, hconsumes⟩
  have hkept : (frame.datagrams.flatMap EthercatDatagram.keptBits).length = frame.payloadSize := by
    rw [List.length_flatMap]
    exact congrArg List.sum (List.map_congr_left fun d _ => length_keptBits d)
  rw [hconsumes.length, EthercatFrame.keptBits, List.length_append, length_storeU16Le, hkept]
  rfl

/-- A broadcast read, and a logical write with two bytes of data. -/
def twoDatagrams : EthercatFrame where
  datagrams :=
    [⟨⟨.brd, 1, 0x00000130, 0, 0, false⟩, [], 0⟩, ⟨⟨.lwr, 2, 0x11223344, 2, 4, true⟩, [5, 6], 3⟩]

theorem ethercat_frame_round_trip_twoDatagrams :
    ∃ bytes, encodeEthercatFrame twoDatagrams = some bytes ∧ bytes.length = 28 ∧
      decodeEthercatFrame bytes = some twoDatagrams.canonical ∧
        ∃ bits, encodeEthercatFrame twoDatagrams.canonical =
          some (List.zipWith (· &&& ·) bytes bits) := by
  obtain ⟨bytes, hbytes⟩ : ∃ bytes, encodeEthercatFrame twoDatagrams = some bytes :=
    Option.isSome_iff_exists.mp (by decide)
  have hlength : (encodeEthercatFrame twoDatagrams).map List.length = some 28 := by decide
  rw [hbytes] at hlength
  have hdecode := ethercat_frame_round_trip.1 twoDatagrams bytes hbytes
  exact ⟨bytes, hbytes, Option.some_inj.mp hlength, hdecode, _,
    (ethercat_frame_round_trip.2 bytes _ hdecode).1⟩

end Hardware

end JointController
