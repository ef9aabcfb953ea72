import JointController.Library.LittleEndian

/-!
# EtherCAT frames

The codec of `ethercat_frame.cpp`: the payload of an Ethernet frame, which is a frame header and a
chain of datagrams.

* `EthercatDatagram`, `EthercatFrame`, with the headers.
* `encodeEthercatFrame`: the bytes of a frame, when the encoder accepts it.
* `decodeEthercatFrame`: the frame of some bytes, when the decoder accepts them.
* `EthercatFrame.canonical`: the `more` flags that the encoder writes.
* `EthercatFrame.keptBits`: the bits that a frame gives a meaning to.
-/

namespace JointController

namespace Hardware

/-! ## Frames -/

/-- `EthercatCommand`. -/
inductive EthercatCommand where
  | nop | aprd | apwr | aprw | fprd | fpwr | fprw | brd | bwr | brw | lrd | lwr | lrw | armw | frmw
  deriving DecidableEq

/-- The byte of a command. -/
def EthercatCommand.toByte : EthercatCommand → UInt8
  | .nop => 0x00 | .aprd => 0x01 | .apwr => 0x02 | .aprw => 0x03 | .fprd => 0x04 | .fpwr => 0x05
  | .fprw => 0x06 | .brd => 0x07 | .bwr => 0x08 | .brw => 0x09 | .lrd => 0x0A | .lwr => 0x0B
  | .lrw => 0x0C | .armw => 0x0D | .frmw => 0x0E

/-- The command of a byte that `validCommand` accepts. -/
def EthercatCommand.ofByte (value : UInt8) : EthercatCommand :=
  [.nop, .aprd, .apwr, .aprw, .fprd, .fpwr, .fprw, .brd, .bwr, .brw, .lrd, .lwr, .lrw, .armw,
    .frmw].getD value.toNat .nop

/-- `valid_command`. -/
def validCommand (value : UInt8) : Bool := value ≤ EthercatCommand.frmw.toByte

/-- `EthercatFrameHeader`. -/
structure EthercatFrameHeader where
  payloadLength : UInt16
  type : UInt8
  deriving DecidableEq

/-- `EthercatDatagramHeader`. -/
structure EthercatDatagramHeader where
  command : EthercatCommand
  index : UInt8
  address : UInt32
  dataLength : UInt16
  interrupt : UInt16
  more : Bool
  deriving DecidableEq

/-- `EthercatDatagram`. -/
structure EthercatDatagram where
  header : EthercatDatagramHeader
  data : List UInt8
  workingCounter : UInt16
  deriving DecidableEq

/-- `EthercatFrame`. -/
structure EthercatFrame where
  datagrams : List EthercatDatagram
  deriving DecidableEq

/-- `kEthercatFrameType`. -/
def ethercatFrameType : UInt8 := 0x1

/-- `kEthercatFrameHeaderSize`. -/
def ethercatFrameHeaderSize : ℕ := 2

/-- `kEthercatDatagramHeaderSize`. -/
def ethercatDatagramHeaderSize : ℕ := 10

/-- `kEthercatWorkingCounterSize`. -/
def ethercatWorkingCounterSize : ℕ := 2

/-- `kEthercatLengthMask`. -/
def ethercatLengthMask : UInt16 := 0x07FF

/-- `kEthercatDatagramMoreFlag`. -/
def ethercatDatagramMoreFlag : UInt16 := 0x8000

/-- The largest `size_t`. -/
def maxSize : ℕ := 2 ^ 64 - 1

/-- The bytes that a datagram takes. -/
def EthercatDatagram.size (d : EthercatDatagram) : ℕ :=
  ethercatDatagramHeaderSize + d.data.length + ethercatWorkingCounterSize

/-! ## Words -/

/-- `store_u16_le`. -/
def storeU16Le (value : UInt16) : List UInt8 := LittleEndian.store 2 value.toNat

/-- `store_u32_le`. -/
def storeU32Le (value : UInt32) : List UInt8 := LittleEndian.store 4 value.toNat

/-- `load_u16_le`, from the first bytes of a source. -/
def loadU16Le (source : List UInt8) : UInt16 := .ofNat (LittleEndian.load 2 source)

/-- `load_u32_le`, from the first bytes of a source. -/
def loadU32Le (source : List UInt8) : UInt32 := .ofNat (LittleEndian.load 4 source)

/-! ## The encoder -/

/-- `encode_ethercat_frame_header`. -/
def encodeEthercatFrameHeader (header : EthercatFrameHeader) : Option (List UInt8) :=
  if ethercatLengthMask < header.payloadLength ∨ 0x0F < header.type then none
  else some (storeU16Le (header.payloadLength ||| (header.type.toUInt16 <<< 12)))

/-- `encode_ethercat_datagram_header`. -/
def encodeEthercatDatagramHeader (header : EthercatDatagramHeader) : Option (List UInt8) :=
  if ethercatLengthMask < header.dataLength then none
  else
    let length :=
      if header.more then header.dataLength ||| ethercatDatagramMoreFlag else header.dataLength
    some (header.command.toByte :: header.index ::
      (storeU32Le header.address ++ storeU16Le length ++ storeU16Le header.interrupt))

/-- `encode_ethercat_datagram`. -/
def encodeEthercatDatagram (datagram : EthercatDatagram) : Option (List UInt8) :=
  if ethercatLengthMask.toNat < datagram.data.length ∨
      datagram.data.length ≠ datagram.header.dataLength.toNat then none
  else (encodeEthercatDatagramHeader datagram.header).map fun headerBytes =>
    headerBytes ++ datagram.data ++ storeU16Le datagram.workingCounter

/-- One round of the loop of `encode_ethercat_frame` that sums up the payload. -/
def addPayload (payloadSize : ℕ) (datagram : EthercatDatagram) : Option ℕ :=
  if ethercatLengthMask.toNat < datagram.data.length ∨
      datagram.data.length ≠ datagram.header.dataLength.toNat then none
  else if maxSize - ethercatDatagramHeaderSize - datagram.data.length -
      ethercatWorkingCounterSize < payloadSize then none
  else some (payloadSize + datagram.size)

/-- The second loop of `encode_ethercat_frame` sets the `more` flag of every datagram but the
last. -/
def setMore : List EthercatDatagram → List EthercatDatagram
  | [] => []
  | d :: rest => { d with header.more := !rest.isEmpty } :: setMore rest

/-- The frame with the `more` flags that the encoder writes. -/
def EthercatFrame.canonical (frame : EthercatFrame) : EthercatFrame := ⟨setMore frame.datagrams⟩

/-- `encode_ethercat_frame`. -/
def encodeEthercatFrame (frame : EthercatFrame) : Option (List UInt8) :=
  if frame.datagrams = [] then none
  else do
    let payloadSize ← frame.datagrams.foldlM addPayload 0
    if ethercatLengthMask.toNat < payloadSize then none
    else
      let headerBytes ← encodeEthercatFrameHeader ⟨.ofNat payloadSize, ethercatFrameType⟩
      let datagramBytes ← frame.canonical.datagrams.mapM encodeEthercatDatagram
      some (headerBytes ++ datagramBytes.flatten)

/-! ## The decoder -/

/-- `decode_ethercat_frame_header`. -/
def decodeEthercatFrameHeader (bytes : List UInt8) : Option EthercatFrameHeader :=
  if bytes.length < ethercatFrameHeaderSize then none
  else
    let wire := loadU16Le bytes
    let header : EthercatFrameHeader :=
      ⟨wire &&& ethercatLengthMask, ((wire >>> 12) &&& 0x0F).toUInt8⟩
    if header.type = ethercatFrameType then some header else none

/-- `decode_ethercat_datagram_header`. -/
def decodeEthercatDatagramHeader (bytes : List UInt8) : Option EthercatDatagramHeader :=
  if bytes.length < ethercatDatagramHeaderSize ∨ ¬ validCommand (bytes.getD 0 0) then none
  else
    let length := loadU16Le (bytes.drop 6)
    some
      { command := .ofByte (bytes.getD 0 0)
        index := bytes.getD 1 0
        address := loadU32Le (bytes.drop 2)
        dataLength := length &&& ethercatLengthMask
        interrupt := loadU16Le (bytes.drop 8)
        more := length &&& ethercatDatagramMoreFlag ≠ 0 }

/-- `decode_ethercat_datagram`. -/
def decodeEthercatDatagram (bytes : List UInt8) : Option EthercatDatagram :=
  if bytes.length < ethercatDatagramHeaderSize + ethercatWorkingCounterSize then none
  else
    match decodeEthercatDatagramHeader bytes with
    | none => none
    | some header =>
      if bytes.length ≠
          ethercatDatagramHeaderSize + header.dataLength.toNat +
            ethercatWorkingCounterSize then none
      else some
        { header := header
          data := (bytes.drop ethercatDatagramHeaderSize).take header.dataLength.toNat
          workingCounter :=
            loadU16Le (bytes.drop (ethercatDatagramHeaderSize + header.dataLength.toNat)) }

/-- The loop of `decode_ethercat_frame`, from the offset where the bytes begin.  Each round takes a
datagram, and no datagram is empty. -/
def decodeDatagrams : List UInt8 → Option (List EthercatDatagram)
  | [] => some []
  | first :: others =>
    let bytes := first :: others
    match decodeEthercatDatagramHeader bytes with
    | none => none
    | some header =>
      let datagramSize :=
        ethercatDatagramHeaderSize + header.dataLength.toNat + ethercatWorkingCounterSize
      if bytes.length < datagramSize then none
      else
        match decodeEthercatDatagram (bytes.take datagramSize) with
        | none => none
        | some datagram =>
          let isLast : Bool := datagramSize = bytes.length
          if datagram.header.more = isLast then none
          else (decodeDatagrams (bytes.drop datagramSize)).map (datagram :: ·)
termination_by bytes => bytes.length
decreasing_by
  simp only [List.length_drop, List.length_cons]
  unfold ethercatDatagramHeaderSize
  omega

/-- `decode_ethercat_frame`. -/
def decodeEthercatFrame (bytes : List UInt8) : Option EthercatFrame :=
  if bytes.length < ethercatFrameHeaderSize then none
  else
    match decodeEthercatFrameHeader bytes with
    | none => none
    | some header =>
      if bytes.length ≠ ethercatFrameHeaderSize + header.payloadLength.toNat then none
      else
        match decodeDatagrams (bytes.drop ethercatFrameHeaderSize) with
        | none => none
        | some datagrams => if datagrams = [] then none else some ⟨datagrams⟩

end Hardware

end JointController
