import JointController.Hardware.EthercatRoundTrip

/-!
# The CoE mailbox codec

The codec of `ethercat_coe.cpp`: a mailbox with its six-byte header, and in its payload the
expedited transfers of service data objects.

* `EthercatMailbox`, `encodeEthercatMailbox`, `decodeEthercatMailbox`: the mailbox.
* `encodeCoeSdoUploadRequest`, `encodeCoeSdoDownloadRequest`: the requests.
* `decodeCoeSdoResponse`, `decodeCoeSdoDownloadAck`: the responses.
* `mailbox_decode_encode`, `mailbox_encode_decode`: the round trips of the mailbox.
* `coe_codec_round_trip`: what the requests carry, and what an accepted response consists of.
-/

namespace JointController

namespace Hardware

/-! ## The mailbox -/

/-- `kEthercatMailboxTypeCoe`. -/
def ethercatMailboxTypeCoe : UInt8 := 0x03

/-- `kCoeServiceSdoRequest`. -/
def coeServiceSdoRequest : UInt8 := 0x02

/-- `kCoeServiceSdoResponse`. -/
def coeServiceSdoResponse : UInt8 := 0x03

/-- `EthercatMailbox`.  The high bits of `type` are those of the counter of the mailbox. -/
structure EthercatMailbox where
  address : UInt16 := 0
  channel : UInt8 := 0
  priority : UInt8 := 0
  type : UInt8 := ethercatMailboxTypeCoe
  payload : List UInt8 := []
  deriving DecidableEq

/-- `encode_ethercat_mailbox`. -/
def encodeEthercatMailbox (mailbox : EthercatMailbox) : Option (List UInt8) :=
  if 0xFFFF < mailbox.payload.length ∨ 0x3F < mailbox.channel ∨ 0x03 < mailbox.priority ∨
      mailbox.type &&& 0xF0 ≠ 0 then none
  else some (storeU16Le (.ofNat mailbox.payload.length) ++ (storeU16Le mailbox.address ++
    ((mailbox.channel ||| (mailbox.priority <<< 6)) :: mailbox.type :: mailbox.payload)))

/-- `decode_ethercat_mailbox`.  A null pointer has no bytes. -/
def decodeEthercatMailbox (bytes : List UInt8) : Except String EthercatMailbox :=
  if bytes.length < 6 then .error "EtherCAT mailbox is shorter than its six-byte header"
  else if bytes.length ≠ 6 + (loadU16Le bytes).toNat then
    .error "EtherCAT mailbox length field does not match the received bytes"
  else .ok
    { address := loadU16Le (bytes.drop 2)
      channel := bytes.getD 4 0 &&& 0x3F
      priority := (bytes.getD 4 0 >>> 6) &&& 0x03
      type := bytes.getD 5 0 &&& 0x0F
      payload := bytes.drop 6 }

/-! ## Service data objects -/

/-- `CoeSdoResponse`. -/
structure CoeSdoResponse where
  index : UInt16 := 0
  subindex : UInt8 := 0
  upload : Bool := false
  abort : Bool := false
  abortCode : UInt32 := 0
  data : List UInt8 := []
  deriving DecidableEq

/-- `is_coe_mailbox`. -/
def isCoeMailbox (mailbox : EthercatMailbox) : Bool :=
  mailbox.type &&& 0x0F = ethercatMailboxTypeCoe

/-- `decode_sdo_service`. -/
def decodeSdoService (mailbox : EthercatMailbox) (expected : UInt8) : Except String Unit :=
  if ¬ isCoeMailbox mailbox ∨ mailbox.payload.length < 2 then
    .error "mailbox is not a complete CoE payload"
  else if ((loadU16Le mailbox.payload >>> 12) &&& 0x0F).toUInt8 ≠ expected then
    .error "unexpected CoE service type"
  else .ok ()

/-- `expedited_download_command`. -/
def expeditedDownloadCommand (size : ℕ) : UInt8 :=
  match size with
  | 1 => 0x2F
  | 2 => 0x2B
  | 3 => 0x27
  | 4 => 0x23
  | _ => 0

/-- The header of a request: the service, a command and the object. -/
def sdoRequestHeader (command : UInt8) (index : UInt16) (subindex : UInt8) : List UInt8 :=
  [0x00, coeServiceSdoRequest <<< 4, command, (index &&& 0xFF).toUInt8,
    ((index >>> 8) &&& 0xFF).toUInt8, subindex]

/-- `encode_coe_sdo_upload_request`. -/
def encodeCoeSdoUploadRequest (index : UInt16) (subindex : UInt8) : Option (List UInt8) :=
  encodeEthercatMailbox { payload := sdoRequestHeader 0x40 index subindex }

/-- `encode_coe_sdo_download_request`. -/
def encodeCoeSdoDownloadRequest (index : UInt16) (subindex : UInt8) (data : List UInt8) :
    Option (List UInt8) :=
  let command := expeditedDownloadCommand data.length
  if command = 0 then none
  else encodeEthercatMailbox
    { payload := (sdoRequestHeader command index subindex ++ data).rightpad 10 0 }

/-- The command of a service data object. -/
def EthercatMailbox.command (mailbox : EthercatMailbox) : UInt8 := mailbox.payload.getD 2 0

/-- The index of a service data object. -/
def EthercatMailbox.index (mailbox : EthercatMailbox) : UInt16 :=
  loadU16Le (mailbox.payload.drop 3)

/-- The subindex of a service data object. -/
def EthercatMailbox.subindex (mailbox : EthercatMailbox) : UInt8 := mailbox.payload.getD 5 0

/-- The number of data bytes that the size bits of an expedited command leave. -/
def expeditedSize (command : UInt8) : ℕ := 4 - ((command >>> 2) &&& 0x03).toNat

/-- `decode_coe_sdo_response`: whether the bytes are accepted, the response and the error. -/
def decodeCoeSdoResponse (bytes : List UInt8) (response : CoeSdoResponse) (error : String) :
    Bool × CoeSdoResponse × String :=
  match decodeEthercatMailbox bytes with
  | .error e => (false, response, e)
  | .ok mailbox =>
    match decodeSdoService mailbox coeServiceSdoResponse with
    | .error e => (false, response, e)
    | .ok () =>
      if mailbox.payload.length < 6 then
        (false, response, if error = "" then "CoE SDO response is too short" else error)
      else
        let response : CoeSdoResponse := { index := mailbox.index, subindex := mailbox.subindex }
        if mailbox.command = 0x80 then
          if mailbox.payload.length < 10 then
            (false, response, "SDO abort response is missing its abort code")
          else
            (true, { response with
              abort := true
              abortCode := loadU32Le (mailbox.payload.drop 6) }, error)
        else if mailbox.command &&& 0xE0 ≠ 0x40 ∨ mailbox.command &&& 0x02 = 0 ∨
            mailbox.command &&& 0x01 = 0 then
          (false, response, "segmented or unsupported SDO upload response")
        else if mailbox.payload.length ≠ 6 + 4 then
          (false, response, "expedited SDO upload response must contain four data bytes")
        else
          (true, { response with
            upload := true
            data := (mailbox.payload.drop 6).take (expeditedSize mailbox.command) }, error)

/-- The eight digits of an abort code. -/
def hexDigits (code : UInt32) : String :=
  String.ofList (([28, 24, 20, 16, 12, 8, 4, 0] : List UInt32).map fun shift =>
    "0123456789ABCDEF".toList.getD ((code >>> shift) &&& 0x0F).toNat '0')

/-- `decode_coe_sdo_download_ack`: whether the bytes are accepted, and the error. -/
def decodeCoeSdoDownloadAck (bytes : List UInt8) (expectedIndex : UInt16)
    (expectedSubindex : UInt8) (error : String) : Bool × String :=
  match decodeEthercatMailbox bytes with
  | .error e => (false, e)
  | .ok mailbox =>
    match decodeSdoService mailbox coeServiceSdoResponse with
    | .error e => (false, e)
    | .ok () =>
      if mailbox.payload.length < 6 then (false, error)
      else if mailbox.command = 0x80 then
        if mailbox.payload.length < 10 then
          (false, "SDO abort response is missing its abort code")
        else
          (false, "SDO download was aborted with code 0x" ++
            hexDigits (loadU32Le (mailbox.payload.drop 6)))
      else if mailbox.command ≠ 0x60 ∨ mailbox.index ≠ expectedIndex ∨
          mailbox.subindex ≠ expectedSubindex then
        (false, "unexpected SDO download acknowledgement")
      else (true, error)

/-! ## The bits of the header -/

theorem and_or_and_uint8 (v a b : UInt8) : v &&& a ||| v &&& b = v &&& (a ||| b) := by
  rw [← UInt8.toNat_inj, UInt8.toNat_or, UInt8.toNat_and, UInt8.toNat_and, UInt8.toNat_and,
    UInt8.toNat_or, Nat.and_or_distrib_left]

/-- A type without counter bits. -/
theorem and_low_of_high {v : UInt8} (h : v &&& 0xF0 = 0) : v &&& 0x0F = v := by
  have hsplit := and_or_and_uint8 v 0xF0 0x0F
  have hones : (0xF0 ||| 0x0F : UInt8) = -1 := by decide
  rwa [h, UInt8.zero_or, hones, UInt8.and_neg_one] at hsplit

theorem and_low_and_high (v : UInt8) : v &&& 0x0F &&& 0xF0 = 0 := by
  have hdisjoint : (0x0F &&& 0xF0 : UInt8) = 0 := by decide
  rw [UInt8.and_assoc, hdisjoint, UInt8.and_zero]

theorem toNat_and_channel (v : UInt8) : (v &&& 0x3F).toNat = v.toNat % 64 := by
  rw [UInt8.toNat_and]
  exact Nat.and_two_pow_sub_one_eq_mod v.toNat 6

theorem toNat_priority (v : UInt8) : ((v >>> 6) &&& 0x03).toNat = v.toNat / 64 := by
  have hshift : (v >>> 6).toNat = v.toNat / 64 := by
    rw [UInt8.toNat_shiftRight]
    exact Nat.shiftRight_eq_div_pow v.toNat 6
  have hlt := v.toNat_lt
  rw [UInt8.toNat_and, hshift]
  refine (Nat.and_two_pow_sub_one_eq_mod (v.toNat / 64) 2).trans (Nat.mod_eq_of_lt ?_)
  omega

/-- A channel and a priority share a byte. -/
theorem toNat_channel_priority {channel priority : UInt8} (hchannel : ¬ 0x3F < channel)
    (hpriority : ¬ 0x03 < priority) :
    (channel ||| (priority <<< 6)).toNat = channel.toNat + 64 * priority.toNat := by
  have hc : channel.toNat < 2 ^ 6 := Nat.lt_succ_of_le (UInt8.not_lt.mp hchannel)
  have hp : priority.toNat ≤ 3 := UInt8.not_lt.mp hpriority
  have hshift : (priority <<< 6).toNat = priority.toNat <<< 6 := by
    rw [UInt8.toNat_shiftLeft]
    refine Nat.mod_eq_of_lt ?_
    show priority.toNat <<< 6 < 2 ^ 8
    rw [Nat.shiftLeft_eq]
    omega
  rw [UInt8.toNat_or, hshift, Nat.or_comm, ← Nat.shiftLeft_add_eq_or_of_lt hc, Nat.shiftLeft_eq]
  omega

/-! ## The mailbox round trips -/

theorem encodeEthercatMailbox_eq_some_iff {mailbox : EthercatMailbox} {bytes : List UInt8} :
    encodeEthercatMailbox mailbox = some bytes ↔
      mailbox.payload.length ≤ 0xFFFF ∧ ¬ 0x3F < mailbox.channel ∧ ¬ 0x03 < mailbox.priority ∧
        mailbox.type &&& 0xF0 = 0 ∧
        bytes = storeU16Le (.ofNat mailbox.payload.length) ++ (storeU16Le mailbox.address ++
          ((mailbox.channel ||| (mailbox.priority <<< 6)) :: mailbox.type :: mailbox.payload)) := by
  unfold encodeEthercatMailbox
  by_cases h : 0xFFFF < mailbox.payload.length ∨ 0x3F < mailbox.channel ∨
      0x03 < mailbox.priority ∨ mailbox.type &&& 0xF0 ≠ 0
  · rw [if_pos h]
    refine iff_of_false (Option.some_ne_none bytes).symm ?_
    rintro ⟨hlength, hchannel, hpriority, htype, -⟩
    obtain h | h | h | h := h
    · exact absurd h hlength.not_gt
    · exact hchannel h
    · exact hpriority h
    · exact h htype
  · rw [if_neg h, Option.some.injEq]
    simp only [not_or, not_not] at h
    obtain ⟨hlength, hchannel, hpriority, htype⟩ := h
    exact ⟨fun he => ⟨not_lt.mp hlength, hchannel, hpriority, htype, he.symm⟩,
      fun he => he.2.2.2.2.symm⟩

/-- The header is a length, an address and two bytes. -/
theorem exists_mailbox_parts {bytes : List UInt8} (h : 6 ≤ bytes.length) :
    ∃ length address flags type payload, bytes = length ++ (address ++ (flags :: type :: payload)) ∧
      length.length = 2 ∧ address.length = 2 := by
  obtain ⟨flags, type, payload, hrest⟩ : ∃ flags type payload,
      bytes.drop 4 = flags :: type :: payload := by
    have hlength : 2 ≤ (bytes.drop 4).length := by
      rw [List.length_drop]
      omega
    rcases hdrop : bytes.drop 4 with _ | ⟨flags, _ | ⟨type, payload⟩⟩
    · rw [hdrop] at hlength
      cases hlength
    · rw [hdrop] at hlength
      cases Nat.le_of_succ_le_succ hlength
    · exact ⟨flags, type, payload, rfl⟩
  refine ⟨bytes.take 2, (bytes.drop 2).take 2, flags, type, payload, ?_, ?_, ?_⟩
  · have haddress := List.take_append_drop 2 (bytes.drop 2)
    rw [List.drop_drop] at haddress
    rw [← hrest, haddress, List.take_append_drop]
  · rw [List.length_take]
    omega
  · rw [List.length_take, List.length_drop]
    omega

/-- What the decoder reads of a header. -/
theorem decodeEthercatMailbox_parts {length address payload : List UInt8} {flags type : UInt8}
    (hlength : length.length = 2) (haddress : address.length = 2) :
    decodeEthercatMailbox (length ++ (address ++ (flags :: type :: payload))) =
      if payload.length ≠ (loadU16Le length).toNat then
        .error "EtherCAT mailbox length field does not match the received bytes"
      else .ok
        { address := loadU16Le address
          channel := flags &&& 0x3F
          priority := (flags >>> 6) &&& 0x03
          type := type &&& 0x0F
          payload := payload } := by
  have htotal : (length ++ (address ++ (flags :: type :: payload))).length =
      6 + payload.length := by
    simp only [List.length_append, List.length_cons, hlength, haddress]
    omega
  have h2 : (length ++ (address ++ (flags :: type :: payload))).drop 2 =
      address ++ (flags :: type :: payload) := by rw [← hlength, List.drop_left]
  have h4 : (length ++ (address ++ (flags :: type :: payload))).drop 4 =
      flags :: type :: payload := by
    rw [← List.drop_drop (i := 2) (j := 2), h2, ← haddress, List.drop_left]
  have h6 : (length ++ (address ++ (flags :: type :: payload))).drop 6 = payload := by
    rw [← List.drop_drop (i := 2) (j := 4), h4]
    rfl
  have hflags : (length ++ (address ++ (flags :: type :: payload))).getD 4 0 = flags := by
    rw [List.getD_eq_getElem?_getD, ← Nat.add_zero 4, ← List.getElem?_drop, h4]
    rfl
  have htype : (length ++ (address ++ (flags :: type :: payload))).getD 5 0 = type := by
    rw [List.getD_eq_getElem?_getD, ← List.getElem?_drop (i := 4) (j := 1), h4]
    rfl
  unfold decodeEthercatMailbox
  rw [htotal, loadU16Le_append hlength, h2, loadU16Le_append haddress, hflags, htype, h6,
    if_neg (by omega)]
  exact if_congr (by omega) rfl rfl

/-- The decoder undoes the encoder of mailboxes. -/
theorem mailbox_decode_encode {mailbox : EthercatMailbox} {bytes : List UInt8}
    (h : encodeEthercatMailbox mailbox = some bytes) :
    decodeEthercatMailbox bytes = .ok mailbox := by
  obtain ⟨hlength, hchannel, hpriority, htype, rfl⟩ := encodeEthercatMailbox_eq_some_iff.mp h
  have hflags := toNat_channel_priority hchannel hpriority
  have hc : mailbox.channel.toNat < 64 := Nat.lt_succ_of_le (UInt8.not_lt.mp hchannel)
  have hdecodedChannel :
      (mailbox.channel ||| (mailbox.priority <<< 6)) &&& 0x3F = mailbox.channel := by
    rw [← UInt8.toNat_inj, toNat_and_channel, hflags]
    omega
  have hdecodedPriority :
      ((mailbox.channel ||| (mailbox.priority <<< 6)) >>> 6) &&& 0x03 = mailbox.priority := by
    rw [← UInt8.toNat_inj, toNat_priority, hflags]
    omega
  have hcount : (UInt16.ofNat mailbox.payload.length).toNat = mailbox.payload.length := by
    rw [UInt16.toNat_ofNat']
    exact Nat.mod_eq_of_lt (Nat.lt_succ_of_le hlength)
  rw [decodeEthercatMailbox_parts (length_storeU16Le _) (length_storeU16Le _),
    loadU16Le_storeU16Le, loadU16Le_storeU16Le, hdecodedChannel, hdecodedPriority,
    and_low_of_high htype, hcount, if_neg (not_not_intro rfl)]

/-- The bytes of a mailbox without the counter, which the decoder does not read. -/
def withoutCounter (bytes : List UInt8) : List UInt8 := bytes.set 5 (bytes.getD 5 0 &&& 0x0F)

/-- The encoder undoes the decoder of mailboxes up to the counter, and the declared length is the
one of the payload. -/
theorem mailbox_encode_decode {bytes : List UInt8} {mailbox : EthercatMailbox}
    (h : decodeEthercatMailbox bytes = .ok mailbox) :
    bytes.length = 6 + mailbox.payload.length ∧
      (loadU16Le bytes).toNat = mailbox.payload.length ∧
      encodeEthercatMailbox mailbox = some (withoutCounter bytes) := by
  have hlong : 6 ≤ bytes.length := by
    by_contra hshort
    rw [decodeEthercatMailbox, if_pos (not_le.mp hshort)] at h
    cases h
  obtain ⟨length, address, flags, type, payload, rfl, hlength, haddress⟩ :=
    exists_mailbox_parts hlong
  rw [decodeEthercatMailbox_parts hlength haddress] at h
  split_ifs at h with hcount
  obtain rfl := Except.ok.inj h
  rw [not_not] at hcount
  have hbytes : payload.length ≤ 0xFFFF := by
    rw [hcount]
    exact Nat.le_of_lt_succ (loadU16Le length).toNat_lt
  have hchannel : ¬ (0x3F : UInt8) < flags &&& 0x3F := by
    rw [UInt8.not_lt, UInt8.le_iff_toNat_le, toNat_and_channel]
    exact Nat.le_of_lt_succ (Nat.mod_lt _ (by decide))
  have hpriority : ¬ (0x03 : UInt8) < (flags >>> 6) &&& 0x03 := by
    have hlt := flags.toNat_lt
    rw [UInt8.not_lt, UInt8.le_iff_toNat_le, toNat_priority]
    show flags.toNat / 64 ≤ 3
    omega
  have hflags : (flags &&& (0x3F : UInt8)) ||| (((flags >>> 6) &&& 0x03) <<< 6) = flags := by
    rw [← UInt8.toNat_inj, toNat_channel_priority hchannel hpriority, toNat_and_channel,
      toNat_priority]
    omega
  have hword : storeU16Le (.ofNat payload.length) = length := by
    rw [hcount, UInt16.ofNat_toNat, storeU16Le_loadU16Le hlength]
  have hcleared : withoutCounter (length ++ (address ++ (flags :: type :: payload))) =
      length ++ (address ++ (flags :: (type &&& 0x0F) :: payload)) := by
    obtain ⟨a, b, rfl⟩ := List.length_eq_two.mp hlength
    obtain ⟨c, d, rfl⟩ := List.length_eq_two.mp haddress
    rfl
  refine ⟨?_, ?_, ?_⟩
  · simp only [List.length_append, List.length_cons, hlength, haddress]
    omega
  · rw [loadU16Le_append hlength, ← hcount]
  · rw [encodeEthercatMailbox_eq_some_iff]
    refine ⟨hbytes, hchannel, hpriority, and_low_and_high type, ?_⟩
    rw [hflags, hword, storeU16Le_loadU16Le haddress, hcleared]

/-! ## The requests -/

/-- A mailbox that carries a request: its service, and the fields that a response is read by. -/
structure EthercatMailbox.Requests (mailbox : EthercatMailbox) (command : UInt8) (index : UInt16)
    (subindex : UInt8) : Prop where
  service : decodeSdoService mailbox coeServiceSdoRequest = .ok ()
  command : mailbox.command = command
  index : mailbox.index = index
  subindex : mailbox.subindex = subindex

/-- The two bytes of an index. -/
theorem index_bytes (index : UInt16) :
    [(index &&& 0xFF).toUInt8, ((index >>> 8) &&& 0xFF).toUInt8] = storeU16Le index := by
  have hmask (v : UInt16) : (v &&& 0xFF).toUInt8 = UInt8.ofNat v.toNat := by
    rw [← UInt8.toNat_inj, UInt16.toNat_toUInt8, UInt16.toNat_and, UInt8.toNat_ofNat']
    show (v.toNat &&& (2 ^ 8 - 1)) % 2 ^ 8 = _
    rw [Nat.and_two_pow_sub_one_eq_mod, Nat.mod_mod]
  have hshift : (index >>> 8).toNat = index.toNat >>> 8 := UInt16.toNat_shiftRight index 8
  rw [hmask, hmask, hshift]
  rfl

theorem requests_header (command : UInt8) (index : UInt16) (subindex : UInt8) (data : List UInt8) :
    EthercatMailbox.Requests { payload := sdoRequestHeader command index subindex ++ data }
      command index subindex := by
  constructor
  · have hword : loadU16Le (sdoRequestHeader command index subindex ++ data) = 0x2000 := by
      show loadU16Le ([0x00, 0x20] ++ _) = _
      rw [loadU16Le_append rfl]
      decide
    have hlength : ¬ (sdoRequestHeader command index subindex ++ data).length < 2 := by
      rw [List.length_append]
      show ¬ 6 + data.length < 2
      omega
    have htype : ethercatMailboxTypeCoe &&& 0x0F = ethercatMailboxTypeCoe := by decide
    have hcoe :
        isCoeMailbox { payload := sdoRequestHeader command index subindex ++ data } = true :=
      decide_eq_true htype
    unfold decodeSdoService
    rw [if_neg (not_or.mpr ⟨not_not_intro hcoe, hlength⟩)]
    simp only [hword]
    exact if_neg (by decide)
  · rfl
  · show loadU16Le ([(index &&& 0xFF).toUInt8, ((index >>> 8) &&& 0xFF).toUInt8] ++
      (subindex :: data)) = index
    rw [index_bytes, loadU16Le_append (length_storeU16Le index), loadU16Le_storeU16Le]
  · rfl

/-- A request fits into a mailbox. -/
theorem encode_request (payload : List UInt8) (h : payload.length ≤ 10) :
    ∃ bytes, encodeEthercatMailbox { payload := payload } = some bytes := by
  have hchannel : ¬ (0x3F : UInt8) < 0 := by decide
  have hpriority : ¬ (0x03 : UInt8) < 0 := by decide
  have htype : ethercatMailboxTypeCoe &&& 0xF0 = 0 := by decide
  refine ⟨_, encodeEthercatMailbox_eq_some_iff.mpr ⟨?_, hchannel, hpriority, htype, rfl⟩⟩
  show payload.length ≤ 0xFFFF
  omega

/-- The upload request carries its object. -/
theorem upload_request (index : UInt16) (subindex : UInt8) :
    ∃ bytes mailbox, encodeCoeSdoUploadRequest index subindex = some bytes ∧
      decodeEthercatMailbox bytes = .ok mailbox ∧ mailbox.payload.length = 6 ∧
      mailbox.Requests 0x40 index subindex := by
  obtain ⟨bytes, hbytes⟩ := encode_request (sdoRequestHeader 0x40 index subindex)
    (Nat.le_add_right 6 4)
  refine ⟨bytes, _, hbytes, mailbox_decode_encode hbytes, rfl, ?_⟩
  have hrequests := requests_header 0x40 index subindex []
  rwa [List.append_nil] at hrequests

theorem expeditedDownloadCommand_ne_zero_iff (size : ℕ) :
    expeditedDownloadCommand size ≠ 0 ↔ 1 ≤ size ∧ size ≤ 4 := by
  match size with
  | 0 => decide
  | 1 => decide
  | 2 => decide
  | 3 => decide
  | 4 => decide
  | n + 5 =>
    refine iff_of_false (not_not_intro rfl) ?_
    omega

/-- The size bits of a download request are those of its data. -/
theorem expeditedSize_downloadCommand {size : ℕ} (hpositive : 1 ≤ size) (hle : size ≤ 4) :
    expeditedSize (expeditedDownloadCommand size) = size := by
  interval_cases size <;> decide

/-- The download request carries its object and the data, in the size that its command declares. -/
theorem download_request {index : UInt16} {subindex : UInt8} {data bytes : List UInt8}
    (h : encodeCoeSdoDownloadRequest index subindex data = some bytes) :
    (1 ≤ data.length ∧ data.length ≤ 4) ∧
      ∃ mailbox, decodeEthercatMailbox bytes = .ok mailbox ∧ mailbox.payload.length = 6 + 4 ∧
        mailbox.Requests (expeditedDownloadCommand data.length) index subindex ∧
        expeditedSize mailbox.command = data.length ∧
        (mailbox.payload.drop 6).take (expeditedSize mailbox.command) = data := by
  unfold encodeCoeSdoDownloadRequest at h
  simp only at h
  split_ifs at h with hcommand
  obtain ⟨hpositive, hle⟩ := (expeditedDownloadCommand_ne_zero_iff _).mp hcommand
  have hpayload : (sdoRequestHeader (expeditedDownloadCommand data.length) index subindex ++
      data).rightpad 10 0 =
      sdoRequestHeader (expeditedDownloadCommand data.length) index subindex ++
        (data ++ List.replicate (4 - data.length) 0) := by
    have hcount : 10 - (sdoRequestHeader (expeditedDownloadCommand data.length) index subindex ++
        data).length = 4 - data.length := by
      rw [List.length_append]
      show 10 - (6 + data.length) = _
      omega
    rw [List.rightpad, hcount, List.append_assoc]
  rw [hpayload] at h
  have hsize := expeditedSize_downloadCommand hpositive hle
  refine ⟨⟨hpositive, hle⟩, _, mailbox_decode_encode h, ?_, requests_header _ index subindex _,
    hsize, ?_⟩
  · show (sdoRequestHeader _ index subindex ++ _).length = _
    rw [List.length_append, List.length_append, List.length_replicate]
    show 6 + _ = 6 + 4
    omega
  · show (data ++ List.replicate (4 - data.length) (0 : UInt8)).take
      (expeditedSize (expeditedDownloadCommand data.length)) = data
    rw [hsize, List.take_left]

/-- Data of up to four bytes makes a request. -/
theorem download_request_exists (index : UInt16) (subindex : UInt8) {data : List UInt8}
    (hpositive : 1 ≤ data.length) (hle : data.length ≤ 4) :
    ∃ bytes, encodeCoeSdoDownloadRequest index subindex data = some bytes := by
  have hcommand := (expeditedDownloadCommand_ne_zero_iff data.length).mpr ⟨hpositive, hle⟩
  unfold encodeCoeSdoDownloadRequest
  simp only
  rw [if_neg hcommand]
  refine encode_request _ ?_
  rw [List.length_rightpad, List.length_append]
  show max 10 (6 + data.length) ≤ 10
  omega

/-! ## The responses -/

/-- An accepted abort: the code follows the object, and there is no data. -/
structure AbortResponse (mailbox : EthercatMailbox) (response : CoeSdoResponse) : Prop where
  command : mailbox.command = 0x80
  length : 6 + 4 ≤ mailbox.payload.length
  abort : response.abort = true ∧ response.upload = false
  code : response.abortCode = loadU32Le (mailbox.payload.drop 6)
  data : response.data = []

/-- An accepted upload: an expedited command with its size, four bytes, and as many of them as the
size bits declare. -/
structure UploadResponse (mailbox : EthercatMailbox) (response : CoeSdoResponse) : Prop where
  command : mailbox.command &&& 0xE0 = 0x40 ∧ mailbox.command &&& 0x02 ≠ 0 ∧
    mailbox.command &&& 0x01 ≠ 0
  length : mailbox.payload.length = 6 + 4
  upload : response.upload = true ∧ response.abort = false ∧ response.abortCode = 0
  size : response.data.length = expeditedSize mailbox.command
  data : response.data = (mailbox.payload.drop 6).take (expeditedSize mailbox.command)

/-- What an accepted response consists of. -/
structure AcceptedResponse (mailbox : EthercatMailbox) (response : CoeSdoResponse) : Prop where
  service : decodeSdoService mailbox coeServiceSdoResponse = .ok ()
  index : response.index = mailbox.index
  subindex : response.subindex = mailbox.subindex
  kind : AbortResponse mailbox response ∨ UploadResponse mailbox response

theorem expeditedSize_bounds (command : UInt8) :
    1 ≤ expeditedSize command ∧ expeditedSize command ≤ 4 := by
  have hbits : ((command >>> 2) &&& 0x03).toNat ≤ 3 := by
    rw [UInt8.toNat_and]
    exact Nat.and_le_right
  unfold expeditedSize
  omega

variable {bytes : List UInt8} {response response' : CoeSdoResponse} {error error' : String}

theorem response_accepted
    (h : decodeCoeSdoResponse bytes response error = (true, response', error')) :
    error' = error ∧ ∃ mailbox, decodeEthercatMailbox bytes = .ok mailbox ∧
      AcceptedResponse mailbox response' := by
  unfold decodeCoeSdoResponse at h
  split at h
  · cases h
  · rename_i mailbox hmailbox
    split at h
    · cases h
    · rename_i hservice
      simp only at h
      split_ifs at h with hshort herror habort hcode hcommand hlength
      all_goals simp only [Prod.mk.injEq, Bool.false_eq_true, false_and, true_and] at h
      · -- An abort with its code.
        obtain ⟨rfl, rfl⟩ := h
        refine ⟨rfl, mailbox, hmailbox, hservice, rfl, rfl, Or.inl ?_⟩
        exact ⟨habort, not_lt.mp hcode, ⟨rfl, rfl⟩, rfl, rfl⟩
      · -- An upload of four bytes.
        obtain ⟨rfl, rfl⟩ := h
        rw [not_not] at hlength
        simp only [not_or, not_not] at hcommand
        refine ⟨rfl, mailbox, hmailbox, hservice, rfl, rfl, Or.inr ?_⟩
        refine ⟨hcommand, hlength, ⟨rfl, rfl, rfl⟩, ?_, rfl⟩
        have hle := (expeditedSize_bounds mailbox.command).2
        rw [List.length_take, List.length_drop, hlength]
        omega

/-- The data of an accepted upload makes a request for the same object with the same size bits. -/
theorem UploadResponse.reencode {mailbox : EthercatMailbox} (h : UploadResponse mailbox response) :
    ∃ request mailbox', encodeCoeSdoDownloadRequest response.index response.subindex
        response.data = some request ∧
      decodeEthercatMailbox request = .ok mailbox' ∧
      mailbox'.index = response.index ∧ mailbox'.subindex = response.subindex ∧
      expeditedSize mailbox'.command = expeditedSize mailbox.command ∧
      (mailbox'.payload.drop 6).take (expeditedSize mailbox'.command) = response.data := by
  obtain ⟨hpositive, hle⟩ := expeditedSize_bounds mailbox.command
  rw [← h.size] at hpositive hle
  obtain ⟨request, hrequest⟩ :=
    download_request_exists response.index response.subindex hpositive hle
  obtain ⟨-, mailbox', hmailbox, -, hfields, hsize, hdata⟩ := download_request hrequest
  exact ⟨request, mailbox', hrequest, hmailbox, hfields.index, hfields.subindex,
    hsize.trans h.size, hdata⟩

/-- An accepted acknowledgement is about the expected object. -/
theorem downloadAck_accepted {index : UInt16} {subindex : UInt8}
    (h : decodeCoeSdoDownloadAck bytes index subindex error = (true, error')) :
    error' = error ∧ ∃ mailbox, decodeEthercatMailbox bytes = .ok mailbox ∧
      decodeSdoService mailbox coeServiceSdoResponse = .ok () ∧ 6 ≤ mailbox.payload.length ∧
      mailbox.command = 0x60 ∧ mailbox.index = index ∧ mailbox.subindex = subindex := by
  unfold decodeCoeSdoDownloadAck at h
  split at h
  · cases h
  · rename_i mailbox hmailbox
    split at h
    · cases h
    · rename_i hservice
      split_ifs at h with hshort habort hcode hobject
      all_goals simp only [Prod.mk.injEq, Bool.false_eq_true, false_and, true_and] at h
      simp only [not_or, not_not] at hobject
      exact ⟨h.symm, mailbox, hmailbox, hservice, not_lt.mp hshort, hobject⟩

/-- **The CoE codec**: mailboxes and requests come back from their bytes, and in accepted bytes the
declared length, the size bits and the data agree, so that the encoder reproduces them up to the
counter of the mailbox, which the decoder does not read. -/
theorem coe_codec_round_trip :
    (∀ mailbox bytes, encodeEthercatMailbox mailbox = some bytes →
      decodeEthercatMailbox bytes = .ok mailbox) ∧
    (∀ index subindex, ∃ bytes mailbox, encodeCoeSdoUploadRequest index subindex = some bytes ∧
      decodeEthercatMailbox bytes = .ok mailbox ∧ mailbox.payload.length = 6 ∧
      mailbox.Requests 0x40 index subindex) ∧
    (∀ index subindex data bytes, encodeCoeSdoDownloadRequest index subindex data = some bytes →
      (1 ≤ data.length ∧ data.length ≤ 4) ∧
        ∃ mailbox, decodeEthercatMailbox bytes = .ok mailbox ∧ mailbox.payload.length = 6 + 4 ∧
          mailbox.Requests (expeditedDownloadCommand data.length) index subindex ∧
          expeditedSize mailbox.command = data.length ∧
          (mailbox.payload.drop 6).take (expeditedSize mailbox.command) = data) ∧
    (∀ bytes mailbox, decodeEthercatMailbox bytes = .ok mailbox →
      bytes.length = 6 + mailbox.payload.length ∧
        (loadU16Le bytes).toNat = mailbox.payload.length ∧
        encodeEthercatMailbox mailbox = some (withoutCounter bytes) ∧
        decodeEthercatMailbox (withoutCounter bytes) = .ok mailbox) ∧
    (∀ bytes response error response' error',
      decodeCoeSdoResponse bytes response error = (true, response', error') →
      ∃ mailbox, decodeEthercatMailbox bytes = .ok mailbox ∧ AcceptedResponse mailbox response' ∧
        (response'.upload = true → ∃ request mailbox',
          encodeCoeSdoDownloadRequest response'.index response'.subindex response'.data =
            some request ∧
          decodeEthercatMailbox request = .ok mailbox' ∧
          mailbox'.index = response'.index ∧ mailbox'.subindex = response'.subindex ∧
          expeditedSize mailbox'.command = expeditedSize mailbox.command ∧
          (mailbox'.payload.drop 6).take (expeditedSize mailbox'.command) = response'.data)) ∧
    ∀ bytes index subindex error error',
      decodeCoeSdoDownloadAck bytes index subindex error = (true, error') →
      ∃ mailbox, decodeEthercatMailbox bytes = .ok mailbox ∧
        decodeSdoService mailbox coeServiceSdoResponse = .ok () ∧ 6 ≤ mailbox.payload.length ∧
        mailbox.command = 0x60 ∧ mailbox.index = index ∧ mailbox.subindex = subindex := by
  refine ⟨fun mailbox bytes => mailbox_decode_encode, upload_request,
    fun index subindex data bytes => download_request, fun bytes mailbox h => ?_,
    fun bytes response error response' error' h => ?_,
    fun bytes index subindex error error' h => (downloadAck_accepted h).2⟩
  · obtain ⟨hlength, hdeclared, hencode⟩ := mailbox_encode_decode h
    exact ⟨hlength, hdeclared, hencode, mailbox_decode_encode hencode⟩
  · obtain ⟨-, mailbox, hmailbox, haccepted⟩ := response_accepted h
    refine ⟨mailbox, hmailbox, haccepted, fun hupload => ?_⟩
    obtain habort | hdata := haccepted.kind
    · rw [habort.abort.2] at hupload
      cases hupload
    · exact hdata.reencode

end Hardware

end JointController
