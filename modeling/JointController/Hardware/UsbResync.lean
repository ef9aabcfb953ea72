import JointController.Hardware.UsbBridge

/-!
# Packets behind garbage

Whether `process_bytes` finds a packet that comes behind bytes that are no packet.

* `StartsFrame`: the loop takes the front of some bytes for a frame.
* `FramesInside`: the loop comes to the end of some garbage, whatever follows it.
* `HandsOver`: the loop comes to the first byte of a packet, and the packet is handled.
* `handsOver_iff`: a packet is found exactly when the frames that the garbage claims end in it.
-/

namespace JointController

namespace Hardware

/-! ## Rounds -/

/-- The bytes start with the two sync bytes. -/
def StartsFrame (bytes : List UInt8) : Prop := bytes.getD 0 0 = sync0 ∧ bytes.getD 1 0 = sync1

instance (bytes : List UInt8) : Decidable (StartsFrame bytes) := inferInstanceAs (Decidable (_ ∧ _))

/-- The length of the frame that the header claims. -/
def claimedLength (bytes : List UInt8) : ℕ := (bytes.getD 3 0).toNat + 5

/-- Bytes without the sync bytes are dropped one at a time. -/
theorem scanPacket_skip {buffer : List UInt8} (hlong : 5 ≤ buffer.length)
    (hno : ¬ StartsFrame buffer) : scanPacket buffer = some (1, none) := by
  unfold scanPacket
  rw [if_neg (Nat.not_lt.mpr hlong), if_pos (not_and_or.mp hno)]

/-- The whole of a claimed frame is dropped, whatever its checksum is. -/
theorem scanPacket_frame {buffer : List UInt8} (hstarts : StartsFrame buffer)
    (hlong : claimedLength buffer ≤ buffer.length) :
    ∃ item, scanPacket buffer = some (claimedLength buffer, item) := by
  have hframe : ¬ buffer.length < (buffer.getD 3 0).toNat + 5 := Nat.not_lt.mpr hlong
  have hfive : ¬ buffer.length < 5 := by omega
  have hsync : ¬ (buffer.getD 0 0 ≠ sync0 ∨ buffer.getD 1 0 ≠ sync1) :=
    not_or.mpr ⟨not_not.mpr hstarts.1, not_not.mpr hstarts.2⟩
  unfold scanPacket
  dsimp only
  rw [if_neg hfive, if_neg hsync, if_neg hframe]
  split
  · exact ⟨_, rfl⟩
  · exact ⟨none, rfl⟩

/-- The two kinds of rounds. -/
theorem scanPacket_cases {buffer : List UInt8} {n : ℕ} {item : Option Packet}
    (h : scanPacket buffer = some (n, item)) :
    (¬ StartsFrame buffer ∧ n = 1) ∨ (StartsFrame buffer ∧ n = claimedLength buffer) := by
  have hfive := five_le_of_scanPacket h
  have hbounds := scanPacket_bounds h
  by_cases hstarts : StartsFrame buffer
  · right
    refine ⟨hstarts, ?_⟩
    by_cases hlong : claimedLength buffer ≤ buffer.length
    · obtain ⟨item', hitem⟩ := scanPacket_frame hstarts hlong
      exact (Prod.mk.inj (Option.some_inj.mp (h.symm.trans hitem))).1
    · exfalso
      have hsync : ¬ (buffer.getD 0 0 ≠ sync0 ∨ buffer.getD 1 0 ≠ sync1) :=
        not_or.mpr ⟨not_not.mpr hstarts.1, not_not.mpr hstarts.2⟩
      have hframe : buffer.length < (buffer.getD 3 0).toNat + 5 := Nat.not_le.mp hlong
      unfold scanPacket at h
      dsimp only at h
      rw [if_neg (Nat.not_lt.mpr hfive), if_neg hsync, if_pos hframe] at h
      cases h
  · left
    refine ⟨hstarts, ?_⟩
    exact (Prod.mk.inj (Option.some_inj.mp (h.symm.trans (scanPacket_skip hfive hstarts)))).1

/-! ## Garbage -/

/-- From the front of the garbage, bytes without the sync bytes are dropped one at a time and
claimed frames as a whole, and every claimed frame ends in the garbage. -/
inductive FramesInside : List UInt8 → Prop where
  | nil : FramesInside []
  | skip {byte : UInt8} {garbage : List UInt8} (hno : ¬ StartsFrame (byte :: garbage))
      (h : FramesInside garbage) : FramesInside (byte :: garbage)
  | frame {garbage : List UInt8} (hstarts : StartsFrame garbage)
      (hlong : claimedLength garbage ≤ garbage.length)
      (h : FramesInside (garbage.drop (claimedLength garbage))) : FramesInside garbage

/-- What follows garbage starts with a byte that is not the second sync byte, and is long enough for
a header. -/
structure Follows (next : List UInt8) : Prop where
  long : 5 ≤ next.length
  first : next.getD 0 0 ≠ sync1

/-- Garbage of one byte does not start a frame with what follows it. -/
theorem startsFrame_append {garbage next : List UInt8} (hnext : Follows next)
    (hne : garbage ≠ []) : StartsFrame (garbage ++ next) ↔ StartsFrame garbage := by
  obtain ⟨byte, tail, rfl⟩ := List.exists_cons_of_ne_nil hne
  unfold StartsFrame
  cases tail with
  | cons second tail => rfl
  | nil =>
    have hzero : (0 : UInt8) ≠ sync1 := by decide
    show (byte = sync0 ∧ next.getD 0 0 = sync1) ↔ (byte = sync0 ∧ (0 : UInt8) = sync1)
    exact iff_of_false (fun h => hnext.first h.2) fun h => hzero h.2

theorem claimedLength_append {garbage next : List UInt8} (h : 4 ≤ garbage.length) :
    claimedLength (garbage ++ next) = claimedLength garbage := by
  unfold claimedLength
  rw [List.getD_append _ _ _ _ (by omega)]

/-- The loop comes to the end of the garbage exactly when the frames that it claims end in it. -/
theorem takes_iff {next : List UInt8} (hnext : Follows next) (garbage : List UInt8) :
    (∃ items, packetParser.Takes (garbage ++ next) items next) ↔ FramesInside garbage := by
  constructor
  · rintro ⟨items, htakes⟩
    generalize hbuffer : garbage ++ next = buffer at htakes
    induction htakes generalizing garbage with
    | done buffer =>
      have hlength := congrArg List.length hbuffer
      rw [List.length_append] at hlength
      have hnil : garbage = [] := List.length_eq_zero_iff.mp (by omega)
      rw [hnil]
      exact .nil
    | @round buffer rest n item items hround later ih =>
      subst hbuffer
      have hpos : 0 < n := packetParser.pos hround
      have hle := later.length_le
      rw [List.length_drop, List.length_append] at hle
      have hinside : n ≤ garbage.length := by have := hnext.long; omega
      have hne : garbage ≠ [] := by
        rintro rfl
        exact absurd hinside (Nat.not_le.mpr hpos)
      have hrest : FramesInside (garbage.drop n) :=
        ih hnext (garbage.drop n) (List.drop_append_of_le_length hinside).symm
      rcases scanPacket_cases hround with ⟨hno, rfl⟩ | ⟨hstarts, hn⟩
      · obtain ⟨byte, tail, rfl⟩ := List.exists_cons_of_ne_nil hne
        exact .skip (fun hstarts => hno ((startsFrame_append hnext hne).mpr hstarts)) hrest
      · have hfive : 5 ≤ n := by
          rw [hn]
          exact Nat.le_add_left 5 _
        rw [claimedLength_append (by omega)] at hn
        subst hn
        exact .frame ((startsFrame_append hnext hne).mp hstarts) hinside hrest
  · intro h
    induction h with
    | nil => exact ⟨[], .done next⟩
    | @skip byte garbage hno _ ih =>
      obtain ⟨items, htakes⟩ := ih
      have hlong : 5 ≤ (byte :: garbage ++ next).length := by
        have hfive := hnext.long
        rw [List.length_append]
        omega
      have hround := scanPacket_skip hlong
        fun hstarts => hno ((startsFrame_append hnext (List.cons_ne_nil _ _)).mp hstarts)
      exact ⟨_, .round hround htakes⟩
    | @frame garbage hstarts hlong _ ih =>
      obtain ⟨items, htakes⟩ := ih
      have hfive : 5 ≤ garbage.length := Nat.le_trans (Nat.le_add_left 5 _) hlong
      have hne : garbage ≠ [] := by
        rintro rfl
        simp at hfive
      have hclaimed : claimedLength (garbage ++ next) = claimedLength garbage :=
        claimedLength_append (by omega)
      obtain ⟨item, hround⟩ := scanPacket_frame ((startsFrame_append hnext hne).mpr hstarts)
        (by rw [hclaimed, List.length_append]; omega)
      rw [hclaimed] at hround
      rw [← List.drop_append_of_le_length hlong] at htakes
      exact ⟨_, .round hround htakes⟩

/-! ## The packet -/

theorem follows_encode (p : Packet) (rest : List UInt8) : Follows (p.encode ++ rest) where
  long := by
    have hround := scanPacket_encode p rest
    exact five_le_of_scanPacket hround
  first := by
    show sync0 ≠ sync1
    decide

/-- The loop comes to the first byte of a packet behind garbage; and however the bytes are split,
the packet is then handled, after what is found in the garbage and before what is found in the
rest. -/
def HandsOver (garbage : List UInt8) (p : Packet) (rest : List UInt8) : Prop :=
  ∃ before, packetParser.Takes (garbage ++ (p.encode ++ rest)) before (p.encode ++ rest) ∧
    ∀ chunks : List (List UInt8), chunks.flatten = garbage ++ (p.encode ++ rest) →
      (UsbBridge.opened.receive chunks).handled =
        before ++ p :: (UsbBridge.opened.receive [rest]).handled

/-- A packet that the loop comes to is handled. -/
theorem handled_of_takes {garbage : List UInt8} {p : Packet} {rest : List UInt8}
    {before : List Packet}
    (h : packetParser.Takes (garbage ++ (p.encode ++ rest)) before (p.encode ++ rest))
    {chunks : List (List UInt8)} (hchunks : chunks.flatten = garbage ++ (p.encode ++ rest)) :
    (UsbBridge.opened.receive chunks).handled =
      before ++ p :: (UsbBridge.opened.receive [rest]).handled := by
  have hreceive := congrArg Prod.fst (receive_opened chunks)
  have hrest := congrArg Prod.fst (receive_opened [rest])
  have hpacket : (packetParser.drain (p.encode ++ rest)).1 = p :: (packetParser.drain rest).1 := by
    rw [StreamParser.drain_of_some (scanPacket_encode p rest), List.drop_left]
    rfl
  rw [hchunks, h.drain, hpacket] at hreceive
  rw [List.flatten_singleton] at hrest
  exact hreceive.trans (congrArg (fun later => before ++ p :: later) hrest.symm)

/-- A packet behind garbage is handed over exactly when the frames that the garbage claims end in
it. -/
theorem handsOver_iff (garbage : List UInt8) (p : Packet) (rest : List UInt8) :
    HandsOver garbage p rest ↔ FramesInside garbage := by
  rw [← takes_iff (follows_encode p rest) garbage]
  constructor
  · rintro ⟨before, htakes, -⟩
    exact ⟨before, htakes⟩
  · rintro ⟨before, htakes⟩
    exact ⟨before, htakes, fun chunks => handled_of_takes htakes⟩

/-- A corrupted header that claims a payload of three bytes. -/
def overlongHeader : List UInt8 := [0x55, 0xAA, 0x01, 0x03]

theorem length_nil_lt : ([] : List UInt8).length < 256 := by decide

/-- An acknowledgement without payload. -/
def acknowledgement : Packet := ⟨0x82, [], length_nil_lt⟩

/-- The bytes of the header and the packet. -/
def overlongStream : List UInt8 := overlongHeader ++ (acknowledgement.encode ++ [])

/-- The checksum of the claimed frame is wrong, and the packet that begins in it is dropped with
it. -/
theorem not_handsOver_overlongHeader :
    scanPacket overlongStream = some (8, none) ∧
      (UsbBridge.opened.receive [overlongStream]).handled = [] ∧
        ¬ HandsOver overlongHeader acknowledgement [] := by
  have hscan : scanPacket overlongStream = some (8, none) := by decide +kernel
  have hround : packetParser.round overlongStream = some (8, none) := by decide +kernel
  have hstop : packetParser.round (overlongStream.drop 8) = none := by decide +kernel
  have hnone : (UsbBridge.opened.receive [overlongStream]).handled = [] := by
    have hreceive := congrArg Prod.fst (receive_opened [overlongStream])
    rw [List.flatten_singleton, StreamParser.drain_of_skip hround,
      StreamParser.drain_of_none hstop] at hreceive
    exact hreceive
  refine ⟨hscan, hnone, ?_⟩
  rintro ⟨before, -, hhandled⟩
  have h := hhandled [overlongStream] List.flatten_singleton
  have hempty := List.append_eq_nil_iff.mp (hnone.symm.trans h).symm
  exact List.cons_ne_nil _ _ hempty.2

end Hardware

end JointController
