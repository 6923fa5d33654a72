import SoftRouter.Proofs.Buffer.Transport
import SoftRouter.Wire.Placed

/-!
# Segments and messages at a position

A segment or a message can be read at any position of a buffer, and what is read there is the bytes behind it
(`fromBuffer_append`). If a header is said to be around, it must be one of IPv4 that names the right protocol. What was
made or read lies in its buffer with nothing behind it (`exists_placed`).
-/

namespace SoftRouter

open Checked

theorem exists_split {data : Bytes} (held : data.length < bufferEnd) {start : Nat} (inside : start ≤ data.length) :
    ∃ front bytes, front.length < bufferEnd ∧ data = front ++ bytes ∧ start = front.length := by
  have length : (data.take start).length = start := List.length_take_of_le inside
  refine ⟨data.take start, data.drop start, ?_, (List.take_append_drop ..).symm, length.symm⟩
  rw [length]
  exact Nat.lt_of_le_of_lt inside held

theorem positionAfter_held {start count : Nat} (held : start < bufferEnd) (small : count < 2 ^ 32) :
    positionAfter start count = start + count := by
  refine positionAfter_eq ?_
  unfold bufferEnd at held
  omega

/-- Looking for the protocol in a buffer is looking for it in the bytes of the header. -/
theorem PacketBuffer.protocolAt_append {front : Bytes} (held : front.length < bufferEnd) (bytes : Bytes) :
    protocolAt (front ++ bytes) front.length =
      .ok (SoftRouter.protocolAt (front ++ bytes) front.length).toOption := by
  rw [protocolAt, SoftRouter.protocolAt, add_held held (by omega), ok_bind, List.drop_left, List.length_append]
  by_cases short : bytes.length ≤ 9
  · rw [if_pos (by omega)]
    split
    · simp only [List.length_cons] at short
      omega
    · rfl
  rw [if_neg (by omega), byteFrom_held _ held (by omega), byteFrom_held _ held (by omega)]
  obtain ⟨vi, b1, b2, b3, b4, b5, b6, b7, rest, rfl⟩ := exists_eight (show 8 ≤ bytes.length by omega)
  obtain _ | ⟨b8, _ | ⟨number, rest⟩⟩ := rest
  · simp only [List.length_cons, List.length_nil] at short
    omega
  · simp only [List.length_cons, List.length_nil] at short
    omega
  · show (if vi.toNat / 16 ≠ 4 then .ok none else .ok (some (.ofNumber number)) : Checked (Option IpProtocol)) = _
    dsimp only
    by_cases version : vi.toNat / 16 = 4
    · rw [if_neg (not_not_intro version), if_pos version]
      rfl
    · rw [if_pos version, if_neg version]
      rfl

theorem PacketBuffer.protocolAt_of_around {data : Bytes} (held : data.length < bufferEnd) {network : Option Nat}
    {asked : IpProtocol} (found : protocolAround data network asked = .ok (some asked)) (n : Nat)
    (around : network = some n) : SoftRouter.protocolAt data n = .ok asked := by
  rw [around] at found
  have inside : n ≤ data.length := by
    refine Nat.le_of_not_lt fun outside => ?_
    obtain ⟨last, sum, rest⟩ := bind_eq_ok_iff.1 found
    obtain ⟨-, rfl⟩ := add_eq_ok_iff.1 sum
    rw [if_pos (by omega)] at rest
    cases rest
  obtain ⟨front, bytes, near, rfl, rfl⟩ := exists_split held inside
  rw [protocolAround, protocolAt_append near, Except.ok.injEq] at found
  exact toOption_eq_some_iff.1 found

namespace UdpSegment

/-- A segment that was made, or read at some position of a buffer. -/
inductive Obtained : Placed UdpSegment → Prop where
  | made (srcPort destPort : UInt16) : Obtained { value := make srcPort destPort [] }
  | read {data : Bytes} {link network : Option Nat} {start : Nat} {x : Placed UdpSegment}
      (read : readAt data link network start = .ok x) : Obtained x

theorem decode_encode_eq (u : UdpSegment) : decode u.encode = if u.payload?.isSome then .ok u else .error .length := by
  simp [encode, octets16, decode]

theorem isSome_of_decode {bytes : Bytes} {u : UdpSegment} (read : decode bytes = .ok u) : u.payload?.isSome := by
  by_cases whole : u.payload?.isSome
  · exact whole
  · have same := u.decode_encode_eq
    rw [encode_of_decode read, read, if_neg whole] at same
    cases same

/-- Where nothing else than UDP is named, a segment is read as its bytes are. -/
theorem readAt_append {front : Bytes} (held : front.length < bufferEnd) (bytes : Bytes) (link : Option Nat)
    {network : Option Nat} (named : ∀ n, network = some n → protocolAt (front ++ bytes) n = .ok .udp) :
    readAt (front ++ bytes) link network front.length =
      (decode bytes).map fun u => { before := front, link, network, value := u } := by
  rw [readAt, positionAfter_held held (by decide), List.length_append]
  by_cases short : bytes.length < headerLength
  · rw [if_pos (Nat.add_lt_add_left short _), decode_of_short short]
    rfl
  rw [if_neg (mt Nat.lt_of_add_lt_add_left short), List.take_left, List.drop_left]
  cases network with
  | none =>
    dsimp only
    rw [if_neg (by omega)]
    cases decode bytes <;> rfl
  | some n =>
    dsimp only
    rw [named n rfl]
    dsimp only
    rw [if_neg (not_not_intro rfl), if_neg (by omega)]
    cases decode bytes <;> rfl

theorem readAt_encode_iff (u : UdpSegment) :
    readAt u.encode none none 0 = .ok { value := u } ↔ u.payload?.isSome := by
  have read : readAt u.encode none none 0 = (decode u.encode).map fun v => { value := v } :=
    readAt_append held_nil u.encode none nofun
  rw [read, u.decode_encode_eq]
  by_cases whole : u.payload?.isSome
  · rw [if_pos whole]
    exact iff_of_true rfl whole
  · rw [if_neg whole]
    exact iff_of_false nofun whole

end UdpSegment

namespace SegmentBuffer

/-- The segment was made, or read at some position of a buffer. -/
inductive Obtained : SegmentBuffer → Prop where
  | made {srcPort destPort : UInt16} {s : SegmentBuffer} (made : newHeader srcPort destPort = .ok s) : Obtained s
  | read {data : Bytes} {network : Option Nat} {start : Nat} {s : SegmentBuffer} (held : data.length < bufferEnd)
      (read : fromBuffer data network start = .ok (.ok s)) : Obtained s

/-- Behind a front, a segment is read as its bytes are. -/
theorem fromBuffer_append {front bytes : Bytes} (held : front.length < bufferEnd) (long : 8 ≤ bytes.length)
    {network : Option Nat} (named : PacketBuffer.protocolAround (front ++ bytes) network .udp = .ok (some .udp)) :
    fromBuffer (front ++ bytes) network front.length =
      .ok ((UdpSegment.decode bytes).map fun u => u.laid front) := by
  have room : front.length + 8 ≤ (front ++ bytes).length := by
    rw [List.length_append]
    omega
  rw [fromBuffer, PacketBuffer.readTransport_eq held room named, checkLength_eq held long]

/-- A segment that was made or read lies in its buffer as it is, and its length field is in order. -/
theorem exists_placed {s : SegmentBuffer} (obtained : Obtained s) :
    ∃ x : Placed UdpSegment, UdpSegment.Obtained x ∧ x.start < bufferEnd ∧ x.value.payload?.isSome ∧
      s = x.value.laid x.before := by
  cases obtained with
  | made made =>
    rw [newHeader_eq] at made
    cases made
    exact ⟨_, .made _ _, held_nil, rfl, rfl⟩
  | @read data network start _ held read =>
    obtain ⟨room, named⟩ := PacketBuffer.named_of_readTransport read
    obtain ⟨front, bytes, near, rfl, rfl⟩ := exists_split held (Nat.le_of_add_right_le room)
    have long : 8 ≤ bytes.length := by
      rw [List.length_append] at room
      omega
    rw [fromBuffer_append near long named] at read
    have again := UdpSegment.readAt_append near bytes none (PacketBuffer.protocolAt_of_around held named)
    cases decoded : UdpSegment.decode bytes with
    | error e =>
      rw [decoded] at read
      cases read
    | ok u =>
      rw [decoded] at read again
      cases read
      exact ⟨_, .read again, near, UdpSegment.isSome_of_decode decoded, rfl⟩

end SegmentBuffer

namespace IcmpMessage

/-- A message that was made, or read at some position of a buffer. -/
inductive Obtained : Placed IcmpMessage → Prop where
  | made (type code : UInt8) : Obtained { value := blank type code }
  | read {data : Bytes} {link network : Option Nat} {start : Nat} {x : Placed IcmpMessage}
      (read : readAt data link network start = .ok x) : Obtained x

/-- Where nothing else than ICMP is named, a message is read as its bytes are. -/
theorem readAt_append {front : Bytes} (held : front.length < bufferEnd) (bytes : Bytes) (link : Option Nat)
    {network : Option Nat} (named : ∀ n, network = some n → protocolAt (front ++ bytes) n = .ok .icmp) :
    readAt (front ++ bytes) link network front.length =
      (decode bytes).map fun m => { before := front, link, network, value := m } := by
  rw [readAt, positionAfter_held held (by decide), List.length_append]
  by_cases short : bytes.length < headerLength
  · rw [if_pos (Nat.add_lt_add_left short _), decode_of_short short]
    rfl
  rw [if_neg (mt Nat.lt_of_add_lt_add_left short), List.take_left, List.drop_left]
  cases network with
  | none =>
    dsimp only
    rw [if_neg (by omega)]
    cases decode bytes <;> rfl
  | some n =>
    dsimp only
    rw [named n rfl]
    dsimp only
    rw [if_neg (not_not_intro rfl), if_neg (by omega)]
    cases decode bytes <;> rfl

theorem decode_encode_eq (m : IcmpMessage) :
    decode m.encode = if m.body.length < 4 then .error .tooShort else .ok m := by
  simp [encode, encodeWith, octets16, decode]

theorem readAt_encode_iff (m : IcmpMessage) :
    readAt m.encode none none 0 = .ok { value := m } ↔ 4 ≤ m.body.length := by
  have read : readAt m.encode none none 0 = (decode m.encode).map fun v => { value := v } :=
    readAt_append held_nil m.encode none nofun
  rw [read, m.decode_encode_eq]
  by_cases short : m.body.length < 4
  · rw [if_pos short]
    exact iff_of_false nofun (Nat.not_le_of_lt short)
  · rw [if_neg short]
    exact iff_of_true rfl (Nat.le_of_not_lt short)

theorem length_of_decode {bytes : Bytes} {m : IcmpMessage} (read : decode bytes = .ok m) : 4 ≤ m.body.length := by
  by_cases short : m.body.length < 4
  · have same := m.decode_encode_eq
    rw [encode_of_decode read, read, if_pos short] at same
    cases same
  · exact Nat.le_of_not_lt short

end IcmpMessage

namespace MessageBuffer

/-- The message was made, or read at some position of a buffer. -/
inductive Obtained : MessageBuffer → Prop where
  | made {type code : UInt8} {m : MessageBuffer} (made : newHeader type code = .ok m) : Obtained m
  | read {data : Bytes} {network : Option Nat} {start : Nat} {m : MessageBuffer} (held : data.length < bufferEnd)
      (read : fromBuffer data network start = .ok (.ok m)) : Obtained m

/-- Behind a front, a message is read as its bytes are. -/
theorem fromBuffer_append {front bytes : Bytes} (held : front.length < bufferEnd) (long : 8 ≤ bytes.length)
    {network : Option Nat} (named : PacketBuffer.protocolAround (front ++ bytes) network .icmp = .ok (some .icmp)) :
    fromBuffer (front ++ bytes) network front.length =
      .ok ((IcmpMessage.decode bytes).map fun m => m.laid front) := by
  have room : front.length + 8 ≤ (front ++ bytes).length := by
    rw [List.length_append]
    omega
  obtain ⟨m, decoded⟩ := IcmpMessage.exists_decode long
  rw [fromBuffer, PacketBuffer.readTransport_eq held room named, decoded, ← IcmpMessage.encode_of_decode decoded]
  rfl

/-- A message that was made or read lies in its buffer as it is, and its body holds at least a word. -/
theorem exists_placed {m : MessageBuffer} (obtained : Obtained m) :
    ∃ x : Placed IcmpMessage, IcmpMessage.Obtained x ∧ x.start < bufferEnd ∧ 4 ≤ x.value.body.length ∧
      m = x.value.laid x.before := by
  cases obtained with
  | made made =>
    rw [newHeader_eq] at made
    cases made
    exact ⟨_, .made _ _, held_nil, Nat.le_refl 4, rfl⟩
  | @read data network start _ held read =>
    obtain ⟨room, named⟩ := PacketBuffer.named_of_readTransport read
    obtain ⟨front, bytes, near, rfl, rfl⟩ := exists_split held (Nat.le_of_add_right_le room)
    have long : 8 ≤ bytes.length := by
      rw [List.length_append] at room
      omega
    obtain ⟨m, decoded⟩ := IcmpMessage.exists_decode long
    have again := IcmpMessage.readAt_append near bytes none (PacketBuffer.protocolAt_of_around held named)
    rw [decoded] at again
    rw [fromBuffer_append near long named, decoded] at read
    cases read
    exact ⟨_, .read again, near, IcmpMessage.length_of_decode decoded, rfl⟩

end MessageBuffer

end SoftRouter
