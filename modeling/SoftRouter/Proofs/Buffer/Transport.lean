import SoftRouter.Proofs.Buffer.Datagram

/-!
# Segments and messages in buffers

A segment or a message starts where the header of the packet around it ends. Its own length field bounds the payload
of a segment; it was compared with the buffer when the segment was read, and is read again for the payload.
-/

namespace SoftRouter

open Checked

/-- The protocol that the header at a position names, if it looks like one. -/
def PacketBuffer.protocolAt (data : Bytes) (start : Nat) : Checked (Option IpProtocol) := do
  if data.length ≤ (← add start 9) then return none
  if (← byteFrom data start 0).toNat / 16 ≠ 4 then return none
  return some (.ofNumber (← byteFrom data start 9))

theorem PacketBuffer.protocolAt_laid {front : Bytes} (near : front.length < 2 ^ 32) (link : Option Nat)
    (p : Ipv4Packet) : protocolAt (p.laid front link).data (p.laid front link).start = .ok (some p.protocol) := by
  have long : ¬ (front ++ p.encode).length ≤ front.length + 9 := by
    have := room p (Nat.le_refl _)
    rw [List.length_append]
    omega
  have first : byteAt p.encode 0 = .ok (UInt8.ofNat (64 + p.ihl)) := rfl
  have number : byteAt p.encode 9 = .ok p.protocolNumber := rfl
  rw [protocolAt, Ipv4Packet.laid, add_near near (by omega), ok_bind, if_neg long, byteFrom_append _ near (by omega),
    first, ok_bind, if_neg (not_not_intro p.version_first), byteFrom_append _ near (by omega), number]
  rfl

namespace Ipv4Packet

variable (p : Ipv4Packet) (front : Bytes) (link : Option Nat)

theorem laid_data : (p.laid front link).data = (front ++ p.header) ++ p.payload := (List.append_assoc ..).symm

theorem laid_body : (p.laid front link).body = (front ++ p.header).length := by
  rw [List.length_append, p.length_header]
  rfl

end Ipv4Packet

namespace PacketBuffer

/-- The protocol that the header around names. If none is said to be around, it is the protocol that is asked for. -/
def protocolAround (data : Bytes) (network : Option Nat) (asked : IpProtocol) : Checked (Option IpProtocol) :=
  match network with
  | none => return some asked
  | some start => protocolAt data start

/-- How reading of a protocol behind IPv4 starts: there must be room for a header of eight bytes, and no other protocol
named. -/
def readTransport {α ε : Type} (data : Bytes) (network : Option Nat) (start : Nat) (asked : IpProtocol)
    (tooShort notInIpv4 protocol : ε) (rest : Nat → Checked (Except ε α)) : Checked (Except ε α) := do
  let body ← add start 8
  if data.length < body then return .error tooShort
  match ← protocolAround data network asked with
  | none => return .error notInIpv4
  | some named =>
    if named ≠ asked then return .error protocol
    rest body

section
variable {α ε : Type} {asked : IpProtocol} {tooShort notInIpv4 protocol : ε} {rest : Nat → Checked (Except ε α)}

theorem readTransport_eq {data : Bytes} {network : Option Nat} {start : Nat} (held : start < bufferEnd)
    (room : start + 8 ≤ data.length) (named : protocolAround data network asked = .ok (some asked)) :
    readTransport data network start asked tooShort notInIpv4 protocol rest = rest (start + 8) := by
  rw [readTransport, add_held held (by omega), ok_bind, if_neg (Nat.not_lt_of_le room), named, ok_bind]
  exact if_neg (not_not_intro rfl)

/-- What was read had room for its header, and no other protocol was named. -/
theorem named_of_readTransport {data : Bytes} {network : Option Nat} {start : Nat} {a : α}
    (read : readTransport data network start asked tooShort notInIpv4 protocol rest = .ok (.ok a)) :
    start + 8 ≤ data.length ∧ protocolAround data network asked = .ok (some asked) := by
  rw [readTransport] at read
  obtain ⟨body, sum, read⟩ := bind_eq_ok_iff.1 read
  obtain ⟨-, rfl⟩ := add_eq_ok_iff.1 sum
  by_cases short : data.length < start + 8
  · rw [if_pos short] at read
    cases read
  rw [if_neg short] at read
  obtain ⟨found, around, read⟩ := bind_eq_ok_iff.1 read
  cases found with
  | none => cases read
  | some named =>
    by_cases other : named ≠ asked
    · dsimp only at read
      rw [if_pos other] at read
      cases read
    · exact ⟨Nat.le_of_not_lt short, Decidable.of_not_not other ▸ around⟩

theorem readTransport_laid {front : Bytes} {p : Ipv4Packet} (near : (front ++ p.header).length < 2 ^ 32)
    (link : Option Nat) :
    readTransport (p.laid front link).data (some (p.laid front link).start) (p.laid front link).body asked
        tooShort notInIpv4 protocol rest =
      if p.payload.length < 8 then .ok (.error tooShort)
      else if p.protocol ≠ asked then .ok (.error protocol)
      else rest ((front ++ p.header).length + 8) := by
  have split : (front ++ p.header ++ p.payload).length = (front ++ p.header).length + p.payload.length :=
    List.length_append
  rw [readTransport, protocolAround, protocolAt_laid (near_front near), p.laid_data, p.laid_body,
    add_near near (by omega), ok_bind, split]
  by_cases short : p.payload.length < 8
  · rw [if_pos (Nat.add_lt_add_left short _), if_pos short]
    rfl
  · rw [if_neg (mt Nat.lt_of_add_lt_add_left short), if_neg short]
    rfl

end

end PacketBuffer

theorem UdpSegment.isSome_payload?_iff (u : UdpSegment) :
    u.payload?.isSome ↔ 8 ≤ u.length.toNat ∧ u.length.toNat ≤ 8 + u.body.length := by
  rw [payload?, headerLength]
  split
  · simp only [Option.isSome_none, Bool.false_eq_true, false_iff]
    omega
  · simp only [Option.isSome_some, true_iff]
    omega

theorem UdpSegment.isSome_payload? {p : Ipv4Packet} {u : UdpSegment} (read : ofPacket p = .ok u) :
    u.payload?.isSome := by
  unfold ofPacket at read
  split at read
  · cases read
  split at read
  · cases read
  unfold decode at read
  split at read
  · dsimp only at read
    split at read
    · cases read
      assumption
    · cases read
  · cases read

theorem UdpSegment.decode_of_short {bytes : Bytes} (short : bytes.length < 8) : decode bytes = .error .tooShort := by
  unfold decode
  split
  · simp only [List.length_cons] at short
    omega
  · rfl

theorem UdpSegment.encode_of_ofPacket {p : Ipv4Packet} {u : UdpSegment} (read : ofPacket p = .ok u) :
    u.encode = p.payload := by
  unfold ofPacket at read
  split at read
  · cases read
  · split at read
    · cases read
    · exact encode_of_decode read

theorem IcmpMessage.exists_decode {bytes : Bytes} (long : 8 ≤ bytes.length) : ∃ m, decode bytes = .ok m := by
  iterate 4
    rcases bytes with _ | ⟨_, bytes⟩
    · simp at long
  have enough : ¬ bytes.length < 4 := by
    simp only [List.length_cons] at long
    omega
  exact ⟨_, if_neg enough⟩

theorem IcmpMessage.decode_of_short {bytes : Bytes} (short : bytes.length < 8) : decode bytes = .error .tooShort := by
  unfold decode
  split
  · simp only [List.length_cons] at short
    exact if_pos (by omega)
  · rfl

theorem IcmpMessage.encode_of_ofPacket {p : Ipv4Packet} {m : IcmpMessage} (read : ofPacket p = .ok m) :
    m.encode = p.payload := by
  unfold ofPacket at read
  split at read
  · cases read
  · split at read
    · cases read
    · exact encode_of_decode read

/-! ## Segments -/

/-- A buffer with a segment at its end, and where the segment and its payload start. -/
structure SegmentBuffer where
  data : Bytes
  start : Nat
  body : Nat
  deriving DecidableEq, Repr

/-- The segment in a buffer behind other bytes. -/
def UdpSegment.laid (u : UdpSegment) (front : Bytes) : SegmentBuffer :=
  ⟨front ++ u.encode, front.length, front.length + headerLength⟩

namespace SegmentBuffer

/-- Reads the payload of a packet as a segment. -/
def ofPacket (b : PacketBuffer) : Checked (Except UdpError SegmentBuffer) := do
  let body ← add b.body 8
  if b.data.length < body then return .error .tooShort
  match ← PacketBuffer.protocolAt b.data b.start with
  | none => return .error .notInIpv4
  | some protocol =>
    if protocol ≠ .udp then return .error .protocol
    let length := (← word16From b.data b.body 4).toNat
    if length < 8 ∨ b.data.length < (← add b.body length) then return .error .length
    return .ok ⟨b.data, b.body, body⟩

/-- The segment at a position, if its length field is in order. -/
def checkLength (data : Bytes) (start body : Nat) : Checked (Except UdpError SegmentBuffer) := do
  let length := (← word16From data start 4).toNat
  if length < 8 ∨ data.length < (← add start length) then return .error .length
  return .ok ⟨data, start, body⟩

/-- Reads the segment at a position. -/
def fromBuffer (data : Bytes) (network : Option Nat) (start : Nat) : Checked (Except UdpError SegmentBuffer) :=
  PacketBuffer.readTransport data network start .udp .tooShort .notInIpv4 .protocol (checkLength data start)

theorem ofPacket_eq (b : PacketBuffer) : ofPacket b = fromBuffer b.data (some b.start) b.body := rfl

def srcPort (s : SegmentBuffer) : Checked UInt16 := word16From s.data s.start 0

def destPort (s : SegmentBuffer) : Checked UInt16 := word16From s.data s.start 2

def length (s : SegmentBuffer) : Checked UInt16 := word16From s.data s.start 4

def payload (s : SegmentBuffer) : Checked Bytes := do
  slice s.data s.body (← add s.start (← s.length).toNat)

/-- A header without payload. -/
def newHeader (srcPort destPort : UInt16) : Checked SegmentBuffer := do
  let data ← copyInto (List.replicate 8 0) 0 2 (octets16 srcPort)
  let data ← copyInto data 2 4 (octets16 destPort)
  return ⟨← copyInto data 4 6 (octets16 8), 0, 8⟩

/-- Replaces the payload and sets the length, of which the field has the lower 16 bits. -/
def setPayload (s : SegmentBuffer) (payload : Bytes) : Checked SegmentBuffer := do
  let data ← extend (s.data.take s.body) payload
  let length ← add 8 payload.length
  return { s with data := ← copyFrom data s.start 4 6 (octets16 (UInt16.ofNat length)) }

def bytes (s : SegmentBuffer) : Checked Bytes := suffix s.data s.start

section
variable (u : UdpSegment)

theorem inside {i : Nat} (le : i ≤ 8) : i ≤ u.encode.length := by
  rw [UdpSegment.length_encode, UdpSegment.headerLength]
  omega

variable {front : Bytes} (held : front.length < bufferEnd)
include held

theorem word16From_encode {i : Nat} {word : UInt16} (le : i + 2 ≤ 8)
    (found : (u.encode.take (i + 2)).drop i = octets16 word) :
    word16From (front ++ u.encode) front.length i = .ok word := by
  rw [word16From, sliceFrom_held _ held (by omega) (by omega), slice_eq (by omega) (inside u le), found, ok_bind,
    word16_octets16]

theorem srcPort_laid : (u.laid front).srcPort = .ok u.srcPort := word16From_encode u held (by omega) rfl

theorem destPort_laid : (u.laid front).destPort = .ok u.destPort := word16From_encode u held (by omega) rfl

theorem length_laid : (u.laid front).length = .ok u.length := word16From_encode u held (by omega) rfl

/-- A payload that the length field covers and the bytes reach can be cut out. -/
theorem payload_laid {bytes : Bytes} (reaches : u.payload? = some bytes) : (u.laid front).payload = .ok bytes := by
  unfold UdpSegment.payload? at reaches
  dsimp only at reaches
  split at reaches
  · cases reaches
  rename_i fits
  cases reaches
  have small := u.length.toNat_lt
  have header : u.encode.drop 8 = u.body := rfl
  rw [UdpSegment.headerLength] at fits ⊢
  rw [payload, length_laid u held, ok_bind]
  dsimp only [UdpSegment.laid, UdpSegment.headerLength]
  rw [add_held held (by omega), ok_bind, slice_eq (by omega) (by simp [UdpSegment.headerLength]; omega),
    List.take_length_add_append, List.drop_length_add_append, List.drop_take, header]

theorem setPayload_laid {payload : Bytes} (fits : front.length + (8 + payload.length) < bufferEnd) :
    (u.laid front).setPayload payload = .ok ((u.withPayload payload).laid front) := by
  have cut : (front ++ u.encode).take (front.length + 8) = front ++ u.encode.take 8 := List.take_length_add_append ..
  have header : (u.encode.take 8).length = 8 := rfl
  have room : (front ++ u.encode.take 8).length + payload.length < bufferEnd := by
    rw [List.length_append, header]
    omega
  have inside : 6 ≤ (u.encode.take 8 ++ payload).length := by
    rw [List.length_append, header]
    omega
  dsimp only [setPayload, UdpSegment.laid, UdpSegment.headerLength]
  rw [cut, extend_eq room, ok_bind, add_of_fits fits, ok_bind, List.append_assoc,
    copyFrom_held _ held (by omega) inside rfl]
  rfl

omit held

theorem bytes_laid : (u.laid front).bytes = .ok u.encode := by
  rw [bytes, UdpSegment.laid, suffix_eq (by simp), List.drop_left]

end

theorem newHeader_eq (srcPort destPort : UInt16) :
    newHeader srcPort destPort = .ok ((UdpSegment.make srcPort destPort []).laid []) := by
  simp [newHeader, copyInto, overwrite, UdpSegment.laid, UdpSegment.encode, UdpSegment.make, UdpSegment.headerLength,
    octets16, high8_zero, low8_zero]

/-- A segment that passes the checks has room for its header and its payload, and is read as its bytes are. -/
theorem checkLength_eq {front bytes : Bytes} (held : front.length < bufferEnd) (long : 8 ≤ bytes.length) :
    checkLength (front ++ bytes) front.length (front.length + 8) =
      .ok ((UdpSegment.decode bytes).map fun u => u.laid front) := by
  obtain ⟨s1, s0, d1, d0, l1, l0, c1, c0, body, rfl⟩ := exists_eight long
  have small := (join16 l1 l0).toNat_lt
  have length : slice (s1 :: s0 :: d1 :: d0 :: l1 :: l0 :: c1 :: c0 :: body) 4 6 = .ok [l1, l0] := by
    rw [slice_eq (by omega) (by simp only [List.length_cons]; omega)]
    rfl
  rw [checkLength, word16From, sliceFrom_held _ held (by omega) (by omega), length, ok_bind, word16, ok_bind]
  dsimp only
  rw [add_held held (by omega), ok_bind, List.length_append, UdpSegment.decode]
  simp only [List.length_cons]
  have reach : (UdpSegment.payload? ⟨join16 s1 s0, join16 d1 d0, join16 l1 l0, join16 c1 c0, body⟩).isSome ↔
      8 ≤ (join16 l1 l0).toNat ∧ (join16 l1 l0).toNat ≤ 8 + body.length := UdpSegment.isSome_payload?_iff _
  by_cases reaches : 8 ≤ (join16 l1 l0).toNat ∧ (join16 l1 l0).toNat ≤ 8 + body.length
  · rw [if_neg (by omega), if_pos (reach.2 reaches)]
    simp [Except.map, UdpSegment.laid, UdpSegment.encode, UdpSegment.headerLength, octets16]
  · rw [if_pos (by omega), if_neg (reaches ∘ reach.1)]
    rfl

/-- A packet that was read has room for its header, so that reading its payload is safe. -/
theorem ofPacket_laid {front : Bytes} {p : Ipv4Packet} (near : (front ++ p.header).length < 2 ^ 32)
    (link : Option Nat) :
    ofPacket (p.laid front link) = .ok ((UdpSegment.ofPacket p).map fun u => u.laid (front ++ p.header)) := by
  rw [ofPacket_eq, fromBuffer, PacketBuffer.readTransport_laid near, UdpSegment.ofPacket, UdpSegment.headerLength]
  by_cases short : p.payload.length < 8
  · rw [if_pos short, if_pos short]
    rfl
  rw [if_neg short, if_neg short]
  by_cases other : p.protocol ≠ .udp
  · rw [if_pos other, if_pos other]
    rfl
  · rw [if_neg other, if_neg other, p.laid_data, p.laid_body,
      checkLength_eq (held_of_near near) (Nat.le_of_not_lt short)]

end SegmentBuffer

/-! ## Messages -/

/-- A buffer with a message at its end, and where the message starts. -/
structure MessageBuffer where
  data : Bytes
  start : Nat
  deriving DecidableEq, Repr

/-- The message in a buffer behind other bytes. -/
def IcmpMessage.laid (m : IcmpMessage) (front : Bytes) : MessageBuffer := ⟨front ++ m.encode, front.length⟩

namespace MessageBuffer

/-- Reads the payload of a packet as a message. -/
def ofPacket (b : PacketBuffer) : Checked (Except IcmpError MessageBuffer) := do
  if b.data.length < (← add b.body 8) then return .error .tooShort
  match ← PacketBuffer.protocolAt b.data b.start with
  | none => return .error .notInIpv4
  | some protocol =>
    if protocol ≠ .icmp then return .error .protocol
    return .ok ⟨b.data, b.body⟩

/-- Reads the message at a position. -/
def fromBuffer (data : Bytes) (network : Option Nat) (start : Nat) : Checked (Except IcmpError MessageBuffer) :=
  PacketBuffer.readTransport data network start .icmp .tooShort .notInIpv4 .protocol fun _ => return .ok ⟨data, start⟩

theorem ofPacket_eq (b : PacketBuffer) : ofPacket b = fromBuffer b.data (some b.start) b.body := rfl

def type (m : MessageBuffer) : Checked UInt8 := byteFrom m.data m.start 0

def checksumField (m : MessageBuffer) : Checked UInt16 := word16From m.data m.start 2

def isError (m : MessageBuffer) : Checked Bool := do
  let type ← m.type
  return type = IcmpMessage.typeUnreachable || type = IcmpMessage.typeRedirect ||
    type = IcmpMessage.typeTimeExceeded || type = IcmpMessage.typeParameterProblem

def body (m : MessageBuffer) : Checked Bytes := do suffix m.data (← add m.start 4)

def bytes (m : MessageBuffer) : Checked Bytes := suffix m.data m.start

/-- A header with a zero word behind it. -/
def newHeader (type code : UInt8) : Checked MessageBuffer := do
  let data ← setByte (List.replicate 8 0) 0 type
  return ⟨← setByte data 1 code, 0⟩

def setBody (m : MessageBuffer) (body : Bytes) : Checked MessageBuffer := do
  return { m with data := ← extend (m.data.take (← add m.start 4)) body }

/-- The checksum of the message, with zeros for the checksum itself. -/
def bodyChecksum (m : MessageBuffer) : Checked UInt16 := do
  let bytes ← setByte (← m.bytes) 2 0
  checksum (← setByte bytes 3 0)

def isValid (m : MessageBuffer) : Checked Bool := do return (← m.checksumField) = (← m.bodyChecksum)

def setChecksumField (m : MessageBuffer) (checksum : UInt16) : Checked MessageBuffer := do
  return { m with data := ← copyFrom m.data m.start 2 4 (octets16 checksum) }

def setChecksum (m : MessageBuffer) : Checked MessageBuffer := do m.setChecksumField (← m.bodyChecksum)

section
variable (m : IcmpMessage) {front : Bytes} (held : front.length < bufferEnd)
include held

theorem type_laid : (m.laid front).type = .ok m.type := by
  rw [type, IcmpMessage.laid, byteFrom_held _ held (by omega)]
  rfl

theorem checksumField_laid : (m.laid front).checksumField = .ok m.checksum := by
  rw [checksumField, IcmpMessage.laid, word16From, sliceFrom_held _ held (by omega) (by omega),
    slice_eq (by omega) (by rw [m.length_encode]; omega)]
  exact word16_octets16 m.checksum

theorem isError_laid : (m.laid front).isError = .ok m.isError := by
  rw [isError, type_laid m held]
  rfl

theorem body_laid : (m.laid front).body = .ok m.body := by
  rw [body, IcmpMessage.laid, add_held held (by omega), ok_bind, suffix_eq (by simp), List.drop_length_add_append]
  rfl

theorem setBody_laid {body : Bytes} (fits : front.length + (4 + body.length) < bufferEnd) :
    (m.laid front).setBody body = .ok (({ m with body } : IcmpMessage).laid front) := by
  have cut : (front ++ m.encode).take (front.length + 4) = front ++ m.encode.take 4 := List.take_length_add_append ..
  have header : (m.encode.take 4).length = 4 := rfl
  have room : (front ++ m.encode.take 4).length + body.length < bufferEnd := by
    rw [List.length_append, header]
    omega
  dsimp only [setBody, IcmpMessage.laid]
  rw [add_held held (by omega), ok_bind, cut, extend_eq room, List.append_assoc]
  rfl

theorem setChecksumField_laid (checksum : UInt16) :
    (m.laid front).setChecksumField checksum = .ok ((m.withChecksum checksum).laid front) := by
  have written : overwrite 2 (octets16 checksum) m.encode = (m.withChecksum checksum).encode := by
    simp [overwrite, IcmpMessage.encode, IcmpMessage.encodeWith, IcmpMessage.withChecksum, octets16]
  dsimp only [setChecksumField, IcmpMessage.laid]
  rw [copyFrom_held _ held (by omega) (by rw [m.length_encode]; omega) (by rfl), written]
  rfl

omit held

theorem bytes_laid : (m.laid front).bytes = .ok m.encode := by
  rw [bytes, IcmpMessage.laid, suffix_eq (by simp), List.drop_left]

theorem bodyChecksum_laid (short : m.body.length ≤ 131070) : (m.laid front).bodyChecksum = .ok m.bodyChecksum := by
  have first : overwrite 2 [0] m.encode = m.encodeWith (join16 0 (low8 m.checksum)) := by
    simp [overwrite, IcmpMessage.encode, IcmpMessage.encodeWith, octets16]
  have second : overwrite 3 [0] (m.encodeWith (join16 0 (low8 m.checksum))) = m.encodeWith 0 := by
    simp [overwrite, IcmpMessage.encodeWith, octets16, high8_zero, low8_zero]
  have length (checksum : UInt16) : (m.encodeWith checksum).length = 4 + m.body.length :=
    (m.withChecksum checksum).length_encode
  rw [bodyChecksum, bytes_laid, ok_bind, setByte_eq (by rw [m.length_encode]; omega), ok_bind, first,
    setByte_eq (by rw [length]; omega), ok_bind, second, checksum_eq (by rw [length]; omega)]
  rfl

include held

theorem isValid_laid (short : m.body.length ≤ 131070) : (m.laid front).isValid = .ok m.isValid := by
  rw [isValid, checksumField_laid m held, bodyChecksum_laid m short]
  rfl

theorem setChecksum_laid (short : m.body.length ≤ 131070) :
    (m.laid front).setChecksum = .ok (m.checksummed.laid front) := by
  rw [setChecksum, bodyChecksum_laid m short, ok_bind, setChecksumField_laid m held]
  rfl

end

theorem newHeader_eq (type code : UInt8) :
    newHeader type code = .ok ((IcmpMessage.blank type code).laid []) := by
  simp [newHeader, setByte, overwrite, IcmpMessage.laid, IcmpMessage.encode, IcmpMessage.encodeWith,
    IcmpMessage.blank, octets16, high8_zero, low8_zero]

theorem ofPacket_laid {front : Bytes} {p : Ipv4Packet} (near : (front ++ p.header).length < 2 ^ 32)
    (link : Option Nat) :
    ofPacket (p.laid front link) = .ok ((IcmpMessage.ofPacket p).map fun m => m.laid (front ++ p.header)) := by
  rw [ofPacket_eq, fromBuffer, PacketBuffer.readTransport_laid near, IcmpMessage.ofPacket, IcmpMessage.headerLength]
  by_cases short : p.payload.length < 8
  · rw [if_pos short, if_pos short]
    rfl
  rw [if_neg short, if_neg short]
  by_cases other : p.protocol ≠ .icmp
  · rw [if_pos other, if_pos other]
    rfl
  obtain ⟨m, read⟩ := IcmpMessage.exists_decode (Nat.le_of_not_lt short)
  rw [if_neg other, if_neg other, read, p.laid_data, p.laid_body, ← IcmpMessage.encode_of_decode read]
  rfl

end MessageBuffer

namespace PacketBuffer

/-- The packet carries a message that is no report. -/
def isHarmlessIcmp (b : PacketBuffer) : Checked Bool := do
  match ← MessageBuffer.ofPacket b with
  | .ok m => return !(← m.isError)
  | .error _ => return false

/-- A report may be made about the packet. -/
def isReportable (b : PacketBuffer) : Checked Bool := do
  if (← b.fragmentOffset) ≠ 0 then return false
  if (← b.protocol) = .icmp then
    if !(← b.isHarmlessIcmp) then return false
  return (← b.src).isReportable

/-- The body of a report, if one may be made: a zero word, the header and the start of the payload. -/
def quotation? (b : PacketBuffer) : Checked (Option Bytes) := do
  if !(← b.isReportable) then return none
  let payload ← b.payload
  let quoted ← slice payload 0 (min payload.length quotedLength)
  reserve (← add (← add 4 (← b.headerLength)) quoted.length)
  let body ← extend [0, 0, 0, 0] (← b.header)
  return some (← extend body quoted)

/-- The body of the echo request that the packet carries, if it does. -/
def echo? (b : PacketBuffer) : Checked (Option Bytes) := do
  match ← MessageBuffer.ofPacket b with
  | .ok m => if (← m.type) = IcmpMessage.typeEchoRequest then return some (← m.body) else return none
  | .error _ => return none

/-- The body of a notice about the packet, if one is due. -/
def body? (b : PacketBuffer) (n : Notice) : Checked (Option Bytes) := if n.isReport then b.quotation? else b.echo?

/-- The packet that carries a notice about the packet to its source, if one is due. -/
def notice? (b : PacketBuffer) (n : Notice) (src : Ipv4Addr) : Checked (Option PacketBuffer) := do
  let blank ← MessageBuffer.newHeader n.type n.code
  match ← b.body? n with
  | none => return none
  | some body =>
    let message ← (← blank.setBody body).setChecksum
    return some (← encap src (← b.src) IpProtocol.icmp.number noticeTtl (← message.bytes))

section
variable {front : Bytes} {p : Ipv4Packet} (near : (front ++ p.header).length < 2 ^ 32) (link : Option Nat)
include near

theorem isHarmlessIcmp_laid : (p.laid front link).isHarmlessIcmp = .ok p.isHarmlessIcmp := by
  rw [isHarmlessIcmp, MessageBuffer.ofPacket_laid near, ok_bind, Ipv4Packet.isHarmlessIcmp]
  cases IcmpMessage.ofPacket p with
  | ok m =>
    dsimp only [Except.map]
    rw [MessageBuffer.isError_laid m (held_of_near near)]
    rfl
  | error _ => rfl

theorem isReportable_laid : (p.laid front link).isReportable = .ok p.isReportable := by
  have first := near_front near
  rw [isReportable, fragmentOffset_laid first, protocol_laid first, isHarmlessIcmp_laid near, src_laid first,
    Ipv4Packet.isReportable]
  by_cases later : p.fragmentOffset = 0
  · by_cases icmp : p.protocol = .icmp
    · cases harmless : p.isHarmlessIcmp <;> simp [later, icmp]
    · simp [later, icmp]
  · simp [later]

theorem quotation?_laid :
    (p.laid front link).quotation? = .ok (if p.isReportable then some (Notice.quotation p) else none) := by
  have options := p.options_fit
  have header : p.headerLength ≤ 60 := by
    rw [Ipv4Packet.headerLength]
    omega
  rw [quotation?, isReportable_laid near, ok_bind]
  by_cases reportable : p.isReportable
  · have cut : slice p.payload 0 (min p.payload.length quotedLength) = .ok (p.payload.take quotedLength) := by
      rw [slice_eq (Nat.zero_le _) (Nat.min_le_left _ _), List.drop_zero, Nat.min_comm, List.take_eq_take_min.symm]
    have few : (p.payload.take quotedLength).length ≤ 8 := List.length_take_le ..
    have room : 4 + p.headerLength + (p.payload.take quotedLength).length < bufferEnd := by
      rw [bufferEnd]
      omega
    rw [if_neg (by simp [reportable]), if_pos reportable, payload_laid, ok_bind, cut, ok_bind, headerLength_laid,
      ok_bind, add_near (by omega) (by omega), ok_bind, add_near (by omega) (by omega), ok_bind, reserve_eq room,
      ok_bind, header_laid, ok_bind, extend_eq, ok_bind, extend_eq]
    · rfl
    · rw [List.length_append, p.length_header]
      exact room
    · rw [p.length_header]
      exact Nat.lt_of_le_of_lt (Nat.le_add_right ..) room
  · rw [if_pos (by simp [reportable]), if_neg reportable]
    rfl

theorem echo?_laid : (p.laid front link).echo? = .ok ((IcmpMessage.ofPacket p).toOption.bind fun m =>
    if m.type = IcmpMessage.typeEchoRequest then some m.body else none) := by
  rw [echo?, MessageBuffer.ofPacket_laid near, ok_bind]
  cases IcmpMessage.ofPacket p with
  | ok m =>
    dsimp only [Except.map]
    have held := held_of_near near
    rw [MessageBuffer.type_laid m held, ok_bind, MessageBuffer.body_laid m held]
    dsimp only [Except.toOption, Option.bind]
    split <;> rfl
  | error _ => rfl

theorem body?_laid (n : Notice) : (p.laid front link).body? n = .ok (n.body? p) := by
  rw [body?, quotation?_laid near, echo?_laid near, Notice.body?]
  split
  · rfl
  · cases IcmpMessage.ofPacket p <;> rfl

omit near

/-- The body of a notice is hardly longer than the packet it is about. -/
theorem length_body?_le {n : Notice} {body : Bytes} (due : n.body? p = some body) :
    body.length ≤ p.headerLength + p.payload.length + 4 := by
  unfold Notice.body? at due
  split at due
  · split at due
    · cases due
      simp only [Notice.quotation, List.length_append, List.length_take, p.length_header, List.length_cons,
        List.length_nil]
      omega
    · cases due
  · split at due
    · rename_i m read
      split at due
      · cases due
        have encoded := congrArg List.length (IcmpMessage.encode_of_ofPacket read)
        rw [m.length_encode] at encoded
        omega
      · cases due
    · cases due

theorem length_packet?_le {n : Notice} {src : Ipv4Addr} {q : Ipv4Packet} (due : n.packet? p src = some q) :
    q.encode.length ≤ p.headerLength + p.payload.length + 28 := by
  obtain ⟨body, known, rfl⟩ := Option.map_eq_some_iff.1 due
  have := length_body?_le known
  rw [Ipv4Packet.length_encode]
  show 20 + (n.message body).encode.length ≤ _
  rw [IcmpMessage.length_encode]
  show 20 + (4 + body.length) ≤ _
  omega

include near

/-- A notice about a packet that was read is built, and its checksum fits its words. -/
theorem notice?_laid (short : p.headerLength + p.payload.length < 65536) (n : Notice) (src : Ipv4Addr) :
    (p.laid front link).notice? n src = .ok ((n.packet? p src).map fun q => q.laid [] none) := by
  rw [notice?, MessageBuffer.newHeader_eq, ok_bind, body?_laid near, ok_bind, Notice.packet?]
  cases due : n.body? p with
  | none => rfl
  | some body =>
    have length := length_body?_le due
    have small : 20 + (4 + body.length) < bufferEnd := by
      rw [bufferEnd]
      omega
    have room : ([] : Bytes).length + (4 + body.length) < bufferEnd := by
      rw [List.length_nil]
      omega
    have filled : ((IcmpMessage.blank n.type n.code).laid []).setBody body =
        .ok (IcmpMessage.laid { type := n.type, code := n.code, checksum := 0, body } []) :=
      MessageBuffer.setBody_laid _ held_nil room
    have length : 20 + (n.message body).encode.length < bufferEnd := by
      rw [IcmpMessage.length_encode]
      exact small
    dsimp only [Option.map]
    rw [filled, ok_bind, MessageBuffer.setChecksum_laid _ held_nil (by dsimp only; omega), ok_bind, ← Notice.message,
      src_laid (near_front near), ok_bind, MessageBuffer.bytes_laid, ok_bind, encap_eq _ _ _ _ length]
    rfl

end

end PacketBuffer

end SoftRouter
