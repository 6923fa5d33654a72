import SoftRouter.Proofs.Advertisement
import SoftRouter.Proofs.Buffer.Edits
import SoftRouter.Proofs.Layers

/-!
# Through all layers and back

A segment goes into a packet and the packet into a frame, and each of the two writes a length of its own. Read back
layer by layer, the frame gives a packet with a valid header and the segment with all of its payload, and a message in
the same way with all of its body. That is so exactly as long as the length of the packet fits its field, as no frame
at all gives more (`survives_encapsulation_iff`).
-/

namespace SoftRouter

open Checked

/-- The packet has a valid header with these addresses, this protocol and this lifetime. -/
structure Ipv4Packet.Labelled (p : Ipv4Packet) (src dest : Ipv4Addr) (protocol : IpProtocol) (ttl : UInt8) : Prop where
  valid : p.isValid
  src : p.src = src
  dest : p.dest = dest
  protocol : p.protocol = protocol
  ttl : p.ttl = ttl

/-- The packet in the buffer has a valid header with these addresses, this protocol and this lifetime. -/
structure PacketBuffer.Labelled (b : PacketBuffer) (src dest : Ipv4Addr) (protocol : IpProtocol) (ttl : UInt8) :
    Prop where
  valid : b.isValid = .ok true
  src : b.src = .ok src
  dest : b.dest = .ok dest
  protocol : b.protocol = .ok protocol
  ttl : b.ttl = .ok ttl

theorem PacketBuffer.labelled_laid {front : Bytes} (near : front.length < 2 ^ 32) (link : Option Nat) {p : Ipv4Packet}
    {src dest : Ipv4Addr} {protocol : IpProtocol} {ttl : UInt8} (labelled : p.Labelled src dest protocol ttl) :
    (p.laid front link).Labelled src dest protocol ttl where
  valid := by rw [isValid_laid near, labelled.valid]
  src := by rw [src_laid near, labelled.src]
  dest := by rw [dest_laid near, labelled.dest]
  protocol := by rw [protocol_laid near, labelled.protocol]
  ttl := by rw [ttl_laid near, labelled.ttl]

/-- Bytes in a packet in a frame. -/
def EthernetFrame.around (src dest : Ipv4Addr) (protocol : IpProtocol) (ttl : UInt8) (payload : Bytes) :
    EthernetFrame :=
  .carrying (.make src dest protocol.number ttl payload)

/-- Bytes in a packet in a frame, in buffers made for them. -/
def FrameBuffer.around (src dest : Ipv4Addr) (protocol : IpProtocol) (ttl : UInt8) (payload : Bytes) :
    Checked Bytes := do
  FrameBuffer.encap (← PacketBuffer.encap src dest protocol.number ttl payload)

section
variable {payload : Bytes} (fits : 20 + payload.length < 65536) (src dest : Ipv4Addr) (protocol : IpProtocol)
  (ttl : UInt8)

theorem Ipv4Packet.labelled_make (known : IpProtocol.ofNumber protocol.number = protocol) (payload : Bytes) :
    (make src dest protocol.number ttl payload).Labelled src dest protocol ttl :=
  ⟨isValid_checksummed _, rfl, rfl, known, rfl⟩

include fits

theorem FrameBuffer.around_eq :
    around src dest protocol ttl payload = .ok (EthernetFrame.around src dest protocol ttl payload).encode := by
  have length : (Ipv4Packet.make src dest protocol.number ttl payload).encode.length = 20 + payload.length :=
    Ipv4Packet.length_encode _
  have packet : 20 + payload.length < bufferEnd := by
    rw [bufferEnd]
    omega
  have frame : 14 + (Ipv4Packet.make src dest protocol.number ttl payload).encode.length < bufferEnd := by
    rw [length, bufferEnd]
    omega
  rw [around, PacketBuffer.encap_eq _ _ _ _ packet, ok_bind, PacketBuffer.frameEncap_laid frame]
  rfl

theorem Ipv4Packet.ofFrame_around : ofFrame (.around src dest protocol ttl payload) =
    .ok (make src dest protocol.number ttl payload) :=
  EthernetFrame.ofFrame_of_payload rfl rfl fits

/-- The frame is read as the packet in it, from its bytes and from its buffer. -/
theorem readPacket_around : ∃ p front,
    Placed.readPacket (EthernetFrame.around src dest protocol ttl payload).encode = .ok p ∧ p.start < 2 ^ 32 ∧
      p.value = .make src dest protocol.number ttl payload ∧
      PacketBuffer.ofFrame (EthernetFrame.around src dest protocol ttl payload).encode =
        .ok (.ok ((Ipv4Packet.make src dest protocol.number ttl payload).laid front (some 0))) ∧
      (front ++ (Ipv4Packet.make src dest protocol.number ttl payload).header).length < 2 ^ 32 := by
  have read := Ipv4Packet.ofFrame_around fits src dest protocol ttl
  have promoted := Placed.packetIn_eq_ok_iff.2 ⟨_, read, rfl⟩
  refine ⟨_, (EthernetFrame.around src dest protocol ttl payload).header, Placed.readPacket_encode promoted,
    Placed.start_of_packetIn promoted, rfl, ?_, ?_⟩
  · rw [PacketBuffer.ofFrame_eq, read]
    rfl
  · have header : (Ipv4Packet.make src dest protocol.number ttl payload).header.length = 20 :=
      Ipv4Packet.length_header _
    rw [List.length_append, EthernetFrame.length_header, EthernetFrame.headerLength, header]
    decide

end

/-- A segment for these ports, with this payload. -/
def UdpSegment.filled (srcPort destPort : UInt16) (payload : Bytes) : UdpSegment :=
  (make srcPort destPort []).withPayload payload

/-- The bytes of a segment for these ports with this payload, in a buffer made for them. -/
def SegmentBuffer.filled (srcPort destPort : UInt16) (payload : Bytes) : Checked Bytes := do
  let segment ← newHeader srcPort destPort
  (← segment.setPayload payload).bytes

/-- A segment is put into a packet and a frame in buffers, and is read from the frame and from the frame's buffer. -/
structure SegmentSurvives (src dest : Ipv4Addr) (ttl : UInt8) (srcPort destPort : UInt16) (payload : Bytes)
    (frame : Bytes) : Prop where
  written : (do FrameBuffer.around src dest .udp ttl (← SegmentBuffer.filled srcPort destPort payload)) = .ok frame
  read : ∃ p u, Placed.readPacket frame = .ok p ∧ p.value.Labelled src dest .udp ttl ∧ p.segmentIn = .ok u ∧
    u.value.srcPort = srcPort ∧ u.value.destPort = destPort ∧ u.value.payload? = some payload
  buffer : ∃ b s, PacketBuffer.ofFrame frame = .ok (.ok b) ∧ b.Labelled src dest .udp ttl ∧
    SegmentBuffer.ofPacket b = .ok (.ok s) ∧ s.srcPort = .ok srcPort ∧ s.destPort = .ok destPort ∧
    s.payload = .ok payload

theorem UdpSegment.payload?_filled {payload : Bytes} (fits : payload.length ≤ 65507) (srcPort destPort : UInt16) :
    (filled srcPort destPort payload).payload? = some payload := by
  have room : headerLength + payload.length < 65536 := by
    rw [headerLength]
    omega
  exact payload?_make room srcPort destPort

theorem UdpSegment.length_filled (srcPort destPort : UInt16) (payload : Bytes) :
    (filled srcPort destPort payload).encode.length = 8 + payload.length :=
  length_encode _

theorem SegmentBuffer.filled_eq {payload : Bytes} (fits : payload.length ≤ 65507) (srcPort destPort : UInt16) :
    filled srcPort destPort payload = .ok (UdpSegment.filled srcPort destPort payload).encode := by
  have room : ([] : Bytes).length + (8 + payload.length) < bufferEnd := by
    rw [bufferEnd, List.length_nil]
    omega
  rw [filled, newHeader_eq, ok_bind, setPayload_laid _ held_nil room, ok_bind, bytes_laid]
  rfl

/-- A packet that is read from a frame fits its length field, and lies where buffers can address it. -/
theorem Placed.fits_of_readPacket {frame : Bytes} {p : Placed Ipv4Packet} (packet : readPacket frame = .ok p) :
    p.value.Fits ∧ p.start < 2 ^ 32 := by
  obtain ⟨f, -, promoted⟩ := bind_eq_ok_iff.1 packet
  rw [mapError_eq_ok_iff] at promoted
  obtain ⟨value, read, rfl⟩ := packetIn_eq_ok_iff.1 promoted
  exact ⟨Ipv4Packet.fits_of_ofFrame read, start_of_packetIn promoted⟩

/-- No frame has a segment with a longer payload in it. -/
theorem Placed.length_of_segmentIn {frame payload : Bytes} {p : Placed Ipv4Packet} {u : Placed UdpSegment}
    (packet : readPacket frame = .ok p) (segment : p.segmentIn = .ok u) (there : u.value.payload? = some payload) :
    payload.length ≤ 65507 := by
  obtain ⟨fits, near⟩ := fits_of_readPacket packet
  rw [segmentIn_eq near] at segment
  cases inner : UdpSegment.ofPacket p.value with
  | error _ =>
    rw [inner] at segment
    cases segment
  | ok v =>
    rw [inner] at segment
    cases segment
    have whole := UdpSegment.length_of_ofPacket inner
    have part := UdpSegment.length_of_payload? there
    rw [Ipv4Packet.Fits, Ipv4Packet.headerLength] at fits
    rw [UdpSegment.headerLength] at whole
    dsimp only at part
    omega

theorem segmentSurvives {payload : Bytes} (fits : payload.length ≤ 65507) (src dest : Ipv4Addr) (ttl : UInt8)
    (srcPort destPort : UInt16) : SegmentSurvives src dest ttl srcPort destPort payload
      (EthernetFrame.around src dest .udp ttl (UdpSegment.filled srcPort destPort payload).encode).encode := by
  have there := UdpSegment.payload?_filled fits srcPort destPort
  have length := UdpSegment.length_filled srcPort destPort payload
  have written := SegmentBuffer.filled_eq fits srcPort destPort
  generalize bound : UdpSegment.filled srcPort destPort payload = u at there length written ⊢
  obtain ⟨srcPort', destPort'⟩ : u.srcPort = srcPort ∧ u.destPort = destPort := by
    rw [← bound]
    exact ⟨rfl, rfl⟩
  have room : 20 + u.encode.length < 65536 := by omega
  have labelled := Ipv4Packet.labelled_make src dest .udp ttl rfl u.encode
  have segment : UdpSegment.ofPacket (.make src dest IpProtocol.udp.number ttl u.encode) = .ok u :=
    UdpSegment.ofPacket_of_payload rfl rfl (by simp [there])
  obtain ⟨p, front, packet, near, value, buffer, near'⟩ := readPacket_around room src dest .udp ttl
  refine ⟨?_, ?_, ?_⟩
  · rw [written, ok_bind, FrameBuffer.around_eq room]
  · have further := Placed.segmentIn_eq near
    rw [value, segment] at further
    exact ⟨p, _, packet, value ▸ labelled, further, srcPort', destPort', there⟩
  · have held := held_of_near near'
    have further := SegmentBuffer.ofPacket_laid near' (some 0)
    rw [segment] at further
    refine ⟨_, _, buffer, PacketBuffer.labelled_laid (PacketBuffer.near_front near') (some 0) labelled, further, ?_, ?_,
      SegmentBuffer.payload_laid u held there⟩
    · rw [SegmentBuffer.srcPort_laid u held, srcPort']
    · rw [SegmentBuffer.destPort_laid u held, destPort']

/-- A message of this type and code, with this body and the checksum that it should carry. -/
def IcmpMessage.filled (type code : UInt8) (body : Bytes) : IcmpMessage := { blank type code with body }.checksummed

def MessageBuffer.code (m : MessageBuffer) : Checked UInt8 := byteFrom m.data m.start 1

theorem MessageBuffer.code_laid (m : IcmpMessage) {front : Bytes} (near : front.length < 2 ^ 32) :
    (m.laid front).code = .ok m.code := by
  rw [code, IcmpMessage.laid, byteFrom_append _ near (by omega)]
  rfl

/-- The bytes of a message of this type and code with this body, in a buffer made for them. -/
def MessageBuffer.filled (type code : UInt8) (body : Bytes) : Checked Bytes := do
  let message ← newHeader type code
  (← (← message.setBody body).setChecksum).bytes

/-- A message is put into a packet and a frame in buffers, and is read from the frame and from the frame's buffer. -/
structure MessageSurvives (src dest : Ipv4Addr) (ttl type code : UInt8) (body frame : Bytes) : Prop where
  written : (do FrameBuffer.around src dest .icmp ttl (← MessageBuffer.filled type code body)) = .ok frame
  read : ∃ p m, Placed.readPacket frame = .ok p ∧ p.value.Labelled src dest .icmp ttl ∧ p.messageIn = .ok m ∧
    m.value.isValid ∧ m.value.type = type ∧ m.value.code = code ∧ m.value.body = body
  buffer : ∃ b m, PacketBuffer.ofFrame frame = .ok (.ok b) ∧ b.Labelled src dest .icmp ttl ∧
    MessageBuffer.ofPacket b = .ok (.ok m) ∧ m.isValid = .ok true ∧ m.type = .ok type ∧ m.code = .ok code ∧
    m.body = .ok body

theorem MessageBuffer.filled_eq {body : Bytes} (fits : body.length ≤ 65511) (type code : UInt8) :
    filled type code body = .ok (IcmpMessage.filled type code body).encode := by
  have room : ([] : Bytes).length + (4 + body.length) < bufferEnd := by
    rw [bufferEnd, List.length_nil]
    omega
  have short : ({ IcmpMessage.blank type code with body } : IcmpMessage).body.length ≤ 131070 := by
    dsimp only
    omega
  rw [filled, newHeader_eq, ok_bind, setBody_laid _ held_nil room, ok_bind, setChecksum_laid _ held_nil short, ok_bind,
    bytes_laid]
  rfl

/-- No frame has a message with a longer body in it, or with less than a word. -/
theorem Placed.length_of_messageIn {frame : Bytes} {p : Placed Ipv4Packet} {m : Placed IcmpMessage}
    (packet : readPacket frame = .ok p) (message : p.messageIn = .ok m) :
    4 ≤ m.value.body.length ∧ m.value.body.length ≤ 65511 := by
  obtain ⟨fits, near⟩ := fits_of_readPacket packet
  rw [messageIn_eq near] at message
  cases inner : IcmpMessage.ofPacket p.value with
  | error _ =>
    rw [inner] at message
    cases message
  | ok v =>
    rw [inner] at message
    cases message
    obtain ⟨-, whole, word⟩ := IcmpMessage.spec_of_ofPacket inner
    have length := congrArg List.length whole
    rw [IcmpMessage.length_encode] at length
    rw [Ipv4Packet.Fits, Ipv4Packet.headerLength] at fits
    dsimp only
    omega

theorem messageSurvives {body : Bytes} (word : 4 ≤ body.length) (fits : body.length ≤ 65511) (src dest : Ipv4Addr)
    (ttl type code : UInt8) : MessageSurvives src dest ttl type code body
      (EthernetFrame.around src dest .icmp ttl (IcmpMessage.filled type code body).encode).encode := by
  have length : (IcmpMessage.filled type code body).encode.length = 4 + body.length := IcmpMessage.length_encode _
  have valid : (IcmpMessage.filled type code body).isValid := IcmpMessage.isValid_checksummed _
  have written := MessageBuffer.filled_eq fits type code
  generalize bound : IcmpMessage.filled type code body = m at length valid written ⊢
  obtain ⟨type', code', body'⟩ : m.type = type ∧ m.code = code ∧ m.body = body := by
    rw [← bound]
    exact ⟨rfl, rfl, rfl⟩
  have room : 20 + m.encode.length < 65536 := by omega
  have labelled := Ipv4Packet.labelled_make src dest .icmp ttl rfl m.encode
  have message : IcmpMessage.ofPacket (.make src dest IpProtocol.icmp.number ttl m.encode) = .ok m :=
    IcmpMessage.ofPacket_of_payload rfl rfl (body' ▸ word)
  obtain ⟨p, front, packet, near, value, buffer, near'⟩ := readPacket_around room src dest .icmp ttl
  refine ⟨?_, ?_, ?_⟩
  · rw [written, ok_bind, FrameBuffer.around_eq room]
  · have further := Placed.messageIn_eq near
    rw [value, message] at further
    exact ⟨p, _, packet, value ▸ labelled, further, valid, type', code', body'⟩
  · have held := held_of_near near'
    have further := MessageBuffer.ofPacket_laid near' (some 0)
    rw [message] at further
    refine ⟨_, _, buffer, PacketBuffer.labelled_laid (PacketBuffer.near_front near') (some 0) labelled, further, ?_, ?_,
      ?_, ?_⟩
    · rw [MessageBuffer.isValid_laid m held (by rw [body']; omega), valid]
    · rw [MessageBuffer.type_laid m held, type']
    · rw [MessageBuffer.code_laid m near', code']
    · rw [MessageBuffer.body_laid m held, body']

/-- A payload for two ports, or a body behind a type and a code, comes through all layers and back exactly when it fits
a packet and, for a message, holds the rest of its header. -/
theorem survives_encapsulation_iff (src dest : Ipv4Addr) (ttl : UInt8) :
    (∀ srcPort destPort payload, (SegmentSurvives src dest ttl srcPort destPort payload
      (EthernetFrame.around src dest .udp ttl (UdpSegment.filled srcPort destPort payload).encode).encode ↔
        payload.length ≤ 65507)) ∧
      ∀ type code body, (MessageSurvives src dest ttl type code body
        (EthernetFrame.around src dest .icmp ttl (IcmpMessage.filled type code body).encode).encode ↔
          4 ≤ body.length ∧ body.length ≤ 65511) := by
  constructor
  · intro srcPort destPort payload
    constructor
    · intro survives
      obtain ⟨p, u, packet, -, segment, -, -, there⟩ := survives.read
      exact Placed.length_of_segmentIn packet segment there
    · intro fits
      exact segmentSurvives fits src dest ttl srcPort destPort
  · intro type code body
    constructor
    · intro survives
      obtain ⟨p, m, packet, -, message, -, -, -, rfl⟩ := survives.read
      exact Placed.length_of_messageIn packet message
    · rintro ⟨word, fits⟩
      exact messageSurvives word fits src dest ttl type code

end SoftRouter
