import SoftRouter.Proofs.Buffer.Transport
import SoftRouter.Wire.Placed

/-!
# Values promoted and demoted

A packet is read from a frame exactly when the lengths in its header agree with the frame
(`exists_packetIn_iff`), and it keeps the bytes up to its end. A segment or a message in it shares the packet's buffer
and remembers where the packet and the frame start (`Placed.Within`), so that demoting it reads both again as they
were.
-/

namespace SoftRouter

/-- The bytes are an IPv4 frame long enough for a header, and the header and the packet end where they should. -/
structure HoldsPacket (bytes : Bytes) : Prop where
  type : join16 (bytes.getD 12 0) (bytes.getD 13 0) = etherTypeIpv4
  long : 34 ≤ bytes.length
  version : (bytes.getD 14 0).toNat / 16 = 4
  header : 5 ≤ (bytes.getD 14 0).toNat % 16
  order : 4 * ((bytes.getD 14 0).toNat % 16) ≤ statedLength bytes
  inside : statedLength bytes ≤ bytes.length - 14

theorem Ipv4Packet.exists_decode_iff {bytes : Bytes} : (∃ p, decode bytes = .ok p) ↔
    20 ≤ bytes.length ∧ (bytes.getD 0 0).toNat / 16 = 4 ∧ 5 ≤ (bytes.getD 0 0).toNat % 16 ∧
      4 * ((bytes.getD 0 0).toNat % 16) ≤ (join16 (bytes.getD 2 0) (bytes.getD 3 0)).toNat ∧
      (join16 (bytes.getD 2 0) (bytes.getD 3 0)).toNat ≤ bytes.length := by
  by_cases short : bytes.length < 20
  · rw [decode_of_short short]
    exact iff_of_false (by rintro ⟨_, ⟨⟩⟩) (by omega)
  obtain ⟨vi, tos, l1, l0, i1, i0, f1, f0, ttl, protocolNumber, c1, c0, s3, s2, s1, s0, d3, d2, d1, d0, rest, rfl⟩ :=
    exists_fields (Nat.le_of_not_lt short)
  simp only [decode, List.getD_cons_zero, List.getD_cons_succ, List.length_cons]
  by_cases version : vi.toNat / 16 ≠ 4
  · rw [if_pos version]
    exact iff_of_false (by rintro ⟨_, ⟨⟩⟩) (by omega)
  rw [if_neg version]
  by_cases long : vi.toNat % 16 < 5
  · rw [dif_pos long]
    exact iff_of_false (by rintro ⟨_, ⟨⟩⟩) (by omega)
  rw [dif_neg long]
  by_cases fits : (join16 l1 l0).toNat < 4 * (vi.toNat % 16) ∨ 20 + rest.length < (join16 l1 l0).toNat
  · rw [dif_pos fits]
    exact iff_of_false (by rintro ⟨_, ⟨⟩⟩) (by omega)
  · rw [dif_neg fits]
    exact iff_of_true ⟨_, rfl⟩ (by omega)

theorem Ipv4Packet.exists_ofFrame_iff (f : EthernetFrame) : (∃ p, ofFrame f = .ok p) ↔ HoldsPacket f.encode := by
  have type : join16 (f.encode.getD 12 0) (f.encode.getD 13 0) = f.etherType := join16_high8_low8 f.etherType
  have stated : statedLength f.encode = (join16 (f.payload.getD 2 0) (f.payload.getD 3 0)).toNat := rfl
  have length : f.encode.length = 14 + f.payload.length := f.length_encode
  by_cases ipv4 : f.etherType = etherTypeIpv4
  · rw [ofFrame, if_pos ipv4, exists_decode_iff]
    constructor
    · rintro ⟨long, version, header, order, inside⟩
      exact ⟨type.trans ipv4, by omega, version, header, order, by omega⟩
    · rintro ⟨-, long, version, header, order, inside⟩
      exact ⟨by omega, version, header, order, by omega⟩
  · rw [ofFrame, if_neg ipv4]
    exact iff_of_false (by rintro ⟨_, ⟨⟩⟩) fun holds => ipv4 (type.symm.trans holds.type)

/-- The protocol of a packet is read behind other bytes as in it. -/
theorem protocolAt_eq (front : Bytes) (p : Ipv4Packet) :
    protocolAt (front ++ p.encode) front.length = .ok p.protocol := by
  rw [protocolAt, List.drop_left]
  exact if_pos p.version_first

namespace Placed

theorem packetIn_eq (f : EthernetFrame) : packetIn f =
    (Ipv4Packet.ofFrame f).map fun p => { before := f.header, link := some 0, value := p } := by
  rw [packetIn]
  cases Ipv4Packet.ofFrame f <;> rfl

theorem packetIn_eq_ok_iff {f : EthernetFrame} {p : Placed Ipv4Packet} : packetIn f = .ok p ↔
    ∃ value, Ipv4Packet.ofFrame f = .ok value ∧ p = { before := f.header, link := some 0, value } := by
  rw [packetIn_eq]
  cases Ipv4Packet.ofFrame f with
  | error _ => simp [Except.map]
  | ok value => simp [Except.map, eq_comm]

theorem exists_packetIn_iff (f : EthernetFrame) : (∃ p, packetIn f = .ok p) ↔ HoldsPacket f.encode := by
  rw [← Ipv4Packet.exists_ofFrame_iff]
  constructor
  · rintro ⟨p, promoted⟩
    obtain ⟨value, read, -⟩ := packetIn_eq_ok_iff.1 promoted
    exact ⟨value, read⟩
  · rintro ⟨value, read⟩
    exact ⟨_, packetIn_eq_ok_iff.2 ⟨value, read, rfl⟩⟩

section
variable (p : Placed Ipv4Packet)

theorem buffer_split : p.buffer = (p.before ++ p.value.header) ++ p.value.payload := (List.append_assoc ..).symm

theorem body_start : p.start + p.value.headerLength = (p.before ++ p.value.header).length := by
  rw [List.length_append, p.value.length_header]
  rfl

theorem protocolAt_start : protocolAt p.buffer p.start = .ok p.value.protocol := protocolAt_eq p.before p.value

variable {p} (near : p.start < 2 ^ 32)
include near

/-- Close to the start of a buffer no position wraps around. -/
theorem positionAfter_body :
    positionAfter (p.start + p.value.headerLength) 8 = (p.before ++ p.value.header).length + 8 := by
  have options := p.value.options_fit
  rw [positionAfter_eq (by rw [Ipv4Packet.headerLength]; omega), body_start]

theorem segmentIn_eq : p.segmentIn = (UdpSegment.ofPacket p.value).map fun u =>
    { before := p.before ++ p.value.header, link := p.link, network := some p.start, value := u } := by
  rw [segmentIn, UdpSegment.readAt, UdpSegment.ofPacket, UdpSegment.headerLength, positionAfter_body near, body_start]
  dsimp only
  rw [protocolAt_start, buffer_split, List.length_append, List.take_left, List.drop_left]
  dsimp only
  by_cases short : p.value.payload.length < 8
  · rw [if_pos (Nat.add_lt_add_left short _), if_pos short]
    rfl
  rw [if_neg (mt Nat.lt_of_add_lt_add_left short), if_neg short]
  by_cases other : p.value.protocol ≠ .udp
  · rw [if_pos other, if_pos other]
    rfl
  rw [if_neg other, if_neg other, if_neg (by omega)]
  cases UdpSegment.decode p.value.payload <;> rfl

theorem messageIn_eq : p.messageIn = (IcmpMessage.ofPacket p.value).map fun m =>
    { before := p.before ++ p.value.header, link := p.link, network := some p.start, value := m } := by
  rw [messageIn, IcmpMessage.readAt, IcmpMessage.ofPacket, IcmpMessage.headerLength, positionAfter_body near,
    body_start]
  dsimp only
  rw [protocolAt_start, buffer_split, List.length_append, List.take_left, List.drop_left]
  dsimp only
  by_cases short : p.value.payload.length < 8
  · rw [if_pos (Nat.add_lt_add_left short _), if_pos short]
    rfl
  rw [if_neg (mt Nat.lt_of_add_lt_add_left short), if_neg short]
  by_cases other : p.value.protocol ≠ .icmp
  · rw [if_pos other, if_pos other]
    rfl
  rw [if_neg other, if_neg other, if_neg (by omega)]
  cases IcmpMessage.decode p.value.payload <;> rfl

end

/-- The value lies in the packet: it has the packet's buffer and knows where the packet and the frame around start. -/
structure Within {α : Type} [Layer α] (x : Placed α) (p : Placed Ipv4Packet) : Prop where
  buffer : x.buffer = p.buffer
  link : x.link = p.link
  network : x.network = some p.start

/-- What is read from the payload of a packet, and writes it, lies in the packet. -/
theorem within_of_read {α ε : Type} [Layer α] {p : Placed Ipv4Packet} {x : Placed α} {read : Except ε α}
    (whole : ∀ value, read = .ok value → Layer.encode value = p.value.payload)
    (promoted : (read.map fun value =>
      { before := p.before ++ p.value.header, link := p.link, network := some p.start, value : Placed α }) = .ok x) :
    x.Within p := by
  cases read with
  | error _ => cases promoted
  | ok value =>
    cases promoted
    refine ⟨?_, rfl, rfl⟩
    rw [buffer_split, ← whole value rfl]
    rfl

section
variable {p : Placed Ipv4Packet} (near : p.start < 2 ^ 32)
include near

theorem within_of_segmentIn {u : Placed UdpSegment} (promoted : p.segmentIn = .ok u) : u.Within p :=
  within_of_read (fun _ => UdpSegment.encode_of_ofPacket) (segmentIn_eq near ▸ promoted)

theorem within_of_messageIn {m : Placed IcmpMessage} (promoted : p.messageIn = .ok m) : m.Within p :=
  within_of_read (fun _ => IcmpMessage.encode_of_ofPacket) (messageIn_eq near ▸ promoted)

end

theorem Within.frameAround_eq {α : Type} [Layer α] {x : Placed α} {p : Placed Ipv4Packet} {cut : EthernetFrame}
    (within : x.Within p) (absent : EthernetError) {other : EthernetError} (around : p.frameAround other = .ok cut) :
    x.frameAround absent = .ok cut := by
  rw [frameAround] at around ⊢
  rw [within.buffer, within.link]
  split at around
  · rwa [if_pos ‹_›]
  · cases around

/-- The packet around is read again as it was, as nothing follows it in the buffer. -/
theorem Within.packetAround_eq {α : Type} [Layer α] {x : Placed α} {p : Placed Ipv4Packet} {f : EthernetFrame}
    (within : x.Within p) (absent : Ipv4Error) (promoted : packetIn f = .ok p) : x.packetAround absent = .ok p := by
  obtain ⟨value, read, rfl⟩ := packetIn_eq_ok_iff.1 promoted
  have fits : value.headerLength + value.payload.length < 65536 :=
    (Ipv4Packet.readFrom_of_ofFrame read).2.fits ▸ value.totalLength.toNat_lt
  rw [packetAround, within.network, within.buffer, within.link]
  dsimp only [Ipv4Packet.readAt, Placed.start, Placed.buffer, Layer.encode]
  rw [List.drop_left, List.take_left, Ipv4Packet.decode_encode fits]
  rfl

/-! ## Up and down the layers -/

/-- A packet read from a frame, or what became of it, is in that frame. -/
theorem frameAround_eq (f : EthernetFrame) (p : Ipv4Packet) (absent : EthernetError) :
    ({ before := f.header, link := some 0, value := p } : Placed Ipv4Packet).frameAround absent =
      .ok { f with payload := p.encode } := by
  rw [frameAround, if_pos rfl]
  exact EthernetFrame.decode_encode { f with payload := p.encode }

/-- Demoting a packet cuts its frame off behind it. The frame cut off has the same packet in it. -/
theorem cut_of_packetIn {f : EthernetFrame} {p : Placed Ipv4Packet} (promoted : packetIn f = .ok p) :
    ∃ cut : EthernetFrame, cut.encode = f.encode.take (EthernetFrame.headerLength + statedLength f.encode) ∧
      p.frameAround .notAroundPacket = .ok cut ∧ packetIn cut = .ok p := by
  obtain ⟨value, packet, rfl⟩ := packetIn_eq_ok_iff.1 promoted
  obtain ⟨type, read⟩ := Ipv4Packet.readFrom_of_ofFrame packet
  have stated : statedLength f.encode = value.totalLength.toNat := congrArg UInt16.toNat read.total.symm
  have fits : value.headerLength + value.payload.length < 65536 := read.fits ▸ value.totalLength.toNat_lt
  refine ⟨{ f with payload := value.encode }, ?_, ?_, ?_⟩
  · rw [stated, EthernetFrame.encode, EthernetFrame.encode, ← f.length_header, List.take_length_add_append,
      read.encode]
    rfl
  · exact frameAround_eq f value .notAroundPacket
  · exact packetIn_eq_ok_iff.2 ⟨value, EthernetFrame.ofFrame_of_payload type rfl fits, rfl⟩

theorem start_of_packetIn {f : EthernetFrame} {p : Placed Ipv4Packet} (promoted : packetIn f = .ok p) :
    p.start < 2 ^ 32 := by
  obtain ⟨value, -, rfl⟩ := packetIn_eq_ok_iff.1 promoted
  simp [start, EthernetFrame.headerLength]

section
variable {f : EthernetFrame} {p : Placed Ipv4Packet} (promoted : packetIn f = .ok p)
include promoted

theorem readPacket_encode : readPacket f.encode = .ok p :=
  bind_eq_ok_iff.2 ⟨f, mapError_eq_ok_iff.2 f.decode_encode, mapError_eq_ok_iff.2 promoted⟩

theorem readSegment_encode {u : Placed UdpSegment} (further : p.segmentIn = .ok u) : readSegment f.encode = .ok u :=
  bind_eq_ok_iff.2 ⟨p, readPacket_encode promoted, mapError_eq_ok_iff.2 further⟩

theorem readMessage_encode {m : Placed IcmpMessage} (further : p.messageIn = .ok m) : readMessage f.encode = .ok m :=
  bind_eq_ok_iff.2 ⟨p, readPacket_encode promoted, mapError_eq_ok_iff.2 further⟩

end

/-- A packet is promoted from a frame exactly when the frame holds one. Demoted, it and what it promotes to give the
frame up to the end of the packet, which promotes to the same values. -/
theorem layers_kept {bytes : Bytes} {f : EthernetFrame} (frame : EthernetFrame.decode bytes = .ok f) :
    ((∃ p, packetIn f = .ok p) ↔ HoldsPacket bytes) ∧
      ∀ p, packetIn f = .ok p → ∃ cut : EthernetFrame,
        cut.encode = bytes.take (EthernetFrame.headerLength + statedLength bytes) ∧
        p.frameAround .notAroundPacket = .ok cut ∧ packetIn cut = .ok p ∧
        (∀ u, p.segmentIn = .ok u → u.frameAround .notAroundSegment = .ok cut ∧
          u.packetAround .notAroundSegment = .ok p ∧ readSegment cut.encode = .ok u) ∧
        ∀ m, p.messageIn = .ok m → m.frameAround .notAroundMessage = .ok cut ∧
          m.packetAround .notAroundMessage = .ok p ∧ readMessage cut.encode = .ok m := by
  obtain rfl := EthernetFrame.encode_of_decode frame
  refine ⟨exists_packetIn_iff f, ?_⟩
  intro p promoted
  obtain ⟨cut, bytes, demoted, again⟩ := cut_of_packetIn promoted
  have near := start_of_packetIn promoted
  refine ⟨cut, bytes, demoted, again, ?_, ?_⟩
  · intro u segment
    have within := within_of_segmentIn near segment
    exact ⟨within.frameAround_eq _ demoted, within.packetAround_eq _ promoted, readSegment_encode again segment⟩
  · intro m message
    have within := within_of_messageIn near message
    exact ⟨within.frameAround_eq _ demoted, within.packetAround_eq _ promoted, readMessage_encode again message⟩

/-- A frame around a packet with a word of options and a segment, which ends a byte before the packet, and the packet
two bytes before the frame. -/
def looseSegment : Bytes :=
  [2, 0, 0, 0, 0, 1, 2, 0, 0, 0, 0, 9, 8, 0,
    0x46, 0, 0, 34, 0, 7, 0, 0, 64, 17, 0, 0, 10, 0, 0, 2, 10, 0, 1, 2, 1, 1, 1, 0,
    2, 8, 2, 8, 0, 9, 0, 0, 42, 43, 255, 255]

theorem layers_kept_looseSegment : ∃ f p u cut,
    EthernetFrame.decode looseSegment = .ok f ∧ packetIn f = .ok p ∧ p.segmentIn = .ok u ∧
      HoldsPacket looseSegment ∧ cut.encode = looseSegment.take 48 ∧ p.frameAround .notAroundPacket = .ok cut ∧
      u.frameAround .notAroundSegment = .ok cut ∧ u.packetAround .notAroundSegment = .ok p ∧
      packetIn cut = .ok p ∧ readSegment cut.encode = .ok u := by
  obtain ⟨f, p, u, frame, promoted, segment⟩ : ∃ f p u, EthernetFrame.decode looseSegment = .ok f ∧
    packetIn f = .ok p ∧ p.segmentIn = .ok u := ⟨_, _, _, rfl, rfl, rfl⟩
  obtain ⟨holds, kept⟩ := layers_kept frame
  obtain ⟨cut, front, demoted, again, segments, -⟩ := kept p promoted
  obtain ⟨around, packet, read⟩ := segments u segment
  exact ⟨f, p, u, cut, frame, promoted, segment, holds.1 ⟨p, promoted⟩, front, demoted, around, packet, again, read⟩

end Placed

end SoftRouter
