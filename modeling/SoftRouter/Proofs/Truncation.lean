import SoftRouter.Proofs.Advertisement

/-!
# Routing messages cut short

The length fields of a packet and of a segment have 16 bits, so a message too long for them is cut on reading. What is
read of a routing message in a frame of the router is then no message, or one with the same command and, of a
response, its first entries (`message_of_transmission`).
-/

namespace SoftRouter

/-- What is read of a packet, whatever its length field says, is its header and the front of its payload. -/
structure Ipv4Packet.FrontOf (q p : Ipv4Packet) : Prop where
  ttl : q.ttl = p.ttl
  protocol : q.protocolNumber = p.protocolNumber
  src : q.src = p.src
  dest : q.dest = p.dest
  payload : q.payload <+: p.payload

theorem Ipv4Packet.front_of_decode {p q : Ipv4Packet} (read : decode p.encode = .ok q) : q.FrontOf p := by
  have words := p.headerLength_eq
  have options : 4 * p.ihl - 20 = p.options.length := by
    rw [headerLength] at words
    omega
  simp only [encode, header, headerWith, octets16, Ipv4Addr.octets, octets32, List.cons_append, List.nil_append, decode,
    ihl_first, join16_high8_low8] at read
  split at read
  · cases read
  split at read
  · cases read
  split at read
  · cases read
  rename_i fits
  have room : p.options.length ≤ p.totalLength.toNat - 20 := by omega
  simp only [options, Ipv4Addr.ofOctets_octets] at read
  cases read
  refine ⟨rfl, rfl, rfl, rfl, ?_⟩
  show ((p.options ++ p.payload).take (p.totalLength.toNat - 20)).drop p.options.length <+: p.payload
  rw [List.drop_take, List.drop_left]
  exact List.take_prefix ..

/-- What is read of the front of a segment is its header and the front of its body. -/
structure UdpSegment.FrontOf (v u : UdpSegment) : Prop where
  srcPort : v.srcPort = u.srcPort
  destPort : v.destPort = u.destPort
  body : v.body <+: u.body

theorem UdpSegment.front_of_decode {u v : UdpSegment} {bytes : Bytes} (front : bytes <+: u.encode)
    (read : decode bytes = .ok v) : v.FrontOf u := by
  rw [← encode_of_decode read] at front
  simp only [encode, octets16, List.cons_append, List.nil_append, List.cons_prefix_cons] at front
  obtain ⟨s1, s0, d1, d0, -, -, -, -, body⟩ := front
  constructor
  · rw [← join16_high8_low8 v.srcPort, s1, s0, join16_high8_low8]
  · rw [← join16_high8_low8 v.destPort, d1, d0, join16_high8_low8]
  · exact body

theorem UdpSegment.prefix_of_payload? {u : UdpSegment} {payload : Bytes} (there : u.payload? = some payload) :
    payload <+: u.body := by
  unfold payload? at there
  dsimp only at there
  split at there
  · cases there
  · cases there
    exact List.take_prefix ..

namespace RipMessage

/-- What is read of a message cut short has its command and, if it is a response, its first entries. -/
structure FrontOf (read m : RipMessage) : Prop where
  command : read.command = m.command
  entries : m.command = .response → read.entries <+: m.entries.map clamped

theorem front_of_decode {m read : RipMessage} {bytes : Bytes} (front : bytes <+: m.encode)
    (decoded : decode bytes = .ok read) : read.FrontOf m := by
  obtain ⟨version, z1, z0, xs, rfl, entries⟩ := decode_eq_ok_iff.1 decoded
  rw [encode_eq] at front
  simp only [List.cons_append, List.nil_append, List.cons_prefix_cons] at front
  obtain ⟨code, -, -, -, front⟩ := front
  refine ⟨RipCommand.code_inj code, ?_⟩
  intro _
  rw [← entries, ← entries_of_records]
  exact ((RipRecord.prefix_of_flatMap_encode front).filter _).map _

end RipMessage

namespace RipProcess

/-- Whoever reads a frame of the routing process reads a datagram of its protocol that lives for one hop, and if that
holds a message, it is the one sent or the front of it. -/
theorem message_of_transmission {i : Interface} {destIp : Ipv4Addr} {destMac : Mac} {destPort : UInt16}
    {m : RipMessage} {p : Ipv4Packet}
    (packet : Ipv4Packet.ofFrame (transmission i destIp destMac destPort m).frame = .ok p) :
    p.ttl = ripTtl ∧ p.protocol = .udp ∧ p.src = i.ip ∧
      ∀ u, UdpSegment.ofPacket p = .ok u → ∀ read, message? u = some read → read.FrontOf m := by
  have type : (transmission i destIp destMac destPort m).frame.etherType = etherTypeIpv4 := rfl
  rw [Ipv4Packet.ofFrame, if_pos type] at packet
  have front := Ipv4Packet.front_of_decode packet
  refine ⟨front.ttl, congrArg IpProtocol.ofNumber front.protocol, front.src, ?_⟩
  intro u segment read message
  obtain ⟨bytes, there, decoded⟩ := message?_eq_some_iff.1 message
  unfold UdpSegment.ofPacket at segment
  split at segment
  · cases segment
  split at segment
  · cases segment
  have body := (UdpSegment.front_of_decode front.payload segment).body
  exact RipMessage.front_of_decode ((UdpSegment.prefix_of_payload? there).trans body) decoded

end RipProcess

end SoftRouter
