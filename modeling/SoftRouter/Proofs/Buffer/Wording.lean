import SoftRouter.Proofs.Buffer.Edits
import SoftRouter.Proofs.Layers
import SoftRouter.Proofs.Restraint

/-!
# The packets of notices

A notice about a packet that was read is a packet with the shortest header, whose length field holds its length: a
report is short, and an echo is no longer than the request, which had a header at least as long. On the wire it reads
back as a message with the type and code of the notice, which says what a notice about that packet has to say
(`notice_wellFormed`).
-/

namespace SoftRouter

open Checked

namespace Notice

/-- What a notice about a packet says. -/
inductive Worded (about : Ipv4Packet) : Notice → Bytes → Prop where
  /-- A report quotes the header with its options, and as much of the payload as there is among its first bytes. -/
  | report {n : Notice} (report : n.isReport) :
      Worded about n ([0, 0, 0, 0] ++ about.header ++ about.payload.take (min 8 about.payload.length))
  | echo {request : IcmpMessage} (read : IcmpMessage.ofPacket about = .ok request) (asks : request.type = 8) :
      Worded about .echoReply request.body

/-- The message is the notice about a packet. -/
structure Message (n : Notice) (about : Ipv4Packet) (m : IcmpMessage) : Prop where
  type : m.type = n.type
  code : m.code = n.code
  valid : m.isValid
  wording : n.Worded about m.body

/-- The packet is the notice about another one, and its frame reads back as that packet and as the message. -/
structure WellFormed (n : Notice) (about : Ipv4Packet) (src : Ipv4Addr) (packet : Ipv4Packet) : Prop where
  total : packet.totalLength.toNat = packet.encode.length
  words : packet.ihl = 5
  ttl : packet.ttl = 64
  src : packet.src = src
  dest : packet.dest = about.src
  valid : packet.isValid
  network : ∃ p, Placed.readPacket (EthernetFrame.carrying packet).encode = .ok p ∧ p.value = packet
  transport : ∃ m, Placed.readMessage (EthernetFrame.carrying packet).encode = .ok m ∧ n.Message about m.value

variable {n : Notice} {about packet : Ipv4Packet} {src : Ipv4Addr} {body : Bytes}

theorem worded_of_body? (due : n.body? about = some body) : n.Worded about body := by
  unfold body? at due
  split at due
  · rename_i report
    split at due
    · cases due
      rw [quotation, List.take_eq_take_min]
      exact .report report
    · cases due
  · rename_i reply
    obtain rfl : n = .echoReply := by simpa [isReport] using reply
    split at due
    · rename_i request read
      split at due
      · rename_i asks
        cases due
        exact .echo read asks
      · cases due
    · cases due

theorem message_of_body? (due : n.body? about = some body) : n.Message about (n.message body) where
  type := rfl
  code := rfl
  valid := IcmpMessage.isValid_checksummed _
  wording := worded_of_body? due

theorem wellFormed_of_packet? (due : n.packet? about src = some packet) (fits : about.Fits) :
    n.WellFormed about src packet := by
  have carried := carried_packet due fits
  obtain ⟨body, said, rfl⟩ := Option.map_eq_some_iff.1 due
  have reads := EthernetFrame.ofFrame_of_payload (f := .carrying (.make ..)) rfl rfl carried.fits
  have promoted := Placed.packetIn_eq_ok_iff.2 ⟨_, reads, rfl⟩
  have bare : (Ipv4Packet.make src about.src IpProtocol.icmp.number noticeTtl (n.message body).encode).options = [] :=
    rfl
  refine ⟨?_, by rw [Ipv4Packet.ihl, bare]; rfl, carried.ttl, rfl, rfl, Ipv4Packet.isValid_checksummed _,
    ⟨_, Placed.readPacket_encode promoted, rfl⟩, ?_⟩
  · rw [Ipv4Packet.totalLength, UInt16.toNat_ofNat', Nat.mod_eq_of_lt carried.fits, Ipv4Packet.length_encode]
  · obtain ⟨word, -⟩ := length_body said fits
    have read := IcmpMessage.ofPacket_of_payload (m := n.message body) carried.icmp rfl word
    have further := Placed.messageIn_eq (Placed.start_of_packetIn promoted)
    rw [read] at further
    exact ⟨_, Placed.readMessage_encode promoted further, message_of_body? said⟩

end Notice

/-- A notice about a packet that was read from a frame is built without fault, in a buffer of its own, and if it is due
it is well formed. -/
theorem notice_wellFormed {f : EthernetFrame} {about : Ipv4Packet} (read : Ipv4Packet.ofFrame f = .ok about)
    (n : Notice) (src : Ipv4Addr) :
    about.ReadFrom f.payload ∧ PacketBuffer.ofFrame f.encode = .ok (.ok (about.laid f.header (some 0))) ∧
      (about.laid f.header (some 0)).notice? n src =
        .ok ((n.packet? about src).map fun packet => packet.laid [] none) ∧
      ∀ packet, n.packet? about src = some packet → n.WellFormed about src packet ∧ (packet.laid [] none).MatchesWire ∧
        FrameBuffer.encap (packet.laid [] none) = .ok (EthernetFrame.carrying packet).encode := by
  have fits := Ipv4Packet.fits_of_ofFrame read
  have near : (f.header ++ about.header).length < 2 ^ 32 := by
    have options := about.options_fit
    rw [List.length_append, about.length_header, f.length_header, Ipv4Packet.headerLength, EthernetFrame.headerLength]
    omega
  have there : PacketBuffer.ofFrame f.encode = .ok (.ok (about.laid f.header (some 0))) := by
    rw [PacketBuffer.ofFrame_eq, read]
    rfl
  refine ⟨(Ipv4Packet.readFrom_of_ofFrame read).2, there, PacketBuffer.notice?_laid near _ fits n src, ?_⟩
  intro packet due
  have short : packet.Fits := (Notice.carried_packet due fits).fits
  have room : 14 + packet.encode.length < bufferEnd := by
    rw [Ipv4Packet.Fits] at short
    rw [Ipv4Packet.length_encode, bufferEnd]
    omega
  exact ⟨Notice.wellFormed_of_packet? due fits, PacketBuffer.matchesWire_laid (by simp) none short,
    PacketBuffer.frameEncap_laid room [] none⟩

open Router (datagram toSecond ping onFirst)

/-- A datagram with options is quoted as far as it goes, and an echo is answered. -/
theorem datagram_quoted :
    (∃ packet m, Notice.timeExceeded.packet? (datagram (.ofOctets 8 8 8 8)) (.ofOctets 10 0 0 1) = some packet ∧
      packet.dest = .ofOctets 10 0 0 7 ∧ packet.totalLength.toNat = packet.encode.length ∧
      Placed.readMessage (EthernetFrame.carrying packet).encode = .ok m ∧ m.value.isValid ∧
      m.value.body = [0, 0, 0, 0] ++ (datagram (.ofOctets 8 8 8 8)).header ++ [1, 2, 3]) ∧
    ∃ packet m, Notice.echoReply.packet? (ping (.ofOctets 10 0 0 7) 0) (.ofOctets 10 0 0 1) = some packet ∧
      packet.isValid ∧ Placed.readMessage (EthernetFrame.carrying packet).encode = .ok m ∧
      m.value.type = IcmpMessage.typeEchoReply ∧ m.value.body = [0, 1, 0, 1] := by
  have expired : Ipv4Packet.ofFrame toSecond.frame = .ok (datagram (.ofOctets 8 8 8 8)) := by decide +kernel
  have echo : Ipv4Packet.ofFrame (onFirst (ping (.ofOctets 10 0 0 7) 0)).frame = .ok (ping (.ofOctets 10 0 0 7) 0) := by
    decide +kernel
  obtain ⟨report, due⟩ : ∃ report,
    Notice.timeExceeded.packet? (datagram (.ofOctets 8 8 8 8)) (.ofOctets 10 0 0 1) = some report := ⟨_, rfl⟩
  obtain ⟨reply, answered⟩ : ∃ reply,
    Notice.echoReply.packet? (ping (.ofOctets 10 0 0 7) 0) (.ofOctets 10 0 0 1) = some reply := ⟨_, rfl⟩
  obtain ⟨-, -, -, reports⟩ := notice_wellFormed expired .timeExceeded (.ofOctets 10 0 0 1)
  obtain ⟨-, -, -, replies⟩ := notice_wellFormed echo .echoReply (.ofOctets 10 0 0 1)
  obtain ⟨m, read, message⟩ := (reports report due).1.transport
  obtain ⟨m', read', message'⟩ := (replies reply answered).1.transport
  refine ⟨⟨report, m, due, (reports report due).1.dest, (reports report due).1.total, read, message.valid, ?_⟩, reply,
    m', answered, (replies reply answered).1.valid, read', message'.type, ?_⟩
  · have wording := message.wording
    generalize m.value.body = body at wording ⊢
    cases wording
    rfl
  · have wording := message'.wording
    generalize m'.value.body = body at wording ⊢
    cases wording with
    | report report => cases report
    | echo read asks =>
      have asked : IcmpMessage.ofPacket (ping (.ofOctets 10 0 0 7) 0) = .ok Router.echoRequest := by decide +kernel
      cases asked.symm.trans read
      rfl

end SoftRouter
