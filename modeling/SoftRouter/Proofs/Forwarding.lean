import SoftRouter.Proofs.Handover
import SoftRouter.Proofs.Packet

/-!
# Forwarding keeps the datagram

A frame that is forwarded leaves the router, sooner or later, with other link addresses, one hop less to live and
the checksum that goes with it (`passedOn`); every other byte up to the end of the datagram is the byte received,
and nothing follows it (`transparent_onward`).
-/

namespace SoftRouter

/-- The bytes received as they are passed on: up to the end of the datagram, with other link addresses, one hop
less to live and another header checksum. -/
def passedOn (received : Bytes) (dest src : Mac) (checksum : UInt16) : Bytes :=
  overwrite 0 (dest.octets ++ src.octets) <| overwrite 22 [received.getD 22 0 - 1] <|
    overwrite 24 (octets16 checksum) <| received.take (EthernetFrame.headerLength + statedLength received)

/-- The bytes are a frame around a packet whose header carries the checksum it should. -/
def HeaderValid (bytes : Bytes) : Prop :=
  ∃ f p, EthernetFrame.decode bytes = .ok f ∧ Ipv4Packet.ofFrame f = .ok p ∧ p.isValid

/-- The bytes sent are those received but for the link addresses, the lifetime, which does not run out, and the
header checksum, which is the only one that is valid. -/
structure Transparent (received sent : Bytes) (dest src : Mac) : Prop where
  alive : 1 < received.getD 22 0
  bytes : ∃ checksum, sent = passedOn received dest src checksum ∧
    ∀ other, HeaderValid (passedOn received dest src other) ↔ other = checksum

/-- The frame that carries on a packet received. -/
def EthernetFrame.onward (p : Ipv4Packet) (dest src : Mac) : EthernetFrame := { carrying p with dest, src }

theorem encode_onward {f : EthernetFrame} {p : Ipv4Packet} (type : f.etherType = etherTypeIpv4)
    (read : p.ReadFrom f.payload) (dest src : Mac) (checksum : UInt16) :
    (EthernetFrame.onward (p.aged.withChecksum checksum) dest src).encode =
      passedOn f.encode dest src checksum := by
  have stated : statedLength f.encode = p.totalLength.toNat := congrArg UInt16.toNat read.total.symm
  have ttl : f.encode.getD 22 0 = p.ttl := read.ttl.symm
  have kept : f.encode.take (EthernetFrame.headerLength + p.totalLength.toNat) = f.header ++ p.encode := by
    rw [EthernetFrame.encode, ← f.length_header, List.take_length_add_append, read.encode]
  have lifetime : overwrite 22 [p.ttl - 1] (overwrite 24 (octets16 checksum) (f.header ++ p.encode)) =
      f.header ++ (p.aged.withChecksum checksum).encode := by
    rw [show 24 = f.header.length + 10 from rfl, overwrite_append, show 22 = f.header.length + 8 from rfl,
      overwrite_append, ← Ipv4Packet.encode_with]
    rfl
  rw [passedOn, stated, ttl, kept, lifetime, EthernetFrame.header, type]
  rfl

theorem transparent_onward {f : EthernetFrame} {p : Ipv4Packet} (packet : Ipv4Packet.ofFrame f = .ok p)
    (alive : 1 < p.ttl) (dest src : Mac) :
    Transparent f.encode (EthernetFrame.onward p.aged dest src).encode dest src := by
  obtain ⟨type, read⟩ := Ipv4Packet.readFrom_of_ofFrame packet
  have ttl : f.encode.getD 22 0 = p.ttl := read.ttl.symm
  have own := encode_onward type read dest src p.aged.checksum
  rw [Ipv4Packet.withChecksum_checksum] at own
  refine ⟨ttl.symm ▸ alive, p.aged.checksum, own, ?_⟩
  intro other
  have fits : (p.aged.withChecksum other).headerLength + (p.aged.withChecksum other).payload.length < 65536 := by
    have bound : p.totalLength.toNat < 65536 := p.totalLength.toNat_lt
    exact read.fits ▸ bound
  have carried : Ipv4Packet.ofFrame (EthernetFrame.onward (p.aged.withChecksum other) dest src) =
      .ok (p.aged.withChecksum other) := EthernetFrame.ofFrame_of_payload rfl rfl fits
  rw [← encode_onward type read, HeaderValid, ← Ipv4Packet.isValid_withChecksum p.isValid_aged]
  constructor
  · rintro ⟨g, q, decoded, packet', valid⟩
    rw [EthernetFrame.decode_encode] at decoded
    cases decoded
    rw [carried] at packet'
    cases packet'
    exact valid
  · intro valid
    exact ⟨_, _, EthernetFrame.decode_encode _, carried, valid⟩

namespace Router

/-! ## What is forwarded -/

/-- The router accepts a packet received for forwarding, by this route and this interface. -/
structure Accepts (r : Router) (received : Transmission) (p : Ipv4Packet) (route : RouteEntry) (egress : Interface) :
    Prop where
  packet : Ipv4Packet.ofFrame received.frame = .ok p
  valid : p.isValid
  alive : 1 < p.ttl
  matched : r.routes.lookup p.dest = some route
  elsewhere : route.interface ≠ received.interface
  port : r.interfaces.find? route.interface = some egress

/-- The delivery of a packet that is forwarded. -/
def onward (received : Transmission) (p : Ipv4Packet) (route : RouteEntry) (egress : Interface) : Delivery :=
  ⟨egress.name, route.nextHop p.dest, .onward p.aged received.frame.dest egress.mac⟩

theorem judgeLocal_cases (p : Ipv4Packet) : judgeLocal p = .ignore ∨ ∃ n, judgeLocal p = .notify n p := by
  unfold judgeLocal
  split
  · exact .inr ⟨_, rfl⟩
  · exact .inr ⟨_, rfl⟩
  · split
    · split
      · exact .inr ⟨_, rfl⟩
      · exact .inl rfl
    · exact .inl rfl
  · exact .inl rfl

theorem judgeTransit_cases (r : Router) (i : Interface) (dest : Mac) (p : Ipv4Packet) :
    r.judgeTransit i dest p = .ignore ∨ r.judgeTransit i dest p = .notify .netUnreachable p ∨
      ∃ d, r.judgeTransit i dest p = .forward d := by
  unfold judgeTransit
  split
  · exact .inr (.inl rfl)
  · split
    · exact .inl rfl
    · split
      · exact .inl rfl
      · exact .inr (.inr ⟨_, rfl⟩)

theorem judgeLocal_ne_forward (p : Ipv4Packet) (d : Delivery) : judgeLocal p ≠ .forward d := by
  rcases judgeLocal_cases p with ignored | ⟨n, notified⟩
  · simp [ignored]
  · simp [notified]

theorem judge_forward {r : Router} {i : Interface} {dest : Mac} {p : Ipv4Packet} {d : Delivery}
    (verdict : r.judge i dest p = .forward d) :
    p.isValid ∧ 1 < p.ttl ∧ r.judgeTransit i dest p.aged = .forward d := by
  unfold judge at verdict
  split at verdict
  · cases verdict
  split at verdict
  · cases verdict
  split at verdict
  · cases verdict
  split at verdict
  · exact absurd verdict (judgeLocal_ne_forward _ d)
  rename_i valid alive _
  exact ⟨by simpa using valid, UInt8.not_le.1 alive, verdict⟩

theorem judge_notify {r : Router} {i : Interface} {dest : Mac} {p about : Ipv4Packet} {n : Notice}
    (verdict : r.judge i dest p = .notify n about) : about = p ∨ about = p.aged := by
  unfold judge at verdict
  split at verdict
  · cases verdict
  split at verdict
  · cases verdict
  split at verdict
  · cases verdict
    exact .inl rfl
  refine .inr ?_
  split at verdict
  · rcases judgeLocal_cases p.aged with ignored | ⟨m, notified⟩
    · cases ignored.symm.trans verdict
    · cases notified.symm.trans verdict
      rfl
  · rcases r.judgeTransit_cases i dest p.aged with ignored | notified | ⟨d, forwarded⟩
    · cases ignored.symm.trans verdict
    · cases notified.symm.trans verdict
      rfl
    · cases forwarded.symm.trans verdict

theorem segment_of_judge {r : Router} {i : Interface} {dest : Mac} {p : Ipv4Packet} {u : UdpSegment}
    (verdict : r.judge i dest p = .rip u) : r.ripSegment? i p = some u := by
  unfold judge at verdict
  split at verdict
  · cases verdict
    assumption
  split at verdict
  · cases verdict
  split at verdict
  · cases verdict
  split at verdict
  · rcases judgeLocal_cases p.aged with ignored | ⟨m, notified⟩
    · cases ignored.symm.trans verdict
    · cases notified.symm.trans verdict
  · rcases r.judgeTransit_cases i dest p.aged with ignored | notified | ⟨d, forwarded⟩
    · cases ignored.symm.trans verdict
    · cases notified.symm.trans verdict
    · cases forwarded.symm.trans verdict

theorem ripSegment?_eq_some_iff {r : Router} {i : Interface} {p : Ipv4Packet} {u : UdpSegment} :
    r.ripSegment? i p = some u ↔ p.protocol = .udp ∧ (p.dest = ripGroup ∨ p.dest = i.ip ∧ r.rip = .running) ∧
      UdpSegment.ofPacket p = .ok u ∧ u.destPort = ripPort := by
  unfold ripSegment?
  by_cases meant : p.protocol = .udp ∧ (p.dest = ripGroup ∨ p.dest = i.ip ∧ r.rip = .running)
  · rw [if_pos meant, Option.filter_eq_some_iff, toOption_eq_some_iff, decide_eq_true_iff]
    exact ⟨fun read => ⟨meant.1, meant.2, read⟩, fun ⟨_, _, read⟩ => read⟩
  · rw [if_neg meant]
    exact iff_of_false nofun fun ⟨protocol, dest, _⟩ => meant ⟨protocol, dest⟩

theorem judgeTransit_forward {r : Router} {i : Interface} {dest : Mac} {p : Ipv4Packet} {d : Delivery}
    (verdict : r.judgeTransit i dest p = .forward d) :
    ∃ route egress, r.routes.lookup p.dest = some route ∧ route.interface ≠ i.name ∧
      r.interfaces.find? route.interface = some egress ∧
      d = ⟨egress.name, route.nextHop p.dest, .onward p dest egress.mac⟩ := by
  unfold judgeTransit at verdict
  cases matched : r.routes.lookup p.dest with
  | none => rw [matched] at verdict; cases verdict
  | some route =>
    simp only [matched] at verdict
    split at verdict
    · cases verdict
    cases port : r.interfaces.find? route.interface with
    | none => rw [port] at verdict; cases verdict
    | some egress =>
      rw [port] at verdict
      cases verdict
      exact ⟨route, egress, rfl, ‹_›, port, rfl⟩

theorem accepts_of_forwards {r : Router} {received : Transmission} {d : Delivery} (forwards : r.Forwards received d) :
    ∃ p route egress, r.Accepts received p route egress ∧ d = onward received p route egress := by
  obtain ⟨i, p, port, packet, verdict⟩ := forwards
  have name : i.name = received.interface := Keyed.key_of_find? port
  obtain ⟨valid, alive, transit⟩ := judge_forward verdict
  obtain ⟨route, egress, matched, elsewhere, egressPort, same⟩ := judgeTransit_forward transit
  exact ⟨p, route, egress, ⟨packet, valid, alive, matched, name ▸ elsewhere, egressPort⟩, same⟩

/-- A frame that is forwarded has its entry in the journal of every later run. It is sent at once if the address of
the next hop is known. As long as it waits it stands in the queue for the next hop, and goes out as soon as that makes
its address known. Once it is sent, that went out: the frame received, but for link addresses, lifetime and header
checksum, to the address known for the next hop by then. -/
theorem forwarded_transparently {interfaces : InterfaceTable} {routes : RouteTable} {r : Router}
    (created : Router.make interfaces routes = .ok r) (xs ys : List (Nat × Stimulus)) (now : Nat)
    {received : Transmission} {d : Delivery} (forwards : (r.run xs).1.Forwards received d) :
    ∃ p route egress e, (r.run xs).1.Accepts received p route egress ∧ d = onward received p route egress ∧
      (r.journal (xs ++ (now, .frame received) :: ys))[(r.journal xs).length]? = some e ∧ e.delivery = d ∧
      (∀ mac, (r.run xs).1.arp.mac? d.nextHop = some mac → e.fate = .sent (d.resolved mac)) ∧
      (e.fate = .waiting →
        (e.asked, d.frame) ∈ (r.run (xs ++ (now, .frame received) :: ys)).1.arp.queue d.nextHop ∧
        ∀ later reply mac, (r.run (xs ++ (now, .frame received) :: ys)).1.Told reply mac d.nextHop →
          (r.journal (xs ++ (now, .frame received) :: ys ++ [(later, .frame reply)]))[(r.journal xs).length]? =
            some { e with fate := .sent ⟨e.asked, { d.frame with dest := mac }⟩ }) ∧
      ∀ out, e.fate = .sent out → out ∈ transmissions (r.run (xs ++ (now, .frame received) :: ys)).2 ∧
        ∃ zs, zs <+: xs ++ (now, .frame received) :: ys ∧ r.First (r.journal xs).length e zs ∧
          ∃ mac, (r.run zs).1.arp.mac? (route.nextHop p.dest) = some mac ∧
            Transparent received.frame.encode out.frame.encode mac egress.mac := by
  obtain ⟨p, route, egress, accepts, same⟩ := accepts_of_forwards forwards
  obtain ⟨e, found, delivery, -⟩ := entry_of_forwards forwards now ys
  refine ⟨p, route, egress, e, accepts, same, found, delivery, ?_, ?_, ?_⟩
  · intro mac known
    rw [sent_of_known forwards known now ys] at found
    cases found
    rfl
  · subst delivery
    intro waiting
    refine ⟨queued_of_waiting created found waiting, ?_⟩
    intro later reply mac told
    exact sent_of_told created found waiting told later
  · intro out sent
    obtain ⟨mem, mac, resolved⟩ := sent_spec created found sent
    obtain ⟨zs, early, first⟩ := exists_first found
    have known := resolved_of_first first sent
    rw [delivery, same] at known resolved
    rw [resolved] at known
    refine ⟨mem, zs, early, first, mac, known, ?_⟩
    rw [resolved]
    exact transparent_onward accepts.packet accepts.alive mac egress.mac

def station (number : UInt8) : Mac := ⟨2, 0, 0, 0, 0, number⟩

def twoPorts : InterfaceTable := .ofList [
  ⟨"eth0", station 1, .ofOctets 10 0 0 1, .ofOctets 255 255 255 0⟩,
  ⟨"eth1", station 2, .ofOctets 10 0 1 1, .ofOctets 255 255 255 0⟩]

/-- Two networks behind one gateway, one by way of either port. -/
def sharedGateway : RouteTable := ⟨[
  .fixed (.ofOctets 8 0 0 0) (.ofOctets 255 0 0 0) (.ofOctets 10 0 1 9) "eth1",
  .fixed (.ofOctets 9 0 0 0) (.ofOctets 255 0 0 0) (.ofOctets 10 0 1 9) "eth0"]⟩

def gatewayRouter : Router := { interfaces := twoPorts, routes := sharedGateway }

/-- A datagram with options. -/
def datagram (dest : Ipv4Addr) : Ipv4Packet := .checksummed {
  tos := 0, identification := 7, fragment := 0, ttl := 9, protocolNumber := 17, checksum := 0
  src := .ofOctets 10 0 0 7, dest, options := [1, 1, 1, 0], payload := [1, 2, 3] }

/-- The datagram as a port receives it, with a trailer. -/
def datagramOn (interface : String) (port : Mac) (dest : Ipv4Addr) : Transmission :=
  ⟨interface, ⟨port, station 7, etherTypeIpv4, (datagram dest).encode ++ [170, 170]⟩⟩

/-- The datagram on its way to the gateway. -/
def datagramTo (interface : String) (port egress : Mac) (dest : Ipv4Addr) : Delivery :=
  ⟨interface, .ofOctets 10 0 1 9, .onward (datagram dest).aged port egress⟩

def gatewayReply : Transmission :=
  ⟨"eth1", (ArpFrame.ethernetIpv4 .reply (station 2) (station 9) (station 9) (station 2)
    (.ofOctets 10 0 1 9) (.ofOctets 10 0 1 1)).toFrame⟩

def toSecond : Transmission := datagramOn "eth0" (station 1) (.ofOctets 8 8 8 8)

theorem gatewayRouter_created : Router.make twoPorts sharedGateway = .ok gatewayRouter := rfl

theorem forwards_toSecond :
    gatewayRouter.Forwards toSecond (datagramTo "eth1" (station 1) (station 2) (.ofOctets 8 8 8 8)) :=
  ⟨_, datagram (.ofOctets 8 8 8 8), rfl, by decide +kernel, by decide +kernel⟩

/-- The datagram waits for the gateway and goes out when the gateway makes itself known. -/
theorem forwarded_after_reply : ∃ out mac,
    (gatewayRouter.journal [(0, .frame toSecond), (1, .frame gatewayReply)])[0]?.map Entry.fate = some (.sent out) ∧
      Transparent toSecond.frame.encode out.frame.encode mac (station 2) := by
  obtain ⟨p, route, egress, e, -, same, found, -, -, -, transparent⟩ :=
    forwarded_transparently gatewayRouter_created [] [(1, .frame gatewayReply)] 0 forwards_toSecond
  have src : station 2 = egress.mac := congrArg (fun d : Delivery => d.frame.src) same
  have fate : (gatewayRouter.journal [(0, .frame toSecond), (1, .frame gatewayReply)])[0]?.map Entry.fate =
      some (.sent ((datagramTo "eth1" (station 1) (station 2) (.ofOctets 8 8 8 8)).resolved (station 9))) := by
    rw [journal, run_cons, handle_of_forwards forwards_toSecond, dispatch_unknown (by rfl) (by decide +kernel)]
    decide +kernel
  rw [List.nil_append, journal_nil, List.length_nil] at found
  rw [found] at fate ⊢
  obtain ⟨-, zs, -, -, mac, -, passes⟩ := transparent _ (Option.some.inj fate)
  exact ⟨_, mac, fate, src ▸ passes⟩

end Router

end SoftRouter
