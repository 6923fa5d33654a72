import SoftRouter.Proofs.Forwarding

/-!
# Packets with a corrupted header

The header checksum is looked at behind the routing protocol and before all else. A packet whose header fails it has
no effect, unless it is a message that the running protocol hears: then it has the effect of the message (`heard`)
and no other.
-/

namespace SoftRouter

namespace Router

/-- The routing protocol runs, and the packet received brings it a message: in a datagram for the group of routers or
for the interface, to the port of the protocol. -/
structure Hears (r : Router) (received : Transmission) (p : Ipv4Packet) (i : Interface) (u : UdpSegment)
    (m : RipMessage) : Prop where
  running : r.rip = .running
  port : r.interfaces.find? received.interface = some i
  protocol : p.protocol = .udp
  dest : p.dest = ripGroup ∨ p.dest = i.ip
  segment : UdpSegment.ofPacket p = .ok u
  destPort : u.destPort = ripPort
  message : ∃ payload, u.payload? = some payload ∧ RipMessage.decode payload = .ok m

/-- The packet received brings the routing protocol no message. -/
def Deaf (r : Router) (received : Transmission) (p : Ipv4Packet) : Prop := ∀ i u m, ¬ r.Hears received p i u m

/-- The router's own tests find the segment and the message of just the packets that bring one. -/
theorem hears_iff {r : Router} {received : Transmission} {p : Ipv4Packet} {i : Interface} {u : UdpSegment}
    {m : RipMessage} : r.Hears received p i u m ↔ r.rip = .running ∧
      r.interfaces.find? received.interface = some i ∧ r.ripSegment? i p = some u ∧
      RipProcess.message? u = some m := by
  rw [ripSegment?_eq_some_iff, RipProcess.message?_eq_some_iff]
  constructor
  · intro hears
    refine ⟨hears.running, hears.port, ⟨hears.protocol, ?_, hears.segment, hears.destPort⟩, hears.message⟩
    exact hears.dest.imp_right fun own => ⟨own, hears.running⟩
  · rintro ⟨running, port, ⟨protocol, dest, segment, destPort⟩, message⟩
    exact ⟨running, port, protocol, dest.imp_right And.left, segment, destPort, message⟩

/-- What a message heard does: a request is answered with the table, and a response is taken into it. -/
def heard (r : Router) (now : Nat) (received : Transmission) (p : Ipv4Packet) (i : Interface) (u : UdpSegment)
    (m : RipMessage) : Router × List Event :=
  match m.command with
  | .request => (r, [.announced (RipProcess.transmission i p.src received.frame.src u.srcPort
      (RipProcess.advertisement r.routes))])
  | .response => ({ r with routes := m.entries.foldl (RipProcess.learnEntry i p.src now) r.routes }, [])

theorem takeRip_of_hears {r : Router} {received : Transmission} {p : Ipv4Packet} {i : Interface} {u : UdpSegment}
    {m : RipMessage} (hears : r.Hears received p i u m) (now : Nat) :
    r.takeRip now i received.frame.src p u = r.heard now received p i u m := by
  obtain ⟨running, -, -, message⟩ := hears_iff.1 hears
  rw [takeRip, RipProcess.receive, if_pos running, message, heard]
  dsimp only
  rw [RipProcess.take]
  cases m.command <;> rfl

theorem takeRip_of_deaf {r : Router} {received : Transmission} {p : Ipv4Packet} {i : Interface} {u : UdpSegment}
    (port : r.interfaces.find? received.interface = some i) (segment : r.ripSegment? i p = some u)
    (deaf : r.Deaf received p) (now : Nat) : r.takeRip now i received.frame.src p u = (r, []) := by
  rw [takeRip, RipProcess.receive]
  by_cases running : r.rip = .running
  · rw [if_pos running]
    cases message : RipProcess.message? u with
    | none => rfl
    | some m => exact absurd (hears_iff.2 ⟨running, port, segment, message⟩) (deaf i u m)
  · rw [if_neg running]
    rfl

theorem deaf_or_hears {r : Router} {received : Transmission} {p : Ipv4Packet} {i : Interface} {u : UdpSegment}
    (port : r.interfaces.find? received.interface = some i) (segment : r.ripSegment? i p = some u) :
    r.Deaf received p ∨ ∃ m, r.Hears received p i u m := by
  by_cases hears : ∃ m, r.Hears received p i u m
  · exact .inr hears
  · refine .inl ?_
    intro i' u' m hears'
    obtain ⟨-, port', segment', -⟩ := hears_iff.1 hears'
    cases port.symm.trans port'
    cases segment.symm.trans segment'
    exact hears ⟨m, hears'⟩

/-- A packet with a corrupted header has no effect, or that of the message heard in it. -/
theorem handle_of_corrupted {r : Router} {received : Transmission} {p : Ipv4Packet}
    (packet : Ipv4Packet.ofFrame received.frame = .ok p) (corrupted : p.isValid = false) (now : Nat) :
    (r.Deaf received p → r.handle now received.interface received.frame = (r, [])) ∧
      ∀ i u m, r.Hears received p i u m →
        r.handle now received.interface received.frame = r.heard now received p i u m := by
  constructor
  · intro deaf
    cases port : r.interfaces.find? received.interface with
    | none => rw [handle, port]
    | some i =>
      rw [handle_of_packet packet port, handlePacket, judge]
      cases segment : r.ripSegment? i p with
      | some u => exact takeRip_of_deaf port segment deaf now
      | none => simp only [corrupted, Bool.not_false, if_true]
  · intro i u m hears
    obtain ⟨-, port, segment, -⟩ := hears_iff.1 hears
    rw [handle_of_packet packet port, handlePacket, judge, segment]
    exact takeRip_of_hears hears now

/-- A router that starts without routes and so runs the protocol. -/
def bareRouter : Router := { interfaces := twoPorts, routes := {} }

def sevenNet : RipMessage := ⟨.response, [.make (.ofOctets 7 0 0 0) (.ofOctets 255 0 0 0) 1]⟩

/-- The neighbour's message in a packet whose header does not carry the checksum it should. -/
def corruptedResponse : Ipv4Packet :=
  (Ipv4Packet.make (.ofOctets 10 0 0 7) ripGroup 17 ripTtl (UdpSegment.make ripPort ripPort sevenNet.encode).encode)
    |>.withChecksum 0

def onFirst (p : Ipv4Packet) : Transmission := ⟨"eth0", ⟨station 1, station 7, etherTypeIpv4, p.encode⟩⟩

/-- A response with a corrupted header changes the routes of a running router. -/
theorem corrupted_response_learned :
    Ipv4Packet.ofFrame (onFirst corruptedResponse).frame = .ok corruptedResponse ∧ corruptedResponse.isValid = false ∧
      (bareRouter.run [(0, .init)]).1.routes.lookup (.ofOctets 7 7 7 7) = none ∧
      ((bareRouter.run [(0, .init), (1, .frame (onFirst corruptedResponse))]).1.routes.lookup
        (.ofOctets 7 7 7 7)).map RouteEntry.gateway = some (.ofOctets 10 0 0 7) := by
  decide +kernel

/-- A datagram with a corrupted header is dropped, and a response with one is heard. -/
theorem corrupted_dropped_or_heard :
    gatewayRouter.handle 0 "eth0" (onFirst ((datagram (.ofOctets 8 8 8 8)).withChecksum 0)).frame =
        (gatewayRouter, []) ∧
      ∃ i u, (bareRouter.run [(0, .init)]).1.handle 1 "eth0" (onFirst corruptedResponse).frame =
        (bareRouter.run [(0, .init)]).1.heard 1 (onFirst corruptedResponse) corruptedResponse i u sevenNet := by
  constructor
  · have packet : Ipv4Packet.ofFrame (onFirst ((datagram (.ofOctets 8 8 8 8)).withChecksum 0)).frame =
        .ok ((datagram (.ofOctets 8 8 8 8)).withChecksum 0) := by decide +kernel
    exact (handle_of_corrupted (r := gatewayRouter) packet (by decide +kernel) 0).1 fun _ _ _ hears => by
      cases hears.running
  · have packet : Ipv4Packet.ofFrame (onFirst corruptedResponse).frame = .ok corruptedResponse := by decide +kernel
    have hears : (bareRouter.run [(0, .init)]).1.Hears (onFirst corruptedResponse) corruptedResponse
        ⟨"eth0", station 1, .ofOctets 10 0 0 1, .ofOctets 255 255 255 0⟩
        (UdpSegment.make ripPort ripPort sevenNet.encode) sevenNet :=
      hears_iff.2 ⟨by decide +kernel, by decide +kernel, by decide +kernel, by decide +kernel⟩
    exact ⟨_, _, (handle_of_corrupted packet (by decide +kernel) 1).2 _ _ _ hears⟩

end Router

end SoftRouter
