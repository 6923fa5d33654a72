import SoftRouter.Proofs.Acquaintance
import SoftRouter.Proofs.Mode

/-!
# What a frame leaves alone

A frame received changes one part of the router at most. The state of the routing protocol and the interfaces stay as
they are; routes change by a response that a running protocol hears, neighbours by an answer about one of them, and a
frame that is not for the router or that it cannot read changes nothing (`handle_confined`).
-/

namespace SoftRouter

open NeighbourCache

namespace Router

/-- The routing protocol runs, and the frame brings it a response: in a datagram for the group of routers or for the
interface, to the port of the protocol, with these routes. -/
structure Informs (r : Router) (received : Transmission) (i : Interface) (p : Ipv4Packet) (u : UdpSegment)
    (payload : Bytes) (entries : List RipEntry) : Prop where
  running : r.rip = .running
  port : r.interfaces.find? received.interface = some i
  packet : Ipv4Packet.ofFrame received.frame = .ok p
  protocol : p.protocol = .udp
  dest : p.dest = ripGroup ∨ p.dest = i.ip
  segment : UdpSegment.ofPacket p = .ok u
  destPort : u.destPort = ripPort
  there : u.payload? = some payload
  message : RipMessage.decode payload = .ok ⟨.response, entries⟩

section
variable {r : Router} {received : Transmission} {now : Nat}

theorem informs_of_hears {p : Ipv4Packet} {i : Interface} {u : UdpSegment} {entries : List RipEntry}
    (read : Ipv4Packet.ofFrame received.frame = .ok p) (hears : r.Hears received p i u ⟨.response, entries⟩) :
    ∃ payload, r.Informs received i p u payload entries := by
  obtain ⟨payload, there, decoded⟩ := hears.message
  exact ⟨payload, hears.running, hears.port, read, hears.protocol, hears.dest, hears.segment, hears.destPort, there,
    decoded⟩

/-- Routes change by a response that is heard, and then nothing else does. -/
theorem informed_of_routes_ne
    (changed : (r.handle now received.interface received.frame).1.routes ≠ r.routes) :
    (∃ i p u payload entries, r.Informs received i p u payload entries) ∧
      (r.handle now received.interface received.frame).1 =
        { r with routes := (r.handle now received.interface received.frame).1.routes } ∧
      (r.handle now received.interface received.frame).2 = [] := by
  rcases hears_or_deaf r received with ⟨p, i, u, ⟨command, entries⟩, read, hears⟩ | deaf
  · rw [handle_of_hears read hears now] at changed ⊢
    cases command with
    | request => exact absurd rfl changed
    | response =>
      obtain ⟨payload, informs⟩ := informs_of_hears read hears
      exact ⟨⟨i, p, u, payload, entries, informs⟩, rfl, rfl⟩
  · exact absurd (handle_still deaf now).routes changed

theorem told_of_neighbours_ne
    (changed : (r.handle now received.interface received.frame).1.arp.neighbours ≠ r.arp.neighbours) :
    ∃ mac ip, r.Told received mac ip := by
  by_contra none
  refine changed (neighbours_of_untold ?_)
  intro mac ip told
  exact none ⟨mac, ip, told⟩

theorem handle_elsewhere (port : r.interfaces.find? received.interface = none) :
    r.handle now received.interface received.frame = (r, []) := by
  rw [handle, port]

theorem handle_of_unread (arp : ∀ f, ArpFrame.ofFrame received.frame ≠ .ok f)
    (ipv4 : ∀ p, Ipv4Packet.ofFrame received.frame ≠ .ok p) :
    r.handle now received.interface received.frame = (r, []) := by
  unfold handle
  cases r.interfaces.find? received.interface with
  | none => rfl
  | some i =>
    dsimp only
    split
    · cases read : ArpFrame.ofFrame received.frame with
      | error _ => rfl
      | ok f => exact absurd read (arp f)
    · cases read : Ipv4Packet.ofFrame received.frame with
      | error _ => rfl
      | ok p => exact absurd read (ipv4 p)

theorem handle_of_foreign (arp : received.frame.etherType ≠ etherTypeArp)
    (ipv4 : received.frame.etherType ≠ etherTypeIpv4) :
    r.handle now received.interface received.frame = (r, []) := by
  refine handle_of_unread ?_ ?_
  · intro f read
    rw [ArpFrame.ofFrame, if_neg arp] at read
    cases read
  · intro p read
    rw [Ipv4Packet.ofFrame, if_neg ipv4] at read
    cases read

/-- An answer about a neighbour touches what is known of that neighbour and what waits for it, and no more. -/
theorem handle_of_told {mac : Mac} {ip : Ipv4Addr} (told : r.Told received mac ip) :
    (r.handle now received.interface received.frame).1 =
        { r with arp := (r.handle now received.interface received.frame).1.arp } ∧
      ∀ other, other ≠ ip →
        (r.handle now received.interface received.frame).1.arp.neighbour? other = r.arp.neighbour? other ∧
          (r.handle now received.interface received.frame).1.arp.resolution? other = r.arp.resolution? other := by
  have met : r.handle now received.interface received.frame = r.meet now mac ip := respond_of_told told now
  rw [met]
  refine ⟨rfl, ?_⟩
  intro other apart
  rw [meet, neighbour?_learn, resolution?_learn, if_neg apart.symm, if_neg apart.symm]
  exact ⟨rfl, rfl⟩

end

/-- What comes of a frame received, part by part of the state. -/
structure Confined (r : Router) (received : Transmission) (done : Router × List Event) : Prop where
  rip : done.1.rip = r.rip
  interfaces : done.1.interfaces = r.interfaces
  /-- Routes change by a response that is heard, and then nothing else changes and nothing is sent. -/
  routes : done.1.routes ≠ r.routes → (∃ i p u payload entries, r.Informs received i p u payload entries) ∧
    done.1 = { r with routes := done.1.routes } ∧ done.2 = []
  /-- Neighbours change by an answer to the interface. -/
  neighbours : done.1.arp.neighbours ≠ r.arp.neighbours → ∃ mac ip, r.Told received mac ip
  /-- Such an answer touches the neighbour it is about and the resolution for it alone. -/
  told : ∀ mac ip, r.Told received mac ip → done.1 = { r with arp := done.1.arp } ∧
    ∀ other, other ≠ ip → done.1.arp.neighbour? other = r.arp.neighbour? other ∧
      done.1.arp.resolution? other = r.arp.resolution? other
  /-- Any other ARP frame changes nothing. -/
  untold : received.frame.etherType = etherTypeArp → (∀ mac ip, ¬ r.Told received mac ip) → done.1 = r
  elsewhere : r.interfaces.find? received.interface = none → done = (r, [])
  foreign : received.frame.etherType ≠ etherTypeArp → received.frame.etherType ≠ etherTypeIpv4 → done = (r, [])
  unread : (∀ f, ArpFrame.ofFrame received.frame ≠ .ok f) → (∀ p, Ipv4Packet.ofFrame received.frame ≠ .ok p) →
    done = (r, [])

/-- Each kind of frame changes its own part of the state only, in every state of the router. -/
theorem handle_confined (r : Router) (now : Nat) (received : Transmission) :
    r.Confined received (r.handle now received.interface received.frame) where
  rip := handle_rip r now received
  interfaces := run_interfaces r [(now, .frame received)]
  routes := informed_of_routes_ne
  neighbours := told_of_neighbours_ne
  told _ _ := handle_of_told
  untold type silent := handle_of_untold silent type
  elsewhere := handle_elsewhere
  foreign := handle_of_foreign
  unread := handle_of_unread

end Router

end SoftRouter
