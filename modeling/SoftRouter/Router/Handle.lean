import SoftRouter.Router.Dispatch

/-!
# Received frames and passing time

What a router does with a frame received on an interface, and at its regular ticks. For an IPv4
packet a `Verdict` is found first, from the interfaces, the routes and the state of the routing
protocol alone; carrying it out is a matter of dispatching at most one delivery.
-/

namespace SoftRouter

/-- What is to be done with a received packet. -/
inductive Verdict where
  /-- Nothing. -/
  | ignore
  /-- It is a message of the routing protocol. -/
  | rip (segment : UdpSegment)
  /-- Its source is to be told something. -/
  | notify (notice : Notice) (about : Ipv4Packet)
  /-- It goes on to its next hop. -/
  | forward (delivery : Delivery)
  deriving DecidableEq

/-- The packet with one hop less to live, and the checksum that goes with it. -/
def Ipv4Packet.aged (p : Ipv4Packet) : Ipv4Packet := checksummed { p with ttl := p.ttl - 1 }

namespace Router

/-- The segment of a packet that is for the routing protocol: sent to the group of routers, or to
the address of the interface while the protocol runs. -/
def ripSegment? (r : Router) (i : Interface) (p : Ipv4Packet) : Option UdpSegment :=
  if p.protocol = .udp ∧ (p.dest = ripGroup ∨ p.dest = i.ip ∧ r.rip = .running) then
    (UdpSegment.ofPacket p).toOption.filter fun u => u.destPort = ripPort
  else none

/-- The verdict on a packet to one of the router's own addresses: echo requests are answered, and
no port is open. -/
def judgeLocal (p : Ipv4Packet) : Verdict :=
  match p.protocol with
  | .tcp | .udp => .notify .portUnreachable p
  | .icmp =>
    match IcmpMessage.ofPacket p with
    | .ok m => if m.type = IcmpMessage.typeEchoRequest then .notify .echoReply p else .ignore
    | .error _ => .ignore
  | .other _ => .ignore

/-- The verdict on a packet to be passed on, received on `i` in a frame to `dest`: it leaves by the
interface of its route, but never by the one it came in on. -/
def judgeTransit (r : Router) (i : Interface) (dest : Mac) (p : Ipv4Packet) : Verdict :=
  match r.routes.lookup p.dest with
  | none => .notify .netUnreachable p
  | some route =>
    if route.interface = i.name then .ignore
    else
      match r.interfaces.find? route.interface with
      | none => .ignore
      | some egress =>
        .forward ⟨egress.name, route.nextHop p.dest, { EthernetFrame.carrying p with src := egress.mac, dest }⟩

/-- The verdict on a packet received on `i` in a frame to `dest`. -/
def judge (r : Router) (i : Interface) (dest : Mac) (p : Ipv4Packet) : Verdict :=
  match r.ripSegment? i p with
  | some segment => .rip segment
  | none =>
    if !p.isValid then .ignore
    else if p.ttl ≤ 1 then .notify .timeExceeded p
    else if r.owns p.dest then judgeLocal p.aged
    else r.judgeTransit i dest p.aged

/-- Takes in a packet of the routing protocol. -/
def takeRip (r : Router) (now : Nat) (i : Interface) (src : Mac) (p : Ipv4Packet) (u : UdpSegment) :
    Router × List Event :=
  let (routes, answer) := RipProcess.receive r.rip i src p u r.routes now
  ({ r with routes }, answer.toList.map .announced)

/-- Handles a packet received on `i` in a frame from `src` to `dest`. -/
def handlePacket (r : Router) (now : Nat) (i : Interface) (src dest : Mac) (p : Ipv4Packet) : Router × List Event :=
  match r.judge i dest p with
  | .ignore => (r, [])
  | .rip segment => r.takeRip now i src p segment
  | .notify notice about => r.dispatch now (r.noticeDelivery? notice about).toList
  | .forward delivery => r.dispatch now [delivery]

/-- Takes in a neighbour that made itself known: the frames that waited for it are sent. -/
def meet (r : Router) (now : Nat) (mac : Mac) (ip : Ipv4Addr) : Router × List Event :=
  let waiting := (r.arp.resolution? ip).toList.flatMap Resolution.deliveries
  ({ r with arp := r.arp.learn mac ip now }, waiting.map fun d => .released d mac)

/-- Handles an ARP frame received on `i`. Only frames about the address of that interface matter: a
question is answered, and an answer is taken in. -/
def handleArp (r : Router) (now : Nat) (i : Interface) (f : ArpFrame) : Router × List Event :=
  if f.isEthernetIpv4 ∧ f.targetIp? = some i.ip then
    match f.op? with
    | some .request => (r, ((f.replyTo? i.mac i.ip).map fun reply => .announced ⟨i.name, reply.toFrame⟩).toList)
    | some .reply =>
      match f.senderMac?, f.senderIp? with
      | some mac, some ip => r.meet now mac ip
      | _, _ => (r, [])
    | none => (r, [])
  else (r, [])

/-- Handles a frame received on the interface of this name. -/
def handle (r : Router) (now : Nat) (interface : String) (frame : EthernetFrame) : Router × List Event :=
  match r.interfaces.find? interface with
  | none => (r, [])
  | some i =>
    if frame.etherType = etherTypeArp then
      match ArpFrame.ofFrame frame with
      | .ok f => r.handleArp now i f
      | .error _ => (r, [])
    else
      match Ipv4Packet.ofFrame frame with
      | .ok p => r.handlePacket now i frame.src frame.dest p
      | .error _ => (r, [])

/-- The regular moment of address resolution: the resolutions are come upon in some order, addresses are given up all at
once, and then the questions and the notices go out, all at the one reading of the clock. -/
def arpTick (r : Router) (now : Nat) (order : List Ipv4Addr := []) : Router × List Event :=
  let progress := r.arp.tickProgress now order
  let (r, events) := followAll { r with arp := r.arp.tick now } now progress
  (r, abandonments progress ++ events)

/-- The regular moment of the routing protocol. -/
def ripTick (r : Router) (now : Nat) : Router × List Event :=
  let (routes, sent) := RipProcess.tick r.rip r.interfaces r.routes now
  ({ r with routes }, sent.map .announced)

end Router

end SoftRouter
