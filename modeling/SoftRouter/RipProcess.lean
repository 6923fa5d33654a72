import SoftRouter.Delivery
import SoftRouter.Route.Table
import SoftRouter.Wire.Udp

/-!
# The routing protocol

Distance vector routing with the neighbours. The process stays idle over a table of static routes.
Otherwise it starts from the connected networks, asks every neighbour for its table, takes in what
they advertise and advertises its own table.
-/

namespace SoftRouter

/-- How far the process has come. -/
inductive RipState where
  | idle
  | bootstrapped
  | running
  deriving DecidableEq, Repr, Inhabited

/-- How long a learned route is kept after it was last advertised, in milliseconds. -/
def ripTimeout : Nat := 30000

/-- Messages to the group stay on the link. -/
def ripTtl : UInt8 := 1

namespace RipProcess

/-- The table as the neighbours are told of it. -/
def advertisement (t : RouteTable) : RipMessage :=
  ⟨.response, t.entries.map fun e => .make e.destination e.mask e.metric⟩

/-- A message in a frame that leaves by an interface. -/
def transmission (i : Interface) (destIp : Ipv4Addr) (destMac : Mac) (destPort : UInt16) (m : RipMessage) :
    Transmission :=
  let segment := UdpSegment.make ripPort destPort m.encode
  let packet := Ipv4Packet.make i.ip destIp IpProtocol.udp.number ripTtl segment.encode
  ⟨i.name, { EthernetFrame.carrying packet with src := i.mac, dest := destMac }⟩

/-- A message to all neighbours on all interfaces. -/
def toGroup (interfaces : InterfaceTable) (m : RipMessage) : List Transmission :=
  interfaces.toList.map fun i => transmission i ripGroup .broadcast ripPort m

/-- The route to the network of an interface. -/
def connected (i : Interface) : RouteEntry := .fixed i.network i.mask .unspecified i.name

/-- The process may start: it has not, and there are no routes. -/
def canBootstrap (s : RipState) (t : RouteTable) : Bool := s = .idle && t.entries.isEmpty

/-- Starts from the connected networks and asks all neighbours for their tables, if it may start. -/
def bootstrap (s : RipState) (interfaces : InterfaceTable) (t : RouteTable) :
    RipState × RouteTable × List Transmission :=
  if canBootstrap s t then (.bootstrapped, ⟨interfaces.toList.map connected⟩, toGroup interfaces .wholeTable)
  else (s, t, [])

/-- A process that has started runs. -/
def run : RipState → RipState
  | .idle => .idle
  | .bootstrapped => .running
  | .running => .running

/-- The process has started. -/
def isStarted (s : RipState) : Bool := s ≠ .idle

/-- The metric of a route through the neighbour that advertises it. -/
def metricThrough (metric : Nat) : Nat := min (metric + 1) ripInfinity

/-- Takes in one advertised route. -/
def learnEntry (i : Interface) (gateway : Ipv4Addr) (now : Nat) (t : RouteTable) (e : RipEntry) : RouteTable :=
  (t.learn? e.network e.mask gateway i.name (metricThrough e.metric) now).getD t

/-- Takes in a message of a neighbour: a request is answered with the whole table, a response goes
into the table. -/
def take (i : Interface) (neighbourIp : Ipv4Addr) (neighbourMac : Mac) (neighbourPort : UInt16) (m : RipMessage)
    (t : RouteTable) (now : Nat) : RouteTable × Option Transmission :=
  match m.command with
  | .request => (t, some (transmission i neighbourIp neighbourMac neighbourPort (advertisement t)))
  | .response => (m.entries.foldl (learnEntry i neighbourIp now) t, none)

/-- The message in a segment. -/
def message? (u : UdpSegment) : Option RipMessage :=
  u.payload?.bind fun bytes => (RipMessage.decode bytes).toOption

theorem message?_eq_some_iff {u : UdpSegment} {m : RipMessage} :
    message? u = some m ↔ ∃ payload, u.payload? = some payload ∧ RipMessage.decode payload = .ok m := by
  unfold message?
  cases u.payload? with
  | none => simp
  | some payload => cases read : RipMessage.decode payload <;> simp [Except.toOption, read]

/-- Takes in the datagram of a neighbour; only a running process does. -/
def receive (s : RipState) (i : Interface) (neighbourMac : Mac) (p : Ipv4Packet) (u : UdpSegment) (t : RouteTable)
    (now : Nat) : RouteTable × Option Transmission :=
  if s = .running then
    match message? u with
    | some m => take i p.src neighbourMac u.srcPort m t now
    | none => (t, none)
  else (t, none)

/-- Advertises the whole table on all interfaces, then drops the routes not heard of for too long;
only a running process does. -/
def tick (s : RipState) (interfaces : InterfaceTable) (t : RouteTable) (now : Nat) : RouteTable × List Transmission :=
  if s = .running then (t.expire now ripTimeout, toGroup interfaces (advertisement t)) else (t, [])

end RipProcess

end SoftRouter
