import SoftRouter.Interface
import SoftRouter.Wire.Rip

/-!
# The route table

An ordered list of routes. Lookup takes the most specific reachable route, the earliest of several;
a route is addressed by its destination and mask, and learning keeps one entry for each such pair.
-/

namespace SoftRouter

/-- A route. A gateway of zero means that the destination is on the link itself. A route with a time
was learned then and ages; one without stays for ever. -/
structure RouteEntry where
  destination : Ipv4Addr
  mask : Ipv4Addr
  gateway : Ipv4Addr
  interface : String
  metric : Nat := 0
  learnedAt : Option Nat := none
  deriving DecidableEq, Repr, Inhabited

namespace RouteEntry

/-- A route that stays for ever, to the network that the mask selects. -/
def fixed (destination mask gateway : Ipv4Addr) (interface : String) : RouteEntry :=
  { destination := destination.masked mask, mask, gateway, interface }

/-- The route was learned from a neighbour. -/
def isLearned (e : RouteEntry) : Bool := e.learnedAt.isSome

/-- The address lies in the network of the route. -/
def covers (e : RouteEntry) (ip : Ipv4Addr) : Bool := e.destination.masked e.mask = ip.masked e.mask

/-- The address lies in the network of the route, and the network can be reached. -/
def reaches (e : RouteEntry) (ip : Ipv4Addr) : Bool := e.metric < ripInfinity && e.covers ip

/-- The route has this destination and mask. -/
def isFor (e : RouteEntry) (destination mask : Ipv4Addr) : Bool := e.destination = destination && e.mask = mask

/-- The address on the link that frames for `ip` go to. -/
def nextHop (e : RouteEntry) (ip : Ipv4Addr) : Ipv4Addr := if e.gateway = .unspecified then ip else e.gateway

/-- The route was learned more than `timeout` ago. -/
def isStale (e : RouteEntry) (now timeout : Nat) : Bool := e.learnedAt.any fun t => timeout < now - t

end RouteEntry

/-- Routes in the order they were added. -/
structure RouteTable where
  entries : List RouteEntry := []
  deriving DecidableEq, Repr, Inhabited

namespace RouteTable

/-- The table with a route at its end. -/
def add (t : RouteTable) (e : RouteEntry) : RouteTable := ⟨t.entries ++ [e]⟩

/-- The first route with this destination and mask. -/
def find? (t : RouteTable) (destination mask : Ipv4Addr) : Option RouteEntry :=
  t.entries.find? fun e => e.isFor destination mask

/-- The table without the first route with this destination and mask. -/
def remove (t : RouteTable) (destination mask : Ipv4Addr) : RouteTable :=
  ⟨t.entries.eraseP fun e => e.isFor destination mask⟩

/-- Changes the first element that passes a test. -/
def modifyFirst (p : RouteEntry → Bool) (f : RouteEntry → RouteEntry) : List RouteEntry → List RouteEntry
  | [] => []
  | e :: rest => if p e then f e :: rest else e :: modifyFirst p f rest

/-- Gives the first route with this destination and mask another way, and another metric if one is
given. -/
def update (t : RouteTable) (destination mask gateway : Ipv4Addr) (interface : String) (metric : Option Nat) :
    RouteTable :=
  ⟨modifyFirst (fun e => e.isFor destination mask)
    (fun e => { e with gateway, interface, metric := metric.getD e.metric }) t.entries⟩

/-- Takes in a learned route: in the place of the learned route to the same network, else at the
end; not at all if a fixed route to that network is there. -/
def learnInto (e : RouteEntry) : List RouteEntry → Option (List RouteEntry)
  | [] => some [e]
  | x :: rest =>
    if x.isFor e.destination e.mask then
      if x.isLearned then some (e :: rest) else none
    else (learnInto e rest).map (x :: ·)

/-- Takes in a route heard from a neighbour now. The newest word wins whatever its metric, but a
fixed route is left alone: then the answer is `none`. -/
def learn? (t : RouteTable) (network mask gateway : Ipv4Addr) (interface : String) (metric now : Nat) :
    Option RouteTable :=
  (learnInto { destination := network.masked mask, mask, gateway, interface, metric, learnedAt := some now }
    t.entries).map fun entries => ⟨entries⟩

/-- The learned routes older than `timeout`. -/
def stale (t : RouteTable) (now timeout : Nat) : List RouteEntry := t.entries.filter fun e => e.isStale now timeout

/-- The table without the learned routes older than `timeout`. -/
def expire (t : RouteTable) (now timeout : Nat) : RouteTable :=
  ⟨t.entries.filter fun e => !e.isStale now timeout⟩

/-- The first of the routes whose mask is numerically largest. -/
def mostSpecific : List RouteEntry → Option RouteEntry
  | [] => none
  | e :: rest =>
    match mostSpecific rest with
    | none => some e
    | some best => if e.mask.bits < best.mask.bits then some best else some e

/-- The most specific route that reaches an address. -/
def lookup (t : RouteTable) (ip : Ipv4Addr) : Option RouteEntry :=
  mostSpecific (t.entries.filter fun e => e.reaches ip)

/-- The first interface name in the table that no interface has. -/
def unknownInterface? (t : RouteTable) (interfaces : InterfaceTable) : Option String :=
  (t.entries.find? fun e => !InterfaceTable.contains interfaces e.interface).map RouteEntry.interface

/-- A text filled up with spaces on the right. -/
def pad (width : Nat) (text : String) : String := text.pushn ' ' (width - text.length)

/-- One line of the table. -/
def row (destination gateway mask interface metric : String) : String :=
  pad 16 destination ++ pad 16 gateway ++ pad 16 mask ++ pad 8 interface ++ metric ++ "\n"

/-- The table shown to an operator. -/
def text (t : RouteTable) : String :=
  if t.entries.isEmpty then " * warning * Routing table empty"
  else
    row "Destination" "Gateway" "Mask" "Iface" "Metric" ++
      String.join (t.entries.map fun e =>
        row e.destination.text e.gateway.text e.mask.text e.interface (toString e.metric))

end RouteTable

end SoftRouter
