import SoftRouter.Neighbours
import SoftRouter.RipProcess

/-!
# The router and what it does

A router is its interfaces, its routes, the addresses it knows or asks for, and the state of its
routing protocol. What it does is a list of events in the order they happen; those that put a frame
on a wire are its transmissions.
-/

namespace SoftRouter

/-- A router between two frames. -/
structure Router where
  interfaces : InterfaceTable
  routes : RouteTable
  arp : NeighbourCache := {}
  rip : RipState := .idle

/-- One thing a router does. -/
inductive Event where
  /-- A frame of the router's own is sent as it is. -/
  | announced (transmission : Transmission)
  /-- A frame is sent at once, since the address of its next hop is known. -/
  | delivered (delivery : Delivery) (mac : Mac)
  /-- A frame begins to wait for the address of its next hop. -/
  | queued (delivery : Delivery)
  /-- A frame that waited is sent, since the address became known. -/
  | released (delivery : Delivery) (mac : Mac)
  /-- An address does not answer, and the frames that wait for it are given up. -/
  | abandoned (resolution : Resolution)
  deriving DecidableEq, Repr

/-- The frame that an event puts on a wire. -/
def Event.transmission? : Event → Option Transmission
  | announced t => some t
  | delivered d mac => some (d.resolved mac)
  | queued _ => none
  | released d mac => some (d.resolved mac)
  | abandoned _ => none

/-- The frames that events put on wires, in order. -/
def transmissions (events : List Event) : List Transmission := events.filterMap Event.transmission?

namespace Router

/-- A router with its routes, or the name of an interface that a route needs and the router lacks. -/
def make (interfaces : InterfaceTable) (routes : RouteTable) : Except String Router :=
  match routes.unknownInterface? interfaces with
  | some name => .error name
  | none => .ok { interfaces, routes }

/-- The address is one of the router's own. -/
def owns (r : Router) (ip : Ipv4Addr) : Bool := (InterfaceTable.owning? r.interfaces ip).isSome

/-- Brings the routing protocol up, unless there are static routes. -/
def init (r : Router) : Router × List Event :=
  let (rip, routes, sent) := RipProcess.bootstrap r.rip r.interfaces r.routes
  ({ r with rip := RipProcess.run rip, routes }, sent.map .announced)

end Router

end SoftRouter
