import SoftRouter.Notice
import SoftRouter.Router.State
import SoftRouter.Wire.Arp

/-!
# Getting frames to their next hops

A delivery is sent at once if the next hop's address is known and waits for it otherwise. When an
address is given up, a notice goes to the source of every frame that waited; such a notice is again
a delivery, and may in turn find an address that is to be given up. `dispatch` works this off. It
ends because every address it gives up was overdue before and is not asked for again meanwhile.
-/

namespace SoftRouter

namespace Router

/-- The delivery of a notice about a datagram to its source: by the route back, if there is one and
the source is not the router itself. An echo reply comes from the address that was asked, a report
from that of the interface it leaves by. -/
def noticeDelivery? (r : Router) (n : Notice) (about : Ipv4Packet) : Option Delivery := do
  if r.owns about.src then none
  else
    let route ← r.routes.lookup about.src
    let i ← r.interfaces.find? route.interface
    let packet ← n.packet? about (if n.isReport then i.ip else about.dest)
    return ⟨i.name, route.nextHop about.src, { EthernetFrame.carrying packet with src := i.mac }⟩

/-- The notices due when a resolution is given up, in the order the frames came. -/
def regrets (r : Router) (given : Resolution) : List Delivery :=
  given.waiting.filterMap fun frame =>
    (Ipv4Packet.ofFrame frame).toOption.bind (r.noticeDelivery? .hostUnreachable)

/-- The question for an address on an interface, if the router has that interface. -/
def question (r : Router) (ip : Ipv4Addr) (interface : String) : List Event :=
  match r.interfaces.find? interface with
  | some i => [.announced ⟨i.name, (ArpFrame.request i.mac i.ip ip).toFrame⟩]
  | none => []

/-- Sends deliveries, or makes them wait, one after the other. The notices about frames given up on
the way come before the deliveries that are left. -/
def dispatch (r : Router) (now : Nat) (work : List Delivery) : Router × List Event :=
  match work with
  | [] => (r, [])
  | d :: rest =>
    match r.arp.mac? d.nextHop with
    | some mac =>
      let (r, events) := dispatch r now rest
      (r, .delivered d mac :: events)
    | none =>
      match _h : (r.arp.await d now).2 with
      | .waiting =>
        let (r, events) := dispatch { r with arp := (r.arp.await d now).1 } now rest
        (r, .queued d :: events)
      | .asking ip interface =>
        let (s, events) := dispatch { r with arp := (r.arp.await d now).1 } now rest
        (s, .queued d :: r.question ip interface ++ events)
      | .abandoned given =>
        let (s, events) := dispatch { r with arp := (r.arp.await d now).1 } now (r.regrets given ++ rest)
        (s, .queued d :: .abandoned given :: events)
termination_by (r.arp.overdue now, work.length)
decreasing_by
  · exact Prod.Lex.right _ (by simp)
  · have := NeighbourCache.overdue_await_le r.arp d now
    simp only [Prod.lex_def, List.length_cons]
    omega
  · have := NeighbourCache.overdue_await_le r.arp d now
    simp only [Prod.lex_def, List.length_cons]
    omega
  · exact Prod.Lex.left _ _ (NeighbourCache.overdue_await_lt ‹_›)

/-- The addresses given up, as events. -/
def abandonments (progress : List Progress) : List Event :=
  progress.filterMap fun
    | .abandoned given => some (.abandoned given)
    | _ => none

/-- Does what the progress of a resolution calls for. -/
def follow (r : Router) (now : Nat) : Progress → Router × List Event
  | .waiting => (r, [])
  | .asking ip interface => (r, r.question ip interface)
  | .abandoned given => r.dispatch now (r.regrets given)

/-- Does what the progress of several resolutions calls for, one after the other. -/
def followAll (r : Router) (now : Nat) : List Progress → Router × List Event
  | [] => (r, [])
  | p :: rest =>
    let (r, first) := r.follow now p
    let (r, later) := r.followAll now rest
    (r, first ++ later)

end Router

end SoftRouter
