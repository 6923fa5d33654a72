import SoftRouter.Wire.Ethernet
import SoftRouter.Address.Ipv4

/-!
# Frames on their way out

A transmission is a frame as it leaves by an interface. A delivery is a frame that still needs the
link address of its next hop.
-/

namespace SoftRouter

/-- A frame put on the wire of an interface. -/
structure Transmission where
  interface : String
  frame : EthernetFrame
  deriving DecidableEq, Repr, Inhabited

/-- A frame to be sent to a station on the link of an interface, whose MAC address may not be known. -/
structure Delivery where
  interface : String
  nextHop : Ipv4Addr
  frame : EthernetFrame
  deriving DecidableEq, Repr, Inhabited

/-- The frame of a delivery on the wire, addressed to the station. -/
def Delivery.resolved (d : Delivery) (mac : Mac) : Transmission := ⟨d.interface, { d.frame with dest := mac }⟩

end SoftRouter
