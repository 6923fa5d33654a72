import SoftRouter.Address.Ipv4
import SoftRouter.Address.Mac
import SoftRouter.Keyed

/-!
# Interfaces

The ports of a router, held in the order of their names.
-/

namespace SoftRouter

/-- A port of the router and the addresses it answers for. -/
structure Interface where
  name : String
  mac : Mac
  ip : Ipv4Addr
  mask : Ipv4Addr
  deriving DecidableEq, Repr, Inhabited

namespace Interface

/-- The directly connected subnet. -/
def network (i : Interface) : Ipv4Addr := i.ip.masked i.mask

/-- The description shown to an operator. -/
def text (i : Interface) : String :=
  i.name ++ "\tHWaddr " ++ i.mac.text ++ "\n\tinet addr " ++ i.ip.text ++ " mask " ++ i.mask.text

end Interface

/-- Interfaces in the order of their names, each name once. -/
abbrev InterfaceTable := Keyed Interface.name

namespace InterfaceTable

/-- Some interface has this name. -/
def contains (t : InterfaceTable) (name : String) : Bool := (t.find? name).isSome

/-- The first interface that has this address. -/
def owning? (t : InterfaceTable) (ip : Ipv4Addr) : Option Interface := t.toList.find? fun i => i.ip = ip

end InterfaceTable

end SoftRouter
