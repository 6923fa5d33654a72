import SoftRouter.Wire.Icmp
import SoftRouter.Wire.Rip
import SoftRouter.Wire.Udp

/-!
# Values in the buffer they were read from

A packet, segment or message remembers what lies ahead of it in its buffer and where the layers
below it start. It can so be promoted to the layer above and demoted to the layers below; demoting
reads the buffer again, with all changes made to the value since.
-/

namespace SoftRouter

/-- Why bytes could not be read, by the layer that failed. -/
inductive ReadError where
  | ethernet (cause : EthernetError)
  | ipv4 (cause : Ipv4Error)
  | udp (cause : UdpError)
  | icmp (cause : IcmpError)
  deriving DecidableEq, Repr

/-- The wording of the cause. -/
def ReadError.message : ReadError → String
  | ethernet cause => cause.message
  | ipv4 cause => cause.message
  | udp cause => cause.message
  | icmp cause => cause.message

/-- Values that have a form on the wire. -/
class Layer (α : Type) where
  encode : α → Bytes

instance : Layer Ipv4Packet := ⟨Ipv4Packet.encode⟩
instance : Layer UdpSegment := ⟨UdpSegment.encode⟩
instance : Layer IcmpMessage := ⟨IcmpMessage.encode⟩

/-- A value at the end of a buffer: what lies before it, and where in the buffer the Ethernet header
and the IPv4 header around it start, if there are any. -/
structure Placed (α : Type) where
  before : Bytes := []
  link : Option Nat := none
  network : Option Nat := none
  value : α

namespace Placed

/-- Where the value starts. -/
def start {α : Type} (x : Placed α) : Nat := x.before.length

/-- The whole buffer. -/
def buffer {α : Type} [Layer α] (x : Placed α) : Bytes := x.before ++ Layer.encode x.value

/-- The same place with another value. -/
def map {α : Type} (x : Placed α) (f : α → α) : Placed α := { x with value := f x.value }

end Placed

/-! ## Reading at a position

Positions are words of 64 bits. Close to the greatest of them the end of a header has a small position
again, so that the header passes for one that fits although it starts behind the end of the buffer.
-/

/-- The position some bytes behind another one. -/
def positionAfter (start count : Nat) : Nat := (start + count) % 18446744073709551616

theorem positionAfter_eq {start count : Nat} (h : start + count < 18446744073709551616) :
    positionAfter start count = start + count :=
  Nat.mod_eq_of_lt h

/-- Why the header at a position names no protocol. -/
inductive HeaderError where
  | notIpv4
  /-- The header starts behind the end of the buffer, and its end wraps around into it. -/
  | outside
  deriving DecidableEq, Repr

/-- The wording of each fault. -/
def HeaderError.message : HeaderError → String
  | notIpv4 => UdpError.notInIpv4.message
  | outside => UdpError.outside.message

/-- The protocol that the IPv4 header at a position names, if it looks like one. -/
def protocolAt (buffer : Bytes) (start : Nat) : Except HeaderError IpProtocol :=
  match buffer.drop start with
  | vi :: _ :: _ :: _ :: _ :: _ :: _ :: _ :: _ :: number :: _ =>
    if vi.toNat / 16 = 4 then .ok (.ofNumber number) else .error .notIpv4
  | _ => .error (if positionAfter start 9 < buffer.length then .outside else .notIpv4)

/-- Reads the packet at a position. -/
def Ipv4Packet.readAt (buffer : Bytes) (link : Option Nat) (start : Nat) :
    Except Ipv4Error (Placed Ipv4Packet) := do
  return { before := buffer.take start, link, value := ← decode (buffer.drop start) }

/-- What is wrong with a segment that starts behind the end of the buffer while the end of its header
wraps around into it. Its length field may lie in the buffer and be out of order. -/
def UdpSegment.faultBehind (buffer : Bytes) (start : Nat) : UdpError :=
  match buffer.drop (positionAfter start 4) with
  | l1 :: l0 :: _ =>
    let length := (join16 l1 l0).toNat
    if length < headerLength ∨ buffer.length < positionAfter start length then .length else .outside
  | _ => .outside

/-- Reads the segment at a position. A header around it must name UDP. -/
def UdpSegment.readAt (buffer : Bytes) (link network : Option Nat) (start : Nat) :
    Except UdpError (Placed UdpSegment) := do
  if buffer.length < positionAfter start headerLength then throw .tooShort
  if let some n := network then
    match protocolAt buffer n with
    | .error .notIpv4 => throw .notInIpv4
    | .error .outside => throw .outside
    | .ok protocol => if protocol ≠ .udp then throw .protocol
  if buffer.length < start then throw (faultBehind buffer start)
  return { before := buffer.take start, link, network, value := ← decode (buffer.drop start) }

/-- Reads the message at a position. A header around it must name ICMP. -/
def IcmpMessage.readAt (buffer : Bytes) (link network : Option Nat) (start : Nat) :
    Except IcmpError (Placed IcmpMessage) := do
  if buffer.length < positionAfter start headerLength then throw .tooShort
  if let some n := network then
    match protocolAt buffer n with
    | .error .notIpv4 => throw .notInIpv4
    | .error .outside => throw .outside
    | .ok protocol => if protocol ≠ .icmp then throw .protocol
  if buffer.length < start then throw .outside
  return { before := buffer.take start, link, network, value := ← decode (buffer.drop start) }

namespace Placed

/-- The packet in an Ethernet frame. -/
def packetIn (frame : EthernetFrame) : Except Ipv4Error (Placed Ipv4Packet) := do
  return { before := frame.header, link := some 0, value := ← Ipv4Packet.ofFrame frame }

/-- The segment in a packet. -/
def segmentIn (p : Placed Ipv4Packet) : Except UdpError (Placed UdpSegment) :=
  UdpSegment.readAt p.buffer p.link (some p.start) (p.start + p.value.headerLength)

/-- The message in a packet. -/
def messageIn (p : Placed Ipv4Packet) : Except IcmpError (Placed IcmpMessage) :=
  IcmpMessage.readAt p.buffer p.link (some p.start) (p.start + p.value.headerLength)

/-- Reads bytes as a frame. -/
def readFrame (bytes : Bytes) : Except ReadError EthernetFrame :=
  (EthernetFrame.decode bytes).mapError .ethernet

/-- Reads bytes as a frame with a packet in it. -/
def readPacket (bytes : Bytes) : Except ReadError (Placed Ipv4Packet) := do
  (packetIn (← readFrame bytes)).mapError .ipv4

/-- Reads bytes as a frame with a segment in it. -/
def readSegment (bytes : Bytes) : Except ReadError (Placed UdpSegment) := do
  (← readPacket bytes).segmentIn.mapError .udp

/-- Reads bytes as a frame with a message in it. -/
def readMessage (bytes : Bytes) : Except ReadError (Placed IcmpMessage) := do
  (← readPacket bytes).messageIn.mapError .icmp

/-- The frame that a buffer holds from its first byte on. -/
def frameAround {α : Type} [Layer α] (x : Placed α) (absent : EthernetError) : Except EthernetError EthernetFrame :=
  if x.link = some 0 then EthernetFrame.decode x.buffer else .error absent

/-- The packet around a value. -/
def packetAround {α : Type} [Layer α] (x : Placed α) (absent : Ipv4Error) : Except Ipv4Error (Placed Ipv4Packet) :=
  match x.network with
  | some start => Ipv4Packet.readAt x.buffer x.link start
  | none => .error absent

end Placed

end SoftRouter
