import SoftRouter.Wire.Icmp

/-!
# ICMP messages the router originates

Reports about datagrams that could not be passed on, and answers to echo requests. A report quotes
the header and the first bytes of the datagram it is about. None is made about a later fragment,
about another report, or to a source that is no single host.
-/

namespace SoftRouter

/-- What the router has to say about a datagram. -/
inductive Notice where
  | timeExceeded
  | netUnreachable
  | hostUnreachable
  | portUnreachable
  | echoReply
  deriving DecidableEq, Repr

/-- The lifetime of every packet the router originates for a notice. -/
def noticeTtl : UInt8 := 64

/-- How much of a datagram's payload a report quotes. -/
def quotedLength : Nat := 8

/-- Reports go to single hosts only. -/
def Ipv4Addr.isReportable (ip : Ipv4Addr) : Bool :=
  !(ip = .unspecified || ip = .broadcast || ip.isMulticast || ip.isLoopback)

/-- The payload is an ICMP message that is no report. -/
def Ipv4Packet.isHarmlessIcmp (p : Ipv4Packet) : Bool :=
  match IcmpMessage.ofPacket p with
  | .ok m => !m.isError
  | .error _ => false

/-- A report may be made about the datagram. -/
def Ipv4Packet.isReportable (p : Ipv4Packet) : Bool :=
  p.fragmentOffset = 0 && (p.protocol ≠ .icmp || p.isHarmlessIcmp) && p.src.isReportable

namespace Notice

/-- The ICMP type. -/
def type : Notice → UInt8
  | timeExceeded => IcmpMessage.typeTimeExceeded
  | netUnreachable | hostUnreachable | portUnreachable => IcmpMessage.typeUnreachable
  | echoReply => IcmpMessage.typeEchoReply

/-- The ICMP code. -/
def code : Notice → UInt8
  | timeExceeded | netUnreachable | echoReply => 0
  | hostUnreachable => 1
  | portUnreachable => 3

/-- Everything but the answer to an echo is a report. -/
def isReport (n : Notice) : Bool := n ≠ .echoReply

/-- The body of a report: a zero word, the header and the start of the payload. -/
def quotation (p : Ipv4Packet) : Bytes := [0, 0, 0, 0] ++ p.header ++ p.payload.take quotedLength

/-- The body of the message, if one is due: of a report its quotation, of an echo reply the body of
the request. -/
def body? (n : Notice) (about : Ipv4Packet) : Option Bytes :=
  if n.isReport then if about.isReportable then some (quotation about) else none
  else
    match IcmpMessage.ofPacket about with
    | .ok m => if m.type = IcmpMessage.typeEchoRequest then some m.body else none
    | .error _ => none

/-- The message with a given body. -/
def message (n : Notice) (body : Bytes) : IcmpMessage :=
  IcmpMessage.checksummed { type := n.type, code := n.code, checksum := 0, body }

/-- The packet that carries the message to the source of the datagram, if one is due. -/
def packet? (n : Notice) (about : Ipv4Packet) (src : Ipv4Addr) : Option Ipv4Packet :=
  (n.body? about).map fun body =>
    .make src about.src IpProtocol.icmp.number noticeTtl (n.message body).encode

end Notice

end SoftRouter
