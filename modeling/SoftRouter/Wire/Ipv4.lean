import SoftRouter.Address.Ipv4
import SoftRouter.Checksum
import SoftRouter.Wire.Ethernet

/-!
# IPv4 packets

A header with options and a payload. The header length and the total length are not stored: they
follow from the options and the payload, so a packet always agrees with them. Bytes after the total
length are link layer padding and are dropped on reading.
-/

namespace SoftRouter

/-- What a packet carries. -/
inductive IpProtocol where
  | icmp
  | tcp
  | udp
  | other (number : UInt8)
  deriving DecidableEq, Repr

namespace IpProtocol

/-- The protocol a number stands for. -/
def ofNumber (number : UInt8) : IpProtocol :=
  if number = 1 then icmp else if number = 6 then tcp else if number = 17 then udp else other number

/-- The number of a protocol. -/
def number : IpProtocol → UInt8
  | icmp => 1
  | tcp => 6
  | udp => 17
  | other n => n

@[simp] theorem number_ofNumber (n : UInt8) : (ofNumber n).number = n := by
  unfold ofNumber
  grind [number]

/-- The name of a protocol, or its number where it has none here. -/
def name : IpProtocol → String
  | icmp => "ICMP"
  | tcp => "TCP"
  | udp => "UDP"
  | other n => "Other(" ++ toString n.toNat ++ ")"

end IpProtocol

/-! ## Packets -/

/-- An IPv4 packet. The options fill whole words, of which the header has room for ten. -/
structure Ipv4Packet where
  tos : UInt8
  identification : UInt16
  fragment : UInt16
  ttl : UInt8
  protocolNumber : UInt8
  checksum : UInt16
  src : Ipv4Addr
  dest : Ipv4Addr
  options : Bytes
  payload : Bytes
  options_whole : options.length % 4 = 0 := by rfl
  options_fit : options.length ≤ 40 := by simp
  deriving DecidableEq

/-- What is wrong with bytes, or with the buffer of a value, that should hold a packet. -/
inductive Ipv4Error where
  | etherType
  | tooShort
  | version
  | headerLength
  | totalLength
  | notAroundSegment
  | notAroundMessage
  deriving DecidableEq, Repr

/-- The wording of each fault. -/
def Ipv4Error.message : Ipv4Error → String
  | etherType => "Frame does not have IPv4 ether type"
  | tooShort => "Data is too short to be an IPv4 Packet"
  | version => "Packet has incorrect version, is not Ipv4Packet"
  | headerLength => "Packet has an IHL shorter than the minimum header"
  | totalLength => "Packet has invalid total length field"
  | notAroundSegment => "UDP Segment does not contain an IP Packet"
  | notAroundMessage => "ICMP Message does not contain an IP Packet"

namespace Ipv4Packet

/-- The length of the header in words. -/
def ihl (p : Ipv4Packet) : Nat := 5 + p.options.length / 4

/-- The length of the header in bytes. -/
def headerLength (p : Ipv4Packet) : Nat := 20 + p.options.length

/-- The total length field: 16 bits, so a longer packet wraps around. -/
def totalLength (p : Ipv4Packet) : UInt16 := UInt16.ofNat (p.headerLength + p.payload.length)

/-- The protocol of the payload. -/
def protocol (p : Ipv4Packet) : IpProtocol := IpProtocol.ofNumber p.protocolNumber

/-- The position of the payload in the datagram it is a fragment of, in units of eight bytes. -/
def fragmentOffset (p : Ipv4Packet) : Nat := p.fragment.toNat % 8192

theorem headerLength_eq (p : Ipv4Packet) : p.headerLength = 4 * p.ihl := by
  have := p.options_whole
  simp only [headerLength, ihl]
  omega

/-- The header bytes, options included, with the given checksum. -/
def headerWith (p : Ipv4Packet) (checksum : UInt16) : Bytes :=
  [UInt8.ofNat (64 + p.ihl), p.tos] ++ octets16 p.totalLength ++ octets16 p.identification ++
    octets16 p.fragment ++ [p.ttl, p.protocolNumber] ++ octets16 checksum ++
    p.src.octets ++ p.dest.octets ++ p.options

/-- The header bytes, options included. -/
def header (p : Ipv4Packet) : Bytes := p.headerWith p.checksum

/-- The bytes of the packet. -/
def encode (p : Ipv4Packet) : Bytes := p.header ++ p.payload

@[simp] theorem length_headerWith (p : Ipv4Packet) (checksum : UInt16) :
    (p.headerWith checksum).length = p.headerLength := by
  simp [headerWith, headerLength]
  omega

@[simp] theorem length_header (p : Ipv4Packet) : p.header.length = p.headerLength :=
  length_headerWith p p.checksum

@[simp] theorem length_encode (p : Ipv4Packet) : p.encode.length = p.headerLength + p.payload.length := by
  simp [encode]

/-- Reads a packet from the front of a byte string. -/
def decode : Bytes → Except Ipv4Error Ipv4Packet
  | vi :: tos :: l1 :: l0 :: i1 :: i0 :: f1 :: f0 :: ttl :: protocolNumber :: c1 :: c0 ::
      s3 :: s2 :: s1 :: s0 :: d3 :: d2 :: d1 :: d0 :: rest =>
    let ihl := vi.toNat % 16
    let total := (join16 l1 l0).toNat
    if vi.toNat / 16 ≠ 4 then .error .version
    else if long : ihl < 5 then .error .headerLength
    else if fits : total < 4 * ihl ∨ 20 + rest.length < total then .error .totalLength
    else
      let body := rest.take (total - 20)
      .ok {
        tos, ttl, protocolNumber
        identification := join16 i1 i0
        fragment := join16 f1 f0
        checksum := join16 c1 c0
        src := .ofOctets s3 s2 s1 s0
        dest := .ofOctets d3 d2 d1 d0
        options := body.take (4 * ihl - 20)
        payload := body.drop (4 * ihl - 20)
        options_whole := by
          simp only [body, List.length_take]
          omega
        options_fit := by
          simp only [List.length_take, ihl]
          omega }
  | _ => .error .tooShort

/-- Reads the payload of an Ethernet frame. -/
def ofFrame (frame : EthernetFrame) : Except Ipv4Error Ipv4Packet :=
  if frame.etherType = etherTypeIpv4 then decode frame.payload else .error .etherType

theorem ofFrame_of_arp {frame : EthernetFrame} (arp : frame.etherType = etherTypeArp) :
    ofFrame frame = .error .etherType := by
  rw [ofFrame, arp, if_neg (by decide)]

/-- The checksum the header should carry: that of the header with a zero checksum field. -/
def headerChecksum (p : Ipv4Packet) : UInt16 := internetChecksum (p.headerWith 0)

/-- The header carries the checksum it should. -/
def isValid (p : Ipv4Packet) : Bool := p.checksum = p.headerChecksum

/-- The packet with another value in the checksum field. -/
def withChecksum (p : Ipv4Packet) (checksum : UInt16) : Ipv4Packet := { p with checksum }

/-- The packet with the checksum its header should carry. -/
def checksummed (p : Ipv4Packet) : Ipv4Packet := p.withChecksum p.headerChecksum

@[simp] theorem headerWith_withChecksum (p : Ipv4Packet) (c d : UInt16) :
    (p.withChecksum c).headerWith d = p.headerWith d := rfl

@[simp] theorem headerChecksum_withChecksum (p : Ipv4Packet) (c : UInt16) :
    (p.withChecksum c).headerChecksum = p.headerChecksum :=
  congrArg internetChecksum (headerWith_withChecksum p c 0)

@[simp] theorem isValid_checksummed (p : Ipv4Packet) : p.checksummed.isValid = true :=
  decide_eq_true (headerChecksum_withChecksum p p.headerChecksum).symm

/-- A packet in a fresh header without options, with a valid checksum. -/
def make (src dest : Ipv4Addr) (protocolNumber ttl : UInt8) (payload : Bytes) : Ipv4Packet :=
  checksummed {
    tos := 0, identification := 0, fragment := 0, ttl, protocolNumber, checksum := 0, src, dest
    options := [], payload }

end Ipv4Packet

/-- A frame with zero addresses around a packet. -/
def EthernetFrame.carrying (p : Ipv4Packet) : EthernetFrame :=
  ⟨Mac.zero, Mac.zero, etherTypeIpv4, p.encode⟩

end SoftRouter
