import SoftRouter.Address.Mac

/-!
# Ethernet frames

Two addresses, a type and a payload. A frame of at least 14 bytes always reads, and reading and
writing are inverse.
-/

namespace SoftRouter

/-- An Ethernet II frame. -/
structure EthernetFrame where
  dest : Mac
  src : Mac
  etherType : UInt16
  payload : Bytes
  deriving DecidableEq, Repr, Inhabited

/-- What is wrong with bytes, or with the buffer of a value, that should hold a frame. -/
inductive EthernetError where
  | tooShort
  | notAroundPacket
  | notAroundSegment
  | notAroundMessage
  deriving DecidableEq, Repr

/-- The wording of each fault. -/
def EthernetError.message : EthernetError → String
  | tooShort => "Frame is less than the minimum of 14 bytes"
  | notAroundPacket => "IPv4 Packet does not contain an Ethernet Frame"
  | notAroundSegment => "UDP Segment does not contain an Ethernet Frame"
  | notAroundMessage => "ICMP Message does not contain an Ethernet Frame"

/-- The ether type of ARP. -/
def etherTypeArp : UInt16 := 0x0806

/-- The ether type of IPv4. -/
def etherTypeIpv4 : UInt16 := 0x0800

namespace EthernetFrame

/-- The length of the header in front of the payload. -/
def headerLength : Nat := 14

/-- A frame whose header is zero and whose payload is empty. -/
def empty : EthernetFrame := ⟨Mac.zero, Mac.zero, 0, []⟩

/-- The header bytes. -/
def header (f : EthernetFrame) : Bytes := f.dest.octets ++ f.src.octets ++ octets16 f.etherType

/-- The bytes on the wire. -/
def encode (f : EthernetFrame) : Bytes := f.header ++ f.payload

/-- Reads a frame; everything after the header is payload. -/
def decode : Bytes → Except EthernetError EthernetFrame
  | d0 :: d1 :: d2 :: d3 :: d4 :: d5 :: s0 :: s1 :: s2 :: s3 :: s4 :: s5 :: t1 :: t0 :: payload =>
    .ok ⟨⟨d0, d1, d2, d3, d4, d5⟩, ⟨s0, s1, s2, s3, s4, s5⟩, join16 t1 t0, payload⟩
  | _ => .error .tooShort

@[simp] theorem length_header (f : EthernetFrame) : f.header.length = headerLength := rfl

@[simp] theorem decode_encode (f : EthernetFrame) : decode f.encode = .ok f := by
  simp [encode, header, Mac.octets, octets16, decode]

theorem encode_of_decode {bytes : Bytes} {f : EthernetFrame} (h : decode bytes = .ok f) :
    f.encode = bytes := by
  unfold decode at h
  split at h
  · cases h; simp [encode, header, Mac.octets, octets16]
  · cases h

end EthernetFrame

end SoftRouter
