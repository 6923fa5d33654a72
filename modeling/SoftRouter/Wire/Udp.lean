import SoftRouter.Wire.Ipv4

/-!
# UDP segments

Ports, a length, a checksum and the bytes behind them. The length field bounds the payload; bytes
behind it are kept, and a length that the bytes do not reach leaves no payload to speak of.
-/

namespace SoftRouter

/-- A UDP segment. `body` is everything behind the header, whatever `length` says. -/
structure UdpSegment where
  srcPort : UInt16
  destPort : UInt16
  length : UInt16
  checksum : UInt16
  body : Bytes
  deriving DecidableEq, Repr, Inhabited

/-- What is wrong with bytes that should be a segment. -/
inductive UdpError where
  | tooShort
  | notInIpv4
  | protocol
  | length
  /-- The position of the segment, or of the header around it, lies behind the bytes. -/
  | outside
  deriving DecidableEq, Repr

/-- The wording of each fault. -/
def UdpError.message : UdpError → String
  | tooShort => "Segment too short to contain a UDP header"
  | notInIpv4 => "Is not an Ipv4 packet"
  | protocol => "Protocol is incorrect, since it isn't UDP"
  | length => "Segment is not correct length as given by its length field"
  | outside => "Position lies behind the end of the data"

namespace UdpSegment

/-- The length of the header. -/
def headerLength : Nat := 8

/-- A segment with this payload and no checksum. A length above 16 bits wraps around. -/
def make (srcPort destPort : UInt16) (payload : Bytes) : UdpSegment :=
  ⟨srcPort, destPort, UInt16.ofNat (headerLength + payload.length), 0, payload⟩

/-- The segment with another payload and the length that goes with it. -/
def withPayload (u : UdpSegment) (payload : Bytes) : UdpSegment :=
  { u with length := UInt16.ofNat (headerLength + payload.length), body := payload }

/-- The payload up to the length field, if the length covers the header and the bytes reach it. -/
def payload? (u : UdpSegment) : Option Bytes :=
  let n := u.length.toNat
  if n < headerLength ∨ headerLength + u.body.length < n then none else some (u.body.take (n - headerLength))

/-- The bytes of the segment. -/
def encode (u : UdpSegment) : Bytes :=
  octets16 u.srcPort ++ octets16 u.destPort ++ octets16 u.length ++ octets16 u.checksum ++ u.body

/-- Reads a segment whose length field is at least a header and within the bytes. -/
def decode : Bytes → Except UdpError UdpSegment
  | s1 :: s0 :: d1 :: d0 :: l1 :: l0 :: c1 :: c0 :: body =>
    let u : UdpSegment := ⟨join16 s1 s0, join16 d1 d0, join16 l1 l0, join16 c1 c0, body⟩
    if u.payload?.isSome then .ok u else .error .length
  | _ => .error .tooShort

/-- Reads the payload of a packet as a segment. -/
def ofPacket (p : Ipv4Packet) : Except UdpError UdpSegment :=
  if p.payload.length < headerLength then .error .tooShort
  else if p.protocol ≠ .udp then .error .protocol
  else decode p.payload

@[simp] theorem length_encode (u : UdpSegment) : u.encode.length = headerLength + u.body.length := by
  simp [encode, headerLength]
  omega

/-- A segment can be read back exactly when its length field is in order. -/
theorem decode_encode {u : UdpSegment} (h : u.payload?.isSome) : decode u.encode = .ok u := by
  simp [encode, octets16, decode, h]

theorem encode_of_decode {bytes : Bytes} {u : UdpSegment} (h : decode bytes = .ok u) : u.encode = bytes := by
  unfold decode at h
  split at h
  · dsimp only at h
    split at h
    · cases h; simp [encode, octets16]
    · cases h
  · cases h

end UdpSegment

end SoftRouter
