import SoftRouter.Wire.Ipv4

/-!
# ICMP messages

A type, a code, a checksum over the whole message and a body. The first word of the body is the
rest of the header: identifier and sequence number of an echo, zero in an error.
-/

namespace SoftRouter

/-- An ICMP message. -/
structure IcmpMessage where
  type : UInt8
  code : UInt8
  checksum : UInt16
  body : Bytes
  deriving DecidableEq, Repr, Inhabited

/-- What is wrong with bytes that should be a message. -/
inductive IcmpError where
  | tooShort
  | notInIpv4
  | protocol
  /-- The position of the message, or of the header around it, lies behind the bytes. -/
  | outside
  deriving DecidableEq, Repr

/-- The wording of each fault. -/
def IcmpError.message : IcmpError → String
  | tooShort => "Message too short to contain an ICMP header"
  | notInIpv4 => "Is not an Ipv4 packet"
  | protocol => "Protocol is incorrect, since it isn't ICMP"
  | outside => "Position lies behind the end of the data"

namespace IcmpMessage

/-- The type of an echo reply. -/
def typeEchoReply : UInt8 := 0
/-- The type of an unreachable destination. -/
def typeUnreachable : UInt8 := 3
/-- The type of a redirect. -/
def typeRedirect : UInt8 := 5
/-- The type of an echo request. -/
def typeEchoRequest : UInt8 := 8
/-- The type of an exceeded lifetime. -/
def typeTimeExceeded : UInt8 := 11
/-- The type of a faulty header. -/
def typeParameterProblem : UInt8 := 12

/-- The length of a message whose body is one word. -/
def headerLength : Nat := 8

/-- A message with a zero word for a body and no checksum. -/
def blank (type code : UInt8) : IcmpMessage := ⟨type, code, 0, [0, 0, 0, 0]⟩

/-- An error message reports on another datagram and must never be reported on. -/
def isError (m : IcmpMessage) : Bool :=
  m.type = typeUnreachable || m.type = typeRedirect || m.type = typeTimeExceeded || m.type = typeParameterProblem

/-- The rest of the header: the first word of the body, if there is one. -/
def restOfHeader? (m : IcmpMessage) : Option Bytes :=
  if m.body.length < 4 then none else some (m.body.take 4)

/-- What follows the rest of the header, if there is one. -/
def payload? (m : IcmpMessage) : Option Bytes :=
  if m.body.length < 4 then none else some (m.body.drop 4)

/-- Replaces the rest of the header, if there is one. -/
def withRestOfHeader? (m : IcmpMessage) (r0 r1 r2 r3 : UInt8) : Option IcmpMessage :=
  if m.body.length < 4 then none else some { m with body := [r0, r1, r2, r3] ++ m.body.drop 4 }

/-- The bytes of the message with the given checksum. -/
def encodeWith (m : IcmpMessage) (checksum : UInt16) : Bytes :=
  [m.type, m.code] ++ octets16 checksum ++ m.body

/-- The bytes of the message. -/
def encode (m : IcmpMessage) : Bytes := m.encodeWith m.checksum

/-- The checksum the message should carry: that of its bytes with a zero checksum field. -/
def bodyChecksum (m : IcmpMessage) : UInt16 := internetChecksum (m.encodeWith 0)

/-- The message carries the checksum it should. -/
def isValid (m : IcmpMessage) : Bool := m.checksum = m.bodyChecksum

/-- The message with another value in the checksum field. -/
def withChecksum (m : IcmpMessage) (checksum : UInt16) : IcmpMessage := { m with checksum }

/-- The message with the checksum it should carry. -/
def checksummed (m : IcmpMessage) : IcmpMessage := m.withChecksum m.bodyChecksum

@[simp] theorem bodyChecksum_withChecksum (m : IcmpMessage) (c : UInt16) :
    (m.withChecksum c).bodyChecksum = m.bodyChecksum := rfl

@[simp] theorem isValid_checksummed (m : IcmpMessage) : m.checksummed.isValid = true :=
  decide_eq_true (bodyChecksum_withChecksum m m.bodyChecksum).symm

/-- Reads a message of at least two words. -/
def decode : Bytes → Except IcmpError IcmpMessage
  | type :: code :: c1 :: c0 :: body =>
    if body.length < 4 then .error .tooShort else .ok ⟨type, code, join16 c1 c0, body⟩
  | _ => .error .tooShort

/-- Reads the payload of a packet as a message. -/
def ofPacket (p : Ipv4Packet) : Except IcmpError IcmpMessage :=
  if p.payload.length < headerLength then .error .tooShort
  else if p.protocol ≠ .icmp then .error .protocol
  else decode p.payload

@[simp] theorem length_encode (m : IcmpMessage) : m.encode.length = 4 + m.body.length := by
  simp [encode, encodeWith]
  omega

/-- A message can be read back when its body holds at least a word. -/
theorem decode_encode {m : IcmpMessage} (h : 4 ≤ m.body.length) : decode m.encode = .ok m := by
  simp [encode, encodeWith, octets16, decode]
  omega

theorem encode_of_decode {bytes : Bytes} {m : IcmpMessage} (h : decode bytes = .ok m) : m.encode = bytes := by
  unfold decode at h
  split at h
  · split at h
    · cases h
    · cases h; simp [encode, encodeWith, octets16]
  · cases h

end IcmpMessage

end SoftRouter
