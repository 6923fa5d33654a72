import SoftRouter.Address.Ipv4
import SoftRouter.Wire.Ethernet

/-!
# ARP frames

A question or an answer about which hardware address belongs to a protocol address. The header
gives the lengths of the four address slots, which follow it without a gap; whatever comes after
them in the Ethernet frame is padding and is dropped.
-/

namespace SoftRouter

/-- What an ARP frame asks or says. -/
inductive ArpOp where
  | request
  | reply
  deriving DecidableEq, Repr

/-- The operation a code stands for, if it is one of the two. -/
def ArpOp.ofCode? (code : UInt16) : Option ArpOp :=
  if code = 1 then some request else if code = 2 then some reply else none

/-- The code of an operation. -/
def ArpOp.code : ArpOp → UInt16
  | request => 1
  | reply => 2

@[simp] theorem ArpOp.ofCode?_code (op : ArpOp) : ofCode? op.code = some op := by
  cases op <;> rfl

/-- An ARP frame with the Ethernet addresses it travels under. The slots are as long as the header
says. -/
structure ArpFrame where
  dest : Mac
  src : Mac
  hardwareType : UInt16
  protocolType : UInt16
  hardwareLen : UInt8
  protocolLen : UInt8
  opcode : UInt16
  senderHardware : Bytes
  senderProtocol : Bytes
  targetHardware : Bytes
  targetProtocol : Bytes
  length_senderHardware : senderHardware.length = hardwareLen.toNat := by simp
  length_senderProtocol : senderProtocol.length = protocolLen.toNat := by simp
  length_targetHardware : targetHardware.length = hardwareLen.toNat := by simp
  length_targetProtocol : targetProtocol.length = protocolLen.toNat := by simp
  deriving DecidableEq

/-- What is wrong with a frame that should be ARP. -/
inductive ArpError where
  | etherType
  | tooShort
  | lengths
  deriving DecidableEq, Repr

/-- The wording of each fault. -/
def ArpError.message : ArpError → String
  | etherType => "Frame does not have ARP ether type."
  | tooShort => "Frame payload is too small"
  | lengths => "Frame payload doesn't match address length fields"

namespace ArpFrame

/-- The ARP bytes inside the Ethernet frame. -/
def encode (f : ArpFrame) : Bytes :=
  octets16 f.hardwareType ++ octets16 f.protocolType ++ [f.hardwareLen, f.protocolLen] ++ octets16 f.opcode ++
    (f.senderHardware ++ f.senderProtocol ++ f.targetHardware ++ f.targetProtocol)

/-- The Ethernet frame that carries it, without padding. -/
def toFrame (f : ArpFrame) : EthernetFrame := ⟨f.dest, f.src, etherTypeArp, f.encode⟩

/-- Bytes that are enough for two slots of length `h` and two of length `p` fill them in turn. -/
theorem length_slots {bytes : Bytes} {h p : Nat} (enough : ¬ bytes.length < 2 * h + 2 * p) :
    (bytes.take h).length = h ∧ ((bytes.drop h).take p).length = p ∧
      ((bytes.drop (h + p)).take h).length = h ∧ ((bytes.drop (h + p + h)).take p).length = p := by
  simp only [List.length_take, List.length_drop]
  omega

/-- Reads the payload of a frame with the given addresses. -/
def decode (dest src : Mac) : Bytes → Except ArpError ArpFrame
  | h1 :: h0 :: p1 :: p0 :: hlen :: plen :: o1 :: o0 :: slots =>
    if enough : slots.length < 2 * hlen.toNat + 2 * plen.toNat then .error .lengths
    else
      let h := hlen.toNat
      let p := plen.toNat
      .ok {
        dest, src
        hardwareType := join16 h1 h0
        protocolType := join16 p1 p0
        hardwareLen := hlen
        protocolLen := plen
        opcode := join16 o1 o0
        senderHardware := slots.take h
        senderProtocol := (slots.drop h).take p
        targetHardware := (slots.drop (h + p)).take h
        targetProtocol := (slots.drop (h + p + h)).take p
        length_senderHardware := (length_slots enough).1
        length_senderProtocol := (length_slots enough).2.1
        length_targetHardware := (length_slots enough).2.2.1
        length_targetProtocol := (length_slots enough).2.2.2 }
  | _ => .error .tooShort

/-- Reads an Ethernet frame as ARP. -/
def ofFrame (frame : EthernetFrame) : Except ArpError ArpFrame :=
  if frame.etherType = etherTypeArp then decode frame.dest frame.src frame.payload
  else .error .etherType

/-- A blank frame with slots of the given lengths. -/
def blank (hardwareLen protocolLen : UInt8) : ArpFrame where
  dest := Mac.zero
  src := Mac.zero
  hardwareType := 0
  protocolType := 0
  hardwareLen
  protocolLen
  opcode := 0
  senderHardware := List.replicate hardwareLen.toNat 0
  senderProtocol := List.replicate protocolLen.toNat 0
  targetHardware := List.replicate hardwareLen.toNat 0
  targetProtocol := List.replicate protocolLen.toNat 0

/-- The frame is about Ethernet and IPv4 addresses. -/
def isEthernetIpv4 (f : ArpFrame) : Bool :=
  f.hardwareType = 1 && f.protocolType = etherTypeIpv4 && f.hardwareLen = 6 && f.protocolLen = 4

/-- The operation, if the code is known. -/
def op? (f : ArpFrame) : Option ArpOp := ArpOp.ofCode? f.opcode

/-- The sender's hardware address, if the slot holds six bytes. -/
def senderMac? (f : ArpFrame) : Option Mac := (Mac.ofBytes f.senderHardware).toOption

/-- The sender's protocol address, if the slot holds four bytes. -/
def senderIp? (f : ArpFrame) : Option Ipv4Addr := Ipv4Addr.ofBytes? f.senderProtocol

/-- The target's hardware address, if the slot holds six bytes. -/
def targetMac? (f : ArpFrame) : Option Mac := (Mac.ofBytes f.targetHardware).toOption

/-- The target's protocol address, if the slot holds four bytes. -/
def targetIp? (f : ArpFrame) : Option Ipv4Addr := Ipv4Addr.ofBytes? f.targetProtocol

/-- Fills the sender's hardware slot, if it has room for exactly this address. -/
def withSenderMac? (f : ArpFrame) (mac : Mac) : Option ArpFrame :=
  if fits : f.hardwareLen = 6 then
    some { f with
      senderHardware := mac.octets
      length_senderHardware := by simp [fits]
      length_targetHardware := f.length_targetHardware }
  else none

/-- Fills the sender's protocol slot, if it has room for exactly this address. -/
def withSenderIp? (f : ArpFrame) (ip : Ipv4Addr) : Option ArpFrame :=
  if fits : f.protocolLen = 4 then
    some { f with
      senderProtocol := ip.octets
      length_senderProtocol := by simp [fits]
      length_targetProtocol := f.length_targetProtocol }
  else none

/-- Fills the target's hardware slot, if it has room for exactly this address. -/
def withTargetMac? (f : ArpFrame) (mac : Mac) : Option ArpFrame :=
  if fits : f.hardwareLen = 6 then
    some { f with
      targetHardware := mac.octets
      length_targetHardware := by simp [fits]
      length_senderHardware := f.length_senderHardware }
  else none

/-- Fills the target's protocol slot, if it has room for exactly this address. -/
def withTargetIp? (f : ArpFrame) (ip : Ipv4Addr) : Option ArpFrame :=
  if fits : f.protocolLen = 4 then
    some { f with
      targetProtocol := ip.octets
      length_targetProtocol := by simp [fits]
      length_senderProtocol := f.length_senderProtocol }
  else none

/-- A frame about Ethernet and IPv4 addresses. -/
def ethernetIpv4 (op : ArpOp) (dest src senderMac targetMac : Mac) (senderIp targetIp : Ipv4Addr) : ArpFrame where
  dest
  src
  hardwareType := 1
  protocolType := etherTypeIpv4
  hardwareLen := 6
  protocolLen := 4
  opcode := op.code
  senderHardware := senderMac.octets
  senderProtocol := senderIp.octets
  targetHardware := targetMac.octets
  targetProtocol := targetIp.octets

/-- The question who has `targetIp`, broadcast by a sender; the target's hardware address is zero. -/
def request (senderMac : Mac) (senderIp targetIp : Ipv4Addr) : ArpFrame :=
  ethernetIpv4 .request Mac.broadcast senderMac senderMac Mac.zero senderIp targetIp

/-- The answer to a question that `(mac, ip)` is the station asked for, sent back to where the
question came from. There is none unless the question is about Ethernet and IPv4 addresses. -/
def replyTo? (question : ArpFrame) (mac : Mac) (ip : Ipv4Addr) : Option ArpFrame :=
  if question.isEthernetIpv4 then do
    return ethernetIpv4 .reply question.src mac mac (← question.senderMac?) ip (← question.senderIp?)
  else none

end ArpFrame

end SoftRouter
