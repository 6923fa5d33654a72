import SoftRouter.Proofs.Buffer.Checksum

/-!
# Frames and packets in buffers

The operations on frames and on packets, as they read and write the buffer: each is a computation that could fault,
and on the bytes of a frame or a packet it does not (`PacketBuffer.read_eq` and the lemmas after it). The length
fields that an operation trusts were compared with the length of the buffer when the packet was read from it.
-/

namespace SoftRouter

open Checked

namespace EthernetFrame

theorem exists_decode {bytes : Bytes} (long : 14 ≤ bytes.length) : ∃ frame, decode bytes = .ok frame := by
  iterate 14
    rcases bytes with _ | ⟨_, bytes⟩
    · simp at long
  exact ⟨_, rfl⟩

@[simp] theorem length_encode (f : EthernetFrame) : f.encode.length = headerLength + f.payload.length :=
  List.length_append

end EthernetFrame

namespace FrameBuffer

def src (data : Bytes) : Checked Mac := do linkAddress (← slice data 6 12)

def etherType (data : Bytes) : Checked UInt16 := do word16 (← slice data 12 14)

def payload (data : Bytes) : Checked Bytes := suffix data 14

def setDest (data : Bytes) (mac : Mac) : Checked Bytes := copyInto data 0 6 mac.octets

def setSrc (data : Bytes) (mac : Mac) : Checked Bytes := copyInto data 6 12 mac.octets

def setEtherType (data : Bytes) (type : UInt16) : Checked Bytes := copyInto data 12 14 (octets16 type)

/-- The payload replaced; what stood behind the header is cut off first. -/
def setPayload (data payload : Bytes) : Checked Bytes := extend (data.take 14) payload

/-- A header of zeros. -/
def empty : Bytes := List.replicate 14 0

/-- The frame in a buffer that has room for its header. -/
def hold (data : Bytes) : Checked EthernetFrame :=
  match EthernetFrame.decode data with
  | .ok frame => .ok frame
  | .error _ => .error .range

section
variable (f : EthernetFrame)

theorem inside {last : Nat} (le : last ≤ 14) : last ≤ f.encode.length := by
  rw [EthernetFrame.length_encode, EthernetFrame.headerLength]
  omega

theorem src_encode : src f.encode = .ok f.src := by
  rw [src, slice_eq (by omega) (inside f (by omega))]
  rfl

theorem etherType_encode : etherType f.encode = .ok f.etherType := by
  rw [etherType, slice_eq (by omega) (inside f (by omega))]
  exact word16_octets16 f.etherType

theorem payload_encode : payload f.encode = .ok f.payload := by
  rw [payload, suffix_eq (inside f (by omega))]
  rfl

theorem setDest_encode (mac : Mac) : setDest f.encode mac = .ok { f with dest := mac }.encode :=
  copyInto_eq (inside f (by omega)) rfl

theorem setSrc_encode (mac : Mac) : setSrc f.encode mac = .ok { f with src := mac }.encode :=
  copyInto_eq (inside f (by omega)) rfl

theorem setEtherType_encode (type : UInt16) :
    setEtherType f.encode type = .ok { f with etherType := type }.encode :=
  copyInto_eq (inside f (by omega)) rfl

theorem setPayload_encode {payload : Bytes} (fits : 14 + payload.length < bufferEnd) :
    setPayload f.encode payload = .ok { f with payload }.encode :=
  extend_eq fits

@[simp] theorem hold_encode : hold f.encode = .ok f := by
  rw [hold, EthernetFrame.decode_encode]

end

end FrameBuffer

/-! ## Packets -/

/-- A buffer with a packet at its end: where the link layer's header starts, if there is one, and where the packet and
its payload do. -/
structure PacketBuffer where
  data : Bytes
  link : Option Nat
  start : Nat
  body : Nat
  deriving DecidableEq, Repr

/-- The packet in a buffer behind other bytes. -/
def Ipv4Packet.laid (p : Ipv4Packet) (front : Bytes) (link : Option Nat) : PacketBuffer :=
  ⟨front ++ p.encode, link, front.length, front.length + p.headerLength⟩

namespace PacketBuffer

/-- Reads the packet at a position, and cuts off what lies behind it. -/
def read (data : Bytes) (link : Option Nat) (start : Nat) : Checked (Except Ipv4Error PacketBuffer) := do
  if data.length < (← add start 20) then return .error .tooShort
  let first ← byteFrom data start 0
  if first.toNat / 16 ≠ 4 then return .error .version
  let ihl := first.toNat % 16
  if ihl < 5 then return .error .headerLength
  let total := (← word16From data start 2).toNat
  let header ← mul ihl 4
  let last ← add start total
  if total < header ∨ data.length < last then return .error .totalLength
  return .ok ⟨data.take last, link, start, ← add start header⟩

/-- Reads the packet in a frame. -/
def ofFrame (data : Bytes) : Checked (Except Ipv4Error PacketBuffer) := do
  if (← FrameBuffer.etherType data) ≠ etherTypeIpv4 then return .error .etherType
  read data (some 0) 14

def src (b : PacketBuffer) : Checked Ipv4Addr := do address (← sliceFrom b.data b.start 12 16)

def dest (b : PacketBuffer) : Checked Ipv4Addr := do address (← sliceFrom b.data b.start 16 20)

def protocol (b : PacketBuffer) : Checked IpProtocol := do return .ofNumber (← byteFrom b.data b.start 9)

def ttl (b : PacketBuffer) : Checked UInt8 := byteFrom b.data b.start 8

def fragmentOffset (b : PacketBuffer) : Checked Nat := do
  let hi ← byteFrom b.data b.start 6
  let lo ← byteFrom b.data b.start 7
  return hi.toNat % 32 * 256 + lo.toNat

def checksumField (b : PacketBuffer) : Checked UInt16 := word16From b.data b.start 10

def headerLength (b : PacketBuffer) : Checked Nat := sub b.body b.start

def header (b : PacketBuffer) : Checked Bytes := slice b.data b.start b.body

def payload (b : PacketBuffer) : Checked Bytes := suffix b.data b.body

/-- The checksum of the header, with zeros for the checksum itself. -/
def headerChecksum (b : PacketBuffer) : Checked UInt16 := do
  let header ← setByte (← b.header) 10 0
  checksum (← setByte header 11 0)

def isValid (b : PacketBuffer) : Checked Bool := do return (← b.checksumField) = (← b.headerChecksum)

def setTtl (b : PacketBuffer) (ttl : UInt8) : Checked PacketBuffer := do
  return { b with data := ← setByte b.data (← add b.start 8) ttl }

def setChecksumField (b : PacketBuffer) (checksum : UInt16) : Checked PacketBuffer := do
  return { b with data := ← copyFrom b.data b.start 10 12 (octets16 checksum) }

def setChecksum (b : PacketBuffer) : Checked PacketBuffer := do b.setChecksumField (← b.headerChecksum)

/-- Replaces the payload and sets the total length, of which the field has the lower 16 bits. -/
def setPayload (b : PacketBuffer) (payload : Bytes) : Checked PacketBuffer := do
  let total ← add (← b.headerLength) payload.length
  let data ← copyFrom (b.data.take b.body) b.start 2 4 (octets16 (UInt16.ofNat total))
  return { b with data := ← extend data payload }

/-- A header without options and without payload. -/
def newHeader (src dest : Ipv4Addr) (protocolNumber ttl : UInt8) : Checked PacketBuffer := do
  let data ← setByte (List.replicate 20 0) 0 0x45
  let data ← copyInto data 2 4 (octets16 20)
  let data ← setByte data 8 ttl
  let data ← setByte data 9 protocolNumber
  let data ← copyInto data 12 16 src.octets
  let data ← copyInto data 16 20 dest.octets
  setChecksum ⟨data, none, 0, 20⟩

/-- Wraps bytes in a fresh header. -/
def encap (src dest : Ipv4Addr) (protocolNumber ttl : UInt8) (payload : Bytes) : Checked PacketBuffer := do
  let packet ← newHeader src dest protocolNumber ttl
  let packet ← packet.setPayload payload
  packet.setChecksum

end PacketBuffer

/-- Wraps a packet in a frame with zero addresses. -/
def FrameBuffer.encap (b : PacketBuffer) : Checked Bytes := do
  let frame ← setPayload empty (← suffix b.data b.start)
  setEtherType frame etherTypeIpv4

namespace Ipv4Packet

/-- The packet with another payload. -/
def withPayload (p : Ipv4Packet) (payload : Bytes) : Ipv4Packet := { p with payload }

section
variable (p : Ipv4Packet)

theorem overwrite_ttl (ttl : UInt8) : overwrite 8 [ttl] p.encode = ({ p with ttl } : Ipv4Packet).encode := by
  simp [overwrite, encode, header, headerWith, octets16, totalLength, headerLength, ihl]

theorem overwrite_checksum (checksum : UInt16) :
    overwrite 10 (octets16 checksum) p.encode = (p.withChecksum checksum).encode := by
  simp [overwrite, encode, header, headerWith, octets16, totalLength, headerLength, ihl, withChecksum]

theorem overwrite_totalLength (payload : Bytes) :
    overwrite 2 (octets16 (UInt16.ofNat (p.headerLength + payload.length))) p.header ++ payload =
      (p.withPayload payload).encode := by
  simp [overwrite, encode, header, headerWith, octets16, totalLength, headerLength, ihl, withPayload]

theorem checksummed_withChecksum (checksum : UInt16) : (p.withChecksum checksum).checksummed = p.checksummed := by
  rw [checksummed, headerChecksum_withChecksum, checksummed]
  generalize p.headerChecksum = c
  rfl

theorem checksummed_withPayload (payload : Bytes) :
    (p.checksummed.withPayload payload).checksummed = (p.withPayload payload).checksummed := by
  exact checksummed_withChecksum (p.withPayload payload) p.headerChecksum

end

theorem take_encode (p : Ipv4Packet) : p.encode.take p.headerLength = p.header := by
  rw [encode, ← p.length_header, List.take_left]

theorem drop_encode (p : Ipv4Packet) : p.encode.drop p.headerLength = p.payload := by
  rw [encode, ← p.length_header, List.drop_left]

theorem decode_of_short {bytes : Bytes} (short : bytes.length < 20) : decode bytes = .error .tooShort := by
  unfold decode
  split
  · simp only [List.length_cons] at short
    omega
  · rfl

theorem headerLength_of_first {p : Ipv4Packet} {vi : UInt8} (first : p.encode[0]? = some vi) :
    p.headerLength = vi.toNat % 16 * 4 := by
  have value : UInt8.ofNat (64 + p.ihl) = vi := Option.some.inj first
  rw [← value, p.ihl_first, p.headerLength_eq, Nat.mul_comm]

/-- Twenty bytes are enough for all fields of a header. -/
theorem exists_fields {bytes : Bytes} (long : 20 ≤ bytes.length) :
    ∃ vi tos l1 l0 i1 i0 f1 f0 ttl protocolNumber c1 c0 s3 s2 s1 s0 d3 d2 d1 d0 rest,
      bytes = vi :: tos :: l1 :: l0 :: i1 :: i0 :: f1 :: f0 :: ttl :: protocolNumber :: c1 :: c0 ::
        s3 :: s2 :: s1 :: s0 :: d3 :: d2 :: d1 :: d0 :: rest := by
  iterate 20
    rcases bytes with _ | ⟨_, bytes⟩
    · simp at long
  exact ⟨_, _, _, _, _, _, _, _, _, _, _, _, _, _, _, _, _, _, _, _, _, rfl⟩

end Ipv4Packet

namespace PacketBuffer

section
variable (p : Ipv4Packet)

theorem room {i : Nat} (le : i ≤ 20) : i ≤ p.encode.length := by
  rw [Ipv4Packet.length_encode, Ipv4Packet.headerLength]
  omega

theorem body_inside (front : Bytes) : front.length + p.headerLength ≤ (front ++ p.encode).length := by
  rw [List.length_append, p.length_encode]
  omega

theorem slice_encode {i j : Nat} (order : i ≤ j) (le : j ≤ 20) :
    slice p.encode i j = .ok ((p.encode.take j).drop i) :=
  slice_eq order (room p le)

end

section
variable {front : Bytes} (near : front.length < 2 ^ 32) (link : Option Nat) (p : Ipv4Packet)
include near

theorem src_laid : (p.laid front link).src = .ok p.src := by
  rw [src, Ipv4Packet.laid, sliceFrom_append _ near (by omega) (by omega), slice_encode p (by omega) (by omega)]
  exact address_octets p.src

theorem dest_laid : (p.laid front link).dest = .ok p.dest := by
  rw [dest, Ipv4Packet.laid, sliceFrom_append _ near (by omega) (by omega), slice_encode p (by omega) (by omega)]
  exact address_octets p.dest

theorem protocol_laid : (p.laid front link).protocol = .ok p.protocol := by
  rw [protocol, Ipv4Packet.laid, byteFrom_append _ near (by omega)]
  rfl

theorem ttl_laid : (p.laid front link).ttl = .ok p.ttl := by
  rw [ttl, Ipv4Packet.laid, byteFrom_append _ near (by omega)]
  rfl

theorem fragmentOffset_laid : (p.laid front link).fragmentOffset = .ok p.fragmentOffset := by
  have hi : byteAt p.encode 6 = .ok (high8 p.fragment) := rfl
  have lo : byteAt p.encode 7 = .ok (low8 p.fragment) := rfl
  have := p.fragment.toNat_lt
  rw [fragmentOffset, Ipv4Packet.laid, byteFrom_append _ near (by omega), byteFrom_append _ near (by omega), hi, lo]
  simp only [ok_bind, pure_eq, high8, low8, UInt8.toNat_ofNat', Ipv4Packet.fragmentOffset, Except.ok.injEq]
  omega

theorem checksumField_laid : (p.laid front link).checksumField = .ok p.checksum := by
  rw [checksumField, Ipv4Packet.laid, word16From, sliceFrom_append _ near (by omega) (by omega),
    slice_encode p (by omega) (by omega)]
  exact word16_octets16 p.checksum

omit near

theorem headerLength_laid : (p.laid front link).headerLength = .ok p.headerLength := by
  rw [headerLength, Ipv4Packet.laid, sub_eq (Nat.le_add_right _ _), Nat.add_sub_cancel_left]

theorem header_laid : (p.laid front link).header = .ok p.header := by
  rw [header, Ipv4Packet.laid, slice_eq (Nat.le_add_right _ _) (body_inside p front), List.take_length_add_append,
    List.drop_left, p.take_encode]

theorem payload_laid : (p.laid front link).payload = .ok p.payload := by
  rw [payload, Ipv4Packet.laid, suffix_eq (body_inside p front), List.drop_length_add_append, p.drop_encode]

theorem headerChecksum_laid : (p.laid front link).headerChecksum = .ok p.headerChecksum := by
  have short := p.options_fit
  have tenth : 10 < p.header.length := by
    rw [p.length_header, Ipv4Packet.headerLength]
    omega
  have first : overwrite 10 [0] p.header = p.headerWith (join16 0 (low8 p.checksum)) := by
    simp [overwrite, Ipv4Packet.header, Ipv4Packet.headerWith, octets16]
  have second : overwrite 11 [0] (p.headerWith (join16 0 (low8 p.checksum))) = p.headerWith 0 := by
    simp [overwrite, Ipv4Packet.headerWith, octets16, high8_zero, low8_zero]
  have eleventh : 11 < (p.headerWith (join16 0 (low8 p.checksum))).length := by
    rw [p.length_headerWith, Ipv4Packet.headerLength]
    omega
  have few : (p.headerWith 0).length ≤ 131074 := by
    rw [p.length_headerWith, Ipv4Packet.headerLength]
    omega
  rw [headerChecksum, header_laid, ok_bind, setByte_eq tenth, ok_bind, first, setByte_eq eleventh, ok_bind, second,
    checksum_eq few]
  rfl

include near

theorem isValid_laid : (p.laid front link).isValid = .ok p.isValid := by
  rw [isValid, checksumField_laid near, headerChecksum_laid]
  rfl

theorem setTtl_laid (ttl : UInt8) :
    (p.laid front link).setTtl ttl = .ok (({ p with ttl } : Ipv4Packet).laid front link) := by
  have inside : front.length + 8 < (front ++ p.encode).length := by
    have := room p (Nat.le_refl _)
    rw [List.length_append]
    omega
  dsimp only [setTtl, Ipv4Packet.laid]
  rw [add_near near (by omega), ok_bind, setByte_eq inside, overwrite_append, p.overwrite_ttl]
  rfl

theorem setChecksumField_laid (checksum : UInt16) :
    (p.laid front link).setChecksumField checksum = .ok ((p.withChecksum checksum).laid front link) := by
  dsimp only [setChecksumField, Ipv4Packet.laid]
  rw [copyFrom_append _ near (by omega) (room p (by omega)) (by rfl), p.overwrite_checksum]
  rfl

theorem setChecksum_laid : (p.laid front link).setChecksum = .ok (p.checksummed.laid front link) := by
  rw [setChecksum, headerChecksum_laid, ok_bind, setChecksumField_laid near]
  rfl

theorem setPayload_laid {payload : Bytes} (fits : front.length + (p.headerLength + payload.length) < bufferEnd) :
    (p.laid front link).setPayload payload = .ok ((p.withPayload payload).laid front link) := by
  have cut : (front ++ p.encode).take (front.length + p.headerLength) = front ++ p.header := by
    rw [List.take_length_add_append, p.take_encode]
  have inside : 4 ≤ p.header.length := by
    rw [p.length_header, Ipv4Packet.headerLength]
    omega
  rw [setPayload, headerLength_laid, ok_bind, add_of_fits fits, ok_bind]
  dsimp only [Ipv4Packet.laid]
  rw [cut, copyFrom_append _ near (by omega) inside rfl, ok_bind, extend_eq, List.append_assoc, p.overwrite_totalLength]
  · rfl
  · rw [List.length_append, length_overwrite inside, p.length_header]
    omega

end

theorem newHeader_eq (src dest : Ipv4Addr) (protocolNumber ttl : UInt8) :
    newHeader src dest protocolNumber ttl = .ok ((Ipv4Packet.make src dest protocolNumber ttl []).laid [] none) := by
  have fields : newHeader src dest protocolNumber ttl = (Ipv4Packet.laid
      { tos := 0, identification := 0, fragment := 0, ttl, protocolNumber, checksum := 0, src, dest, options := []
        payload := [] } [] none).setChecksum := by
    simp [newHeader, setByte, copyInto, overwrite, octets16, Ipv4Packet.laid, Ipv4Packet.encode, Ipv4Packet.header,
      Ipv4Packet.headerWith, Ipv4Packet.headerLength, Ipv4Addr.octets, octets32, Ipv4Packet.totalLength, Ipv4Packet.ihl]
    rfl
  rw [fields, setChecksum_laid (by simp)]
  rfl

theorem encap_eq {payload : Bytes} (src dest : Ipv4Addr) (protocolNumber ttl : UInt8)
    (fits : 20 + payload.length < bufferEnd) : encap src dest protocolNumber ttl payload =
      .ok ((Ipv4Packet.make src dest protocolNumber ttl payload).laid [] none) := by
  have near : ([] : Bytes).length < 2 ^ 32 := by simp
  have small : (Ipv4Packet.make src dest protocolNumber ttl []).headerLength = 20 := rfl
  rw [encap, newHeader_eq, ok_bind, setPayload_laid near, ok_bind, setChecksum_laid near]
  · rw [Ipv4Packet.make, Ipv4Packet.checksummed_withPayload, Ipv4Packet.make]
    rfl
  · rw [small, List.length_nil, Nat.zero_add]
    exact fits

theorem frameEncap_laid {p : Ipv4Packet} (fits : 14 + p.encode.length < bufferEnd) (front : Bytes)
    (link : Option Nat) : FrameBuffer.encap (p.laid front link) = .ok (EthernetFrame.carrying p).encode := by
  have blank : FrameBuffer.empty = EthernetFrame.empty.encode := rfl
  have inside : front.length ≤ (front ++ p.encode).length := by simp
  dsimp only [FrameBuffer.encap, Ipv4Packet.laid]
  rw [suffix_eq inside, ok_bind, List.drop_left, blank, FrameBuffer.setPayload_encode _ fits, ok_bind,
    FrameBuffer.setEtherType_encode]
  rfl

/-- Reading behind a front is reading the bytes there. No check is passed by bytes that a later access would find
too short. -/
theorem read_eq {front : Bytes} (near : front.length < 2 ^ 32) (link : Option Nat) (bytes : Bytes) :
    read (front ++ bytes) link front.length = .ok ((Ipv4Packet.decode bytes).map fun p => p.laid front link) := by
  rw [read, add_near near (by omega), ok_bind]
  by_cases short : bytes.length < 20
  · rw [if_pos (by simpa using short), Ipv4Packet.decode_of_short short]
    rfl
  obtain ⟨vi, tos, l1, l0, i1, i0, f1, f0, ttl, protocolNumber, c1, c0, s3, s2, s1, s0, d3, d2, d1, d0, rest, same⟩ :=
    Ipv4Packet.exists_fields (Nat.le_of_not_lt short)
  have small := (join16 l1 l0).toNat_lt
  have first : byteAt bytes 0 = .ok vi := by rw [same]; rfl
  have length : slice bytes 2 4 = .ok [l1, l0] := by rw [slice_eq (by omega) (by omega), same]; rfl
  rw [if_neg (by simpa using short), byteFrom_append _ near (by omega), first, ok_bind]
  -- A check that fails gives the error that decoding the bytes gives.
  by_cases version : vi.toNat / 16 ≠ 4
  · rw [if_pos version, same, Ipv4Packet.decode, if_pos version]
    rfl
  rw [if_neg version]
  dsimp only
  by_cases long : vi.toNat % 16 < 5
  · rw [if_pos long, same, Ipv4Packet.decode, if_neg version, dif_pos long]
    rfl
  rw [if_neg long, word16From, sliceFrom_append _ near (by omega) (by omega), length, ok_bind, word16, ok_bind,
    mul_near (by omega), ok_bind, add_near near (by omega), ok_bind, List.length_append]
  by_cases outside : (join16 l1 l0).toNat < 4 * (vi.toNat % 16) ∨ 20 + rest.length < (join16 l1 l0).toNat
  · rw [if_pos (by simp only [same, List.length_cons]; omega), same, Ipv4Packet.decode, if_neg version, dif_neg long,
      dif_pos outside]
    rfl
  rw [if_neg (by simp only [same, List.length_cons]; omega), add_near near (by omega), ok_bind]
  -- All checks are passed, and what is kept of the buffer is what the packet is encoded as.
  have readable : ∃ p, Ipv4Packet.decode bytes = .ok p := by
    rw [same, Ipv4Packet.decode, if_neg version, dif_neg long, dif_neg outside]
    exact ⟨_, rfl⟩
  obtain ⟨p, decoded⟩ := readable
  have whole := Ipv4Packet.readFrom_of_decode decoded
  have total : p.totalLength = join16 l1 l0 := by rw [whole.total, same]; rfl
  have written : p.encode = bytes.take (join16 l1 l0).toNat := total ▸ whole.encode
  have header : p.headerLength = vi.toNat % 16 * 4 := by
    refine Ipv4Packet.headerLength_of_first ?_
    rw [written, List.getElem?_take_of_lt (by omega), same]
    rfl
  rw [decoded, List.take_length_add_append, ← written, ← header]
  rfl

/-- What is near behind a header is near in front of it. -/
theorem near_front {front : Bytes} {p : Ipv4Packet} (near : (front ++ p.header).length < 2 ^ 32) :
    front.length < 2 ^ 32 := by
  rw [List.length_append] at near
  omega

theorem near_header (f : EthernetFrame) : f.header.length < 2 ^ 32 := by
  rw [EthernetFrame.length_header, EthernetFrame.headerLength]
  omega

theorem ofFrame_eq (f : EthernetFrame) :
    ofFrame f.encode = .ok ((Ipv4Packet.ofFrame f).map fun p => p.laid f.header (some 0)) := by
  rw [ofFrame, FrameBuffer.etherType_encode, ok_bind, Ipv4Packet.ofFrame]
  by_cases type : f.etherType = etherTypeIpv4
  · rw [if_neg (fun other => other type), if_pos type]
    exact read_eq (near_header f) _ _
  · rw [if_pos type, if_neg type]
    rfl

end PacketBuffer

end SoftRouter
