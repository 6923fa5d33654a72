import SoftRouter.Proofs.Buffer.Datagram

/-!
# ARP frames in buffers

The places of the four addresses follow from two length bytes of the frame itself. Four formulas give their ends, and
what they give is where the slots stand one after the other (`range_eq`), whatever the lengths. So reading a slot never
leaves the frame, and writing one succeeds with exactly the bytes that fill it.
-/

namespace SoftRouter

open Checked

/-- One of the addresses of an ARP frame. -/
inductive Slot where
  | senderHardware
  | senderProtocol
  | targetHardware
  | targetProtocol
  deriving DecidableEq, Repr

namespace ArpFrame

variable (f : ArpFrame)

/-- The bytes of an address. -/
def slot : Slot → Bytes
  | .senderHardware => f.senderHardware
  | .senderProtocol => f.senderProtocol
  | .targetHardware => f.targetHardware
  | .targetProtocol => f.targetProtocol

/-- What stands in front of the addresses. -/
def fixed : Bytes :=
  octets16 f.hardwareType ++ octets16 f.protocolType ++ [f.hardwareLen, f.protocolLen] ++ octets16 f.opcode

/-- What stands in front of an address. -/
def ahead : Slot → Bytes
  | .senderHardware => f.fixed
  | .senderProtocol => f.fixed ++ f.senderHardware
  | .targetHardware => f.fixed ++ f.senderHardware ++ f.senderProtocol
  | .targetProtocol => f.fixed ++ f.senderHardware ++ f.senderProtocol ++ f.targetHardware

/-- What stands behind an address. -/
def behind : Slot → Bytes
  | .senderHardware => f.senderProtocol ++ f.targetHardware ++ f.targetProtocol
  | .senderProtocol => f.targetHardware ++ f.targetProtocol
  | .targetHardware => f.targetProtocol
  | .targetProtocol => []

theorem encode_eq (s : Slot) : f.encode = f.ahead s ++ f.slot s ++ f.behind s := by
  cases s <;> simp [encode, ahead, slot, behind, fixed]

@[simp] theorem length_fixed : f.fixed.length = 8 := rfl

@[simp] theorem length_encode :
    f.encode.length = 8 + 2 * f.hardwareLen.toNat + 2 * f.protocolLen.toNat := by
  rw [f.encode_eq .targetProtocol]
  simp only [ahead, slot, behind, List.length_append, length_fixed, f.length_senderHardware, f.length_senderProtocol,
    f.length_targetHardware, f.length_targetProtocol, List.length_nil]
  omega

/-- The frame with another address, which is as long as the one before. -/
def withSlot (s : Slot) (bytes : Bytes) (fits : bytes.length = (f.slot s).length) : ArpFrame :=
  match s with
  | .senderHardware =>
    { f with senderHardware := bytes, length_senderHardware := fits.trans f.length_senderHardware
             length_targetHardware := f.length_targetHardware }
  | .senderProtocol =>
    { f with senderProtocol := bytes, length_senderProtocol := fits.trans f.length_senderProtocol
             length_targetProtocol := f.length_targetProtocol }
  | .targetHardware =>
    { f with targetHardware := bytes, length_targetHardware := fits.trans f.length_targetHardware
             length_senderHardware := f.length_senderHardware }
  | .targetProtocol =>
    { f with targetProtocol := bytes, length_targetProtocol := fits.trans f.length_targetProtocol
             length_senderProtocol := f.length_senderProtocol }

theorem encode_withSlot (s : Slot) {bytes : Bytes} (fits : bytes.length = (f.slot s).length) :
    (f.withSlot s bytes fits).encode = f.ahead s ++ bytes ++ f.behind s := by
  cases s <;> simp [withSlot, encode, ahead, behind, fixed]

/-- What another address changes are the bytes of its slot. -/
theorem overwrite_slot (s : Slot) {bytes : Bytes} (fits : bytes.length = (f.slot s).length) :
    overwrite (f.ahead s).length bytes f.encode = (f.withSlot s bytes fits).encode := by
  rw [f.encode_withSlot, overwrite, fits, f.encode_eq s, List.append_assoc (f.ahead s) (f.slot s), List.take_left,
    List.drop_length_add_append, List.drop_left]

theorem toFrame_withSlot (s : Slot) {bytes : Bytes} (fits : bytes.length = (f.slot s).length) :
    (f.withSlot s bytes fits).toFrame.encode = f.toFrame.header ++ (f.withSlot s bytes fits).encode := by
  cases s <;> rfl

theorem decode_of_short {dest src : Mac} {payload : Bytes} (short : payload.length < 8) :
    decode dest src payload = .error .tooShort := by
  unfold decode
  split
  · simp only [List.length_cons] at short
    omega
  · rfl

theorem take_slots (bytes : Bytes) (h p : Nat) :
    bytes.take h ++ (bytes.drop h).take p ++ (bytes.drop (h + p)).take h ++ (bytes.drop (h + p + h)).take p =
      bytes.take (2 * h + 2 * p) := by
  have whole : 2 * h + 2 * p = h + p + h + p := by omega
  rw [whole, List.take_add, List.take_add, List.take_add]

/-- The payload that was read is the frame, and whatever follows its last address. -/
theorem append_of_decode {dest src : Mac} {payload : Bytes} {f : ArpFrame} (read : decode dest src payload = .ok f) :
    f.dest = dest ∧ f.src = src ∧ ∃ padding, payload = f.encode ++ padding := by
  unfold decode at read
  split at read
  · rename_i h1 h0 p1 p0 h p o1 o0 slots
    dsimp only at read
    split at read
    · cases read
    cases read
    refine ⟨rfl, rfl, slots.drop (2 * h.toNat + 2 * p.toNat), ?_⟩
    simp only [encode, octets16, high8_join16, low8_join16, take_slots, List.cons_append, List.nil_append,
      List.take_append_drop]
  · cases read

end ArpFrame

namespace ArpBuffer

def field (data : Bytes) (first last : Nat) : Checked Bytes := sliceFrom data 14 first last

def setField (data : Bytes) (first last : Nat) (bytes : Bytes) : Checked Bytes := copyFrom data 14 first last bytes

def hardwareType (data : Bytes) : Checked UInt16 := do word16 (← field data 0 2)

def protocolType (data : Bytes) : Checked UInt16 := do word16 (← field data 2 4)

def hardwareLen (data : Bytes) : Checked UInt8 := do byteAt (← field data 4 5) 0

def protocolLen (data : Bytes) : Checked UInt8 := do byteAt (← field data 5 6) 0

def opcode (data : Bytes) : Checked UInt16 := do word16 (← field data 6 8)

/-- Where a slot starts and ends. -/
def range (data : Bytes) (s : Slot) : Checked (Nat × Nat) := do
  let h := (← hardwareLen data).toNat
  let p := (← protocolLen data).toNat
  match s with
  | .senderHardware => return (8, ← add 8 h)
  | .senderProtocol => return (← add 8 h, ← add (← add 8 h) p)
  | .targetHardware => return (← add (← add 8 h) p, ← add (← add 8 (← mul 2 h)) p)
  | .targetProtocol => return (← add (← add 8 (← mul 2 h)) p, ← add (← add 8 (← mul 2 h)) (← mul 2 p))

def slot (data : Bytes) (s : Slot) : Checked Bytes := do
  let (first, last) ← range data s
  field data first last

def setSlot (data : Bytes) (s : Slot) (bytes : Bytes) : Checked Bytes := do
  let (first, last) ← range data s
  setField data first last bytes

/-- The hardware address in a slot, if the slot holds six bytes. -/
def mac? (data : Bytes) (s : Slot) : Checked (Option Mac) := do return (Mac.ofBytes (← slot data s)).toOption

/-- The protocol address in a slot, if the slot holds four bytes. -/
def ip? (data : Bytes) (s : Slot) : Checked (Option Ipv4Addr) := do return Ipv4Addr.ofBytes? (← slot data s)

/-- The frame is about Ethernet and IPv4 addresses. -/
def isEthernetIpv4 (data : Bytes) : Checked Bool := do
  return (← hardwareType data) = 1 && (← protocolType data) = etherTypeIpv4 && (← hardwareLen data) = 6 &&
    (← protocolLen data) = 4

/-- Reads a frame as ARP: the bytes behind the addresses are cut off. -/
def read (data : Bytes) : Checked (Except ArpError Bytes) := do
  if (← FrameBuffer.etherType data) ≠ etherTypeArp then return .error .etherType
  let payload ← FrameBuffer.payload data
  if payload.length < 8 then return .error .tooShort
  let h := (← byteAt payload 4).toNat
  let p := (← byteAt payload 5).toNat
  let length ← add (← add 8 (← mul 2 h)) (← mul 2 p)
  if payload.length < length then return .error .lengths
  return .ok (data.take (← add 14 length))

/-- A blank frame with slots of the given lengths. -/
def blank (hardwareLen protocolLen : UInt8) : Checked Bytes := do
  let length ← add (← add 8 (← mul 2 hardwareLen.toNat)) (← mul 2 protocolLen.toNat)
  let data ← FrameBuffer.setEtherType FrameBuffer.empty etherTypeArp
  let data ← FrameBuffer.setPayload data (List.replicate length 0)
  let data ← setField data 4 5 [hardwareLen]
  setField data 5 6 [protocolLen]

/-- A frame about Ethernet and IPv4 addresses, all of which are zero. -/
def ethernetIpv4 (op : ArpOp) : Checked Bytes := do
  let data ← blank 6 4
  let data ← setField data 0 2 (octets16 1)
  let data ← setField data 2 4 (octets16 etherTypeIpv4)
  setField data 6 8 (octets16 op.code)

/-- The question who has `targetIp`. -/
def request (senderMac : Mac) (senderIp targetIp : Ipv4Addr) : Checked Bytes := do
  let data ← ethernetIpv4 .request
  let data ← FrameBuffer.setDest data Mac.broadcast
  let data ← FrameBuffer.setSrc data senderMac
  let data ← setSlot data .senderHardware senderMac.octets
  let data ← setSlot data .senderProtocol senderIp.octets
  setSlot data .targetProtocol targetIp.octets

/-- The answer to a question about Ethernet and IPv4 addresses. -/
def replyTo? (question : Bytes) (mac : Mac) (ip : Ipv4Addr) : Checked (Option Bytes) := do
  if !(← isEthernetIpv4 question) then return none
  match ← mac? question .senderHardware with
  | none => return none
  | some askerMac =>
    match ← ip? question .senderProtocol with
    | none => return none
    | some askerIp =>
      let data ← ethernetIpv4 .reply
      let data ← FrameBuffer.setDest data (← FrameBuffer.src question)
      let data ← FrameBuffer.setSrc data mac
      let data ← setSlot data .senderHardware mac.octets
      let data ← setSlot data .senderProtocol ip.octets
      let data ← setSlot data .targetHardware askerMac.octets
      return some (← setSlot data .targetProtocol askerIp.octets)

/-! ## What the operations do -/

section
variable (f : ArpFrame)

theorem field_encode {first last : Nat} (order : first ≤ last) (inside : last ≤ f.encode.length) :
    field f.toFrame.encode first last = .ok ((f.encode.take last).drop first) := by
  have hw := f.hardwareLen.toNat_lt
  have pr := f.protocolLen.toNat_lt
  have small : last < 2 ^ 32 := by
    rw [f.length_encode] at inside
    omega
  have shift := sliceFrom_append f.encode (PacketBuffer.near_header f.toFrame) small order
  exact shift.trans (slice_eq order inside)

theorem lead {last : Nat} (le : last ≤ 8) : last ≤ f.encode.length := by
  rw [f.length_encode]
  omega

theorem hardwareType_encode : hardwareType f.toFrame.encode = .ok f.hardwareType := by
  rw [hardwareType, field_encode f (by omega) (lead f (by omega))]
  exact word16_octets16 f.hardwareType

theorem protocolType_encode : protocolType f.toFrame.encode = .ok f.protocolType := by
  rw [protocolType, field_encode f (by omega) (lead f (by omega))]
  exact word16_octets16 f.protocolType

theorem hardwareLen_encode : hardwareLen f.toFrame.encode = .ok f.hardwareLen := by
  rw [hardwareLen, field_encode f (by omega) (lead f (by omega))]
  rfl

theorem protocolLen_encode : protocolLen f.toFrame.encode = .ok f.protocolLen := by
  rw [protocolLen, field_encode f (by omega) (lead f (by omega))]
  rfl

theorem opcode_encode : opcode f.toFrame.encode = .ok f.opcode := by
  rw [opcode, field_encode f (by omega) (lead f (by omega))]
  exact word16_octets16 f.opcode

/-- The formulas for the ends of a slot give the place where the frame has it. -/
theorem range_eq (s : Slot) :
    range f.toFrame.encode s = .ok ((f.ahead s).length, (f.ahead s).length + (f.slot s).length) := by
  have hw := f.hardwareLen.toNat_lt
  have pr := f.protocolLen.toNat_lt
  have first : add 8 f.hardwareLen.toNat = .ok (8 + f.hardwareLen.toNat) := add_near (by omega) (by omega)
  have second : add (8 + f.hardwareLen.toNat) f.protocolLen.toNat =
      .ok (8 + f.hardwareLen.toNat + f.protocolLen.toNat) := add_near (by omega) (by omega)
  have twiceHw : mul 2 f.hardwareLen.toNat = .ok (2 * f.hardwareLen.toNat) := mul_near (by omega)
  have twicePr : mul 2 f.protocolLen.toNat = .ok (2 * f.protocolLen.toNat) := mul_near (by omega)
  have both : add 8 (2 * f.hardwareLen.toNat) = .ok (8 + 2 * f.hardwareLen.toNat) := add_near (by omega) (by omega)
  have third : add (8 + 2 * f.hardwareLen.toNat) f.protocolLen.toNat =
      .ok (8 + 2 * f.hardwareLen.toNat + f.protocolLen.toNat) := add_near (by omega) (by omega)
  have fourth : add (8 + 2 * f.hardwareLen.toNat) (2 * f.protocolLen.toNat) =
      .ok (8 + 2 * f.hardwareLen.toNat + 2 * f.protocolLen.toNat) := add_near (by omega) (by omega)
  rw [range, hardwareLen_encode, protocolLen_encode, ok_bind, ok_bind]
  cases s with
  | senderHardware => simp [first, ArpFrame.ahead, ArpFrame.slot, f.length_senderHardware]
  | senderProtocol =>
    simp [first, second, ArpFrame.ahead, ArpFrame.slot, f.length_senderHardware, f.length_senderProtocol]
  | targetHardware =>
    simp [first, second, twiceHw, both, third, ArpFrame.ahead, ArpFrame.slot, f.length_senderHardware,
      f.length_senderProtocol, f.length_targetHardware]
    omega
  | targetProtocol =>
    simp [twiceHw, twicePr, both, third, fourth, ArpFrame.ahead, ArpFrame.slot, f.length_senderHardware,
      f.length_senderProtocol, f.length_targetHardware, f.length_targetProtocol]
    omega

theorem inside (s : Slot) : (f.ahead s).length + (f.slot s).length ≤ f.encode.length := by
  rw [f.encode_eq s, List.length_append, List.length_append]
  exact Nat.le_add_right ..

theorem inside_near (s : Slot) : (f.ahead s).length + (f.slot s).length < 2 ^ 32 := by
  have := inside f s
  have := f.length_encode
  have := f.hardwareLen.toNat_lt
  have := f.protocolLen.toNat_lt
  omega

theorem slot_encode (s : Slot) : slot f.toFrame.encode s = .ok (f.slot s) := by
  rw [slot, range_eq, ok_bind]
  dsimp only
  rw [field_encode f (Nat.le_add_right ..) (inside f s), f.encode_eq s, List.append_assoc,
    List.take_length_add_append, List.drop_left, List.take_left]

/-- A slot is written by the bytes that fill it, and nothing else is. -/
theorem setSlot_encode (s : Slot) {bytes : Bytes} (fits : bytes.length = (f.slot s).length) :
    setSlot f.toFrame.encode s bytes = .ok (f.withSlot s bytes fits).toFrame.encode := by
  have shift := copyFrom_append f.encode (PacketBuffer.near_header f.toFrame) (inside_near f s) (inside f s)
    (congrArg _ fits)
  rw [setSlot, range_eq, ok_bind, f.toFrame_withSlot, ← f.overwrite_slot s fits]
  exact shift

theorem mac?_encode (s : Slot) : mac? f.toFrame.encode s = .ok (Mac.ofBytes (f.slot s)).toOption := by
  rw [mac?, slot_encode]
  rfl

theorem ip?_encode (s : Slot) : ip? f.toFrame.encode s = .ok (Ipv4Addr.ofBytes? (f.slot s)) := by
  rw [ip?, slot_encode]
  rfl

theorem isEthernetIpv4_encode : isEthernetIpv4 f.toFrame.encode = .ok f.isEthernetIpv4 := by
  rw [isEthernetIpv4, hardwareType_encode, protocolType_encode, hardwareLen_encode, protocolLen_encode]
  rfl

end

/-- What is read as ARP is the frame up to the end of the last address. -/
theorem read_encode (frame : EthernetFrame) :
    read frame.encode = .ok ((ArpFrame.ofFrame frame).map fun f => f.toFrame.encode) := by
  rw [read, FrameBuffer.etherType_encode, FrameBuffer.payload_encode, ok_bind, ArpFrame.ofFrame]
  by_cases other : frame.etherType ≠ etherTypeArp
  · rw [if_pos other, if_neg other]
    rfl
  have arp : frame.etherType = etherTypeArp := Decidable.of_not_not other
  rw [if_neg other, if_pos arp, ok_bind]
  by_cases short : frame.payload.length < 8
  · rw [if_pos short, ArpFrame.decode_of_short short]
    rfl
  obtain ⟨h1, h0, p1, p0, h, p, o1, o0, slots, same⟩ := exists_eight (Nat.le_of_not_lt short)
  have hw := h.toNat_lt
  have pr := p.toNat_lt
  have first : byteAt frame.payload 4 = .ok h := by rw [same]; rfl
  have second : byteAt frame.payload 5 = .ok p := by rw [same]; rfl
  have length : frame.payload.length = 8 + slots.length := by
    rw [same]
    simp only [List.length_cons]
    omega
  rw [if_neg short, first, ok_bind, second, ok_bind]
  dsimp only
  rw [mul_near (by omega), ok_bind, add_near (by omega) (by omega), ok_bind, mul_near (by omega), ok_bind,
    add_near (by omega) (by omega), ok_bind, length]
  by_cases outside : slots.length < 2 * h.toNat + 2 * p.toNat
  · rw [if_pos (by omega), same, ArpFrame.decode, dif_pos outside]
    rfl
  rw [if_neg (by omega), add_near (by omega) (by omega), ok_bind]
  have readable : ∃ f, ArpFrame.decode frame.dest frame.src frame.payload = .ok f ∧
      f.encode.length = 8 + 2 * h.toNat + 2 * p.toNat := by
    rw [same, ArpFrame.decode, dif_neg outside]
    exact ⟨_, rfl, ArpFrame.length_encode _⟩
  obtain ⟨f, decoded, whole⟩ := readable
  -- Cutting the buffer off drops the padding, and only that.
  obtain ⟨dest, src, padding, payload⟩ := ArpFrame.append_of_decode decoded
  have header : f.toFrame.header = frame.header := by
    rw [EthernetFrame.header, EthernetFrame.header, arp, ← dest, ← src]
    rfl
  have cut : frame.encode.take (14 + (8 + 2 * h.toNat + 2 * p.toNat)) = f.toFrame.encode := by
    rw [EthernetFrame.encode, ← whole, ← header, payload]
    show (f.toFrame.header ++ (f.encode ++ padding)).take (f.toFrame.header.length + f.encode.length) = _
    rw [List.take_length_add_append, List.take_left]
    rfl
  rw [cut, decoded]
  rfl

theorem ethernetIpv4_eq (op : ArpOp) : ethernetIpv4 op =
    .ok (ArpFrame.ethernetIpv4 op .zero .zero .zero .zero .unspecified .unspecified).toFrame.encode := by
  cases op <;> rfl

section
variable (op : ArpOp) (dest src senderMac targetMac mac : Mac) (senderIp targetIp ip : Ipv4Addr)

theorem setDest_ethernetIpv4 :
    FrameBuffer.setDest (ArpFrame.ethernetIpv4 op dest src senderMac targetMac senderIp targetIp).toFrame.encode mac =
      .ok (ArpFrame.ethernetIpv4 op mac src senderMac targetMac senderIp targetIp).toFrame.encode :=
  FrameBuffer.setDest_encode _ mac

theorem setSrc_ethernetIpv4 :
    FrameBuffer.setSrc (ArpFrame.ethernetIpv4 op dest src senderMac targetMac senderIp targetIp).toFrame.encode mac =
      .ok (ArpFrame.ethernetIpv4 op dest mac senderMac targetMac senderIp targetIp).toFrame.encode :=
  FrameBuffer.setSrc_encode _ mac

theorem setSenderMac_ethernetIpv4 :
    setSlot (ArpFrame.ethernetIpv4 op dest src senderMac targetMac senderIp targetIp).toFrame.encode .senderHardware
      mac.octets = .ok (ArpFrame.ethernetIpv4 op dest src mac targetMac senderIp targetIp).toFrame.encode :=
  setSlot_encode (.ethernetIpv4 op dest src senderMac targetMac senderIp targetIp) .senderHardware (by rfl)

theorem setSenderIp_ethernetIpv4 :
    setSlot (ArpFrame.ethernetIpv4 op dest src senderMac targetMac senderIp targetIp).toFrame.encode .senderProtocol
      ip.octets = .ok (ArpFrame.ethernetIpv4 op dest src senderMac targetMac ip targetIp).toFrame.encode :=
  setSlot_encode (.ethernetIpv4 op dest src senderMac targetMac senderIp targetIp) .senderProtocol (by rfl)

theorem setTargetMac_ethernetIpv4 :
    setSlot (ArpFrame.ethernetIpv4 op dest src senderMac targetMac senderIp targetIp).toFrame.encode .targetHardware
      mac.octets = .ok (ArpFrame.ethernetIpv4 op dest src senderMac mac senderIp targetIp).toFrame.encode :=
  setSlot_encode (.ethernetIpv4 op dest src senderMac targetMac senderIp targetIp) .targetHardware (by rfl)

theorem setTargetIp_ethernetIpv4 :
    setSlot (ArpFrame.ethernetIpv4 op dest src senderMac targetMac senderIp targetIp).toFrame.encode .targetProtocol
      ip.octets = .ok (ArpFrame.ethernetIpv4 op dest src senderMac targetMac senderIp ip).toFrame.encode :=
  setSlot_encode (.ethernetIpv4 op dest src senderMac targetMac senderIp targetIp) .targetProtocol (by rfl)

end

theorem request_eq (senderMac : Mac) (senderIp targetIp : Ipv4Addr) :
    request senderMac senderIp targetIp = .ok (ArpFrame.request senderMac senderIp targetIp).toFrame.encode := by
  rw [request, ethernetIpv4_eq, ok_bind, setDest_ethernetIpv4, ok_bind, setSrc_ethernetIpv4, ok_bind,
    setSenderMac_ethernetIpv4, ok_bind, setSenderIp_ethernetIpv4, ok_bind, setTargetIp_ethernetIpv4]
  rfl

theorem replyTo?_eq (question : ArpFrame) (mac : Mac) (ip : Ipv4Addr) :
    replyTo? question.toFrame.encode mac ip =
      .ok ((question.replyTo? mac ip).map fun reply => reply.toFrame.encode) := by
  have askerMac : mac? question.toFrame.encode .senderHardware = .ok question.senderMac? := mac?_encode _ _
  have askerIp : ip? question.toFrame.encode .senderProtocol = .ok question.senderIp? := ip?_encode _ _
  rw [replyTo?, isEthernetIpv4_encode, ok_bind, ArpFrame.replyTo?, askerMac, askerIp, FrameBuffer.src_encode]
  by_cases usual : question.isEthernetIpv4
  · rw [if_neg (by simp [usual]), if_pos usual, ok_bind]
    cases question.senderMac? with
    | none => rfl
    | some askerMac =>
      cases question.senderIp? with
      | none => rfl
      | some askerIp =>
        dsimp only
        rw [ok_bind]
        dsimp only
        rw [ethernetIpv4_eq, ok_bind, ok_bind, setDest_ethernetIpv4, ok_bind, setSrc_ethernetIpv4, ok_bind,
          setSenderMac_ethernetIpv4, ok_bind, setSenderIp_ethernetIpv4, ok_bind, setTargetMac_ethernetIpv4, ok_bind,
          setTargetIp_ethernetIpv4]
        rfl
  · rw [if_pos (by simp [usual]), if_neg usual]
    rfl

end ArpBuffer

end SoftRouter
