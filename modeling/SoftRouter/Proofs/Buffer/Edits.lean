import SoftRouter.Proofs.Buffer.Datagram
import SoftRouter.Proofs.Forwarding
import SoftRouter.Proofs.Notices

/-!
# Packets edited in their buffers

A packet that was read from a frame or made with a fresh header agrees with its bytes, and goes on to agree with them
however its fields and its payload are set: the length fields are those of the buffer, and the frame around it holds
the same packet (`editAll_matches`). The options of the header are as they were.
-/

namespace SoftRouter

open Checked

/-- A change to one part of a packet. -/
inductive PacketEdit where
  | src (ip : Ipv4Addr)
  | dest (ip : Ipv4Addr)
  | ttl (ttl : UInt8)
  /-- The checksum becomes the one that the header should carry. -/
  | checksum
  | payload (payload : Bytes)
  deriving DecidableEq, Repr

namespace Ipv4Packet

def edit (p : Ipv4Packet) : PacketEdit → Ipv4Packet
  | .src src => { p with src }
  | .dest dest => { p with dest }
  | .ttl ttl => { p with ttl }
  | .checksum => p.checksummed
  | .payload payload => p.withPayload payload

def editAll (p : Ipv4Packet) (edits : List PacketEdit) : Ipv4Packet := edits.foldl edit p

section
variable (p : Ipv4Packet)

@[simp] theorem options_withChecksum (checksum : UInt16) : (p.withChecksum checksum).options = p.options := rfl

@[simp] theorem options_edit (e : PacketEdit) : (p.edit e).options = p.options := by
  cases e with
  | checksum => exact p.options_withChecksum p.headerChecksum
  | _ => rfl

@[simp] theorem headerLength_edit (e : PacketEdit) : (p.edit e).headerLength = p.headerLength := by
  rw [headerLength, options_edit, headerLength]

theorem overwrite_src (src : Ipv4Addr) : overwrite 12 src.octets p.encode = ({ p with src } : Ipv4Packet).encode := by
  simp [overwrite, encode, header, headerWith, octets16, octets32, Ipv4Addr.octets, totalLength, headerLength, ihl]

theorem overwrite_dest (dest : Ipv4Addr) :
    overwrite 16 dest.octets p.encode = ({ p with dest } : Ipv4Packet).encode := by
  simp [overwrite, encode, header, headerWith, octets16, octets32, Ipv4Addr.octets, totalLength, headerLength, ihl]

theorem options_editAll (edits : List PacketEdit) : (p.editAll edits).options = p.options := by
  induction edits generalizing p with
  | nil => rfl
  | cons e rest ih => exact (ih (p.edit e)).trans (p.options_edit e)

end

theorem fits_withChecksum {p : Ipv4Packet} (fits : p.Fits) (checksum : UInt16) : (p.withChecksum checksum).Fits := by
  have header : (p.withChecksum checksum).headerLength = p.headerLength := rfl
  have payload : (p.withChecksum checksum).payload = p.payload := rfl
  rw [Fits, header, payload]
  exact fits

theorem fits_make (src dest : Ipv4Addr) (protocolNumber ttl : UInt8) : (make src dest protocolNumber ttl []).Fits := by
  have header : (make src dest protocolNumber ttl []).headerLength = 20 := rfl
  have payload : (make src dest protocolNumber ttl []).payload = [] := rfl
  rw [Fits, header, payload]
  decide

/-- A packet stays as short as its length field can say when its new payload leaves it so. -/
theorem fits_edit {p : Ipv4Packet} (fits : p.Fits) {e : PacketEdit}
    (short : ∀ payload, e = .payload payload → p.headerLength + payload.length ≤ 65535) : (p.edit e).Fits := by
  cases e with
  | payload payload => exact Nat.lt_succ_of_le (short payload rfl)
  | checksum => exact fits_withChecksum fits p.headerChecksum
  | _ => exact fits

end Ipv4Packet

/-! ## Its buffer -/

namespace PacketBuffer

def setSrc (b : PacketBuffer) (ip : Ipv4Addr) : Checked PacketBuffer := do
  return { b with data := ← copyFrom b.data b.start 12 16 ip.octets }

def setDest (b : PacketBuffer) (ip : Ipv4Addr) : Checked PacketBuffer := do
  return { b with data := ← copyFrom b.data b.start 16 20 ip.octets }

def edit (b : PacketBuffer) : PacketEdit → Checked PacketBuffer
  | .src ip => b.setSrc ip
  | .dest ip => b.setDest ip
  | .ttl ttl => b.setTtl ttl
  | .checksum => b.setChecksum
  | .payload payload => b.setPayload payload

def editAll (b : PacketBuffer) (edits : List PacketEdit) : Checked PacketBuffer := edits.foldlM edit b

/-- The total length field. -/
def totalLength (b : PacketBuffer) : Checked UInt16 := word16From b.data b.start 2

/-- The length of the header in words, as its first byte says. -/
def ihl (b : PacketBuffer) : Checked Nat := do return (← byteAt b.data b.start).toNat % 16

/-- The options of the header. -/
def options (b : PacketBuffer) : Checked Bytes := do slice b.data (← add b.start 20) b.body

/-- The buffers hold the same bytes from the packet on. -/
def same (b c : PacketBuffer) : Checked Bool := do
  return (← suffix b.data b.start) = (← suffix c.data c.start)

/-- The packet was read from a frame or made with a fresh header. -/
inductive Obtained : PacketBuffer → Prop where
  | received {data : Bytes} {b : PacketBuffer} (read : ofFrame data = .ok (.ok b)) : Obtained b
  | made {src dest : Ipv4Addr} {protocolNumber ttl : UInt8} {b : PacketBuffer}
      (made : newHeader src dest protocolNumber ttl = .ok b) : Obtained b

/-- The packet agrees with its bytes. -/
structure MatchesWire (b : PacketBuffer) : Prop where
  /-- The total length is the number of bytes from the packet to the end of the buffer. -/
  total : ∃ total, b.totalLength = .ok total ∧ b.start + total.toNat = b.data.length
  words : ∃ ihl, b.ihl = .ok ihl ∧ b.headerLength = .ok (4 * ihl)
  /-- The frame around the packet can be read, and holds the same packet with the same parts. -/
  reread : ∃ frame again header payload length, FrameBuffer.encap b = .ok frame ∧ ofFrame frame = .ok (.ok again) ∧
    again.same b = .ok true ∧ b.header = .ok header ∧ again.header = .ok header ∧ b.payload = .ok payload ∧
    again.payload = .ok payload ∧ b.headerLength = .ok length ∧ again.headerLength = .ok length

section
variable {front : Bytes} (near : front.length < 2 ^ 32) (link : Option Nat) (p : Ipv4Packet)

theorem same_laid (front' : Bytes) (link' : Option Nat) :
    (p.laid front' link').same (p.laid front link) = .ok true := by
  have inside (front : Bytes) : front.length ≤ (front ++ p.encode).length := by simp
  dsimp only [same, Ipv4Packet.laid]
  rw [suffix_eq (inside front'), suffix_eq (inside front), List.drop_left, List.drop_left]
  simp

theorem ihl_laid : (p.laid front link).ihl = .ok p.ihl := by
  have first : byteAt (front ++ p.encode) front.length = .ok (UInt8.ofNat (64 + p.ihl)) := by
    rw [byteAt, List.getElem?_append_right (Nat.le_refl _), Nat.sub_self]
    rfl
  dsimp only [ihl, Ipv4Packet.laid]
  rw [first, ok_bind, p.ihl_first]
  rfl

include near

theorem options_laid : (p.laid front link).options = .ok p.options := by
  have behind : p.header.drop 20 = p.options := rfl
  dsimp only [options, Ipv4Packet.laid]
  rw [add_near near (by omega), ok_bind, slice_eq (by rw [Ipv4Packet.headerLength]; omega) (body_inside p front),
    List.take_length_add_append, p.take_encode, List.drop_length_add_append, behind]

theorem totalLength_laid : (p.laid front link).totalLength = .ok p.totalLength := by
  rw [totalLength, Ipv4Packet.laid, word16From, sliceFrom_append _ near (by omega) (by omega),
    slice_encode p (by omega) (by omega)]
  exact word16_octets16 p.totalLength

theorem setSrc_laid (src : Ipv4Addr) :
    (p.laid front link).setSrc src = .ok (({ p with src } : Ipv4Packet).laid front link) := by
  dsimp only [setSrc, Ipv4Packet.laid]
  rw [copyFrom_append _ near (by omega) (room p (by omega)) (by rfl), p.overwrite_src]
  rfl

theorem setDest_laid (dest : Ipv4Addr) :
    (p.laid front link).setDest dest = .ok (({ p with dest } : Ipv4Packet).laid front link) := by
  dsimp only [setDest, Ipv4Packet.laid]
  rw [copyFrom_append _ near (by omega) (room p (by omega)) (by rfl), p.overwrite_dest]
  rfl

theorem edit_laid {e : PacketEdit}
    (short : ∀ payload, e = .payload payload → p.headerLength + payload.length ≤ 65535) :
    (p.laid front link).edit e = .ok ((p.edit e).laid front link) := by
  cases e with
  | src src => exact setSrc_laid near link p src
  | dest dest => exact setDest_laid near link p dest
  | ttl ttl => exact setTtl_laid near link p ttl
  | checksum => exact setChecksum_laid near link p
  | payload payload =>
    refine setPayload_laid near link p ?_
    have total := short payload rfl
    unfold bufferEnd
    omega

end

/-- Edits of the buffer are edits of the packet in it, which stays as short as its length field can say. -/
theorem editAll_laid {front : Bytes} (near : front.length < 2 ^ 32) (link : Option Nat) {p : Ipv4Packet} (fits : p.Fits)
    {edits : List PacketEdit}
    (short : ∀ payload, .payload payload ∈ edits → p.headerLength + payload.length ≤ 65535) :
    (p.laid front link).editAll edits = .ok ((p.editAll edits).laid front link) ∧ (p.editAll edits).Fits := by
  induction edits generalizing p with
  | nil => exact ⟨rfl, fits⟩
  | cons e rest ih =>
    have first : ∀ payload, e = .payload payload → p.headerLength + payload.length ≤ 65535 := by
      rintro payload rfl
      exact short payload List.mem_cons_self
    have later : ∀ payload, .payload payload ∈ rest → (p.edit e).headerLength + payload.length ≤ 65535 := by
      intro payload mem
      rw [p.headerLength_edit]
      exact short payload (List.mem_cons_of_mem e mem)
    rw [editAll, List.foldlM_cons, edit_laid near link p first]
    exact ih (Ipv4Packet.fits_edit fits first) later

theorem matchesWire_laid {front : Bytes} (near : front.length < 2 ^ 32) (link : Option Nat) {p : Ipv4Packet}
    (fits : p.Fits) : (p.laid front link).MatchesWire where
  total := by
    refine ⟨p.totalLength, totalLength_laid near link p, ?_⟩
    have length : p.headerLength + p.payload.length < 65536 := fits
    rw [Ipv4Packet.totalLength, UInt16.toNat_ofNat', Nat.mod_eq_of_lt length, Ipv4Packet.laid, List.length_append,
      Ipv4Packet.length_encode]
  words := ⟨p.ihl, ihl_laid link p, by rw [headerLength_laid, p.headerLength_eq]⟩
  reread := by
    have encoded : 14 + p.encode.length < bufferEnd := by
      have length : p.headerLength + p.payload.length < 65536 := fits
      rw [Ipv4Packet.length_encode]
      unfold bufferEnd
      omega
    have read : Ipv4Packet.ofFrame (.carrying p) = .ok p := EthernetFrame.ofFrame_of_payload rfl rfl fits
    refine ⟨_, p.laid (EthernetFrame.carrying p).header (some 0), p.header, p.payload, p.headerLength,
      frameEncap_laid encoded front link, ?_, same_laid link p _ _, header_laid link p, header_laid _ p,
      payload_laid link p, payload_laid _ p, headerLength_laid link p, headerLength_laid _ p⟩
    rw [ofFrame_eq, read]
    rfl

/-- A packet read from bytes is read from the frame that they hold. -/
theorem exists_of_read {data : Bytes} {b : PacketBuffer} (read : ofFrame data = .ok (.ok b)) :
    ∃ f p, data = EthernetFrame.encode f ∧ Ipv4Packet.ofFrame f = .ok p ∧ b = p.laid f.header (some 0) := by
  by_cases long : 14 ≤ data.length
  · obtain ⟨f, decoded⟩ := EthernetFrame.exists_decode long
    obtain rfl := EthernetFrame.encode_of_decode decoded
    rw [ofFrame_eq] at read
    cases packet : Ipv4Packet.ofFrame f with
    | error _ =>
      rw [packet] at read
      cases read
    | ok p =>
      rw [packet] at read
      cases read
      exact ⟨f, p, rfl, packet, rfl⟩
  · -- There is no ether type to read.
    have outside : ¬ (12 ≤ 14 ∧ 14 ≤ data.length) := fun both => long both.2
    rw [ofFrame, FrameBuffer.etherType, slice, if_neg outside] at read
    cases read

theorem laid_of_obtained {b : PacketBuffer} (obtained : Obtained b) :
    ∃ p front link, front.length < 2 ^ 32 ∧ p.Fits ∧ b = Ipv4Packet.laid p front link := by
  cases obtained with
  | received read =>
    obtain ⟨f, p, -, packet, rfl⟩ := exists_of_read read
    exact ⟨p, f.header, some 0, near_header f, Ipv4Packet.fits_of_ofFrame packet, rfl⟩
  | made made =>
    rw [newHeader_eq] at made
    cases made
    exact ⟨_, [], none, by simp, Ipv4Packet.fits_make _ _ _ _, rfl⟩

/-- A packet that was read or made agrees with its bytes after any edits that leave it as short as its length field can
say. None of them faults or touches the options, and they are the edits of the packet in the buffer, which reads back
as itself. -/
theorem editAll_matches {b : PacketBuffer} (obtained : Obtained b) {edits : List PacketEdit}
    (short : ∀ payload, .payload payload ∈ edits → b.body - b.start + payload.length ≤ 65535) :
    ∃ c, b.editAll edits = .ok c ∧ c.MatchesWire ∧ (∃ options, b.options = .ok options ∧ c.options = .ok options) ∧
      ∃ p front link, b = Ipv4Packet.laid p front link ∧ c = (p.editAll edits).laid front link ∧
        Ipv4Packet.ofFrame (.carrying (p.editAll edits)) = .ok (p.editAll edits) := by
  obtain ⟨p, front, link, near, fits, rfl⟩ := laid_of_obtained obtained
  have length : (p.laid front link).body - (p.laid front link).start = p.headerLength := Nat.add_sub_cancel_left ..
  rw [length] at short
  obtain ⟨edited, fits'⟩ := editAll_laid near link fits short
  refine ⟨_, edited, matchesWire_laid near link fits', ⟨p.options, options_laid near link p, ?_⟩, p, front, link, rfl,
    rfl, EthernetFrame.ofFrame_of_payload rfl rfl fits'⟩
  rw [options_laid near, p.options_editAll]

open Router (datagram toSecond)

def datagramRead : PacketBuffer := (datagram (.ofOctets 8 8 8 8)).laid toSecond.frame.header (some 0)

def someEdits : List PacketEdit :=
  [.payload [9, 8, 7, 6, 5], .ttl 3, .src (.ofOctets 10 0 1 1), .payload [], .dest (.ofOctets 9 9 9 9), .checksum]

theorem datagramRead_obtained : ofFrame toSecond.frame.encode = .ok (.ok datagramRead) := by
  have packet : Ipv4Packet.ofFrame toSecond.frame = .ok (datagram (.ofOctets 8 8 8 8)) := by decide +kernel
  rw [ofFrame_eq, packet]
  rfl

/-- The trailer is cut off on reading, and the options are still there behind all edits. -/
theorem datagramRead_edited : ∃ c, datagramRead.editAll someEdits = .ok c ∧ c.MatchesWire ∧
    c.options = .ok [1, 1, 1, 0] := by
  have short : ∀ payload, .payload payload ∈ someEdits →
      datagramRead.body - datagramRead.start + payload.length ≤ 65535 := by
    intro payload mem
    have few : payload = [9, 8, 7, 6, 5] ∨ payload = [] := by simpa [someEdits] using mem
    rcases few with rfl | rfl
    · decide +kernel
    · decide +kernel
  have there : datagramRead.options = .ok [1, 1, 1, 0] := by decide +kernel
  obtain ⟨c, edited, wire, ⟨options, before, after⟩, -⟩ := editAll_matches (.received datagramRead_obtained) short
  cases there.symm.trans before
  exact ⟨c, edited, wire, after⟩

end PacketBuffer

end SoftRouter
