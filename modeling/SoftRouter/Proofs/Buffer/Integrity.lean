import SoftRouter.Proofs.Buffer.Edits
import SoftRouter.Proofs.Buffer.Transport
import SoftRouter.Proofs.OnesComplement

/-!
# What the checksums guard

A checksum stands in an even place of the bytes that it is over, so that it adds itself to their sum. The bytes then
carry the checksum they should just when they add up to ones, but for the two zeros of one's complement: the sum of
ones with a field of ones is that of a field of zeros (`eq_internetChecksum_iff`). A flipped bit moves the sum by a
power of two below 65535, so no valid header stays valid when a bit is flipped behind its first byte, whether it is
looked at in the buffer or read again (`checksums_guard`).
-/

namespace SoftRouter

/-- The byte with one bit flipped, of which the lowest is number zero. -/
def flipBit (k : Nat) (byte : UInt8) : UInt8 := byte ^^^ UInt8.ofNat (2 ^ k)

theorem flipBit_cases {k : Nat} (bit : k < 8) (byte : UInt8) :
    (flipBit k byte).toNat = byte.toNat + 2 ^ k ∨ byte.toNat = (flipBit k byte).toNat + 2 ^ k := by
  have each : ∀ n < 256, ∀ k < 8, n ^^^ (2 ^ k % 256) = n + 2 ^ k ∨ n = (n ^^^ (2 ^ k % 256)) + 2 ^ k := by
    decide +kernel
  simpa [flipBit] using each byte.toNat byte.toNat_lt k bit

/-- A flipped bit moves the sum of the words by a power of two. -/
theorem wordSum_flipBit {bytes : Bytes} {i k : Nat} (inside : i < bytes.length) (bit : k < 8) :
    ∃ m < 16, wordSum (bytes.modify i (flipBit k)) = wordSum bytes + 2 ^ m ∨
      wordSum bytes = wordSum (bytes.modify i (flipBit k)) + 2 ^ m := by
  have up : 2 ^ (k + 8) = 2 ^ k * 256 := Nat.pow_add 2 k 8
  fun_induction wordSum bytes generalizing i with
  | case1 hi lo rest ih =>
    obtain _ | _ | i := i
    · refine ⟨k + 8, by omega, ?_⟩
      have moved := flipBit_cases bit hi
      show wordSum (flipBit k hi :: lo :: rest) = _ ∨ _ = wordSum (flipBit k hi :: lo :: rest) + _
      rw [wordSum, up]
      omega
    · refine ⟨k, by omega, ?_⟩
      have moved := flipBit_cases bit lo
      show wordSum (hi :: flipBit k lo :: rest) = _ ∨ _ = wordSum (hi :: flipBit k lo :: rest) + _
      rw [wordSum]
      omega
    · obtain ⟨m, small, moved⟩ := ih (i := i) (by simpa using inside)
      refine ⟨m, small, ?_⟩
      show wordSum (hi :: lo :: rest.modify i (flipBit k)) = _ ∨ _ = wordSum (hi :: lo :: rest.modify i (flipBit k)) + _
      rw [wordSum]
      omega
  | case2 hi =>
    obtain rfl : i = 0 := by simpa using inside
    refine ⟨k + 8, by omega, ?_⟩
    have moved := flipBit_cases bit hi
    show wordSum [flipBit k hi] = _ ∨ _ = wordSum [flipBit k hi] + _
    rw [wordSum, up]
    omega
  | case3 => simp at inside

theorem wordSum_append {front : Bytes} (even : front.length % 2 = 0) (bytes : Bytes) :
    wordSum (front ++ bytes) = wordSum front + wordSum bytes := by
  fun_induction wordSum front with
  | case1 hi lo rest ih =>
    rw [List.cons_append, List.cons_append, wordSum, ih (by simpa [Nat.add_assoc] using even)]
    omega
  | case2 hi => simp at even
  | case3 => simp

theorem wordSum_octets16 (w : UInt16) (bytes : Bytes) : wordSum (octets16 w ++ bytes) = w.toNat + wordSum bytes := by
  have whole := toNat_join16 (high8 w) (low8 w)
  rw [join16_high8_low8] at whole
  show (high8 w).toNat * 256 + (low8 w).toNat + wordSum bytes = _
  rw [← whole]

/-- Bytes with a checksum between them. -/
def carrying (front rest : Bytes) (checksum : UInt16) : Bytes := front ++ (octets16 checksum ++ rest)

section
variable {front rest : Bytes} (even : front.length % 2 = 0)
include even

theorem wordSum_carrying (c : UInt16) :
    wordSum (carrying front rest c) = wordSum (carrying front rest 0) + c.toNat := by
  rw [carrying, carrying, wordSum_append even, wordSum_append even, wordSum_octets16, wordSum_octets16,
    UInt16.toNat_zero]
  omega

end

theorem length_carrying (front rest : Bytes) (c : UInt16) :
    (carrying front rest c).length = front.length + (2 + rest.length) := by
  rw [carrying, List.length_append, List.length_append, length_octets16]

theorem internetChecksum_eq_zero_iff {data : Bytes} (short : data.length ≤ 131074) :
    internetChecksum data = 0 ↔ 0 < wordSum data ∧ wordSum data % 65535 = 0 := by
  have value := toNat_internetChecksum short
  rw [← UInt16.toNat_inj, value, foldCarries_eq, UInt16.toNat_zero]
  split <;> omega

/-- Bytes carry the checksum they should when they add up to ones, unless the checksum is all ones itself: then they
do so only if there is nothing else in them. -/
theorem eq_internetChecksum_iff {front rest : Bytes} (even : front.length % 2 = 0) {c : UInt16}
    (short : (carrying front rest c).length ≤ 131074) : c = internetChecksum (carrying front rest 0) ↔
      internetChecksum (carrying front rest c) = 0 ∧ (c = 65535 → wordSum (carrying front rest 0) = 0) := by
  have short' : (carrying front rest 0).length ≤ 131074 := by rwa [length_carrying] at short ⊢
  have ones : c = 65535 ↔ c.toNat = 65535 := UInt16.toNat_inj.symm
  have word := c.toNat_lt
  rw [internetChecksum_eq_zero_iff short, wordSum_carrying even, ← UInt16.toNat_inj, toNat_internetChecksum short',
    foldCarries_eq, ones]
  generalize wordSum (carrying front rest 0) = sum
  split <;> omega

theorem internetChecksum_carrying {front rest : Bytes} (even : front.length % 2 = 0)
    (short : (carrying front rest 0).length ≤ 131074) :
    internetChecksum (carrying front rest (internetChecksum (carrying front rest 0))) = 0 :=
  ((eq_internetChecksum_iff even (by rwa [length_carrying] at short ⊢)).1 rfl).1

theorem internetChecksum_flipBit {bytes : Bytes} (short : bytes.length ≤ 131074) (ones : internetChecksum bytes = 0)
    {i k : Nat} (inside : i < bytes.length) (bit : k < 8) : internetChecksum (bytes.modify i (flipBit k)) ≠ 0 := by
  obtain ⟨m, small, moved⟩ := wordSum_flipBit inside bit
  have power : 2 ^ m ≤ 2 ^ 15 := Nat.pow_le_pow_right (by omega) (by omega)
  have positive : 0 < 2 ^ m := Nat.two_pow_pos m
  rw [internetChecksum_eq_zero_iff short] at ones
  rw [Ne, internetChecksum_eq_zero_iff (by rwa [List.length_modify])]
  omega

namespace Ipv4Packet

variable (p : Ipv4Packet)

/-- The part of the header ahead of the checksum. -/
def headerFront : Bytes :=
  [UInt8.ofNat (64 + p.ihl), p.tos] ++ octets16 p.totalLength ++ octets16 p.identification ++ octets16 p.fragment ++
    [p.ttl, p.protocolNumber]

theorem headerWith_eq (c : UInt16) :
    p.headerWith c = carrying p.headerFront (p.src.octets ++ p.dest.octets ++ p.options) c := by
  simp only [headerWith, carrying, headerFront, List.append_assoc]

theorem even_headerFront : p.headerFront.length % 2 = 0 := by simp [headerFront]

theorem short_headerWith (c : UInt16) : (p.headerWith c).length ≤ 60 := by
  have := p.options_fit
  rw [length_headerWith, headerLength]
  omega

/-- No header is all zeros, since its version is not. -/
theorem wordSum_headerWith_pos (c : UInt16) : 0 < wordSum (p.headerWith c) := by
  have first := p.version_first
  have split : wordSum (p.headerWith c) = (UInt8.ofNat (64 + p.ihl)).toNat * 256 + p.tos.toNat +
      wordSum ((p.headerWith c).drop 2) := rfl
  omega

theorem header_withChecksum (c : UInt16) : (p.withChecksum c).header = p.headerWith c := rfl

theorem internetChecksum_header : internetChecksum p.checksummed.header = 0 := by
  have short := p.short_headerWith 0
  rw [headerWith_eq] at short
  rw [checksummed, header_withChecksum, headerChecksum, headerWith_eq, headerWith_eq]
  exact internetChecksum_carrying p.even_headerFront (by omega)

theorem isValid_iff : p.isValid ↔ internetChecksum p.header = 0 ∧ p.checksum ≠ 65535 := by
  have short := p.short_headerWith p.checksum
  have positive := p.wordSum_headerWith_pos 0
  rw [headerWith_eq] at short positive
  rw [isValid, decide_eq_true_iff, headerChecksum, header, headerWith_eq, headerWith_eq,
    eq_internetChecksum_iff p.even_headerFront (by omega)]
  refine and_congr_right' ⟨?_, fun other ones => absurd ones other⟩
  intro zero ones
  exact absurd (zero ones) (Nat.ne_of_gt positive)

end Ipv4Packet

namespace IcmpMessage

theorem encodeWith_eq (m : IcmpMessage) (c : UInt16) : m.encodeWith c = carrying [m.type, m.code] m.body c := by
  simp only [encodeWith, carrying, List.append_assoc]

theorem encode_withChecksum (m : IcmpMessage) (c : UInt16) : (m.withChecksum c).encode = m.encodeWith c := rfl

theorem internetChecksum_encode {m : IcmpMessage} (short : m.encode.length ≤ 131074) :
    internetChecksum m.checksummed.encode = 0 := by
  have length : (m.encodeWith 0).length = m.encode.length := by
    rw [encode, encodeWith_eq, encodeWith_eq, length_carrying, length_carrying]
  rw [← length, encodeWith_eq] at short
  rw [checksummed, encode_withChecksum, bodyChecksum, encodeWith_eq, encodeWith_eq]
  exact internetChecksum_carrying (by simp) short

end IcmpMessage

/-! ## Packets in their buffers -/

section
variable {α : Type} (f : α → α)

theorem modify_append_right (front rest : List α) (j : Nat) :
    (front ++ rest).modify (front.length + j) f = front ++ rest.modify j f := by
  induction front with
  | nil => simp
  | cons x front ih => simp [Nat.add_right_comm, ih]

theorem modify_append_left {front : List α} {i : Nat} (inside : i < front.length) (rest : List α) :
    (front ++ rest).modify i f = front.modify i f ++ rest := by
  induction front generalizing i with
  | nil => simp at inside
  | cons x front ih =>
    cases i with
    | zero => rfl
    | succ i => simp [ih (i := i) (by simpa using inside)]

end

/-- Any bytes that have room for a checksum in a place carry one there. -/
theorem exists_carrying {bytes : Bytes} {place : Nat} (long : place + 2 ≤ bytes.length) :
    ∃ front rest c, bytes = carrying front rest c ∧ front.length = place := by
  have split := List.take_append_drop place bytes
  have length : (bytes.drop place).length = bytes.length - place := List.length_drop
  generalize bytes.drop place = behind at split length
  obtain _ | ⟨hi, _ | ⟨lo, rest⟩⟩ := behind
  · simp at length
    omega
  · simp at length
    omega
  · refine ⟨bytes.take place, rest, join16 hi lo, ?_, by rw [List.length_take]; omega⟩
    rw [carrying, octets16, high8_join16, low8_join16]
    exact split.symm

namespace PacketBuffer

open Checked

/-- The packet with one bit in its buffer flipped. -/
def flip (b : PacketBuffer) (i k : Nat) : PacketBuffer := { b with data := b.data.modify i (flipBit k) }

/-- The checksum of any header is compared with that of its other bytes. -/
theorem isValid_carrying {front ten rest : Bytes} (near : front.length < 2 ^ 32) (place : ten.length = 10) (c : UInt16)
    (short : (carrying ten rest c).length ≤ 131074) (payload : Bytes) (link : Option Nat) :
    isValid ⟨front ++ (carrying ten rest c ++ payload), link, front.length,
      front.length + (carrying ten rest c).length⟩ = .ok (c = internetChecksum (carrying ten rest 0) : Bool) := by
  have field : slice (carrying ten rest c ++ payload) 10 12 = .ok (octets16 c) := by
    have cut : ((carrying ten rest c ++ payload).take (10 + 2)).drop 10 = octets16 c := by
      rw [carrying, List.append_assoc, ← place, List.take_length_add_append, List.drop_left]
      rfl
    rw [slice_eq (by omega) (by rw [List.length_append, length_carrying]; omega), cut]
  have first : overwrite 10 [0] (carrying ten rest c) = ten ++ ([0, low8 c] ++ rest) := by
    have inside := overwrite_append ten [0] (octets16 c ++ rest) 0
    rw [Nat.add_zero, place] at inside
    exact inside
  have second : overwrite 11 [0] (ten ++ ([0, low8 c] ++ rest)) = carrying ten rest 0 := by
    have inside := overwrite_append ten [0] ([0, low8 c] ++ rest) 1
    rw [place] at inside
    exact inside
  have long : 12 ≤ (carrying ten rest c).length := by
    rw [length_carrying]
    omega
  have header : slice (front ++ (carrying ten rest c ++ payload)) front.length
      (front.length + (carrying ten rest c).length) = .ok (carrying ten rest c) := by
    rw [slice_eq (by omega) (by simp), List.take_length_add_append, List.drop_left, List.take_left]
  have length : (ten ++ ([0, low8 c] ++ rest)).length = (carrying ten rest c).length := by simp [length_carrying]; omega
  have length' : (carrying ten rest 0).length = (carrying ten rest c).length := by rw [length_carrying, length_carrying]
  rw [isValid, checksumField, word16From, sliceFrom_append _ near (by omega) (by omega), field, ok_bind,
    word16_octets16, ok_bind, headerChecksum, PacketBuffer.header, header, ok_bind, setByte_eq (by omega), ok_bind,
    first, setByte_eq (by omega), ok_bind, second, checksum_eq (by omega)]
  rfl

/-- A header that adds up to ones does not carry its checksum any more when one of its bits is flipped. -/
theorem isValid_flip {front header : Bytes} (near : front.length < 2 ^ 32) (long : 12 ≤ header.length)
    (short : header.length ≤ 131074) (ones : internetChecksum header = 0) {j k : Nat} (inside : j < header.length)
    (bit : k < 8) (payload : Bytes) (link : Option Nat) :
    (flip ⟨front ++ (header ++ payload), link, front.length, front.length + header.length⟩
      (front.length + j) k).isValid = .ok false := by
  have changed := internetChecksum_flipBit short ones inside bit
  have length : (header.modify j (flipBit k)).length = header.length := List.length_modify ..
  rw [flip, modify_append_right, modify_append_left _ inside, ← length]
  rw [← length] at long short
  obtain ⟨ten, rest, c, flipped, place⟩ := exists_carrying (show 10 + 2 ≤ _ from long)
  rw [flipped] at changed short ⊢
  rw [isValid_carrying near place c short]
  refine congrArg Except.ok (decide_eq_false ?_)
  intro same
  exact changed ((eq_internetChecksum_iff (by rw [place]) short).1 same).1

end PacketBuffer

/-- What the checksum says of the message in a buffer: set anew it is valid, and the bytes add up to ones. -/
def MessageBuffer.Guarded (m : MessageBuffer) : Prop :=
  ∃ c bytes, m.setChecksum = .ok c ∧ c.isValid = .ok true ∧ c.bytes = .ok bytes ∧ internetChecksum bytes = 0

theorem MessageBuffer.guarded_laid {front : Bytes} (near : front.length < 2 ^ 32) {m : IcmpMessage}
    (short : m.encode.length ≤ 65535) : (m.laid front).Guarded := by
  have sum := IcmpMessage.internetChecksum_encode (m := m) (by omega)
  rw [m.length_encode] at short
  have body (c : UInt16) : (m.withChecksum c).body = m.body := rfl
  have held := Checked.held_of_near near
  refine ⟨m.checksummed.laid front, m.checksummed.encode, setChecksum_laid m held (by omega), ?_, bytes_laid _, sum⟩
  rw [isValid_laid _ held (by rw [IcmpMessage.checksummed, body]; omega), m.isValid_checksummed]

namespace Ipv4Packet

theorem header_of_decode {bytes : Bytes} {p : Ipv4Packet} (read : decode bytes = .ok p) :
    p.header = bytes.take p.headerLength := by
  have whole := readFrom_of_decode read
  have fits := whole.fits
  rw [← p.take_encode, whole.encode, List.take_take, Nat.min_eq_left (by omega)]

theorem headerLength_of_decode {bytes : Bytes} {p : Ipv4Packet} (read : decode bytes = .ok p) :
    p.headerLength = (bytes.getD 0 0).toNat % 16 * 4 := by
  have header := header_of_decode read
  have words := p.headerLength_eq
  have first : p.header[0]? = some (UInt8.ofNat (64 + p.ihl)) := rfl
  have positive : 0 < p.headerLength := by
    rw [headerLength]
    omega
  rw [header, List.getElem?_take_of_lt positive] at first
  rw [List.getD_eq_getElem?_getD, first, Option.getD_some, p.ihl_first, words, Nat.mul_comm]

/-- A packet read again with a bit of its header flipped behind the first byte has that header. -/
theorem header_of_flip {bytes : Bytes} {p q : Ipv4Packet} (read : decode bytes = .ok p) {i k : Nat} (behind : 0 < i)
    (again : decode (bytes.modify i (flipBit k)) = .ok q) : q.header = p.header.modify i (flipBit k) := by
  have first : (bytes.modify i (flipBit k)).getD 0 0 = bytes.getD 0 0 := by
    rw [List.getD_eq_getElem?_getD, List.getElem?_modify_ne _ _ (Nat.ne_of_gt behind), ← List.getD_eq_getElem?_getD]
  have length : q.headerLength = p.headerLength := by
    rw [headerLength_of_decode again, first, ← headerLength_of_decode read]
  rw [header_of_decode again, length, List.take_modify, ← header_of_decode read]

end Ipv4Packet

/-- What the checksum says of the packet in a buffer. -/
structure PacketBuffer.Guarded (b : PacketBuffer) : Prop where
  /-- Set anew it is valid, the header adds up to ones, and no other byte has changed. -/
  set : ∃ c header, b.setChecksum = .ok c ∧ c.isValid = .ok true ∧ c.header = .ok header ∧
    internetChecksum header = 0 ∧ c = { b with data := c.data } ∧
    ∀ i, i ≠ b.start + 10 → i ≠ b.start + 11 → c.data[i]? = b.data[i]?
  /-- The header is valid when it adds up to ones and the checksum itself is not all ones. -/
  valid : ∃ header field valid, b.header = .ok header ∧ b.checksumField = .ok field ∧ b.isValid = .ok valid ∧
    (valid ↔ internetChecksum header = 0 ∧ field ≠ 65535)
  /-- A valid header is valid no more with any of its bits flipped. -/
  flip : b.isValid = .ok true → ∀ i k, b.start ≤ i → i < b.body → k < 8 → (b.flip i k).isValid = .ok false

/-- What the checksum says of the packet read from a frame. -/
structure Ipv4Packet.Guarded (p : Ipv4Packet) (f : EthernetFrame) : Prop where
  set : p.checksummed.isValid ∧ internetChecksum p.checksummed.header = 0
  valid : p.isValid ↔ internetChecksum p.header = 0 ∧ p.checksum ≠ 65535
  /-- If a packet can still be read with a bit of a valid header flipped behind the first byte, it is not valid. -/
  flip : p.isValid → ∀ i k, 0 < i → i < p.headerLength → k < 8 →
    ∀ q, Ipv4Packet.ofFrame { f with payload := f.payload.modify i (flipBit k) } = .ok q → q.isValid = false

namespace PacketBuffer

section
variable (front : Bytes) (link : Option Nat) (p : Ipv4Packet)

theorem laid_withChecksum (c : UInt16) : (p.withChecksum c).laid front link =
    { p.laid front link with data := overwrite (front.length + 10) (octets16 c) (front ++ p.encode) } := by
  rw [overwrite_append, p.overwrite_checksum]
  rfl

theorem getElem?_laid_withChecksum (c : UInt16) {i : Nat} (tenth : i ≠ front.length + 10)
    (eleventh : i ≠ front.length + 11) :
    ((p.withChecksum c).laid front link).data[i]? = (p.laid front link).data[i]? := by
  have room := room p (Nat.le_refl _)
  rw [laid_withChecksum]
  refine getElem?_overwrite_ne ?_ ?_
  · rw [List.length_append, length_octets16]
    omega
  · rw [length_octets16]
    omega

end

theorem guarded_laid {front : Bytes} (near : front.length < 2 ^ 32) (link : Option Nat) (p : Ipv4Packet) :
    (p.laid front link).Guarded where
  set := by
    refine ⟨p.checksummed.laid front link, p.checksummed.header, setChecksum_laid near link p, ?_, header_laid link _,
      p.internetChecksum_header, ?_, ?_⟩
    · rw [isValid_laid near, Ipv4Packet.isValid_checksummed]
    · rw [Ipv4Packet.checksummed, laid_withChecksum]
    · intro i tenth eleventh
      exact getElem?_laid_withChecksum front link p _ tenth eleventh
  valid := ⟨p.header, p.checksum, p.isValid, header_laid link p, checksumField_laid near link p,
    isValid_laid near link p, p.isValid_iff⟩
  flip := by
    intro valid i k behind inside bit
    rw [isValid_laid near, Except.ok.injEq] at valid
    obtain ⟨j, rfl⟩ := Nat.exists_eq_add_of_le (show front.length ≤ i from behind)
    have within : front.length + j < front.length + p.headerLength := inside
    have long : 12 ≤ p.header.length := by
      rw [p.length_header, Ipv4Packet.headerLength]
      omega
    have flipped := isValid_flip near long (Nat.le_trans (p.short_headerWith p.checksum) (by omega))
      (p.isValid_iff.1 valid).1 (j := j) (by rw [p.length_header]; omega) bit p.payload link
    rw [p.length_header] at flipped
    exact flipped

end PacketBuffer

theorem Ipv4Packet.guarded_of_ofFrame {f : EthernetFrame} {p : Ipv4Packet} (packet : ofFrame f = .ok p) :
    p.Guarded f where
  set := ⟨isValid_checksummed p, p.internetChecksum_header⟩
  valid := p.isValid_iff
  flip := by
    intro valid i k behind inside bit q again
    rw [ofFrame] at packet again
    split at packet
    · rename_i type
      rw [if_pos type] at again
      have flipped := header_of_flip packet behind again
      have within : i < p.header.length := by rwa [p.length_header]
      have changed := internetChecksum_flipBit (Nat.le_trans (p.short_headerWith p.checksum) (by omega))
        (p.isValid_iff.1 valid).1 within bit
      rw [← Bool.not_eq_true, q.isValid_iff, flipped]
      exact fun ones => changed ones.1
    · cases packet

/-- A packet that was read is valid when its header adds up to ones and the checksum in it is not all ones. With its
checksum set it is, no other byte has changed, and with any bit of its header flipped it is no more. A message adds up
to ones with its checksum set. -/
theorem checksums_guard :
    (∀ data b, PacketBuffer.ofFrame data = .ok (.ok b) → b.Guarded ∧
      ∃ f p, data = EthernetFrame.encode f ∧ Ipv4Packet.ofFrame f = .ok p ∧ b = p.laid f.header (some 0) ∧
        b.isValid = .ok p.isValid ∧ p.Guarded f) ∧
      ∀ m : IcmpMessage, m.encode.length ≤ 65535 →
        m.checksummed.isValid ∧ internetChecksum m.checksummed.encode = 0 ∧
          ∀ front : Bytes, front.length < 2 ^ 32 → (m.laid front).Guarded := by
  constructor
  · intro data b read
    obtain ⟨f, p, rfl, packet, rfl⟩ := PacketBuffer.exists_of_read read
    have near := PacketBuffer.near_header f
    exact ⟨PacketBuffer.guarded_laid near (some 0) p, f, p, rfl, packet, rfl, PacketBuffer.isValid_laid near (some 0) p,
      Ipv4Packet.guarded_of_ofFrame packet⟩
  · intro m short
    refine ⟨m.isValid_checksummed, IcmpMessage.internetChecksum_encode (by omega), ?_⟩
    intro front near
    exact MessageBuffer.guarded_laid near short

/-- A bit of the first option is flipped. -/
theorem datagramRead_guarded :
    PacketBuffer.datagramRead.isValid = .ok true ∧ (PacketBuffer.datagramRead.flip 34 0).isValid = .ok false ∧
      ∃ c, ((IcmpMessage.blank 8 0).laid []).setChecksum = .ok c ∧ c.isValid = .ok true := by
  have valid : PacketBuffer.datagramRead.isValid = .ok true := by decide +kernel
  have header : PacketBuffer.datagramRead.start ≤ 34 ∧ 34 < PacketBuffer.datagramRead.body := by decide +kernel
  obtain ⟨c, -, set, isValid, -⟩ := (checksums_guard.2 (.blank 8 0) (by decide)).2.2 [] (by decide)
  obtain ⟨guarded, -⟩ := checksums_guard.1 _ _ PacketBuffer.datagramRead_obtained
  exact ⟨valid, guarded.flip valid 34 0 header.1 header.2 (by decide), c, set, isValid⟩

end SoftRouter
