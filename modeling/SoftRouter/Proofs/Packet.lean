import SoftRouter.Proofs.Results
import SoftRouter.Router.Handle

/-!
# IPv4 packets and their bytes

Reading and writing packets are inverse on the bytes that count: a packet read writes the bytes up to its total
length (`readFrom_of_decode`), and a packet whose length fits its field reads back as itself (`decode_encode`). A
packet with another lifetime and another checksum differs in their bytes alone (`encode_with`).
-/

namespace SoftRouter

/-- The bytes with a field written over them from a position on. -/
def overwrite (position : Nat) (field bytes : Bytes) : Bytes :=
  bytes.take position ++ field ++ bytes.drop (position + field.length)

theorem overwrite_append (front field bytes : Bytes) (position : Nat) :
    overwrite (front.length + position) field (front ++ bytes) = front ++ overwrite position field bytes := by
  rw [overwrite, overwrite, Nat.add_assoc, List.take_length_add_append, List.drop_length_add_append]
  simp only [List.append_assoc]

theorem getElem?_overwrite_ne {position i : Nat} {field bytes : Bytes} (inside : position + field.length ≤ bytes.length)
    (apart : i < position ∨ position + field.length ≤ i) : (overwrite position field bytes)[i]? = bytes[i]? := by
  have front : (bytes.take position ++ field).length = position + field.length := by
    rw [List.length_append, List.length_take]
    omega
  rw [overwrite]
  rcases apart with before | behind
  · rw [List.append_assoc, List.getElem?_append_left (by rw [List.length_take]; omega), List.getElem?_take_of_lt before]
  · rw [List.getElem?_append_right (by omega), front, List.getElem?_drop]
    congr 1
    omega

namespace Ipv4Addr

@[simp] theorem octets_ofOctets (a b c d : UInt8) : (ofOctets a b c d).octets = [a, b, c, d] := by
  simp [octets, ofOctets, octets32, octets16]

@[simp] theorem ofOctets_octets (ip : Ipv4Addr) :
    ofOctets (high8 (high16 ip.bits)) (low8 (high16 ip.bits)) (high8 (low16 ip.bits)) (low8 (low16 ip.bits)) = ip := by
  simp [ofOctets]

end Ipv4Addr

/-- The length of the datagram by the IPv4 header in a frame. -/
def statedLength (bytes : Bytes) : Nat := (join16 (bytes.getD 16 0) (bytes.getD 17 0)).toNat

namespace Ipv4Packet

/-- The packet is what the bytes hold: it writes them up to the total length, which stands in the third and the
fourth byte as the lifetime stands in the ninth. -/
structure ReadFrom (p : Ipv4Packet) (bytes : Bytes) : Prop where
  encode : p.encode = bytes.take p.totalLength.toNat
  total : p.totalLength = join16 (bytes.getD 2 0) (bytes.getD 3 0)
  ttl : p.ttl = bytes.getD 8 0
  fits : p.headerLength + p.payload.length = p.totalLength.toNat

theorem readFrom_of_decode {bytes : Bytes} {p : Ipv4Packet} (read : decode bytes = .ok p) : p.ReadFrom bytes := by
  unfold decode at read
  split at read
  case h_2 => cases read
  rename_i vi tos l1 l0 i1 i0 f1 f0 ttl protocolNumber c1 c0 s3 s2 s1 s0 d3 d2 d1 d0 rest
  dsimp only at read
  split at read
  · cases read
  split at read
  · cases read
  split at read
  · cases read
  rename_i version long fits
  obtain ⟨short, enough⟩ := not_or.1 fits
  have bound := (join16 l1 l0).toNat_lt
  have split : p.options ++ p.payload = rest.take ((join16 l1 l0).toNat - 20) := by
    cases read
    exact List.take_append_drop ..
  have options : p.options.length = 4 * (vi.toNat % 16) - 20 := by
    cases read
    simp only [List.length_take]
    omega
  have whole : p.headerLength + p.payload.length = (join16 l1 l0).toNat := by
    have length := congrArg List.length split
    rw [List.length_append, List.length_take] at length
    rw [headerLength]
    omega
  have total : p.totalLength = join16 l1 l0 := by rw [totalLength, whole, UInt16.ofNat_toNat]
  have first : UInt8.ofNat (64 + p.ihl) = vi := by
    apply UInt8.toNat_inj.1
    rw [UInt8.toNat_ofNat', ihl, options]
    have := vi.toNat_lt
    omega
  -- The first 20 bytes are the fixed header, and what follows is cut at the total length on reading.
  refine ⟨?_, total, ?_, total ▸ whole⟩
  · have cut : (join16 l1 l0).toNat = (join16 l1 l0).toNat - 20 + 20 := by omega
    rw [encode, header, headerWith, first, total, List.append_assoc _ p.options, split, cut]
    cases read
    simp [octets16]
  · cases read
    rfl

theorem readFrom_of_ofFrame {f : EthernetFrame} {p : Ipv4Packet} (read : ofFrame f = .ok p) :
    f.etherType = etherTypeIpv4 ∧ p.ReadFrom f.payload := by
  unfold ofFrame at read
  split at read
  · exact ⟨‹_›, readFrom_of_decode read⟩
  · cases read

theorem ihl_lt (p : Ipv4Packet) : p.ihl < 16 := by
  have := p.options_fit
  rw [ihl]
  omega

/-- The first byte of a packet is the version and the length of the header in words. -/
theorem version_first (p : Ipv4Packet) : (UInt8.ofNat (64 + p.ihl)).toNat / 16 = 4 := by
  have := p.ihl_lt
  rw [UInt8.toNat_ofNat']
  omega

theorem ihl_first (p : Ipv4Packet) : (UInt8.ofNat (64 + p.ihl)).toNat % 16 = p.ihl := by
  have := p.ihl_lt
  rw [UInt8.toNat_ofNat']
  omega

/-- A packet as short as its length field can say reads back as itself, whatever follows it. -/
theorem decode_encode_append {p : Ipv4Packet} (fits : p.headerLength + p.payload.length < 65536) (trailer : Bytes) :
    decode (p.encode ++ trailer) = .ok p := by
  have words := p.headerLength_eq
  have total : p.totalLength.toNat = p.headerLength + p.payload.length := by
    rw [totalLength, UInt16.toNat_ofNat']
    omega
  have options : 4 * p.ihl - 20 = p.options.length := by
    rw [headerLength] at words
    omega
  have body : p.headerLength + p.payload.length - 20 = p.options.length + p.payload.length := by
    rw [headerLength]
    omega
  have long : ¬ p.ihl < 5 := by
    rw [Ipv4Packet.ihl]
    omega
  have enough : ¬ (p.headerLength + p.payload.length < 4 * p.ihl ∨
      20 + (p.options ++ (p.payload ++ trailer)).length < p.headerLength + p.payload.length) := by
    simp only [List.length_append, headerLength] at words ⊢
    omega
  simp only [encode, header, headerWith, octets16, Ipv4Addr.octets, octets32, List.cons_append, List.nil_append, decode,
    version_first, ihl_first, join16_high8_low8, total, long, List.append_assoc]
  rw [if_neg (by simp), dif_neg not_false, dif_neg enough]
  simp only [options, body, Ipv4Addr.ofOctets_octets, List.take_length_add_append, List.take_left, List.drop_left]

theorem decode_encode {p : Ipv4Packet} (fits : p.headerLength + p.payload.length < 65536) :
    decode p.encode = .ok p := by
  simpa using decode_encode_append fits []

/-- The lifetime is the ninth byte and the checksum the eleventh and the twelfth. -/
theorem encode_with (p : Ipv4Packet) (ttl : UInt8) (checksum : UInt16) :
    ({ p with ttl, checksum } : Ipv4Packet).encode =
      overwrite 8 [ttl] (overwrite 10 (octets16 checksum) p.encode) := by
  simp [encode, header, headerWith, overwrite, octets16, totalLength, headerLength, ihl]

@[simp] theorem withChecksum_checksum (p : Ipv4Packet) : p.withChecksum p.checksum = p := rfl

theorem isValid_aged (p : Ipv4Packet) : p.aged.isValid := isValid_checksummed _

theorem toNat_ttl_aged {p : Ipv4Packet} (alive : 1 < p.ttl) : p.aged.ttl.toNat = p.ttl.toNat - 1 := by
  have hops : 1 < p.ttl.toNat := UInt8.lt_iff_toNat_lt.1 alive
  exact UInt8.toNat_sub_of_le _ _ (UInt8.le_iff_toNat_le.2 (Nat.le_of_lt hops))

/-- Of all checksums in a header one makes it valid. -/
theorem isValid_withChecksum {p : Ipv4Packet} (valid : p.isValid) (checksum : UInt16) :
    (p.withChecksum checksum).isValid ↔ checksum = p.checksum := by
  rw [isValid, decide_eq_true_iff, headerChecksum_withChecksum, ← of_decide_eq_true valid]
  rfl

end Ipv4Packet

theorem EthernetFrame.ofFrame_of_payload {f : EthernetFrame} {p : Ipv4Packet} (type : f.etherType = etherTypeIpv4)
    (payload : f.payload = p.encode) (fits : p.headerLength + p.payload.length < 65536) :
    Ipv4Packet.ofFrame f = .ok p := by
  rw [Ipv4Packet.ofFrame, if_pos type, payload, Ipv4Packet.decode_encode fits]

end SoftRouter
