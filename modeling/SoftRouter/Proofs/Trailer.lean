import SoftRouter.Proofs.Buffer.Pipeline
import SoftRouter.Proofs.Forwarding
import SoftRouter.Router.Run

/-!
# Trailers

Frames too short for their link are filled up behind what they carry, and the router may not be able to tell that from
the frame. Both readers stop where the length fields of what they read say so (`ArpFrame.ofFrame_padded`,
`Ipv4Packet.ofFrame_padded`), and of a frame nothing else is looked at but its header. So what stands behind the ARP
message or the packet is never seen, neither by the router nor by the router over buffers, which cuts it off
(`Router.handle_padded`, `Buffered.handle_padded`). Two runs whose frames differ in their trailers alone are the same
run (`Router.run_alike`).
-/

namespace SoftRouter

namespace EthernetFrame

/-- The frame with more bytes at its end. -/
def padded (f : EthernetFrame) (trailer : Bytes) : EthernetFrame := { f with payload := f.payload ++ trailer }

/-- The frame reads as ARP or as IPv4. -/
inductive Reads (f : EthernetFrame) : Prop where
  | arp {message : ArpFrame} (read : ArpFrame.ofFrame f = .ok message)
  | ipv4 {packet : Ipv4Packet} (read : Ipv4Packet.ofFrame f = .ok packet)

theorem encode_padded (f : EthernetFrame) (trailer : Bytes) : (f.padded trailer).encode = f.encode ++ trailer :=
  (List.append_assoc ..).symm

end EthernetFrame

section
variable {bytes : Bytes} {f : EthernetFrame} (trailer : Bytes)

theorem Ipv4Packet.decode_append {p : Ipv4Packet} (read : decode bytes = .ok p) :
    decode (bytes ++ trailer) = .ok p := by
  have whole := readFrom_of_decode read
  have fits : p.headerLength + p.payload.length < 65536 := whole.fits ▸ p.totalLength.toNat_lt
  have split : bytes = p.encode ++ bytes.drop p.totalLength.toNat := by
    rw [whole.encode, List.take_append_drop]
  rw [split, List.append_assoc]
  exact decode_encode_append fits _

theorem ArpFrame.decode_append {dest src : Mac} {message : ArpFrame} (read : decode dest src bytes = .ok message) :
    decode dest src (bytes ++ trailer) = .ok message := by
  unfold decode at read
  split at read
  case h_2 => cases read
  rename_i h1 h0 p1 p0 h p o1 o0 slots
  dsimp only at read
  split at read
  · cases read
  rename_i enough
  have more : ¬ (slots ++ trailer).length < 2 * h.toNat + 2 * p.toNat := by
    rw [List.length_append]
    omega
  -- Each slot lies within the bytes there were before.
  have within (first last : Nat) (le : first + last ≤ 2 * h.toNat + 2 * p.toNat) :
      ((slots ++ trailer).drop first).take last = (slots.drop first).take last := by
    rw [List.drop_append_of_le_length (by omega), List.take_append_of_le_length (by rw [List.length_drop]; omega)]
  cases read
  simp only [List.cons_append, decode, dif_neg more]
  congr 2
  · exact within 0 h.toNat (by omega)
  · exact within h.toNat p.toNat (by omega)
  · exact within (h.toNat + p.toNat) h.toNat (by omega)
  · exact within (h.toNat + p.toNat + h.toNat) p.toNat (by omega)

theorem Ipv4Packet.ofFrame_padded {p : Ipv4Packet} (read : ofFrame f = .ok p) : ofFrame (f.padded trailer) = .ok p := by
  unfold ofFrame at *
  split at read
  · exact (if_pos ‹_›).trans (decode_append trailer read)
  · cases read

theorem ArpFrame.ofFrame_padded {message : ArpFrame} (read : ofFrame f = .ok message) :
    ofFrame (f.padded trailer) = .ok message := by
  unfold ofFrame at *
  split at read
  · exact (if_pos ‹_›).trans (decode_append trailer read)
  · cases read

theorem EthernetFrame.Reads.readings (reads : f.Reads) :
    ArpFrame.ofFrame (f.padded trailer) = ArpFrame.ofFrame f ∧
      Ipv4Packet.ofFrame (f.padded trailer) = Ipv4Packet.ofFrame f := by
  cases reads with
  | arp read =>
    have other : f.etherType ≠ etherTypeIpv4 := by
      intro ipv4
      rw [ArpFrame.ofFrame, ipv4, if_neg (by decide)] at read
      cases read
    refine ⟨(ArpFrame.ofFrame_padded trailer read).trans read.symm, ?_⟩
    rw [Ipv4Packet.ofFrame, Ipv4Packet.ofFrame, if_neg other]
    exact if_neg other
  | ipv4 read =>
    have other : f.etherType ≠ etherTypeArp := by
      intro arp
      cases (Ipv4Packet.ofFrame_of_arp arp).symm.trans read
    refine ⟨?_, (Ipv4Packet.ofFrame_padded trailer read).trans read.symm⟩
    rw [ArpFrame.ofFrame, ArpFrame.ofFrame, if_neg other]
    exact if_neg other

end

section
variable {f : EthernetFrame} (reads : f.Reads) (trailer : Bytes) (r : Router) (now : Nat) (interface : String)
include reads

theorem Router.handle_padded : r.handle now interface (f.padded trailer) = r.handle now interface f := by
  obtain ⟨arp, ipv4⟩ := reads.readings trailer
  rw [handle, handle, arp, ipv4]
  rfl

theorem Buffered.handle_padded : handle r now interface (f.encode ++ trailer) = handle r now interface f.encode := by
  obtain ⟨arp, ipv4⟩ := reads.readings trailer
  have packet : PacketBuffer.ofFrame (f.padded trailer).encode = PacketBuffer.ofFrame f.encode := by
    rw [PacketBuffer.ofFrame_eq, PacketBuffer.ofFrame_eq, ipv4]
    rfl
  have message : ArpBuffer.read (f.padded trailer).encode = ArpBuffer.read f.encode := by
    rw [ArpBuffer.read_encode, ArpBuffer.read_encode, arp]
  rw [← f.encode_padded, handle, handle, FrameBuffer.src_encode, FrameBuffer.src_encode, FrameBuffer.etherType_encode,
    FrameBuffer.etherType_encode, packet, message]
  rfl

end

/-- The same happens, but for the trailer of a frame that reads without. -/
inductive Stimulus.Alike : Stimulus → Stimulus → Prop where
  | same (s : Stimulus) : Alike s s
  | padded {interface : String} {f : EthernetFrame} (reads : f.Reads) (trailer : Bytes) :
      Alike (.frame ⟨interface, f.padded trailer⟩) (.frame ⟨interface, f⟩)

namespace Router

theorem respond_alike {s t : Stimulus} (alike : s.Alike t) (r : Router) (now : Nat) :
    r.respond now s = r.respond now t := by
  cases alike with
  | same => rfl
  | padded reads trailer => exact handle_padded reads trailer r now _

/-- Runs are the same if the frames received in them are the same up to trailers. -/
theorem run_alike {xs ys : List (Nat × Stimulus)}
    (alike : List.Forall₂ (fun x y => x.1 = y.1 ∧ x.2.Alike y.2) xs ys) (r : Router) : r.run xs = r.run ys := by
  induction alike generalizing r with
  | nil => rfl
  | @cons x y xs ys first _ ih =>
    obtain ⟨now, same⟩ := first
    rw [run_cons, run_cons, now, respond_alike same, ih]

/-- Of a frame that reads as ARP or as IPv4 a trailer is never seen: whatever the router has come to be, with or
without the trailer it does the same and becomes the same, what waits for addresses included; and so does the router
over buffers, which hands the same bytes to the drivers. -/
theorem trailer_unseen {f : EthernetFrame} (reads : f.Reads) (trailer : Bytes) (r : Router) (now : Nat)
    (interface : String) :
    r.handle now interface (f.padded trailer) = r.handle now interface f ∧
      EthernetFrame.decode (f.encode ++ trailer) = .ok (f.padded trailer) ∧
      Buffered.handle r now interface (f.encode ++ trailer) = Buffered.handle r now interface f.encode ∧
      ∀ xs ys, r.run (xs ++ (now, .frame ⟨interface, f.padded trailer⟩) :: ys) =
        r.run (xs ++ (now, .frame ⟨interface, f⟩) :: ys) := by
  refine ⟨handle_padded reads trailer r now interface, ?_, Buffered.handle_padded reads trailer r now interface, ?_⟩
  · rw [← f.encode_padded, EthernetFrame.decode_encode]
  · intro xs ys
    refine run_alike ?_ r
    refine List.rel_append (List.forall₂_same.2 fun x _ => ⟨rfl, .same x.2⟩) ?_
    exact .cons ⟨rfl, .padded reads trailer⟩ (List.forall₂_same.2 fun y _ => ⟨rfl, .same y.2⟩)

/-- The datagram to the second port, without the trailer that `toSecond` has. -/
def toSecondBare : EthernetFrame := ⟨station 1, station 7, etherTypeIpv4, (datagram (.ofOctets 8 8 8 8)).encode⟩

/-- The datagram for which an address is asked, and the answer filled up to 60 bytes. -/
theorem trailer_unseen_toSecond :
    toSecondBare.Reads ∧ toSecondBare.padded [170, 170] = toSecond.frame ∧
      gatewayRouter.handle 0 "eth0" toSecond.frame = gatewayRouter.handle 0 "eth0" toSecondBare ∧
      gatewayReply.frame.Reads ∧
      (gatewayRouter.handle 0 "eth0" toSecondBare).1.handle 1 "eth1" (gatewayReply.frame.padded (List.replicate 18 0)) =
        (gatewayRouter.handle 0 "eth0" toSecondBare).1.handle 1 "eth1" gatewayReply.frame := by
  have read : Ipv4Packet.ofFrame toSecondBare = .ok (datagram (.ofOctets 8 8 8 8)) := by decide +kernel
  have answer : ArpFrame.ofFrame gatewayReply.frame = .ok (.ethernetIpv4 .reply (station 2) (station 9) (station 9)
      (station 2) (.ofOctets 10 0 1 9) (.ofOctets 10 0 1 1)) := by decide +kernel
  have packet : toSecondBare.Reads := .ipv4 read
  have reply : gatewayReply.frame.Reads := .arp answer
  exact ⟨packet, rfl, (trailer_unseen packet [170, 170] gatewayRouter 0 "eth0").1, reply,
    (trailer_unseen reply (List.replicate 18 0) _ 1 "eth1").1⟩

end Router

end SoftRouter
