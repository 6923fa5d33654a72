import SoftRouter.Proofs.Packet
import SoftRouter.Proofs.Steps

/-!
# Notices on the wire

A notice about a packet that was read reads back as the ICMP message it is (`reads_notice`), with the lifetime of all
the router originates. A report is an error message, and nothing is ever reported about one (`silent_report`).
-/

namespace SoftRouter

/-- What the length field of a packet has to say. -/
def Ipv4Packet.Fits (p : Ipv4Packet) : Prop := p.headerLength + p.payload.length < 65536

namespace Ipv4Packet

theorem fits_of_decode {bytes : Bytes} {p : Ipv4Packet} (read : decode bytes = .ok p) : p.Fits := by
  have total := p.totalLength.toNat_lt
  have whole := (readFrom_of_decode read).fits
  rw [Fits]
  omega

theorem fits_of_ofFrame {f : EthernetFrame} {p : Ipv4Packet} (read : ofFrame f = .ok p) : p.Fits := by
  unfold ofFrame at read
  split at read
  · exact fits_of_decode read
  · cases read

end Ipv4Packet

theorem IcmpMessage.spec_of_ofPacket {p : Ipv4Packet} {m : IcmpMessage} (read : ofPacket p = .ok m) :
    p.protocol = .icmp ∧ m.encode = p.payload ∧ 4 ≤ m.body.length := by
  unfold ofPacket at read
  split at read
  · cases read
  rename_i long
  split at read
  · cases read
  rename_i icmp
  have encoded := encode_of_decode read
  have length := congrArg List.length encoded
  rw [length_encode] at length
  exact ⟨Decidable.not_not.1 icmp, encoded, by rw [headerLength] at long; omega⟩

theorem IcmpMessage.ofPacket_of_payload {p : Ipv4Packet} {m : IcmpMessage} (icmp : p.protocol = .icmp)
    (payload : p.payload = m.encode) (word : 4 ≤ m.body.length) : ofPacket p = .ok m := by
  have long : ¬ p.payload.length < headerLength := by
    rw [payload, length_encode, headerLength]
    omega
  rw [ofPacket, if_neg long, if_neg (Decidable.not_not.2 icmp), payload, decode_encode word]

namespace Notice

variable {n : Notice} {about packet : Ipv4Packet} {src : Ipv4Addr} {body : Bytes}

/-- What a notice says is a word at least, and leaves its packet no longer than a packet can be. -/
theorem length_body (due : n.body? about = some body) (fits : about.Fits) :
    4 ≤ body.length ∧ 24 + body.length < 65536 := by
  rw [Ipv4Packet.Fits] at fits
  unfold body? at due
  split at due
  · split at due
    · cases due
      have options := about.options_fit
      have header := about.length_header
      rw [Ipv4Packet.headerLength] at header
      simp only [quotation, quotedLength, List.length_append, List.length_take, List.length_cons, List.length_nil]
      omega
    · cases due
  · split at due
    · rename_i m read
      split at due
      · cases due
        obtain ⟨-, payload, word⟩ := IcmpMessage.spec_of_ofPacket read
        have length := congrArg List.length payload
        rw [m.length_encode] at length
        rw [Ipv4Packet.headerLength] at fits
        omega
      · cases due
    · cases due

/-- The packet of a notice carries its message and lives as long as all that the router originates. -/
structure Carried (n : Notice) (packet : Ipv4Packet) : Prop where
  fits : packet.Fits
  icmp : packet.protocol = .icmp
  ttl : packet.ttl = noticeTtl
  message : ∃ m, IcmpMessage.ofPacket packet = .ok m ∧ m.type = n.type

theorem carried_packet (due : n.packet? about src = some packet) (fits : about.Fits) : n.Carried packet := by
  obtain ⟨body, said, rfl⟩ := Option.map_eq_some_iff.1 due
  obtain ⟨word, short⟩ := length_body said fits
  have length : (n.message body).encode.length = 4 + body.length := IcmpMessage.length_encode _
  refine ⟨?_, rfl, rfl, n.message body, ?_, rfl⟩
  · show 20 + (n.message body).encode.length < 65536
    omega
  · exact IcmpMessage.ofPacket_of_payload rfl rfl word

/-- Nothing is reported about a report. -/
theorem silent_report (report : n.isReport) (carried : n.Carried packet) : packet.isReportable = false := by
  obtain ⟨m, read, type⟩ := carried.message
  have error : m.isError := by
    rw [IcmpMessage.isError, type]
    cases n with
    | echoReply => cases report
    | _ => decide
  simp [Ipv4Packet.isReportable, carried.icmp, Ipv4Packet.isHarmlessIcmp, read, error]

end Notice

namespace Router

/-- The delivery of a notice about a packet that was read reads back as the notice. -/
theorem reads_notice {r : Router} {n : Notice} {about : Ipv4Packet} {d : Delivery}
    (due : r.noticeDelivery? n about = some d) (fits : about.Fits) :
    ∃ packet, Ipv4Packet.ofFrame d.frame = .ok packet ∧ n.Carried packet := by
  obtain ⟨route, i, packet, -, said, rfl⟩ := notice_spec due
  have carried := Notice.carried_packet said fits
  exact ⟨packet, EthernetFrame.ofFrame_of_payload rfl rfl carried.fits, carried⟩

end Router

end SoftRouter
