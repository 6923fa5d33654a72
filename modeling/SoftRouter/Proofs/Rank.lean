import Mathlib.Data.Prod.Lex
import SoftRouter.Proofs.Corruption
import SoftRouter.Proofs.Notices
import SoftRouter.Proofs.Truncation

/-!
# The rank of a datagram

A datagram that asks for an answer ranks above all others, a report below all others, and among those of one grade
more lifetime ranks higher. Whatever a router sends on account of a datagram descends from it: it is the datagram with
one hop less to live, or of a lower grade with a short life (`Descends`).
-/

namespace SoftRouter

namespace Ipv4Packet

def isEchoRequest (p : Ipv4Packet) : Bool :=
  match IcmpMessage.ofPacket p with
  | .ok m => m.type = IcmpMessage.typeEchoRequest
  | .error _ => false

def isRipRequest (p : Ipv4Packet) : Bool :=
  match UdpSegment.ofPacket p with
  | .ok u => u.destPort = ripPort && (RipProcess.message? u).any fun m => m.command = .request
  | .error _ => false

def isIcmpError (p : Ipv4Packet) : Bool :=
  match IcmpMessage.ofPacket p with
  | .ok m => m.isError
  | .error _ => false

/-- Questions to a router are of the second grade, error messages of none, all else is of the first. -/
def grade (p : Ipv4Packet) : Nat := if p.isEchoRequest ∨ p.isRipRequest then 2 else if p.isIcmpError then 0 else 1

theorem grade_le (p : Ipv4Packet) : p.grade ≤ 2 := by
  unfold grade
  split
  · exact Nat.le_refl 2
  · split <;> omega

theorem isRipRequest_of_protocol {p : Ipv4Packet} (other : p.protocol ≠ .udp) : p.isRipRequest = false := by
  unfold isRipRequest UdpSegment.ofPacket
  split
  · rename_i read
    rw [if_pos other] at read
    split at read <;> cases read
  · rfl

theorem icmp_of_message {p : Ipv4Packet} {m : IcmpMessage} (read : IcmpMessage.ofPacket p = .ok m) :
    p.isRipRequest = false := by
  refine isRipRequest_of_protocol ?_
  rw [(IcmpMessage.spec_of_ofPacket read).1]
  decide

/-- What may be reported about is of some grade. -/
theorem grade_of_isReportable {p : Ipv4Packet} (reportable : p.isReportable) : 0 < p.grade := by
  have harmless : p.isIcmpError = false := by
    unfold isIcmpError
    cases read : IcmpMessage.ofPacket p with
    | error _ => rfl
    | ok m =>
      have icmp := (IcmpMessage.spec_of_ofPacket read).1
      simp only [isReportable, isHarmlessIcmp, read, icmp, Bool.and_eq_true] at reportable
      simpa using reportable.1.2
  unfold grade
  split
  · decide
  · simp [harmless]

theorem grade_of_isEchoRequest {p : Ipv4Packet} (asks : p.isEchoRequest) : p.grade = 2 := if_pos (.inl asks)

theorem grade_of_isRipRequest {p : Ipv4Packet} (asks : p.isRipRequest) : p.grade = 2 := if_pos (.inr asks)

theorem grade_of_not_question {p : Ipv4Packet} (echo : p.isEchoRequest = false) (rip : p.isRipRequest = false) :
    p.grade ≤ 1 := by
  unfold grade
  rw [if_neg (by simp [echo, rip])]
  split <;> omega

end Ipv4Packet

namespace Notice

variable {n : Notice} {packet : Ipv4Packet}

theorem grade_of_carried (carried : n.Carried packet) : packet.grade = if n.isReport then 0 else 1 := by
  obtain ⟨m, read, type⟩ := carried.message
  have rip := Ipv4Packet.icmp_of_message read
  unfold Ipv4Packet.grade Ipv4Packet.isEchoRequest Ipv4Packet.isIcmpError IcmpMessage.isError
  simp only [read, type, rip]
  cases n <;> decide

theorem grade_of_body {about : Ipv4Packet} {body : Bytes} (due : n.body? about = some body) :
    (if n.isReport then 0 else 1) < about.grade := by
  unfold body? at due
  split at due
  · split at due
    · rename_i report reportable
      rw [if_pos report]
      exact Ipv4Packet.grade_of_isReportable reportable
    · cases due
  · rename_i report
    rw [if_neg report]
    split at due
    · rename_i m read
      split at due
      · rename_i asks
        have echo : about.isEchoRequest := by simp [Ipv4Packet.isEchoRequest, read, asks]
        rw [Ipv4Packet.grade_of_isEchoRequest echo]
        exact Nat.one_lt_two
      · cases due
    · cases due

end Notice

namespace EthernetFrame

/-- The grade of the datagram in a frame; bytes that cannot be read as one are of the first grade. -/
def grade (f : EthernetFrame) : Nat :=
  match Ipv4Packet.ofFrame f with
  | .ok p => p.grade
  | .error _ => 1

/-- The lifetime of the datagram in a frame, its ninth byte. -/
def lifetime (f : EthernetFrame) : Nat := (f.payload.getD 8 0).toNat

/-- The rank of the datagram in a frame: its grade, and among those of the same grade its lifetime. -/
def rank (f : EthernetFrame) : Nat ×ₗ Nat := toLex (f.grade, f.lifetime)

/-- The datagram of one frame may be there on account of that of another: it is that one with one hop less to live, or
it is of a lower grade and has a short life. -/
inductive Descends (f g : EthernetFrame) : Prop where
  | onward (same : g.grade = f.grade) (older : g.lifetime + 1 = f.lifetime) (alive : 0 < g.lifetime)
  | answer (lower : g.grade < f.grade) (short : g.lifetime ≤ noticeTtl.toNat)

variable {f g h : EthernetFrame} {p : Ipv4Packet}

theorem grade_of_read (read : Ipv4Packet.ofFrame f = .ok p) : f.grade = p.grade := by
  rw [grade, read]

theorem lifetime_of_read (read : Ipv4Packet.ofFrame f = .ok p) : f.lifetime = p.ttl.toNat := by
  rw [lifetime, (Ipv4Packet.readFrom_of_ofFrame read).2.ttl]

theorem grade_le (f : EthernetFrame) : f.grade ≤ 2 := by
  unfold grade
  split
  · exact Ipv4Packet.grade_le _
  · decide

theorem rank_of_descends (descends : Descends f g) : g.rank < f.rank := by
  rw [rank, rank, Prod.Lex.toLex_lt_toLex]
  cases descends with
  | onward same older _ => exact .inr ⟨same, by dsimp only; omega⟩
  | answer lower _ => exact .inl lower

/-- The address of the next hop makes no difference. -/
theorem Descends.readdressed (descends : Descends f g) (dest : Mac) : Descends f { g with dest } := by
  cases descends with
  | onward same older alive => exact .onward same older alive
  | answer lower short => exact .answer lower short

/-- What is of a lower grade than a descendant descends too. -/
theorem Descends.lower (descends : Descends f g) (lower : h.grade < g.grade) (short : h.lifetime ≤ noticeTtl.toNat) :
    Descends f h := by
  refine .answer ?_ short
  cases descends with
  | onward same _ _ => exact same ▸ lower
  | answer lower' _ => exact Nat.lt_trans lower lower'

/-- How many datagrams can follow from one, itself among them. -/
def reach (f : EthernetFrame) : Nat := max f.lifetime 1 + noticeTtl.toNat * f.grade

theorem reach_of_descends (descends : Descends f g) : g.reach < f.reach := by
  have short : noticeTtl.toNat = 64 := rfl
  unfold reach
  cases descends with
  | onward same older alive =>
    rw [same]
    omega
  | answer lower _ =>
    rw [short] at *
    omega

theorem reach_le (f : EthernetFrame) : f.reach ≤ 255 + 64 + 64 := by
  have grade := f.grade_le
  have lifetime : f.lifetime < 256 := (f.payload.getD 8 0).toNat_lt
  have short : noticeTtl.toNat = 64 := rfl
  rw [reach, short]
  omega

theorem reach_pos (f : EthernetFrame) : 0 < f.reach := by
  unfold reach
  omega

end EthernetFrame

open EthernetFrame

/-! ## What routers send on account of a datagram -/

namespace Router

variable {r : Router} {i : Interface} {dest : Mac} {f : EthernetFrame} {p : Ipv4Packet}

/-- A notice is of a lower grade than the datagram it is about, and short-lived. -/
theorem lower_notice {n : Notice} {about : Ipv4Packet} {d : Delivery} (due : r.noticeDelivery? n about = some d)
    (fits : about.Fits) : d.frame.grade < about.grade ∧ d.frame.lifetime ≤ noticeTtl.toNat := by
  obtain ⟨packet, read, carried⟩ := reads_notice due fits
  rw [grade_of_read read, lifetime_of_read read, carried.ttl, Notice.grade_of_carried carried]
  refine ⟨?_, Nat.le_refl _⟩
  obtain ⟨route, i, packet, -, said, -⟩ := notice_spec due
  obtain ⟨body, said, -⟩ := Option.map_eq_some_iff.1 said
  exact Notice.grade_of_body said

theorem descends_of_forward {d : Delivery} (read : Ipv4Packet.ofFrame f = .ok p)
    (verdict : r.judge i dest p = .forward d) : Descends f d.frame := by
  obtain ⟨-, alive, transit⟩ := judge_forward verdict
  obtain ⟨route, egress, -, -, -, rfl⟩ := judgeTransit_forward transit
  have fits : p.Fits := Ipv4Packet.fits_of_ofFrame read
  have reads : Ipv4Packet.ofFrame (EthernetFrame.onward p.aged dest egress.mac) = .ok p.aged :=
    EthernetFrame.ofFrame_of_payload rfl rfl fits
  have lifetime : (EthernetFrame.onward p.aged dest egress.mac).lifetime = p.ttl.toNat - 1 :=
    (lifetime_of_read reads).trans (Ipv4Packet.toNat_ttl_aged alive)
  have alive : 1 < p.ttl.toNat := UInt8.lt_iff_toNat_lt.1 alive
  refine .onward ?_ ?_ ?_
  · rw [grade_of_read reads, grade_of_read read]
    rfl
  · rw [lifetime, lifetime_of_read read]
    omega
  · rw [lifetime]
    omega

theorem descends_of_notify {n : Notice} {about : Ipv4Packet} {d : Delivery} (read : Ipv4Packet.ofFrame f = .ok p)
    (verdict : r.judge i dest p = .notify n about) (due : r.noticeDelivery? n about = some d) :
    Descends f d.frame := by
  have fits := Ipv4Packet.fits_of_ofFrame read
  have same : about.Fits ∧ about.grade = p.grade := by
    rcases judge_notify verdict with rfl | rfl
    · exact ⟨fits, rfl⟩
    · exact ⟨fits, rfl⟩
  obtain ⟨lower, short⟩ := lower_notice due same.1
  exact .answer (by rwa [grade_of_read read, ← same.2]) short

theorem descends_of_regret {g : EthernetFrame} {d : Delivery} (descends : Descends f g)
    (read : Ipv4Packet.ofFrame g = .ok p) (due : r.noticeDelivery? .hostUnreachable p = some d) :
    Descends f d.frame := by
  obtain ⟨lower, short⟩ := lower_notice due (Ipv4Packet.fits_of_ofFrame read)
  exact descends.lower (by rwa [grade_of_read read]) short

/-- An answer of the routing protocol is of a lower grade than the request. -/
theorem grade_transmission_le (i : Interface) (destIp : Ipv4Addr) (destMac : Mac) (destPort : UInt16)
    (entries : List RipEntry) :
    (RipProcess.transmission i destIp destMac destPort ⟨.response, entries⟩).frame.grade ≤ 1 := by
  unfold EthernetFrame.grade
  cases read : Ipv4Packet.ofFrame
      (RipProcess.transmission i destIp destMac destPort ⟨.response, entries⟩).frame with
  | error _ => exact Nat.le_refl 1
  | ok p =>
    obtain ⟨-, protocol, -, message⟩ := RipProcess.message_of_transmission read
    refine Ipv4Packet.grade_of_not_question ?_ ?_
    · unfold Ipv4Packet.isEchoRequest
      cases icmp : IcmpMessage.ofPacket p with
      | error _ => rfl
      | ok m => cases (IcmpMessage.spec_of_ofPacket icmp).1.symm.trans protocol
    · unfold Ipv4Packet.isRipRequest
      cases segment : UdpSegment.ofPacket p with
      | error _ => rfl
      | ok u =>
        cases read : RipProcess.message? u with
        | none => simp [read]
        | some m => simp [read, (message u segment m read).command]

theorem descends_of_rip {received : Transmission} {u : UdpSegment}
    (read : Ipv4Packet.ofFrame received.frame = .ok p) (port : r.interfaces.find? received.interface = some i)
    (segment : r.ripSegment? i p = some u) (now : Nat) :
    (r.takeRip now i received.frame.src p u).2 = [] ∨
      ∃ out, (r.takeRip now i received.frame.src p u).2 = [.announced out] ∧
        out.frame.etherType = etherTypeIpv4 ∧ Descends received.frame out.frame := by
  rcases deaf_or_hears port segment with deaf | ⟨m, hears⟩
  · rw [takeRip_of_deaf port segment deaf]
    exact .inl rfl
  · rw [takeRip_of_hears hears, heard]
    cases command : m.command with
    | response => exact .inl rfl
    | request =>
      have message : RipProcess.message? u = some m := RipProcess.message?_eq_some_iff.2 hears.message
      have asks : p.isRipRequest := by
        simp [Ipv4Packet.isRipRequest, hears.segment, hears.destPort, message, command]
      have lifetime : (RipProcess.transmission i p.src received.frame.src u.srcPort
          (RipProcess.advertisement r.routes)).frame.lifetime = 1 := rfl
      have grade := grade_transmission_le i p.src received.frame.src u.srcPort
        (RipProcess.advertisement r.routes).entries
      refine .inr ⟨_, rfl, rfl, .answer ?_ ?_⟩
      · rw [grade_of_read read, Ipv4Packet.grade_of_isRipRequest asks]
        exact Nat.lt_succ_of_le grade
      · exact Nat.le_trans (Nat.le_of_eq lifetime) (by decide)

end Router

end SoftRouter
