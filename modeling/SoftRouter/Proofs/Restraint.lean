import SoftRouter.Proofs.Buffer.Transport
import SoftRouter.Proofs.Lookup
import SoftRouter.Proofs.Occasions
import SoftRouter.Proofs.Soundness

/-!
# When nothing is reported

A report is made about a datagram just when that is a first fragment, comes from a single host that is not the router
itself, is no error message of a type that is told apart, and there is a route back (`exists_report_iff`). So reports
go to single hosts only (`reports_go_to_hosts`); answers to echo requests are not held back in this way. RFC 1812 asks
for more in 4.3.2.7: about a datagram that came to many, or that is a source quench, the router may still report
(`silent_iff`).
-/

namespace SoftRouter

/-- The address is that of a single host. -/
structure Ipv4Addr.IsHost (ip : Ipv4Addr) : Prop where
  specified : ip ≠ .unspecified
  limited : ip ≠ .broadcast
  unicast : ¬ ip.isMulticast
  abroad : ¬ ip.isLoopback

theorem Ipv4Addr.isReportable_iff {ip : Ipv4Addr} : ip.isReportable ↔ ip.IsHost := by
  constructor
  · intro reportable
    simp only [isReportable, Bool.not_eq_true', Bool.or_eq_false_iff, decide_eq_false_iff_not] at reportable
    obtain ⟨⟨⟨specified, limited⟩, unicast⟩, abroad⟩ := reportable
    exact ⟨specified, limited, by simp [unicast], by simp [abroad]⟩
  · rintro ⟨specified, limited, unicast, abroad⟩
    simp [isReportable, specified, limited, unicast, abroad]

namespace IcmpMessage

/-- The types of error messages by RFC 1812, 4.3.1: unreachable destination, source quench, redirect, exceeded time and
faulty parameter. -/
def errorTypes : List UInt8 := [3, 4, 5, 11, 12]

/-- The type of a source quench. -/
def typeSourceQuench : UInt8 := 4

/-- All of them but one are told apart. -/
theorem isError_iff {m : IcmpMessage} : m.isError ↔ m.type ∈ errorTypes ∧ m.type ≠ typeSourceQuench := by
  unfold isError errorTypes typeUnreachable typeRedirect typeTimeExceeded typeParameterProblem typeSourceQuench
  simp only [Bool.or_eq_true, decide_eq_true_iff, List.mem_cons, List.not_mem_nil, or_false]
  grind

end IcmpMessage

namespace Ipv4Packet

/-- The type of the ICMP message in a packet. -/
def icmpType? (p : Ipv4Packet) : Option UInt8 := if p.protocol = .icmp then p.payload.head? else none

/-- The packet is no ICMP, or it holds a message that is told apart from the error messages. -/
def TellsNoError (p : Ipv4Packet) : Prop := p.protocol = .icmp → IcmpMessage.headerLength ≤ p.payload.length ∧
  ∀ t ∈ p.icmpType?, t ∈ IcmpMessage.errorTypes → t = IcmpMessage.typeSourceQuench

/-- Nothing is to be reported about the packet by RFC 1812, 4.3.2.7: it is sent to many, or an error message. -/
def ForbidsReport (p : Ipv4Packet) : Prop :=
  p.dest.isMulticast ∨ p.dest = .broadcast ∨ ∃ t ∈ p.icmpType?, t ∈ IcmpMessage.errorTypes

theorem isHarmlessIcmp_iff {p : Ipv4Packet} (icmp : p.protocol = .icmp) : p.isHarmlessIcmp ↔ p.TellsNoError := by
  unfold isHarmlessIcmp TellsNoError icmpType?
  by_cases short : p.payload.length < IcmpMessage.headerLength
  · have unread : IcmpMessage.ofPacket p = .error .tooShort := if_pos short
    rw [unread]
    constructor
    · intro harmless
      cases harmless
    · intro harmless
      exact absurd (harmless icmp).1 (Nat.not_le.2 short)
  · have long := Nat.le_of_not_lt short
    obtain ⟨m, decoded⟩ := IcmpMessage.exists_decode long
    have read : IcmpMessage.ofPacket p = .ok m := by
      rw [IcmpMessage.ofPacket, if_neg short, if_neg (not_not_intro icmp), decoded]
    have type : p.payload.head? = some m.type := by
      rw [← IcmpMessage.encode_of_decode decoded]
      rfl
    rw [read, if_pos icmp, type]
    simp only [Bool.not_eq_true', ← Bool.not_eq_true, IcmpMessage.isError_iff, Option.mem_some_iff]
    constructor
    · rintro harmless -
      refine ⟨long, ?_⟩
      rintro t rfl error
      by_contra other
      exact harmless ⟨error, other⟩
    · rintro harmless ⟨error, other⟩
      exact other ((harmless icmp).2 _ rfl error)

/-- What may be reported about is a first fragment from a single host that tells of no error. -/
theorem isReportable_iff {p : Ipv4Packet} :
    p.isReportable ↔ p.fragmentOffset = 0 ∧ p.src.IsHost ∧ p.TellsNoError := by
  have quiet : (p.protocol ≠ .icmp ∨ p.isHarmlessIcmp) ↔ p.TellsNoError := by
    by_cases icmp : p.protocol = .icmp
    · rw [isHarmlessIcmp_iff icmp]
      exact ⟨fun either => either.resolve_left (not_not_intro icmp), .inr⟩
    · exact ⟨fun _ same => absurd same icmp, fun _ => .inl icmp⟩
  rw [← quiet, ← Ipv4Addr.isReportable_iff]
  simp only [isReportable, Bool.and_eq_true, Bool.or_eq_true, decide_eq_true_iff]
  constructor
  · rintro ⟨⟨first, harmless⟩, host⟩
    exact ⟨first, host, harmless⟩
  · rintro ⟨first, host, harmless⟩
    exact ⟨⟨first, harmless⟩, host⟩

end Ipv4Packet

namespace Router

/-- The router reports about the packet whenever it has occasion to. -/
structure Reporting (r : Router) (about : Ipv4Packet) : Prop where
  first : about.fragmentOffset = 0
  host : about.src.IsHost
  foreign : ¬ r.owns about.src
  wayBack : ∃ route, r.routes.lookup about.src = some route
  harmless : about.TellsNoError

variable {r : Router} {now : Nat} {n : Notice} {about : Ipv4Packet}

theorem host_of_report {d : Delivery} (due : r.noticeDelivery? n about = some d) (report : n.isReport) :
    about.fragmentOffset = 0 ∧ about.src.IsHost ∧ about.TellsNoError := by
  obtain ⟨route, i, packet, -, said, -⟩ := notice_spec due
  obtain ⟨body, due, -⟩ := Option.map_eq_some_iff.1 said
  rw [Notice.body?, if_pos report] at due
  split at due
  · exact Ipv4Packet.isReportable_iff.1 ‹_›
  · cases due

/-- In its response the router tells a notice about the packet: it makes the notice and hands it over. -/
def Says (r : Router) (now : Nat) (s : Stimulus) (n : Notice) (about : Ipv4Packet) : Prop :=
  ∃ d, r.Makes now s n about d ∧ ∃ ev ∈ (r.respond now s).2, ev.handed? = some d

theorem says_of_makes {s : Stimulus} {d : Delivery} (makes : r.Makes now s n about d) : r.Says now s n about :=
  ⟨d, makes, handed_iff.2 (.inr ⟨n, about, makes⟩)⟩

theorem says_iff {s : Stimulus} (calls : r.Calls now s n about) :
    r.Says now s n about ↔ (r.noticeDelivery? n about).isSome := by
  rw [Option.isSome_iff_exists]
  constructor
  · rintro ⟨d, makes, -⟩
    exact ⟨d, makes.due⟩
  · rintro ⟨d, due⟩
    exact says_of_makes ⟨calls, due⟩

/-- Every route of a sound router leads out, so a way back is all that is missing for a delivery. -/
theorem exists_report_iff (sound : r.Sound) (report : n.isReport) :
    (∃ d, r.noticeDelivery? n about = some d) ↔ r.Reporting about := by
  constructor
  · rintro ⟨d, due⟩
    obtain ⟨first, host, harmless⟩ := host_of_report due report
    obtain ⟨foreign, route, -, -, matched, -⟩ := noticeDelivery?_eq_some_iff.1 due
    exact ⟨first, host, foreign, ⟨route, matched⟩, harmless⟩
  · rintro ⟨first, host, foreign, ⟨route, matched⟩, harmless⟩
    obtain ⟨i, port⟩ := InterfaceTable.exists_of_contains (sound.routes route (RouteTable.lookup_spec matched).1)
    have reportable : about.isReportable := Ipv4Packet.isReportable_iff.2 ⟨first, host, harmless⟩
    have said : n.body? about = some (Notice.quotation about) := by
      rw [Notice.body?, if_pos report, if_pos reportable]
    have built (src : Ipv4Addr) : ∃ packet, n.packet? about src = some packet := by
      rw [Notice.packet?, said]
      exact ⟨_, rfl⟩
    obtain ⟨packet, built⟩ := built (if n.isReport then i.ip else about.dest)
    exact ⟨_, noticeDelivery?_eq_some_iff.2 ⟨foreign, route, i, packet, matched, port, built, rfl⟩⟩

/-- The datagram that a notice is made about was read from a frame, or is one that was but for its lifetime. -/
theorem fits_of_calls {s : Stimulus} (calls : r.Calls now s n about) : about.Fits := by
  cases calls with
  | received verdict =>
    obtain ⟨i, p, -, read, verdict⟩ := verdict?_eq_some_iff.1 verdict
    have fits := Ipv4Packet.fits_of_ofFrame read
    rcases judge_notify verdict with rfl | rfl
    · exact fits
    · exact fits
  | waited ends mem read => exact Ipv4Packet.fits_of_ofFrame read

/-- A notice goes to the source of the datagram that it is about. -/
theorem dest_of_notice {d : Delivery} {packet : Ipv4Packet} (due : r.noticeDelivery? n about = some d)
    (fits : about.Fits) (read : Ipv4Packet.ofFrame d.frame = .ok packet) :
    packet.dest = about.src ∧ n.Carried packet := by
  obtain ⟨route, i, built, -, said, rfl⟩ := notice_spec due
  have carried := Notice.carried_packet said fits
  have reads : Ipv4Packet.ofFrame (EthernetFrame.carrying built) = .ok built :=
    EthernetFrame.ofFrame_of_payload rfl rfl carried.fits
  obtain rfl : built = packet := Except.ok.inj (reads.symm.trans read)
  obtain ⟨body, -, rfl⟩ := Option.map_eq_some_iff.1 said
  exact ⟨rfl, carried⟩

/-- In whatever state a router has come to be, what its response to anything hands over is the datagram received as it
is passed on, or a notice; and no report is made about a later fragment, or about a datagram whose source is
unspecified, the limited broadcast address, multicast or loopback. So the ICMP messages that have gone out were passed
on, or are notices to the sources of the datagrams they are about, and the reports among them went to single hosts. -/
theorem reports_go_to_hosts {interfaces : InterfaceTable} {routes : RouteTable}
    (created : Router.make interfaces routes = .ok r) (xs : List (Nat × Stimulus)) (now : Nat) (s : Stimulus) :
    (∀ d, (∃ ev ∈ ((r.run xs).1.respond now s).2, ev.handed? = some d) ↔
        (∃ received, s = .frame received ∧ (r.run xs).1.Forwards received d) ∨
          ∃ n about, (r.run xs).1.Makes now s n about d) ∧
      (∀ n about d, (r.run xs).1.Makes now s n about d → n.isReport →
        about.fragmentOffset = 0 ∧ about.src.IsHost) ∧
      ∀ out ∈ transmissions (r.run xs).2, ∀ packet, Ipv4Packet.ofFrame out.frame = .ok packet →
        packet.protocol = .icmp → r.PassesOn xs out.frame ∨
          ∃ n about, r.Tells xs out.frame n about ∧ packet.dest = about.src ∧ n.Carried packet ∧
            (n.isReport → about.fragmentOffset = 0 ∧ packet.dest.IsHost) := by
  refine ⟨fun d => handed_iff, ?_, ?_⟩
  · intro n about d makes report
    obtain ⟨first, host, -⟩ := host_of_report makes.due report
    exact ⟨first, host⟩
  · intro out sent packet read icmp
    rcases origin_of_sent created sent read icmp with passed | ⟨n, about, tells⟩
    · exact .inl passed
    · obtain ⟨zs, then', t, ys, d, split, makes, same⟩ := tells
      have reads : Ipv4Packet.ofFrame d.frame = .ok packet := by
        rw [same] at read
        exact read
      obtain ⟨dest, carried⟩ := dest_of_notice makes.due (fits_of_calls makes.calls) reads
      refine .inr ⟨n, about, ⟨zs, then', t, ys, d, split, makes, same⟩, dest, carried, ?_⟩
      intro report
      obtain ⟨first, host, -⟩ := host_of_report makes.due report
      exact ⟨first, dest ▸ host⟩

def everythingOut : RouteTable := ⟨[.fixed .unspecified .unspecified (.ofOctets 10 0 1 9) "eth1"]⟩

def outward : Router := { interfaces := twoPorts, routes := everythingOut }

theorem outward_created : Router.make twoPorts everythingOut = .ok outward := rfl

def echoRequest : IcmpMessage := .checksummed { type := 8, code := 0, checksum := 0, body := [0, 1, 0, 1] }

/-- The first port is asked for an echo, by one fragment of a datagram. -/
def ping (src : Ipv4Addr) (fragment : UInt16) : Ipv4Packet :=
  .checksummed { Ipv4Packet.make src (.ofOctets 10 0 0 1) 1 9 echoRequest.encode with fragment }

/-- A datagram of a station whose lifetime has run out. -/
def expired (dest : Ipv4Addr) : Ipv4Packet := .make (.ofOctets 10 0 0 7) dest 17 1 [1, 2, 3]

theorem calls_expired : outward.Calls 0 (.frame (onFirst (expired (.ofOctets 8 8 8 8)))) .timeExceeded
    (expired (.ofOctets 8 8 8 8)) :=
  .received (by decide +kernel)

theorem reports_go_to_hosts_expired :
    (expired (.ofOctets 8 8 8 8)).src.IsHost ∧ ∃ d,
      outward.Makes 0 (.frame (onFirst (expired (.ofOctets 8 8 8 8)))) .timeExceeded (expired (.ofOctets 8 8 8 8)) d ∧
        ∃ ev ∈ (outward.respond 0 (.frame (onFirst (expired (.ofOctets 8 8 8 8))))).2, ev.handed? = some d := by
  obtain ⟨handed, hosts, -⟩ :=
    reports_go_to_hosts outward_created [] 0 (.frame (onFirst (expired (.ofOctets 8 8 8 8))))
  obtain ⟨d, makes, -⟩ := (says_iff calls_expired).2 (by decide +kernel)
  exact ⟨(hosts _ _ d makes rfl).2, d, makes, (handed d).2 (.inr ⟨_, _, makes⟩)⟩

/-- Echo requests are answered whatever their source is, and wherever in a datagram they stand. -/
theorem echo_answered_to_anyone :
    Router.make twoPorts everythingOut = .ok outward ∧
      (∃ d, outward.Makes 0 (.frame (onFirst (ping (.ofOctets 127 0 0 1) 0))) .echoReply
        (ping (.ofOctets 127 0 0 1) 0).aged d ∧
        (∃ ev ∈ (outward.respond 0 (.frame (onFirst (ping (.ofOctets 127 0 0 1) 0)))).2, ev.handed? = some d) ∧
        (Ipv4Packet.ofFrame d.frame).toOption.map Ipv4Packet.dest = some (.ofOctets 127 0 0 1)) ∧
      outward.Says 0 (.frame (onFirst (ping (.ofOctets 10 0 0 7) 1))) .echoReply (ping (.ofOctets 10 0 0 7) 1).aged ∧
      (ping (.ofOctets 10 0 0 7) 1).aged.fragmentOffset ≠ 0 := by
  have loopback : ((outward.noticeDelivery? .echoReply (ping (.ofOctets 127 0 0 1) 0).aged).bind fun d =>
      (Ipv4Packet.ofFrame d.frame).toOption.map Ipv4Packet.dest) = some (.ofOctets 127 0 0 1) := by decide +kernel
  obtain ⟨d, due, dest⟩ := Option.bind_eq_some_iff.1 loopback
  have makes : outward.Makes 0 (.frame (onFirst (ping (.ofOctets 127 0 0 1) 0))) .echoReply
      (ping (.ofOctets 127 0 0 1) 0).aged d := ⟨.received (by decide +kernel), due⟩
  refine ⟨outward_created, ⟨d, makes, handed_iff.2 (.inr ⟨_, _, makes⟩), dest⟩, ?_, by decide +kernel⟩
  exact (says_iff (.received (by decide +kernel))).2 (by decide +kernel)

/-! ## What is asked for beyond that -/

theorem Reporting.allowed (reporting : r.Reporting about) (forbids : about.ForbidsReport) :
    about.dest.isMulticast ∨ about.dest = .broadcast ∨ about.icmpType? = some IcmpMessage.typeSourceQuench := by
  rcases forbids with many | all | ⟨t, type, error⟩
  · exact .inl many
  · exact .inr (.inl all)
  · have icmp : about.protocol = .icmp := by
      unfold Ipv4Packet.icmpType? at type
      split at type
      · assumption
      · cases type
    obtain rfl := (reporting.harmless icmp).2 t type error
    exact .inr (.inr type)

/-- Whenever a router has occasion to report about a datagram, it does so just when that is a first fragment from a
single host, not from the router itself, no error message of a type told apart, and there is a route back. So the
silence that RFC 1812 asks for is kept about a datagram just when, where all of this is so, it is not sent to a
multicast address, not sent to the limited broadcast address, and no source quench. -/
theorem silent_iff {interfaces : InterfaceTable} {routes : RouteTable}
    (created : Router.make interfaces routes = .ok r) (xs : List (Nat × Stimulus)) {s : Stimulus}
    (calls : (r.run xs).1.Calls now s n about) (report : n.isReport) :
    ((r.run xs).1.Says now s n about ↔ (r.run xs).1.Reporting about) ∧
      ((about.ForbidsReport → ¬ (r.run xs).1.Says now s n about) ↔
        ((r.run xs).1.Reporting about → ¬ about.dest.isMulticast ∧ about.dest ≠ .broadcast ∧
          about.icmpType? ≠ some IcmpMessage.typeSourceQuench)) := by
  have sound := (run_stays (sound_of_make created) xs).sound
  have said : (r.run xs).1.Says now s n about ↔ (r.run xs).1.Reporting about := by
    rw [says_iff calls, Option.isSome_iff_exists, exists_report_iff sound report]
  refine ⟨said, ?_⟩
  rw [said]
  constructor
  · intro silent reporting
    refine ⟨?_, ?_, ?_⟩
    · exact fun many => silent (.inl many) reporting
    · exact fun all => silent (.inr (.inl all)) reporting
    · exact fun quench => silent (.inr (.inr ⟨_, quench, by decide⟩)) reporting
  · intro spared forbids reporting
    obtain ⟨few, limited, other⟩ := spared reporting
    rcases reporting.allowed forbids with many | all | quench
    · exact few many
    · exact limited all
    · exact other quench

theorem silent_iff_expired :
    outward.Reporting (expired (.ofOctets 8 8 8 8)) ∧
      outward.Says 0 (.frame (onFirst (expired (.ofOctets 8 8 8 8)))) .timeExceeded (expired (.ofOctets 8 8 8 8)) ∧
      ¬ (expired (.ofOctets 8 8 8 8)).ForbidsReport := by
  obtain ⟨said, silent⟩ := silent_iff outward_created [] calls_expired rfl
  have reporting : outward.Reporting (expired (.ofOctets 8 8 8 8)) := {
    first := by decide +kernel
    host := ⟨by decide +kernel, by decide +kernel, by decide +kernel, by decide +kernel⟩
    foreign := by decide +kernel
    wayBack := Option.isSome_iff_exists.1 (by decide +kernel)
    harmless := fun icmp => absurd icmp (by decide +kernel) }
  have spared := silent.2 fun _ => ⟨by decide +kernel, by decide +kernel, by decide +kernel⟩
  exact ⟨reporting, said.2 reporting, fun forbids => spared forbids (said.2 reporting)⟩

/-- A station asks a far one to slow down, and the lifetime of its message has run out. -/
def quench : Ipv4Packet :=
  let heard : Ipv4Packet := .make (.ofOctets 8 8 8 8) (.ofOctets 10 0 0 7) 17 9 [1, 2, 3]
  let message : IcmpMessage :=
    .checksummed { type := 4, code := 0, checksum := 0, body := Notice.quotation heard }
  .make (.ofOctets 10 0 0 7) (.ofOctets 8 8 8 8) 1 1 message.encode

/-- Reports are made about datagrams to a multicast address and to the limited broadcast address, and about a source
quench. -/
theorem reported_though_forbidden :
    Router.make twoPorts everythingOut = .ok outward ∧
      outward.Says 0 (.frame (onFirst (expired (.ofOctets 224 0 0 5)))) .timeExceeded (expired (.ofOctets 224 0 0 5)) ∧
      (expired (.ofOctets 224 0 0 5)).ForbidsReport ∧
      outward.Says 0 (.frame (onFirst (expired .broadcast))) .timeExceeded (expired .broadcast) ∧
      (expired .broadcast).ForbidsReport ∧
      outward.Says 0 (.frame (onFirst quench)) .timeExceeded quench ∧ quench.ForbidsReport := by
  have told (p : Ipv4Packet) (verdict : outward.verdict? (onFirst p) = some (.notify .timeExceeded p))
      (due : (outward.noticeDelivery? .timeExceeded p).isSome) :
      outward.Says 0 (.frame (onFirst p)) .timeExceeded p := (says_iff (.received verdict)).2 due
  refine ⟨outward_created, ?_, .inl (by decide +kernel), ?_, .inr (.inl rfl), ?_, .inr (.inr ⟨4, ?_, by decide⟩)⟩
  · exact told _ (by decide +kernel) (by decide +kernel)
  · exact told _ (by decide +kernel) (by decide +kernel)
  · exact told _ (by decide +kernel) (by decide +kernel)
  · decide +kernel

end Router

end SoftRouter
