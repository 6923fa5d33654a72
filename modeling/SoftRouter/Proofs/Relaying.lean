import SoftRouter.Proofs.Corruption
import SoftRouter.Proofs.Notices

/-!
# What a router passes on

Besides the messages of its routing protocol a router sends two kinds of datagrams: those it received and passes on,
and ICMP messages about datagrams. So a property that both kinds have holds of every datagram that is sent or kept
waiting, and routes and routing protocol are left as they are (`Sends`). This is so for a tick of address resolution
(`sends_arpTick`) and for every frame received in which no message of the routing protocol is heard (`sends_handle`).
-/

namespace SoftRouter

open NeighbourCache

/-- Whatever datagram the frame carries has this property. -/
def EthernetFrame.Carries (P : Ipv4Packet → Prop) (f : EthernetFrame) : Prop :=
  ∀ p, Ipv4Packet.ofFrame f = .ok p → P p

namespace EthernetFrame

variable {P : Ipv4Packet → Prop} {f : EthernetFrame}

theorem carries_of_read {p : Ipv4Packet} (read : Ipv4Packet.ofFrame f = .ok p) (holds : P p) : f.Carries P := by
  intro q again
  cases read.symm.trans again
  exact holds

theorem carries_arp (type : f.etherType = etherTypeArp) : f.Carries P := by
  intro p read
  cases (Ipv4Packet.ofFrame_of_arp type).symm.trans read

end EthernetFrame

theorem transmissions_append (first later : List Event) :
    transmissions (first ++ later) = transmissions first ++ transmissions later := List.filterMap_append

theorem transmissions_announced (sent : List Transmission) : transmissions (sent.map .announced) = sent := by
  rw [transmissions, List.filterMap_map]
  exact List.filterMap_some

namespace Router

section
variable {r : Router} {out : Transmission}

theorem transmissions_abandonments (progress : List Progress) : transmissions (abandonments progress) = [] := by
  refine List.filterMap_eq_nil_iff.2 ?_
  intro ev mem
  obtain ⟨given, rfl⟩ := abandoned_of_mem mem
  rfl

theorem sent_of_question {ip : Ipv4Addr} {interface : String} (mem : out ∈ transmissions (r.question ip interface)) :
    ∃ i, r.interfaces.find? interface = some i ∧ out = ⟨i.name, (ArpFrame.request i.mac i.ip ip).toFrame⟩ := by
  obtain ⟨ev, member, sent⟩ := List.mem_filterMap.1 mem
  obtain ⟨i, port, rfl⟩ := mem_question_iff.1 member
  cases sent
  exact ⟨i, port, rfl⟩

theorem sent_of_outcome {p : Progress} (mem : out ∈ transmissions (r.outcome p)) :
    ∃ ip interface, out ∈ transmissions (r.question ip interface) := by
  cases p with
  | waiting => cases mem
  | asking ip interface => exact ⟨ip, interface, mem⟩
  | abandoned given => cases mem

theorem sent_of_answer {i : Interface} {f : ArpFrame} (mem : out ∈ transmissions
    ((f.replyTo? i.mac i.ip).map fun reply => .announced ⟨i.name, reply.toFrame⟩).toList) :
    ∃ reply : ArpFrame, out = ⟨i.name, reply.toFrame⟩ := by
  cases answer : f.replyTo? i.mac i.ip with
  | none =>
    rw [answer] at mem
    cases mem
  | some reply =>
    rw [answer] at mem
    exact ⟨reply, List.mem_singleton.1 mem⟩

/-- A neighbour that makes itself known is sent what waited for it. -/
theorem sent_of_meet (now : Nat) {mac : Mac} {ip : Ipv4Addr} (mem : out ∈ transmissions (r.meet now mac ip).2) :
    ∃ res frame, r.arp.resolution? ip = some res ∧ frame ∈ res.waiting ∧
      out = (⟨res.interface, res.ip, frame⟩ : Delivery).resolved mac := by
  obtain ⟨ev, member, sent⟩ := List.mem_filterMap.1 mem
  obtain ⟨d, waits, rfl⟩ := List.mem_map.1 member
  obtain ⟨res, pending, member⟩ := List.mem_flatMap.1 waits
  obtain ⟨frame, waiting, rfl⟩ := List.mem_map.1 member
  cases sent
  exact ⟨res, frame, Option.mem_toList.1 pending, waiting, rfl⟩

end

/-! ## Properties of datagrams that are kept -/

/-- All that waits carries datagrams with this property. -/
def Keeps (P : Ipv4Packet → Prop) (r : Router) : Prop := r.arp.Each fun res => ∀ f ∈ res.waiting, f.Carries P

/-- All that is sent or waits carries datagrams with this property, and nothing but address resolution went on. -/
structure Sends (P : Ipv4Packet → Prop) (r : Router) (done : Router × List Event) : Prop where
  keeps : done.1.Keeps P
  sent : ∀ out ∈ transmissions done.2, out.frame.Carries P
  still : done.1 = { r with arp := done.1.arp }

variable {P : Ipv4Packet → Prop} {r : Router} {now : Nat}

theorem Keeps.anything (r : Router) : r.Keeps fun _ => True := fun _ _ _ _ _ _ _ => trivial

namespace Sends

theorem nothing (keeps : r.Keeps P) : r.Sends P (r, []) where
  keeps := keeps
  sent _ mem := by cases mem
  still := rfl

theorem append {s u : Router} {first later : List Event} (front : r.Sends P (s, first))
    (back : s.Sends P (u, later)) : r.Sends P (u, first ++ later) where
  keeps := back.keeps
  sent out mem := by
    rw [transmissions_append] at mem
    rcases List.mem_append.1 mem with mem | mem
    · exact front.sent out mem
    · exact back.sent out mem
  still := by
    have first := front.still
    have later := back.still
    dsimp only at first later ⊢
    rw [first] at later
    exact later

/-- Address resolution goes on. -/
theorem of_arp {arp : NeighbourCache} (keeps : arp.Each fun res => ∀ f ∈ res.waiting, f.Carries P)
    {events : List Event} (sent : ∀ out ∈ transmissions events, out.frame.Carries P) :
    r.Sends P ({ r with arp }, events) where
  keeps := keeps
  sent := sent
  still := rfl

section
variable {done : Router × List Event} (sends : r.Sends P done)
include sends

theorem routes : done.1.routes = r.routes := by rw [sends.still]

theorem rip : done.1.rip = r.rip := by rw [sends.still]

theorem interfaces : done.1.interfaces = r.interfaces := by rw [sends.still]

end

end Sends

theorem carries_question {ip : Ipv4Addr} {interface : String} {out : Transmission}
    (mem : out ∈ transmissions (r.question ip interface)) : out.frame.Carries P := by
  obtain ⟨i, -, rfl⟩ := sent_of_question mem
  exact EthernetFrame.carries_arp rfl

theorem keeps_await (now : Nat) {d : Delivery} (keeps : r.Keeps P) (carries : d.frame.Carries P) :
    (r.arp.await d now).1.Each fun res => ∀ f ∈ res.waiting, f.Carries P := by
  refine each_await keeps ?_
  intro _ f mem
  rw [Resolution.waiting_advanced] at mem
  rcases r.arp.joined_cases d with ⟨-, fresh⟩ | ⟨res, pending, joins⟩
  · rw [fresh] at mem
    obtain rfl := List.mem_singleton.1 mem
    exact carries
  · rw [joins] at mem
    rcases List.mem_append.1 mem with mem | mem
    · exact keeps _ res pending f mem
    · exact List.mem_singleton.1 mem ▸ carries

theorem sends_meet (keeps : r.Keeps P) (mac : Mac) (ip : Ipv4Addr) : r.Sends P (r.meet now mac ip) := by
  refine .of_arp (each_learn keeps mac ip now) ?_
  intro out mem
  obtain ⟨res, frame, pending, waiting, rfl⟩ := sent_of_meet now mem
  exact keeps ip res pending frame waiting

theorem sends_handleArp (keeps : r.Keeps P) (i : Interface) (f : ArpFrame) :
    r.Sends P (r.handleArp now i f) := by
  unfold handleArp
  split
  · split
    · refine .of_arp keeps ?_
      intro out mem
      obtain ⟨reply, rfl⟩ := sent_of_answer mem
      exact EthernetFrame.carries_arp rfl
    · split
      · exact sends_meet keeps _ _
      · exact .nothing keeps
    · exact .nothing keeps
  · exact .nothing keeps

section
variable (icmp : ∀ p : Ipv4Packet, p.protocol = .icmp → P p)
include icmp

theorem carries_notice {n : Notice} {about : Ipv4Packet} {d : Delivery} (due : r.noticeDelivery? n about = some d)
    (fits : about.Fits) : d.frame.Carries P := by
  obtain ⟨packet, read, carried⟩ := reads_notice due fits
  exact EthernetFrame.carries_of_read read (icmp packet carried.icmp)

theorem carries_regret {given : Resolution} {d : Delivery} (mem : d ∈ r.regrets given) : d.frame.Carries P := by
  obtain ⟨frame, about, read, due⟩ := due_of_regrets mem
  exact carries_notice icmp due (Ipv4Packet.fits_of_ofFrame read)

theorem sends_dispatch {work : List Delivery} (keeps : r.Keeps P) (carry : ∀ d ∈ work, d.frame.Carries P) :
    r.Sends P (r.dispatch now work) := by
  induction r, work using dispatch_induction now with
  | nil r =>
    rw [dispatch_nil]
    exact .nothing keeps
  | known r d rest mac found ih =>
    obtain ⟨first, others⟩ := List.forall_mem_cons.1 carry
    rw [dispatch_known_cons found]
    have sent : r.Sends P (r, [.delivered d mac]) := by
      refine .of_arp keeps ?_
      intro out mem
      obtain rfl := List.mem_singleton.1 mem
      exact first
    exact sent.append (ih keeps others)
  | unknown r d rest missing ih =>
    obtain ⟨first, others⟩ := List.forall_mem_cons.1 carry
    have keeps' := keeps_await now keeps first
    have all : ∀ x ∈ r.notices (r.arp.await d now).2 ++ rest, x.frame.Carries P := by
      intro x mem
      rcases List.mem_append.1 mem with mem | mem
      · obtain ⟨given, -, regret⟩ := List.mem_flatMap.1 mem
        exact carries_regret icmp regret
      · exact others x mem
    have waits : r.Sends P
        ({ r with arp := (r.arp.await d now).1 }, .queued d :: r.outcome (r.arp.await d now).2) := by
      refine .of_arp keeps' ?_
      intro out mem
      obtain ⟨ip, interface, mem⟩ := sent_of_outcome mem
      exact carries_question mem
    rw [dispatch_unknown_cons missing]
    exact waits.append (ih keeps' all)

theorem sends_follow {p : Progress} (keeps : r.Keeps P) : r.Sends P (r.follow now p) := by
  cases p with
  | waiting => exact .nothing keeps
  | asking ip interface => exact .of_arp keeps fun _ mem => carries_question mem
  | abandoned given => exact sends_dispatch icmp keeps fun _ mem => carries_regret icmp mem

theorem sends_followAll {progress : List Progress} (keeps : r.Keeps P) : r.Sends P (r.followAll now progress) := by
  induction progress generalizing r with
  | nil => exact .nothing keeps
  | cons p rest ih =>
    have first : r.Sends P (r.follow now p) := sends_follow icmp keeps
    exact first.append (ih first.keeps)

theorem sends_arpTick (keeps : r.Keeps P) (order : List Ipv4Addr) : r.Sends P (r.arpTick now order) := by
  have ticked : r.Sends P ({ r with arp := r.arp.tick now }, abandonments (r.arp.tickProgress now order)) := by
    refine .of_arp (each_tick keeps ?_) ?_
    · intro res carry _ f mem
      rw [Resolution.waiting_advanced] at mem
      exact carry f mem
    · rw [transmissions_abandonments]
      intro out mem
      cases mem
  exact ticked.append (sends_followAll icmp ticked.keeps)

variable {received : Transmission} {p : Ipv4Packet} {i : Interface}

theorem sends_handlePacket (keeps : r.Keeps P) (read : Ipv4Packet.ofFrame received.frame = .ok p)
    (port : r.interfaces.find? received.interface = some i) (deaf : r.Deaf received p) (onward : 1 < p.ttl → P p.aged) :
    r.Sends P (r.handlePacket now i received.frame.src received.frame.dest p) := by
  have fits := Ipv4Packet.fits_of_ofFrame read
  unfold handlePacket
  cases verdict : r.judge i received.frame.dest p with
  | ignore => exact .nothing keeps
  | rip u =>
    show r.Sends P (r.takeRip now i received.frame.src p u)
    rw [takeRip_of_deaf port (segment_of_judge verdict) deaf]
    exact .nothing keeps
  | notify n about =>
    refine sends_dispatch icmp keeps ?_
    intro d mem
    have due := Option.mem_toList.1 mem
    rcases judge_notify verdict with rfl | rfl
    · exact carries_notice icmp due fits
    · exact carries_notice icmp due fits
  | forward d =>
    refine sends_dispatch icmp keeps ?_
    intro x mem
    obtain rfl := List.mem_singleton.1 mem
    obtain ⟨-, alive, transit⟩ := judge_forward verdict
    obtain ⟨route, egress, -, -, -, rfl⟩ := judgeTransit_forward transit
    exact EthernetFrame.carries_of_read (EthernetFrame.ofFrame_of_payload (p := p.aged) rfl rfl fits) (onward alive)

/-- A frame in which no message of the routing protocol is heard. -/
theorem sends_handle (keeps : r.Keeps P)
    (deaf : ∀ p, Ipv4Packet.ofFrame received.frame = .ok p → r.Deaf received p)
    (onward : ∀ p, Ipv4Packet.ofFrame received.frame = .ok p → 1 < p.ttl → P p.aged) :
    r.Sends P (r.handle now received.interface received.frame) := by
  unfold handle
  cases port : r.interfaces.find? received.interface with
  | none => exact .nothing keeps
  | some i =>
    by_cases arp : received.frame.etherType = etherTypeArp
    · simp only [if_pos arp]
      cases ArpFrame.ofFrame received.frame with
      | error _ => exact .nothing keeps
      | ok f => exact sends_handleArp keeps i f
    · simp only [if_neg arp]
      cases read : Ipv4Packet.ofFrame received.frame with
      | error _ => exact .nothing keeps
      | ok p => exact sends_handlePacket icmp keeps read port (deaf p read) (onward p read)

end

/-- A router that hears nothing in a frame stays as it is but for address resolution. -/
theorem handle_still {received : Transmission}
    (deaf : ∀ p, Ipv4Packet.ofFrame received.frame = .ok p → r.Deaf received p) (now : Nat) :
    r.Sends (fun _ => True) (r.handle now received.interface received.frame) :=
  sends_handle (fun _ _ => trivial) (Keeps.anything r) deaf fun _ _ _ => trivial

theorem follow_still (r : Router) (now : Nat) (p : Progress) : r.Sends (fun _ => True) (r.follow now p) :=
  sends_follow (fun _ _ => trivial) (Keeps.anything r)

theorem arpTick_still (r : Router) (now : Nat) (order : List Ipv4Addr) :
    r.Sends (fun _ => True) (r.arpTick now order) :=
  sends_arpTick (fun _ _ => trivial) (Keeps.anything r) order

/-- In a frame received a message of the routing protocol is heard, or there is none. -/
theorem hears_or_deaf (r : Router) (received : Transmission) :
    (∃ p i u m, Ipv4Packet.ofFrame received.frame = .ok p ∧ r.Hears received p i u m) ∨
      ∀ p, Ipv4Packet.ofFrame received.frame = .ok p → r.Deaf received p := by
  by_cases hears : ∃ p i u m, Ipv4Packet.ofFrame received.frame = .ok p ∧ r.Hears received p i u m
  · exact .inl hears
  · refine .inr ?_
    intro p read i u m heard
    exact hears ⟨p, i, u, m, read, heard⟩

theorem handle_of_hears {received : Transmission} {p : Ipv4Packet} {i : Interface} {u : UdpSegment} {m : RipMessage}
    (read : Ipv4Packet.ofFrame received.frame = .ok p) (hears : r.Hears received p i u m) (now : Nat) :
    r.handle now received.interface received.frame = r.heard now received p i u m := by
  obtain ⟨-, port, segment, -⟩ := hears_iff.1 hears
  rw [handle_of_packet read port, handlePacket, judge, segment]
  exact takeRip_of_hears hears now

end Router

end SoftRouter
