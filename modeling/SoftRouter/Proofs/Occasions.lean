import SoftRouter.Proofs.Holding
import SoftRouter.Proofs.Order
import SoftRouter.Proofs.Truncation

/-!
# Occasions for notices

A router has something to say about a datagram when it receives one that it does not pass on, and when it gives up one
that waited (`Router.Calls`); it says so if there is a delivery for it (`Router.Makes`). What a response hands over is
the datagram received as it is passed on, or such a notice (`handed_iff`). So whatever goes out over a run is of the
router's own kind, which is no ICMP, or was passed on, or is a notice that was made on such an occasion
(`origin_of_sent`).
-/

namespace SoftRouter

open Journal

namespace Router

/-- In its response the router has something to say about a datagram: about the one received, or about one that it
gives up. -/
inductive Calls (r : Router) (now : Nat) : Stimulus → Notice → Ipv4Packet → Prop where
  | received {received : Transmission} {n : Notice} {about : Ipv4Packet}
      (verdict : r.verdict? received = some (.notify n about)) : Calls r now (.frame received) n about
  | waited {s : Stimulus} {given : Resolution} {frame : EthernetFrame} {about : Ipv4Packet}
      (ends : .abandoned given ∈ (r.respond now s).2) (mem : frame ∈ given.waiting)
      (read : Ipv4Packet.ofFrame frame = .ok about) : Calls r now s .hostUnreachable about

/-- It has, and there is a delivery for it. -/
structure Makes (r : Router) (now : Nat) (s : Stimulus) (n : Notice) (about : Ipv4Packet) (d : Delivery) : Prop where
  calls : r.Calls now s n about
  due : r.noticeDelivery? n about = some d

variable {r : Router} {now : Nat}

/-- A response hands over the datagram received as it is passed on, or a notice that is made; and every notice that is
made it does. -/
theorem handed_iff {s : Stimulus} {d : Delivery} : (∃ ev ∈ (r.respond now s).2, ev.handed? = some d) ↔
    (∃ received, s = .frame received ∧ r.Forwards received d) ∨ ∃ n about, r.Makes now s n about d := by
  have handed := (handed_respond r now s).mem_iff (a := d)
  rw [List.mem_filterMap, List.mem_append, List.mem_flatMap] at handed
  rw [handed]
  constructor
  · rintro (first | ⟨given, member, regret⟩)
    · cases s with
      | frame received =>
        obtain ⟨v, verdict, mem⟩ := List.mem_flatMap.1 first
        rcases mem_due.1 mem with rfl | ⟨n, about, rfl, due⟩
        · exact .inl ⟨received, rfl, verdict?_eq_some_iff.1 (Option.mem_toList.1 verdict)⟩
        · exact .inr ⟨n, about, .received (Option.mem_toList.1 verdict), due⟩
      | _ => cases first
    · obtain ⟨ev, mem, gives⟩ := List.mem_filterMap.1 member
      obtain ⟨frame, waits, due⟩ := List.mem_filterMap.1 regret
      obtain ⟨about, read, due⟩ := read_of_due due
      have same : ev = .abandoned given := by
        cases ev <;> cases gives
        rfl
      exact .inr ⟨.hostUnreachable, about, .waited (same ▸ mem) waits read, due⟩
  · rintro (⟨received, rfl, forwards⟩ | ⟨n, about, calls, due⟩)
    · have verdict : r.verdict? received = some (.forward d) := verdict?_eq_some_iff.2 forwards
      exact .inl (List.mem_flatMap.2 ⟨.forward d, Option.mem_toList.2 verdict, mem_due.2 (.inl rfl)⟩)
    · cases calls with
      | received verdict =>
        exact .inl (List.mem_flatMap.2 ⟨_, Option.mem_toList.2 verdict, mem_due.2 (.inr ⟨n, about, rfl, due⟩)⟩)
      | @waited _ given frame about ends mem read =>
        refine .inr ⟨given, List.mem_filterMap.2 ⟨_, ends, rfl⟩, List.mem_filterMap.2 ⟨frame, mem, ?_⟩⟩
        rw [read]
        exact due

/-- The frame carries no ICMP message. -/
def NotIcmp (f : EthernetFrame) : Prop := f.Carries fun p => p.protocol ≠ .icmp

theorem notIcmp_of_spoken {out : Transmission} (spoken : RipProcess.Spoken out) : NotIcmp out.frame := by
  obtain ⟨i, destIp, destMac, destPort, m, rfl⟩ := spoken
  intro p read icmp
  have udp := (RipProcess.message_of_transmission read).2.1
  cases icmp.symm.trans udp

theorem notIcmp_announced {sent : List Transmission} (spoken : ∀ t ∈ sent, RipProcess.Spoken t) {out : Transmission}
    (mem : .announced out ∈ sent.map Event.announced) : NotIcmp out.frame := by
  obtain ⟨t, member, same⟩ := List.mem_map.1 mem
  cases same
  exact notIcmp_of_spoken (spoken out member)

theorem notIcmp_quiet {s : Router} {events : List Event} (step : Quiet now r events s) {out : Transmission}
    (mem : .announced out ∈ events) : NotIcmp out.frame := by
  cases step with
  | init => exact notIcmp_announced (fun t member => RipProcess.spoken_of_bootstrap member) mem
  | ripTick => exact notIcmp_announced (fun t member => RipProcess.spoken_of_tick member) mem
  | rip _ _ _ =>
    exact notIcmp_announced (fun t member => RipProcess.spoken_of_receive (Option.mem_toList.1 member)) mem
  | answer _ =>
    cases List.mem_singleton.1 mem
    exact EthernetFrame.carries_arp rfl

theorem notIcmp_question {ip : Ipv4Addr} {interface : String} {out : Transmission}
    (mem : .announced out ∈ r.question ip interface) : NotIcmp out.frame :=
  carries_question (List.mem_filterMap.2 ⟨_, mem, rfl⟩)

theorem notIcmp_act {s : Router} {events : List Event} (step : Act now r events s) {out : Transmission}
    (mem : .announced out ∈ events) : NotIcmp out.frame := by
  cases step with
  | handover step =>
    cases step with
    | known _ _ => cases List.mem_singleton.1 mem
    | @unknown d _ _ =>
      rcases List.mem_cons.1 mem with same | mem
      · cases same
      · cases progress : (r.arp.await d now).2 with
        | waiting =>
          rw [progress] at mem
          cases mem
        | asking ip interface =>
          rw [progress] at mem
          exact notIcmp_question mem
        | abandoned given =>
          rw [progress] at mem
          cases List.mem_singleton.1 mem
  | quiet step => exact notIcmp_quiet step mem
  | meet _ _ _ =>
    obtain ⟨_, -, same⟩ := List.mem_map.1 mem
    cases same
  | tick =>
    obtain ⟨given, same⟩ := abandoned_of_mem mem
    cases same
  | ask ip interface => exact notIcmp_question mem

theorem notIcmp_run (r : Router) (xs : List (Nat × Stimulus)) {out : Transmission}
    (mem : .announced out ∈ (r.run xs).2) : NotIcmp out.frame := by
  refine run_log_keeps (fun log _ => ∀ out, .announced out ∈ log → NotIcmp out.frame) ?_ (by simp) xs out mem
  intro log r events s now before step out mem
  rcases List.mem_append.1 mem with mem | mem
  · exact before out mem
  · exact notIcmp_act step mem

/-- What happens in a run happens in the response to one of its stimuli. -/
theorem respond_of_run {xs : List (Nat × Stimulus)} {ev : Event} (mem : ev ∈ (r.run xs).2) :
    ∃ zs now s ys, xs = zs ++ (now, s) :: ys ∧ ev ∈ ((r.run zs).1.respond now s).2 := by
  induction xs generalizing r with
  | nil => cases mem
  | cons x xs ih =>
    rcases List.mem_append.1 mem with first | later
    · exact ⟨[], x.1, x.2, xs, rfl, first⟩
    · obtain ⟨zs, now, s, ys, rfl, there⟩ := ih later
      exact ⟨x :: zs, now, s, ys, rfl, there⟩

/-- What goes out over a run was announced, or is a frame handed over but for the address of the next hop. -/
theorem handed_of_sent {interfaces : InterfaceTable} {routes : RouteTable}
    (created : Router.make interfaces routes = .ok r) {xs : List (Nat × Stimulus)} {out : Transmission}
    (sent : out ∈ transmissions (r.run xs).2) : .announced out ∈ (r.run xs).2 ∨
      ∃ ev ∈ (r.run xs).2, ∃ d, ev.handed? = some d ∧ out.frame = { d.frame with dest := out.frame.dest } := by
  rcases List.mem_append.1 ((transmissions_perm created xs).mem_iff.1 sent) with mem | mem
  · obtain ⟨ev, member, same⟩ := List.mem_filterMap.1 mem
    cases ev <;> cases same
    exact .inl member
  · obtain ⟨e, member, gone⟩ := List.mem_filterMap.1 mem
    obtain ⟨k, found⟩ := List.getElem?_of_mem member
    have fate : e.fate = .sent out := by
      unfold Entry.sent? at gone
      split at gone
      · cases gone
        assumption
      · cases gone
    obtain ⟨-, mac, same⟩ := sent_spec created found fate
    have handed : e.delivery ∈ (r.run xs).2.filterMap Event.handed? := by
      have deliveries := map_delivery_record [] (r.run xs).2
      rw [List.map_nil, List.nil_append] at deliveries
      exact deliveries ▸ List.mem_map_of_mem member
    obtain ⟨ev, there, hands⟩ := List.mem_filterMap.1 handed
    exact .inr ⟨ev, there, e.delivery, hands, by rw [same]⟩

/-- The frame goes out as a datagram that was received and passed on. -/
def PassesOn (r : Router) (xs : List (Nat × Stimulus)) (f : EthernetFrame) : Prop :=
  ∃ zs now received ys d, xs = zs ++ (now, .frame received) :: ys ∧ (r.run zs).1.Forwards received d ∧
    f = { d.frame with dest := f.dest }

/-- The frame goes out as a notice made about a datagram. -/
def Tells (r : Router) (xs : List (Nat × Stimulus)) (f : EthernetFrame) (n : Notice) (about : Ipv4Packet) : Prop :=
  ∃ zs now s ys d, xs = zs ++ (now, s) :: ys ∧ (r.run zs).1.Makes now s n about d ∧ f = { d.frame with dest := f.dest }

/-- An ICMP message that goes out over a run was received and passed on, or it is a notice. -/
theorem origin_of_sent {interfaces : InterfaceTable} {routes : RouteTable}
    (created : Router.make interfaces routes = .ok r) {xs : List (Nat × Stimulus)} {out : Transmission}
    (sent : out ∈ transmissions (r.run xs).2) {packet : Ipv4Packet} (read : Ipv4Packet.ofFrame out.frame = .ok packet)
    (icmp : packet.protocol = .icmp) : r.PassesOn xs out.frame ∨ ∃ n about, r.Tells xs out.frame n about := by
  rcases handed_of_sent created sent with own | ⟨ev, mem, d, hands, same⟩
  · exact absurd icmp (notIcmp_run r xs own packet read)
  · obtain ⟨zs, now, s, ys, split, there⟩ := respond_of_run mem
    rcases handed_iff.1 ⟨ev, there, hands⟩ with ⟨received, rfl, forwards⟩ | ⟨n, about, makes⟩
    · exact .inl ⟨zs, now, received, ys, d, split, forwards, same⟩
    · exact .inr ⟨n, about, zs, now, s, ys, d, split, makes, same⟩

end Router

end SoftRouter
