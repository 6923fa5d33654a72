import SoftRouter.Proofs.Dispatch

/-!
# What a router does, step by step

A response to a stimulus is a trace of small steps, and so is a run: a delivery is handed over, a neighbour is
met, resolutions move on at a tick, an address is asked for, or the routing protocol and the answers to questions
leave address resolution alone. `dispatch_trace`, `respond_trace` and `run_trace` say so; what every step keeps a
run keeps (`Trace.keeps`).
-/

namespace SoftRouter

namespace Router

/-- The frame received is accepted for forwarding, as this delivery. -/
def Forwards (r : Router) (received : Transmission) (d : Delivery) : Prop :=
  ∃ i p, r.interfaces.find? received.interface = some i ∧ Ipv4Packet.ofFrame received.frame = .ok p ∧
    r.judge i received.frame.dest p = .forward d

/-- The delivery is one that the router makes: a datagram it forwards or a notice. -/
inductive Hands (r : Router) : Delivery → Prop where
  | forward {received : Transmission} {d : Delivery} (forwards : r.Forwards received d) : Hands r d
  | notice {n : Notice} {about : Ipv4Packet} {d : Delivery} (due : r.noticeDelivery? n about = some d) : Hands r d

theorem hands_arp {r : Router} {d : Delivery} (hands : r.Hands d) (arp : NeighbourCache) :
    ({ r with arp } : Router).Hands d := by
  cases hands with
  | forward forwards => exact .forward forwards
  | notice due => exact .notice due

/-- A notice goes back by the route to the source of what it is about, unless that is the router itself. -/
theorem noticeDelivery?_eq_some_iff {r : Router} {n : Notice} {about : Ipv4Packet} {d : Delivery} :
    r.noticeDelivery? n about = some d ↔ ¬ r.owns about.src ∧
      ∃ (route : RouteEntry) (i : Interface) (packet : Ipv4Packet),
        r.routes.lookup about.src = some route ∧ r.interfaces.find? route.interface = some i ∧
        n.packet? about (if n.isReport then i.ip else about.dest) = some packet ∧
        d = ⟨i.name, route.nextHop about.src, { EthernetFrame.carrying packet with src := i.mac }⟩ := by
  unfold noticeDelivery?
  constructor
  · intro due
    split at due
    · cases due
    · rename_i foreign
      obtain ⟨route, matched, due⟩ := Option.bind_eq_some_iff.1 due
      obtain ⟨i, port, due⟩ := Option.bind_eq_some_iff.1 due
      obtain ⟨packet, said, due⟩ := Option.bind_eq_some_iff.1 due
      cases due
      exact ⟨foreign, route, i, packet, matched, port, said, rfl⟩
  · rintro ⟨foreign, route, i, packet, matched, port, said, rfl⟩
    rw [if_neg foreign, matched]
    simp only [Option.bind_eq_bind, Option.bind_some, port, said]
    rfl

theorem notice_spec {r : Router} {n : Notice} {about : Ipv4Packet} {d : Delivery}
    (due : r.noticeDelivery? n about = some d) :
    ∃ (route : RouteEntry) (i : Interface) (packet : Ipv4Packet), r.interfaces.find? route.interface = some i ∧
      n.packet? about (if n.isReport then i.ip else about.dest) = some packet ∧
      d = ⟨i.name, route.nextHop about.src, { EthernetFrame.carrying packet with src := i.mac }⟩ := by
  obtain ⟨-, route, i, packet, -, port, said, same⟩ := noticeDelivery?_eq_some_iff.1 due
  exact ⟨route, i, packet, port, said, same⟩

theorem read_of_due {frame : EthernetFrame} {notice? : Ipv4Packet → Option Delivery} {d : Delivery}
    (due : (Ipv4Packet.ofFrame frame).toOption.bind notice? = some d) :
    ∃ about, Ipv4Packet.ofFrame frame = .ok about ∧ notice? about = some d := by
  cases read : Ipv4Packet.ofFrame frame with
  | error _ =>
    rw [read] at due
    cases due
  | ok about =>
    rw [read] at due
    exact ⟨about, rfl, due⟩

theorem due_of_regrets {r : Router} {given : Resolution} {d : Delivery} (mem : d ∈ r.regrets given) :
    ∃ frame about, Ipv4Packet.ofFrame frame = .ok about ∧ r.noticeDelivery? .hostUnreachable about = some d := by
  obtain ⟨frame, -, due⟩ := List.mem_filterMap.1 mem
  exact ⟨frame, read_of_due due⟩

theorem hands_regrets {r : Router} {given : Resolution} {d : Delivery} (mem : d ∈ r.regrets given) : r.Hands d := by
  obtain ⟨frame, about, -, due⟩ := due_of_regrets mem
  exact .notice due

theorem handle_of_packet {r : Router} {received : Transmission} {p : Ipv4Packet} {i : Interface}
    (packet : Ipv4Packet.ofFrame received.frame = .ok p) (port : r.interfaces.find? received.interface = some i)
    (now : Nat) : r.handle now received.interface received.frame =
      r.handlePacket now i received.frame.src received.frame.dest p := by
  have other : received.frame.etherType ≠ etherTypeArp := by
    intro arp
    cases (Ipv4Packet.ofFrame_of_arp arp).symm.trans packet
  simp only [handle, port, if_neg other, packet]

/-- A delivery is handed over. -/
inductive Handover (now : Nat) : Router → List Event → Router → Prop where
  | known {r : Router} {d : Delivery} {mac : Mac} (hands : r.Hands d) (found : r.arp.mac? d.nextHop = some mac) :
      Handover now r [.delivered d mac] r
  | unknown {r : Router} {d : Delivery} (hands : r.Hands d) (missing : r.arp.mac? d.nextHop = none) :
      Handover now r (.queued d :: r.outcome (r.arp.await d now).2) { r with arp := (r.arp.await d now).1 }

end Router

/-- The frame tells the interface that `mac` has the address `ip`. -/
structure ArpFrame.Tells (f : ArpFrame) (i : Interface) (mac : Mac) (ip : Ipv4Addr) : Prop where
  ethernetIpv4 : f.isEthernetIpv4
  target : f.targetIp? = some i.ip
  reply : f.op? = some .reply
  senderMac : f.senderMac? = some mac
  senderIp : f.senderIp? = some ip

namespace Router

/-- A step that leaves address resolution alone. -/
inductive Quiet (now : Nat) : Router → List Event → Router → Prop where
  | init {r : Router} : Quiet now r r.init.2 r.init.1
  | ripTick {r : Router} : Quiet now r (r.ripTick now).2 (r.ripTick now).1
  | rip {r : Router} {received : Transmission} {i : Interface} {p : Ipv4Packet} {u : UdpSegment}
      (port : r.interfaces.find? received.interface = some i) (packet : Ipv4Packet.ofFrame received.frame = .ok p)
      (verdict : r.judge i received.frame.dest p = .rip u) :
      Quiet now r (r.takeRip now i received.frame.src p u).2 (r.takeRip now i received.frame.src p u).1
  | answer {r : Router} {i : Interface} {question reply : ArpFrame}
      (answers : question.replyTo? i.mac i.ip = some reply) :
      Quiet now r [.announced ⟨i.name, reply.toFrame⟩] r

/-- A step of a router. -/
inductive Act (now : Nat) : Router → List Event → Router → Prop where
  | handover {r s : Router} {events : List Event} (step : Handover now r events s) : Act now r events s
  | quiet {r s : Router} {events : List Event} (step : Quiet now r events s) : Act now r events s
  | meet {r : Router} {received : Transmission} {i : Interface} {f : ArpFrame} {mac : Mac} {ip : Ipv4Addr}
      (port : r.interfaces.find? received.interface = some i) (read : ArpFrame.ofFrame received.frame = .ok f)
      (tells : f.Tells i mac ip) : Act now r (r.meet now mac ip).2 (r.meet now mac ip).1
  | tick {r : Router} {order : List Ipv4Addr} :
      Act now r (abandonments (r.arp.tickProgress now order)) { r with arp := r.arp.tick now }
  | ask {r : Router} (ip : Ipv4Addr) (interface : String) : Act now r (r.question ip interface) r

/-! ## Traces -/

/-- One step after the other, with all that happened. -/
inductive Trace (Step : Router → List Event → Router → Prop) : Router → List Event → Router → Prop where
  | nil (r : Router) : Trace Step r [] r
  | cons {r s u : Router} {first later : List Event} (step : Step r first s) (rest : Trace Step s later u) :
      Trace Step r (first ++ later) u

namespace Trace

variable {Step Step' : Router → List Event → Router → Prop} {r s u : Router} {events first later : List Event}

theorem single (step : Step r events s) : Trace Step r events s := by
  simpa using Trace.cons step (.nil s)

theorem append (front : Trace Step r first s) (back : Trace Step s later u) : Trace Step r (first ++ later) u := by
  induction front with
  | nil => exact back
  | cons step _ ih =>
    rw [List.append_assoc]
    exact .cons step (ih back)

theorem mono (weaker : ∀ r events s, Step r events s → Step' r events s) (trace : Trace Step r events s) :
    Trace Step' r events s := by
  induction trace with
  | nil r => exact .nil r
  | cons step _ ih => exact .cons (weaker _ _ _ step) ih

/-- What every step keeps, the whole trace keeps. -/
theorem keeps (Inv : List Event → Router → Prop)
    (step : ∀ log r events s, Inv log r → Step r events s → Inv (log ++ events) s) (trace : Trace Step r events s)
    {log : List Event} (start : Inv log r) : Inv (log ++ events) s := by
  induction trace generalizing log with
  | nil => simpa using start
  | cons first _ ih =>
    rw [← List.append_assoc]
    exact ih (step _ _ _ _ start first)

/-- What every step keeps of the state alone, the whole trace keeps. -/
theorem keeps_state (P : Router → Prop) (step : ∀ r events s, P r → Step r events s → P s)
    (trace : Trace Step r events s) (start : P r) : P s := by
  induction trace with
  | nil => exact start
  | cons first _ ih => exact ih (step _ _ _ start first)

end Trace

theorem dispatch_trace {r : Router} {now : Nat} {work : List Delivery} (hands : ∀ d ∈ work, r.Hands d) :
    Trace (Handover now) r (r.dispatch now work).2 (r.dispatch now work).1 := by
  induction r, work using dispatch_induction now with
  | nil r =>
    rw [dispatch_nil]
    exact .nil r
  | known r d rest mac found ih =>
    obtain ⟨first, others⟩ := List.forall_mem_cons.1 hands
    rw [dispatch_known_cons found]
    exact .cons (.known first found) (ih others)
  | unknown r d rest missing ih =>
    obtain ⟨first, others⟩ := List.forall_mem_cons.1 hands
    rw [dispatch_unknown_cons missing]
    refine .cons (.unknown first missing) (ih ?_)
    intro x mem
    rcases List.mem_append.1 mem with mem | mem
    · obtain ⟨given, -, mem⟩ := List.mem_flatMap.1 mem
      exact hands_arp (hands_regrets mem) _
    · exact hands_arp (others x mem) _

theorem follow_trace (r : Router) (now : Nat) (p : Progress) :
    Trace (Act now) r (r.follow now p).2 (r.follow now p).1 := by
  cases p with
  | waiting => exact .nil r
  | asking ip interface => exact .single (.ask ip interface)
  | abandoned given =>
    exact (dispatch_trace fun d mem => hands_regrets mem).mono fun _ _ _ step => .handover step

theorem followAll_trace (r : Router) (now : Nat) (progress : List Progress) :
    Trace (Act now) r (r.followAll now progress).2 (r.followAll now progress).1 := by
  induction progress generalizing r with
  | nil => exact .nil r
  | cons p rest ih => exact (follow_trace r now p).append (ih _)

theorem arpTick_trace (r : Router) (now : Nat) (order : List Ipv4Addr) :
    Trace (Act now) r (r.arpTick now order).2 (r.arpTick now order).1 :=
  .cons .tick (followAll_trace _ now _)

/-- All that a response can be. -/
inductive Response (now : Nat) (r : Router) : List Event → Router → Prop where
  | nothing : Response now r [] r
  | quiet {s : Router} {events : List Event} (step : Quiet now r events s) : Response now r events s
  | meet {received : Transmission} {i : Interface} {f : ArpFrame} {mac : Mac} {ip : Ipv4Addr}
      (port : r.interfaces.find? received.interface = some i) (read : ArpFrame.ofFrame received.frame = .ok f)
      (tells : f.Tells i mac ip) : Response now r (r.meet now mac ip).2 (r.meet now mac ip).1
  | dispatch {work : List Delivery} (hands : ∀ d ∈ work, r.Hands d) :
      Response now r (r.dispatch now work).2 (r.dispatch now work).1
  | tick {order : List Ipv4Addr} : Response now r (r.arpTick now order).2 (r.arpTick now order).1

theorem handlePacket_response {r : Router} {received : Transmission} {i : Interface} {p : Ipv4Packet} (now : Nat)
    (port : r.interfaces.find? received.interface = some i) (packet : Ipv4Packet.ofFrame received.frame = .ok p) :
    Response now r (r.handlePacket now i received.frame.src received.frame.dest p).2
      (r.handlePacket now i received.frame.src received.frame.dest p).1 := by
  unfold handlePacket
  cases verdict : r.judge i received.frame.dest p with
  | ignore => exact .nothing
  | rip segment => exact .quiet (.rip port packet verdict)
  | notify n about => exact .dispatch fun d mem => .notice (Option.mem_toList.1 mem)
  | forward d => exact .dispatch fun x mem => List.mem_singleton.1 mem ▸ .forward ⟨i, p, port, packet, verdict⟩

theorem handleArp_response {r : Router} {received : Transmission} {i : Interface} {f : ArpFrame} (now : Nat)
    (port : r.interfaces.find? received.interface = some i) (read : ArpFrame.ofFrame received.frame = .ok f) :
    Response now r (r.handleArp now i f).2 (r.handleArp now i f).1 := by
  unfold handleArp
  split
  · rename_i asked
    cases op : f.op? with
    | none => exact .nothing
    | some op' =>
      cases op' with
      | request =>
        cases reply : f.replyTo? i.mac i.ip with
        | none => exact .nothing
        | some reply => exact .quiet (.answer ‹_›)
      | reply =>
        cases mac : f.senderMac? with
        | none => exact .nothing
        | some mac =>
          cases ip : f.senderIp? with
          | none => exact .nothing
          | some ip => exact .meet port read ⟨asked.1, asked.2, op, ‹_›, ‹_›⟩
  · exact .nothing

theorem handle_response (r : Router) (now : Nat) (received : Transmission) :
    Response now r (r.handle now received.interface received.frame).2
      (r.handle now received.interface received.frame).1 := by
  unfold handle
  cases port : r.interfaces.find? received.interface with
  | none => exact .nothing
  | some i =>
    dsimp only
    split
    · cases read : ArpFrame.ofFrame received.frame with
      | error _ => exact .nothing
      | ok f => exact handleArp_response now port read
    · cases packet : Ipv4Packet.ofFrame received.frame with
      | error _ => exact .nothing
      | ok p => exact handlePacket_response now port packet

theorem respond_cases (r : Router) (now : Nat) (s : Stimulus) :
    Response now r (r.respond now s).2 (r.respond now s).1 := by
  cases s with
  | init => exact .quiet .init
  | frame received => exact handle_response r now received
  | arpTick => exact .tick
  | ripTick => exact .quiet .ripTick

theorem Response.trace {r s : Router} {now : Nat} {events : List Event} (response : Response now r events s) :
    Trace (Act now) r events s := by
  cases response with
  | nothing => exact .nil r
  | quiet step => exact .single (.quiet step)
  | meet port read tells => exact .single (.meet port read tells)
  | dispatch hands => exact (dispatch_trace hands).mono fun _ _ _ step => .handover step
  | tick => exact arpTick_trace r now _

theorem respond_trace (r : Router) (now : Nat) (s : Stimulus) :
    Trace (Act now) r (r.respond now s).2 (r.respond now s).1 :=
  (respond_cases r now s).trace

/-- A run is a trace of steps at whatever moments. -/
theorem run_trace (r : Router) (xs : List (Nat × Stimulus)) :
    Trace (fun r events s => ∃ now, Act now r events s) r (r.run xs).2 (r.run xs).1 := by
  induction xs generalizing r with
  | nil => exact .nil r
  | cons x xs ih =>
    have first : Trace (fun r events s => ∃ now, Act now r events s) r _ _ :=
      (respond_trace r x.1 x.2).mono fun _ _ _ step => ⟨x.1, step⟩
    exact first.append (ih _)

/-! ## What steps leave alone -/

/-- A table of routes is taken for a router when every route leaves by one of its interfaces. -/
theorem make_eq_ok_iff {interfaces : InterfaceTable} {routes : RouteTable} {r : Router} :
    Router.make interfaces routes = .ok r ↔
      (∀ e ∈ routes.entries, InterfaceTable.contains interfaces e.interface) ∧ r = { interfaces, routes } := by
  rw [Router.make, RouteTable.unknownInterface?]
  cases lacking : routes.entries.find? fun e => !InterfaceTable.contains interfaces e.interface with
  | none =>
    have known : ∀ e ∈ routes.entries, InterfaceTable.contains interfaces e.interface := by
      simpa using List.find?_eq_none.1 lacking
    exact ⟨by rintro ⟨⟩; exact ⟨known, rfl⟩, by rintro ⟨-, rfl⟩; rfl⟩
  | some e =>
    have unknown : ¬ InterfaceTable.contains interfaces e.interface := by simpa using List.find?_some lacking
    exact iff_of_false nofun fun known => unknown (known.1 e (List.mem_of_find?_eq_some lacking))

theorem eq_of_make {interfaces : InterfaceTable} {routes : RouteTable} {r : Router}
    (created : Router.make interfaces routes = .ok r) : r = { interfaces, routes } :=
  (make_eq_ok_iff.1 created).2

/-- A quiet step announces frames of the router's own and nothing else. -/
theorem quiet_spec {r s : Router} {now : Nat} {events : List Event} (step : Quiet now r events s) :
    s.interfaces = r.interfaces ∧ s.arp = r.arp ∧ ∃ sent, events = List.map Event.announced sent := by
  cases step with
  | init => exact ⟨rfl, rfl, _, rfl⟩
  | ripTick => exact ⟨rfl, rfl, _, rfl⟩
  | rip _ _ _ => exact ⟨rfl, rfl, _, rfl⟩
  | @answer i _ reply _ => exact ⟨rfl, rfl, [⟨i.name, reply.toFrame⟩], rfl⟩

theorem question_spec (r : Router) (ip : Ipv4Addr) (interface : String) :
    ∃ sent, r.question ip interface = List.map Event.announced sent := by
  unfold question
  split
  · exact ⟨[_], rfl⟩
  · exact ⟨[], rfl⟩

theorem mem_question_iff {r : Router} {ip : Ipv4Addr} {interface : String} {ev : Event} :
    ev ∈ r.question ip interface ↔ ∃ i, r.interfaces.find? interface = some i ∧
      ev = .announced ⟨i.name, (ArpFrame.request i.mac i.ip ip).toFrame⟩ := by
  unfold question
  cases r.interfaces.find? interface with
  | none => simp
  | some i => simp

theorem act_interfaces {r s : Router} {now : Nat} {events : List Event} (step : Act now r events s) :
    s.interfaces = r.interfaces := by
  cases step with
  | handover step => cases step <;> rfl
  | quiet step => exact (quiet_spec step).1
  | meet _ _ _ => rfl
  | tick => rfl
  | ask _ _ => rfl

theorem run_interfaces (r : Router) (xs : List (Nat × Stimulus)) : (r.run xs).1.interfaces = r.interfaces := by
  refine (run_trace r xs).keeps_state (fun s => s.interfaces = r.interfaces) ?_ rfl
  rintro s events s' same ⟨now, act⟩
  rw [act_interfaces act, same]

/-- What every step keeps of the state and all that happened so far, a run keeps. -/
theorem run_log_keeps (Inv : List Event → Router → Prop)
    (step : ∀ log r events s now, Inv log r → Act now r events s → Inv (log ++ events) s) {r : Router}
    (start : Inv [] r) (xs : List (Nat × Stimulus)) : Inv (r.run xs).2 (r.run xs).1 := by
  refine (run_trace r xs).keeps Inv ?_ start
  intro log r events s inv act
  obtain ⟨now, act⟩ := act
  exact step log r events s now inv act

end Router

end SoftRouter
