import SoftRouter.Proofs.Telling

/-!
# What a router holds can be sent

Interfaces are known to routes and to questions under way by their names alone, and a frame that waits is looked into
again only when its next hop is given up. So it matters that the names stay names of interfaces and that the frames
stay frames around packets: `Sound` is what a router holds to, and no response loses it or sends by an interface that
is not there (`respond_stays`, `run_stays`). Notices come of frames that were given up and may wait themselves, so the
deliveries that are left to do are part of the argument (`stays_dispatch`).
-/

namespace SoftRouter

open NeighbourCache

/-- The frame is around a packet with a valid header and a hop to live. -/
def EthernetFrame.Live (f : EthernetFrame) : Prop := ∃ p, Ipv4Packet.ofFrame f = .ok p ∧ p.isValid ∧ 1 ≤ p.ttl

/-- The delivery leaves by an interface there is and carries a live packet. -/
structure Delivery.Sound (ports : InterfaceTable) (d : Delivery) : Prop where
  port : InterfaceTable.contains ports d.interface
  live : d.frame.Live

/-- The address is asked for on an interface there is, and live packets wait for it. -/
structure Resolution.Sound (ports : InterfaceTable) (res : Resolution) : Prop where
  port : InterfaceTable.contains ports res.interface
  live : ∀ f ∈ res.waiting, f.Live

/-- What becomes of a resolution is asked for on an interface there is, or is sound as it is given up. -/
def Progress.Sound (ports : InterfaceTable) : Progress → Prop
  | .waiting => True
  | .asking _ interface => InterfaceTable.contains ports interface
  | .abandoned given => given.Sound ports

namespace InterfaceTable

variable {ports : InterfaceTable} {name : String} {i : Interface}

theorem contains_of_find? (port : ports.find? name = some i) : contains ports name := by
  rw [contains, port]
  rfl

theorem contains_of_mem (mem : i ∈ ports.toList) : contains ports i.name :=
  contains_of_find? (Keyed.find?_eq_some_of_mem mem)

theorem contains_name (port : ports.find? name = some i) : contains ports i.name :=
  contains_of_mem (Keyed.mem_of_find? port)

theorem exists_of_contains (known : contains ports name) : ∃ i, ports.find? name = some i :=
  Option.isSome_iff_exists.1 known

end InterfaceTable

namespace EthernetFrame

theorem live_of_payload {f : EthernetFrame} {p : Ipv4Packet} (type : f.etherType = etherTypeIpv4)
    (payload : f.payload = p.encode) (fits : p.Fits) (valid : p.isValid) (alive : 1 ≤ p.ttl) : f.Live :=
  ⟨p, ofFrame_of_payload type payload fits, valid, alive⟩

end EthernetFrame

theorem Notice.isValid_packet {n : Notice} {about packet : Ipv4Packet} {src : Ipv4Addr}
    (due : n.packet? about src = some packet) : packet.isValid := by
  obtain ⟨body, -, rfl⟩ := Option.map_eq_some_iff.1 due
  exact Ipv4Packet.isValid_checksummed _

namespace Router

/-- Every route leaves by one of the router's interfaces, and so does all that waits. -/
structure Sound (r : Router) : Prop where
  routes : ∀ e ∈ r.routes.entries, InterfaceTable.contains r.interfaces e.interface
  pending : r.arp.Each (Resolution.Sound r.interfaces)

/-- The router stays sound, and it sends by its interfaces, which stay the same. -/
structure Stays (r : Router) (done : Router × List Event) : Prop where
  sound : done.1.Sound
  sent : ∀ out ∈ transmissions done.2, InterfaceTable.contains r.interfaces out.interface
  interfaces : done.1.interfaces = r.interfaces

variable {r : Router} {now : Nat}

theorem sound_of_make {interfaces : InterfaceTable} {routes : RouteTable}
    (created : Router.make interfaces routes = .ok r) : r.Sound := by
  have known := (make_eq_ok_iff.1 created).1
  cases eq_of_make created
  refine ⟨known, ?_⟩
  intro ip res pending
  cases pending

namespace Stays

theorem nothing (sound : r.Sound) : r.Stays (r, []) where
  sound := sound
  sent _ mem := by cases mem
  interfaces := rfl

theorem append {s u : Router} {first later : List Event} (front : r.Stays (s, first))
    (back : s.Stays (u, later)) : r.Stays (u, first ++ later) where
  sound := back.sound
  sent out mem := by
    rw [transmissions_append] at mem
    rcases List.mem_append.1 mem with mem | mem
    · exact front.sent out mem
    · exact front.interfaces ▸ back.sent out mem
  interfaces := back.interfaces.trans front.interfaces

/-- Address resolution goes on. -/
theorem of_arp (sound : r.Sound) {arp : NeighbourCache} (pending : arp.Each (Resolution.Sound r.interfaces))
    {events : List Event} (sent : ∀ out ∈ transmissions events, InterfaceTable.contains r.interfaces out.interface) :
    r.Stays ({ r with arp }, events) where
  sound := ⟨sound.routes, pending⟩
  sent := sent
  interfaces := rfl

/-- The routing protocol goes on. -/
theorem of_rip (sound : r.Sound) {rip : RipState} {routes : RouteTable} {sent : List Transmission}
    (known : ∀ e ∈ routes.entries, InterfaceTable.contains r.interfaces e.interface)
    (ports : ∀ out ∈ sent, InterfaceTable.contains r.interfaces out.interface) :
    r.Stays ({ r with rip, routes }, sent.map .announced) where
  sound := ⟨known, sound.pending⟩
  sent := by rwa [transmissions_announced]
  interfaces := rfl

end Stays

theorem sound_notice {n : Notice} {about : Ipv4Packet} {d : Delivery} (due : r.noticeDelivery? n about = some d)
    (fits : about.Fits) : d.Sound r.interfaces := by
  obtain ⟨route, i, packet, port, said, rfl⟩ := notice_spec due
  have carried := Notice.carried_packet said fits
  constructor
  · exact InterfaceTable.contains_name port
  · exact EthernetFrame.live_of_payload rfl rfl carried.fits (Notice.isValid_packet said) (carried.ttl ▸ by decide)

theorem sound_regret {given : Resolution} {d : Delivery} (mem : d ∈ r.regrets given) : d.Sound r.interfaces := by
  obtain ⟨frame, about, read, due⟩ := due_of_regrets mem
  exact sound_notice due (Ipv4Packet.fits_of_ofFrame read)

/-- A packet is passed on with a hop to live, since it came with more than one. -/
theorem sound_forward {i : Interface} {f : EthernetFrame} {p : Ipv4Packet} {d : Delivery}
    (read : Ipv4Packet.ofFrame f = .ok p) (verdict : r.judge i f.dest p = .forward d) : d.Sound r.interfaces := by
  obtain ⟨-, alive, transit⟩ := judge_forward verdict
  obtain ⟨route, egress, -, -, port, rfl⟩ := judgeTransit_forward transit
  have fits : p.Fits := Ipv4Packet.fits_of_ofFrame read
  have left : 1 ≤ p.aged.ttl := by
    have hops : 1 < p.ttl.toNat := UInt8.lt_iff_toNat_lt.1 alive
    rw [UInt8.le_iff_toNat_le, Ipv4Packet.toNat_ttl_aged alive]
    exact Nat.le_sub_of_add_le hops
  constructor
  · exact InterfaceTable.contains_name port
  · exact EthernetFrame.live_of_payload (p := p.aged) rfl rfl fits p.isValid_aged left

theorem sound_joined (sound : r.Sound) {d : Delivery} (ready : d.Sound r.interfaces) :
    (r.arp.joined d).Sound r.interfaces := by
  rcases r.arp.joined_cases d with ⟨-, fresh⟩ | ⟨res, pending, joins⟩
  · rw [fresh]
    refine ⟨ready.port, ?_⟩
    intro f mem
    exact List.mem_singleton.1 mem ▸ ready.live
  · have old := sound.pending _ res pending
    rw [joins]
    refine ⟨old.port, ?_⟩
    intro f mem
    rcases List.mem_append.1 mem with mem | mem
    · exact old.live f mem
    · exact List.mem_singleton.1 mem ▸ ready.live

theorem sound_advanced {ports : InterfaceTable} {res : Resolution} (sound : res.Sound ports) (now : Nat) :
    (res.advanced now).Sound ports where
  port := res.interface_advanced now ▸ sound.port
  live := res.waiting_advanced now ▸ sound.live

theorem sound_await (sound : r.Sound) {d : Delivery} (ready : d.Sound r.interfaces) (now : Nat) :
    (r.arp.await d now).1.Each (Resolution.Sound r.interfaces) :=
  each_await sound.pending fun _ => sound_advanced (sound_joined sound ready) now

theorem sound_outcome (sound : r.Sound) {d : Delivery} (ready : d.Sound r.interfaces) (now : Nat) :
    (r.arp.await d now).2.Sound r.interfaces := by
  have joined := sound_joined sound ready
  rw [r.arp.await_outcome d now]
  cases (r.arp.joined d).need now with
  | patience => trivial
  | question => exact joined.port
  | surrender => exact joined

theorem sound_tickProgress (sound : r.Sound) (now : Nat) (order : List Ipv4Addr) :
    ∀ p ∈ r.arp.tickProgress now order, p.Sound r.interfaces := by
  intro p mem
  cases p with
  | waiting => trivial
  | asking ip interface =>
    obtain ⟨res, pending, rfl, -⟩ := due_of_asking mem
    exact (sound.pending ip res pending).port
  | abandoned given => exact sound.pending given.ip given (overdue_of_abandoned mem).1

theorem sound_notices {p : Progress} : ∀ d ∈ r.notices p, d.Sound r.interfaces := by
  intro d mem
  obtain ⟨given, -, regret⟩ := List.mem_flatMap.1 mem
  exact sound_regret regret

theorem known_question {ip : Ipv4Addr} {interface : String} {out : Transmission}
    (mem : out ∈ transmissions (r.question ip interface)) : InterfaceTable.contains r.interfaces out.interface := by
  obtain ⟨i, port, rfl⟩ := sent_of_question mem
  exact InterfaceTable.contains_name port

theorem stays_dispatch {work : List Delivery} (sound : r.Sound) (ready : ∀ d ∈ work, d.Sound r.interfaces) :
    r.Stays (r.dispatch now work) := by
  induction r, work using dispatch_induction now with
  | nil r =>
    rw [dispatch_nil]
    exact .nothing sound
  | known r d rest mac found ih =>
    obtain ⟨first, others⟩ := List.forall_mem_cons.1 ready
    rw [dispatch_known_cons found]
    have sent : r.Stays (r, [.delivered d mac]) := by
      refine .of_arp sound sound.pending ?_
      intro out mem
      obtain rfl := List.mem_singleton.1 mem
      exact first.port
    exact sent.append (ih sound others)
  | unknown r d rest missing ih =>
    obtain ⟨first, others⟩ := List.forall_mem_cons.1 ready
    have waits : r.Stays
        ({ r with arp := (r.arp.await d now).1 }, .queued d :: r.outcome (r.arp.await d now).2) := by
      refine .of_arp sound (sound_await sound first now) ?_
      intro out mem
      obtain ⟨ip, interface, mem⟩ := sent_of_outcome mem
      exact known_question mem
    -- Notices about what is given up join the work that is left, so they have to be sound as well.
    rw [dispatch_unknown_cons missing]
    refine waits.append (ih waits.sound ?_)
    intro x mem
    rcases List.mem_append.1 mem with mem | mem
    · exact sound_notices x mem
    · exact others x mem

theorem stays_follow (sound : r.Sound) (p : Progress) : r.Stays (r.follow now p) := by
  cases p with
  | waiting => exact .nothing sound
  | asking ip interface => exact .of_arp sound sound.pending fun _ mem => known_question mem
  | abandoned given => exact stays_dispatch sound fun _ mem => sound_regret mem

theorem stays_followAll (sound : r.Sound) (progress : List Progress) : r.Stays (r.followAll now progress) := by
  induction progress generalizing r with
  | nil => exact .nothing sound
  | cons p rest ih =>
    have first : r.Stays (r.follow now p) := stays_follow sound p
    exact first.append (ih first.sound)

theorem stays_tick (sound : r.Sound) (now : Nat) (order : List Ipv4Addr) :
    r.Stays ({ r with arp := r.arp.tick now }, abandonments (r.arp.tickProgress now order)) := by
  refine .of_arp sound (each_tick sound.pending fun res held _ => sound_advanced held now) ?_
  rw [transmissions_abandonments]
  intro out mem
  cases mem

theorem stays_arpTick (sound : r.Sound) (order : List Ipv4Addr) : r.Stays (r.arpTick now order) := by
  have ticked := stays_tick sound now order
  exact ticked.append (stays_followAll ticked.sound _)

theorem known_toGroup {ports : InterfaceTable} {m : RipMessage} {out : Transmission}
    (mem : out ∈ RipProcess.toGroup ports m) : InterfaceTable.contains ports out.interface := by
  obtain ⟨i, member, rfl⟩ := List.mem_map.1 mem
  exact InterfaceTable.contains_of_mem member

theorem stays_init (sound : r.Sound) : r.Stays r.init := by
  unfold init RipProcess.bootstrap
  by_cases may : RipProcess.canBootstrap r.rip r.routes
  · rw [if_pos may]
    refine .of_rip sound ?_ fun out mem => known_toGroup mem
    intro e mem
    obtain ⟨i, member, rfl⟩ := List.mem_map.1 mem
    exact InterfaceTable.contains_of_mem member
  · rw [if_neg may]
    exact .of_rip sound sound.routes (by simp)

theorem stays_ripTick (sound : r.Sound) : r.Stays (r.ripTick now) := by
  unfold ripTick RipProcess.tick
  by_cases running : r.rip = .running
  · rw [if_pos running]
    refine .of_rip sound ?_ fun out mem => known_toGroup mem
    intro e mem
    exact sound.routes e (List.mem_filter.1 mem).1
  · rw [if_neg running]
    exact .of_rip sound sound.routes (by simp)

theorem stays_takeRip (sound : r.Sound) {name : String} {i : Interface} (port : r.interfaces.find? name = some i)
    (src : Mac) (p : Ipv4Packet) (u : UdpSegment) : r.Stays (r.takeRip now i src p u) := by
  unfold takeRip RipProcess.receive
  by_cases running : r.rip = .running
  · rw [if_pos running]
    cases message : RipProcess.message? u with
    | none => exact .of_rip sound sound.routes (by simp)
    | some m =>
      cases command : m.command with
      | request =>
        simp only [RipProcess.take, command]
        refine .of_rip sound sound.routes ?_
        intro out mem
        obtain rfl := List.mem_singleton.1 mem
        exact InterfaceTable.contains_name port
      | response =>
        simp only [RipProcess.take, command]
        refine .of_rip sound ?_ (by simp)
        intro e mem
        rcases RipProcess.mem_foldl_learnEntry mem with old | ⟨out, -⟩
        · exact sound.routes e old
        · exact out ▸ InterfaceTable.contains_name port
  · rw [if_neg running]
    exact .of_rip sound sound.routes (by simp)

/-! ## Frames received -/

theorem stays_meet (sound : r.Sound) (mac : Mac) (ip : Ipv4Addr) : r.Stays (r.meet now mac ip) := by
  refine .of_arp sound (each_learn sound.pending mac ip now) ?_
  intro out mem
  obtain ⟨res, frame, pending, -, rfl⟩ := sent_of_meet now mem
  exact (sound.pending ip res pending).port

theorem stays_handleArp (sound : r.Sound) {name : String} {i : Interface} (port : r.interfaces.find? name = some i)
    (f : ArpFrame) : r.Stays (r.handleArp now i f) := by
  unfold handleArp
  split
  · split
    · refine .of_arp sound sound.pending ?_
      intro out mem
      obtain ⟨reply, rfl⟩ := sent_of_answer mem
      exact InterfaceTable.contains_name port
    · split
      · exact stays_meet sound _ _
      · exact .nothing sound
    · exact .nothing sound
  · exact .nothing sound

theorem stays_handlePacket (sound : r.Sound) {name : String} {i : Interface} {f : EthernetFrame} {p : Ipv4Packet}
    (port : r.interfaces.find? name = some i) (read : Ipv4Packet.ofFrame f = .ok p) :
    r.Stays (r.handlePacket now i f.src f.dest p) := by
  have fits := Ipv4Packet.fits_of_ofFrame read
  unfold handlePacket
  cases verdict : r.judge i f.dest p with
  | ignore => exact .nothing sound
  | rip u => exact stays_takeRip sound port f.src p u
  | notify n about =>
    refine stays_dispatch sound ?_
    intro d mem
    have due := Option.mem_toList.1 mem
    rcases judge_notify verdict with rfl | rfl
    · exact sound_notice due fits
    · exact sound_notice due fits
  | forward d =>
    refine stays_dispatch sound ?_
    intro x mem
    exact List.mem_singleton.1 mem ▸ sound_forward read verdict

theorem stays_handle (sound : r.Sound) (received : Transmission) :
    r.Stays (r.handle now received.interface received.frame) := by
  unfold handle
  cases port : r.interfaces.find? received.interface with
  | none => exact .nothing sound
  | some i =>
    by_cases arp : received.frame.etherType = etherTypeArp
    · simp only [if_pos arp]
      cases ArpFrame.ofFrame received.frame with
      | error _ => exact .nothing sound
      | ok f => exact stays_handleArp sound port f
    · simp only [if_neg arp]
      cases read : Ipv4Packet.ofFrame received.frame with
      | error _ => exact .nothing sound
      | ok p => exact stays_handlePacket sound port read

theorem respond_stays (sound : r.Sound) (now : Nat) (s : Stimulus) : r.Stays (r.respond now s) := by
  cases s with
  | init => exact stays_init sound
  | frame received => exact stays_handle sound received
  | arpTick order => exact stays_arpTick sound order
  | ripTick => exact stays_ripTick sound

theorem run_stays (sound : r.Sound) (xs : List (Nat × Stimulus)) : r.Stays (r.run xs) := by
  induction xs generalizing r with
  | nil => exact .nothing sound
  | cons x xs ih =>
    have first := respond_stays sound x.1 x.2
    exact first.append (ih first.sound)

end Router

end SoftRouter
