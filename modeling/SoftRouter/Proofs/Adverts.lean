import SoftRouter.Proofs.Advertisement
import SoftRouter.Proofs.Learning
import SoftRouter.Proofs.Relaying

/-!
# What is advertised to a router

Every record of the family of IPv4 in a response that arrives is an advertisement, and what a running router makes of a
whole run is what its table makes of the advertisements and of the times of its own ticks, one after the other
(`run_tidings`).
-/

namespace SoftRouter

theorem UdpSegment.protocol_of_ofPacket {p : Ipv4Packet} {u : UdpSegment} (read : ofPacket p = .ok u) :
    p.protocol = .udp := by
  unfold ofPacket at read
  split at read
  · cases read
  · split at read
    · cases read
    · rename_i udp
      exact Decidable.not_not.1 udp

/-- A response that arrived: on which interface, from whom, and what it says. -/
structure RipResponse where
  interface : Interface
  source : Ipv4Addr
  records : List RipRecord
  deriving DecidableEq, Repr

namespace RipResponse

/-- The records of a response: behind the command and three more bytes there are records and nothing else. -/
def records? : Bytes → Option (List RipRecord)
  | code :: _ :: _ :: _ :: rest => if code = RipCommand.response.code then RipRecord.readAll rest else none
  | _ => none

theorem records?_eq_some_iff {bytes : Bytes} {xs : List RipRecord} : records? bytes = some xs ↔
    ∃ version z1 z0, bytes = [2, version, z1, z0] ++ xs.flatMap RipRecord.encode := by
  constructor
  · intro read
    unfold records? at read
    split at read
    · rename_i code version z1 z0 rest
      split at read
      · rename_i response
        exact ⟨version, z1, z0, by rw [response, RipRecord.readAll_eq_some_iff.1 read]; rfl⟩
      · cases read
    · cases read
  · rintro ⟨version, z1, z0, rfl⟩
    exact RipRecord.readAll_flatMap xs

/-- The entries that a router reads from bytes as a response. -/
theorem decode_eq_response_iff {bytes : Bytes} {entries : List RipEntry} :
    RipMessage.decode bytes = .ok ⟨.response, entries⟩ ↔
      ∃ xs, records? bytes = some xs ∧ (xs.filter RipRecord.isIpv4).map RipRecord.entry = entries := by
  rw [RipMessage.decode_eq_ok_iff]
  constructor
  · rintro ⟨version, z1, z0, xs, said, same⟩
    exact ⟨xs, records?_eq_some_iff.2 ⟨version, z1, z0, said⟩, same⟩
  · rintro ⟨xs, said, same⟩
    obtain ⟨version, z1, z0, said⟩ := records?_eq_some_iff.1 said
    exact ⟨version, z1, z0, xs, said, same⟩

/-- The response is what the frame received holds: a datagram to the group or to the interface itself. -/
structure In (x : RipResponse) (interfaces : InterfaceTable) (received : Transmission) (p : Ipv4Packet)
    (u : UdpSegment) (payload : Bytes) : Prop where
  port : interfaces.find? received.interface = some x.interface
  packet : Ipv4Packet.ofFrame received.frame = .ok p
  segment : UdpSegment.ofPacket p = .ok u
  there : u.payload? = some payload
  said : records? payload = some x.records
  source : p.src = x.source
  dest : p.dest = ripGroup ∨ p.dest = x.interface.ip
  destPort : u.destPort = ripPort

/-- The response in a frame received. -/
def of? (interfaces : InterfaceTable) (received : Transmission) : Option RipResponse := do
  let i ← interfaces.find? received.interface
  let p ← (Ipv4Packet.ofFrame received.frame).toOption
  let u ← (UdpSegment.ofPacket p).toOption
  let payload ← u.payload?
  let records ← records? payload
  if (p.dest = ripGroup ∨ p.dest = i.ip) ∧ u.destPort = ripPort then some ⟨i, p.src, records⟩ else none

theorem of?_eq_some_iff {interfaces : InterfaceTable} {received : Transmission} {x : RipResponse} :
    of? interfaces received = some x ↔ ∃ p u payload, x.In interfaces received p u payload := by
  constructor
  · intro found
    obtain ⟨i, port, found⟩ := Option.bind_eq_some_iff.1 found
    obtain ⟨p, packet, found⟩ := Option.bind_eq_some_iff.1 found
    obtain ⟨u, segment, found⟩ := Option.bind_eq_some_iff.1 found
    obtain ⟨payload, there, found⟩ := Option.bind_eq_some_iff.1 found
    obtain ⟨records, said, found⟩ := Option.bind_eq_some_iff.1 found
    split at found
    · rename_i meant
      cases found
      exact ⟨p, u, payload, port, toOption_eq_some_iff.1 packet, toOption_eq_some_iff.1 segment, there, said, rfl,
        meant.1, meant.2⟩
    · cases found
  · rintro ⟨p, u, payload, port, packet, segment, there, said, source, dest, destPort⟩
    obtain ⟨i, src, records⟩ := x
    cases source
    refine Option.bind_eq_some_iff.2 ⟨i, port, ?_⟩
    refine Option.bind_eq_some_iff.2 ⟨p, toOption_eq_some_iff.2 packet, ?_⟩
    refine Option.bind_eq_some_iff.2 ⟨u, toOption_eq_some_iff.2 segment, ?_⟩
    refine Option.bind_eq_some_iff.2 ⟨payload, there, ?_⟩
    refine Option.bind_eq_some_iff.2 ⟨records, said, ?_⟩
    rw [if_pos ⟨dest, destPort⟩]

end RipResponse

/-- A record of a response, with the moment it arrived at, on which interface and from whom. -/
structure Advert where
  time : Nat
  interface : Interface
  source : Ipv4Addr
  record : RipRecord
  deriving DecidableEq, Repr

namespace Advert

/-- The network that is advertised. -/
def network (a : Advert) : Ipv4Addr × Ipv4Addr := (a.record.network.masked a.record.mask, a.record.mask)

/-- The route that an advertisement gives: to its network, by way of its source, one further than it says. -/
def route (a : Advert) : RouteEntry :=
  { destination := a.network.1, mask := a.network.2, gateway := a.source, interface := a.interface.name,
    metric := min (a.record.metric.toNat + 1) 16, learnedAt := some a.time }

theorem route_eq (a : Advert) : a.route = a.record.entry.route a.interface a.source a.time := by
  have metric : min (a.record.metric.toNat + 1) 16 = min (min a.record.metric.toNat 16 + 1) 16 := by omega
  rw [route, metric]
  rfl

theorem masked_route (a : Advert) : a.route.destination.masked a.route.mask = a.route.destination :=
  Ipv4Addr.masked_masked _ _

end Advert

/-- The advertisements of a response, in its order. -/
def RipResponse.adverts (x : RipResponse) (now : Nat) : List Advert :=
  (x.records.filter RipRecord.isIpv4).map fun record => ⟨now, x.interface, x.source, record⟩

/-- What a table is told of. -/
inductive Tiding where
  /-- A network is advertised. -/
  | advert (a : Advert)
  /-- Time has passed: it is so late. -/
  | sweep (now : Nat)

/-- What a table does about a tiding. -/
def RouteTable.note (t : RouteTable) : Tiding → RouteTable
  | .advert a => t.hear a.route
  | .sweep now => t.expire now ripTimeout

/-- What a table is told by a response. -/
def RipResponse.tidings (x : RipResponse) (now : Nat) : List Tiding := (x.adverts now).map .advert

/-- What a router with these interfaces tells its table about a stimulus. -/
def Stimulus.tidings (interfaces : InterfaceTable) (now : Nat) : Stimulus → List Tiding
  | .init => []
  | .frame received => (RipResponse.of? interfaces received).toList.flatMap (·.tidings now)
  | .arpTick _ => []
  | .ripTick => [.sweep now]

/-- What a router with these interfaces tells its table in the course of a run. -/
def tidings (interfaces : InterfaceTable) (xs : List (Nat × Stimulus)) : List Tiding :=
  xs.flatMap fun x => x.2.tidings interfaces x.1

theorem tidings_append (interfaces : InterfaceTable) (xs ys : List (Nat × Stimulus)) :
    tidings interfaces (xs ++ ys) = tidings interfaces xs ++ tidings interfaces ys := List.flatMap_append

theorem foldl_note_tidings (x : RipResponse) (now : Nat) (t : RouteTable) :
    (x.tidings now).foldl RouteTable.note t =
      ((x.records.filter RipRecord.isIpv4).map RipRecord.entry).foldl
        (RipProcess.learnEntry x.interface x.source now) t := by
  rw [RipResponse.tidings, RipResponse.adverts]
  generalize x.records.filter RipRecord.isIpv4 = records
  induction records generalizing t with
  | nil => rfl
  | cons record rest ih =>
    rw [List.map_cons, List.map_cons, List.map_cons, List.foldl_cons, List.foldl_cons, ih, RouteTable.note,
      Advert.route_eq, RouteTable.learnEntry_eq_hear]

/-! ## Running routers -/

namespace Router

variable {r : Router} {received : Transmission}

/-- A running router hears every response that arrives. -/
theorem hears_of_response (running : r.rip = .running) {x : RipResponse}
    (arrived : RipResponse.of? r.interfaces received = some x) :
    ∃ p u, Ipv4Packet.ofFrame received.frame = .ok p ∧ p.src = x.source ∧ r.Hears received p x.interface u
      ⟨.response, (x.records.filter RipRecord.isIpv4).map RipRecord.entry⟩ := by
  obtain ⟨p, u, payload, held⟩ := RipResponse.of?_eq_some_iff.1 arrived
  exact ⟨p, u, held.packet, held.source,
    { running
      port := held.port
      protocol := UdpSegment.protocol_of_ofPacket held.segment
      dest := held.dest
      segment := held.segment
      destPort := held.destPort
      message := ⟨payload, held.there, RipResponse.decode_eq_response_iff.2 ⟨_, held.said, rfl⟩⟩ }⟩

/-- A response that is heard has arrived. -/
theorem response_of_hears {p : Ipv4Packet} {i : Interface} {u : UdpSegment} {entries : List RipEntry}
    (read : Ipv4Packet.ofFrame received.frame = .ok p) (hears : r.Hears received p i u ⟨.response, entries⟩) :
    ∃ records, RipResponse.of? r.interfaces received = some ⟨i, p.src, records⟩ ∧
      (records.filter RipRecord.isIpv4).map RipRecord.entry = entries := by
  obtain ⟨payload, there, decoded⟩ := hears.message
  obtain ⟨records, said, rfl⟩ := RipResponse.decode_eq_response_iff.1 decoded
  refine ⟨records, RipResponse.of?_eq_some_iff.2 ⟨p, u, payload, ?_⟩, rfl⟩
  exact ⟨hears.port, read, hears.segment, there, said, rfl, hears.dest, hears.destPort⟩

/-- A response that arrives is taken into the table, and nothing else is done about it. -/
theorem handle_of_response (running : r.rip = .running) {x : RipResponse}
    (arrived : RipResponse.of? r.interfaces received = some x) (now : Nat) :
    r.handle now received.interface received.frame =
      ({ r with routes := (x.tidings now).foldl RouteTable.note r.routes }, []) := by
  obtain ⟨p, u, read, source, hears⟩ := hears_of_response running arrived
  rw [handle_of_hears read hears now, heard, foldl_note_tidings, source]

theorem handle_tidings (running : r.rip = .running) (now : Nat) :
    (r.handle now received.interface received.frame).1.rip = .running ∧
      (r.handle now received.interface received.frame).1.routes =
        ((Stimulus.frame received).tidings r.interfaces now).foldl RouteTable.note r.routes := by
  rw [Stimulus.tidings]
  cases arrived : RipResponse.of? r.interfaces received with
  | some x =>
    rw [handle_of_response running arrived now, Option.toList_some, List.flatMap_singleton]
    exact ⟨running, rfl⟩
  | none =>
    rcases hears_or_deaf r received with ⟨p, i, u, ⟨command, entries⟩, read, hears⟩ | deaf
    · cases command with
      | request =>
        rw [handle_of_hears read hears now]
        exact ⟨running, rfl⟩
      | response =>
        obtain ⟨records, there, -⟩ := response_of_hears read hears
        cases arrived.symm.trans there
    · have still := handle_still deaf now
      exact ⟨still.rip.trans running, still.routes⟩

theorem init_of_running (running : r.rip = .running) : r.init = (r, []) := by
  obtain ⟨interfaces, routes, arp, rip⟩ := r
  cases running
  rfl

/-- What a running router makes of a stimulus is what its table makes of the tidings. -/
theorem respond_tidings (running : r.rip = .running) (now : Nat) (s : Stimulus) :
    (r.respond now s).1.rip = .running ∧
      (r.respond now s).1.routes = (s.tidings r.interfaces now).foldl RouteTable.note r.routes := by
  cases s with
  | init =>
    rw [respond, init_of_running running]
    exact ⟨running, rfl⟩
  | frame received => exact handle_tidings running now
  | arpTick order =>
    have sends := arpTick_still r now order
    exact ⟨sends.rip.trans running, sends.routes⟩
  | ripTick => simp [respond, ripTick, RipProcess.tick, running, Stimulus.tidings, RouteTable.note]

theorem run_tidings (running : r.rip = .running) (xs : List (Nat × Stimulus)) :
    (r.run xs).1.rip = .running ∧
      (r.run xs).1.routes = (tidings r.interfaces xs).foldl RouteTable.note r.routes := by
  induction xs generalizing r with
  | nil => exact ⟨running, rfl⟩
  | cons x rest ih =>
    obtain ⟨still, routes⟩ := respond_tidings running x.1 x.2
    obtain ⟨stays, later⟩ := ih still
    have same : (r.respond x.1 x.2).1.interfaces = r.interfaces := run_interfaces r [x]
    rw [same, routes, ← List.foldl_append] at later
    exact ⟨stays, later⟩

end Router

end SoftRouter
