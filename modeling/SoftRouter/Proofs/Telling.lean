import SoftRouter.Proofs.Relaying

/-!
# What a router says of its routes

As long as no one else speaks of routes, all that a router forwards, and all that waits in it, are ICMP messages. Of
routes it speaks in messages of its own, which ask for tables or say what its table says, and what it comes to know of
them it was told or is joined to (`respond_reports`).
-/

namespace SoftRouter

open NeighbourCache

/-- Whatever datagram the frame carries is an ICMP message. -/
def EthernetFrame.IcmpOnly (f : EthernetFrame) : Prop := ∀ p, Ipv4Packet.ofFrame f = .ok p → p.protocol = .icmp

/-- The route was learned from an entry of a message. -/
structure RouteEntry.LearnedFrom (e : RouteEntry) (x : RipEntry) : Prop where
  destination : e.destination = x.network.masked x.mask
  mask : e.mask = x.mask
  metric : e.metric = RipProcess.metricThrough x.metric

namespace RouteTable

theorem mem_learnInto {e : RouteEntry} {routes entries : List RouteEntry} (learned : learnInto e routes = some entries)
    {x : RouteEntry} (mem : x ∈ entries) : x = e ∨ x ∈ routes := by
  induction routes generalizing entries with
  | nil =>
    cases learned
    exact .inl (List.mem_singleton.1 mem)
  | cons y rest ih =>
    unfold learnInto at learned
    split at learned
    · split at learned
      · cases learned
        exact (List.mem_cons.1 mem).imp_right (List.mem_cons_of_mem y)
      · cases learned
    · obtain ⟨others, later, rfl⟩ := Option.map_eq_some_iff.1 learned
      rcases List.mem_cons.1 mem with rfl | mem
      · exact .inr List.mem_cons_self
      · exact (ih later mem).imp_right (List.mem_cons_of_mem y)

end RouteTable

namespace RipProcess

theorem mem_learnEntry {i : Interface} {gateway : Ipv4Addr} {now : Nat} {t : RouteTable} {x : RipEntry}
    {e : RouteEntry} (mem : e ∈ (learnEntry i gateway now t x).entries) :
    e ∈ t.entries ∨ e.interface = i.name ∧ e.LearnedFrom x := by
  unfold learnEntry RouteTable.learn? at mem
  cases learned : RouteTable.learnInto ⟨x.network.masked x.mask, x.mask, gateway, i.name, metricThrough x.metric,
      some now⟩ t.entries with
  | none =>
    rw [learned] at mem
    exact .inl mem
  | some entries =>
    rw [learned] at mem
    rcases RouteTable.mem_learnInto learned mem with rfl | old
    · exact .inr ⟨rfl, rfl, rfl, rfl⟩
    · exact .inl old

/-- What is learned of a neighbour leads out by the interface on which it was heard. -/
theorem mem_foldl_learnEntry {i : Interface} {gateway : Ipv4Addr} {now : Nat} {xs : List RipEntry} {t : RouteTable}
    {e : RouteEntry} (mem : e ∈ (xs.foldl (learnEntry i gateway now) t).entries) :
    e ∈ t.entries ∨ e.interface = i.name ∧ ∃ x ∈ xs, e.LearnedFrom x := by
  induction xs generalizing t with
  | nil => exact .inl mem
  | cons x rest ih =>
    rcases ih mem with old | ⟨out, y, member, learned⟩
    · exact (mem_learnEntry old).imp_right fun ⟨out, learned⟩ => ⟨out, x, List.mem_cons_self, learned⟩
    · exact .inr ⟨out, y, List.mem_cons_of_mem x member, learned⟩

/-- The transmission is a message of the process about this table, or the question for all of another. -/
def Speaks (t : RouteTable) (out : Transmission) : Prop :=
  ∃ i destIp destMac destPort m, out = transmission i destIp destMac destPort m ∧
    (m = .wholeTable ∨ m = advertisement t)

theorem speaks_of_toGroup {t : RouteTable} {interfaces : InterfaceTable} {m : RipMessage}
    (said : m = .wholeTable ∨ m = advertisement t) {out : Transmission} (mem : out ∈ toGroup interfaces m) :
    Speaks t out := by
  obtain ⟨i, -, rfl⟩ := List.mem_map.1 mem
  exact ⟨i, _, _, _, m, rfl, said⟩

end RipProcess

namespace Router

/-- Only ICMP messages wait. -/
def Clear (r : Router) : Prop := r.arp.Each fun res => ∀ f ∈ res.waiting, f.IcmpOnly

/-- Nothing but ICMP messages is sent or made to wait, and routes and interfaces are left alone. -/
structure Discreet (r : Router) (done : Router × List Event) : Prop where
  clear : done.1.Clear
  sent : ∀ out ∈ transmissions done.2, out.frame.IcmpOnly
  routes : done.1.routes = r.routes
  interfaces : done.1.interfaces = r.interfaces

variable {r : Router} {now : Nat}

theorem Sends.discreet {done : Router × List Event} (sends : r.Sends (fun p => p.protocol = .icmp) done) :
    r.Discreet done where
  clear := sends.keeps
  sent := sends.sent
  routes := sends.routes
  interfaces := sends.interfaces

/-- The frame received holds a message of the protocol with this entry of a table. -/
def Announces (f : EthernetFrame) (x : RipEntry) : Prop :=
  ∃ p u m, Ipv4Packet.ofFrame f = .ok p ∧ UdpSegment.ofPacket p = .ok u ∧ RipProcess.message? u = some m ∧
    m.command = .response ∧ x ∈ m.entries

/-- Of routes the router says what its table says, and it comes to know those of its own networks and what it was
told. -/
structure Reports (r : Router) (s : Stimulus) (done : Router × List Event) : Prop where
  clear : done.1.Clear
  sent : ∀ out ∈ transmissions done.2, out.frame.IcmpOnly ∨ RipProcess.Speaks r.routes out
  routes : ∀ e ∈ done.1.routes.entries, e ∈ r.routes.entries ∨
    (∃ i ∈ r.interfaces.toList, e = RipProcess.connected i) ∨
      ∃ received x, s = .frame received ∧ Announces received.frame x ∧ e.LearnedFrom x
  interfaces : done.1.interfaces = r.interfaces

theorem Discreet.reports {done : Router × List Event} (discreet : r.Discreet done) (s : Stimulus) :
    r.Reports s done where
  clear := discreet.clear
  sent out mem := .inl (discreet.sent out mem)
  routes _ mem := .inl (discreet.routes ▸ mem)
  interfaces := discreet.interfaces

theorem reports_heard (clear : r.Clear) {received : Transmission} {i : Interface} {p : Ipv4Packet} {u : UdpSegment}
    {m : RipMessage} (read : Ipv4Packet.ofFrame received.frame = .ok p) (hears : r.Hears received p i u m) :
    r.Reports (.frame received) (r.heard now received p i u m) := by
  rw [heard]
  cases command : m.command with
  | request =>
    refine ⟨clear, ?_, fun e mem => .inl mem, rfl⟩
    intro out mem
    obtain rfl := List.mem_singleton.1 mem
    exact .inr ⟨i, _, _, _, _, rfl, .inr rfl⟩
  | response =>
    refine ⟨clear, by simp [transmissions], ?_, rfl⟩
    intro e mem
    refine (RipProcess.mem_foldl_learnEntry mem).imp_right ?_
    rintro ⟨-, x, member, learned⟩
    exact .inr ⟨received, x, rfl,
      ⟨p, u, m, read, hears.segment, RipProcess.message?_eq_some_iff.2 hears.message, command, member⟩, learned⟩

theorem reports_init (clear : r.Clear) : r.Reports .init r.init := by
  unfold init RipProcess.bootstrap
  by_cases may : RipProcess.canBootstrap r.rip r.routes
  · rw [if_pos may]
    refine ⟨clear, ?_, ?_, rfl⟩
    · intro out mem
      rw [transmissions_announced] at mem
      exact .inr (RipProcess.speaks_of_toGroup (.inl rfl) mem)
    · intro e mem
      obtain ⟨i, member, rfl⟩ := List.mem_map.1 mem
      exact .inr (.inl ⟨i, member, rfl⟩)
  · rw [if_neg may]
    exact ⟨clear, by simp [transmissions], fun _ mem => .inl mem, rfl⟩

theorem reports_ripTick (clear : r.Clear) : r.Reports .ripTick (r.ripTick now) := by
  unfold ripTick RipProcess.tick
  by_cases running : r.rip = .running
  · rw [if_pos running]
    refine ⟨clear, ?_, ?_, rfl⟩
    · intro out mem
      rw [transmissions_announced] at mem
      exact .inr (RipProcess.speaks_of_toGroup (.inr rfl) mem)
    · intro e mem
      exact .inl (List.mem_filter.1 mem).1
  · rw [if_neg running]
    exact ⟨clear, by simp [transmissions], fun _ mem => .inl mem, rfl⟩

/-- What is received is no word about routes that would be passed on: an ICMP message, or a datagram that stays on its
link. -/
def Bounded (f : EthernetFrame) : Prop := ∀ p, Ipv4Packet.ofFrame f = .ok p → p.protocol = .icmp ∨ p.ttl ≤ 1

/-- A router among routers of its kind says nothing of routes but what its table says. -/
theorem respond_reports (clear : r.Clear) {s : Stimulus}
    (bounded : ∀ received, s = .frame received → Bounded received.frame) : r.Reports s (r.respond now s) := by
  cases s with
  | arpTick order => exact (sends_arpTick (fun _ icmp => icmp) clear order).discreet.reports _
  | frame received =>
    rcases r.hears_or_deaf received with ⟨p, i, u, m, read, hears⟩ | deaf
    · rw [respond, handle_of_hears read hears]
      exact reports_heard clear read hears
    · refine (sends_handle (fun _ icmp => icmp) clear deaf ?_).discreet.reports _
      intro p read alive
      exact (bounded received rfl p read).resolve_right (UInt8.not_le.2 alive)
  | init => exact reports_init clear
  | ripTick => exact reports_ripTick clear

end Router

end SoftRouter
