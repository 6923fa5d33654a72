import SoftRouter.Proofs.Egress

/-!
# What waits and what is sent

The router sends and keeps datagrams; only what it asks and answers itself is about addresses. A resolution has such
frames that wait for it, and asks on an interface of the router.
-/

namespace SoftRouter

open NeighbourCache

namespace RipProcess

variable {s : RipState} {interfaces : InterfaceTable} {table : RouteTable} {t : Transmission}

/-- The frame holds a message of the process, on some interface and to whomever. -/
def Spoken (t : Transmission) : Prop := ∃ i destIp destMac destPort m, t = transmission i destIp destMac destPort m

theorem Spoken.datagram (spoken : Spoken t) : t.frame.etherType = etherTypeIpv4 := by
  obtain ⟨i, destIp, destMac, destPort, m, rfl⟩ := spoken
  rfl

theorem spoken_of_toGroup {m : RipMessage} (mem : t ∈ toGroup interfaces m) : Spoken t := by
  obtain ⟨i, -, rfl⟩ := List.mem_map.1 mem
  exact ⟨i, _, _, _, m, rfl⟩

theorem spoken_of_bootstrap (mem : t ∈ (bootstrap s interfaces table).2.2) : Spoken t := by
  unfold bootstrap at mem
  split at mem
  · exact spoken_of_toGroup mem
  · cases mem

theorem spoken_of_tick {now : Nat} (mem : t ∈ (tick s interfaces table now).2) : Spoken t := by
  unfold tick at mem
  split at mem
  · exact spoken_of_toGroup mem
  · cases mem

theorem spoken_of_receive {i : Interface} {mac : Mac} {p : Ipv4Packet} {u : UdpSegment} {now : Nat}
    (sent : (receive s i mac p u table now).2 = some t) : Spoken t := by
  unfold receive at sent
  split at sent
  · split at sent
    · unfold take at sent
      split at sent
      · cases sent
        exact ⟨i, _, _, _, _, rfl⟩
      · cases sent
    · cases sent
  · cases sent

end RipProcess

/-- The resolution has frames that wait for it, all of them datagrams, and asks on an interface of the router. -/
structure Resolution.Held (interfaces : InterfaceTable) (r : Resolution) : Prop where
  waiting : r.waiting ≠ []
  port : ∃ i, interfaces.find? r.interface = some i
  datagrams : ∀ f ∈ r.waiting, f.etherType = etherTypeIpv4

namespace Router

def Holds (r : Router) : Prop := ∀ ip res, r.arp.resolution? ip = some res → res.Held r.interfaces

theorem datagram_of_hands {r : Router} {d : Delivery} (hands : r.Hands d) : d.frame.etherType = etherTypeIpv4 := by
  cases hands with
  | forward forwards =>
    obtain ⟨p, route, egress, -, rfl⟩ := accepts_of_forwards forwards
    rfl
  | @notice n about _ due =>
    obtain ⟨route, i, packet, -, -, rfl⟩ := notice_spec due
    rfl

theorem held_joined {r : Router} {d : Delivery} (holds : r.Holds) (hands : r.Hands d) :
    (r.arp.joined d).Held r.interfaces := by
  rcases r.arp.joined_cases d with ⟨-, fresh⟩ | ⟨old, pending, joins⟩
  · obtain ⟨egress, port, -⟩ := hands_addressed hands
    rw [fresh]
    exact ⟨by simp [Resolution.join], ⟨egress, port⟩, by simpa [Resolution.join] using datagram_of_hands hands⟩
  · obtain ⟨-, port, datagrams⟩ := holds _ old pending
    rw [joins]
    refine ⟨by simp [Resolution.join], port, ?_⟩
    intro f mem
    rcases List.mem_append.1 mem with mem | mem
    · exact datagrams f mem
    · exact List.mem_singleton.1 mem ▸ datagram_of_hands hands

theorem held_advanced {interfaces : InterfaceTable} {r : Resolution} (held : r.Held interfaces) (now : Nat) :
    (r.advanced now).Held interfaces := by
  obtain ⟨waiting, port, datagrams⟩ := held
  constructor
  · rwa [Resolution.waiting_advanced]
  · rwa [Resolution.interface_advanced]
  · rwa [Resolution.waiting_advanced]

theorem holds_await {r : Router} {d : Delivery} (holds : r.Holds) (hands : r.Hands d) (now : Nat) :
    ({ r with arp := (r.arp.await d now).1 } : Router).Holds :=
  each_await holds fun _ => held_advanced (held_joined holds hands) now

theorem holds_tick {r : Router} (holds : r.Holds) (now : Nat) : ({ r with arp := r.arp.tick now } : Router).Holds :=
  each_tick holds fun _ held _ => held_advanced held now

theorem holds_learn {r : Router} (holds : r.Holds) (mac : Mac) (ip : Ipv4Addr) (now : Nat) :
    ({ r with arp := r.arp.learn mac ip now } : Router).Holds :=
  each_learn holds mac ip now

end Router

end SoftRouter
