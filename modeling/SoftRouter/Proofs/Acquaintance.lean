import SoftRouter.Proofs.Forwarding
import SoftRouter.Proofs.History
import SoftRouter.Proofs.Pace

/-!
# Whom a router knows

A router knows the address of a neighbour by the last answer about it, until a tick of address resolution comes more
than 15000 milliseconds after that answer (`known_iff_recalls`). Only answers and ticks touch what is known: datagrams,
questions and the routing protocol leave all neighbours as they are (`neighbours_of_untold`).
-/

namespace SoftRouter

namespace NeighbourCache

theorem neighbours_await (c : NeighbourCache) (d : Delivery) (now : Nat) :
    (c.await d now).1.neighbours = c.neighbours := by
  unfold await
  dsimp only
  split <;> rfl

end NeighbourCache

open NeighbourCache

namespace Router

section
variable {r : Router} {now : Nat}

theorem neighbours_kept (r : Router) (now : Nat) :
    KeptByWaiting now fun s => s.arp.neighbours = r.arp.neighbours := by
  intro s d same
  exact (s.arp.neighbours_await d now).trans same

/-- The notices that a tick leads to change nothing about the neighbours. -/
theorem neighbours_arpTick {order : List Ipv4Addr} :
    (r.arpTick now order).1.arp.neighbours = (r.arp.tick now).neighbours :=
  followAll_keeps (neighbours_kept { r with arp := r.arp.tick now } now) rfl (r.arp.tickProgress now order)

theorem neighbours_handlePacket (i : Interface) (src dest : Mac) (p : Ipv4Packet) :
    (r.handlePacket now i src dest p).1.arp.neighbours = r.arp.neighbours := by
  unfold handlePacket
  cases r.judge i dest p with
  | ignore => rfl
  | rip segment => rfl
  | notify n about => exact dispatch_keeps (neighbours_kept r now) rfl _
  | forward d => exact dispatch_keeps (neighbours_kept r now) rfl _

/-- An ARP frame that tells the interface nothing changes nothing. -/
theorem handleArp_of_untold {i : Interface} {f : ArpFrame} (untold : ∀ mac ip, ¬ f.Tells i mac ip) :
    (r.handleArp now i f).1 = r := by
  unfold handleArp
  split
  · rename_i asked
    split
    · rfl
    · rename_i op
      split
      · rename_i mac ip senderMac senderIp
        exact absurd ⟨asked.1, asked.2, op, senderMac, senderIp⟩ (untold mac ip)
      · rfl
    · rfl
  · rfl

section
variable {received : Transmission} (untold : ∀ mac ip, ¬ r.Told received mac ip)
include untold

theorem handle_of_untold (type : received.frame.etherType = etherTypeArp) :
    (r.handle now received.interface received.frame).1 = r := by
  unfold handle
  cases port : r.interfaces.find? received.interface with
  | none => rfl
  | some i =>
    simp only [if_pos type]
    cases read : ArpFrame.ofFrame received.frame with
    | error _ => rfl
    | ok f =>
      refine handleArp_of_untold ?_
      intro mac ip tells
      exact untold mac ip ⟨i, f, port, read, tells⟩

/-- A frame that tells the router of no neighbour leaves all neighbours as they are. -/
theorem neighbours_of_untold :
    (r.handle now received.interface received.frame).1.arp.neighbours = r.arp.neighbours := by
  by_cases type : received.frame.etherType = etherTypeArp
  · rw [handle_of_untold untold type]
  · unfold handle
    cases r.interfaces.find? received.interface with
    | none => rfl
    | some i =>
      simp only [if_neg type]
      cases Ipv4Packet.ofFrame received.frame with
      | error _ => rfl
      | ok p => exact neighbours_handlePacket i received.frame.src received.frame.dest p

end

end

/-! ## The last answer -/

/-- A frame tells of one neighbour at most. -/
theorem Told.unique {r : Router} {received : Transmission} {mac mac' : Mac} {ip ip' : Ipv4Addr}
    (told : r.Told received mac ip) (again : r.Told received mac' ip') : mac = mac' ∧ ip = ip' := by
  obtain ⟨i, f, port, read, tells⟩ := told
  obtain ⟨j, g, port', read', tells'⟩ := again
  cases read.symm.trans read'
  exact ⟨Option.some.inj (tells.senderMac.symm.trans tells'.senderMac),
    Option.some.inj (tells.senderIp.symm.trans tells'.senderIp)⟩

/-- A frame that tells nothing of an address changes nothing that is known of it. -/
theorem neighbour?_handle {r : Router} {now : Nat} {received : Transmission} {ip : Ipv4Addr}
    (untold : ∀ mac, ¬ r.Told received mac ip) :
    (r.handle now received.interface received.frame).1.arp.neighbour? ip = r.arp.neighbour? ip := by
  by_cases told : ∃ mac other, r.Told received mac other
  · obtain ⟨mac, other, told⟩ := told
    have apart : other ≠ ip := by
      rintro rfl
      exact untold mac told
    have met : r.handle now received.interface received.frame = r.meet now mac other := respond_of_told told now
    rw [met, meet, neighbour?_learn, if_neg apart]
  · have silent : ∀ mac other, ¬ r.Told received mac other := by
      intro mac other tells
      exact told ⟨mac, other, tells⟩
    exact congrArg (·.find? ip.bits) (neighbours_of_untold silent)

theorem told_congr {r s : Router} (same : r.interfaces = s.interfaces) {received : Transmission} {mac : Mac}
    {ip : Ipv4Addr} : r.Told received mac ip ↔ s.Told received mac ip := by
  unfold Told
  rw [same]

/-- At this time a frame came that told the router that `mac` has the address `ip`. -/
def ToldAt (r : Router) (mac : Mac) (ip : Ipv4Addr) (time : Nat) (x : Nat × Stimulus) : Prop :=
  ∃ received, x = (time, .frame received) ∧ r.Told received mac ip

/-- What was told of an address at this time remains: this is no other answer about the address, and no tick of
address resolution that comes more than 15000 milliseconds later. -/
def Spares (r : Router) (ip : Ipv4Addr) (time : Nat) : Nat × Stimulus → Prop
  | (_, .frame received) => ∀ mac, ¬ r.Told received mac ip
  | (now, .arpTick _) => now ≤ time + 15000
  | (_, .init) | (_, .ripTick) => True

/-- The last answer about the address came at this time and told of `mac`, and no tick has come since that was more
than 15000 milliseconds later. -/
def Recalls (r : Router) (mac : Mac) (ip : Ipv4Addr) (time : Nat) (xs : List (Nat × Stimulus)) : Prop :=
  Since (r.ToldAt mac ip time) (r.Spares ip time) xs

/-- What is remembered of an address is what was told of it last. -/
def Remembers (r : Router) (xs : List (Nat × Stimulus)) (ip : Ipv4Addr) (known : Option Neighbour) : Prop :=
  ∀ n, known = some n ↔ n.ip = ip ∧ r.Recalls n.mac ip n.learnedAt xs

section
variable {r : Router} {xs : List (Nat × Stimulus)} {ip : Ipv4Addr} {known : Option Neighbour} {now : Nat}

theorem recalls_concat {mac : Mac} {time : Nat} {x : Nat × Stimulus} :
    r.Recalls mac ip time (xs ++ [x]) ↔ r.ToldAt mac ip time x ∨ r.Recalls mac ip time xs ∧ r.Spares ip time x :=
  since_concat

theorem remembers_nil (r : Router) (ip : Ipv4Addr) : r.Remembers [] ip none := by
  intro n
  constructor
  · rintro ⟨⟩
  · rintro ⟨-, recalls⟩
    exact absurd recalls not_since_nil

/-- What tells nothing of an address and is not of the passing time changes nothing about it. -/
theorem remembers_spared (remembers : r.Remembers xs ip known) {x : Nat × Stimulus}
    (silent : ∀ mac time, ¬ r.ToldAt mac ip time x) (spares : ∀ time, r.Spares ip time x) :
    r.Remembers (xs ++ [x]) ip known := by
  intro n
  rw [remembers n, recalls_concat]
  simp [silent, spares]

theorem remembers_told {received : Transmission} {mac : Mac} (told : r.Told received mac ip) :
    r.Remembers (xs ++ [(now, .frame received)]) ip (some ⟨ip, mac, now⟩) := by
  intro n
  rw [recalls_concat]
  constructor
  · rintro ⟨⟩
    exact ⟨rfl, .inl ⟨received, rfl, told⟩⟩
  · rintro ⟨rfl, ⟨_, same, again⟩ | ⟨-, spares⟩⟩
    · cases same
      obtain ⟨rfl, -⟩ := told.unique again
      rfl
    · exact absurd told (spares mac)

/-- A tick forgets what was told too long ago. -/
theorem remembers_tick (remembers : r.Remembers xs ip known) (order : List Ipv4Addr) :
    r.Remembers (xs ++ [(now, .arpTick order)]) ip (known.filter fun n => now - n.learnedAt ≤ neighbourTimeout) := by
  intro n
  rw [recalls_concat, Option.filter_eq_some_iff, remembers n]
  have untold : ¬ r.ToldAt n.mac ip n.learnedAt (now, .arpTick order) := by
    rintro ⟨_, same, -⟩
    cases same
  have young : now - n.learnedAt ≤ neighbourTimeout ↔ r.Spares ip n.learnedAt (now, .arpTick order) :=
    Nat.sub_le_iff_le_add'
  simp [untold, young, and_assoc]

end

theorem remembers_respond {r s : Router} {xs : List (Nat × Stimulus)} {ip : Ipv4Addr}
    (ports : s.interfaces = r.interfaces) (remembers : r.Remembers xs ip (s.arp.neighbour? ip))
    (x : Nat × Stimulus) : r.Remembers (xs ++ [x]) ip ((s.respond x.1 x.2).1.arp.neighbour? ip) := by
  obtain ⟨now, stimulus⟩ := x
  cases stimulus with
  | init => exact remembers_spared remembers (by rintro _ _ ⟨_, ⟨⟩, -⟩) fun _ => trivial
  | ripTick => exact remembers_spared remembers (by rintro _ _ ⟨_, ⟨⟩, -⟩) fun _ => trivial
  | arpTick order =>
    have forgets : (s.arpTick now order).1.arp.neighbour? ip = (s.arp.tick now).neighbour? ip :=
      congrArg (·.find? ip.bits) neighbours_arpTick
    rw [respond, forgets, neighbour?_tick]
    exact remembers_tick remembers order
  | frame received =>
    by_cases told : ∃ mac, r.Told received mac ip
    · obtain ⟨mac, told⟩ := told
      rw [respond_of_told ((told_congr ports).2 told), meet, neighbour?_learn, if_pos rfl]
      exact remembers_told told
    · have untold : ∀ mac, ¬ r.Told received mac ip := not_exists.1 told
      have same : (s.handle now received.interface received.frame).1.arp.neighbour? ip = s.arp.neighbour? ip :=
        neighbour?_handle fun mac told => untold mac ((told_congr ports).1 told)
      rw [respond, same]
      refine remembers_spared remembers ?_ fun _ => untold
      rintro mac time ⟨_, same, told⟩
      cases same
      exact untold mac told

theorem remembers_run {interfaces : InterfaceTable} {routes : RouteTable} {r : Router}
    (created : Router.make interfaces routes = .ok r) (xs : List (Nat × Stimulus)) (ip : Ipv4Addr) :
    r.Remembers xs ip ((r.run xs).1.arp.neighbour? ip) := by
  induction xs using List.reverseRecOn with
  | nil =>
    rw [eq_of_make created]
    exact remembers_nil _ ip
  | append_singleton xs x ih =>
    rw [run_concat]
    exact remembers_respond (run_interfaces r xs) ih x

/-- Throughout every run an address is known by the last answer about it, for as long as no tick of address
resolution has come more than 15000 milliseconds after that answer, and is unknown otherwise. -/
theorem known_iff_recalls {interfaces : InterfaceTable} {routes : RouteTable} {r : Router}
    (created : Router.make interfaces routes = .ok r) (xs : List (Nat × Stimulus)) (ip : Ipv4Addr) :
    (∀ mac, (r.run xs).1.arp.mac? ip = some mac ↔ ∃ time, r.Recalls mac ip time xs) ∧
      ((r.run xs).1.arp.mac? ip = none ↔ ∀ mac time, ¬ r.Recalls mac ip time xs) := by
  have remembers := remembers_run created xs ip
  have known : ∀ mac, (r.run xs).1.arp.mac? ip = some mac ↔ ∃ time, r.Recalls mac ip time xs := by
    intro mac
    constructor
    · intro found
      obtain ⟨n, known, rfl⟩ := Option.map_eq_some_iff.1 found
      exact ⟨n.learnedAt, ((remembers n).1 known).2⟩
    · rintro ⟨time, recalls⟩
      exact Option.map_eq_some_iff.2 ⟨⟨ip, mac, time⟩, (remembers _).2 ⟨rfl, recalls⟩, rfl⟩
  refine ⟨known, ?_⟩
  rw [Option.eq_none_iff_forall_ne_some]
  refine forall_congr' fun mac => ?_
  rw [ne_eq, known mac, not_exists]

theorem told_gatewayReply : gatewayRouter.Told gatewayReply (station 9) (.ofOctets 10 0 1 9) :=
  ⟨_, _, rfl, ArpFrame.ofFrame_ethernetIpv4 _ _ _ _ _ _ _, by decide, by decide, by decide, by decide, by decide⟩

/-- The gateway is still known 15000 milliseconds after its answer, also when the clock went back meanwhile, and
is forgotten a millisecond later. -/
theorem gateway_forgotten :
    (gatewayRouter.run [(5000, .frame gatewayReply), (0, .arpTick []), (20000, .arpTick [])]).1.arp.mac?
        (.ofOctets 10 0 1 9) = some (station 9) ∧
      (gatewayRouter.run [(5000, .frame gatewayReply), (20001, .arpTick [])]).1.arp.mac? (.ofOctets 10 0 1 9) =
        none := by
  constructor
  · refine ((known_iff_recalls gatewayRouter_created _ _).1 _).2 ⟨5000, [], _, _, rfl, ⟨_, rfl, told_gatewayReply⟩, ?_⟩
    have early : 0 ≤ 5000 + 15000 := by decide
    have late : 20000 ≤ 5000 + 15000 := by decide
    exact List.forall_mem_cons.2 ⟨early, List.forall_mem_singleton.2 late⟩
  · refine (known_iff_recalls gatewayRouter_created _ _).2.2 ?_
    intro mac time
      (recalls : gatewayRouter.Recalls mac _ time ([(5000, .frame gatewayReply)] ++ [(20001, .arpTick [])]))
    -- The only answer came at 5000, and the tick comes more than 15000 after that.
    rcases recalls_concat.1 recalls with ⟨_, same, -⟩ | ⟨told, spares⟩
    · cases same
    · obtain ⟨_, same, -⟩ := since_singleton.1 told
      cases same
      have late : ¬ 20001 ≤ 5000 + 15000 := by decide
      exact late spares

end Router

end SoftRouter
