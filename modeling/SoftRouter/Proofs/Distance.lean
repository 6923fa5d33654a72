import Mathlib.Combinatorics.SimpleGraph.Metric
import SoftRouter.Network
import SoftRouter.Proofs.Telling
import SoftRouter.Proofs.Truncation

/-!
# Routes in a network of routers

Routers that cables join, with frames that arrive whenever and as often as they like, or not at all. Wherever a route
stands, in a table or in a message under way, a router with its network is no further away than the metric says
(`Truthful`). So no table of the network has a route to a network that nobody has, or too small a distance
(`metric_ge_dist`).
-/

namespace SoftRouter

/-- Routers by number, and every frame that was ever sent with the port it left by. -/
structure Mesh where
  routers : Nat → Router
  sent : List (Port × EthernetFrame) := []

namespace Mesh

/-- New routers with these interfaces and without routes. -/
def new (interfaces : Nat → InterfaceTable) : Mesh where
  routers k := { interfaces := interfaces k, routes := {} }

/-- One of the routers does what it does about a stimulus. -/
def respond (net : Mesh) (k now : Nat) (s : Stimulus) : Mesh where
  routers := Function.update net.routers k ((net.routers k).respond now s).1
  sent := net.sent ++ (transmissions ((net.routers k).respond now s).2).map fun t => (⟨k, t.interface⟩, t.frame)

/-- A router is brought up or has one of its regular moments, or a frame that was ever sent arrives at the other end
of a cable; the clock of the router may show anything. -/
inductive Step (cables : List Cable) (net : Mesh) : Mesh → Prop where
  | own (k now : Nat) {s : Stimulus} (unheard : ∀ received, s ≠ .frame received) : Step cables net (net.respond k now s)
  | arrival (now : Nat) {c : Cable} {near far : Port} {frame : EthernetFrame} (cable : c ∈ cables)
      (across : c.across? near = some far) (sent : (near, frame) ∈ net.sent) :
      Step cables net (net.respond far.router now (.frame ⟨far.interface, frame⟩))

/-- The routers, joined where there is a cable between them. A link with more than two ends is a cable between any two
of them. -/
def graph (cables : List Cable) : SimpleGraph Nat :=
  .fromRel fun a b => ∃ c ∈ cables, c.left.router = a ∧ c.right.router = b

/-- The network is that of one of the interfaces. -/
def Attached (interfaces : InterfaceTable) (network mask : Ipv4Addr) : Prop :=
  ∃ i ∈ interfaces.toList, i.network = network ∧ i.mask = mask

theorem adj_of_across {cables : List Cable} {c : Cable} {near far : Port} (cable : c ∈ cables)
    (across : c.across? near = some far) (apart : far.router ≠ near.router) :
    (graph cables).Adj far.router near.router := by
  refine (SimpleGraph.fromRel_adj _ _ _).2 ⟨apart, ?_⟩
  unfold Cable.across? at across
  split at across
  · cases across
    rename_i left
    exact .inr ⟨c, cable, congrArg Port.router left, rfl⟩
  · split at across
    · cases across
      rename_i right
      exact .inl ⟨c, cable, rfl, congrArg Port.router right⟩
    · cases across

/-- Some router has the network and is no further away than this, or further than distances are told. -/
structure Leads (cables : List Cable) (interfaces : Nat → InterfaceTable) (k : Nat) (network mask : Ipv4Addr)
    (metric : Nat) : Prop where
  masked : network.masked mask = network
  source : ∃ s, Attached (interfaces s) network mask ∧ ∃ way : (graph cables).Walk k s, min 16 way.length ≤ metric

namespace Leads

variable {cables : List Cable} {interfaces : Nat → InterfaceTable} {k metric : Nat} {network mask : Ipv4Addr}

theorem connected {i : Interface} (mem : i ∈ (interfaces k).toList) :
    Leads cables interfaces k (RipProcess.connected i).destination (RipProcess.connected i).mask
      (RipProcess.connected i).metric := by
  have network : (RipProcess.connected i).destination = i.network := Ipv4Addr.masked_masked i.ip i.mask
  refine ⟨Ipv4Addr.masked_masked i.network i.mask, k, ⟨i, mem, network.symm, rfl⟩, .nil, ?_⟩
  exact Nat.min_le_right ..

theorem told (leads : Leads cables interfaces k network mask metric) :
    Leads cables interfaces k network mask (min metric ripInfinity) := by
  obtain ⟨masked, s, attached, way, bound⟩ := leads
  refine ⟨masked, s, attached, way, ?_⟩
  rw [ripInfinity]
  omega

/-- By way of a neighbour it is one link further. -/
theorem through {c : Cable} {near far : Port} (leads : Leads cables interfaces near.router network mask metric)
    (cable : c ∈ cables) (across : c.across? near = some far) :
    Leads cables interfaces far.router network mask (RipProcess.metricThrough metric) := by
  obtain ⟨masked, s, attached, way, bound⟩ := leads
  refine ⟨masked, s, attached, ?_⟩
  by_cases same : far.router = near.router
  · refine ⟨way.copy same.symm rfl, ?_⟩
    rw [SimpleGraph.Walk.length_copy, RipProcess.metricThrough, ripInfinity]
    omega
  · refine ⟨.cons (adj_of_across cable across same) way, ?_⟩
    rw [SimpleGraph.Walk.length_cons, RipProcess.metricThrough, ripInfinity]
    omega

theorem learned {x : RipEntry} {e : RouteEntry} (from' : e.LearnedFrom x)
    (leads : Leads cables interfaces k x.network x.mask (RipProcess.metricThrough x.metric)) :
    Leads cables interfaces k e.destination e.mask e.metric := by
  rwa [from'.destination, from'.mask, from'.metric, leads.masked]

/-- Of the routers that have the network one is nearest, and it is no further away than this. -/
theorem nearest (leads : Leads cables interfaces k network mask metric) :
    ∃ s, Attached (interfaces s) network mask ∧ (graph cables).Reachable k s ∧
      (∀ s', Attached (interfaces s') network mask → (graph cables).Reachable k s' →
        (graph cables).dist k s ≤ (graph cables).dist k s') ∧ min 16 ((graph cables).dist k s) ≤ metric := by
  classical
  obtain ⟨-, s, attached, way, bound⟩ := leads
  have some : ∃ n s, Attached (interfaces s) network mask ∧ (graph cables).Reachable k s ∧
      (graph cables).dist k s = n := ⟨_, s, attached, way.reachable, rfl⟩
  obtain ⟨near, attached', reachable, least⟩ := Nat.find_spec some
  have first : ∀ s', Attached (interfaces s') network mask → (graph cables).Reachable k s' →
      (graph cables).dist k near ≤ (graph cables).dist k s' := by
    intro s' attached reachable
    rw [least]
    exact Nat.find_min' some ⟨s', attached, reachable, rfl⟩
  refine ⟨near, attached', reachable, first, ?_⟩
  have short := first s attached way.reachable
  have length := SimpleGraph.dist_le way
  omega

end Leads

/-! ## What is known and what is under way -/

/-- The routers have these interfaces, and every route in a table or in a frame that was sent leads to its network. -/
structure Truthful (cables : List Cable) (interfaces : Nat → InterfaceTable) (net : Mesh) : Prop where
  same : ∀ k, (net.routers k).interfaces = interfaces k
  clear : ∀ k, (net.routers k).Clear
  routes : ∀ k, ∀ e ∈ (net.routers k).routes.entries, Leads cables interfaces k e.destination e.mask e.metric
  bounded : ∀ port frame, (port, frame) ∈ net.sent → Router.Bounded frame
  announced : ∀ port frame, (port, frame) ∈ net.sent → ∀ x, Router.Announces frame x →
    Leads cables interfaces port.router x.network x.mask x.metric

variable {cables : List Cable} {interfaces : Nat → InterfaceTable} {net : Mesh}

theorem truthful_new (cables : List Cable) (interfaces : Nat → InterfaceTable) :
    Truthful cables interfaces (new interfaces) where
  same _ := rfl
  clear _ _ _ pending := by cases pending
  routes _ _ mem := by cases mem
  bounded _ _ mem := by cases mem
  announced _ _ mem := by cases mem

theorem silent_icmp {f : EthernetFrame} (icmp : f.IcmpOnly) (x : RipEntry) : ¬ Router.Announces f x := by
  rintro ⟨p, u, m, read, segment, -⟩
  have protocol := icmp p read
  unfold UdpSegment.ofPacket at segment
  split at segment
  · cases segment
  · rw [if_pos (by simp [protocol])] at segment
    cases segment

section
variable {table : RouteTable} {out : Transmission} (speaks : RipProcess.Speaks table out)
include speaks

theorem bounded_of_speaks : Router.Bounded out.frame := by
  obtain ⟨i, destIp, destMac, destPort, m, rfl, -⟩ := speaks
  intro p read
  refine .inr ?_
  rw [(RipProcess.message_of_transmission read).1]
  decide

/-- What is read of a table in a message is what the table says. -/
theorem told_of_speaks {x : RipEntry} (announces : Router.Announces out.frame x) :
    ∃ e ∈ table.entries, x = e.told := by
  obtain ⟨i, destIp, destMac, destPort, m, rfl, said⟩ := speaks
  obtain ⟨p, u, read', packet, segment, message, command, member⟩ := announces
  obtain ⟨-, -, -, front⟩ := RipProcess.message_of_transmission packet
  have front := front u segment read' message
  rcases said with rfl | rfl
  · cases front.command.symm.trans command
  · have member := (front.entries rfl).subset member
    rw [RipProcess.clamped_advertisement] at member
    obtain ⟨e, mem, rfl⟩ := List.mem_map.1 member
    exact ⟨e, mem, rfl⟩

end

theorem each_respond {k now : Nat} {s : Stimulus} (P : Nat → Router → Prop) (each : ∀ j, P j (net.routers j))
    (own : P k ((net.routers k).respond now s).1) (j : Nat) : P j ((net.respond k now s).routers j) :=
  (Function.forall_update_iff net.routers P).2 ⟨own, fun j _ => each j⟩ j

theorem mem_sent_respond {k now : Nat} {s : Stimulus} {port : Port} {frame : EthernetFrame}
    (mem : (port, frame) ∈ (net.respond k now s).sent) : (port, frame) ∈ net.sent ∨
      port.router = k ∧ ∃ out ∈ transmissions ((net.routers k).respond now s).2, out.frame = frame := by
  refine (List.mem_append.1 mem).imp_right ?_
  intro mem
  obtain ⟨out, sends, same⟩ := List.mem_map.1 mem
  cases same
  exact ⟨rfl, out, sends, rfl⟩

/-- When a router is told nothing but the truth, it keeps to it. -/
theorem truthful_respond (truthful : Truthful cables interfaces net) (k now : Nat) {s : Stimulus}
    (bounded : ∀ received, s = .frame received → Router.Bounded received.frame)
    (told : ∀ received, s = .frame received → ∀ x, Router.Announces received.frame x →
      Leads cables interfaces k x.network x.mask (RipProcess.metricThrough x.metric)) :
    Truthful cables interfaces (net.respond k now s) := by
  have reports : (net.routers k).Reports s ((net.routers k).respond now s) :=
    Router.respond_reports (truthful.clear k) bounded
  refine ⟨?same, ?clear, ?routes, ?bounded, ?announced⟩
  case same =>
    refine each_respond (fun j r => r.interfaces = interfaces j) truthful.same ?_
    exact reports.interfaces.trans (truthful.same k)
  case clear => exact each_respond (fun _ r => r.Clear) truthful.clear reports.clear
  case routes =>
    refine each_respond (fun j r => ∀ e ∈ r.routes.entries, Leads cables interfaces j e.destination e.mask e.metric)
      truthful.routes ?_
    intro e mem
    rcases reports.routes e mem with old | ⟨i, port, rfl⟩ | ⟨received, x, heard, announces, learned⟩
    · exact truthful.routes k e old
    · exact .connected (truthful.same k ▸ port)
    · exact .learned learned (told received heard x announces)
  case bounded =>
    intro port frame mem
    rcases mem_sent_respond mem with old | ⟨-, out, sends, rfl⟩
    · exact truthful.bounded port frame old
    · rcases reports.sent out sends with icmp | speaks
      · exact fun p read => .inl (icmp p read)
      · exact bounded_of_speaks speaks
  case announced =>
    intro port frame mem x announces
    rcases mem_sent_respond mem with old | ⟨router, out, sends, rfl⟩
    · exact truthful.announced port frame old x announces
    · rcases reports.sent out sends with icmp | speaks
      · exact absurd announces (silent_icmp icmp x)
      · obtain ⟨e, known, rfl⟩ := told_of_speaks speaks announces
        rw [router]
        exact (truthful.routes k e known).told

theorem truthful_step {next : Mesh} (truthful : Truthful cables interfaces net) (step : Step cables net next) :
    Truthful cables interfaces next := by
  cases step with
  | own k now unheard =>
    exact truthful_respond truthful k now (fun received heard => absurd heard (unheard received))
      fun received heard => absurd heard (unheard received)
  | arrival now cable across sent =>
    refine truthful_respond truthful _ now ?_ ?_
    · rintro received ⟨⟩
      exact truthful.bounded _ _ sent
    · rintro received ⟨⟩ x announces
      exact (truthful.announced _ _ sent x announces).through cable across

theorem truthful_reached (reached : Relation.ReflTransGen (Step cables) (new interfaces) net) :
    Truthful cables interfaces net := by
  induction reached with
  | refl => exact truthful_new cables interfaces
  | tail _ step ih => exact truthful_step ih step

/-- The network of a route is that of a router within reach, and the nearest such router is no further away than the
metric says. -/
theorem metric_ge_dist (reached : Relation.ReflTransGen (Step cables) (new interfaces) net) {k : Nat} {e : RouteEntry}
    (mem : e ∈ (net.routers k).routes.entries) :
    e.destination.masked e.mask = e.destination ∧
      ∃ s, Attached (net.routers s).interfaces e.destination e.mask ∧ (graph cables).Reachable k s ∧
        (∀ s', Attached (net.routers s').interfaces e.destination e.mask → (graph cables).Reachable k s' →
          (graph cables).dist k s ≤ (graph cables).dist k s') ∧
        min 16 ((graph cables).dist k s) ≤ e.metric := by
  have truthful := truthful_reached reached
  have leads := truthful.routes k e mem
  simp only [truthful.same]
  exact ⟨leads.masked, leads.nearest⟩

def twoRouters : Nat → InterfaceTable
  | 0 => Router.twoPorts
  | _ => .ofList [⟨"eth0", Router.station 3, .ofOctets 10 0 0 2, .ofOctets 255 255 255 0⟩]

def oneLink : List Cable := [⟨⟨0, "eth0"⟩, ⟨1, "eth0"⟩⟩]

/-- Both are up and the first has told its table. -/
def toldTable : Mesh := (((new twoRouters).respond 0 0 .init).respond 1 0 .init).respond 0 30000 .ripTick

/-- The second has heard it. -/
def heardTable : Mesh :=
  toldTable.respond 1 30000 (.frame ⟨"eth0", ((toldTable.sent.map Prod.snd)[3]?).getD default⟩)

theorem reached_heardTable : Relation.ReflTransGen (Step oneLink) (new twoRouters) heardTable := by
  have first : Relation.ReflTransGen (Step oneLink) (new twoRouters) toldTable :=
    .tail (.tail (.single (.own 0 0 (by simp))) (.own 1 0 (by simp))) (.own 0 30000 (by simp))
  have across : (⟨⟨0, "eth0"⟩, ⟨1, "eth0"⟩⟩ : Cable).across? ⟨0, "eth0"⟩ = some ⟨1, "eth0"⟩ := by decide
  refine first.tail (.arrival 30000 (List.mem_singleton_self _) across ?_)
  decide +kernel

def learnedByHearing : RouteEntry :=
  ⟨.ofOctets 10 0 1 0, .ofOctets 255 255 255 0, .ofOctets 10 0 0 1, "eth0", 1, some 30000⟩

/-- The second router has come to know the network behind the first, which is one link away. -/
theorem dist_of_heardTable : learnedByHearing ∈ (heardTable.routers 1).routes.entries ∧
    ∃ s, Attached (heardTable.routers s).interfaces (.ofOctets 10 0 1 0) (.ofOctets 255 255 255 0) ∧
      (graph oneLink).Reachable 1 s ∧ min 16 ((graph oneLink).dist 1 s) ≤ 1 := by
  have mem : learnedByHearing ∈ (heardTable.routers 1).routes.entries := by decide +kernel
  obtain ⟨-, s, attached, reachable, -, bound⟩ := metric_ge_dist reached_heardTable mem
  exact ⟨mem, s, attached, reachable, bound⟩

end Mesh

end SoftRouter
