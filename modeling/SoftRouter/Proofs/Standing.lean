import SoftRouter.Proofs.History
import SoftRouter.Proofs.Mode

/-!
# What a running router knows

What a router knows of a network is what it was last told of it, unless that has been aged out since (`Stands`). So
its table is the connected networks and one route for each other network of which an advertisement stands
(`table_of_standing`), through every run; and the next hop of such a route is the source of that advertisement, as long
as the source is an address that a neighbour can have (`leads_to_source_iff`).
-/

namespace SoftRouter

/-- The tiding leaves an advertisement as it is: it is none of the same network, and comes no more than 30000
milliseconds later. -/
def Tiding.Spares (a : Advert) : Tiding → Prop
  | .advert b => b.network ≠ a.network
  | .sweep now => now ≤ a.time + 30000

/-- The advertisement is the last of its network, and has not been aged out since. -/
def Stands (ts : List Tiding) (a : Advert) : Prop :=
  ∃ before after, ts = before ++ .advert a :: after ∧ ∀ x ∈ after, x.Spares a

theorem stands_iff_since {ts : List Tiding} {a : Advert} :
    Stands ts a ↔ Since (· = .advert a) (fun x => x.Spares a) ts := by
  constructor
  · rintro ⟨before, after, split, spared⟩
    exact ⟨before, _, after, split, rfl, spared⟩
  · rintro ⟨before, _, after, split, rfl, spared⟩
    exact ⟨before, after, split, spared⟩

theorem stands_append {ts us : List Tiding} {a : Advert} :
    Stands (ts ++ us) a ↔ Stands us a ∨ Stands ts a ∧ ∀ x ∈ us, x.Spares a := by
  simp only [stands_iff_since, since_append]

/-- Of one more tiding. -/
theorem stands_concat {ts : List Tiding} {x : Tiding} {a : Advert} :
    Stands (ts ++ [x]) a ↔ x = .advert a ∨ Stands ts a ∧ x.Spares a := by
  simp only [stands_iff_since, since_concat]

namespace RouteTable

/-- The table is the connected networks, and behind them one route for each other network of which an advertisement
stands. -/
def Knows (interfaces : InterfaceTable) (ts : List Tiding) (t : RouteTable) : Prop :=
  ∃ learned, t.Learning interfaces learned ∧
    ∀ e, e ∈ learned ↔ e.network ∉ interfaces.networks ∧ ∃ a, Stands ts a ∧ e = a.route

variable {interfaces : InterfaceTable} {ts : List Tiding} {t : RouteTable}

theorem knows_nothing : Knows interfaces [] ⟨interfaces.toList.map RipProcess.connected⟩ := by
  refine ⟨[], ⟨(List.append_nil _).symm, by simp, by simp, by simp⟩, ?_⟩
  intro e
  constructor
  · rintro ⟨⟩
  · rintro ⟨-, a, ⟨before, after, split, -⟩, -⟩
    simp at split

theorem knows_advert (knows : t.Knows interfaces ts) (b : Advert) :
    (t.hear b.route).Knows interfaces (ts ++ [.advert b]) := by
  obtain ⟨learned, learning, among⟩ := knows
  by_cases own : b.network ∈ interfaces.networks
  · rw [hear_connected learning (e := b.route) own]
    refine ⟨learned, learning, ?_⟩
    intro e
    rw [among]
    constructor
    · rintro ⟨other, a, stands, rfl⟩
      refine ⟨other, a, stands_concat.2 (.inr ⟨stands, ?_⟩), rfl⟩
      intro same
      exact other (show a.network ∈ interfaces.networks from same ▸ own)
    · rintro ⟨other, a, stands, rfl⟩
      rcases stands_concat.1 stands with new | ⟨stands, -⟩
      · cases new
        exact absurd own other
      · exact ⟨other, a, stands, rfl⟩
  · obtain ⟨heard, heardLearning, among', -⟩ := hear_learning learning (e := b.route) rfl b.masked_route own
    refine ⟨heard, heardLearning, ?_⟩
    intro e
    rw [among', among]
    constructor
    · rintro (rfl | ⟨⟨other, a, stands, rfl⟩, apart⟩)
      · exact ⟨own, b, stands_concat.2 (.inl rfl), rfl⟩
      · exact ⟨other, a, stands_concat.2 (.inr ⟨stands, Ne.symm apart⟩), rfl⟩
    · rintro ⟨other, a, stands, rfl⟩
      rcases stands_concat.1 stands with new | ⟨stands, apart⟩
      · cases new
        exact .inl rfl
      · exact .inr ⟨⟨other, a, stands, rfl⟩, Ne.symm apart⟩

theorem knows_sweep (knows : t.Knows interfaces ts) (now : Nat) :
    (t.expire now ripTimeout).Knows interfaces (ts ++ [.sweep now]) := by
  obtain ⟨learned, learning, among⟩ := knows
  have stale (a : Advert) : a.route.isStale now ripTimeout = false ↔ now ≤ a.time + 30000 := by
    show decide (30000 < now - a.time) = false ↔ _
    rw [decide_eq_false_iff_not]
    omega
  refine ⟨_, expire_learning learning now ripTimeout, ?_⟩
  intro e
  rw [List.mem_filter, among, Bool.not_eq_true']
  constructor
  · rintro ⟨⟨other, a, stands, rfl⟩, fresh⟩
    exact ⟨other, a, stands_concat.2 (.inr ⟨stands, (stale a).1 fresh⟩), rfl⟩
  · rintro ⟨other, a, stands, rfl⟩
    rcases stands_concat.1 stands with new | ⟨stands, fresh⟩
    · cases new
    · exact ⟨⟨other, a, stands, rfl⟩, (stale a).2 fresh⟩

theorem knows_foldl (knows : t.Knows interfaces ts) (us : List Tiding) :
    (us.foldl note t).Knows interfaces (ts ++ us) := by
  induction us generalizing t ts with
  | nil => simpa using knows
  | cons x rest ih =>
    have next : (t.note x).Knows interfaces (ts ++ [x]) := by
      cases x with
      | advert b => exact knows_advert knows b
      | sweep now => exact knows_sweep knows now
    simpa using ih next

end RouteTable

/-! ## Runs -/

namespace Router

variable {r : Router}

theorem knows_run (idle : r.rip = .idle) (empty : r.routes.entries = []) (start : Nat) (xs : List (Nat × Stimulus)) :
    (r.run ((start, .init) :: xs)).1.routes.Knows r.interfaces (tidings r.interfaces xs) := by
  have opens := opens_init idle empty
  have routes : r.init.1.routes = ⟨r.interfaces.toList.map RipProcess.connected⟩ := by
    simp [init, RipProcess.bootstrap, RipProcess.canBootstrap, idle, empty]
  rw [run_cons]
  dsimp only [respond]
  rw [(run_tidings opens.running xs).2, routes]
  exact RouteTable.knows_foldl RouteTable.knows_nothing (tidings r.interfaces xs)

/-- In every run from the moment that a router without routes is brought up, its table is the connected networks in
the order of its interfaces, and behind them exactly one route for each other network of which an advertisement
stands: the one that this advertisement gives. -/
theorem table_of_standing (idle : r.rip = .idle) (empty : r.routes.entries = []) (start : Nat)
    (xs : List (Nat × Stimulus)) :
    ∃ learned, (r.run ((start, .init) :: xs)).1.routes.entries =
        r.interfaces.toList.map RipProcess.connected ++ learned ∧
      (learned.map RouteEntry.network).Nodup ∧
      ∀ e, e ∈ learned ↔
        e.network ∉ r.interfaces.networks ∧ ∃ a, Stands (tidings r.interfaces xs) a ∧ e = a.route := by
  obtain ⟨learned, learning, among⟩ := knows_run idle empty start xs
  exact ⟨learned, learning.entries, learning.distinct, among⟩

/-- A response to the group. -/
def response (source : Ipv4Addr) (m : RipMessage) : Ipv4Packet :=
  .make source ripGroup 17 ripTtl (UdpSegment.make ripPort ripPort m.encode).encode

/-- A neighbour advertises a network, and nothing is heard of it up to a tick. -/
def heardOnce (tick : Nat) : List (Nat × Stimulus) :=
  [(1000, .frame (onFirst (response (.ofOctets 10 0 0 7) sevenNet))), (tick, .ripTick)]

/-- The route to the network advertised, as it was learned. -/
def heardSeven : RouteEntry :=
  ⟨.ofOctets 7 0 0 0, .ofOctets 255 0 0 0, .ofOctets 10 0 0 7, "eth0", 2, some 1000⟩

/-- The advertisement stands for 30 seconds, and so long its route stands in the table behind the connected networks. -/
theorem sevenNet_stands :
    bareRouter.rip = .idle ∧ bareRouter.routes.entries = [] ∧
      ((bareRouter.run ((0, .init) :: heardOnce 31000)).1.routes.entries =
          bareRouter.interfaces.toList.map RipProcess.connected ++ [heardSeven] ∧
        ∃ a, Stands (tidings bareRouter.interfaces (heardOnce 31000)) a ∧ heardSeven = a.route) ∧
      (bareRouter.run ((0, .init) :: heardOnce 31001)).1.routes.entries =
          bareRouter.interfaces.toList.map RipProcess.connected ∧
        ¬ ∃ a, Stands (tidings bareRouter.interfaces (heardOnce 31001)) a ∧ a.network = heardSeven.network := by
  have stays : (bareRouter.run ((0, .init) :: heardOnce 31000)).1.routes.entries =
      bareRouter.interfaces.toList.map RipProcess.connected ++ [heardSeven] := by decide +kernel
  have goes : (bareRouter.run ((0, .init) :: heardOnce 31001)).1.routes.entries =
      bareRouter.interfaces.toList.map RipProcess.connected := by decide +kernel
  refine ⟨rfl, rfl, ⟨stays, ?_⟩, goes, ?_⟩
  · obtain ⟨learned, entries, -, among⟩ := table_of_standing (r := bareRouter) rfl rfl 0 (heardOnce 31000)
    have one : [heardSeven] = learned := List.append_cancel_left (stays.symm.trans entries)
    exact ((among heardSeven).1 (one ▸ List.mem_singleton.2 rfl)).2
  · rintro ⟨a, stands, network⟩
    obtain ⟨learned, entries, -, among⟩ := table_of_standing (r := bareRouter) rfl rfl 0 (heardOnce 31001)
    have none : [] = learned := List.append_cancel_left ((List.append_nil _).trans (goes.symm.trans entries))
    have other : a.network ∉ bareRouter.interfaces.networks := by
      rw [network]
      decide +kernel
    have there : a.route ∈ learned := (among a.route).2 ⟨other, a, stands, rfl⟩
    rw [← none] at there
    cases there

theorem knows_of_running {interfaces : InterfaceTable} {routes : RouteTable} (created : make interfaces routes = .ok r)
    {xs : List (Nat × Stimulus)} (running : (r.run xs).1.rip = .running) :
    ∃ before after, tidings interfaces xs = before ++ after ∧ (r.run xs).1.routes.Knows interfaces after := by
  obtain ⟨empty, before, start, after, rfl, first⟩ := exists_init_of_running created running
  obtain ⟨idle, none, -⟩ := running_of_init created empty first start after
  have knows := knows_run idle none start after
  rw [run_interfaces, congrArg Router.interfaces (eq_of_make created)] at knows
  refine ⟨tidings interfaces before, tidings interfaces after, ?_, ?_⟩
  · exact tidings_append interfaces before ((start, .init) :: after)
  · rw [run_append]
    exact knows

/-- What a running router learned it was told by the last advertisement of the network, whose source is the next hop
to every address that the route covers. That is a neighbour's address, neither none at all nor the router's own,
exactly when the source is. -/
theorem leads_to_source_iff {interfaces : InterfaceTable} {routes : RouteTable}
    (created : make interfaces routes = .ok r) (xs : List (Nat × Stimulus)) (running : (r.run xs).1.rip = .running)
    {e : RouteEntry} (mem : e ∈ (r.run xs).1.routes.entries) (learned : e.isLearned) :
    ∃ a, Stands (tidings interfaces xs) a ∧ e = a.route ∧
      ((∀ ip, e.covers ip → e.nextHop ip = a.source ∧ e.gateway ≠ .unspecified ∧
          ¬ (r.run xs).1.owns (e.nextHop ip)) ↔
        a.source ≠ .unspecified ∧ ¬ (r.run xs).1.owns a.source) := by
  obtain ⟨before, after, split, known, learning, among⟩ := knows_of_running created running
  rw [learning.entries] at mem
  have there : e ∈ known := by
    rcases List.mem_append.1 mem with fixed | there
    · exact absurd learned (RouteTable.connected_not_learned interfaces e fixed)
    · exact there
  obtain ⟨-, a, stands, rfl⟩ := (among e).1 there
  refine ⟨a, split ▸ stands_append.2 (.inl stands), rfl, ?_⟩
  constructor
  · intro leads
    obtain ⟨hop, specified, other⟩ := leads a.route.destination (decide_eq_true rfl)
    exact ⟨specified, hop ▸ other⟩
  · rintro ⟨specified, other⟩ ip -
    have hop : a.route.nextHop ip = a.source := if_neg specified
    exact ⟨hop, specified, hop.symm ▸ other⟩

/-- A neighbour's network is told on. -/
def tellsSeven (source : Ipv4Addr) : List (Nat × Stimulus) :=
  [(0, .init), (1, .frame (onFirst (response source sevenNet))), (2, .ripTick)]

def sevenBy (source : Ipv4Addr) : RouteEntry :=
  ⟨.ofOctets 7 0 0 0, .ofOctets 255 0 0 0, source, "eth0", 2, some 1⟩

/-- A route learned from a neighbour leads to it. -/
theorem sevenBy_leads :
    sevenBy (.ofOctets 10 0 0 7) ∈ (bareRouter.run (tellsSeven (.ofOctets 10 0 0 7))).1.routes.entries ∧
      (sevenBy (.ofOctets 10 0 0 7)).nextHop (.ofOctets 7 7 7 7) = .ofOctets 10 0 0 7 ∧
      ¬ (bareRouter.run (tellsSeven (.ofOctets 10 0 0 7))).1.owns (.ofOctets 10 0 0 7) := by
  have mem : sevenBy (.ofOctets 10 0 0 7) ∈ (bareRouter.run (tellsSeven (.ofOctets 10 0 0 7))).1.routes.entries := by
    decide +kernel
  obtain ⟨a, -, route, leads⟩ := leads_to_source_iff bareRouter_created (tellsSeven (.ofOctets 10 0 0 7))
    (by decide +kernel) mem rfl
  have source : a.source = .ofOctets 10 0 0 7 := congrArg RouteEntry.gateway route.symm
  rw [source] at leads
  obtain ⟨hop, -, other⟩ := leads.2 (by decide +kernel) (.ofOctets 7 7 7 7) (by decide +kernel)
  exact ⟨mem, hop, hop ▸ other⟩

/-- A response from no address makes its networks look as if they were on the link itself, and the router's own
message, when it comes in on the other port, makes the router its own next hop. -/
theorem learned_without_neighbour :
    (∃ e ∈ (bareRouter.run (tellsSeven .unspecified)).1.routes.entries, e.isLearned ∧
      e.covers (.ofOctets 7 7 7 7) ∧ e.nextHop (.ofOctets 7 7 7 7) = .ofOctets 7 7 7 7) ∧
    ∃ out ∈ transmissions (bareRouter.run (tellsSeven (.ofOctets 10 0 0 7))).2,
      ∃ e ∈ (bareRouter.run (tellsSeven (.ofOctets 10 0 0 7) ++ [(3, .frame ⟨"eth1", out.frame⟩)])).1.routes.entries,
        e.isLearned ∧ e.covers (.ofOctets 7 7 7 7) ∧ bareRouter.owns (e.nextHop (.ofOctets 7 7 7 7)) := by
  decide +kernel

end Router

end SoftRouter
