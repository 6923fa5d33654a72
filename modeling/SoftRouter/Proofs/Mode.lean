import Mathlib.Logic.Relation
import SoftRouter.Proofs.Adverts

/-!
# The routing protocol is decided on once

A router that is brought up either finds routes in its table and stays idle for good, or finds none, starts from the
connected networks and runs for good (`decided_once`). As long as it does not run it speaks of no routes and hears of
none: the table stays as it is, and all datagrams that are sent are ICMP messages or were received (`Relayed`).
-/

namespace SoftRouter

/-- The process moves on by one state. -/
inductive RipState.Next : RipState → RipState → Prop where
  | starts : Next .idle .bootstrapped
  | runs : Next .bootstrapped .running

/-- What is sent comes from this interface and asks the group of routers for whole tables: one record of no family
with the metric infinity. -/
structure Asks (i : Interface) (out : Transmission) : Prop where
  interface : out.interface = i.name
  reads : ∃ f p u, EthernetFrame.decode out.frame.encode = .ok f ∧ Ipv4Packet.ofFrame f = .ok p ∧
    UdpSegment.ofPacket p = .ok u ∧ u.payload? = some ([1, 2, 0, 0] ++ List.replicate 19 0 ++ [16]) ∧
    f.src = i.mac ∧ f.dest = .broadcast ∧ p.isValid ∧ p.src = i.ip ∧ p.dest = ripGroup ∧ u.srcPort = ripPort ∧
    u.destPort = ripPort

theorem RipProcess.connected_eq (i : Interface) :
    connected i = ⟨i.ip.masked i.mask, i.mask, .unspecified, i.name, 0, none⟩ := by
  rw [connected, RouteEntry.fixed, Interface.network, Ipv4Addr.masked_masked]

theorem RipProcess.asks_transmission (i : Interface) :
    Asks i (transmission i ripGroup .broadcast ripPort .wholeTable) := by
  obtain ⟨p, u, packet, segment, payload, valid, src, dest, srcPort, destPort⟩ :=
    reads_encode (m := .wholeTable) (by decide) i ripGroup .broadcast ripPort
  exact ⟨rfl, _, p, u, EthernetFrame.decode_encode _, packet, segment, payload, rfl, rfl, valid, src, dest, srcPort,
    destPort⟩

namespace Router

variable {P : Ipv4Packet → Prop} {r : Router}

theorem handle_rip (r : Router) (now : Nat) (received : Transmission) :
    (r.handle now received.interface received.frame).1.rip = r.rip := by
  rcases hears_or_deaf r received with ⟨p, i, u, m, read, hears⟩ | deaf
  · rw [handle_of_hears read hears now, heard]
    cases m.command <;> rfl
  · exact (handle_still deaf now).rip

/-- The states that the process comes to in the course of a run; on bringing it up it comes to two. -/
def modes (r : Router) : List (Nat × Stimulus) → List RipState
  | [] => []
  | (_, .init) :: rest => (RipProcess.bootstrap r.rip r.interfaces r.routes).1 :: r.init.1.rip :: modes r.init.1 rest
  | (now, s) :: rest => (r.respond now s).1.rip :: modes (r.respond now s).1 rest

theorem bootstrap_next (s : RipState) (interfaces : InterfaceTable) (t : RouteTable) :
    Relation.ReflGen RipState.Next s (RipProcess.bootstrap s interfaces t).1 := by
  unfold RipProcess.bootstrap
  split
  · rename_i may
    obtain ⟨rfl, -⟩ : s = .idle ∧ t.entries.isEmpty := by simpa [RipProcess.canBootstrap] using may
    exact .single .starts
  · exact .refl

theorem run_next (s : RipState) : Relation.ReflGen RipState.Next s (RipProcess.run s) := by
  cases s with
  | idle => exact .refl
  | bootstrapped => exact .single .runs
  | running => exact .refl

/-- The process moves by one state at a time, and never back. -/
theorem isChain_modes (r : Router) (xs : List (Nat × Stimulus)) :
    (r.rip :: r.modes xs).IsChain (Relation.ReflGen RipState.Next) := by
  induction xs generalizing r with
  | nil => exact .singleton _
  | cons x rest ih =>
    obtain ⟨now, s⟩ := x
    have still (same : (r.respond now s).1.rip = r.rip) :
        (r.rip :: (r.respond now s).1.rip :: modes (r.respond now s).1 rest).IsChain
          (Relation.ReflGen RipState.Next) :=
      .cons_cons (same ▸ .refl) (ih _)
    cases s with
    | init => exact .cons_cons (bootstrap_next _ _ _) (.cons_cons (run_next _) (ih _))
    | frame received => exact still (handle_rip r now received)
    | arpTick order => exact still (arpTick_still r now order).rip
    | ripTick => exact still rfl

/-- The datagram is an ICMP message, or it was received in this run and is passed on. -/
def Relayed (xs : List (Nat × Stimulus)) (p : Ipv4Packet) : Prop :=
  p.protocol = .icmp ∨
    ∃ now received q, (now, .frame received) ∈ xs ∧ Ipv4Packet.ofFrame received.frame = .ok q ∧ p = q.aged

theorem init_of_routes (idle : r.rip = .idle) (routes : r.routes.entries ≠ []) : r.init = (r, []) := by
  have static : RipProcess.canBootstrap r.rip r.routes = false := by simp [RipProcess.canBootstrap, routes]
  obtain ⟨interfaces, table, arp, rip⟩ := r
  cases idle
  simp [init, RipProcess.bootstrap, static, RipProcess.run]

theorem ripTick_of_idle (idle : r.rip = .idle) (now : Nat) : r.ripTick now = (r, []) := by
  obtain ⟨interfaces, table, arp, rip⟩ := r
  cases idle
  rfl

theorem deaf_of_idle (idle : r.rip = .idle) (received : Transmission) (p : Ipv4Packet) : r.Deaf received p := by
  intro i u m hears
  cases idle.symm.trans hears.running

theorem sends_respond (icmp : ∀ p : Ipv4Packet, p.protocol = .icmp → P p) (idle : r.rip = .idle) (keeps : r.Keeps P)
    (now : Nat) {s : Stimulus} (static : s = .init → r.routes.entries ≠ [])
    (onward : ∀ received p, s = .frame received → Ipv4Packet.ofFrame received.frame = .ok p → P p.aged) :
    r.Sends P (r.respond now s) := by
  cases s with
  | init =>
    rw [respond, init_of_routes idle (static rfl)]
    exact .nothing keeps
  | frame received =>
    refine sends_handle icmp keeps (fun p _ => deaf_of_idle idle received p) ?_
    intro p read _
    exact onward received p rfl read
  | arpTick order => exact sends_arpTick icmp keeps order
  | ripTick =>
    rw [respond, ripTick_of_idle idle]
    exact .nothing keeps

/-- A router that is not brought up, or has routes when it is, only passes on. -/
theorem sends_run (icmp : ∀ p : Ipv4Packet, p.protocol = .icmp → P p) (idle : r.rip = .idle) (keeps : r.Keeps P)
    {xs : List (Nat × Stimulus)} (static : (∃ now, (now, .init) ∈ xs) → r.routes.entries ≠ [])
    (onward : ∀ now received p, (now, .frame received) ∈ xs → Ipv4Packet.ofFrame received.frame = .ok p → P p.aged) :
    r.Sends P (r.run xs) := by
  induction xs generalizing r with
  | nil => exact .nothing keeps
  | cons x rest ih =>
    obtain ⟨now, s⟩ := x
    have first : r.Sends P (r.respond now s) := by
      refine sends_respond icmp idle keeps now ?_ ?_
      · rintro rfl
        exact static ⟨now, List.mem_cons_self⟩
      · rintro received p rfl read
        exact onward now received p List.mem_cons_self read
    refine first.append (ih (first.rip.trans idle) first.keeps ?_ ?_)
    · rintro ⟨later, mem⟩ none
      exact static ⟨later, List.mem_cons_of_mem _ mem⟩ ((congrArg RouteTable.entries first.routes).symm.trans none)
    · intro later received p mem read
      exact onward later received p (List.mem_cons_of_mem _ mem) read

/-! ## Bringing a router up -/

/-- The router begins to run: with a table of the connected networks, in the order of its interfaces, and a question
to the neighbours of each. -/
structure Opens (interfaces : InterfaceTable) (done : Router × List Event) : Prop where
  running : done.1.rip = .running
  entries : done.1.routes.entries =
    interfaces.toList.map fun i => ⟨i.ip.masked i.mask, i.mask, .unspecified, i.name, 0, none⟩
  asks : List.Forall₂ Asks interfaces.toList (transmissions done.2)

theorem opens_init (idle : r.rip = .idle) (empty : r.routes.entries = []) : Opens r.interfaces r.init := by
  have may : RipProcess.canBootstrap r.rip r.routes = true := by simp [RipProcess.canBootstrap, idle, empty]
  have started : r.init = ({ r with rip := .running, routes := ⟨r.interfaces.toList.map RipProcess.connected⟩ },
      (RipProcess.toGroup r.interfaces .wholeTable).map .announced) := by
    simp [init, RipProcess.bootstrap, may, RipProcess.run]
  rw [started]
  refine ⟨rfl, List.map_congr_left fun i _ => RipProcess.connected_eq i, ?_⟩
  rw [transmissions_announced, RipProcess.toGroup, List.forall₂_map_right_iff]
  exact List.forall₂_same.2 fun i _ => RipProcess.asks_transmission i

/-- A run does not bring a router up, or it does so for the first time at some moment. -/
theorem first_init (xs : List (Nat × Stimulus)) : (∀ now, (now, .init) ∉ xs) ∨
    ∃ before start after, xs = before ++ (start, .init) :: after ∧ ∀ now, (now, .init) ∉ before := by
  cases found : xs.find? fun x => x.2 = .init with
  | none =>
    refine .inl ?_
    intro now mem
    simpa using List.find?_eq_none.1 found _ mem
  | some x =>
    obtain ⟨up, before, after, rfl, earlier⟩ := List.find?_eq_some_iff_append.1 found
    obtain ⟨start, s⟩ := x
    obtain rfl : s = .init := by simpa using up
    refine .inr ⟨before, start, after, rfl, ?_⟩
    intro now mem
    simpa using earlier _ mem

section
variable {interfaces : InterfaceTable} {routes : RouteTable} (created : make interfaces routes = .ok r)
include created

theorem idle_of_make : r.rip = .idle := by rw [eq_of_make created]

theorem keeps_of_make (P : Ipv4Packet → Prop) : r.Keeps P := by
  rw [eq_of_make created]
  intro ip res pending
  cases pending

/-- Up to the first time that it is brought up a router only passes on, and so it does for good if it has routes. -/
theorem sends_of_make (xs : List (Nat × Stimulus)) (static : (∃ now, (now, .init) ∈ xs) → routes.entries ≠ []) :
    r.Sends (Relayed xs) (r.run xs) := by
  refine sends_run (fun _ => .inl) (idle_of_make created) (keeps_of_make created _) ?_ ?_
  · rw [eq_of_make created]
    exact static
  · intro now received p mem read
    exact .inr ⟨now, received, p, mem, read, rfl⟩

/-- A router that was brought up without routes runs for good. -/
theorem running_of_init (empty : routes.entries = []) {before : List (Nat × Stimulus)}
    (first : ∀ now, (now, .init) ∉ before) (start : Nat) (after : List (Nat × Stimulus)) :
    (r.run before).1.rip = .idle ∧ (r.run before).1.routes.entries = [] ∧
      (r.run (before ++ (start, .init) :: after)).1.rip = .running := by
  have sends := sends_of_make created before fun ⟨now, mem⟩ => absurd mem (first now)
  have idle : (r.run before).1.rip = .idle := sends.rip.trans (idle_of_make created)
  have none : (r.run before).1.routes.entries = [] := by rw [sends.routes, eq_of_make created, empty]
  refine ⟨idle, none, ?_⟩
  rw [run_append, run_cons]
  exact (run_tidings (opens_init idle none).running after).1

/-- A router runs only if it was brought up without routes. -/
theorem exists_init_of_running {xs : List (Nat × Stimulus)} (running : (r.run xs).1.rip = .running) :
    routes.entries = [] ∧ ∃ before start after, xs = before ++ (start, .init) :: after ∧
      ∀ now, (now, .init) ∉ before := by
  have up : (∃ now, (now, .init) ∈ xs) ∧ routes.entries = [] := by
    by_contra static
    have idle := (sends_of_make created xs (not_and.1 static)).rip.trans (idle_of_make created)
    cases idle.symm.trans running
  obtain ⟨⟨now, mem⟩, empty⟩ := up
  refine ⟨empty, ?_⟩
  rcases first_init xs with never | first
  · exact absurd mem (never now)
  · exact first

/-- The routing protocol is decided on once, when the router is first brought up. The process only moves on. As long
as it does not run, and so for good if there were routes, the routes stay as they are and what is sent was received
or is an ICMP message. If there were none, it runs from the first time that the router is brought up, with one route
for every interface and one question on each; and bringing it up again does nothing. -/
theorem decided_once (xs : List (Nat × Stimulus)) :
    (r.rip :: r.modes xs).IsChain (Relation.ReflGen RipState.Next) ∧
      ((r.run xs).1.rip ≠ .running → (r.run xs).1.rip = .idle ∧ (r.run xs).1.routes = routes ∧
        ∀ out ∈ transmissions (r.run xs).2, out.frame.Carries (Relayed xs)) ∧
      (routes.entries ≠ [] → (r.run xs).1.rip = .idle) ∧
      (routes.entries = [] → ∀ before start after, xs = before ++ (start, .init) :: after →
        (∀ now, (now, .init) ∉ before) →
          Opens interfaces ((r.run before).1.respond start .init) ∧ (r.run xs).1.rip = .running ∧
            (r.run xs).1.init = ((r.run xs).1, [])) := by
  have static_or : (∃ now, (now, .init) ∈ xs) → (r.run xs).1.rip ≠ .running → routes.entries ≠ [] := by
    rintro ⟨now, mem⟩ still empty
    rcases first_init xs with never | ⟨before, start, after, rfl, first⟩
    · exact never now mem
    · exact still (running_of_init created empty first start after).2.2
  refine ⟨isChain_modes r xs, ?_, ?_, ?_⟩
  · intro still
    have sends := sends_of_make created xs fun up => static_or up still
    refine ⟨sends.rip.trans (idle_of_make created), ?_, sends.sent⟩
    rw [sends.routes, eq_of_make created]
  · intro filled
    exact (sends_of_make created xs fun _ => filled).rip.trans (idle_of_make created)
  · rintro empty before start after rfl first
    obtain ⟨idle, none, running⟩ := running_of_init created empty first start after
    have opens := opens_init idle none
    rw [run_interfaces, congrArg Router.interfaces (eq_of_make created)] at opens
    exact ⟨opens, running, init_of_running running⟩

end

theorem bareRouter_created : make twoPorts {} = .ok bareRouter := rfl

/-- A router without routes is brought up twice, and one with routes is told of a route. -/
theorem bareRouter_opens :
    Opens twoPorts (bareRouter.respond 0 .init) ∧
      (bareRouter.run [(0, .init), (5, .init)]).1.init = ((bareRouter.run [(0, .init), (5, .init)]).1, []) ∧
      (gatewayRouter.run [(0, .init), (1, .frame (onFirst corruptedResponse))]).1.rip = .idle := by
  obtain ⟨opens, -, again⟩ :=
    (decided_once bareRouter_created [(0, .init), (5, .init)]).2.2.2 rfl [] 0 [(5, .init)] rfl (by simp)
  exact ⟨opens, again, (decided_once gatewayRouter_created _).2.2.1 (by decide)⟩

end Router

end SoftRouter
