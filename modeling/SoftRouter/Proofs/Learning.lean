import Mathlib.Data.Fintype.BigOperators
import Mathlib.Data.Fintype.Card
import SoftRouter.Proofs.Steps

/-!
# What a table can learn

Once the routing protocol has started, the table is the connected networks followed by learned routes, one for each
network (`Learning`), through every run (`run_learns`). A network is a mask and the bits of an address that the mask
selects, so each of its 32 bits is one of three; a table has room for no more networks than that (`length_learned_le`).
-/

namespace SoftRouter

/-- What a route is addressed by. -/
def RouteEntry.network (e : RouteEntry) : Ipv4Addr × Ipv4Addr := (e.destination, e.mask)

/-- The route that an advertised entry gives to who hears it on an interface from this address. -/
def RipEntry.route (e : RipEntry) (i : Interface) (source : Ipv4Addr) (now : Nat) : RouteEntry :=
  ⟨e.network.masked e.mask, e.mask, source, i.name, RipProcess.metricThrough e.metric, some now⟩

theorem RouteEntry.isFor_iff {e : RouteEntry} {destination mask : Ipv4Addr} :
    e.isFor destination mask ↔ e.network = (destination, mask) := by
  simp [isFor, network]

/-- The networks of the interfaces. -/
def InterfaceTable.networks (t : InterfaceTable) : List (Ipv4Addr × Ipv4Addr) :=
  t.toList.map fun i => (i.network, i.mask)

namespace Ipv4Addr

/-- A bit of a network: not selected by the mask, or selected and clear, or selected and set. -/
def digit (network : Ipv4Addr × Ipv4Addr) (i : Fin 32) : Fin 3 :=
  if network.2.bits.toBitVec[i] then if network.1.bits.toBitVec[i] then 2 else 1 else 0

theorem bit_of_masked {network mask : Ipv4Addr} (masked : network.masked mask = network) (i : Fin 32)
    (set : network.bits.toBitVec[i] = true) : mask.bits.toBitVec[i] = true := by
  rw [← masked] at set
  simp only [Ipv4Addr.masked, UInt32.toBitVec_and, Fin.getElem_fin, BitVec.getElem_and, Bool.and_eq_true] at set
  exact set.2

theorem ext_bits {a b : Ipv4Addr} (same : ∀ i : Fin 32, a.bits.toBitVec[i] = b.bits.toBitVec[i]) : a = b := by
  obtain ⟨a⟩ := a
  obtain ⟨b⟩ := b
  exact congrArg _ (UInt32.eq_of_toBitVec_eq (BitVec.eq_of_getElem_eq fun i h => same ⟨i, h⟩))

theorem digit_injective {a b : Ipv4Addr × Ipv4Addr} (ma : a.1.masked a.2 = a.1) (mb : b.1.masked b.2 = b.1)
    (same : digit a = digit b) : a = b := by
  have bits (i : Fin 32) :
      a.1.bits.toBitVec[i] = b.1.bits.toBitVec[i] ∧ a.2.bits.toBitVec[i] = b.2.bits.toBitVec[i] := by
    have each := congrFun same i
    have left := bit_of_masked ma i
    have right := bit_of_masked mb i
    unfold digit at each
    generalize a.1.bits.toBitVec[i] = a1, a.2.bits.toBitVec[i] = a2, b.1.bits.toBitVec[i] = b1,
      b.2.bits.toBitVec[i] = b2 at *
    cases a1 <;> cases a2 <;> cases b1 <;> cases b2 <;> simp_all
  exact Prod.ext (ext_bits fun i => (bits i).1) (ext_bits fun i => (bits i).2)

/-- So many networks there are. -/
theorem length_networks_le {networks : List (Ipv4Addr × Ipv4Addr)} (distinct : networks.Nodup)
    (masked : ∀ n ∈ networks, n.1.masked n.2 = n.1) : networks.length ≤ 3 ^ 32 := by
  have digits : (networks.map digit).Nodup :=
    List.Nodup.map_on (fun a ha b hb => digit_injective (masked a ha) (masked b hb)) distinct
  simpa using digits.length_le_card

end Ipv4Addr

/-! ## Tables -/

namespace RouteTable

/-- The table is the connected networks, and behind them learned routes, one for each network. -/
structure Learning (interfaces : InterfaceTable) (learned : List RouteEntry) (t : RouteTable) : Prop where
  entries : t.entries = interfaces.toList.map RipProcess.connected ++ learned
  isLearned : ∀ e ∈ learned, e.isLearned
  masked : ∀ e ∈ learned, e.destination.masked e.mask = e.destination
  distinct : (learned.map RouteEntry.network).Nodup

theorem length_learned_le {interfaces : InterfaceTable} {learned : List RouteEntry} {t : RouteTable}
    (learning : t.Learning interfaces learned) : learned.length ≤ 3 ^ 32 := by
  rw [← List.length_map RouteEntry.network]
  refine Ipv4Addr.length_networks_le learning.distinct ?_
  intro n mem
  obtain ⟨e, there, rfl⟩ := List.mem_map.1 mem
  exact learning.masked e there

/-- Into learned routes every route is taken in, in the place of the one for its network. -/
theorem learnInto_learned (e : RouteEntry) {learned : List RouteEntry} (all : ∀ x ∈ learned, x.isLearned)
    (distinct : (learned.map RouteEntry.network).Nodup) :
    ∃ entries, learnInto e learned = some entries ∧
      (∀ x, x ∈ entries ↔ x = e ∨ x ∈ learned ∧ x.network ≠ e.network) ∧
      entries.map RouteEntry.network = if e.network ∈ learned.map RouteEntry.network then learned.map RouteEntry.network
        else learned.map RouteEntry.network ++ [e.network] := by
  induction learned with
  | nil => exact ⟨[e], rfl, by simp, rfl⟩
  | cons x rest ih =>
    obtain ⟨new, distinct⟩ := List.nodup_cons.1 distinct
    rw [learnInto]
    by_cases same : x.isFor e.destination e.mask
    · have network : x.network = e.network := RouteEntry.isFor_iff.1 same
      refine ⟨e :: rest, ?_, ?_, ?_⟩
      · rw [if_pos same, if_pos (all x List.mem_cons_self)]
      · intro y
        constructor
        · rintro (_ | ⟨_, mem⟩)
          · exact .inl rfl
          · refine .inr ⟨List.mem_cons_of_mem x mem, ?_⟩
            intro again
            exact new (network.trans again.symm ▸ List.mem_map_of_mem mem)
        · rintro (rfl | ⟨mem, other⟩)
          · exact List.mem_cons_self
          · rcases List.mem_cons.1 mem with rfl | mem
            · exact absurd network other
            · exact List.mem_cons_of_mem e mem
      · rw [if_pos (by simp [network]), List.map_cons, List.map_cons, network]
    · have network : e.network ≠ x.network := fun eq => same (RouteEntry.isFor_iff.2 eq.symm)
      obtain ⟨entries, taken, among, networks⟩ := ih (fun y mem => all y (List.mem_cons_of_mem x mem)) distinct
      refine ⟨x :: entries, ?_, ?_, ?_⟩
      · rw [if_neg same, taken]
        rfl
      · intro y
        rw [List.mem_cons, among, List.mem_cons]
        constructor
        · rintro (rfl | rfl | ⟨mem, other⟩)
          · exact .inr ⟨.inl rfl, network.symm⟩
          · exact .inl rfl
          · exact .inr ⟨.inr mem, other⟩
        · rintro (rfl | ⟨rfl | mem, other⟩)
          · exact .inr (.inl rfl)
          · exact .inl rfl
          · exact .inr (.inr ⟨mem, other⟩)
      · rw [List.map_cons, List.map_cons, networks]
        by_cases mem : e.network ∈ rest.map RouteEntry.network
        · rw [if_pos mem, if_pos (List.mem_cons_of_mem _ mem)]
        · rw [if_neg mem, if_neg (List.not_mem_cons_of_ne_of_not_mem network mem)]
          rfl

/-- Behind routes that stay for ever a route is taken in unless one of them is for its network. -/
theorem learnInto_append (e : RouteEntry) {fixed : List RouteEntry} (steady : ∀ x ∈ fixed, ¬ x.isLearned)
    (learned : List RouteEntry) : learnInto e (fixed ++ learned) =
      if e.network ∈ fixed.map RouteEntry.network then none else (learnInto e learned).map (fixed ++ ·) := by
  induction fixed with
  | nil => simp
  | cons x rest ih =>
    have others := ih fun y mem => steady y (List.mem_cons_of_mem x mem)
    rw [List.cons_append, learnInto, others, List.map_cons]
    by_cases same : x.isFor e.destination e.mask
    · have network : x.network = e.network := RouteEntry.isFor_iff.1 same
      rw [if_pos same, if_neg (steady x List.mem_cons_self), if_pos (by rw [network]; exact List.mem_cons_self)]
    · have network : e.network ≠ x.network := fun eq => same (RouteEntry.isFor_iff.2 eq.symm)
      rw [if_neg same]
      by_cases mem : e.network ∈ rest.map RouteEntry.network
      · rw [if_pos mem, if_pos (List.mem_cons_of_mem _ mem)]
        rfl
      · rw [if_neg mem, if_neg (List.not_mem_cons_of_ne_of_not_mem network mem), Option.map_map]
        rfl

/-- The table when a route is heard of. -/
def hear (t : RouteTable) (e : RouteEntry) : RouteTable := ⟨(learnInto e t.entries).getD t.entries⟩

theorem learnEntry_eq_hear (i : Interface) (source : Ipv4Addr) (now : Nat) (t : RouteTable) (e : RipEntry) :
    RipProcess.learnEntry i source now t e = t.hear (e.route i source now) := by
  show (Option.map RouteTable.mk (learnInto (e.route i source now) t.entries)).getD t = _
  unfold hear
  cases learnInto (e.route i source now) t.entries <;> rfl

theorem networks_connected (interfaces : InterfaceTable) :
    (interfaces.toList.map RipProcess.connected).map RouteEntry.network = interfaces.networks := by
  rw [List.map_map]
  refine List.map_congr_left ?_
  intro i _
  exact congrArg (·, i.mask) (Ipv4Addr.masked_masked i.ip i.mask)

theorem connected_not_learned (interfaces : InterfaceTable) :
    ∀ x ∈ interfaces.toList.map RipProcess.connected, ¬ x.isLearned := by
  intro x mem
  obtain ⟨i, -, rfl⟩ := List.mem_map.1 mem
  exact Bool.false_ne_true

section
variable {interfaces : InterfaceTable} {learned : List RouteEntry} {t : RouteTable}
  (learning : t.Learning interfaces learned)
include learning

/-- What is heard of the network of an interface changes nothing. -/
theorem hear_connected {e : RouteEntry} (own : e.network ∈ interfaces.networks) : t.hear e = t := by
  unfold hear
  rw [learning.entries, learnInto_append e (connected_not_learned interfaces), networks_connected, if_pos own,
    Option.getD_none, ← learning.entries]

/-- What is heard of another network takes the place of what was known of it. -/
theorem hear_learning {e : RouteEntry} (isLearned : e.isLearned) (masked : e.destination.masked e.mask = e.destination)
    (other : e.network ∉ interfaces.networks) :
    ∃ heard, (t.hear e).Learning interfaces heard ∧
      (∀ x, x ∈ heard ↔ x = e ∨ x ∈ learned ∧ x.network ≠ e.network) ∧
      heard.map RouteEntry.network = if e.network ∈ learned.map RouteEntry.network then learned.map RouteEntry.network
        else learned.map RouteEntry.network ++ [e.network] := by
  obtain ⟨entries, taken, among, networks⟩ := learnInto_learned e learning.isLearned learning.distinct
  refine ⟨entries, ⟨?_, ?_, ?_, ?_⟩, among, networks⟩
  · unfold hear
    rw [learning.entries, learnInto_append e (connected_not_learned interfaces), networks_connected, if_neg other,
      taken]
    rfl
  · intro x mem
    rcases (among x).1 mem with rfl | ⟨mem, -⟩
    · exact isLearned
    · exact learning.isLearned x mem
  · intro x mem
    rcases (among x).1 mem with rfl | ⟨mem, -⟩
    · exact masked
    · exact learning.masked x mem
  · rw [networks]
    split
    · exact learning.distinct
    · rename_i new
      exact List.nodup_append.2 ⟨learning.distinct, List.nodup_singleton _, by
        rintro a there b (_ | ⟨_, ⟨⟩⟩) rfl
        exact new there⟩

theorem learnEntry_learning (i : Interface) (source : Ipv4Addr) (now : Nat) (e : RipEntry) :
    ∃ learned, (RipProcess.learnEntry i source now t e).Learning interfaces learned := by
  rw [learnEntry_eq_hear]
  by_cases own : (e.route i source now).network ∈ interfaces.networks
  · rw [hear_connected learning own]
    exact ⟨learned, learning⟩
  · obtain ⟨heard, heardLearning, -⟩ := hear_learning learning rfl (Ipv4Addr.masked_masked _ _) own
    exact ⟨heard, heardLearning⟩

theorem expire_learning (now timeout : Nat) :
    (t.expire now timeout).Learning interfaces (learned.filter fun e => !e.isStale now timeout) := by
  have kept : (interfaces.toList.map RipProcess.connected).filter (fun e => !e.isStale now timeout) =
      interfaces.toList.map RipProcess.connected := by
    rw [List.filter_eq_self]
    intro e mem
    obtain ⟨i, -, rfl⟩ := List.mem_map.1 mem
    rfl
  exact {
    entries := by rw [expire, learning.entries, List.filter_append, kept]
    isLearned := fun e mem => learning.isLearned e (List.mem_of_mem_filter mem)
    masked := fun e mem => learning.masked e (List.mem_of_mem_filter mem)
    distinct := learning.distinct.sublist (List.filter_sublist.map _) }

end

end RouteTable

namespace Router

/-- Once the routing protocol has started, the table is one that it learns into. -/
def Learns (r : Router) : Prop := r.rip ≠ .idle → ∃ learned, r.routes.Learning r.interfaces learned

theorem receive_learns {r : Router} (learns : r.Learns) (i : Interface) (mac : Mac) (p : Ipv4Packet) (u : UdpSegment)
    (now : Nat) : r.rip ≠ .idle →
      ∃ learned, (RipProcess.receive r.rip i mac p u r.routes now).1.Learning r.interfaces learned := by
  intro started
  unfold RipProcess.receive
  split
  · split
    · rename_i m _
      unfold RipProcess.take
      split
      · exact learns started
      · -- One entry after the other is taken in.
        have start := learns started
        generalize r.routes = t at start
        induction m.entries generalizing t with
        | nil => exact start
        | cons e rest ih =>
          obtain ⟨learned, learning⟩ := start
          exact ih _ (RouteTable.learnEntry_learning learning i p.src now e)
    · exact learns started
  · exact learns started

theorem init_learns {r : Router} (learns : r.Learns) : r.init.1.Learns := by
  by_cases may : RipProcess.canBootstrap r.rip r.routes
  · simp only [Learns, init, RipProcess.bootstrap, if_pos may]
    intro _
    exact ⟨[], ⟨(List.append_nil _).symm, by simp, by simp, by simp⟩⟩
  · simp only [Learns, init, RipProcess.bootstrap, if_neg may]
    intro started
    refine learns fun idle => started ?_
    rw [idle]
    rfl

theorem act_learns {r s : Router} {now : Nat} {events : List Event} (learns : r.Learns) (act : Act now r events s) :
    s.Learns := by
  cases act with
  | handover step => cases step <;> exact learns
  | quiet step =>
    cases step with
    | init => exact init_learns learns
    | ripTick =>
      by_cases running : r.rip = .running
      · simp only [Learns, ripTick, RipProcess.tick, if_pos running]
        intro started
        obtain ⟨learned, learning⟩ := learns started
        exact ⟨_, RouteTable.expire_learning learning now ripTimeout⟩
      · simp only [Learns, ripTick, RipProcess.tick, if_neg running]
        exact learns
    | rip _ _ _ => exact receive_learns learns _ _ _ _ now
    | answer _ => exact learns
  | meet _ _ _ => exact learns
  | tick => exact learns
  | ask _ _ => exact learns

theorem run_learns {interfaces : InterfaceTable} {routes : RouteTable} {r : Router}
    (created : make interfaces routes = .ok r) (xs : List (Nat × Stimulus)) : (r.run xs).1.Learns := by
  refine run_keeps (fun r now s learns => ?_) ?_ xs
  · exact (respond_trace r now s).keeps_state Learns (fun _ _ _ learns act => act_learns learns act) learns
  · rw [eq_of_make created]
    exact fun started => absurd rfl started

end Router

end SoftRouter
