import Mathlib.Data.List.Nodup
import SoftRouter.Proofs.Lookup
import SoftRouter.Proofs.Standing

/-!
# The order in which neighbours are heard

Lookup takes the earliest of the most specific routes, and the table holds its learned routes in the order in which
their networks came in. But of the learned routes that cover an address no two have the same mask, so their order does
not matter to lookup (`lookup_eq_of_mem_iff`); and responses about different networks leave the same routes in whatever
order they are heard, and a response heard again leaves all as it is (`heard_in_any_order`).
-/

namespace SoftRouter

namespace RouteTable

section
variable {interfaces : InterfaceTable} {learned others : List RouteEntry} {t u : RouteTable}

/-- Learned routes with the same mask that cover the same address are for the same network, so they are one. -/
theorem Learning.eq_of_mask (learning : t.Learning interfaces learned) {ip : Ipv4Addr} {a b : RouteEntry}
    (ha : a ∈ learned) (hb : b ∈ learned) (covers : a.covers ip) (covers' : b.covers ip) (mask : a.mask = b.mask) :
    a = b := by
  have network : a.network = b.network := by
    refine Prod.ext ?_ mask
    calc a.destination
      _ = a.destination.masked a.mask := (learning.masked a ha).symm
      _ = ip.masked a.mask := of_decide_eq_true covers
      _ = ip.masked b.mask := by rw [mask]
      _ = b.destination.masked b.mask := (of_decide_eq_true covers').symm
      _ = b.destination := learning.masked b hb
  exact List.inj_on_of_nodup_map learning.distinct ha hb network

/-- Tables that have learned the same routes find the same ones. -/
theorem lookup_eq_of_mem_iff (learning : t.Learning interfaces learned) (learning' : u.Learning interfaces others)
    (same : ∀ e, e ∈ learned ↔ e ∈ others) (ip : Ipv4Addr) : t.lookup ip = u.lookup ip := by
  rw [lookup, lookup, learning.entries, learning'.entries, List.filter_append, List.filter_append]
  apply mostSpecific_append_congr
  apply mostSpecific_eq_of_mem_iff
  · intro e
    rw [List.mem_filter, List.mem_filter, same]
  · intro a ha b hb mask
    obtain ⟨ha, reaches⟩ := List.mem_filter.1 ha
    obtain ⟨hb, reaches'⟩ := List.mem_filter.1 hb
    exact learning.eq_of_mask ha hb (Bool.and_eq_true_iff.1 reaches).2 (Bool.and_eq_true_iff.1 reaches').2 mask

end

end RouteTable

/-- Of two passes over different networks it does not matter which comes first. -/
theorem stands_swap {ts : List Tiding} {first second : List Advert}
    (apart : ∀ a ∈ first, ∀ b ∈ second, a.network ≠ b.network) (a : Advert) :
    Stands (ts ++ (first.map .advert ++ second.map .advert)) a ↔
      Stands (ts ++ (second.map .advert ++ first.map .advert)) a := by
  have mem_of_stands {as : List Advert} (stands : Stands (as.map .advert) a) : a ∈ as := by
    obtain ⟨before, after, split, -⟩ := stands
    have mem : Tiding.advert a ∈ as.map .advert := by simp [split]
    obtain ⟨b, there, same⟩ := List.mem_map.1 mem
    cases same
    exact there
  have spared_first (stands : Stands (second.map .advert) a) : ∀ x ∈ first.map Tiding.advert, x.Spares a := by
    intro x mem
    obtain ⟨b, there, rfl⟩ := List.mem_map.1 mem
    exact apart b there a (mem_of_stands stands)
  have spared_second (stands : Stands (first.map .advert) a) : ∀ x ∈ second.map Tiding.advert, x.Spares a := by
    intro x mem
    obtain ⟨b, there, rfl⟩ := List.mem_map.1 mem
    exact (apart a (mem_of_stands stands) b there).symm
  simp only [← List.append_assoc, stands_append]
  tauto

/-- A second pass like the first leaves what stands. -/
theorem stands_again {ts us : List Tiding} (a : Advert) : Stands (ts ++ us ++ us) a ↔ Stands (ts ++ us) a := by
  simp only [stands_append]
  tauto

namespace RouteTable

section
variable {interfaces : InterfaceTable} {ts us : List Tiding} {learned others : List RouteEntry} {t u : RouteTable}

theorem Learning.unique (learning : t.Learning interfaces learned) (learning' : t.Learning interfaces others) :
    learned = others :=
  List.append_cancel_left (learning.entries.symm.trans learning'.entries)

theorem same_of_knows (knows : t.Knows interfaces ts) (knows' : u.Knows interfaces us)
    (same : ∀ a, Stands ts a ↔ Stands us a) : t.entries.Perm u.entries ∧ ∀ ip, t.lookup ip = u.lookup ip := by
  obtain ⟨learned, learning, among⟩ := knows
  obtain ⟨others, learning', among'⟩ := knows'
  have both (e : RouteEntry) : e ∈ learned ↔ e ∈ others := by
    rw [among, among']
    simp only [same]
  refine ⟨?_, lookup_eq_of_mem_iff learning learning' both⟩
  rw [learning.entries, learning'.entries]
  refine List.Perm.append_left _ ?_
  exact (List.perm_ext_iff_of_nodup learning.distinct.of_map learning'.distinct.of_map).2 both

/-- The network that is advertised is known afterwards, behind those known before if it is new. -/
theorem hear_networks (learning : t.Learning interfaces learned) (a : Advert) :
    ∃ heard, (t.note (.advert a)).Learning interfaces heard ∧
      (a.network ∈ interfaces.networks ∨ a.network ∈ heard.map RouteEntry.network) ∧
      learned.map RouteEntry.network ⊆ heard.map RouteEntry.network ∧
      (a.network ∈ interfaces.networks ∨ a.network ∈ learned.map RouteEntry.network →
        heard.map RouteEntry.network = learned.map RouteEntry.network) := by
  by_cases own : a.network ∈ interfaces.networks
  · refine ⟨learned, ?_, .inl own, List.Subset.refl _, fun _ => rfl⟩
    rw [note, hear_connected learning (e := a.route) own]
    exact learning
  · obtain ⟨heard, heardLearning, -, networks⟩ := hear_learning learning (e := a.route) rfl a.masked_route own
    have networks : heard.map RouteEntry.network = if a.network ∈ learned.map RouteEntry.network then
        learned.map RouteEntry.network else learned.map RouteEntry.network ++ [a.network] := networks
    refine ⟨heard, heardLearning, ?_⟩
    rw [networks]
    by_cases known : a.network ∈ learned.map RouteEntry.network
    · rw [if_pos known]
      exact ⟨.inr known, List.Subset.refl _, fun _ => rfl⟩
    · rw [if_neg known]
      exact ⟨.inr (by simp), List.subset_append_left _ _, fun either => absurd either (not_or.2 ⟨own, known⟩)⟩

/-- After a pass over advertisements their networks are known. -/
theorem known_of_pass (learning : t.Learning interfaces learned) (as : List Advert) :
    ∃ heard, ((as.map .advert).foldl note t).Learning interfaces heard ∧
      learned.map RouteEntry.network ⊆ heard.map RouteEntry.network ∧
      ∀ a ∈ as, a.network ∈ interfaces.networks ∨ a.network ∈ heard.map RouteEntry.network := by
  induction as generalizing t learned with
  | nil => exact ⟨learned, learning, List.Subset.refl _, by simp⟩
  | cons a rest ih =>
    obtain ⟨first, firstLearning, known, kept, -⟩ := hear_networks learning a
    obtain ⟨heard, heardLearning, keptLater, knownLater⟩ := ih firstLearning
    refine ⟨heard, heardLearning, List.Subset.trans kept keptLater, ?_⟩
    intro b mem
    rcases List.mem_cons.1 mem with rfl | mem
    · exact known.imp_right fun there => keptLater there
    · exact knownLater b mem

/-- A pass over known networks leaves them in their order. -/
theorem networks_of_pass (learning : t.Learning interfaces learned) {as : List Advert}
    (known : ∀ a ∈ as, a.network ∈ interfaces.networks ∨ a.network ∈ learned.map RouteEntry.network) :
    ∃ heard, ((as.map .advert).foldl note t).Learning interfaces heard ∧
      heard.map RouteEntry.network = learned.map RouteEntry.network := by
  induction as generalizing t learned with
  | nil => exact ⟨learned, learning, rfl⟩
  | cons a rest ih =>
    obtain ⟨first, firstLearning, -, -, same⟩ := hear_networks learning a
    have networks := same (known a List.mem_cons_self)
    obtain ⟨heard, heardLearning, later⟩ := ih firstLearning fun b mem =>
      networks ▸ known b (List.mem_cons_of_mem a mem)
    exact ⟨heard, heardLearning, later.trans networks⟩

/-- Routes for the same networks in the same order are the same if they are the same in any order. -/
theorem eq_of_networks {routes others : List RouteEntry} (distinct : (routes.map RouteEntry.network).Nodup)
    (networks : others.map RouteEntry.network = routes.map RouteEntry.network)
    (same : ∀ e, e ∈ others → e ∈ routes) : others = routes := by
  have length : others.length = routes.length := by simpa using congrArg List.length networks
  refine List.ext_getElem length ?_
  intro i h h'
  refine List.inj_on_of_nodup_map distinct (same _ (List.getElem_mem h)) (List.getElem_mem h') ?_
  have each := List.getElem_of_eq networks (by simpa using h)
  simpa using each

/-- Advertisements that are heard once more change nothing. -/
theorem foldl_note_again (knows : t.Knows interfaces ts) (as : List Advert) :
    (as.map .advert).foldl note ((as.map .advert).foldl note t) = (as.map .advert).foldl note t := by
  obtain ⟨once, onceLearning, amongOnce⟩ := knows_foldl knows (as.map .advert)
  obtain ⟨twice, twiceLearning, amongTwice⟩ := knows_foldl (knows_foldl knows (as.map .advert)) (as.map .advert)
  obtain ⟨_, learning, -⟩ := knows
  obtain ⟨heard, heardLearning, -, known⟩ := known_of_pass learning as
  rw [heardLearning.unique onceLearning] at known
  obtain ⟨again, againLearning, networks⟩ := networks_of_pass onceLearning known
  rw [againLearning.unique twiceLearning] at networks
  have same : twice = once := by
    refine eq_of_networks onceLearning.distinct networks ?_
    intro e
    rw [amongOnce, amongTwice]
    simp only [stands_again]
    exact id
  exact congrArg RouteTable.mk (twiceLearning.entries.trans (same ▸ onceLearning.entries.symm))

end

end RouteTable

/-! ## Responses in another order -/

namespace Router

variable {r : Router} {interfaces : InterfaceTable} {routes : RouteTable}

theorem run_response {received : Transmission} {x : RipResponse} (running : r.rip = .running)
    (arrived : RipResponse.of? r.interfaces received = some x) (now : Nat) (rest : List (Nat × Stimulus)) :
    r.run ((now, .frame received) :: rest) =
      run { r with routes := (x.tidings now).foldl RouteTable.note r.routes } rest := by
  rw [run_cons, respond, handle_of_response running arrived now]
  rfl

theorem routes_of_responses {f g : Transmission} {x y : RipResponse} (running : r.rip = .running)
    (first : RipResponse.of? r.interfaces f = some x) (second : RipResponse.of? r.interfaces g = some y)
    (now later : Nat) : (r.run [(now, .frame f), (later, .frame g)]).1.routes =
      (x.tidings now ++ y.tidings later).foldl RouteTable.note r.routes := by
  let s : Router := { r with routes := (x.tidings now).foldl RouteTable.note r.routes }
  have secondLater : RipResponse.of? s.interfaces g = some y := second
  have runningLater : s.rip = .running := running
  rw [run_response running first, run_response runningLater secondLater, List.foldl_append]
  rfl

/-- A response that is heard once more at the same time changes nothing. -/
theorem run_response_again {f : Transmission} {x : RipResponse} {ts : List Tiding}
    (knows : r.routes.Knows r.interfaces ts) (running : r.rip = .running)
    (arrived : RipResponse.of? r.interfaces f = some x) (now : Nat) :
    r.run [(now, .frame f), (now, .frame f)] = r.run [(now, .frame f)] := by
  let s : Router := { r with routes := (x.tidings now).foldl RouteTable.note r.routes }
  have arrivedLater : RipResponse.of? s.interfaces f = some x := arrived
  have runningLater : s.rip = .running := running
  have same : (x.tidings now).foldl RouteTable.note s.routes = s.routes :=
    RouteTable.foldl_note_again knows (x.adverts now)
  rw [run_response running arrived now [(now, .frame f)], run_response runningLater arrivedLater now [],
    run_response running arrived now [], same]

/-- Whatever a running router has heard, two responses that share no network leave the same routes in either order,
and every lookup finds the same; and a response that is heard once more at the same time changes nothing. -/
theorem heard_in_any_order (created : make interfaces routes = .ok r) (xs : List (Nat × Stimulus))
    (running : (r.run xs).1.rip = .running) {f g : Transmission} {x y : RipResponse}
    (first : RipResponse.of? interfaces f = some x) (second : RipResponse.of? interfaces g = some y) (now later : Nat)
    (apart : ∀ a ∈ x.adverts now, ∀ b ∈ y.adverts later, a.network ≠ b.network) :
    (r.run (xs ++ [(now, .frame f), (later, .frame g)])).1.routes.entries.Perm
        (r.run (xs ++ [(later, .frame g), (now, .frame f)])).1.routes.entries ∧
      (∀ ip, (r.run (xs ++ [(now, .frame f), (later, .frame g)])).1.routes.lookup ip =
        (r.run (xs ++ [(later, .frame g), (now, .frame f)])).1.routes.lookup ip) ∧
      r.run (xs ++ [(now, .frame f), (now, .frame f)]) = r.run (xs ++ [(now, .frame f)]) := by
  obtain ⟨-, ts, -, knows⟩ := knows_of_running created running
  have ports : interfaces = (r.run xs).1.interfaces := by rw [run_interfaces, eq_of_make created]
  rw [ports] at first second knows
  have swapped := RouteTable.same_of_knows
    (RouteTable.knows_foldl knows (x.tidings now ++ y.tidings later))
    (RouteTable.knows_foldl knows (y.tidings later ++ x.tidings now)) (stands_swap apart)
  rw [← routes_of_responses running first second, ← routes_of_responses running second first] at swapped
  simp only [run_append]
  refine ⟨swapped.1, swapped.2, ?_⟩
  rw [run_response_again knows running first now]

/-- A neighbour on the other port advertises a part of the network. -/
def sevenPart : RipMessage := ⟨.response, [.make (.ofOctets 7 7 0 0) (.ofOctets 255 255 0 0) 3]⟩

def wide : Transmission := onFirst (response (.ofOctets 10 0 0 7) sevenNet)

def narrow : Transmission :=
  ⟨"eth1", ⟨station 2, station 9, etherTypeIpv4, (response (.ofOctets 10 0 1 9) sevenPart).encode⟩⟩

/-- Two neighbours are heard in either order, and one of them twice. -/
theorem sevens_in_any_order :
    (bareRouter.run [(0, .init), (1, .frame wide), (2, .frame narrow)]).1.routes.lookup (.ofOctets 7 7 7 7) =
        (bareRouter.run [(0, .init), (2, .frame narrow), (1, .frame wide)]).1.routes.lookup (.ofOctets 7 7 7 7) ∧
      bareRouter.run [(0, .init), (1, .frame wide), (1, .frame wide)] =
        bareRouter.run [(0, .init), (1, .frame wide)] := by
  have first : RipResponse.of? twoPorts wide =
      some ⟨⟨"eth0", station 1, .ofOctets 10 0 0 1, .ofOctets 255 255 255 0⟩, .ofOctets 10 0 0 7,
        [⟨2, 0, .ofOctets 7 0 0 0, .ofOctets 255 0 0 0, .unspecified, 1⟩]⟩ := by decide +kernel
  have second : RipResponse.of? twoPorts narrow =
      some ⟨⟨"eth1", station 2, .ofOctets 10 0 1 1, .ofOctets 255 255 255 0⟩, .ofOctets 10 0 1 9,
        [⟨2, 0, .ofOctets 7 7 0 0, .ofOctets 255 255 0 0, .unspecified, 3⟩]⟩ := by decide +kernel
  obtain ⟨-, lookups, again⟩ :=
    heard_in_any_order bareRouter_created [(0, .init)] (by decide +kernel) first second 1 2 (by decide +kernel)
  exact ⟨lookups (.ofOctets 7 7 7 7), again⟩

end Router

end SoftRouter
