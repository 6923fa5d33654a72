import SoftRouter.Neighbours

/-!
# What the operations of address resolution do

Each operation on the neighbours and the resolutions under way, said through `mac?` and `resolution?`: which
address is known, and which is being asked for and with which frames waiting. A tick may come upon the resolutions in
any order (`exists_visited_iff`).
-/

namespace SoftRouter

theorem Ipv4Addr.bits_inj {a b : Ipv4Addr} : a.bits = b.bits ↔ a = b := by
  cases a
  cases b
  simp

@[simp] theorem Resolution.waiting_advanced (r : Resolution) (now : Nat) : (r.advanced now).waiting = r.waiting := by
  unfold advanced
  split <;> rfl

@[simp] theorem Resolution.interface_advanced (r : Resolution) (now : Nat) :
    (r.advanced now).interface = r.interface := by
  unfold advanced
  split <;> rfl

/-- What goes on has just asked or waits for its turn. -/
theorem Resolution.need_advanced {r : Resolution} {now : Nat} (goesOn : r.need now ≠ .surrender) :
    (r.advanced now).need now = .patience := by
  unfold advanced
  cases need : r.need now with
  | patience => simpa using need
  | question => simpa using r.need_asked now
  | surrender => exact absurd need goesOn

namespace NeighbourCache

variable (c : NeighbourCache) (d : Delivery) (now : Nat)

/-- The frames that wait for an address, each with the interface on which it is asked for. -/
def queue (ip : Ipv4Addr) : List (String × EthernetFrame) :=
  (c.resolution? ip).toList.flatMap fun r => r.waiting.map (r.interface, ·)

theorem queue_of_resolution {c : NeighbourCache} {ip : Ipv4Addr} {r : Resolution}
    (pending : c.resolution? ip = some r) : c.queue ip = r.waiting.map (r.interface, ·) := by
  simp [queue, pending]

theorem queue_of_none {c : NeighbourCache} {ip : Ipv4Addr} (none : c.resolution? ip = none) : c.queue ip = [] := by
  simp [queue, none]

theorem ip_of_resolution {c : NeighbourCache} {ip : Ipv4Addr} {r : Resolution} (pending : c.resolution? ip = some r) :
    r.ip = ip := by
  have key : r.key = ip.bits := Keyed.key_of_find? pending
  exact Ipv4Addr.bits_inj.1 key

@[simp] theorem mac?_await (ip : Ipv4Addr) : (c.await d now).1.mac? ip = c.mac? ip := by
  unfold await
  dsimp only
  split <;> rfl

theorem await_outcome : (c.await d now).2 = match (c.joined d).need now with
    | .patience => .waiting
    | .question => .asking (c.joined d).ip (c.joined d).interface
    | .surrender => .abandoned (c.joined d) := by
  unfold await
  dsimp only
  cases (c.joined d).need now <;> rfl

/-- The resolution for the next hop goes on as the one the frame joined, unless that one is given up. -/
theorem resolution?_await_self : (c.await d now).1.resolution? d.nextHop =
    if (c.joined d).need now = .surrender then none else some ((c.joined d).advanced now) := by
  have place : (c.joined d).key = d.nextHop.bits := key_joined c d
  unfold await resolution? Resolution.advanced
  dsimp only
  split <;> rename_i need <;> rw [need]
  · simp [Keyed.find?_put, place]
  · simp [Keyed.find?_put, place]
  · simp

theorem resolution?_await_ne {ip : Ipv4Addr} (ne : d.nextHop ≠ ip) :
    (c.await d now).1.resolution? ip = c.resolution? ip := by
  have apart : d.nextHop.bits ≠ ip.bits := by
    intro same
    exact ne (Ipv4Addr.bits_inj.1 same)
  have elsewhere : (c.joined d).key ≠ ip.bits := key_joined c d ▸ apart
  unfold await resolution?
  dsimp only
  split
  · rw [Keyed.find?_put, if_neg elsewhere]
  · rw [Keyed.find?_put, Resolution.key_asked, if_neg elsewhere]
  · exact Keyed.find?_erase_ne _ apart.symm

theorem waiting_joined : (c.joined d).waiting = (c.queue d.nextHop).map Prod.snd ++ [d.frame] := by
  unfold joined queue
  cases c.resolution? d.nextHop <;> simp [Resolution.join, Function.comp_def]

theorem interface_joined :
    (c.joined d).interface = ((c.resolution? d.nextHop).map Resolution.interface).getD d.interface := by
  unfold joined
  cases c.resolution? d.nextHop <;> rfl

theorem ip_joined : (c.joined d).ip = d.nextHop := Ipv4Addr.bits_inj.1 (key_joined c d)

theorem queue_await {c : NeighbourCache} {d : Delivery} {now : Nat} (goesOn : (c.joined d).need now ≠ .surrender) :
    (c.await d now).1.queue d.nextHop = c.queue d.nextHop ++ [((c.joined d).interface, d.frame)] := by
  have pending := resolution?_await_self c d now
  rw [if_neg goesOn] at pending
  rw [queue_of_resolution pending, Resolution.waiting_advanced, Resolution.interface_advanced, waiting_joined,
    interface_joined]
  unfold queue
  cases c.resolution? d.nextHop <;> simp

/-- A frame joins the resolution for its next hop, or a fresh one. -/
theorem joined_cases (c : NeighbourCache) (d : Delivery) :
    c.resolution? d.nextHop = none ∧
        c.joined d = ({ ip := d.nextHop, interface := d.interface } : Resolution).join d.frame ∨
      ∃ r, c.resolution? d.nextHop = some r ∧ c.joined d = r.join d.frame := by
  unfold joined
  cases pending : c.resolution? d.nextHop with
  | none => exact .inl ⟨rfl, rfl⟩
  | some r => exact .inr ⟨r, rfl, rfl⟩

theorem mac?_learn (mac : Mac) (ip other : Ipv4Addr) :
    (c.learn mac ip now).mac? other = if ip = other then some mac else c.mac? other := by
  unfold learn mac?
  rw [Keyed.find?_put]
  by_cases same : ip = other
  · simp [same, Neighbour.key]
  · simp [same, Neighbour.key, Ipv4Addr.bits_inj]

theorem resolution?_learn (mac : Mac) (ip other : Ipv4Addr) :
    (c.learn mac ip now).resolution? other = if ip = other then none else c.resolution? other := by
  unfold learn resolution?
  by_cases same : ip = other
  · simp [same]
  · rw [if_neg same]
    refine Keyed.find?_erase_ne _ ?_
    intro bits
    exact same (Ipv4Addr.bits_inj.1 bits).symm

theorem mac?_tick {ip : Ipv4Addr} {mac : Mac} (known : (c.tick now).mac? ip = some mac) : c.mac? ip = some mac := by
  unfold tick mac? at *
  rw [Keyed.find?_filter] at known
  obtain ⟨n, found, rfl⟩ := Option.map_eq_some_iff.1 known
  rw [(Option.filter_eq_some_iff.1 found).1]
  rfl

theorem resolution?_tick (ip : Ipv4Addr) : (c.tick now).resolution? ip =
    ((c.resolution? ip).filter fun r => r.need now ≠ .surrender).map fun r => r.advanced now := by
  unfold tick resolution?
  rw [Keyed.find?_map, Keyed.find?_filter]

/-- All resolutions under way are so. -/
def Each (c : NeighbourCache) (P : Resolution → Prop) : Prop := ∀ ip r, c.resolution? ip = some r → P r

variable {c d now} {P Q : Resolution → Prop}

theorem Each.mono (each : c.Each P) (weaker : ∀ r, P r → Q r) : c.Each Q := by
  intro ip r pending
  exact weaker r (each ip r pending)

theorem each_await (each : c.Each P) (next : (c.joined d).need now ≠ .surrender → P ((c.joined d).advanced now)) :
    (c.await d now).1.Each P := by
  intro ip r pending
  by_cases hop : d.nextHop = ip
  · subst hop
    rw [c.resolution?_await_self d now] at pending
    split at pending
    · cases pending
    · cases pending
      exact next ‹_›
  · rw [c.resolution?_await_ne d now hop] at pending
    exact each ip r pending

theorem each_learn (each : c.Each P) (mac : Mac) (ip : Ipv4Addr) (now : Nat) : (c.learn mac ip now).Each P := by
  intro other r pending
  rw [c.resolution?_learn now mac ip other] at pending
  split at pending
  · cases pending
  · exact each other r pending

theorem each_tick (each : c.Each P) (next : ∀ r, P r → r.need now ≠ .surrender → Q (r.advanced now)) :
    (c.tick now).Each Q := by
  intro ip r pending
  rw [c.resolution?_tick now ip] at pending
  obtain ⟨old, found, rfl⟩ := Option.map_eq_some_iff.1 pending
  obtain ⟨pending, goesOn⟩ := Option.filter_eq_some_iff.1 found
  exact next old (each ip old pending) (by simpa using goesOn)

theorem each_iff_mem : c.Each P ↔ ∀ r ∈ c.pending.toList, P r := by
  constructor
  · intro each r mem
    exact each r.ip r (Keyed.find?_eq_some_of_mem mem)
  · intro each ip r pending
    exact each r (Keyed.mem_of_find? pending)

end NeighbourCache

/-! ## The order of a tick -/

namespace Resolution

theorem perm_inOrder (order : List Ipv4Addr) (rs : List Resolution) : (inOrder order rs).Perm rs := by
  induction order generalizing rs with
  | nil => exact .refl rs
  | cons ip order ih =>
    have parts := List.filter_append_perm (fun r : Resolution => r.ip = ip) rs
    simp only [← decide_not] at parts
    exact ((ih _).append_left _).trans parts

/-- Resolutions for different addresses are come upon in any order there is, if their addresses are listed so. -/
theorem inOrder_map_ip {rs ss : List Resolution} (distinct : rs.Pairwise (·.ip ≠ ·.ip)) (perm : rs.Perm ss) :
    inOrder (rs.map ip) ss = rs := by
  induction rs generalizing ss with
  | nil => exact perm.symm.eq_nil
  | cons r rs ih =>
    obtain ⟨others, distinct⟩ := List.pairwise_cons.1 distinct
    have one : ss.filter (fun s => s.ip = r.ip) = [r] := by
      refine List.perm_singleton.1 ((perm.symm.filter _).trans ?_)
      rw [List.filter_cons_of_pos (by simp), List.filter_eq_nil_iff.2]
      intro s mem same
      exact others s mem (of_decide_eq_true same).symm
    have rest : rs.Perm (ss.filter fun s => s.ip ≠ r.ip) := by
      refine .trans ?_ (perm.filter _)
      rw [List.filter_cons_of_neg (by simp), List.filter_eq_self.2]
      intro s mem
      exact decide_eq_true (others s mem).symm
    rw [List.map_cons, inOrder, one, ih distinct rest]
    rfl

end Resolution

namespace NeighbourCache

variable {c : NeighbourCache} {order : List Ipv4Addr}

theorem mem_visited {r : Resolution} : r ∈ c.visited order ↔ c.resolution? r.ip = some r := by
  rw [visited, (Resolution.perm_inOrder order _).mem_iff]
  exact ⟨Keyed.find?_eq_some_of_mem, Keyed.mem_of_find?⟩

theorem visited_of_resolution {ip : Ipv4Addr} {r : Resolution} (pending : c.resolution? ip = some r) :
    r ∈ c.visited order := by
  rw [mem_visited, ip_of_resolution pending]
  exact pending

/-- Of the resolutions a tick comes upon the one for an address is the one found, whatever the order. -/
theorem filter_ip_visited (c : NeighbourCache) (order : List Ipv4Addr) (ip : Ipv4Addr) :
    ((c.visited order).filter fun r => r.ip = ip) = (c.resolution? ip).toList := by
  have found : (c.pending.toList.filter fun r => r.ip = ip) = (c.resolution? ip).toList := by
    rw [resolution?, ← Keyed.filter_key]
    congr 1
    funext r
    simp [Resolution.key, Ipv4Addr.bits_inj]
  have same := (Resolution.perm_inOrder order c.pending.toList).filter fun r => r.ip = ip
  rw [found] at same
  cases pending : c.resolution? ip with
  | none =>
    rw [pending] at same
    exact same.eq_nil
  | some r =>
    rw [pending] at same
    exact List.perm_singleton.1 same

theorem distinct_pending : c.pending.toList.Pairwise (·.ip ≠ ·.ip) := by
  refine c.pending.ascending.imp ?_
  intro a b less same
  have keys : a.key = b.key := congrArg Ipv4Addr.bits same
  exact Std.lt_irrefl (keys ▸ less)

theorem distinct_visited : (c.visited order).Pairwise (·.ip ≠ ·.ip) :=
  ((Resolution.perm_inOrder order _).pairwise_iff fun differ => Ne.symm differ).2 distinct_pending

/-- A tick may come upon the resolutions under way in every order, and it comes upon each of them once. -/
theorem exists_visited_iff {rs : List Resolution} : (∃ order, c.visited order = rs) ↔ rs.Perm c.pending.toList := by
  constructor
  · rintro ⟨order, rfl⟩
    exact Resolution.perm_inOrder order _
  · intro perm
    have distinct : rs.Pairwise (·.ip ≠ ·.ip) := (perm.pairwise_iff fun differ => Ne.symm differ).2 distinct_pending
    exact ⟨_, Resolution.inOrder_map_ip distinct perm⟩

end NeighbourCache

end SoftRouter
