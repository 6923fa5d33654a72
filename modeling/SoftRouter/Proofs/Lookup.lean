import Mathlib.Data.Nat.Bitwise
import SoftRouter.Proofs.Resolution
import SoftRouter.Route.Table

/-!
# Looking up a route

Of the routes that reach an address, lookup finds the first of those with the greatest mask there is; where masks select
prefixes, that is the longest one (`lookup_longest`). If no two routes have the same mask, their order does not matter
(`mostSpecific_eq_of_mem_iff`).
-/

namespace SoftRouter

namespace RouteTable

theorem mostSpecific_eq_none_iff {routes : List RouteEntry} : mostSpecific routes = none ↔ routes = [] := by
  cases routes with
  | nil => simp [mostSpecific]
  | cons e rest =>
    rw [mostSpecific]
    cases mostSpecific rest with
    | none => simp
    | some best =>
      dsimp only
      split <;> simp

/-- Routes stand in front of a route and behind it: all in front have smaller masks, and none behind has a greater
one. -/
def Foremost (before : List RouteEntry) (e : RouteEntry) (after : List RouteEntry) : Prop :=
  (∀ x ∈ before, x.mask.bits < e.mask.bits) ∧ ∀ x ∈ after, x.mask.bits ≤ e.mask.bits

theorem Foremost.le {before after : List RouteEntry} {e : RouteEntry} (foremost : Foremost before e after) :
    ∀ x ∈ before ++ e :: after, x.mask.bits ≤ e.mask.bits := by
  intro x there
  rcases List.mem_append.1 there with there | there
  · exact UInt32.le_of_lt (foremost.1 x there)
  · rcases List.mem_cons.1 there with rfl | there
    · exact UInt32.le_refl _
    · exact foremost.2 x there

/-- Of the routes with the greatest mask the first is found. -/
theorem mostSpecific_eq_some_iff {routes : List RouteEntry} {e : RouteEntry} :
    mostSpecific routes = some e ↔ ∃ before after, routes = before ++ e :: after ∧ Foremost before e after := by
  induction routes generalizing e with
  | nil => simp [mostSpecific]
  | cons x rest ih =>
    rw [mostSpecific]
    constructor
    · intro found
      cases later : mostSpecific rest with
      | none =>
        rw [later] at found
        cases found
        exact ⟨[], rest, rfl, by simp, by simp [mostSpecific_eq_none_iff.1 later]⟩
      | some best =>
        obtain ⟨before, after, rfl, foremost⟩ := ih.1 later
        rw [later] at found
        dsimp only at found
        split at found
        · rename_i less
          cases found
          refine ⟨x :: before, after, rfl, ?_, foremost.2⟩
          exact List.forall_mem_cons.2 ⟨less, foremost.1⟩
        · rename_i notLess
          cases found
          refine ⟨[], _, rfl, by simp, ?_⟩
          intro y there
          exact UInt32.le_trans (foremost.le y there) (UInt32.not_lt.1 notLess)
    · rintro ⟨before, after, split, smaller, noGreater⟩
      cases before with
      | nil =>
        obtain ⟨rfl, rfl⟩ := List.cons.inj split
        cases later : mostSpecific rest with
        | none => rfl
        | some best =>
          obtain ⟨front, back, rfl, -⟩ := ih.1 later
          exact if_neg (UInt32.not_lt.2 (noGreater best (by simp)))
      | cons y before =>
        obtain ⟨rfl, same⟩ := List.cons.inj split
        obtain ⟨less, smaller⟩ := List.forall_mem_cons.1 smaller
        rw [ih.2 ⟨before, after, same, smaller, noGreater⟩]
        exact if_pos less

theorem mostSpecific_spec {routes : List RouteEntry} {e : RouteEntry} (found : mostSpecific routes = some e) :
    e ∈ routes ∧ ∀ x ∈ routes, x.mask.bits ≤ e.mask.bits := by
  obtain ⟨before, after, rfl, foremost⟩ := mostSpecific_eq_some_iff.1 found
  exact ⟨by simp, foremost.le⟩

/-- Where no two routes are equally specific, it does not matter in which order they stand. -/
theorem mostSpecific_eq_of_mem_iff {routes others : List RouteEntry} (same : ∀ e, e ∈ routes ↔ e ∈ others)
    (graded : ∀ a ∈ routes, ∀ b ∈ routes, a.mask = b.mask → a = b) : mostSpecific routes = mostSpecific others := by
  cases first : mostSpecific routes with
  | none =>
    obtain rfl := mostSpecific_eq_none_iff.1 first
    have none : others = [] := List.eq_nil_iff_forall_not_mem.2 fun e mem => List.not_mem_nil ((same e).2 mem)
    exact (mostSpecific_eq_none_iff.2 none).symm
  | some e =>
    obtain ⟨mem, greatest⟩ := mostSpecific_spec first
    cases second : mostSpecific others with
    | none =>
      obtain rfl := mostSpecific_eq_none_iff.1 second
      exact absurd ((same e).1 mem) List.not_mem_nil
    | some e' =>
      obtain ⟨mem', greatest'⟩ := mostSpecific_spec second
      have there : e' ∈ routes := (same e').2 mem'
      have masks : e.mask = e'.mask :=
        Ipv4Addr.bits_inj.1 (UInt32.le_antisymm (greatest' e ((same e).1 mem)) (greatest e' there))
      exact congrArg some (graded e mem e' there masks)

theorem mostSpecific_append_congr (front : List RouteEntry) {routes others : List RouteEntry}
    (same : mostSpecific routes = mostSpecific others) :
    mostSpecific (front ++ routes) = mostSpecific (front ++ others) := by
  induction front with
  | nil => exact same
  | cons e rest ih => rw [List.cons_append, List.cons_append, mostSpecific, mostSpecific, ih]

/-- What is found is a route of the table, reaches the address, and is as specific as any that does. -/
theorem lookup_spec {t : RouteTable} {ip : Ipv4Addr} {e : RouteEntry} (found : t.lookup ip = some e) :
    e ∈ t.entries ∧ e.reaches ip ∧ ∀ x ∈ t.entries, x.reaches ip → x.mask.bits ≤ e.mask.bits := by
  obtain ⟨mem, greatest⟩ := mostSpecific_spec found
  obtain ⟨there, reaches⟩ := List.mem_filter.1 mem
  refine ⟨there, reaches, ?_⟩
  intro x member reaches'
  exact greatest x (List.mem_filter.2 ⟨member, reaches'⟩)

/-! ## The longest prefix -/

end RouteTable

/-- The mask has its first `n` bits set and no others. -/
def Ipv4Addr.HasPrefix (mask : Ipv4Addr) (n : Nat) : Prop :=
  n ≤ 32 ∧ ∀ i < 32, mask.bits.toNat.testBit i = decide (32 - n ≤ i)

instance (mask : Ipv4Addr) (n : Nat) : Decidable (mask.HasPrefix n) := inferInstanceAs (Decidable (_ ∧ _))

/-- Of two masks that select a prefix the one that is not smaller selects one that is not shorter. -/
theorem Ipv4Addr.prefix_le {mask other : Ipv4Addr} {m n : Nat} (has : mask.HasPrefix n) (has' : other.HasPrefix m)
    (le : other.bits ≤ mask.bits) : m ≤ n := by
  obtain ⟨-, bits⟩ := has
  obtain ⟨short, bits'⟩ := has'
  by_contra longer
  -- The first bit that the longer prefix has and the shorter one has not decides which mask is greater.
  have less : mask.bits.toNat < other.bits.toNat := by
    apply Nat.lt_of_testBit (31 - n)
    · rw [bits _ (by omega)]
      exact decide_eq_false (by omega)
    · rw [bits' _ (by omega)]
      exact decide_eq_true (by omega)
    · intro j above
      by_cases inside : j < 32
      · rw [bits j inside, bits' j inside, decide_eq_true (by omega), decide_eq_true (by omega)]
      · have word : 2 ^ 32 ≤ 2 ^ j := Nat.pow_le_pow_right (by decide) (Nat.le_of_not_lt inside)
        rw [Nat.testBit_lt_two_pow (Nat.lt_of_lt_of_le mask.bits.toNat_lt word),
          Nat.testBit_lt_two_pow (Nat.lt_of_lt_of_le other.bits.toNat_lt word)]
  exact absurd (UInt32.le_iff_toNat_le.1 le) (Nat.not_le_of_lt less)

/-- The network of the route holds the address, and can be reached. -/
def RouteEntry.Serves (e : RouteEntry) (ip : Ipv4Addr) : Prop :=
  e.metric < 16 ∧ e.destination.masked e.mask = ip.masked e.mask

theorem RouteEntry.reaches_iff {e : RouteEntry} {ip : Ipv4Addr} : e.reaches ip ↔ e.Serves ip := by
  rw [reaches, covers, Serves, Bool.and_eq_true, decide_eq_true_iff, decide_eq_true_iff, ripInfinity]

namespace RouteTable

theorem lookup_eq_none_iff {t : RouteTable} {ip : Ipv4Addr} : t.lookup ip = none ↔ ∀ e ∈ t.entries, ¬ e.Serves ip := by
  rw [lookup, mostSpecific_eq_none_iff, List.filter_eq_nil_iff]
  simp only [RouteEntry.reaches_iff]

/-- The route at this place of a table is as specific as any that serves the address, and the first of those. -/
structure Chosen (ip : Ipv4Addr) (before : List RouteEntry) (e : RouteEntry) (after : List RouteEntry) : Prop where
  serves : e.Serves ip
  before : ∀ x ∈ before, x.Serves ip → x.mask.bits < e.mask.bits
  after : ∀ x ∈ after, x.Serves ip → x.mask.bits ≤ e.mask.bits

theorem lookup_eq_some_iff {t : RouteTable} {ip : Ipv4Addr} {e : RouteEntry} :
    t.lookup ip = some e ↔ ∃ before after, t.entries = before ++ e :: after ∧ Chosen ip before e after := by
  rw [lookup, mostSpecific_eq_some_iff]
  constructor
  · rintro ⟨front, back, kept, smaller, noGreater⟩
    obtain ⟨early, late, entries, rfl, ends⟩ := List.filter_eq_append_iff.1 kept
    obtain ⟨passed, after, rfl, none, reaches, rfl⟩ := List.filter_eq_cons_iff.1 ends
    refine ⟨early ++ passed, after, by rw [entries, List.append_assoc], RouteEntry.reaches_iff.1 reaches, ?_, ?_⟩
    · intro x there serves
      have reaches : x.reaches ip := RouteEntry.reaches_iff.2 serves
      rcases List.mem_append.1 there with there | there
      · exact smaller x (List.mem_filter.2 ⟨there, reaches⟩)
      · exact absurd reaches (none x there)
    · intro x there serves
      exact noGreater x (List.mem_filter.2 ⟨there, RouteEntry.reaches_iff.2 serves⟩)
  · rintro ⟨before, after, entries, serves, smaller, noGreater⟩
    have reaches : e.reaches ip := RouteEntry.reaches_iff.2 serves
    refine ⟨before.filter fun x => x.reaches ip, after.filter fun x => x.reaches ip, ?_, ?_, ?_⟩
    · simp [entries, reaches]
    · intro x there
      obtain ⟨there, reaches⟩ := List.mem_filter.1 there
      exact smaller x there (RouteEntry.reaches_iff.1 reaches)
    · intro x there
      obtain ⟨there, reaches⟩ := List.mem_filter.1 there
      exact noGreater x there (RouteEntry.reaches_iff.1 reaches)

/-- An address is sent by no route exactly when none serves it, and otherwise by the first of the most specific routes
that do. Where all masks select prefixes, its prefix is the longest of these. -/
theorem lookup_longest (t : RouteTable) (ip : Ipv4Addr) :
    (t.lookup ip = none ↔ ∀ e ∈ t.entries, ¬ e.Serves ip) ∧
      (∀ e, t.lookup ip = some e ↔ ∃ before after, t.entries = before ++ e :: after ∧ Chosen ip before e after) ∧
      ∀ e, t.lookup ip = some e → (∀ x ∈ t.entries, ∃ n, x.mask.HasPrefix n) →
        ∃ n, e.mask.HasPrefix n ∧ ∀ x ∈ t.entries, x.Serves ip → ∀ m, x.mask.HasPrefix m → m ≤ n := by
  refine ⟨lookup_eq_none_iff, fun _ => lookup_eq_some_iff, ?_⟩
  intro e found contiguous
  obtain ⟨there, -, greatest⟩ := lookup_spec found
  obtain ⟨n, has⟩ := contiguous e there
  refine ⟨n, has, ?_⟩
  intro x member serves m has'
  exact Ipv4Addr.prefix_le has has' (greatest x member (RouteEntry.reaches_iff.2 serves))

/-- Two routes to the same network between a wider one and one that leads nowhere. -/
def tiedRoutes : RouteTable :=
  ⟨[⟨.ofOctets 10 0 0 0, .ofOctets 255 0 0 0, .ofOctets 10 0 0 9, "eth0", 1, none⟩,
    ⟨.ofOctets 10 1 0 0, .ofOctets 255 255 0 0, .ofOctets 10 0 0 9, "eth0", 3, some 0⟩,
    ⟨.ofOctets 10 1 0 0, .ofOctets 255 255 0 0, .ofOctets 10 0 1 9, "eth1", 2, some 0⟩,
    ⟨.ofOctets 10 1 2 0, .ofOctets 255 255 255 0, .ofOctets 10 0 1 9, "eth1", 16, some 0⟩]⟩

theorem tiedRoutes_longest : ∃ e, tiedRoutes.lookup (.ofOctets 10 1 2 3) = some e ∧ e.interface = "eth0" ∧
    ∃ n, e.mask.HasPrefix n ∧
      ∀ x ∈ tiedRoutes.entries, x.Serves (.ofOctets 10 1 2 3) → ∀ m, x.mask.HasPrefix m → m ≤ n := by
  have contiguous : ∀ x ∈ tiedRoutes.entries, ∃ n, x.mask.HasPrefix n := by
    simp only [tiedRoutes, List.forall_mem_cons]
    exact ⟨⟨8, by decide +kernel⟩, ⟨16, by decide +kernel⟩, ⟨16, by decide +kernel⟩, ⟨24, by decide +kernel⟩, by simp⟩
  exact ⟨_, rfl, rfl, (lookup_longest tiedRoutes (.ofOctets 10 1 2 3)).2.2 _ rfl contiguous⟩

end RouteTable

end SoftRouter
