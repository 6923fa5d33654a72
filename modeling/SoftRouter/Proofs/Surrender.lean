import Mathlib.Data.List.Perm.Subperm
import SoftRouter.Proofs.Dispatch
import SoftRouter.Proofs.Journal

/-!
# Addresses given up at one moment

An address that is given up calls for notices, and a notice may find another address that is to be given up. What is
given up at one reading of the clock was overdue when that began, each address once, and nothing becomes overdue
meanwhile (`Spends`). So no more is given up than was overdue, and the notices nest no deeper than that
(`inTurn_eq_dispatch`).
-/

namespace SoftRouter

namespace NeighbourCache

/-- The resolution under way for an address would be given up now. -/
def Overdue (c : NeighbourCache) (now : Nat) (ip : Ipv4Addr) (r : Resolution) : Prop :=
  c.resolution? ip = some r ∧ r.need now = .surrender

/-- The resolutions given up were overdue, each address once, and those still overdue were so all the time. -/
structure Spends (now : Nat) (before : NeighbourCache) (given : List Resolution) (after : NeighbourCache) : Prop where
  distinct : (given.map Resolution.ip).Nodup
  due : ∀ g ∈ given, ∃ r more, before.Overdue now g.ip r ∧ g = { r with waiting := r.waiting ++ more }
  left : ∀ ip r, after.Overdue now ip r → before.Overdue now ip r ∧ ip ∉ given.map Resolution.ip

variable {now : Nat} {c : NeighbourCache}

namespace Spends

theorem nothing {after : NeighbourCache} (same : ∀ ip r, after.Overdue now ip r → c.Overdue now ip r) :
    Spends now c [] after where
  distinct := .nil
  due _ mem := by cases mem
  left ip r overdue := ⟨same ip r overdue, by simp⟩

theorem refl (now : Nat) (c : NeighbourCache) : Spends now c [] c := nothing fun _ _ overdue => overdue

theorem trans {before middle after : NeighbourCache} {first later : List Resolution}
    (front : Spends now before first middle) (back : Spends now middle later after) :
    Spends now before (first ++ later) after where
  distinct := by
    rw [List.map_append]
    refine List.nodup_append.2 ⟨front.distinct, back.distinct, ?_⟩
    rintro ip early _ late rfl
    obtain ⟨g, mem, rfl⟩ := List.mem_map.1 late
    obtain ⟨r, -, overdue, -⟩ := back.due g mem
    exact (front.left _ r overdue).2 early
  due := by
    intro g mem
    rcases List.mem_append.1 mem with mem | mem
    · exact front.due g mem
    · obtain ⟨r, more, overdue, same⟩ := back.due g mem
      exact ⟨r, more, (front.left _ r overdue).1, same⟩
  left := by
    intro ip r overdue
    obtain ⟨earlier, late⟩ := back.left ip r overdue
    obtain ⟨earliest, early⟩ := front.left ip r earlier
    rw [List.map_append, List.mem_append, not_or]
    exact ⟨earliest, early, late⟩

/-- No more is given up than was overdue. -/
theorem length_le {before after : NeighbourCache} {given : List Resolution}
    (spends : Spends now before given after) : given.length ≤ before.overdue now := by
  have subset : given.map Resolution.ip ⊆
      (before.pending.toList.filter fun r => r.need now = .surrender).map Resolution.ip := by
    intro ip mem
    obtain ⟨g, member, rfl⟩ := List.mem_map.1 mem
    obtain ⟨r, -, ⟨pending, ends⟩, -⟩ := spends.due g member
    refine List.mem_map.2 ⟨r, List.mem_filter.2 ⟨Keyed.mem_of_find? pending, decide_eq_true ends⟩, ?_⟩
    exact ip_of_resolution pending
  have count := (List.subperm_of_subset spends.distinct subset).length_le
  rw [List.length_map, List.length_map, ← List.countP_eq_length_filter] at count
  exact count

end Spends

theorem spends_await (c : NeighbourCache) (d : Delivery) (now : Nat) :
    Spends now c (c.await d now).2.given?.toList (c.await d now).1 := by
  have self := c.resolution?_await_self d now
  rw [c.given?_await d now]
  by_cases ends : (c.joined d).need now = .surrender
  · rw [if_pos ends] at self ⊢
    refine ⟨List.pairwise_singleton _ _, ?_, ?_⟩
    · intro g mem
      obtain rfl := List.mem_singleton.1 mem
      rcases c.joined_cases d with ⟨-, fresh⟩ | ⟨r, pending, joins⟩
      · -- A fresh resolution asks at once.
        rw [fresh, Resolution.need_join, Resolution.need_fresh] at ends
        cases ends
      · rw [joins, Resolution.need_join] at ends
        exact ⟨r, [d.frame], ⟨by rw [c.ip_joined d, pending], ends⟩, joins⟩
    · rintro ip r ⟨pending, overdue⟩
      have apart : d.nextHop ≠ ip := by
        rintro rfl
        cases self.symm.trans pending
      rw [c.resolution?_await_ne d now apart] at pending
      refine ⟨⟨pending, overdue⟩, ?_⟩
      simp only [Option.toList_some, List.map_singleton, List.mem_singleton, c.ip_joined d]
      exact apart.symm
  · rw [if_neg ends] at self ⊢
    refine .nothing ?_
    rintro ip r ⟨pending, overdue⟩
    by_cases apart : d.nextHop = ip
    · subst apart
      cases self.symm.trans pending
      rw [Resolution.need_advanced ends] at overdue
      cases overdue
    · rw [c.resolution?_await_ne d now apart] at pending
      exact ⟨pending, overdue⟩

theorem spends_learn (c : NeighbourCache) (mac : Mac) (ip : Ipv4Addr) : Spends now c [] (c.learn mac ip now) := by
  refine .nothing ?_
  rintro other r ⟨pending, overdue⟩
  rw [c.resolution?_learn now mac ip other] at pending
  split at pending
  · cases pending
  · exact ⟨pending, overdue⟩

theorem spends_tick (c : NeighbourCache) (now : Nat) (order : List Ipv4Addr) :
    Spends now c ((c.tickProgress now order).filterMap Progress.given?) (c.tick now) := by
  rw [given_tickProgress]
  refine ⟨?_, ?_, ?_⟩
  · exact List.pairwise_map.2 (distinct_visited.filter _)
  · intro g mem
    obtain ⟨member, ends⟩ := List.mem_filter.1 mem
    have pending : c.resolution? g.ip = some g := mem_visited.1 member
    exact ⟨g, [], ⟨pending, of_decide_eq_true ends⟩, by rw [List.append_nil]⟩
  · rintro ip r ⟨pending, overdue⟩
    rw [c.resolution?_tick now ip] at pending
    obtain ⟨old, found, rfl⟩ := Option.map_eq_some_iff.1 pending
    have goesOn := (Option.filter_eq_some_iff.1 found).2
    rw [Resolution.need_advanced (by simpa using goesOn)] at overdue
    cases overdue

end NeighbourCache

open NeighbourCache

namespace Router

theorem given_announced (sent : List Transmission) : (sent.map Event.announced).filterMap Event.given? = [] := by
  induction sent with
  | nil => rfl
  | cons t rest ih => rw [List.map_cons, List.filterMap_cons_none (by rfl), ih]

theorem given_outcome (r : Router) (p : Progress) : (r.outcome p).filterMap Event.given? = p.given?.toList := by
  cases p with
  | waiting => rfl
  | asking ip interface =>
    obtain ⟨sent, asks⟩ := r.question_spec ip interface
    rw [outcome, asks, given_announced]
    rfl
  | abandoned given => rfl

theorem given_abandonments (progress : List Progress) :
    (abandonments progress).filterMap Event.given? = progress.filterMap Progress.given? := by
  rw [abandonments, List.filterMap_filterMap]
  congr 1
  funext p
  cases p <;> rfl

theorem spends_act {r s : Router} {now : Nat} {events : List Event} (act : Act now r events s) :
    Spends now r.arp (events.filterMap Event.given?) s.arp := by
  cases act with
  | handover step =>
    cases step with
    | known _ _ => exact .refl now r.arp
    | @unknown d _ _ =>
      rw [List.filterMap_cons_none (by rfl), given_outcome]
      exact spends_await r.arp d now
  | quiet step =>
    obtain ⟨-, arp, sent, rfl⟩ := quiet_spec step
    rw [given_announced, arp]
    exact .refl now r.arp
  | @meet _ _ _ mac ip _ _ _ =>
    have silent : (r.meet now mac ip).2.filterMap Event.given? = [] := by
      refine List.filterMap_eq_nil_iff.2 ?_
      intro ev mem
      obtain ⟨d, -, rfl⟩ := List.mem_map.1 mem
      rfl
    rw [silent]
    exact spends_learn r.arp mac ip
  | tick =>
    rw [given_abandonments]
    exact spends_tick r.arp now _
  | ask ip interface =>
    obtain ⟨sent, asks⟩ := r.question_spec ip interface
    rw [asks, given_announced]
    exact .refl now r.arp

theorem spends_respond (r : Router) (now : Nat) (s : Stimulus) :
    Spends now r.arp ((r.respond now s).2.filterMap Event.given?) (r.respond now s).1.arp := by
  have start : Spends now r.arp (([] : List Event).filterMap Event.given?) r.arp := .refl now r.arp
  refine (respond_trace r now s).keeps (fun log s => Spends now r.arp (log.filterMap Event.given?) s.arp) ?_ start
  intro log s events u spends act
  rw [List.filterMap_append]
  exact spends.trans (spends_act act)

/-! ## Notices within notices -/

/-- Actions on one delivery after the other, with all that happens, as long as they have results. -/
def inTurn (act : Router → Delivery → Option (Router × List Event)) :
    Router → List Delivery → Option (Router × List Event)
  | r, [] => some (r, [])
  | r, d :: rest => do
    let (s, first) ← act r d
    let (u, later) ← inTurn act s rest
    return (u, first ++ later)

/-- A delivery is sent or made to wait. If its next hop is given up, each notice about that is seen through before
the next one; there is no result if addresses would be given up within each other to more than this depth. -/
def handOver (now depth : Nat) (r : Router) (d : Delivery) : Option (Router × List Event) :=
  match r.arp.mac? d.nextHop with
  | some mac => some (r, [.delivered d mac])
  | none =>
    let s : Router := { r with arp := (r.arp.await d now).1 }
    match (r.arp.await d now).2 with
    | .waiting => some (s, [.queued d])
    | .asking ip interface => some (s, .queued d :: r.question ip interface)
    | .abandoned given =>
      match depth with
      | 0 => none
      | depth + 1 => do
        let (u, events) ← inTurn (handOver now depth) s (r.regrets given)
        return (u, .queued d :: .abandoned given :: events)

theorem overdue_dispatch_le (r : Router) (now : Nat) (work : List Delivery) :
    (r.dispatch now work).1.arp.overdue now ≤ r.arp.overdue now := by
  have kept : KeptByWaiting now fun s => s.arp.overdue now ≤ r.arp.overdue now :=
    fun s d le => Nat.le_trans (s.arp.overdue_await_le d now) le
  exact dispatch_keeps kept (Nat.le_refl _) work

/-- A step that does what the deliveries do one by one does what they do together. -/
theorem inTurn_eq_dispatch {now n : Nat} {act : Router → Delivery → Option (Router × List Event)}
    (same : ∀ r d, r.arp.overdue now ≤ n → act r d = some (r.dispatch now [d])) {r : Router}
    (enough : r.arp.overdue now ≤ n) (work : List Delivery) : inTurn act r work = some (r.dispatch now work) := by
  induction work generalizing r with
  | nil => rw [inTurn, dispatch_nil]
  | cons d rest ih =>
    have fewer : (r.dispatch now [d]).1.arp.overdue now ≤ n := Nat.le_trans (overdue_dispatch_le r now [d]) enough
    have split := dispatch_append r now [d] rest
    rw [List.singleton_append] at split
    rw [inTurn, same r d enough, split]
    simp only [Option.bind_eq_bind, Option.bind_some, ih fewer, Option.pure_def]

/-- Addresses are given up within each other no deeper than the number of them that are overdue. -/
theorem handOver_eq_dispatch {now depth : Nat} {r : Router} (enough : r.arp.overdue now ≤ depth) (d : Delivery) :
    handOver now depth r d = some (r.dispatch now [d]) := by
  unfold handOver
  split
  · rename_i mac found
    rw [dispatch_known_cons found, dispatch_nil]
  · rename_i missing
    rw [dispatch_unknown_cons missing]
    cases progress : (r.arp.await d now).2 with
    | waiting => simp [notices, Progress.given?, dispatch_nil, outcome]
    | asking ip interface => simp [notices, Progress.given?, dispatch_nil, outcome]
    | abandoned given =>
      -- What is given up was overdue and is gone when the notices about it go out, so they need less depth.
      have fewer := NeighbourCache.overdue_await_lt progress
      cases depth with
      | zero => omega
      | succ depth =>
        have inner := inTurn_eq_dispatch (fun _ d enough => handOver_eq_dispatch enough d)
          (r := { r with arp := (r.arp.await d now).1 }) (Nat.le_of_lt_succ (Nat.lt_of_lt_of_le fewer enough))
          (r.regrets given)
        simp [inner, notices, Progress.given?, outcome]

/-- Giving addresses up comes to an end: in every state all deliveries are seen through with addresses given up
within each other no deeper than the number overdue at first, and no response to anything gives up an address that
was not overdue when it began, or one address twice. -/
theorem surrenders_end (r : Router) (now : Nat) :
    (∀ work, inTurn (handOver now (r.arp.overdue now)) r work = some (r.dispatch now work)) ∧
      ∀ s : Stimulus, Spends now r.arp ((r.respond now s).2.filterMap Event.given?) (r.respond now s).1.arp ∧
        ((r.respond now s).2.filterMap Event.given?).length ≤ r.arp.overdue now := by
  refine ⟨?_, ?_⟩
  · intro work
    exact inTurn_eq_dispatch (fun _ d enough => handOver_eq_dispatch enough d) (Nat.le_refl _) work
  · intro s
    have spends := spends_respond r now s
    exact ⟨spends, spends.length_le⟩

end Router

end SoftRouter
