import SoftRouter.Proofs.Dispatch
import SoftRouter.Proofs.Forwarding
import SoftRouter.Proofs.Notices
import SoftRouter.Proofs.Pace

/-!
# Resolutions that nobody answers

Left to its ticks, address resolution comes to rest. With every tick each resolution asks once more or ends. The
frames of those that were there at first are given up by the sixth tick; only notices about them are new, no notice
calls for another, and so all is over by the eleventh (`drained_by_ticks`).
-/

namespace SoftRouter

/-- Nothing is ever reported about the frame. -/
def EthernetFrame.Unreported (f : EthernetFrame) : Prop :=
  ∀ p, Ipv4Packet.ofFrame f = .ok p → p.isReportable = false

namespace Resolution

/-- The resolution has asked, no more often than it may, and last at this time or before. -/
structure Asked (r : Resolution) (now : Nat) : Prop where
  last : ∃ t, r.askedAt = some t ∧ t ≤ now
  some : 0 < r.questions
  few : r.questions ≤ maxQuestions

/-- Nothing is ever reported about the frames that wait. -/
def Unreported (r : Resolution) : Prop := ∀ f ∈ r.waiting, f.Unreported

/-- The resolution has asked as often as there were ticks, or it began with notices at one of the first five. -/
structure Aged (r : Resolution) (ticks now : Nat) : Prop extends r.Asked now where
  old : ticks ≤ r.questions ∨ r.Unreported ∧ ticks ≤ r.questions + maxQuestions

variable {r : Resolution} {now : Nat}

theorem Asked.later (asked : r.Asked now) {then' : Nat} (le : now ≤ then') : r.Asked then' := by
  obtain ⟨t, last, before⟩ := asked.last
  exact ⟨⟨t, last, Nat.le_trans before le⟩, asked.some, asked.few⟩

theorem Asked.join (asked : r.Asked now) (frame : EthernetFrame) : (r.join frame).Asked now :=
  ⟨asked.last, asked.some, asked.few⟩

theorem asked_asked (few : r.questions < maxQuestions) : (r.asked now).Asked now :=
  ⟨⟨now, rfl, Nat.le_refl now⟩, Nat.succ_pos _, few⟩

theorem Asked.advanced (asked : r.Asked now) : (r.advanced now).Asked now := by
  unfold Resolution.advanced
  split
  · exact asked_asked (few_of_need ‹_›)
  · exact asked

theorem Asked.not_patience {s : Nat} (asked : r.Asked s) (gap : s + askInterval ≤ now) : r.need now ≠ .patience := by
  obtain ⟨t, last, before⟩ := asked.last
  unfold need
  rw [last, Option.any_some, if_neg (by simp only [decide_eq_true_eq]; omega)]
  split <;> simp

theorem unreported_join (unreported : r.Unreported) {frame : EthernetFrame} (settled : frame.Unreported) :
    (r.join frame).Unreported := by
  intro f mem
  rcases List.mem_append.1 mem with mem | mem
  · exact unreported f mem
  · exact List.mem_singleton.1 mem ▸ settled

theorem Aged.join {ticks : Nat} (aged : r.Aged ticks now) {frame : EthernetFrame} (settled : frame.Unreported) :
    (r.join frame).Aged ticks now :=
  ⟨aged.toAsked.join frame, aged.old.imp_right fun ⟨unreported, young⟩ => ⟨unreported_join unreported settled, young⟩⟩

end Resolution

namespace NeighbourCache

variable {c : NeighbourCache} {now : Nat}

theorem asked_joined (each : c.Each (·.Asked now)) (d : Delivery) : ((c.joined d).advanced now).Asked now := by
  rcases c.joined_cases d with ⟨-, fresh⟩ | ⟨r, pending, joins⟩
  · have asks : (c.joined d).need now = .question := by
      rw [fresh, Resolution.need_join, Resolution.need_fresh]
    rw [Resolution.advanced, if_pos asks]
    exact Resolution.asked_asked (Resolution.few_of_need asks)
  · rw [joins]
    exact ((each _ r pending).join d.frame).advanced

end NeighbourCache

open NeighbourCache

namespace Router

variable {r : Router} {now : Nat}

theorem asked_act {s : Router} {events : List Event} (asked : r.arp.Each (·.Asked now)) (act : Act now r events s) :
    s.arp.Each (·.Asked now) := by
  cases act with
  | handover step =>
    cases step with
    | known _ _ => exact asked
    | @unknown d _ _ => exact each_await asked fun _ => asked_joined asked d
  | quiet step =>
    obtain ⟨-, arp, -⟩ := quiet_spec step
    rwa [arp]
  | meet _ _ _ => exact each_learn asked _ _ _
  | tick => exact each_tick asked fun res asked _ => asked.advanced
  | ask _ _ => exact asked

theorem asked_respond (asked : r.arp.Each (·.Asked now)) (s : Stimulus) :
    (r.respond now s).1.arp.Each (·.Asked now) :=
  (respond_trace r now s).keeps_state (fun s => s.arp.Each (·.Asked now)) (fun _ _ _ asked act => asked_act asked act)
    asked

theorem asked_run {xs : List (Nat × Stimulus)} (asked : r.arp.Each (·.Asked now)) {then' : Nat}
    (clock : (now :: (xs.map Prod.fst ++ [then'])).Pairwise (· ≤ ·)) : (r.run xs).1.arp.Each (·.Asked then') := by
  induction xs generalizing r now with
  | nil => exact asked.mono fun res asked => asked.later (by simpa using clock)
  | cons x xs ih =>
    obtain ⟨first, clock⟩ := List.pairwise_cons.1 clock
    have later : r.arp.Each (·.Asked x.1) := asked.mono fun res asked => asked.later (first x.1 (by simp))
    exact ih (asked_respond later x.2) clock

theorem asked_reached (empty : r.arp = {}) {xs : List (Nat × Stimulus)}
    (clock : (xs.map Prod.fst ++ [now]).Pairwise (· ≤ ·)) : (r.run xs).1.arp.Each (·.Asked now) := by
  have start : r.arp.Each (·.Asked 0) := by
    rw [empty]
    intro ip res pending
    cases pending
  exact asked_run start (List.pairwise_cons.2 ⟨fun _ _ => Nat.zero_le _, clock⟩)

theorem unreported_regret {given : Resolution} {d : Delivery} (mem : d ∈ r.regrets given) : d.frame.Unreported := by
  obtain ⟨frame, about, read, due⟩ := due_of_regrets mem
  obtain ⟨packet, reads, carried⟩ := reads_notice due (Ipv4Packet.fits_of_ofFrame read)
  intro p again
  cases reads.symm.trans again
  exact Notice.silent_report rfl carried

/-- Nobody is told of frames given up about which nothing is ever reported. -/
theorem regrets_eq_nil {given : Resolution} (unreported : given.Unreported) : r.regrets given = [] := by
  refine List.filterMap_eq_nil_iff.2 ?_
  intro frame mem
  cases read : Ipv4Packet.ofFrame frame with
  | error _ => rfl
  | ok p =>
    have silent := unreported frame mem p read
    simp [Except.toOption, noticeDelivery?, Notice.packet?, Notice.body?, Notice.isReport, silent]

/-! ## Ticks -/

/-- All that is asked for is so old, and has just asked or waits for its turn. -/
def Resting (r : Router) (ticks now : Nat) : Prop :=
  r.arp.Each fun res => res.Aged ticks now ∧ res.need now = .patience

section
variable {ticks : Nat} (resting : r.Resting ticks now) (young : ticks ≤ 1 + maxQuestions)
include resting young

theorem resting_await {d : Delivery} (settled : d.frame.Unreported) :
    (r.arp.joined d).need now ≠ .surrender ∧ Resting { r with arp := (r.arp.await d now).1 } ticks now := by
  have next : (r.arp.joined d).need now ≠ .surrender ∧ ((r.arp.joined d).advanced now).Aged ticks now := by
    rcases r.arp.joined_cases d with ⟨-, fresh⟩ | ⟨res, pending, joins⟩
    · have asks : (r.arp.joined d).need now = .question := by
        rw [fresh, Resolution.need_join, Resolution.need_fresh]
      rw [Resolution.advanced, if_pos asks]
      refine ⟨by simp [asks], Resolution.asked_asked (Resolution.few_of_need asks), .inr ⟨?_, ?_⟩⟩
      · rw [fresh]
        exact Resolution.unreported_join (by simp [Resolution.Unreported]) settled
      · rw [fresh]
        exact young
    · obtain ⟨aged, waits⟩ := resting _ res pending
      rw [joins, Resolution.advanced, Resolution.need_join, waits]
      exact ⟨by simp, aged.join settled⟩
  exact ⟨next.1, each_await resting fun goesOn => ⟨next.2, Resolution.need_advanced goesOn⟩⟩

/-- Notices go out or begin to wait, and nothing is given up for them. -/
theorem resting_dispatch {work : List Delivery} (settled : ∀ d ∈ work, d.frame.Unreported) :
    (r.dispatch now work).1.Resting ticks now := by
  induction work generalizing r with
  | nil => rwa [dispatch_nil]
  | cons d rest ih =>
    have later : ∀ x ∈ rest, x.frame.Unreported := by
      intro x mem
      exact settled x (List.mem_cons_of_mem d mem)
    cases known : r.arp.mac? d.nextHop with
    | some mac =>
      rw [dispatch_known_cons known]
      exact ih resting later
    | none =>
      obtain ⟨goesOn, rests⟩ := resting_await resting young (settled d List.mem_cons_self)
      rw [dispatch_unknown_cons known, notices_eq_nil goesOn]
      exact ih rests later

end

theorem resting_follow {ticks : Nat} (resting : r.Resting (ticks + 1) now) {p : Progress}
    (ends : ∀ given, p = .abandoned given → given.Unreported ∨ ticks ≤ maxQuestions) :
    (r.follow now p).1.Resting (ticks + 1) now := by
  cases p with
  | waiting => exact resting
  | asking ip interface => exact resting
  | abandoned given =>
    rcases ends given rfl with unreported | few
    · rwa [follow, regrets_eq_nil unreported, dispatch_nil]
    · exact resting_dispatch resting (by omega) fun d mem => unreported_regret mem

theorem resting_followAll {ticks : Nat} (resting : r.Resting (ticks + 1) now) {progress : List Progress}
    (ends : ∀ given, .abandoned given ∈ progress → given.Unreported ∨ ticks ≤ maxQuestions) :
    (r.followAll now progress).1.Resting (ticks + 1) now := by
  induction progress generalizing r with
  | nil => exact resting
  | cons p rest ih =>
    have first : (r.follow now p).1.Resting (ticks + 1) now :=
      resting_follow resting fun given same => ends given (same ▸ List.mem_cons_self)
    exact ih first fun given mem => ends given (List.mem_cons_of_mem p mem)

/-- A tick in time makes everything asked for one tick older. -/
theorem aged_arpTick {ticks s : Nat} (aged : r.arp.Each (·.Aged ticks s)) (gap : s + askInterval ≤ now)
    (order : List Ipv4Addr) :
    (r.arpTick now order).1.arp.Each (·.Aged (ticks + 1) now) := by
  have ticked : Resting { r with arp := r.arp.tick now } (ticks + 1) now := by
    refine each_tick aged ?_
    intro res aged goesOn
    have asks : res.need now = .question := by
      cases need : res.need now with
      | patience => exact absurd need (aged.not_patience gap)
      | question => rfl
      | surrender => exact absurd need goesOn
    refine ⟨?_, Resolution.need_advanced goesOn⟩
    rw [Resolution.advanced, if_pos asks]
    refine ⟨Resolution.asked_asked (Resolution.few_of_need asks), aged.old.imp ?_ ?_⟩
    · exact Nat.succ_le_succ
    · rintro ⟨unreported, young⟩
      refine ⟨unreported, ?_⟩
      show ticks + 1 ≤ res.questions + 1 + maxQuestions
      omega
  have rests : (r.arpTick now order).1.Resting (ticks + 1) now := by
    refine resting_followAll ticked ?_
    intro given mem
    have aged := aged _ given (overdue_of_abandoned mem).1
    refine aged.old.symm.imp And.left ?_
    intro old
    exact Nat.le_trans old aged.few
  exact rests.mono fun res each => each.1

/-- No frame is received. -/
def Unheard (xs : List (Nat × Stimulus)) : Prop := ∀ x ∈ xs, ∀ received, x.2 ≠ .frame received

/-- It is a tick of address resolution, in whatever order that comes upon the addresses. -/
def isArpTick : Stimulus → Bool
  | .arpTick _ => true
  | .init | .frame _ | .ripTick => false

/-- The times of the ticks of address resolution. -/
def arpTicks (xs : List (Nat × Stimulus)) : List Nat := (xs.filter fun x => isArpTick x.2).map Prod.fst

theorem exists_of_isArpTick {s : Stimulus} (tick : isArpTick s) : ∃ order, s = .arpTick order := by
  cases s with
  | arpTick order => exact ⟨order, rfl⟩
  | init | frame _ | ripTick => cases tick

theorem exists_of_arpTicks {xs : List (Nat × Stimulus)} {rest : List Nat} (times : arpTicks xs = now :: rest) :
    ∃ before order after, xs = before ++ (now, .arpTick order) :: after ∧ arpTicks after = rest := by
  obtain ⟨⟨_, _⟩, _, ticks, rfl, later⟩ := List.map_eq_cons_iff.1 times
  obtain ⟨before, after, split, -, tick, rfl⟩ := List.filter_eq_cons_iff.1 ticks
  obtain ⟨order, rfl⟩ := exists_of_isArpTick tick
  exact ⟨before, order, after, split, later⟩

theorem arp_respond_unheard {s : Stimulus} (unheard : ∀ received, s ≠ .frame received) (other : isArpTick s = false) :
    (r.respond now s).1.arp = r.arp := by
  cases s with
  | init => rfl
  | frame received => exact absurd rfl (unheard received)
  | arpTick order => cases other
  | ripTick => rfl

theorem aged_run {ticks s : Nat} (aged : r.arp.Each (·.Aged ticks s)) {ys : List (Nat × Stimulus)}
    (unheard : Unheard ys) (spaced : (s :: arpTicks ys).Pairwise fun s t => s + askInterval ≤ t) :
    ∃ t, (r.run ys).1.arp.Each (·.Aged (ticks + (arpTicks ys).length) t) := by
  induction ys generalizing r ticks s with
  | nil => exact ⟨s, aged⟩
  | cons y ys ih =>
    obtain ⟨silent, quiet⟩ := List.forall_mem_cons.1 unheard
    obtain ⟨now, stimulus⟩ := y
    cases tick : isArpTick stimulus with
    | true =>
      have times : arpTicks ((now, stimulus) :: ys) = now :: arpTicks ys := by simp [arpTicks, tick]
      obtain ⟨order, rfl⟩ := exists_of_isArpTick tick
      rw [times] at spaced ⊢
      obtain ⟨gaps, spaced⟩ := List.pairwise_cons.1 spaced
      obtain ⟨t, aged⟩ := ih (aged_arpTick aged (gaps now List.mem_cons_self) order) quiet spaced
      refine ⟨t, ?_⟩
      rw [List.length_cons, Nat.add_comm _ 1, ← Nat.add_assoc]
      exact aged
    | false =>
      have times : arpTicks ((now, stimulus) :: ys) = arpTicks ys := by simp [arpTicks, tick]
      rw [times] at spaced ⊢
      have same : (r.respond now stimulus).1.arp = r.arp := arp_respond_unheard silent tick
      exact ih (same ▸ aged) quiet spaced

theorem idle_iff {c : NeighbourCache} : c.pending.toList = [] ↔ c.Each fun _ => False := by
  rw [each_iff_mem, List.eq_nil_iff_forall_not_mem]

/-- Nothing that is asked for is as old as eleven ticks. -/
theorem idle_of_aged {ticks : Nat} (aged : r.arp.Each (·.Aged ticks now)) (many : 11 ≤ ticks) :
    r.arp.pending.toList = [] := by
  refine idle_iff.2 (aged.mono ?_)
  intro res aged
  have few := aged.few
  have old := aged.old
  rw [maxQuestions] at few old
  omega

theorem visited_of_idle {c : NeighbourCache} (idle : c.pending.toList = []) {order : List Ipv4Addr} :
    c.visited order = [] := by
  rw [NeighbourCache.visited, idle]
  exact (Resolution.perm_inOrder order []).eq_nil

theorem arpTick_idle (idle : r.arp.pending.toList = []) (now : Nat) (order : List Ipv4Addr) :
    r.arpTick now order = ({ r with arp := r.arp.tick now }, []) := by
  have nothing : r.arp.tickProgress now order = [] := by
    rw [NeighbourCache.tickProgress, visited_of_idle idle, List.filterMap_nil]
  rw [arpTick, nothing]
  rfl

/-- When nothing is asked for and no frame is received, nothing will be asked for. -/
theorem idle_run (idle : r.arp.pending.toList = []) {zs : List (Nat × Stimulus)} (unheard : Unheard zs) :
    (r.run zs).1.arp.pending.toList = [] := by
  induction zs generalizing r with
  | nil => exact idle
  | cons z zs ih =>
    obtain ⟨silent, quiet⟩ := List.forall_mem_cons.1 unheard
    have still : (r.respond z.1 z.2).1.arp.pending.toList = [] := by
      cases tick : isArpTick z.2 with
      | true =>
        obtain ⟨order, tick⟩ := exists_of_isArpTick tick
        rw [tick, respond, arpTick_idle idle]
        exact idle_iff.2 (each_tick (idle_iff.1 idle) fun _ absurd _ => absurd)
      | false => rwa [arp_respond_unheard silent tick]
    exact ih still quiet

/-- Resolutions nobody answers come to an end: after eleven ticks a second apart, with no frame received since before
the first, no address is asked for, and as long as none is received ticks do nothing. -/
theorem drained_by_ticks (empty : r.arp = {}) {xs ys : List (Nat × Stimulus)}
    (clock : ((xs ++ ys).map Prod.fst).Pairwise (· ≤ ·)) (unheard : Unheard ys) (many : 11 ≤ (arpTicks ys).length)
    (spaced : (arpTicks ys).Pairwise fun s t => s + 1000 ≤ t) :
    (r.run (xs ++ ys)).1.arp.pending.toList = [] ∧
      ∀ zs, Unheard zs → ∀ now order, ((r.run (xs ++ ys ++ zs)).1.respond now (.arpTick order)).2 = [] := by
  have idle : (r.run (xs ++ ys)).1.arp.pending.toList = [] := by
    cases times : arpTicks ys with
    | nil => simp [times] at many
    | cons now rest =>
      obtain ⟨before, order, after, rfl, rfl⟩ := exists_of_arpTicks times
      rw [times] at many spaced
      have reached : ((xs ++ before).map Prod.fst ++ [now]).Pairwise (· ≤ ·) := by
        have split : (xs ++ (before ++ (now, .arpTick order) :: after)).map Prod.fst =
            (xs ++ before).map Prod.fst ++ [now] ++ after.map Prod.fst := by simp
        rw [split] at clock
        exact (List.pairwise_append.1 clock).1
      have asked := asked_respond (asked_reached empty reached) (.arpTick order)
      -- The first tick may come right behind a question; from it on the others are in time.
      have young : ((r.run (xs ++ before)).1.respond now (.arpTick order)).1.arp.Each (·.Aged 1 now) :=
        asked.mono fun res asked => ⟨asked, .inl asked.some⟩
      have quiet : Unheard after := fun x mem => unheard x (by simp [mem])
      obtain ⟨t, aged⟩ := aged_run young quiet spaced
      rw [List.length_cons] at many
      rw [← List.append_assoc, run_append, run_cons]
      exact idle_of_aged aged (by omega)
  refine ⟨idle, ?_⟩
  intro zs unheard now order
  rw [run_append, respond, arpTick_idle (idle_run idle unheard)]

/-- The router with a way back to the sources of datagrams. -/
def withWayBack : Router :=
  { gatewayRouter with
    routes := gatewayRouter.routes.add
      (.fixed (.ofOctets 10 0 0 0) (.ofOctets 255 255 255 0) .unspecified "eth0") }

def toSecondAtFirst : List (Nat × Stimulus) := [(0, .frame toSecond)]

def tickEachSecond (n : Nat) : List (Nat × Stimulus) := (List.range n).map fun k => (1000 * k, .arpTick [])

/-- The gateway is given up at the sixth tick. The notice about that waits for the source, which is given up at the
eleventh. -/
theorem withWayBack_drained :
    ((toSecondAtFirst ++ tickEachSecond 11).map Prod.fst).Pairwise (· ≤ ·) ∧ Unheard (tickEachSecond 11) ∧
      (withWayBack.run (toSecondAtFirst ++ tickEachSecond 11)).1.arp.pending.toList = [] := by
  have clock : ((toSecondAtFirst ++ tickEachSecond 11).map Prod.fst).Pairwise (· ≤ ·) := by decide +kernel
  have unheard : Unheard (tickEachSecond 11) := by
    intro x mem received same
    obtain ⟨k, -, rfl⟩ := List.mem_map.1 mem
    cases same
  exact ⟨clock, unheard, (drained_by_ticks rfl clock unheard (by decide) (by decide +kernel)).1⟩

end Router

end SoftRouter
