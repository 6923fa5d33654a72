import SoftRouter.Proofs.Occasions

/-!
# Notices owed

By giving up an address a router comes to owe a notice for every datagram that waited for it, and what it hands over
pays what is owed first, either for the stimulus itself or for one of the addresses (`Pays`). However the notices for
one address come in between those for another, a response pays all that it comes to owe (`settled_respond`). So what
is handed over for an address is what is owed for it, in this order, and comes after the address was given up
(`accounted_respond`).
-/

namespace SoftRouter

/-- What there is to hand over or was, each for the stimulus itself or for an address given up. -/
abbrev Noted (α : Type) := List (Option Ipv4Addr × α)

/-- The deliveries owed for the stimulus itself, and for every address that was given up. -/
abbrev Debts := Option Ipv4Addr → List Delivery

/-- What is to be handed over is owed. -/
def dues (work : Noted Delivery) : Debts := fun cause => work.filterMap fun x => if x.1 = cause then some x.2 else none

/-- More is owed, behind what is owed already. -/
def Debts.plus (owed : Debts) (work : Noted Delivery) : Debts := fun cause => owed cause ++ dues work cause

/-- What is handed over for the stimulus itself, or for an address given up. -/
def paidFor (cause : Option Ipv4Addr) (noted : Noted Event) : List Delivery :=
  noted.filterMap fun x => if x.1 = cause then x.2.handed? else none

/-- What is owed for resolutions given up. -/
def regretted (regrets : Resolution → List Delivery) (given : List Resolution) : Noted Delivery :=
  given.flatMap fun g => (regrets g).map (some g.ip, ·)

/-- An event pays the first delivery that is owed for its cause, or is the giving up of an address for which nothing
is owed yet. -/
inductive Pays (regrets : Resolution → List Delivery) (cause : Option Ipv4Addr) (owed : Debts) : Event → Debts → Prop
  | mute {ev : Event} (keeps : ev.handed? = none) (goesOn : ev.given? = none) : Pays regrets cause owed ev owed
  | hands {ev : Event} {d : Delivery} {left : Debts} (hands : ev.handed? = some d)
      (first : ∀ c, owed c = dues [(cause, d)] c ++ left c) : Pays regrets cause owed ev left
  | gives {given : Resolution} (clear : owed (some given.ip) = []) :
      Pays regrets cause owed (.abandoned given) (owed.plus (regretted regrets [given]))

/-- Events, each with its cause, pay what is owed down to what is left. -/
def Settles (regrets : Resolution → List Delivery) : Debts → Noted Event → Debts → Prop
  | owed, [], left => owed = left
  | owed, (cause, ev) :: rest, left => ∃ next, Pays regrets cause owed ev next ∧ Settles regrets next rest left

theorem dues_append (first later : Noted Delivery) (c : Option Ipv4Addr) :
    dues (first ++ later) c = dues first c ++ dues later c := List.filterMap_append

@[simp] theorem Debts.plus_nil (owed : Debts) : owed.plus [] = owed := funext fun _ => List.append_nil _

theorem Debts.plus_append (owed : Debts) (first later : Noted Delivery) :
    owed.plus (first ++ later) = (owed.plus first).plus later := by
  funext c
  rw [plus, plus, plus, dues_append, List.append_assoc]

theorem map_snd_noted {α : Type} (cause : Option Ipv4Addr) (xs : List α) : (xs.map (cause, ·)).map Prod.snd = xs := by
  simp [Function.comp_def]

/-- What is owed first is owed ahead of the rest. -/
theorem owes_next {owed next left : Debts} {x : Option Ipv4Addr × Delivery} {work : Noted Delivery}
    (owes : ∀ c, owed c = dues (x :: work) c ++ left c) (later : ∀ c, next c = dues work c ++ left c)
    (c : Option Ipv4Addr) : owed c = dues [x] c ++ next c := by
  rw [owes, later, ← List.append_assoc, ← dues_append, List.singleton_append]

theorem dues_for (cause c : Option Ipv4Addr) (work : List Delivery) :
    dues (work.map (cause, ·)) c = if cause = c then work else [] := by
  unfold dues
  by_cases same : cause = c <;> simp [List.filterMap_map, same]

theorem paidFor_cons (cause c : Option Ipv4Addr) (ev : Event) (rest : Noted Event) :
    paidFor c ((cause, ev) :: rest) = (if cause = c then ev.handed?.toList else []) ++ paidFor c rest := by
  unfold paidFor
  by_cases same : cause = c
  · cases hands : ev.handed? <;> simp [same, hands]
  · simp [same]

variable {regrets : Resolution → List Delivery}

theorem regretted_append (first later : List Resolution) :
    regretted regrets (first ++ later) = regretted regrets first ++ regretted regrets later := List.flatMap_append

theorem regretted_cons (given : Resolution) (rest : List Resolution) :
    regretted regrets (given :: rest) = regretted regrets [given] ++ regretted regrets rest :=
  regretted_append [given] rest

theorem map_snd_regretted (given : List Resolution) :
    (regretted regrets given).map Prod.snd = given.flatMap regrets := by
  simp [regretted, List.map_flatMap, Function.comp_def]

theorem dues_regretted_singleton (given : Resolution) (c : Option Ipv4Addr) :
    dues (regretted regrets [given]) c = if some given.ip = c then regrets given else [] := by
  rw [regretted, List.flatMap_singleton, dues_for]

theorem dues_regretted_none (given : List Resolution) : dues (regretted regrets given) none = [] := by
  refine List.filterMap_eq_nil_iff.2 ?_
  intro x mem
  obtain ⟨g, -, regret⟩ := List.mem_flatMap.1 mem
  obtain ⟨d, -, rfl⟩ := List.mem_map.1 regret
  rfl

theorem dues_regretted_eq_nil {given : List Resolution} {ip : Ipv4Addr} (other : ip ∉ given.map Resolution.ip) :
    dues (regretted regrets given) (some ip) = [] := by
  induction given with
  | nil => rfl
  | cons g rest ih =>
    rw [List.map_cons, List.mem_cons, not_or] at other
    have apart : some g.ip ≠ some ip := fun same => other.1 (Option.some.inj same).symm
    rw [regretted_cons, dues_append, dues_regretted_singleton, if_neg apart, ih other.2]
    rfl

/-- Where nothing is owed for what is given up, it does not matter whether that comes behind what is owed or ahead. -/
theorem plus_regretted {owed : Debts} {given : List Resolution} (clear : ∀ g ∈ given, owed (some g.ip) = [])
    (c : Option Ipv4Addr) :
    owed.plus (regretted regrets given) c = dues (regretted regrets given) c ++ owed c := by
  rw [Debts.plus]
  cases c with
  | none => rw [dues_regretted_none, List.nil_append, List.append_nil]
  | some ip =>
    by_cases mem : ip ∈ given.map Resolution.ip
    · obtain ⟨g, member, rfl⟩ := List.mem_map.1 mem
      rw [clear g member, List.nil_append, List.append_nil]
    · rw [dues_regretted_eq_nil mem, List.nil_append, List.append_nil]

namespace Settles

theorem append_iff {owed left : Debts} {first later : Noted Event} : Settles regrets owed (first ++ later) left ↔
    ∃ middle, Settles regrets owed first middle ∧ Settles regrets middle later left := by
  induction first generalizing owed with
  | nil => simp [Settles]
  | cons x rest ih =>
    simp only [List.cons_append, Settles, ih]
    constructor
    · rintro ⟨next, pays, middle, front, back⟩
      exact ⟨middle, ⟨next, pays, front⟩, back⟩
    · rintro ⟨middle, ⟨next, pays, front⟩, back⟩
      exact ⟨next, pays, middle, front, back⟩

theorem append {owed middle left : Debts} {first later : Noted Event} (front : Settles regrets owed first middle)
    (back : Settles regrets middle later left) : Settles regrets owed (first ++ later) left :=
  append_iff.2 ⟨middle, front, back⟩

/-- What neither hands over nor gives up anything leaves the debts as they are. -/
theorem mute {owed : Debts} (cause : Option Ipv4Addr) {events : List Event} (inert : Router.Inert events) :
    Settles regrets owed (events.map (cause, ·)) owed := by
  induction events with
  | nil => rfl
  | cons ev rest ih =>
    obtain ⟨first, others⟩ := List.forall_mem_cons.1 inert
    exact ⟨owed, .mute first.1 first.2, ih others⟩

/-- Addresses are given up one after the other. -/
theorem gives {owed : Debts} (cause : Option Ipv4Addr) {given : List Resolution}
    (distinct : (given.map Resolution.ip).Nodup) (clear : ∀ g ∈ given, owed (some g.ip) = []) :
    Settles regrets owed (given.map fun g => (cause, .abandoned g)) (owed.plus (regretted regrets given)) := by
  induction given generalizing owed with
  | nil => exact owed.plus_nil.symm
  | cons g rest ih =>
    obtain ⟨other, distinct⟩ := List.nodup_cons.1 distinct
    obtain ⟨first, others⟩ := List.forall_mem_cons.1 clear
    refine ⟨_, .gives first, ?_⟩
    rw [regretted_cons g rest, Debts.plus_append]
    refine ih distinct ?_
    intro x mem
    have apart : x.ip ∉ [g].map Resolution.ip := by
      intro same
      exact other (List.mem_singleton.1 same ▸ List.mem_map_of_mem mem)
    rw [Debts.plus, others x mem, dues_regretted_eq_nil apart, List.append_nil]

/-- What was owed and what came to be owed is what is paid and what is left. -/
theorem balance {owed left : Debts} {noted : Noted Event} (settles : Settles regrets owed noted left)
    (c : Option Ipv4Addr) :
    owed c ++ dues (regretted regrets ((noted.map Prod.snd).filterMap Event.given?)) c =
      paidFor c noted ++ left c := by
  induction noted generalizing owed with
  | nil =>
    obtain rfl : owed = left := settles
    exact List.append_nil _
  | cons x rest ih =>
    obtain ⟨cause, ev⟩ := x
    obtain ⟨next, pays, settles⟩ := settles
    have later := ih settles
    rw [List.map_cons, paidFor_cons]
    cases pays with
    | mute keeps goesOn =>
      rw [List.filterMap_cons_none goesOn, keeps, later]
      simp
    | @hands _ d _ hands first =>
      have goesOn : ev.given? = none := by
        cases ev <;> first | rfl | cases hands
      have paid : dues [(cause, d)] c = if cause = c then [d] else [] := dues_for cause c [d]
      rw [List.filterMap_cons_none goesOn, first, List.append_assoc, later, hands, paid, List.append_assoc]
      rfl
    | @gives given clear =>
      have nothing : (Event.abandoned given).handed?.toList = [] := rfl
      rw [List.filterMap_cons_some (by rfl), regretted_cons, dues_append, ← List.append_assoc, ← Debts.plus,
        later, nothing, ite_self, List.nil_append]

end Settles

namespace Router

open NeighbourCache

variable {r : Router} {now : Nat}

/-- Nothing is owed for an address that is still to be given up now. -/
def Unspent (c : NeighbourCache) (now : Nat) (owed : Debts) : Prop :=
  ∀ ip q, c.Overdue now ip q → owed (some ip) = []

theorem settles_outcome {owed : Debts} {p : Progress} (cause : Option Ipv4Addr)
    (clear : ∀ g ∈ p.given?.toList, owed (some g.ip) = []) :
    Settles regrets owed ((r.outcome p).map (cause, ·)) (owed.plus (regretted regrets p.given?.toList)) := by
  cases p with
  | waiting => exact owed.plus_nil.symm
  | asking ip interface =>
    obtain ⟨sent, asks⟩ := r.question_spec ip interface
    have same : owed.plus (regretted regrets (Progress.asking ip interface).given?.toList) = owed := owed.plus_nil
    rw [outcome, asks, same]
    exact .mute cause (inert_announced sent)
  | abandoned given => exact @Settles.gives regrets owed cause [given] (List.pairwise_singleton _ _) clear

namespace Unspent

variable {c after : NeighbourCache} {given : List Resolution} {owed left : Debts} (unspent : Unspent c now owed)
include unspent

/-- What is owed in the end is owed all the time. -/
theorem rest {front : Noted Delivery} (owes : ∀ cause, owed cause = dues front cause ++ left cause) :
    Unspent c now left := by
  intro ip q overdue
  have none := unspent ip q overdue
  rw [owes] at none
  exact (List.append_eq_nil_iff.1 none).2

theorem clear (spends : Spends now c given after) : ∀ g ∈ given, owed (some g.ip) = [] := by
  intro g mem
  obtain ⟨q, -, overdue, -⟩ := spends.due g mem
  exact unspent g.ip q overdue

theorem later (spends : Spends now c given after) : Unspent after now (owed.plus (regretted regrets given)) := by
  intro ip q overdue
  obtain ⟨earlier, other⟩ := spends.left ip q overdue
  rw [Debts.plus, unspent ip q earlier, dues_regretted_eq_nil other, List.append_nil]

end Unspent

theorem settles_dispatch (same : r.regrets = regrets) (work : Noted Delivery) {owed left : Debts}
    (owes : ∀ c, owed c = dues work c ++ left c) (unspent : Unspent r.arp now owed) :
    ∃ noted, noted.map Prod.snd = (r.dispatch now (work.map Prod.snd)).2 ∧ Settles regrets owed noted left := by
  generalize deliveries : work.map Prod.snd = ds
  induction r, ds using dispatch_induction now generalizing work owed with
  | nil r =>
    obtain rfl : work = [] := List.map_eq_nil_iff.1 deliveries
    exact ⟨[], by rw [dispatch_nil]; rfl, funext owes⟩
  | known r d rest mac found ih =>
    obtain ⟨⟨cause, x⟩, work, rfl, rfl, rfl⟩ := List.map_eq_cons_iff.1 deliveries
    obtain ⟨next, later⟩ : ∃ next : Debts, ∀ c, next c = dues work c ++ left c := ⟨_, fun _ => rfl⟩
    have first := owes_next owes later
    obtain ⟨noted, events, settles⟩ := ih same work later (unspent.rest first) rfl
    refine ⟨(cause, .delivered x mac) :: noted, ?_, next, .hands rfl first, settles⟩
    rw [dispatch_known_cons found, List.map_cons, events]
  | unknown r d rest missing ih =>
    obtain ⟨⟨cause, x⟩, work, rfl, rfl, rfl⟩ := List.map_eq_cons_iff.1 deliveries
    obtain ⟨next, later⟩ : ∃ next : Debts, ∀ c, next c = dues work c ++ left c := ⟨_, fun _ => rfl⟩
    have first := owes_next owes later
    have spends := r.arp.spends_await x now
    have clear := (unspent.rest first).clear spends
    -- The notices about what is given up at once are owed besides, and are handed over first.
    have more : ∀ c, next.plus (regretted regrets (r.arp.await x now).2.given?.toList) c =
        dues (regretted regrets (r.arp.await x now).2.given?.toList ++ work) c ++ left c := by
      intro c
      rw [plus_regretted clear, later, dues_append, List.append_assoc]
    have deliveries : (regretted regrets (r.arp.await x now).2.given?.toList ++ work).map Prod.snd =
        r.notices (r.arp.await x now).2 ++ work.map Prod.snd := by
      rw [List.map_append, map_snd_regretted, notices, same]
    obtain ⟨noted, events, settles⟩ := ih same _ more ((unspent.rest first).later spends) deliveries
    refine ⟨(cause, .queued x) :: ((r.outcome (r.arp.await x now).2).map (cause, ·) ++ noted), ?_, next,
      .hands rfl first, (settles_outcome cause clear).append settles⟩
    rw [dispatch_unknown_cons missing, List.map_cons, List.map_append, map_snd_noted, events]
    rfl

theorem settles_follow (same : r.regrets = regrets) (p : Progress) {owed left : Debts}
    (owes : ∀ c, owed c = dues (regretted regrets p.given?.toList) c ++ left c) (unspent : Unspent r.arp now owed) :
    ∃ noted, noted.map Prod.snd = (r.follow now p).2 ∧ Settles regrets owed noted left := by
  cases p with
  | waiting => exact ⟨[], rfl, funext owes⟩
  | asking ip interface =>
    obtain rfl : owed = left := funext owes
    obtain ⟨sent, asks⟩ := r.question_spec ip interface
    refine ⟨(r.question ip interface).map (none, ·), map_snd_noted none _, ?_⟩
    rw [asks]
    exact .mute none (inert_announced sent)
  | abandoned given =>
    have dispatched := settles_dispatch same (regretted regrets [given]) owes unspent
    rw [map_snd_regretted, List.flatMap_singleton, ← same] at dispatched
    rw [← same]
    exact dispatched

theorem settles_followAll (same : r.regrets = regrets) (progress : List Progress) {owed left : Debts}
    (owes : ∀ c, owed c = dues (regretted regrets (progress.filterMap Progress.given?)) c ++ left c)
    (unspent : Unspent r.arp now owed) :
    ∃ noted, noted.map Prod.snd = (r.followAll now progress).2 ∧ Settles regrets owed noted left := by
  induction progress generalizing r owed with
  | nil => exact ⟨[], rfl, funext owes⟩
  | cons p rest ih =>
    have split : (p :: rest).filterMap Progress.given? = p.given?.toList ++ rest.filterMap Progress.given? := by
      cases p <;> rfl
    obtain ⟨next, later⟩ : ∃ next : Debts, ∀ c,
      next c = dues (regretted regrets (rest.filterMap Progress.given?)) c ++ left c := ⟨_, fun _ => rfl⟩
    have first : ∀ c, owed c = dues (regretted regrets p.given?.toList) c ++ next c := by
      intro c
      rw [owes, split, regretted_append, dues_append, later, List.append_assoc]
    -- Nothing becomes overdue when a resolution is followed.
    have overdue : ∀ ip q, (r.follow now p).1.arp.Overdue now ip q → r.arp.Overdue now ip q :=
      follow_keeps (P := fun s => ∀ ip q, s.arp.Overdue now ip q → r.arp.Overdue now ip q)
        (fun s d before ip q overdue => before ip q ((s.arp.spends_await d now).left ip q overdue).1)
        (fun _ _ overdue => overdue) p
    have unspent' : Unspent (r.follow now p).1.arp now next := by
      intro ip q late
      exact unspent.rest first ip q (overdue ip q late)
    have same' : (r.follow now p).1.regrets = regrets := by
      rw [(follow_still r now p).still]
      exact same
    obtain ⟨noted, events, settles⟩ := settles_follow same p first unspent
    obtain ⟨noted', events', settles'⟩ := ih same' later unspent'
    exact ⟨noted ++ noted', by rw [List.map_append, events, events']; rfl, settles.append settles'⟩

/-- The events pay what is owed at first, and all that comes to be owed on the way. -/
def Settled (r : Router) (work : List Delivery) (events : List Event) : Prop :=
  ∃ noted, noted.map Prod.snd = events ∧ Settles r.regrets (dues (work.map (none, ·))) noted (dues [])

theorem Settled.mute {events : List Event} (inert : Inert events) : r.Settled [] events :=
  ⟨events.map (none, ·), map_snd_noted none events, .mute none inert⟩

theorem settled_dispatch (r : Router) (now : Nat) (work : List Delivery) :
    r.Settled work (r.dispatch now work).2 := by
  have unspent : Unspent r.arp now (dues (work.map (none, ·))) := by
    intro ip q _
    exact (dues_for none (some ip) work).trans (if_neg nofun)
  obtain ⟨noted, events, settles⟩ :=
    settles_dispatch rfl (work.map (none, ·)) (fun c => (List.append_nil _).symm) unspent
  exact ⟨noted, by rw [events, map_snd_noted], settles⟩

theorem settled_arpTick (r : Router) (now : Nat) (order : List Ipv4Addr) : r.Settled [] (r.arpTick now order).2 := by
  have spends := r.arp.spends_tick now order
  have given := Tracks.abandonments_tickProgress r.arp now order
  rw [← given_tickProgress] at given
  have unspent : Unspent (r.arp.tick now) now
      (dues (regretted r.regrets ((r.arp.tickProgress now order).filterMap Progress.given?))) := by
    intro ip q overdue
    exact dues_regretted_eq_nil (spends.left ip q overdue).2
  obtain ⟨noted, events, settles⟩ := settles_followAll (r := { r with arp := r.arp.tick now }) rfl
    (r.arp.tickProgress now order) (fun c => (List.append_nil _).symm) unspent
  refine ⟨((r.arp.tickProgress now order).filterMap Progress.given?).map (fun g => (none, .abandoned g)) ++ noted, ?_,
    (Settles.gives none spends.distinct fun _ _ => rfl).append ?_⟩
  · rw [List.map_append, events, List.map_map]
    show List.map Event.abandoned _ ++ _ = abandonments _ ++ _
    rw [given]
  · exact settles

theorem settled_handle (r : Router) (now : Nat) (received : Transmission) :
    r.Settled (r.firstHand (.frame received)) (r.handle now received.interface received.frame).2 := by
  rcases handle_dispatches r now received with ⟨none, inert⟩ | dispatched
  · exact none ▸ .mute inert
  · rw [dispatched]
    exact settled_dispatch r now _

theorem settled_respond (r : Router) (now : Nat) (s : Stimulus) : r.Settled (r.firstHand s) (r.respond now s).2 := by
  cases s with
  | init => exact .mute (inert_announced _)
  | frame received => exact settled_handle r now received
  | arpTick order => exact settled_arpTick r now order
  | ripTick => exact .mute (inert_announced _)

/-! ## What is handed over for each address -/

/-- What is handed over is owed for the stimulus itself, or for one of the addresses given up; and what is handed over
for one of these are the notices about what waited for it, after it was given up. -/
structure Accounted (r : Router) (s : Stimulus) (noted : Noted Event) : Prop where
  own : paidFor none noted = r.firstHand s
  given : ∀ before cause given after, noted = before ++ (cause, .abandoned given) :: after →
    paidFor (some given.ip) before = [] ∧ paidFor (some given.ip) after = r.regrets given
  others : ∀ ip, (∀ given, .abandoned given ∈ noted.map Prod.snd → given.ip ≠ ip) → paidFor (some ip) noted = []

theorem ip_not_mem {events : List Event} {ip : Ipv4Addr} (others : ∀ given, .abandoned given ∈ events → given.ip ≠ ip) :
    ip ∉ (events.filterMap Event.given?).map Resolution.ip := by
  intro mem
  obtain ⟨given, member, same⟩ := List.mem_map.1 mem
  obtain ⟨ev, there, gives⟩ := List.mem_filterMap.1 member
  cases ev <;> cases gives
  exact others given there same

theorem accounted_respond (r : Router) (now : Nat) (s : Stimulus) :
    ∃ noted, noted.map Prod.snd = (r.respond now s).2 ∧ r.Accounted s noted := by
  obtain ⟨noted, events, settles⟩ := settled_respond r now s
  have distinct := (spends_respond r now s).distinct
  have nothing (ip : Ipv4Addr) : dues ((r.firstHand s).map (none, ·)) (some ip) = [] :=
    (dues_for none (some ip) _).trans (if_neg nofun)
  refine ⟨noted, events, ?_, ?_, ?_⟩
  · have balance := settles.balance none
    rw [dues_for, if_pos rfl, dues_regretted_none, List.append_nil] at balance
    exact (balance.trans (List.append_nil _)).symm
  · rintro before cause given after rfl
    rw [← events, List.map_append, List.map_cons, List.filterMap_append, List.filterMap_cons_some (by rfl),
      List.map_append, List.map_cons] at distinct
    obtain ⟨-, behind, apart⟩ := List.nodup_append.1 distinct
    have ahead : given.ip ∉ ((before.map Prod.snd).filterMap Event.given?).map Resolution.ip :=
      fun mem => apart _ mem _ List.mem_cons_self rfl
    obtain ⟨middle, front, next, pays, back⟩ := Settles.append_iff.1 settles
    have paid := front.balance (some given.ip)
    have later := back.balance (some given.ip)
    cases pays with
    | mute _ goesOn => cases goesOn
    | hands hands _ => cases hands
    | gives clear =>
      rw [nothing, dues_regretted_eq_nil ahead, clear] at paid
      rw [Debts.plus, clear, dues_regretted_singleton, if_pos rfl,
        dues_regretted_eq_nil (List.nodup_cons.1 behind).1, List.append_nil] at later
      exact ⟨(paid.trans (List.append_nil _)).symm, (later.trans (List.append_nil _)).symm⟩
  · intro ip others
    have balance := settles.balance (some ip)
    rw [nothing, dues_regretted_eq_nil (ip_not_mem others)] at balance
    exact (List.append_eq_nil_iff.1 balance.symm).1

end Router

end SoftRouter
