import SoftRouter.Proofs.Egress
import SoftRouter.Proofs.Relaying
import SoftRouter.Proofs.Surrender

/-!
# What is handed over

What a router receives calls for a delivery, if it is passed on or a notice is made about it, and what the router gives
up on the way calls for notices (`Router.calledFor`). A response hands over all of that, each delivery once, and nothing
else (`handed_respond`).
-/

namespace SoftRouter

open Journal

namespace Router

/-- The verdict on what is received, if it is a packet on an interface of the router. -/
def verdict? (r : Router) (received : Transmission) : Option Verdict :=
  (r.interfaces.find? received.interface).bind fun i =>
    (Ipv4Packet.ofFrame received.frame).toOption.map fun p => r.judge i received.frame.dest p

/-- The deliveries that a verdict calls for. -/
def due (r : Router) : Verdict → List Delivery
  | .notify n about => (r.noticeDelivery? n about).toList
  | .forward d => [d]
  | .ignore | .rip _ => []

/-- The deliveries that a stimulus calls for, but for those about datagrams given up. -/
def firstHand (r : Router) : Stimulus → List Delivery
  | .frame received => (r.verdict? received).toList.flatMap r.due
  | .init | .arpTick _ | .ripTick => []

/-- The deliveries that a response calls for: those of the stimulus, and the notices about what is given up. -/
def calledFor (r : Router) (now : Nat) (s : Stimulus) : List Delivery :=
  r.firstHand s ++ ((r.respond now s).2.filterMap Event.given?).flatMap r.regrets

/-- What the responses of a run call for, one after the other. -/
def errands (r : Router) : List (Nat × Stimulus) → List (List Delivery)
  | [] => []
  | (now, s) :: rest => r.calledFor now s :: (r.respond now s).1.errands rest

/-- The events neither hand anything over nor give anything up. -/
def Inert (events : List Event) : Prop := ∀ ev ∈ events, ev.handed? = none ∧ ev.given? = none

/-- Besides the deliveries of some work, the notices about what was given up on the way are handed over. -/
def Handed (r : Router) (work : List Delivery) (events : List Event) : Prop :=
  (events.filterMap Event.handed?).Perm (work ++ (events.filterMap Event.given?).flatMap r.regrets)

variable {r : Router} {now : Nat}

namespace Handed

/-- Nothing is handed over and nothing is given up. -/
theorem nothing {events : List Event} (inert : Inert events) : r.Handed [] events := by
  have handed : events.filterMap Event.handed? = [] := List.filterMap_eq_nil_iff.2 fun ev mem => (inert ev mem).1
  have given : events.filterMap Event.given? = [] := List.filterMap_eq_nil_iff.2 fun ev mem => (inert ev mem).2
  rw [Handed, handed, given]
  exact .nil

theorem append {work rest : List Delivery} {first later : List Event} (front : r.Handed work first)
    (back : r.Handed rest later) : r.Handed (work ++ rest) (first ++ later) := by
  unfold Handed at *
  rw [List.filterMap_append, List.filterMap_append, List.flatMap_append]
  refine (front.append back).trans ?_
  rw [List.append_assoc, List.append_assoc]
  refine List.Perm.append_left work ?_
  rw [← List.append_assoc, ← List.append_assoc]
  exact List.perm_append_comm.append_right _

end Handed

theorem inert_announced (sent : List Transmission) : Inert (sent.map .announced) := by
  intro ev mem
  obtain ⟨t, -, rfl⟩ := List.mem_map.1 mem
  exact ⟨rfl, rfl⟩

theorem handed_dispatch (r : Router) (now : Nat) (work : List Delivery) : r.Handed work (r.dispatch now work).2 := by
  induction r, work using dispatch_induction now with
  | nil r =>
    rw [dispatch_nil]
    exact .nil
  | known r d rest mac found ih =>
    rw [dispatch_known_cons found]
    exact List.Perm.cons d ih
  | unknown r d rest missing ih =>
    -- What is given up at once is handed over again as notices in front of the rest.
    have quiet : (r.outcome (r.arp.await d now).2).filterMap Event.handed? = [] := by
      refine List.filterMap_eq_nil_iff.2 ?_
      intro ev mem
      exact outcome_handed? mem
    rw [dispatch_unknown_cons missing]
    unfold Handed at *
    dsimp only
    rw [List.cons_append, List.filterMap_cons_some (by rfl), List.filterMap_cons_none (by rfl), List.filterMap_append,
      List.filterMap_append, quiet, List.nil_append, given_outcome, List.flatMap_append, ← notices]
    refine List.Perm.cons d (ih.trans ?_)
    show (_ ++ rest ++ _).Perm (rest ++ (_ ++ _))
    rw [← List.append_assoc rest]
    exact List.perm_append_comm.append_right _

theorem handed_follow (r : Router) (now : Nat) (p : Progress) :
    r.Handed (r.notices p) (r.follow now p).2 := by
  cases p with
  | waiting => exact .nil
  | asking ip interface =>
    obtain ⟨sent, asks⟩ := r.question_spec ip interface
    show r.Handed [] (r.question ip interface)
    rw [asks]
    exact .nothing (inert_announced sent)
  | abandoned given =>
    have regrets : r.notices (.abandoned given) = r.regrets given := by simp [notices, Progress.given?]
    rw [regrets]
    exact handed_dispatch r now (r.regrets given)

theorem handed_followAll (r : Router) (now : Nat) (progress : List Progress) :
    r.Handed ((progress.filterMap Progress.given?).flatMap r.regrets) (r.followAll now progress).2 := by
  induction progress generalizing r with
  | nil => exact .nil
  | cons p rest ih =>
    have split : (p :: rest).filterMap Progress.given? = p.given?.toList ++ rest.filterMap Progress.given? := by
      cases p <;> rfl
    have same : (r.follow now p).1.regrets = r.regrets := by
      rw [(follow_still r now p).still]
      rfl
    have later := ih (r.follow now p).1
    rw [Handed, same] at later
    rw [split, List.flatMap_append]
    exact (handed_follow r now p).append later

theorem handed_arpTick (r : Router) (now : Nat) (order : List Ipv4Addr) : r.Handed [] (r.arpTick now order).2 := by
  have mute : (abandonments (r.arp.tickProgress now order)).filterMap Event.handed? = [] := by
    refine List.filterMap_eq_nil_iff.2 ?_
    intro ev mem
    obtain ⟨given, rfl⟩ := abandoned_of_mem mem
    rfl
  have later := handed_followAll { r with arp := r.arp.tick now } now (r.arp.tickProgress now order)
  show r.Handed [] (abandonments (r.arp.tickProgress now order) ++ _)
  unfold Handed at *
  rw [List.filterMap_append, List.filterMap_append, mute, given_abandonments, List.flatMap_append]
  exact later

theorem inert_handleArp (r : Router) (now : Nat) (i : Interface) (f : ArpFrame) : Inert (r.handleArp now i f).2 := by
  have nothing : Inert [] := fun _ mem => nomatch mem
  unfold handleArp
  split
  · split
    · cases f.replyTo? i.mac i.ip with
      | none => exact nothing
      | some reply => exact inert_announced [⟨i.name, reply.toFrame⟩]
    · split
      · intro ev mem
        obtain ⟨d, -, rfl⟩ := List.mem_map.1 mem
        exact ⟨rfl, rfl⟩
      · exact nothing
    · exact nothing
  · exact nothing

/-- What is done about a frame is the delivery that it calls for, or nothing is handed over. -/
theorem handle_dispatches (r : Router) (now : Nat) (received : Transmission) :
    r.firstHand (.frame received) = [] ∧ Inert (r.handle now received.interface received.frame).2 ∨
      r.handle now received.interface received.frame = r.dispatch now (r.firstHand (.frame received)) := by
  have nothing : Inert [] := fun _ mem => nomatch mem
  show (r.verdict? received).toList.flatMap r.due = [] ∧ _ ∨
    _ = r.dispatch now ((r.verdict? received).toList.flatMap r.due)
  unfold handle verdict?
  cases r.interfaces.find? received.interface with
  | none => exact .inl ⟨rfl, nothing⟩
  | some i =>
    dsimp only [Option.bind]
    by_cases arp : received.frame.etherType = etherTypeArp
    · rw [if_pos arp, Ipv4Packet.ofFrame_of_arp arp]
      cases ArpFrame.ofFrame received.frame with
      | error _ => exact .inl ⟨rfl, nothing⟩
      | ok f => exact .inl ⟨rfl, inert_handleArp r now i f⟩
    · rw [if_neg arp]
      cases Ipv4Packet.ofFrame received.frame with
      | error _ => exact .inl ⟨rfl, nothing⟩
      | ok p =>
        have one : ∀ v, (some v).toList.flatMap r.due = r.due v := by simp
        dsimp only [Except.toOption, Option.map]
        rw [one]
        unfold handlePacket
        cases r.judge i received.frame.dest p with
        | ignore => exact .inl ⟨rfl, nothing⟩
        | rip u => exact .inl ⟨rfl, inert_announced _⟩
        | notify n about => exact .inr rfl
        | forward d => exact .inr rfl

theorem handed_handle (r : Router) (now : Nat) (received : Transmission) :
    r.Handed (r.firstHand (.frame received)) (r.handle now received.interface received.frame).2 := by
  rcases handle_dispatches r now received with ⟨none, inert⟩ | dispatched
  · exact none ▸ .nothing inert
  · rw [dispatched]
    exact handed_dispatch r now _

/-- All that a response hands over is called for by the stimulus itself or by what is given up, and all of that is
handed over. -/
theorem handed_respond (r : Router) (now : Nat) (s : Stimulus) : r.Handed (r.firstHand s) (r.respond now s).2 := by
  cases s with
  | init => exact .nothing (inert_announced _)
  | frame received => exact handed_handle r now received
  | arpTick order => exact handed_arpTick r now order
  | ripTick => exact .nothing (inert_announced _)

theorem verdict?_eq_some_iff {received : Transmission} {v : Verdict} : r.verdict? received = some v ↔
    ∃ i p, r.interfaces.find? received.interface = some i ∧ Ipv4Packet.ofFrame received.frame = .ok p ∧
      r.judge i received.frame.dest p = v := by
  unfold verdict?
  constructor
  · intro verdict
    obtain ⟨i, port, verdict⟩ := Option.bind_eq_some_iff.1 verdict
    obtain ⟨p, read, verdict⟩ := Option.map_eq_some_iff.1 verdict
    exact ⟨i, p, port, toOption_eq_some_iff.1 read, verdict⟩
  · rintro ⟨i, p, port, read, rfl⟩
    rw [port, read]
    rfl

theorem mem_due {v : Verdict} {d : Delivery} :
    d ∈ r.due v ↔ v = .forward d ∨ ∃ n about, v = .notify n about ∧ r.noticeDelivery? n about = some d := by
  cases v with
  | ignore => simp [due]
  | rip u => simp [due]
  | notify n about => simp [due]
  | forward x => simp [due, eq_comm]

end Router

end SoftRouter
