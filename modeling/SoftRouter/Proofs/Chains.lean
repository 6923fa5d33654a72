import SoftRouter.Proofs.Causes
import SoftRouter.Proofs.Questions
import SoftRouter.Proofs.Surrender

/-!
# Chains of cause and effect

For a frame received at most one datagram is ever sent, since at every moment at most one waits or is to be handed
over for it (`spends_run`). That one ranks below the datagram received. So whatever the routers of a network make of
a datagram, one on account of the other, comes to an end after a bounded number (`chains_end`).
-/

namespace SoftRouter

open EthernetFrame

namespace Account

theorem sentFor_append (k : Nat) (first later : Account) :
    sentFor k (first ++ later) = sentFor k first ++ sentFor k later := List.filterMap_append

/-- Nothing is sent for a stimulus by what has no cause. -/
theorem sentFor_uncaused (k : Nat) (events : List Event) : sentFor k (events.map (none, ·)) = [] := by
  refine List.filterMap_eq_nil_iff.2 ?_
  intro x mem
  obtain ⟨ev, -, rfl⟩ := List.mem_map.1 mem
  exact if_neg (by simp)

theorem mem_sentFor {k : Nat} {account : Account} {out : Transmission} :
    out ∈ sentFor k account ↔ ∃ ev, (some k, ev) ∈ account ∧ ev.transmission? = some out := by
  unfold sentFor
  rw [List.mem_filterMap]
  constructor
  · rintro ⟨⟨cause, ev⟩, mem, sent⟩
    dsimp only at sent
    split at sent
    · rename_i same
      exact ⟨ev, same ▸ mem, sent⟩
    · cases sent
  · rintro ⟨ev, mem, sent⟩
    exact ⟨_, mem, (if_pos rfl).trans sent⟩

end Account

open Account

namespace Tracer

variable {t : Tracer} {now : Nat} (k : Nat)

/-- How many frames wait for the stimulus of this number. -/
def waits (t : Tracer) (k : Nat) : Nat := (t.ledger.map Prod.snd).count k

theorem count_split (ledger : List (Ipv4Addr × Nat)) (ip : Ipv4Addr) :
    ((ledger.filter fun x => x.1 = ip).map Prod.snd).count k +
      ((ledger.filter fun x => ¬ x.1 = ip).map Prod.snd).count k = (ledger.map Prod.snd).count k := by
  have parts := (List.filter_append_perm (fun x : Ipv4Addr × Nat => x.1 = ip) ledger).map Prod.snd
  rw [← parts.count_eq k, List.map_append, List.count_append]
  simp

/-- What is struck out for addresses no longer asked for, and what stays, is no more than there was. -/
theorem count_ended (still : Ipv4Addr → Bool) {ips : List Ipv4Addr} (distinct : ips.Nodup)
    (ended : ∀ ip ∈ ips, still ip = false) (ledger : List (Ipv4Addr × Nat)) :
    ((ledger.filter fun x => still x.1).map Prod.snd).count k +
      (ips.flatMap fun ip => (ledger.filter fun x => x.1 = ip).map Prod.snd).count k ≤
        (ledger.map Prod.snd).count k := by
  induction ips generalizing ledger with
  | nil =>
    rw [List.flatMap_nil, List.count_nil, Nat.add_zero]
    exact (List.filter_sublist.map _).count_le k
  | cons ip rest ih =>
    obtain ⟨fresh, distinct⟩ := List.nodup_cons.1 distinct
    obtain ⟨gone, ended⟩ := List.forall_mem_cons.1 ended
    have others := ih distinct ended (ledger.filter fun x => ¬ x.1 = ip)
    have stays : (ledger.filter fun x => ¬ x.1 = ip).filter (fun x => still x.1) =
        ledger.filter fun x => still x.1 := by
      rw [List.filter_filter]
      refine List.filter_congr ?_
      intro x _
      by_cases same : x.1 = ip <;> simp [same, gone]
    have apart : (rest.flatMap fun other =>
        ((ledger.filter fun x => ¬ x.1 = ip).filter fun x => x.1 = other).map Prod.snd) =
        rest.flatMap fun other => (ledger.filter fun x => x.1 = other).map Prod.snd := by
      refine List.flatMap_congr ?_
      intro other mem
      rw [List.filter_filter]
      congr 1
      refine List.filter_congr ?_
      intro x _
      by_cases same : x.1 = other
      · have ne : x.1 ≠ ip := fun hop => fresh (hop ▸ same ▸ mem)
        simp [same, same ▸ ne]
      · simp [same]
    rw [stays, apart] at others
    rw [List.flatMap_cons, List.count_append]
    have whole := count_split k ledger ip
    omega

theorem waits_settled_le (t : Tracer) (arp : NeighbourCache) : (t.settled arp).waits k ≤ t.waits k :=
  (List.filter_sublist.map _).count_le k

/-- For an address that is no longer asked for nothing waits. -/
theorem waits_settled_of_none {arp : NeighbourCache} {ip : Ipv4Addr} (none : arp.resolution? ip = none) :
    (t.settled arp).waits k + (t.causes ip).count k ≤ t.waits k := by
  have parts := count_ended k (fun ip => (arp.resolution? ip).isSome) (List.nodup_singleton ip)
    (by simp [none]) t.ledger
  simpa [causes, settled, waits] using parts

theorem count_cons_eq (cause : Nat) (causes : List Nat) :
    (cause :: causes).count k = [cause].count k + causes.count k := by
  rw [← List.singleton_append, List.count_append]

/-- Of the frames given up each calls for one notice at most. -/
theorem count_due_le (r : Router) (causes : List Nat) (frames : List EthernetFrame) :
    ((due r causes frames).map Prod.fst).count k ≤ causes.count k := by
  refine List.Sublist.count_le k ?_
  induction causes generalizing frames with
  | nil => simp [due]
  | cons cause causes ih =>
    cases frames with
    | nil => simp [due]
    | cons f frames =>
      have later := ih frames
      unfold due at later ⊢
      rw [List.zip_cons_cons, List.filterMap_cons]
      split
      · exact later.cons cause
      · rename_i notice
        obtain ⟨d, -, rfl⟩ := Option.map_eq_some_iff.1 notice
        exact later.cons_cons cause

theorem spends_notices (t : Tracer) (cause : Nat) (d : Delivery) (now : Nat) :
    (t.await cause d now).waits k +
      ((t.notices cause d (t.router.arp.await d now).2).map Prod.fst).count k ≤ t.waits k + [cause].count k := by
  have more : waits { t with ledger := t.ledger ++ [(d.nextHop, cause)] } k = t.waits k + [cause].count k := by
    simp [waits]
  rw [← more, notices, t.router.arp.given?_await d now]
  by_cases ends : (t.router.arp.joined d).need now = .surrender
  · have gone : (t.router.arp.await d now).1.resolution? d.nextHop = none := by
      rw [t.router.arp.resolution?_await_self d now, if_pos ends]
    have split := waits_settled_of_none k (t := { t with ledger := t.ledger ++ [(d.nextHop, cause)] }) gone
    have due := count_due_le k t.router (t.causes d.nextHop ++ [cause]) (t.router.arp.joined d).waiting
    have same : causes { t with ledger := t.ledger ++ [(d.nextHop, cause)] } d.nextHop =
        t.causes d.nextHop ++ [cause] := by simp [causes]
    rw [same] at split
    rw [if_pos ends, Option.toList_some, List.flatMap_singleton]
    exact Nat.le_trans (Nat.add_le_add_left due _) split
  · rw [if_neg ends]
    exact waits_settled_le k _ _

/-- Handing over, a datagram waits or is sent for what it is there for, or a notice takes its place. -/
theorem spends_dispatch (t : Tracer) (now : Nat) (work : List (Nat × Delivery)) :
    (t.dispatch now work).1.waits k + (sentFor k (t.dispatch now work).2).length ≤
      t.waits k + (work.map Prod.fst).count k := by
  fun_induction dispatch t now work with
  | case1 t => simp [sentFor]
  | case2 t cause d rest mac known s account same ih =>
    rw [same] at ih
    have sent : (sentFor k ((some cause, .delivered d mac) :: account)).length =
        [cause].count k + (sentFor k account).length := by
      by_cases own : cause = k <;> simp [sentFor, Event.transmission?, own, Nat.add_comm]
    have counted : (((cause, d) :: rest).map Prod.fst).count k = _ := count_cons_eq k cause _
    dsimp only at ih ⊢
    omega
  | case3 t cause d rest missing p s account same ih =>
    rw [same, List.map_append, List.count_append] at ih
    have waits : _ + ((t.notices cause d p).map Prod.fst).count k ≤ _ := spends_notices k t cause d now
    have sent : sentFor k ((some cause, .queued d) :: (t.router.outcome p).map (none, ·) ++ account) =
        sentFor k account := by
      rw [sentFor_append, ← List.singleton_append, sentFor_append, sentFor_uncaused]
      simp [sentFor, Event.transmission?]
    have counted : (((cause, d) :: rest).map Prod.fst).count k = _ := count_cons_eq k cause _
    dsimp only at ih ⊢
    rw [sent]
    omega

theorem spends_followAll (t : Tracer) (now : Nat) (causes : Ipv4Addr → List Nat) (progress : List Progress) :
    (t.followAll now causes progress).1.waits k + (sentFor k (t.followAll now causes progress).2).length ≤
      t.waits k + (((progress.filterMap Progress.given?).map Resolution.ip).flatMap causes).count k := by
  induction progress generalizing t with
  | nil => simp [followAll, sentFor]
  | cons p rest ih =>
    have later := ih (t.follow now causes p).1
    rw [followAll]
    dsimp only
    rw [sentFor_append, List.length_append]
    cases p with
    | waiting =>
      rw [List.filterMap_cons_none (by rfl)]
      simpa [follow, sentFor] using later
    | asking ip interface =>
      rw [List.filterMap_cons_none (by rfl)]
      simpa [follow, sentFor_uncaused] using later
    | abandoned given =>
      have first := spends_dispatch k t now (due t.router (causes given.ip) given.waiting)
      have few := count_due_le k t.router (causes given.ip) given.waiting
      rw [List.filterMap_cons_some (by rfl), List.map_cons, List.flatMap_cons, List.count_append]
      rw [follow] at later ⊢
      omega

theorem spends_arpTick (t : Tracer) (now : Nat) (order : List Ipv4Addr) :
    (t.arpTick now order).1.waits k + (sentFor k (t.arpTick now order).2).length ≤ t.waits k := by
  have goesOn := spends_followAll k (t.settled (t.router.arp.tick now)) now t.causes
    (t.router.arp.tickProgress now order)
  have given := NeighbourCache.spends_tick t.router.arp now order
  have ended : ∀ ip ∈ ((t.router.arp.tickProgress now order).filterMap Progress.given?).map Resolution.ip,
      ((t.router.arp.tick now).resolution? ip).isSome = false := by
    intro ip mem
    obtain ⟨g, member, rfl⟩ := List.mem_map.1 mem
    obtain ⟨r, more, ⟨pending, ends⟩, -⟩ := given.due g member
    rw [t.router.arp.resolution?_tick now g.ip, pending]
    simp [Option.filter, ends]
  have struck := count_ended k (fun ip => ((t.router.arp.tick now).resolution? ip).isSome) given.distinct ended
    t.ledger
  have ledger : (t.settled (t.router.arp.tick now)).waits k + (((t.router.arp.tickProgress now order).filterMap
      Progress.given?).map Resolution.ip |>.flatMap t.causes).count k ≤ t.waits k := struck
  rw [arpTick]
  dsimp only
  rw [sentFor_append, sentFor_uncaused, List.nil_append]
  omega

/-- Of the frames that waited each is sent once. -/
theorem length_sentFor_released_le (causes : List Nat) (ds : List Delivery) (mac : Mac) :
    (sentFor k ((causes.zip ds).map fun x => (some x.1, .released x.2 mac))).length ≤ causes.count k := by
  induction causes generalizing ds with
  | nil => simp [sentFor]
  | cons cause causes ih =>
    cases ds with
    | nil => simp [sentFor]
    | cons d ds =>
      have later := ih ds
      unfold sentFor at later ⊢
      rw [List.zip_cons_cons, List.map_cons, List.filterMap_cons]
      by_cases own : cause = k
      · subst own
        simpa [Event.transmission?] using later
      · simpa [own] using later

theorem spends_meet (t : Tracer) (now : Nat) (mac : Mac) (ip : Ipv4Addr) :
    (t.meet now mac ip).1.waits k + (sentFor k (t.meet now mac ip).2).length ≤ t.waits k := by
  have gone : (t.router.arp.learn mac ip now).resolution? ip = none := by
    rw [t.router.arp.resolution?_learn now mac ip ip, if_pos rfl]
  have ledger := waits_settled_of_none k (t := t) gone
  have few := length_sentFor_released_le k (t.causes ip)
    ((t.router.arp.resolution? ip).toList.flatMap Resolution.deliveries) mac
  rw [meet]
  dsimp only
  omega

theorem waits_quietly (cause : Option Nat) (done : Router × List Event) :
    (t.quietly cause done).1.waits k = t.waits k := rfl

theorem sentFor_quietly (done : Router × List Event) : sentFor k (t.quietly none done).2 = [] := sentFor_uncaused k _

theorem spends_takeRip (t : Tracer) (n now : Nat) (i : Interface) (src : Mac) (p : Ipv4Packet) (u : UdpSegment) :
    (sentFor k (t.quietly (some n) (t.router.takeRip now i src p u)).2).length ≤ [n].count k := by
  rw [quietly, Router.takeRip]
  dsimp only
  cases (RipProcess.receive t.router.rip i src p u t.router.routes now).2 with
  | none => simp [sentFor]
  | some out => by_cases own : n = k <;> simp [sentFor, Event.transmission?, own]

theorem spends_handlePacket (t : Tracer) (n now : Nat) (i : Interface) (src dest : Mac) (p : Ipv4Packet) :
    (t.handlePacket n now i src dest p).1.waits k + (sentFor k (t.handlePacket n now i src dest p).2).length ≤
      t.waits k + [n].count k := by
  unfold handlePacket
  cases t.router.judge i dest p with
  | ignore => simp [sentFor]
  | rip u =>
    dsimp only
    rw [waits_quietly]
    exact Nat.add_le_add_left (spends_takeRip k t n now i src p u) _
  | notify notice about =>
    refine Nat.le_trans (spends_dispatch k t now _) (Nat.add_le_add_left ?_ _)
    cases t.router.noticeDelivery? notice about <;> simp
  | forward d => exact spends_dispatch k t now [(n, d)]

theorem spends_handleArp (t : Tracer) (now : Nat) (i : Interface) (f : ArpFrame) :
    (t.handleArp now i f).1.waits k + (sentFor k (t.handleArp now i f).2).length ≤ t.waits k := by
  unfold handleArp
  split
  · split
    · rw [waits_quietly, sentFor_quietly]
      exact Nat.le_refl _
    · split
      · exact spends_meet k t now _ _
      · exact Nat.le_refl _
    · exact Nat.le_refl _
  · exact Nat.le_refl _

theorem spends_respond (t : Tracer) (n now : Nat) (s : Stimulus) :
    (t.respond n now s).1.waits k + (sentFor k (t.respond n now s).2).length ≤ t.waits k + [n].count k := by
  cases s with
  | init =>
    rw [respond, waits_quietly, sentFor_quietly]
    exact Nat.le_add_right ..
  | ripTick =>
    rw [respond, waits_quietly, sentFor_quietly]
    exact Nat.le_add_right ..
  | arpTick order => exact Nat.le_trans (spends_arpTick k t now order) (Nat.le_add_right ..)
  | frame received =>
    rw [respond]
    unfold handle
    split
    · exact Nat.le_add_right ..
    · split
      · split
        · exact Nat.le_trans (spends_handleArp k t now _ _) (Nat.le_add_right ..)
        · exact Nat.le_add_right ..
      · split
        · exact spends_handlePacket k t n now _ _ _ _
        · exact Nat.le_add_right ..

/-- Over a run one datagram is sent or waits for a stimulus of the run, and none for an earlier one but what waited. -/
theorem spends_run (t : Tracer) (n : Nat) (xs : List (Nat × Stimulus)) :
    (t.run n xs).1.waits k + (sentFor k (t.run n xs).2).length ≤ t.waits k + if n ≤ k then 1 else 0 := by
  induction xs generalizing t n with
  | nil => exact Nat.le_add_right ..
  | cons x xs ih =>
    have first := spends_respond k t n x.1 x.2
    have later := ih (t.respond n x.1 x.2).1 (n + 1)
    have once : [n].count k + (if n + 1 ≤ k then 1 else 0) ≤ if n ≤ k then 1 else 0 := by
      rw [List.count_singleton]
      rcases Nat.lt_trichotomy n k with less | rfl | greater
      · simp [Nat.ne_of_lt less, Nat.le_of_lt less, Nat.succ_le_of_lt less]
      · rw [if_neg (Nat.not_succ_le_self n)]
        simp
      · simp [Nat.ne_of_gt greater, Nat.not_le_of_lt greater, Nat.not_le_of_lt (Nat.lt_succ_of_lt greater)]
    rw [run]
    dsimp only
    rw [sentFor_append, List.length_append]
    omega

end Tracer

namespace Router

/-! ## Chains -/

/-- The account of a run of a router that nothing waits in. -/
def account (r : Router) (xs : List (Nat × Stimulus)) : Account := ((⟨r, []⟩ : Tracer).run 0 xs).2

/-- What is received as the stimulus of this number. -/
def received (xs : List (Nat × Stimulus)) (k : Nat) : EthernetFrame :=
  match xs[k]? with
  | some (_, .frame received) => received.frame
  | _ => .empty

/-- Over its run the router receives a frame and sends another for it. -/
def Begets (r : Router) (xs : List (Nat × Stimulus)) (f g : EthernetFrame) : Prop :=
  ∃ k now interface, xs[k]? = some (now, .frame ⟨interface, f⟩) ∧ ∃ out ∈ (r.account xs).sentFor k, out.frame = g

section
variable {r : Router} (empty : r.arp = {}) (xs : List (Nat × Stimulus))
include empty

theorem attributes_account : Tracer.Attributes (received xs) (r.run xs) ((⟨r, []⟩ : Tracer).run 0 xs) := by
  refine Tracer.attributes_run (t := ⟨r, []⟩) ?_ ?_
  · intro ip
    show List.Forall₂ _ [] (r.arp.waitingFrames ip)
    rw [empty]
    exact .nil
  · intro n now frame there
    rw [Nat.zero_add, received, there]

theorem descends_of_sentFor {k now : Nat} {frame out : Transmission} (there : xs[k]? = some (now, .frame frame))
    (mem : out ∈ (r.account xs).sentFor k) : Tracer.Owed frame.frame out.frame := by
  obtain ⟨ev, mem, sent⟩ := mem_sentFor.1 mem
  have owed := (attributes_account empty xs).sent k ev out mem sent
  rwa [received, there] at owed

end

theorem length_sentFor_le (r : Router) (xs : List (Nat × Stimulus)) (k : Nat) :
    ((r.account xs).sentFor k).length ≤ 1 := by
  have spent := Tracer.spends_run k ⟨r, []⟩ 0 xs
  have nothing : (⟨r, []⟩ : Tracer).waits k = 0 := rfl
  rw [if_pos (Nat.zero_le k), nothing] at spent
  exact Nat.le_trans (Nat.le_add_left ..) spent

theorem length_of_descends {f : EthernetFrame} {frames : List EthernetFrame} (chain : (f :: frames).IsChain Descends) :
    (f :: frames).length ≤ f.reach := by
  induction frames generalizing f with
  | nil => exact f.reach_pos
  | cons g rest ih =>
    obtain ⟨descends, chain⟩ := List.isChain_cons_cons.1 chain
    have shorter := ih chain
    have less := reach_of_descends descends
    rw [List.length_cons]
    omega

/-- Datagrams do not feed on themselves. By an account of its whole run a router sends for every frame received one
datagram at most, of lower rank, and no other datagrams but its own words to all about routes. So in a network of such
routers, whoever is joined to whom and whenever frames arrive, datagrams of which each is sent for the one before are
no more than 255 + 64 + 64. -/
theorem chains_end {ι : Type*} {routers : ι → Router} (new : ∀ i, (routers i).arp = {})
    (runs : ι → List (Nat × Stimulus)) :
    (∀ i, ((routers i).account (runs i)).map Prod.snd = ((routers i).run (runs i)).2 ∧
      (∀ ev, (none, ev) ∈ (routers i).account (runs i) → ev.Uncaused) ∧
      ∀ k now frame, (runs i)[k]? = some (now, .frame frame) →
        (((routers i).account (runs i)).sentFor k).length ≤ 1 ∧
          ∀ out ∈ ((routers i).account (runs i)).sentFor k,
            out.frame.etherType = etherTypeIpv4 ∧ out.frame.rank < frame.frame.rank) ∧
    ∀ frames : List EthernetFrame, frames.IsChain (fun f g => ∃ i, (routers i).Begets (runs i) f g) →
      frames.length ≤ 255 + 64 + 64 := by
  refine ⟨?_, ?_⟩
  · intro i
    have attributes := attributes_account (new i) (runs i)
    refine ⟨attributes.events, attributes.caused, ?_⟩
    intro k now frame there
    refine ⟨length_sentFor_le _ _ k, ?_⟩
    intro out mem
    obtain ⟨type, descends⟩ := descends_of_sentFor (new i) (runs i) there mem
    exact ⟨type, rank_of_descends descends⟩
  · intro frames chain
    cases frames with
    | nil => exact Nat.zero_le _
    | cons f rest =>
      have descending : (f :: rest).IsChain Descends := by
        refine chain.imp ?_
        rintro f g ⟨i, k, now, interface, there, out, mem, rfl⟩
        exact (descends_of_sentFor (new i) (runs i) there mem).2
      exact Nat.le_trans (length_of_descends descending) f.reach_le

def answered : List (Nat × Stimulus) := [(0, .frame toSecond), (1, .frame gatewayReply)]

theorem account_answered : gatewayRouter.account answered =
    [(some 0, .queued toGateway), (none, asksGateway), (some 0, .released toGateway (station 9))] := by
  have missing : gatewayRouter.arp.mac? toGateway.nextHop = none := rfl
  have dispatched : (⟨gatewayRouter, []⟩ : Tracer).dispatch 0 [(0, toGateway)] =
      (⟨unansweredFor 0, [(.ofOctets 10 0 1 9, 0)]⟩, [(some 0, .queued toGateway), (none, asksGateway)]) := by
    have silent : (⟨gatewayRouter, []⟩ : Tracer).notices 0 toGateway (gatewayRouter.arp.await toGateway 0).2 = [] := by
      decide +kernel
    rw [Tracer.dispatch]
    simp only [missing, silent, List.nil_append, Tracer.dispatch]
    refine Prod.ext ?_ ?_
    · rfl
    · decide +kernel
  have queued : (⟨gatewayRouter, []⟩ : Tracer).respond 0 0 (.frame toSecond) =
      (⟨unansweredFor 0, [(.ofOctets 10 0 1 9, 0)]⟩, [(some 0, .queued toGateway), (none, asksGateway)]) := by
    obtain ⟨i, p, port, packet, verdict⟩ := forwards_toSecond
    have other : toSecond.frame.etherType ≠ etherTypeArp := by decide
    simp only [Tracer.respond, Tracer.handle, port, if_neg other, packet, Tracer.handlePacket, verdict]
    exact dispatched
  have released : ((⟨unansweredFor 0, [(.ofOctets 10 0 1 9, 0)]⟩ : Tracer).respond 1 1 (.frame gatewayReply)).2 =
      [(some 0, .released toGateway (station 9))] := by
    decide +kernel
  simp only [account, answered, Tracer.run, queued, released, List.cons_append, List.nil_append]

/-- What goes on for a datagram ranks below it. -/
theorem rank_toSecond : gatewayRouter.arp = {} ∧
    (gatewayRouter.account answered).sentFor 0 = [toGateway.resolved (station 9)] ∧
    (toGateway.resolved (station 9)).frame.rank < toSecond.frame.rank ∧
    [toSecond.frame, (toGateway.resolved (station 9)).frame].length ≤ 255 + 64 + 64 := by
  have sent : (gatewayRouter.account answered).sentFor 0 = [toGateway.resolved (station 9)] := by
    rw [account_answered]
    rfl
  have new : ∀ _ : Unit, gatewayRouter.arp = {} := fun _ => rfl
  obtain ⟨each, chains⟩ := chains_end new fun _ => answered
  obtain ⟨-, -, descend⟩ := each ()
  have mem : toGateway.resolved (station 9) ∈ (gatewayRouter.account answered).sentFor 0 := by
    rw [sent]
    exact List.mem_singleton_self _
  have begets : gatewayRouter.Begets answered toSecond.frame (toGateway.resolved (station 9)).frame :=
    ⟨0, 0, "eth0", rfl, _, mem, rfl⟩
  exact ⟨rfl, sent, ((descend 0 0 toSecond rfl).2 _ mem).2, chains _ (.cons_cons ⟨(), begets⟩ (.singleton _))⟩

end Router

end SoftRouter
