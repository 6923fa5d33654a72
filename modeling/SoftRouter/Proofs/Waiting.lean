import Mathlib.Data.List.Induction
import SoftRouter.Proofs.Journal
import SoftRouter.Proofs.Resolution

/-!
# The frames that wait

What the journal of a run says about waiting frames is what the router keeps: for every address the frames that
wait for it are the queue of its resolution, in order, and whatever was sent from a queue is the frame that waited,
resolved, on the interface of the frame that opened the resolution (`tracks_run`).
-/

namespace SoftRouter

open Journal

/-- An entry as its frame stands in a queue. -/
def Entry.view (e : Entry) : String × EthernetFrame := (e.asked, e.delivery.frame)

namespace Journal

/-- What an entry says was sent is its frame, resolved, on the interface where its next hop was asked for. -/
def Sound (j : Journal) : Prop :=
  ∀ e ∈ j, ∀ t, e.fate = .sent t → ∃ mac, t = ⟨e.asked, { e.delivery.frame with dest := mac }⟩

theorem sound_append {j : Journal} (sound : Sound j) {e : Entry}
    (last : ∀ t, e.fate = .sent t → ∃ mac, t = ⟨e.asked, { e.delivery.frame with dest := mac }⟩) :
    Sound (j ++ [e]) := by
  intro x mem
  rcases List.mem_append.1 mem with mem | mem
  · exact sound x mem
  · exact List.mem_singleton.1 mem ▸ last

theorem sound_settleAll {j : Journal} (sound : Sound j) (ip : Ipv4Addr) : Sound (settleAll ip .givenUp j) := by
  intro x mem t sent
  obtain ⟨k, found⟩ := List.mem_iff_getElem?.1 mem
  rcases of_settleAll found with old | ⟨fate, -⟩
  · exact sound x (List.mem_of_getElem? old) t sent
  · cases fate.symm.trans sent

theorem sound_settleFirst {j : Journal} (sound : Sound j) {d : Delivery} {e : Entry} {rest : List Entry}
    (first : waitingFor j d.nextHop = e :: rest) (view : e.view = (d.interface, d.frame)) (mac : Mac) :
    Sound (settleFirst d.nextHop (.sent (d.resolved mac)) j) := by
  induction j with
  | nil => cases first
  | cons x later ih =>
    have soundLater : Sound later := by
      intro y mem
      exact sound y (List.mem_cons_of_mem x mem)
    rw [waitingFor_cons] at first
    rw [settleFirst]
    by_cases waits : x.waitsFor d.nextHop
    · rw [if_pos waits] at first ⊢
      obtain ⟨rfl, -⟩ := List.cons.inj first
      obtain ⟨asked, frame⟩ := Prod.mk.inj view
      intro y mem t sent
      rcases List.mem_cons.1 mem with rfl | mem
      · cases sent
        exact ⟨mac, by simp only [asked, frame, Delivery.resolved]⟩
      · exact soundLater y mem t sent
    · rw [if_neg waits] at first ⊢
      intro y mem
      rcases List.mem_cons.1 mem with rfl | mem
      · exact sound y List.mem_cons_self
      · exact ih soundLater first y mem

theorem accounts_announced {log : List Event} (accounts : Accounts log) (sent : List Transmission) :
    Accounts (log ++ sent.map .announced) := by
  induction sent generalizing log with
  | nil => simpa using accounts
  | cons t rest ih =>
    have first : Accounts (log ++ [.announced t]) := accounts_concat accounts fun _ _ released => by cases released
    have next := ih first
    simpa using next

/-- If only releases to one address happen and nothing waits any more, a waiting entry was sent to that address. -/
theorem entry_of_releases {j : Journal} {events : List Event} {k : Nat} {e : Entry} {mac : Mac}
    (only : ∀ ev ∈ events, ∃ d, ev = .released d mac) (found : j[k]? = some e) (waiting : e.fate = .waiting)
    (empty : waitingFor (record j events) e.delivery.nextHop = []) (sound : Sound (record j events)) :
    (record j events)[k]? = some { e with fate := .sent ⟨e.asked, { e.delivery.frame with dest := mac }⟩ } := by
  obtain ⟨last, found', becomes⟩ := record_becomes found events
  have member := List.mem_of_getElem? found'
  have moved : last.fate ≠ .waiting := by
    intro waits
    have hop : last.delivery.nextHop = e.delivery.nextHop := congrArg Delivery.nextHop becomes.delivery
    have waiter : last ∈ waitingFor (record j events) e.delivery.nextHop :=
      List.mem_filter.2 ⟨member, Entry.waitsFor_iff.2 ⟨waits, hop⟩⟩
    rw [empty] at waiter
    cases waiter
  rcases origin_of_record found' with old | origin
  · cases found.symm.trans old
    exact absurd waiting moved
  · cases origin with
    | queued _ fate => exact absurd fate moved
    | delivered _ mem _ =>
      obtain ⟨_, same⟩ := only _ mem
      cases same
    | abandoned _ mem _ _ =>
      obtain ⟨_, same⟩ := only _ mem
      cases same
    | released d other mem fate _ =>
      obtain ⟨_, same⟩ := only _ mem
      obtain ⟨rfl, rfl⟩ := Event.released.inj same
      obtain ⟨dest, resolved⟩ := sound last member _ fate
      have address : other = dest := congrArg (fun t : Transmission => t.frame.dest) resolved
      rw [found', ← becomes.delivery, ← becomes.asked, address, ← resolved, ← fate]

/-- When the frames that wait for an address are released in order, nothing waits for it any more, and all else
stays as it was. -/
theorem flush {log : List Event} {ip : Ipv4Addr} {ds : List Delivery} (mac : Mac) (hops : ∀ d ∈ ds, d.nextHop = ip)
    (queue : (waitingFor (record [] log) ip).map Entry.view = ds.map fun d => (d.interface, d.frame))
    (sound : Sound (record [] log)) (accounts : Accounts log) :
    waitingFor (record [] (log ++ ds.map (.released · mac))) ip = [] ∧
      (∀ other, ip ≠ other →
        waitingFor (record [] (log ++ ds.map (.released · mac))) other = waitingFor (record [] log) other) ∧
      Sound (record [] (log ++ ds.map (.released · mac))) ∧ Accounts (log ++ ds.map (.released · mac)) := by
  -- Each release settles the entry at the head of the queue, so the queue left over is that of the deliveries left.
  induction ds generalizing log with
  | nil =>
    refine ⟨by simpa using queue, ?_, by simpa using sound, by simpa using accounts⟩
    intro other _
    simp
  | cons d rest ih =>
    have hop : d.nextHop = ip := hops d List.mem_cons_self
    obtain ⟨e, others, waiting, view, queue'⟩ := List.map_eq_cons_iff.1 queue
    have noted : record [] (log ++ [.released d mac]) = settleFirst ip (.sent (d.resolved mac)) (record [] log) := by
      rw [record_append, record_cons, record_nil, note, hop]
    have left : waitingFor (record [] (log ++ [.released d mac])) ip = others := by
      rw [noted, waitingFor_settleFirst _ (by simp), waiting, List.tail_cons]
    have hops' : ∀ x ∈ rest, x.nextHop = ip := by
      intro x mem
      exact hops x (List.mem_cons_of_mem d mem)
    have settled : Sound (record [] (log ++ [.released d mac])) := by
      rw [noted, ← hop]
      exact sound_settleFirst sound (hop ▸ waiting) view mac
    have accounted : Accounts (log ++ [.released d mac]) := by
      refine accounts_concat accounts ?_
      intro _ _ same
      cases same
      simp [hop, waiting]
    obtain ⟨gone, stays, sound', accounts'⟩ := ih hops' (left ▸ queue') settled accounted
    rw [List.map_cons, List.append_cons]
    refine ⟨gone, ?_, sound', accounts'⟩
    intro other ne
    rw [stays other ne, noted, waitingFor_settleFirst_ne _ (by simp) ne]

/-- When addresses are given up, nothing waits for them any more, and all else stays as it was. -/
theorem give_up {log : List Event} (gs : List Resolution) (sound : Sound (record [] log)) (accounts : Accounts log) :
    (∀ g ∈ gs, waitingFor (record [] (log ++ gs.map .abandoned)) g.ip = []) ∧
      (∀ ip, (∀ g ∈ gs, g.ip ≠ ip) →
        waitingFor (record [] (log ++ gs.map .abandoned)) ip = waitingFor (record [] log) ip) ∧
      Sound (record [] (log ++ gs.map .abandoned)) ∧ Accounts (log ++ gs.map .abandoned) := by
  induction gs using List.reverseRecOn with
  | nil => exact ⟨by simp, by simp, by simpa using sound, by simpa using accounts⟩
  | append_singleton gs g ih =>
    obtain ⟨gone, stays, sound', accounts'⟩ := ih
    have noted : record [] (log ++ (gs ++ [g]).map .abandoned) =
        settleAll g.ip .givenUp (record [] (log ++ gs.map .abandoned)) := by
      rw [List.map_append, ← List.append_assoc, record_append]
      rfl
    rw [noted]
    refine ⟨?_, ?_, sound_settleAll sound' _, ?_⟩
    · intro x mem
      by_cases same : g.ip = x.ip
      · rw [same, waitingFor_settleAll _ (by simp)]
      · rw [waitingFor_settleAll_ne _ (by simp) same]
        rcases List.mem_append.1 mem with mem | mem
        · exact gone x mem
        · exact absurd (congrArg Resolution.ip (List.mem_singleton.1 mem).symm) same
    · intro ip ne
      have others : ∀ x ∈ gs, x.ip ≠ ip := by
        intro x mem
        exact ne x (by simp [mem])
      rw [waitingFor_settleAll_ne _ (by simp) (ne g (by simp)), stays ip others]
    · rw [List.map_append, ← List.append_assoc]
      exact accounts_concat accounts' fun _ _ released => by cases released

end Journal

/-! ## The invariant -/

/-- For this address the log of a router agrees with what its address resolution holds. -/
structure TracksAt (log : List Event) (c : NeighbourCache) (ip : Ipv4Addr) : Prop where
  /-- The frames that wait by the journal are those in the queue. -/
  queue : (waitingFor (record [] log) ip).map Entry.view = c.queue ip
  /-- A resolution has a frame that waits for it. -/
  nonempty : ∀ r, c.resolution? ip = some r → r.waiting ≠ []
  /-- The longest waiting frame opened the resolution on its own interface. -/
  opened : ∀ e rest, waitingFor (record [] log) ip = e :: rest → e.asked = e.delivery.interface

namespace TracksAt

variable {log log' : List Event} {c c' : NeighbourCache} {ip : Ipv4Addr}

theorem gone (waiting : waitingFor (record [] log) ip = []) (none : c.resolution? ip = none) : TracksAt log c ip where
  queue := by
    rw [waiting, NeighbourCache.queue_of_none none]
    rfl
  nonempty r pending := by cases none.symm.trans pending
  opened e rest first := by cases waiting.symm.trans first

/-- What a step changes neither in the journal nor in the queue stays tracked. -/
theorem kept (tracks : TracksAt log c ip) (waiting : waitingFor (record [] log') ip = waitingFor (record [] log) ip)
    (f : Resolution → Resolution) (keeps : ∀ r, (f r).waiting = r.waiting ∧ (f r).interface = r.interface)
    (pending : c'.resolution? ip = (c.resolution? ip).map f) : TracksAt log' c' ip where
  queue := by
    rw [waiting, tracks.queue, NeighbourCache.queue, NeighbourCache.queue, pending]
    cases c.resolution? ip with
    | none => rfl
    | some r => simp [keeps r]
  nonempty r found := by
    rw [pending] at found
    obtain ⟨old, found', rfl⟩ := Option.map_eq_some_iff.1 found
    exact (keeps old).1 ▸ tracks.nonempty old found'
  opened e rest first := tracks.opened e rest (waiting ▸ first)

theorem same (tracks : TracksAt log c ip) (waiting : waitingFor (record [] log') ip = waitingFor (record [] log) ip)
    (pending : c'.resolution? ip = c.resolution? ip) : TracksAt log' c' ip :=
  tracks.kept waiting id (fun _ => ⟨rfl, rfl⟩) (by rw [pending, Option.map_id_apply])

end TracksAt

/-- The log of a router agrees with what its address resolution holds. -/
structure Tracks (log : List Event) (c : NeighbourCache) : Prop where
  each : ∀ ip, TracksAt log c ip
  /-- No address is both known and asked for. -/
  disjoint : ∀ ip mac, c.mac? ip = some mac → c.resolution? ip = none
  sound : Sound (record [] log)
  accounts : Accounts log

theorem tracks_nil : Tracks [] {} where
  each _ := .gone rfl rfl
  disjoint _ _ known := by cases known
  sound _ mem := by cases mem
  accounts := .nil

namespace Tracks

variable {log : List Event} {c : NeighbourCache} (tracks : Tracks log c)
include tracks

/-- The interface noted for a frame handed over is that of the resolution it joins. -/
theorem askedOn_eq (d : Delivery) : askedOn (record [] log) d = (c.joined d).interface := by
  obtain ⟨queue, nonempty, opened⟩ := tracks.each d.nextHop
  rw [NeighbourCache.interface_joined, askedOn]
  cases pending : c.resolution? d.nextHop with
  | none =>
    rw [NeighbourCache.queue_of_none pending, List.map_eq_nil_iff] at queue
    rw [queue]
    rfl
  | some r =>
    rw [NeighbourCache.queue_of_resolution pending] at queue
    cases waiting : waitingFor (record [] log) d.nextHop with
    | nil =>
      rw [waiting, List.map_nil, eq_comm, List.map_eq_nil_iff] at queue
      exact absurd queue (nonempty r pending)
    | cons e rest =>
      rw [waiting, List.map_cons] at queue
      obtain ⟨frame, frames, -, view, -⟩ := List.map_eq_cons_iff.1 queue.symm
      have asked : r.interface = e.asked := congrArg Prod.fst view
      exact (opened e rest waiting).symm.trans asked.symm

theorem announced (sent : List Transmission) : Tracks (log ++ sent.map .announced) c := by
  have noted : record [] (log ++ sent.map .announced) = record [] log := by rw [record_append, record_announced]
  exact ⟨fun ip => (tracks.each ip).same (by rw [noted]) rfl, tracks.disjoint, noted ▸ tracks.sound,
    accounts_announced tracks.accounts sent⟩

theorem delivered {d : Delivery} {mac : Mac} (known : c.mac? d.nextHop = some mac) :
    Tracks (log ++ [.delivered d mac]) c := by
  have noted : record [] (log ++ [.delivered d mac]) =
      record [] log ++ [⟨d, askedOn (record [] log) d, .sent (d.resolved mac)⟩] := by
    rw [record_append]
    rfl
  refine ⟨fun ip => (tracks.each ip).same ?_ rfl, tracks.disjoint, ?_,
    accounts_concat tracks.accounts fun _ _ released => by cases released⟩
  · rw [noted, waitingFor_append, waitingFor_cons, Entry.not_waitsFor (by simp)]
    exact List.append_nil _
  · rw [noted, tracks.askedOn_eq, NeighbourCache.interface_joined, tracks.disjoint _ _ known]
    refine sound_append tracks.sound ?_
    intro t sent
    cases sent
    exact ⟨mac, rfl⟩

omit tracks in
theorem record_queued (log : List Event) (d : Delivery) : record [] (log ++ [.queued d]) =
    record [] log ++ [⟨d, askedOn (record [] log) d, .waiting⟩] := by
  rw [record_append]
  rfl

omit tracks in
theorem waitingFor_queued (log : List Event) (d : Delivery) :
    waitingFor (record [] (log ++ [.queued d])) d.nextHop =
      waitingFor (record [] log) d.nextHop ++ [⟨d, askedOn (record [] log) d, .waiting⟩] := by
  rw [record_queued, waitingFor_append, waitingFor_cons, if_pos (Entry.waitsFor_iff.2 ⟨rfl, rfl⟩)]
  rfl

omit tracks in
theorem waitingFor_queued_ne (log : List Event) {d : Delivery} {ip : Ipv4Addr} (ne : d.nextHop ≠ ip) :
    waitingFor (record [] (log ++ [.queued d])) ip = waitingFor (record [] log) ip := by
  rw [record_queued, waitingFor_append, waitingFor_cons, if_neg fun waits => ne (Entry.waitsFor_iff.1 waits).2]
  exact List.append_nil _

theorem sound_queued (d : Delivery) : Sound (record [] (log ++ [.queued d])) := by
  rw [record_queued]
  exact sound_append tracks.sound fun t sent => by cases sent

theorem accounts_queued (d : Delivery) : Accounts (log ++ [.queued d]) :=
  accounts_concat tracks.accounts fun _ _ released => by cases released

theorem disjoint_await {d : Delivery} (missing : c.mac? d.nextHop = none) (now : Nat) (ip : Ipv4Addr) (mac : Mac)
    (known : (c.await d now).1.mac? ip = some mac) : (c.await d now).1.resolution? ip = none := by
  rw [NeighbourCache.mac?_await] at known
  have ne : d.nextHop ≠ ip := by
    intro same
    rw [same, known] at missing
    cases missing
  rw [NeighbourCache.resolution?_await_ne _ _ _ ne]
  exact tracks.disjoint ip mac known

theorem tracksAt_queued {d : Delivery} {now : Nat} (goesOn : (c.joined d).need now ≠ .surrender) :
    TracksAt (log ++ [.queued d]) (c.await d now).1 d.nextHop where
  queue := by
    rw [waitingFor_queued, List.map_append, (tracks.each d.nextHop).queue, tracks.askedOn_eq,
      NeighbourCache.queue_await goesOn]
    rfl
  nonempty r pending := by
    rw [NeighbourCache.resolution?_await_self, if_neg goesOn] at pending
    obtain rfl := Option.some.inj pending
    rw [Resolution.waiting_advanced, NeighbourCache.waiting_joined]
    simp
  opened e rest first := by
    rw [waitingFor_queued] at first
    cases waiting : waitingFor (record [] log) d.nextHop with
    | nil =>
      rw [waiting] at first
      obtain ⟨rfl, -⟩ := List.cons.inj first
      simp only [askedOn, waiting]
    | cons x others =>
      rw [waiting] at first
      obtain ⟨rfl, -⟩ := List.cons.inj first
      exact (tracks.each d.nextHop).opened x others waiting

/-- A frame for an unknown address joins the queue, on the interface where its next hop is asked for. -/
theorem queued {d : Delivery} (now : Nat) (missing : c.mac? d.nextHop = none)
    (goesOn : (c.joined d).need now ≠ .surrender) : Tracks (log ++ [.queued d]) (c.await d now).1 where
  each ip := by
    by_cases hop : d.nextHop = ip
    · exact hop ▸ tracks.tracksAt_queued goesOn
    · exact (tracks.each ip).same (waitingFor_queued_ne log hop) (NeighbourCache.resolution?_await_ne c d now hop)
  disjoint := tracks.disjoint_await missing now
  sound := tracks.sound_queued d
  accounts := tracks.accounts_queued d

/-- A frame that finds its next hop to be given up is given up with all that wait for it. -/
theorem surrendered {d : Delivery} {now : Nat} (missing : c.mac? d.nextHop = none)
    (ends : (c.joined d).need now = .surrender) :
    Tracks (log ++ [.queued d, .abandoned (c.joined d)]) (c.await d now).1 := by
  obtain ⟨gone, stays, sound, accounts⟩ := give_up [c.joined d] (tracks.sound_queued d) (tracks.accounts_queued d)
  rw [List.append_assoc] at gone stays sound accounts
  refine ⟨?_, tracks.disjoint_await missing now, sound, accounts⟩
  intro ip
  by_cases hop : d.nextHop = ip
  · have none : (c.await d now).1.resolution? d.nextHop = none := by
      rw [NeighbourCache.resolution?_await_self, if_pos ends]
    have waiting := gone _ (List.mem_singleton.2 rfl)
    rw [c.ip_joined d] at waiting
    exact hop ▸ .gone waiting none
  · have others : ∀ g ∈ [c.joined d], g.ip ≠ ip := by
      intro g mem
      rw [List.mem_singleton.1 mem, c.ip_joined d]
      exact hop
    have waiting := stays ip others
    rw [waitingFor_queued_ne log hop] at waiting
    exact (tracks.each ip).same waiting (NeighbourCache.resolution?_await_ne c d now hop)

/-- When an address becomes known, the frames that waited for it go out in order. -/
theorem learned (mac : Mac) (ip : Ipv4Addr) (now : Nat) :
    Tracks (log ++ ((c.resolution? ip).toList.flatMap Resolution.deliveries).map (.released · mac))
      (c.learn mac ip now) := by
  have queue : (waitingFor (record [] log) ip).map Entry.view =
      ((c.resolution? ip).toList.flatMap Resolution.deliveries).map fun d => (d.interface, d.frame) := by
    rw [(tracks.each ip).queue, NeighbourCache.queue]
    cases c.resolution? ip <;> simp [Resolution.deliveries, Function.comp_def]
  have hops : ∀ d ∈ (c.resolution? ip).toList.flatMap Resolution.deliveries, d.nextHop = ip := by
    intro d mem
    obtain ⟨r, pending, member⟩ := List.mem_flatMap.1 mem
    obtain ⟨frame, -, rfl⟩ := List.mem_map.1 member
    exact NeighbourCache.ip_of_resolution (Option.mem_toList.1 pending)
  obtain ⟨gone, stays, sound, accounts⟩ := flush mac hops queue tracks.sound tracks.accounts
  refine ⟨?_, ?_, sound, accounts⟩
  · intro other
    have pending := c.resolution?_learn now mac ip other
    by_cases hop : ip = other
    · rw [if_pos hop] at pending
      exact .gone (hop ▸ gone) pending
    · rw [if_neg hop] at pending
      exact (tracks.each other).same (stays other hop) pending
  · intro other mac' known
    rw [NeighbourCache.mac?_learn] at known
    rw [NeighbourCache.resolution?_learn]
    split at known
    · rw [if_pos ‹_›]
    · rw [if_neg ‹_›]
      exact tracks.disjoint other mac' known

omit tracks in
theorem abandonments_tickProgress (c : NeighbourCache) (now : Nat) (order : List Ipv4Addr) :
    Router.abandonments (c.tickProgress now order) =
      ((c.visited order).filter fun r => r.need now = .surrender).map .abandoned := by
  unfold NeighbourCache.tickProgress Router.abandonments
  rw [List.filterMap_filterMap, ← List.filterMap_eq_map, List.filterMap_filter]
  congr 1
  funext r
  cases need : r.need now <;> simp

/-- At a tick the resolutions that are due end, and the frames that waited for them are given up. -/
theorem ticked (now : Nat) (order : List Ipv4Addr) :
    Tracks (log ++ Router.abandonments (c.tickProgress now order)) (c.tick now) := by
  obtain ⟨gone, stays, sound, accounts⟩ :=
    give_up ((c.visited order).filter fun r => r.need now = .surrender) tracks.sound tracks.accounts
  rw [← abandonments_tickProgress] at gone stays sound accounts
  refine ⟨?_, ?_, sound, accounts⟩
  · intro ip
    have pending := c.resolution?_tick now ip
    -- An address is among those given up exactly when its own resolution is due.
    by_cases due : ∃ r, c.resolution? ip = some r ∧ r.need now = .surrender
    · obtain ⟨r, found, ends⟩ := due
      have waiting := gone r (List.mem_filter.2 ⟨NeighbourCache.visited_of_resolution found, decide_eq_true ends⟩)
      rw [NeighbourCache.ip_of_resolution found] at waiting
      exact .gone waiting (by simp [pending, found, Option.filter, ends])
    · have others : ∀ g ∈ (c.visited order).filter fun r => r.need now = .surrender, g.ip ≠ ip := by
        intro g mem same
        obtain ⟨member, ends⟩ := List.mem_filter.1 mem
        exact due ⟨g, same ▸ NeighbourCache.mem_visited.1 member, of_decide_eq_true ends⟩
      have waiting := stays ip others
      refine (tracks.each ip).kept waiting (·.advanced now)
        (fun r => ⟨r.waiting_advanced now, r.interface_advanced now⟩) ?_
      rw [pending]
      cases found : c.resolution? ip with
      | none => rfl
      | some r =>
        have goesOn : r.need now ≠ .surrender := by
          intro ends
          exact due ⟨r, found, ends⟩
        simp [Option.filter, goesOn]
  · intro ip mac known
    rw [NeighbourCache.resolution?_tick, tracks.disjoint ip mac (NeighbourCache.mac?_tick _ _ known)]
    rfl

end Tracks

namespace Router

theorem tracks_handover {r s : Router} {now : Nat} {events log : List Event} (tracks : Tracks log r.arp)
    (step : Handover now r events s) : Tracks (log ++ events) s.arp := by
  cases step with
  | known _ found => exact tracks.delivered found
  | @unknown d _ missing =>
    have outcome := r.arp.await_outcome d now
    cases need : (r.arp.joined d).need now with
    | patience =>
      rw [outcome, need]
      exact tracks.queued now missing (by simp [need])
    | question =>
      rw [outcome, need]
      obtain ⟨sent, asks⟩ := r.question_spec (r.arp.joined d).ip (r.arp.joined d).interface
      have queued := (tracks.queued now missing (by simp [need])).announced sent
      rw [List.append_assoc] at queued
      dsimp only [Router.outcome]
      rw [asks]
      exact queued
    | surrender =>
      rw [outcome, need]
      exact tracks.surrendered missing need

theorem tracks_act {r s : Router} {now : Nat} {events log : List Event} (tracks : Tracks log r.arp)
    (step : Act now r events s) : Tracks (log ++ events) s.arp := by
  cases step with
  | handover step => exact tracks_handover tracks step
  | quiet step =>
    obtain ⟨-, same, sent, rfl⟩ := quiet_spec step
    rw [same]
    exact tracks.announced sent
  | @meet _ _ _ mac ip _ _ _ => exact tracks.learned mac ip now
  | tick => exact tracks.ticked now _
  | ask ip interface =>
    obtain ⟨sent, asks⟩ := r.question_spec ip interface
    rw [asks]
    exact tracks.announced sent

/-- The log of a run of a new router agrees with the addresses it knows and asks for. -/
theorem tracks_run {interfaces : InterfaceTable} {routes : RouteTable} {r : Router}
    (created : Router.make interfaces routes = .ok r) (xs : List (Nat × Stimulus)) :
    Tracks (r.run xs).2 (r.run xs).1.arp := by
  obtain rfl := eq_of_make created
  refine run_log_keeps (fun log s => Tracks log s.arp) ?_ tracks_nil xs
  intro log r events s now tracks act
  exact tracks_act tracks act

end Router

end SoftRouter
