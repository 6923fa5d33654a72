import SoftRouter.Proofs.Errands

/-!
# The order of frames to one next hop

In the log of a run a frame is sent at once only when none waits for the same next hop, the frame released is the one
that waits longest, and an address is given up with just the frames that wait for it (`orderly_run`). So the frames
handed over for a next hop stand in line: first those whose fate is settled, in the order they met it, then those
that wait (`lined_up`). The line grows by what each response calls for, response after response (`inTurns_run`).
-/

namespace SoftRouter

open Journal NeighbourCache

/-- The event sends a frame to this next hop. -/
def Event.isTowards (ip : Ipv4Addr) : Event → Bool
  | .delivered d _ | .released d _ => d.nextHop = ip
  | .announced _ | .queued _ | .abandoned _ => false

/-- What was sent of a frame with this fate. -/
def Fate.sent? : Fate → Option Transmission
  | .sent t => some t
  | .waiting | .givenUp => none

/-- The frames handed over for a next hop, in order. -/
def handedTo (ip : Ipv4Addr) (log : List Event) : List EthernetFrame :=
  ((log.filterMap Event.handed?).filter fun d => d.nextHop = ip).map Delivery.frame

/-- The frames of the deliveries for a next hop. -/
def framesTo (ip : Ipv4Addr) (work : List Delivery) : List EthernetFrame :=
  (work.filter fun d => d.nextHop = ip).map Delivery.frame

/-- The frames come in turns, one for each list of deliveries, and a turn has the frames of the deliveries for the next
hop in that list, each once. -/
def InTurns (ip : Ipv4Addr) (errands : List (List Delivery)) (frames : List EthernetFrame) : Prop :=
  ∃ turns : List (List EthernetFrame), turns.flatten = frames ∧
    List.Forall₂ (fun turn work => turn.Perm (framesTo ip work)) turns errands

/-- The frames sent to a next hop, in order. -/
def sentTo (ip : Ipv4Addr) (log : List Event) : List Transmission := transmissions (log.filter (·.isTowards ip))

/-- The frames given up with an address that did not answer, in order. -/
def lostFor (ip : Ipv4Addr) (log : List Event) : List EthernetFrame := framesOf ip (log.filterMap Event.given?)

namespace Journal

/-- The entries of the frames handed over for a next hop. -/
def toward (j : Journal) (ip : Ipv4Addr) : Journal := j.filter fun e => e.delivery.nextHop = ip

/-- With these entries drawn up so far, the event may come next. -/
def Due (j : Journal) : Event → Prop
  | .announced _ | .queued _ => True
  | .delivered d _ => waitingFor j d.nextHop = []
  | .released d _ => ∃ e rest, waitingFor j d.nextHop = e :: rest ∧ e.delivery.frame = d.frame
  | .abandoned given => (waitingFor j given.ip).map (·.delivery.frame) = given.waiting

/-- Every event comes when it may. -/
def Orderly (j : Journal) : List Event → Prop
  | [] => True
  | ev :: rest => Due j ev ∧ Orderly (note j ev) rest

theorem orderly_append {j : Journal} {first later : List Event} :
    Orderly j (first ++ later) ↔ Orderly j first ∧ Orderly (record j first) later := by
  induction first generalizing j with
  | nil => simp [Orderly]
  | cons ev rest ih => simp only [List.cons_append, Orderly, ih, record_cons, and_assoc]

theorem orderly_announced (j : Journal) (sent : List Transmission) : Orderly j (sent.map .announced) := by
  induction sent with
  | nil => trivial
  | cons t rest ih => exact ⟨trivial, ih⟩

theorem toward_append (i j : Journal) (ip : Ipv4Addr) : toward (i ++ j) ip = toward i ip ++ toward j ip :=
  List.filter_append ..

theorem toward_cons (e : Entry) (j : Journal) (ip : Ipv4Addr) :
    toward (e :: j) ip = if e.delivery.nextHop = ip then e :: toward j ip else toward j ip := by
  simp [toward, List.filter_cons]

theorem toward_settleFirst (j : Journal) (ip : Ipv4Addr) (fate : Fate) :
    toward (settleFirst ip fate j) ip = settleFirst ip fate (toward j ip) := by
  induction j with
  | nil => rfl
  | cons e rest ih =>
    by_cases hop : e.delivery.nextHop = ip
    · by_cases waits : e.waitsFor ip
      · simp [settleFirst, toward_cons, waits, hop]
      · simp [settleFirst, toward_cons, waits, hop, ih]
    · have waits : e.waitsFor ip = false := by simp [Entry.waitsFor, hop]
      simp [settleFirst, toward_cons, waits, hop, ih]

theorem toward_settleFirst_ne (j : Journal) {ip other : Ipv4Addr} (fate : Fate) (ne : ip ≠ other) :
    toward (settleFirst ip fate j) other = toward j other := by
  induction j with
  | nil => rfl
  | cons e rest ih =>
    rw [settleFirst]
    by_cases waits : e.waitsFor ip
    · have hop : e.delivery.nextHop ≠ other := (Entry.waitsFor_iff.1 waits).2 ▸ ne
      simp [toward_cons, waits, hop]
    · simp [toward_cons, waits, ih]

theorem toward_settleAll (j : Journal) (ip other : Ipv4Addr) (fate : Fate) :
    toward (settleAll ip fate j) other = settleAll ip fate (toward j other) := by
  induction j with
  | nil => rfl
  | cons e rest ih =>
    rw [settleAll, List.map_cons, ← settleAll, toward_cons, toward_cons, ih]
    by_cases waits : e.waitsFor ip <;> by_cases hop : e.delivery.nextHop = other <;> simp [waits, hop, settleAll]

theorem toward_settleAll_ne (j : Journal) {ip other : Ipv4Addr} (fate : Fate) (ne : ip ≠ other) :
    toward (settleAll ip fate j) other = toward j other := by
  rw [toward_settleAll]
  refine (List.map_congr_left ?_).trans (List.map_id _)
  intro e mem
  have hop : e.delivery.nextHop = other := of_decide_eq_true (List.mem_filter.1 mem).2
  simp [Entry.waitsFor, hop, ne.symm]

theorem settleFirst_behind {settled : Journal} (past : ∀ e ∈ settled, e.fate ≠ .waiting) {e : Entry} {ip : Ipv4Addr}
    (waits : e.waitsFor ip) (fate : Fate) (rest : Journal) :
    settleFirst ip fate (settled ++ e :: rest) = settled ++ { e with fate } :: rest := by
  induction settled with
  | nil => simp [settleFirst, waits]
  | cons x more ih =>
    have ended : x.waitsFor ip = false := Entry.not_waitsFor (past x List.mem_cons_self) ip
    have behind := ih fun y mem => past y (List.mem_cons_of_mem x mem)
    simp [settleFirst, ended, behind]

theorem settleAll_behind {settled : Journal} (past : ∀ e ∈ settled, e.fate ≠ .waiting) (j : Journal) (ip : Ipv4Addr)
    (fate : Fate) :
    settleAll ip fate (settled ++ waitingFor j ip) = settled ++ (waitingFor j ip).map fun e => { e with fate } := by
  have before : settleAll ip fate settled = settled := by
    refine (List.map_congr_left ?_).trans (List.map_id settled)
    intro e mem
    rw [Entry.not_waitsFor (past e mem) ip]
    rfl
  have behind : settleAll ip fate (waitingFor j ip) = (waitingFor j ip).map fun e => { e with fate } := by
    refine List.map_congr_left ?_
    intro e mem
    rw [if_pos (List.mem_filter.1 mem).2]
  rw [settleAll, List.map_append, ← settleAll, ← settleAll, before, behind]

/-! ## The line of frames for one next hop -/

theorem sentTo_append (ip : Ipv4Addr) (first later : List Event) :
    sentTo ip (first ++ later) = sentTo ip first ++ sentTo ip later := by
  simp only [sentTo, transmissions, List.filter_append, List.filterMap_append]

theorem handedTo_append (ip : Ipv4Addr) (first later : List Event) :
    handedTo ip (first ++ later) = handedTo ip first ++ handedTo ip later := by
  simp only [handedTo, List.filterMap_append, List.filter_append, List.map_append]

theorem lostFor_append (ip : Ipv4Addr) (first later : List Event) :
    lostFor ip (first ++ later) = lostFor ip first ++ lostFor ip later := by
  simp only [lostFor, List.filterMap_append, framesOf_append]

/-- The frames handed over for a next hop stand in line: those settled first, in the order in which they were sent
or given up, and then those that wait. -/
structure Lined (log : List Event) (ip : Ipv4Addr) (settled : Journal) : Prop where
  line : toward (record [] log) ip = settled ++ waitingFor (record [] log) ip
  past : ∀ e ∈ settled, e.fate ≠ .waiting
  sent : settled.filterMap Entry.sent? = sentTo ip log
  lost : (settled.filter fun e => e.fate = .givenUp).map (·.delivery.frame) = lostFor ip log
  own : ∀ e ∈ settled, ∀ t, e.fate = .sent t → ∃ mac, t.frame = { e.delivery.frame with dest := mac }

namespace Lined

variable {log : List Event} {ip : Ipv4Addr} {settled : Journal} (lined : Lined log ip settled)
include lined

/-- An event that settles nothing here leaves those settled as they are. -/
theorem kept {ev : Event} (line : toward (record [] (log ++ [ev])) ip =
    settled ++ waitingFor (record [] (log ++ [ev])) ip) (sent : sentTo ip [ev] = []) (lost : lostFor ip [ev] = []) :
    Lined (log ++ [ev]) ip settled where
  line := line
  past := lined.past
  sent := by rw [lined.sent, sentTo_append, sent, List.append_nil]
  lost := by rw [lined.lost, lostFor_append, lost, List.append_nil]
  own := lined.own

/-- The entries settled by an event come behind those settled before. -/
theorem settle {ev : Event} (now : Journal) (line : toward (record [] (log ++ [ev])) ip =
      settled ++ now ++ waitingFor (record [] (log ++ [ev])) ip)
    (past : ∀ e ∈ now, e.fate ≠ .waiting) (sent : now.filterMap Entry.sent? = sentTo ip [ev])
    (lost : (now.filter fun e => e.fate = .givenUp).map (·.delivery.frame) = lostFor ip [ev])
    (own : ∀ e ∈ now, ∀ t, e.fate = .sent t → ∃ mac, t.frame = { e.delivery.frame with dest := mac }) :
    Lined (log ++ [ev]) ip (settled ++ now) where
  line := line
  past e mem := (List.mem_append.1 mem).elim (lined.past e) (past e)
  sent := by rw [List.filterMap_append, lined.sent, sent, ← sentTo_append]
  lost := by rw [List.filter_append, List.map_append, lined.lost, lost, ← lostFor_append]
  own e mem := (List.mem_append.1 mem).elim (lined.own e) (own e)

omit lined in
theorem waiting_of_mem {e : Entry} (mem : e ∈ waitingFor (record [] log) ip) : e.fate = .waiting :=
  (Entry.waitsFor_iff.1 (List.mem_filter.1 mem).2).1

theorem line_sent : (toward (record [] log) ip).filterMap Entry.sent? = sentTo ip log := by
  have unsent : (waitingFor (record [] log) ip).filterMap Entry.sent? = [] := by
    refine List.filterMap_eq_nil_iff.2 ?_
    intro e mem
    rw [Entry.sent?, waiting_of_mem mem]
  rw [lined.line, List.filterMap_append, unsent, List.append_nil, lined.sent]

theorem line_lost :
    ((toward (record [] log) ip).filter fun e => e.fate = .givenUp).map (·.delivery.frame) = lostFor ip log := by
  have kept : ((waitingFor (record [] log) ip).filter fun e => e.fate = .givenUp) = [] := by
    refine List.filter_eq_nil_iff.2 ?_
    intro e mem
    simp [waiting_of_mem mem]
  rw [lined.line, List.filter_append, kept, List.append_nil, lined.lost]

theorem line_waiting :
    ((toward (record [] log) ip).filter fun e => e.fate = .waiting) = waitingFor (record [] log) ip := by
  have past : (settled.filter fun e => e.fate = .waiting) = [] := by
    simpa using lined.past
  have all : ((waitingFor (record [] log) ip).filter fun e => e.fate = .waiting) = waitingFor (record [] log) ip := by
    refine List.filter_eq_self.2 ?_
    intro e mem
    exact decide_eq_true (waiting_of_mem mem)
  rw [lined.line, List.filter_append, past, all, List.nil_append]

theorem line_own {e : Entry} (mem : e ∈ toward (record [] log) ip) {t : Transmission} (sent : e.fate = .sent t) :
    ∃ mac, t.frame = { e.delivery.frame with dest := mac } := by
  rw [lined.line] at mem
  rcases List.mem_append.1 mem with mem | mem
  · exact lined.own e mem t sent
  · cases (waiting_of_mem mem).symm.trans sent

theorem delivered {d : Delivery} {mac : Mac} (due : waitingFor (record [] log) d.nextHop = []) :
    ∃ settled, Lined (log ++ [.delivered d mac]) ip settled := by
  have noted : record [] (log ++ [.delivered d mac]) =
      record [] log ++ [⟨d, askedOn (record [] log) d, .sent (d.resolved mac)⟩] := by
    rw [record_append]
    rfl
  have waiting : waitingFor (record [] (log ++ [.delivered d mac])) ip = waitingFor (record [] log) ip := by
    rw [noted, waitingFor_append, waitingFor_cons, Entry.not_waitsFor (by simp)]
    exact List.append_nil _
  by_cases hop : d.nextHop = ip
  · subst hop
    refine ⟨_, lined.settle [⟨d, askedOn (record [] log) d, .sent (d.resolved mac)⟩] ?_ ?_ ?_ ?_ ?_⟩
    · rw [waiting, due, noted, toward_append, lined.line, due]
      simp [toward]
    · simp
    · simp [Entry.sent?, sentTo, Event.isTowards, transmissions, Event.transmission?]
    · simp [lostFor, framesOf, Event.given?]
    · simp [Delivery.resolved]
  · refine ⟨settled, lined.kept ?_ ?_ ?_⟩
    · rw [waiting, noted, toward_append, lined.line]
      simp [toward, hop]
    · simp [sentTo, Event.isTowards, hop, transmissions]
    · simp [lostFor, framesOf, Event.given?]

theorem queued (d : Delivery) : Lined (log ++ [.queued d]) ip settled := by
  refine lined.kept ?_ (by simp [sentTo, Event.isTowards, transmissions]) (by simp [lostFor, framesOf, Event.given?])
  rw [Tracks.record_queued, toward_append, lined.line, waitingFor_append, List.append_assoc]
  by_cases hop : d.nextHop = ip <;> simp [toward, waitingFor, Entry.waitsFor, hop]

theorem released {d : Delivery} {mac : Mac} {e : Entry} {rest : List Entry}
    (first : waitingFor (record [] log) d.nextHop = e :: rest) (frame : e.delivery.frame = d.frame) :
    ∃ settled, Lined (log ++ [.released d mac]) ip settled := by
  have noted : record [] (log ++ [.released d mac]) =
      settleFirst d.nextHop (.sent (d.resolved mac)) (record [] log) := by
    rw [record_append]
    rfl
  by_cases hop : d.nextHop = ip
  · subst hop
    have waits : e.waitsFor d.nextHop := by
      have mem : e ∈ waitingFor (record [] log) d.nextHop := first ▸ List.mem_cons_self
      exact (List.mem_filter.1 mem).2
    refine ⟨_, lined.settle [{ e with fate := .sent (d.resolved mac) }] ?_ ?_ ?_ ?_ ?_⟩
    · rw [noted, toward_settleFirst, waitingFor_settleFirst _ (by simp), lined.line, first,
        settleFirst_behind lined.past waits]
      simp
    · simp
    · simp [Entry.sent?, sentTo, Event.isTowards, transmissions, Event.transmission?]
    · simp [lostFor, framesOf, Event.given?]
    · simp [Delivery.resolved, frame]
  · refine ⟨settled, lined.kept ?_ ?_ ?_⟩
    · rw [noted, toward_settleFirst_ne _ _ hop, waitingFor_settleFirst_ne _ (by simp) hop]
      exact lined.line
    · simp [sentTo, Event.isTowards, hop, transmissions]
    · simp [lostFor, framesOf, Event.given?]

theorem abandoned {given : Resolution}
    (due : (waitingFor (record [] log) given.ip).map (·.delivery.frame) = given.waiting) :
    ∃ settled, Lined (log ++ [.abandoned given]) ip settled := by
  have noted : record [] (log ++ [.abandoned given]) = settleAll given.ip .givenUp (record [] log) := by
    rw [record_append]
    rfl
  have sent : sentTo ip [.abandoned given] = [] := by simp [sentTo, Event.isTowards, transmissions]
  by_cases hop : given.ip = ip
  · subst hop
    refine ⟨_, lined.settle
      ((waitingFor (record [] log) given.ip).map fun e => { e with fate := .givenUp }) ?_ ?_ ?_ ?_ ?_⟩
    · rw [noted, toward_settleAll, waitingFor_settleAll _ (by simp), lined.line, settleAll_behind lined.past,
        List.append_nil]
    · simp
    · rw [sent]
      simp [Entry.sent?]
    · have all : ((waitingFor (record [] log) given.ip).map fun e => { e with fate := .givenUp }).filter
          (fun e => e.fate = .givenUp) =
            (waitingFor (record [] log) given.ip).map fun e => { e with fate := .givenUp } := by
        simp
      have frames : ((waitingFor (record [] log) given.ip).map fun e => { e with fate := .givenUp }).map
          (·.delivery.frame) = (waitingFor (record [] log) given.ip).map (·.delivery.frame) := by
        rw [List.map_map]
        rfl
      rw [all, frames, due]
      simp [lostFor, framesOf, Event.given?]
    · simp
  · refine ⟨settled, lined.kept ?_ sent ?_⟩
    · rw [noted, toward_settleAll_ne _ _ hop, waitingFor_settleAll_ne _ (by simp) hop]
      exact lined.line
    · simp [lostFor, framesOf, Event.given?, hop]

end Lined

theorem lined_nil (ip : Ipv4Addr) : Lined [] ip [] where
  line := rfl
  past _ mem := by cases mem
  sent := rfl
  lost := rfl
  own _ mem := by cases mem

/-- Where every event comes when it may, the frames for a next hop stand in line. -/
theorem lined_up {log : List Event} (orderly : Orderly [] log) (ip : Ipv4Addr) : ∃ settled, Lined log ip settled := by
  induction log using List.reverseRecOn with
  | nil => exact ⟨[], lined_nil ip⟩
  | append_singleton log ev ih =>
    obtain ⟨before, due, -⟩ := orderly_append.1 orderly
    obtain ⟨settled, lined⟩ := ih before
    cases ev with
    | announced t =>
      have noted : record [] (log ++ [.announced t]) = record [] log := by rw [record_append]; rfl
      exact ⟨settled, lined.kept (by rw [noted]; exact lined.line) rfl rfl⟩
    | delivered d mac => exact lined.delivered due
    | queued d => exact ⟨settled, lined.queued d⟩
    | released d mac =>
      obtain ⟨e, rest, first, frame⟩ := due
      exact lined.released first frame
    | abandoned given => exact lined.abandoned due

theorem map_delivery_settleFirst (ip : Ipv4Addr) (fate : Fate) (j : Journal) :
    (settleFirst ip fate j).map Entry.delivery = j.map Entry.delivery := by
  induction j with
  | nil => rfl
  | cons e rest ih => by_cases waits : e.waitsFor ip <;> simp [settleFirst, waits, ih]

theorem map_delivery_settleAll (ip : Ipv4Addr) (fate : Fate) (j : Journal) :
    (settleAll ip fate j).map Entry.delivery = j.map Entry.delivery := by
  rw [settleAll, List.map_map]
  refine List.map_congr_left ?_
  intro e _
  by_cases waits : e.waitsFor ip <;> simp [waits]

/-- Whatever comes of it, every frame handed over has its entry. -/
theorem map_delivery_record (j : Journal) (log : List Event) :
    (record j log).map Entry.delivery = j.map Entry.delivery ++ log.filterMap Event.handed? := by
  induction log generalizing j with
  | nil => simp
  | cons ev rest ih =>
    rw [record_cons, ih]
    cases ev with
    | announced _ => rfl
    | delivered _ _ => simp [note, Event.handed?]
    | queued _ => simp [note, Event.handed?]
    | released _ _ => rw [note, map_delivery_settleFirst]; rfl
    | abandoned _ => rw [note, map_delivery_settleAll]; rfl

theorem map_frame_toward (log : List Event) (ip : Ipv4Addr) :
    (toward (record [] log) ip).map (·.delivery.frame) = handedTo ip log := by
  have deliveries := map_delivery_record [] log
  rw [List.map_nil, List.nil_append] at deliveries
  rw [handedTo, ← deliveries, List.filter_map, List.map_map]
  rfl

/-! ## Every run is orderly -/

theorem orderly_released {j : Journal} {ds : List Delivery} (ip : Ipv4Addr) (mac : Mac)
    (hops : ∀ d ∈ ds, d.nextHop = ip)
    (queue : (waitingFor j ip).map (·.delivery.frame) = ds.map Delivery.frame) :
    Orderly j (ds.map (.released · mac)) := by
  induction ds generalizing j with
  | nil => trivial
  | cons d rest ih =>
    have hop : d.nextHop = ip := hops d List.mem_cons_self
    obtain ⟨e, others, waiting, frame, queue'⟩ := List.map_eq_cons_iff.1 queue
    refine ⟨⟨e, others, hop ▸ waiting, frame⟩, ih (fun x mem => hops x (List.mem_cons_of_mem d mem)) ?_⟩
    rw [note, hop, waitingFor_settleFirst _ (by simp), waiting, List.tail_cons]
    exact queue'

theorem orderly_abandoned {j : Journal} {gs : List Resolution}
    (queues : ∀ g ∈ gs, (waitingFor j g.ip).map (·.delivery.frame) = g.waiting)
    (distinct : gs.Pairwise fun a b => a.ip ≠ b.ip) : Orderly j (gs.map .abandoned) := by
  induction gs generalizing j with
  | nil => trivial
  | cons g rest ih =>
    obtain ⟨others, distinct'⟩ := List.pairwise_cons.1 distinct
    refine ⟨queues g List.mem_cons_self, ih ?_ distinct'⟩
    intro x mem
    rw [note, waitingFor_settleAll_ne _ (by simp) (others x mem)]
    exact queues x (List.mem_cons_of_mem g mem)

end Journal

namespace Tracks

variable {log : List Event} {c : NeighbourCache} (tracks : Tracks log c)
include tracks

theorem frames_waiting (ip : Ipv4Addr) :
    (waitingFor (record [] log) ip).map (·.delivery.frame) = c.waitingFrames ip := by
  have queue := congrArg (List.map Prod.snd) (tracks.each ip).queue
  rw [List.map_map] at queue
  refine Eq.trans queue ?_
  rw [NeighbourCache.queue, waitingFrames]
  cases c.resolution? ip <;> simp [Function.comp_def]

/-- An abandoned address is given up with the frames that wait for it. -/
theorem orderly_ticked (now : Nat) (order : List Ipv4Addr) :
    Orderly (record [] log) (Router.abandonments (c.tickProgress now order)) := by
  rw [abandonments_tickProgress]
  refine orderly_abandoned ?_ ?_
  · intro g mem
    have pending : c.resolution? g.ip = some g := mem_visited.1 (List.mem_filter.1 mem).1
    rw [tracks.frames_waiting, waitingFrames, pending]
    exact List.append_nil _
  · exact distinct_visited.filter _

theorem orderly_learned (mac : Mac) (ip : Ipv4Addr) : Orderly (record [] log)
    (((c.resolution? ip).toList.flatMap Resolution.deliveries).map (.released · mac)) := by
  refine orderly_released ip mac ?_ ?_
  · intro d mem
    obtain ⟨r, pending, member⟩ := List.mem_flatMap.1 mem
    obtain ⟨frame, -, rfl⟩ := List.mem_map.1 member
    exact NeighbourCache.ip_of_resolution (Option.mem_toList.1 pending)
  · rw [tracks.frames_waiting, waitingFrames]
    cases c.resolution? ip <;> simp [Resolution.deliveries, Function.comp_def]

end Tracks

namespace Router

theorem orderly_handover {r s : Router} {now : Nat} {events log : List Event} (tracks : Tracks log r.arp)
    (step : Handover now r events s) : Orderly (record [] log) events := by
  cases step with
  | @known d mac _ found =>
    have none : waitingFor (record [] log) d.nextHop = [] := by
      refine List.map_eq_nil_iff.1 ((tracks.frames_waiting d.nextHop).trans ?_)
      rw [waitingFrames, tracks.disjoint d.nextHop mac found]
      rfl
    exact ⟨none, trivial⟩
  | @unknown d _ missing =>
    refine ⟨trivial, ?_⟩
    rw [r.arp.await_outcome d now]
    cases (r.arp.joined d).need now with
    | patience => trivial
    | question =>
      obtain ⟨sent, asks⟩ := r.question_spec (r.arp.joined d).ip (r.arp.joined d).interface
      dsimp only [outcome]
      rw [asks]
      exact orderly_announced _ sent
    | surrender =>
      -- The frame handed over waits behind the others by the time the address is given up.
      have noted : note (record [] log) (.queued d) = record [] (log ++ [.queued d]) := by
        rw [record_append]
        rfl
      refine ⟨?_, trivial⟩
      rw [noted, Due, r.arp.ip_joined d, Tracks.waitingFor_queued, List.map_append, tracks.frames_waiting,
        NeighbourCache.waiting_joined, NeighbourCache.queue, waitingFrames]
      cases r.arp.resolution? d.nextHop <;> simp [Function.comp_def]

theorem orderly_act {r s : Router} {now : Nat} {events log : List Event} (tracks : Tracks log r.arp)
    (step : Act now r events s) : Orderly (record [] log) events := by
  cases step with
  | handover step => exact orderly_handover tracks step
  | quiet step =>
    obtain ⟨-, -, sent, rfl⟩ := quiet_spec step
    exact orderly_announced _ sent
  | @meet _ _ _ mac ip _ _ _ => exact tracks.orderly_learned mac ip
  | tick => exact tracks.orderly_ticked now _
  | ask ip interface =>
    obtain ⟨sent, asks⟩ := r.question_spec ip interface
    rw [asks]
    exact orderly_announced _ sent

/-- In the log of a run of a new router every event comes when it may. -/
theorem orderly_run {interfaces : InterfaceTable} {routes : RouteTable} {r : Router}
    (created : Router.make interfaces routes = .ok r) (xs : List (Nat × Stimulus)) : Orderly [] (r.run xs).2 := by
  obtain rfl := eq_of_make created
  refine (run_log_keeps (fun log s => Tracks log s.arp ∧ Orderly [] log) ?_ ⟨tracks_nil, trivial⟩ xs).2
  rintro log r events s now ⟨tracks, orderly⟩ act
  exact ⟨tracks_act tracks act, orderly_append.2 ⟨orderly, orderly_act tracks act⟩⟩

/-- What a run hands over for a next hop is what its responses call for, response after response. -/
theorem inTurns_run (r : Router) (xs : List (Nat × Stimulus)) (ip : Ipv4Addr) :
    InTurns ip (r.errands xs) (handedTo ip (r.run xs).2) := by
  induction xs generalizing r with
  | nil => exact ⟨[], rfl, .nil⟩
  | cons x xs ih =>
    obtain ⟨turns, rest, each⟩ := ih (r.respond x.1 x.2).1
    have turn : (handedTo ip (r.respond x.1 x.2).2).Perm (framesTo ip (r.calledFor x.1 x.2)) :=
      ((handed_respond r x.1 x.2).filter _).map _
    refine ⟨handedTo ip (r.respond x.1 x.2).2 :: turns, ?_, .cons turn each⟩
    rw [List.flatten_cons, rest, run_cons, handedTo_append]

/-- No frame waits for an address that is known, and the frames for a next hop keep their order. The frames handed
over for it, which are those that the responses of the run call for, stand in line, each with its fate: read in order,
the line says what was sent to the next hop, each frame as it was handed over but for its destination, what was given
up, and what still waits. -/
theorem sent_in_order_of_handover {interfaces : InterfaceTable} {routes : RouteTable} {r : Router}
    (created : Router.make interfaces routes = .ok r) (xs : List (Nat × Stimulus)) (ip : Ipv4Addr) :
    (∀ mac, (r.run xs).1.arp.mac? ip = some mac → (r.run xs).1.arp.resolution? ip = none) ∧
      ∃ line : List (EthernetFrame × Fate),
        line.map Prod.fst = handedTo ip (r.run xs).2 ∧
        InTurns ip (r.errands xs) (line.map Prod.fst) ∧
        line.filterMap (·.2.sent?) = sentTo ip (r.run xs).2 ∧
        (∀ x ∈ line, ∀ t, x.2 = .sent t → ∃ mac, t.frame = { x.1 with dest := mac }) ∧
        (line.filter (·.2 = .givenUp)).map Prod.fst = lostFor ip (r.run xs).2 ∧
        (line.filter (·.2 = .waiting)).map Prod.fst = (r.run xs).1.arp.waitingFrames ip := by
  have tracks := tracks_run created xs
  obtain ⟨settled, lined⟩ := lined_up (orderly_run created xs) ip
  have handed : ((toward (record [] (r.run xs).2) ip).map fun e => (e.delivery.frame, e.fate)).map Prod.fst =
      handedTo ip (r.run xs).2 := by
    rw [List.map_map, ← map_frame_toward]
    rfl
  refine ⟨tracks.disjoint ip, (toward (record [] (r.run xs).2) ip).map fun e => (e.delivery.frame, e.fate), handed,
    handed ▸ inTurns_run r xs ip, ?_, ?_, ?_, ?_⟩
  · rw [List.filterMap_map, ← lined.line_sent]
    congr 1
    funext e
    cases fate : e.fate <;> simp [Entry.sent?, Fate.sent?, fate]
  · intro x mem t sent
    obtain ⟨e, member, rfl⟩ := List.mem_map.1 mem
    exact lined.line_own member sent
  · rw [List.filter_map, List.map_map, ← lined.line_lost]
    rfl
  · rw [List.filter_map, List.map_map, ← tracks.frames_waiting, ← lined.line_waiting]
    rfl

/-- Two frames that wait for one gateway go out in the order they came when the gateway makes itself known. -/
theorem crossing_in_order : ∃ line : List (EthernetFrame × Fate),
    line.map Prod.fst = handedTo (.ofOctets 10 0 1 9) (gatewayRouter.run crossing).2 ∧
      InTurns (.ofOctets 10 0 1 9) (gatewayRouter.errands crossing) (line.map Prod.fst) ∧
      line.filterMap (·.2.sent?) = sentTo (.ofOctets 10 0 1 9) (gatewayRouter.run crossing).2 ∧
      line.map Prod.fst = [(datagramTo "eth1" (station 1) (station 2) (.ofOctets 8 8 8 8)).frame, crossed.frame] ∧
      line.filterMap (·.2.sent?) =
        [(datagramTo "eth1" (station 1) (station 2) (.ofOctets 8 8 8 8)).resolved (station 9),
          ⟨"eth1", { crossed.frame with dest := station 9 }⟩] := by
  obtain ⟨-, line, handed, turns, sent, -⟩ :=
    sent_in_order_of_handover gatewayRouter_created crossing (.ofOctets 10 0 1 9)
  have first : (gatewayRouter.run [(0, .frame toSecond)]).2 =
      .queued (datagramTo "eth1" (station 1) (station 2) (.ofOctets 8 8 8 8)) ::
        gatewayRouter.question (.ofOctets 10 0 1 9) "eth1" := by
    rw [run_cons, handle_of_forwards forwards_toSecond, dispatch_unknown (by rfl) (by decide +kernel)]
    decide +kernel
  refine ⟨line, handed, turns, sent, handed.trans ?_, sent.trans ?_⟩
  · rw [log_crossing, first]
    decide +kernel
  · rw [log_crossing, first]
    decide +kernel

end Router

end SoftRouter
