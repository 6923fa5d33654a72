import SoftRouter.Proofs.Dispatch
import SoftRouter.Proofs.Waiting

/-!
# From handover to the wire

A frame received that is to go on is handed over at once and so has its place in the journal (`entry_of_forwards`).
When the journal first says that a frame was sent, the address of its next hop is known and is the one the frame
went to (`resolved_of_first`).
-/

namespace SoftRouter

open Journal

namespace Router

/-- What is sent to a next hop goes to its known address, and no address known changes. -/
structure Resolves (r : Router) (events : List Event) (s : Router) : Prop where
  known : ∀ ip, s.arp.mac? ip = r.arp.mac? ip
  resolved : ∀ d mac, .delivered d mac ∈ events ∨ .released d mac ∈ events → r.arp.mac? d.nextHop = some mac

theorem Resolves.nil (r : Router) : Resolves r [] r where
  known _ := rfl
  resolved _ _ mem := by simp at mem

theorem Resolves.append {r s u : Router} {first later : List Event} (front : Resolves r first s)
    (back : Resolves s later u) : Resolves r (first ++ later) u where
  known ip := (back.known ip).trans (front.known ip)
  resolved d mac mem := by
    rw [List.mem_append, List.mem_append, or_or_or_comm] at mem
    rcases mem with mem | mem
    · exact front.resolved d mac mem
    · exact front.known d.nextHop ▸ back.resolved d mac mem

theorem resolves_announced (r : Router) (sent : List Transmission) : Resolves r (sent.map .announced) r where
  known _ := rfl
  resolved _ _ mem := by simp at mem

theorem resolves_handover {r s : Router} {now : Nat} {events : List Event} (step : Handover now r events s) :
    Resolves r events s := by
  cases step with
  | known _ found =>
    refine ⟨fun _ => rfl, ?_⟩
    intro d mac mem
    simp only [List.mem_singleton, Event.delivered.injEq, reduceCtorEq, or_false] at mem
    rw [mem.1, mem.2, found]
  | @unknown d _ missing =>
    refine ⟨NeighbourCache.mac?_await _ _ _, ?_⟩
    intro e mac mem
    cases progress : (r.arp.await d now).2 with
    | waiting => simp [outcome, progress] at mem
    | asking ip interface =>
      obtain ⟨sent, asks⟩ := r.question_spec ip interface
      simp [outcome, progress, asks] at mem
    | abandoned given => simp [outcome, progress] at mem

theorem resolves_dispatch {r : Router} (now : Nat) {work : List Delivery} (hands : ∀ d ∈ work, r.Hands d) :
    Resolves r (r.dispatch now work).2 (r.dispatch now work).1 :=
  (dispatch_trace hands).keeps (Resolves r) (fun _ _ _ _ front step => front.append (resolves_handover step))
    (.nil r)

theorem resolves_follow (r : Router) (now : Nat) (p : Progress) : Resolves r (r.follow now p).2 (r.follow now p).1 := by
  cases p with
  | waiting => exact .nil r
  | asking ip interface =>
    obtain ⟨sent, asks⟩ := r.question_spec ip interface
    rw [follow, asks]
    exact resolves_announced r sent
  | abandoned given => exact resolves_dispatch now fun d mem => hands_regrets mem

theorem resolves_followAll (r : Router) (now : Nat) (progress : List Progress) :
    Resolves r (r.followAll now progress).2 (r.followAll now progress).1 := by
  induction progress generalizing r with
  | nil => exact .nil r
  | cons p rest ih => exact (resolves_follow r now p).append (ih _)

/-- The frames that waited for a neighbour go to the address it made known. -/
theorem meet_resolved {r : Router} {now : Nat} {mac other : Mac} {ip : Ipv4Addr} {d : Delivery}
    (mem : .released d other ∈ (r.meet now mac ip).2) : (r.meet now mac ip).1.arp.mac? d.nextHop = some other := by
  obtain ⟨e, waits, same⟩ := List.mem_map.1 mem
  obtain ⟨rfl, rfl⟩ := Event.released.inj same
  obtain ⟨resolution, pending, member⟩ := List.mem_flatMap.1 waits
  obtain ⟨frame, -, rfl⟩ := List.mem_map.1 member
  have hop : resolution.ip = ip := NeighbourCache.ip_of_resolution (Option.mem_toList.1 pending)
  rw [meet, NeighbourCache.mac?_learn, if_pos hop.symm]

/-- A tick releases nothing, and the notices it sends go to addresses still known. -/
theorem arpTick_resolved {r : Router} {now : Nat} {order : List Ipv4Addr} {d : Delivery} {mac : Mac}
    (mem : .delivered d mac ∈ (r.arpTick now order).2 ∨ .released d mac ∈ (r.arpTick now order).2) :
    (r.arpTick now order).1.arp.mac? d.nextHop = some mac := by
  have later := resolves_followAll { r with arp := r.arp.tick now } now (r.arp.tickProgress now order)
  refine (later.known d.nextHop).trans (later.resolved d mac (mem.imp ?_ ?_))
  all_goals
    intro mem
    rcases List.mem_append.1 mem with mem | mem
    · obtain ⟨given, same⟩ := abandoned_of_mem mem
      cases same
    · exact mem

theorem Response.resolved {r s : Router} {now : Nat} {events : List Event} (response : Response now r events s)
    {d : Delivery} {mac : Mac} (mem : .delivered d mac ∈ events ∨ .released d mac ∈ events) :
    s.arp.mac? d.nextHop = some mac := by
  cases response with
  | nothing => simp at mem
  | quiet step =>
    obtain ⟨-, -, sent, rfl⟩ := quiet_spec step
    simp at mem
  | meet _ _ _ =>
    refine meet_resolved (mem.resolve_left ?_)
    intro mem
    obtain ⟨_, -, same⟩ := List.mem_map.1 mem
    cases same
  | dispatch hands =>
    have resolves := resolves_dispatch now hands
    exact (resolves.known d.nextHop).trans (resolves.resolved d mac mem)
  | tick => exact arpTick_resolved mem

/-! ## The journal over a run -/

/-- The journal of a run. -/
def journal (r : Router) (xs : List (Nat × Stimulus)) : Journal := record [] (r.run xs).2

@[simp] theorem journal_nil (r : Router) : r.journal [] = [] := rfl

theorem journal_append (r : Router) (xs ys : List (Nat × Stimulus)) :
    r.journal (xs ++ ys) = record (r.journal xs) ((r.run xs).1.run ys).2 := by
  rw [journal, run_append, record_append]
  rfl

/-- By the end of this run, and not before, the journal has this entry at this place. -/
structure First (r : Router) (k : Nat) (e : Entry) (xs : List (Nat × Stimulus)) : Prop where
  found : (r.journal xs)[k]? = some e
  new : ∀ us, us <+: xs → us ≠ xs → (r.journal us)[k]? ≠ some e

theorem exists_first {r : Router} {k : Nat} {e : Entry} {xs : List (Nat × Stimulus)}
    (found : (r.journal xs)[k]? = some e) : ∃ zs, zs <+: xs ∧ r.First k e zs := by
  -- The shortest such run: either none is shorter than this one, or the search goes on in a shorter one.
  by_cases earlier : ∃ us, us <+: xs ∧ us ≠ xs ∧ (r.journal us)[k]? = some e
  · obtain ⟨us, early, ne, found'⟩ := earlier
    have shorter : us.length < xs.length := Nat.lt_of_le_of_ne early.length_le fun same => ne (early.eq_of_length same)
    obtain ⟨zs, earliest, first⟩ := exists_first found'
    exact ⟨zs, earliest.trans early, first⟩
  · refine ⟨xs, List.prefix_rfl, found, ?_⟩
    intro us early ne found'
    exact earlier ⟨us, early, ne, found'⟩
termination_by xs.length

/-- When a frame is first said to have been sent, it went to the address then known for its next hop. -/
theorem resolved_of_first {r : Router} {k : Nat} {e : Entry} {out : Transmission} {xs : List (Nat × Stimulus)}
    (first : r.First k e xs) (sent : e.fate = .sent out) :
    (r.run xs).1.arp.mac? e.delivery.nextHop = some out.frame.dest := by
  cases xs using List.reverseRecOn with
  | nil => exact absurd first.found (by simp)
  | append_singleton us x =>
    have found := first.found
    rw [journal, run_concat, record_append] at found
    rw [run_concat]
    rcases origin_of_record found with old | origin
    · exact absurd old (first.new us (List.prefix_append us [x]) (by simp))
    · cases origin with
      | queued _ fate => cases fate.symm.trans sent
      | delivered mac mem fate =>
        cases fate.symm.trans sent
        exact (respond_cases _ x.1 x.2).resolved (.inl mem)
      | released d mac mem fate hop =>
        cases fate.symm.trans sent
        exact hop ▸ (respond_cases _ x.1 x.2).resolved (.inr mem)
      | abandoned _ _ fate _ => cases fate.symm.trans sent

theorem dispatch_cons_handed (r : Router) (now : Nat) (d : Delivery) (rest : List Delivery) :
    ∃ ev later, (r.dispatch now (d :: rest)).2 = ev :: later ∧ ev.handed? = some d := by
  cases known : r.arp.mac? d.nextHop with
  | some mac =>
    rw [dispatch_known_cons known]
    exact ⟨_, _, rfl, rfl⟩
  | none =>
    rw [dispatch_unknown_cons known]
    exact ⟨_, _, rfl, rfl⟩

theorem dispatch_known {r : Router} {d : Delivery} {mac : Mac} (found : r.arp.mac? d.nextHop = some mac) (now : Nat) :
    r.dispatch now [d] = (r, [.delivered d mac]) := by
  rw [dispatch_known_cons found, dispatch_nil]

/-- A frame for an unknown address waits, unless that address is given up. -/
theorem dispatch_unknown {r : Router} {now : Nat} {d : Delivery} (missing : r.arp.mac? d.nextHop = none)
    (goesOn : (r.arp.joined d).need now ≠ .surrender) :
    r.dispatch now [d] =
      ({ r with arp := (r.arp.await d now).1 }, .queued d :: r.outcome (r.arp.await d now).2) := by
  simp [dispatch_unknown_cons missing, notices_eq_nil goesOn, dispatch_nil]

theorem handle_of_forwards {r : Router} {received : Transmission} {d : Delivery} (forwards : r.Forwards received d)
    (now : Nat) : r.respond now (.frame received) = r.dispatch now [d] := by
  obtain ⟨i, p, port, packet, verdict⟩ := forwards
  rw [respond, handle_of_packet packet port, handlePacket, verdict]

/-- A frame that is to go on has its place in the journal behind all that came before it. -/
theorem entry_of_forwards {r : Router} {received : Transmission} {d : Delivery} {xs : List (Nat × Stimulus)}
    (forwards : (r.run xs).1.Forwards received d) (now : Nat) (ys : List (Nat × Stimulus)) :
    ∃ e, (r.journal (xs ++ (now, .frame received) :: ys))[(r.journal xs).length]? = some e ∧ e.delivery = d ∧
      e.asked = askedOn (r.journal xs) d := by
  obtain ⟨ev, later, events, handed⟩ := dispatch_cons_handed (r.run xs).1 now d []
  rw [journal_append, run_cons, handle_of_forwards forwards, events]
  exact entry_of_handed _ handed _

theorem sent_of_known {r : Router} {received : Transmission} {d : Delivery} {mac : Mac} {xs : List (Nat × Stimulus)}
    (forwards : (r.run xs).1.Forwards received d) (known : (r.run xs).1.arp.mac? d.nextHop = some mac) (now : Nat)
    (ys : List (Nat × Stimulus)) :
    (r.journal (xs ++ (now, .frame received) :: ys))[(r.journal xs).length]? =
      some ⟨d, askedOn (r.journal xs) d, .sent (d.resolved mac)⟩ := by
  rw [journal_append, run_cons, handle_of_forwards forwards, dispatch_known known]
  exact entry_of_delivered _ d mac _

theorem queued_of_waiting {interfaces : InterfaceTable} {routes : RouteTable} {r : Router}
    (created : Router.make interfaces routes = .ok r) {xs : List (Nat × Stimulus)} {k : Nat} {e : Entry}
    (found : (r.journal xs)[k]? = some e) (waiting : e.fate = .waiting) :
    (e.asked, e.delivery.frame) ∈ (r.run xs).1.arp.queue e.delivery.nextHop := by
  rw [← ((tracks_run created xs).each e.delivery.nextHop).queue]
  exact List.mem_map_of_mem (List.mem_filter.2 ⟨List.mem_of_getElem? found, Entry.waitsFor_iff.2 ⟨waiting, rfl⟩⟩)

/-- The frame received tells one of the ports that `mac` has the address `ip`. -/
def Told (r : Router) (received : Transmission) (mac : Mac) (ip : Ipv4Addr) : Prop :=
  ∃ i f, r.interfaces.find? received.interface = some i ∧ ArpFrame.ofFrame received.frame = .ok f ∧ f.Tells i mac ip

theorem respond_of_told {r : Router} {received : Transmission} {mac : Mac} {ip : Ipv4Addr}
    (told : r.Told received mac ip) (now : Nat) : r.respond now (.frame received) = r.meet now mac ip := by
  obtain ⟨i, f, port, read, tells⟩ := told
  have type : received.frame.etherType = etherTypeArp := by
    unfold ArpFrame.ofFrame at read
    split at read
    · assumption
    · cases read
  simp only [respond, handle, port, if_pos type, read, handleArp, if_pos (And.intro tells.ethernetIpv4 tells.target),
    tells.reply, tells.senderMac, tells.senderIp]

/-- A frame that waits is sent when its next hop makes itself known, to the address that it makes known. -/
theorem sent_of_told {interfaces : InterfaceTable} {routes : RouteTable} {r : Router}
    (created : Router.make interfaces routes = .ok r) {xs : List (Nat × Stimulus)} {k : Nat} {e : Entry}
    (found : (r.journal xs)[k]? = some e) (waiting : e.fate = .waiting) {received : Transmission} {mac : Mac}
    (told : (r.run xs).1.Told received mac e.delivery.nextHop) (now : Nat) :
    (r.journal (xs ++ [(now, .frame received)]))[k]? =
      some { e with fate := .sent ⟨e.asked, { e.delivery.frame with dest := mac }⟩ } := by
  have learned := (tracks_run created xs).learned mac e.delivery.nextHop now
  have empty := (learned.each e.delivery.nextHop).queue
  rw [NeighbourCache.queue_of_none (by rw [NeighbourCache.resolution?_learn, if_pos rfl]), List.map_eq_nil_iff,
    record_append] at empty
  have sound := learned.sound
  rw [record_append] at sound
  rw [journal, run_concat, respond_of_told told, record_append]
  refine entry_of_releases ?_ found waiting empty sound
  intro ev mem
  obtain ⟨d, -, same⟩ := List.mem_map.1 mem
  exact ⟨d, same.symm⟩

/-- What goes out over a run is what the router announces and what its journal says was sent. -/
theorem transmissions_perm {interfaces : InterfaceTable} {routes : RouteTable} {r : Router}
    (created : Router.make interfaces routes = .ok r) (xs : List (Nat × Stimulus)) :
    (transmissions (r.run xs).2).Perm ((r.run xs).2.filterMap Event.announced? ++ sent (r.journal xs)) :=
  (tracks_run created xs).accounts

/-- What the journal of a new router says was sent went out, and is the frame handed over but for the address of
the next hop. -/
theorem sent_spec {interfaces : InterfaceTable} {routes : RouteTable} {r : Router}
    (created : Router.make interfaces routes = .ok r) {xs : List (Nat × Stimulus)} {k : Nat} {e : Entry}
    {out : Transmission} (found : (r.journal xs)[k]? = some e) (sent : e.fate = .sent out) :
    out ∈ transmissions (r.run xs).2 ∧ ∃ mac, out = ⟨e.asked, { e.delivery.frame with dest := mac }⟩ := by
  have tracks := tracks_run created xs
  have mem : e ∈ r.journal xs := List.mem_of_getElem? found
  refine ⟨(transmissions_perm created xs).mem_iff.2 (List.mem_append_right _ ?_), tracks.sound e mem out sent⟩
  exact List.mem_filterMap.2 ⟨e, mem, by rw [Entry.sent?, sent]⟩

end Router

end SoftRouter
