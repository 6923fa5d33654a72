import SoftRouter.Proofs.History
import SoftRouter.Proofs.Holding
import SoftRouter.Proofs.Pace

/-!
# The questions of a router

When a router asks for an address, read off the frames it sends over a run whose clock never goes back. Any two
questions about one address are a second apart, whatever ends the resolution in between; a resolution asks at most
five times, and one that is given up has asked five times, the last at least a second ago (`questions_paced`).
-/

namespace SoftRouter

open NeighbourCache History

namespace Router

/-- The questions about an address that are decided on, but not sent yet. -/
def debt (owed : List Ipv4Addr) (now : Nat) (ip : Ipv4Addr) : List Nat := (owed.filter (· = ip)).map fun _ => now

/-- Over its history a router has asked at the pace of its resolutions, but for the questions it owes. -/
structure Paced (h : History) (now : Nat) (owed : List Ipv4Addr) (r : Router) : Prop where
  pace : ∀ ip, Pace now (questions ip h ++ debt owed now ip) (round ip h ++ debt owed now ip)
    (r.arp.resolution? ip) (r.arp.neighbour? ip)
  holds : r.Holds
  measured : Measured [] h

theorem debt_nil (now : Nat) (ip : Ipv4Addr) : debt [] now ip = [] := rfl

/-- What is owed now is not due. -/
theorem debt_eq_nil {asked : List Nat} {owed : List Ipv4Addr} {now : Nat} {ip : Ipv4Addr}
    (rested : ∀ s ∈ asked ++ debt owed now ip, s + askInterval ≤ now) : debt owed now ip = [] := by
  refine List.eq_nil_iff_forall_not_mem.2 ?_
  intro s mem
  have gap := rested s (List.mem_append_right asked mem)
  obtain ⟨_, -, rfl⟩ := List.mem_map.1 mem
  have positive : 0 < askInterval := by decide
  omega

theorem question_eq {r : Router} {interface : String} (port : ∃ i, r.interfaces.find? interface = some i)
    (ip : Ipv4Addr) : ∃ ev, r.question ip interface = [ev] ∧ ev.asks? = some ip ∧ ev.given? = none ∧
      ∀ other, ev.ends other = false := by
  obtain ⟨i, found⟩ := port
  refine ⟨.announced ⟨i.name, (ArpFrame.request i.mac i.ip ip).toFrame⟩, ?_, ?_, rfl, fun _ => rfl⟩
  · rw [question, found]
  · exact EthernetFrame.asksFor?_request i.mac i.ip ip

theorem mute_of_announced {sent : List Transmission} (datagrams : ∀ t ∈ sent, t.frame.etherType = etherTypeIpv4) :
    Mute (sent.map .announced) := by
  intro ev mem
  obtain ⟨t, sent, rfl⟩ := List.mem_map.1 mem
  exact EthernetFrame.asksFor?_datagram (datagrams t sent)

/-- Events that ask for nothing and end no resolution leave the pace as it is. -/
theorem Paced.mute {h : History} {now : Nat} {owed : List Ipv4Addr} {r s : Router} {events : List Event}
    (paced : Paced h now owed r) (mute : Mute events) (keeps : ∀ ev ∈ events, ev.given? = none)
    (goesOn : ∀ ev ∈ events, ∀ ip, ev.ends ip = false) (arp : s.arp = r.arp)
    (interfaces : s.interfaces = r.interfaces) :
    Paced (h ++ stamped now events) now owed s where
  pace ip := by
    rw [questions_mute mute, round_mute mute (fun ev mem => goesOn ev mem ip), arp]
    exact paced.pace ip
  holds := by
    unfold Holds
    rw [arp, interfaces]
    exact paced.holds
  measured := measured_append.2 ⟨paced.measured, measured_mute mute keeps h⟩

theorem Paced.mute_one {h : History} {now : Nat} {owed : List Ipv4Addr} {r : Router} {ev : Event}
    (paced : Paced h now owed r) (asks : ev.asks? = none) (keeps : ev.given? = none)
    (goesOn : ∀ ip, ev.ends ip = false) : Paced (h ++ stamped now [ev]) now owed r := by
  refine paced.mute ?_ ?_ ?_ rfl rfl
  · intro e mem
    rwa [List.mem_singleton.1 mem]
  · intro e mem
    rwa [List.mem_singleton.1 mem]
  · intro e mem
    rwa [List.mem_singleton.1 mem]

theorem paced_queued {h : History} {now : Nat} {owed : List Ipv4Addr} {r : Router} (paced : Paced h now owed r)
    (d : Delivery) : Paced (h ++ stamped now [.queued d]) now owed r :=
  paced.mute_one rfl rfl fun _ => rfl

/-- An event that concerns one address alone leaves the pace for the others as it is. -/
theorem pace_elsewhere {h : History} {now : Nat} {owed : List Ipv4Addr} {r s : Router} {ev : Event} {other : Ipv4Addr}
    (paced : Paced h now owed r) (asks : ev.asks? ≠ some other) (goesOn : ev.ends other = false)
    (pending : s.arp.resolution? other = r.arp.resolution? other)
    (known : s.arp.neighbour? other = r.arp.neighbour? other) :
    Pace now (questions other (h ++ [(now, ev)]) ++ debt owed now other)
      (round other (h ++ [(now, ev)]) ++ debt owed now other) (s.arp.resolution? other) (s.arp.neighbour? other) := by
  rw [questions_concat_of_ne asks, round_concat, tally, if_neg (by simp [goesOn]), if_neg asks, pending, known]
  exact paced.pace other

/-- A frame that is made to wait, and then an event about its next hop alone. -/
theorem paced_await {h : History} {now : Nat} {owed : List Ipv4Addr} {r : Router} {d : Delivery} {ev : Event}
    (paced : Paced h now owed r) (hands : r.Hands d)
    (apart : ∀ ip, d.nextHop ≠ ip → ev.asks? ≠ some ip ∧ ev.ends ip = false) (allowed : Allowed h (now, ev))
    (hop : Pace now (questions d.nextHop (h ++ [(now, ev)]) ++ debt owed now d.nextHop)
      (round d.nextHop (h ++ [(now, ev)]) ++ debt owed now d.nextHop)
      ((r.arp.await d now).1.resolution? d.nextHop) (r.arp.neighbour? d.nextHop)) :
    Paced (h ++ [(now, ev)]) now owed { r with arp := (r.arp.await d now).1 } where
  pace ip := by
    by_cases same : d.nextHop = ip
    · subst same
      rw [neighbour?_await]
      exact hop
    · obtain ⟨asks, goesOn⟩ := apart ip same
      exact pace_elsewhere paced asks goesOn (r.arp.resolution?_await_ne d now same) (neighbour?_await ip)
  holds := holds_await paced.holds hands now
  measured := measured_append.2 ⟨paced.measured, allowed, trivial⟩

/-! A frame for an address that is not known waits, and with it the resolution goes on, asks once more or ends. -/

section
variable {h : History} {now : Nat} {owed : List Ipv4Addr} {r : Router} {d : Delivery}

theorem pace_unknown (paced : Paced h now owed r) (missing : r.arp.mac? d.nextHop = none) :
    Pace now (questions d.nextHop (h ++ stamped now [.queued d]) ++ debt owed now d.nextHop)
      (round d.nextHop (h ++ stamped now [.queued d]) ++ debt owed now d.nextHop)
      (r.arp.resolution? d.nextHop) none := by
  have pace := (paced_queued paced d).pace d.nextHop
  rwa [neighbour?_eq_none.2 missing] at pace

variable (paced : Paced h now owed r) (hands : r.Hands d) (missing : r.arp.mac? d.nextHop = none)
include paced hands missing

theorem paced_patience (need : (r.arp.joined d).need now = .patience) :
    Paced (h ++ stamped now [.queued d]) now owed { r with arp := (r.arp.await d now).1 } := by
  have queued := paced_queued paced d
  refine ⟨?_, holds_await paced.holds hands now, queued.measured⟩
  intro ip
  by_cases hop : d.nextHop = ip
  · subst hop
    have goesOn : (r.arp.joined d).advanced now = r.arp.joined d := by simp [Resolution.advanced, need]
    rw [neighbour?_await, neighbour?_eq_none.2 missing, r.arp.resolution?_await_self d now, need, if_neg (by simp),
      goesOn]
    exact paced_joined (pace_unknown paced missing) need
  · rw [neighbour?_await, r.arp.resolution?_await_ne d now hop]
    exact queued.pace ip

theorem paced_question (need : (r.arp.joined d).need now = .question) :
    Paced (h ++ stamped now (.queued d :: r.question d.nextHop (r.arp.joined d).interface)) now owed
      { r with arp := (r.arp.await d now).1 } := by
  have pace := pace_unknown paced missing
  obtain ⟨-, port, -⟩ := held_joined paced.holds hands
  obtain ⟨ev, event, asks, keeps, goesOn⟩ := question_eq port d.nextHop
  have goes : (r.arp.joined d).advanced now = (r.arp.joined d).asked now := by simp [Resolution.advanced, need]
  have nothing := debt_eq_nil (rested_joined pace (by simp [need]))
  obtain ⟨few, next⟩ := paced_asked pace need
  rw [nothing, List.append_nil, List.append_nil] at next
  rw [nothing, List.append_nil] at few
  rw [event, ← List.singleton_append, stamped_append, ← List.append_assoc]
  refine paced_await (paced_queued paced d) hands ?_ ⟨?_, ?_⟩ ?_
  · intro ip apart
    exact ⟨by simp [asks, apart], goesOn ip⟩
  · intro ip same
    cases asks.symm.trans same
    exact few
  · intro given same
    cases keeps.symm.trans same
  · rw [questions_concat asks, round_concat, tally, if_neg (by simp [goesOn]), if_pos asks, nothing, List.append_nil,
      List.append_nil, neighbour?_eq_none.2 missing, r.arp.resolution?_await_self d now, need, if_neg (by simp), goes]
    exact next

theorem paced_surrender (need : (r.arp.joined d).need now = .surrender) :
    Paced (h ++ stamped now [.queued d, .abandoned (r.arp.joined d)]) now owed
      { r with arp := (r.arp.await d now).1 } := by
  have pace := pace_unknown paced missing
  have asks : (Event.abandoned (r.arp.joined d)).asks? = none := rfl
  have ended : (Event.abandoned (r.arp.joined d)).ends d.nextHop := by simp [Event.ends, r.arp.ip_joined d]
  have nothing := debt_eq_nil (rested_joined pace (by simp [need]))
  obtain ⟨many, next⟩ := paced_surrendered pace need
  rw [nothing, List.append_nil] at many next
  rw [← List.singleton_append, stamped_append, ← List.append_assoc]
  refine paced_await (paced_queued paced d) hands ?_ ⟨?_, ?_⟩ ?_
  · intro ip apart
    exact ⟨by simp [asks], by simp [Event.ends, r.arp.ip_joined d, apart]⟩
  · intro ip same
    cases same
  · intro given same
    cases same
    rw [r.arp.ip_joined d]
    exact many
  · rw [questions_concat_of_ne (by simp [asks]), round_concat, tally, if_pos ended, nothing,
      neighbour?_eq_none.2 missing, r.arp.resolution?_await_self d now, need, if_pos rfl, List.append_nil]
    exact next

theorem paced_unknown : Paced (h ++ stamped now (.queued d :: r.outcome (r.arp.await d now).2)) now owed
    { r with arp := (r.arp.await d now).1 } := by
  rw [r.arp.await_outcome d now]
  cases need : (r.arp.joined d).need now with
  | patience => exact paced_patience paced hands missing need
  | question =>
    dsimp only [outcome]
    rw [r.arp.ip_joined d]
    exact paced_question paced hands missing need
  | surrender => exact paced_surrender paced hands missing need

end

theorem paced_handover {h : History} {now : Nat} {owed : List Ipv4Addr} {r s : Router} {events : List Event}
    (paced : Paced h now owed r) (step : Handover now r events s) : Paced (h ++ stamped now events) now owed s := by
  cases step with
  | @known d mac hands found =>
    exact paced.mute_one (EthernetFrame.asksFor?_datagram (datagram_of_hands hands)) rfl fun _ => rfl
  | unknown hands missing => exact paced_unknown paced hands missing

theorem paced_dispatch {h : History} {now : Nat} {owed : List Ipv4Addr} {r : Router} {work : List Delivery}
    (paced : Paced h now owed r) (hands : ∀ d ∈ work, r.Hands d) :
    Paced (h ++ stamped now (r.dispatch now work).2) now owed (r.dispatch now work).1 := by
  have start : Paced (h ++ stamped now []) now owed r := by simpa [stamped] using paced
  refine (dispatch_trace hands).keeps (fun log s => Paced (h ++ stamped now log) now owed s) ?_ start
  intro log s events u before step
  rw [stamped_append, ← List.append_assoc]
  exact paced_handover before step

/-! ## A tick -/

/-- The addresses that progress calls for a question about. -/
def owing (progress : List Progress) : List Ipv4Addr :=
  progress.filterMap fun
    | .asking ip _ => some ip
    | .waiting | .abandoned _ => none

theorem debt_cons (ip : Ipv4Addr) (owed : List Ipv4Addr) (now : Nat) (other : Ipv4Addr) :
    debt (ip :: owed) now other = if ip = other then now :: debt owed now other else debt owed now other := by
  by_cases same : ip = other <;> simp [debt, same]

/-- A question that is owed is paid. -/
theorem paced_paid {h : History} {now : Nat} {ip : Ipv4Addr} {owed : List Ipv4Addr} {r : Router} {interface : String}
    (paced : Paced h now (ip :: owed) r) (port : ∃ i, r.interfaces.find? interface = some i) :
    Paced (h ++ stamped now (r.question ip interface)) now owed r := by
  obtain ⟨ev, event, asks, keeps, goesOn⟩ := question_eq port ip
  have pace := paced.pace ip
  rw [debt_cons, if_pos rfl] at pace
  rw [event]
  refine ⟨?_, paced.holds, measured_append.2 ⟨paced.measured, ⟨?_, ?_⟩, trivial⟩⟩
  · intro other
    by_cases same : ip = other
    · subst same
      refine Eq.mp ?_ pace
      rw [stamped, List.map_singleton, questions_concat asks, round_concat, tally, if_neg (by simp [goesOn]),
        if_pos asks, List.append_assoc, List.append_assoc]
      rfl
    · have elsewhere := paced.pace other
      rw [debt_cons, if_neg same] at elsewhere
      have asks' : ev.asks? ≠ some other := by simp [asks, same]
      rw [stamped, List.map_singleton, questions_concat_of_ne asks', round_concat, tally, if_neg (by simp [goesOn]),
        if_neg asks']
      exact elsewhere
  · intro other same
    cases asks.symm.trans same
    cases pending : r.arp.resolution? ip with
    | none =>
      have empty := (pace.idle pending).1
      simp at empty
    | some res =>
      have few := (pace.counts res pending).few
      rw [List.length_append, List.length_cons] at few
      rw [List.nil_append]
      omega
  · intro given same
    cases keeps.symm.trans same

theorem interfaces_follow (r : Router) (now : Nat) (p : Progress) :
    (r.follow now p).1.interfaces = r.interfaces := by
  have kept : KeptByWaiting now fun s => s.interfaces = r.interfaces := fun _ _ same => same
  exact follow_keeps kept rfl p

theorem paced_followAll {h : History} {now : Nat} {progress : List Progress} {r : Router}
    (paced : Paced h now (owing progress) r)
    (ports : ∀ ip interface, .asking ip interface ∈ progress → ∃ i, r.interfaces.find? interface = some i) :
    Paced (h ++ stamped now (r.followAll now progress).2) now [] (r.followAll now progress).1 := by
  -- The progress that is left says which questions the router owes still.
  induction progress generalizing h r with
  | nil => simpa [followAll, stamped, owing] using paced
  | cons p rest ih =>
    have first : Paced (h ++ stamped now (r.follow now p).2) now (owing rest) (r.follow now p).1 := by
      cases p with
      | waiting => simpa [follow, stamped, owing] using paced
      | asking ip interface => exact paced_paid paced (ports ip interface List.mem_cons_self)
      | abandoned given => exact paced_dispatch paced fun d mem => hands_regrets mem
    rw [followAll, stamped_append, ← List.append_assoc]
    refine ih first ?_
    intro ip interface mem
    rw [interfaces_follow]
    exact ports ip interface (List.mem_cons_of_mem p mem)

theorem debt_tickProgress (c : NeighbourCache) (now : Nat) (order : List Ipv4Addr) (ip : Ipv4Addr) :
    debt (owing (c.tickProgress now order)) now ip = c.due now ip := by
  have asked : (owing (c.tickProgress now order)).filter (· = ip) =
      (((c.visited order).filter fun r => r.ip = ip).filter fun r => r.need now = .question).map Resolution.ip := by
    unfold owing tickProgress
    rw [List.filterMap_filterMap, List.filter_filterMap, List.filter_filter, ← List.filterMap_eq_map,
      List.filterMap_filter]
    congr 1
    funext r
    cases need : r.need now <;> simp [Option.filter]
  rw [debt, asked, filter_ip_visited, due]
  cases c.resolution? ip with
  | none => rfl
  | some r => by_cases asks : r.need now = .question <;> simp [asks]

theorem mute_abandonments (c : NeighbourCache) (now : Nat) (order : List Ipv4Addr) :
    Mute (abandonments (c.tickProgress now order)) := by
  rw [Tracks.abandonments_tickProgress]
  exact mute_abandoned _

theorem round_abandonments (c : NeighbourCache) (now : Nat) (order : List Ipv4Addr) (ip : Ipv4Addr) (h : History) :
    round ip (h ++ stamped now (abandonments (c.tickProgress now order))) =
      if c.gives now ip then [] else round ip h := by
  have given := Tracks.abandonments_tickProgress c now order
  by_cases ended : c.gives now ip
  · obtain ⟨r, pending, ends⟩ := (Option.any_eq_true _ _).1 ended
    have member : Event.abandoned r ∈ abandonments (c.tickProgress now order) := by
      rw [given]
      exact List.mem_map_of_mem (List.mem_filter.2 ⟨visited_of_resolution pending, ends⟩)
    rw [if_pos ended]
    exact round_of_ends (mute_abandonments c now order) member (by simp [Event.ends, ip_of_resolution pending]) h
  · rw [if_neg ended]
    refine round_mute (mute_abandonments c now order) ?_ h
    intro ev mem
    rw [given] at mem
    obtain ⟨g, member, rfl⟩ := List.mem_map.1 mem
    refine Bool.eq_false_iff.2 ?_
    intro same
    obtain ⟨there, ends⟩ := List.mem_filter.1 member
    have pending : c.resolution? ip = some g := of_decide_eq_true same ▸ mem_visited.1 there
    exact ended ((Option.any_eq_true _ _).2 ⟨g, pending, ends⟩)

theorem paced_tick {h : History} {now : Nat} {order : List Ipv4Addr} {r : Router} (paced : Paced h now [] r) :
    Paced (h ++ stamped now (abandonments (r.arp.tickProgress now order))) now (owing (r.arp.tickProgress now order))
      { r with arp := r.arp.tick now } := by
  have pace : ∀ ip, Pace now (questions ip h) (round ip h) (r.arp.resolution? ip) (r.arp.neighbour? ip) := by
    intro ip
    simpa [debt_nil] using paced.pace ip
  refine ⟨?_, holds_tick paced.holds now, measured_append.2 ⟨paced.measured, ?_⟩⟩
  · intro ip
    rw [debt_tickProgress, questions_mute (mute_abandonments r.arp now order), round_abandonments]
    exact pace_tick (pace ip)
  · rw [Tracks.abandonments_tickProgress]
    refine measured_abandoned ?_ ?_
    · exact distinct_visited.filter _
    · intro g mem
      obtain ⟨member, ends⟩ := List.mem_filter.1 mem
      have here := pace g.ip
      rw [mem_visited.1 member] at here
      exact here.surrender (of_decide_eq_true ends)

theorem port_of_asking {r : Router} (holds : r.Holds) {now : Nat} {order : List Ipv4Addr} {ip : Ipv4Addr}
    {interface : String} (mem : .asking ip interface ∈ r.arp.tickProgress now order) :
    ∃ i, r.interfaces.find? interface = some i := by
  obtain ⟨res, pending, rfl, -⟩ := due_of_asking mem
  exact (holds ip res pending).port

theorem paced_arpTick {h : History} {now : Nat} {order : List Ipv4Addr} {r : Router} (paced : Paced h now [] r) :
    Paced (h ++ stamped now (r.arpTick now order).2) now [] (r.arpTick now order).1 := by
  rw [arpTick, stamped_append, ← List.append_assoc]
  refine paced_followAll (paced_tick paced) ?_
  intro ip interface mem
  exact port_of_asking paced.holds mem

/-! ## Runs -/

/-- What is released goes to the neighbour that was met, and is a datagram. -/
theorem released_of_meet {now : Nat} {r : Router} {mac : Mac} {ip : Ipv4Addr} (holds : r.Holds) {ev : Event}
    (mem : ev ∈ (r.meet now mac ip).2) :
    ∃ d, ev = .released d mac ∧ d.nextHop = ip ∧ d.frame.etherType = etherTypeIpv4 := by
  obtain ⟨d, member, rfl⟩ := List.mem_map.1 mem
  obtain ⟨res, pending, member⟩ := List.mem_flatMap.1 member
  obtain ⟨frame, waits, rfl⟩ := List.mem_map.1 member
  have pending := Option.mem_toList.1 pending
  exact ⟨_, rfl, ip_of_resolution pending, (holds ip res pending).datagrams frame waits⟩

theorem mute_meet {now : Nat} {r : Router} {mac : Mac} {ip : Ipv4Addr} (holds : r.Holds) :
    Mute (r.meet now mac ip).2 := by
  intro ev mem
  obtain ⟨d, rfl, -, datagram⟩ := released_of_meet holds mem
  exact EthernetFrame.asksFor?_datagram datagram

theorem paced_meet {h : History} {now : Nat} {r : Router} (paced : Paced h now [] r) (mac : Mac) (ip : Ipv4Addr) :
    Paced (h ++ stamped now (r.meet now mac ip).2) now [] (r.meet now mac ip).1 := by
  have mute : Mute (r.meet now mac ip).2 := mute_meet paced.holds
  refine ⟨?_, holds_learn paced.holds mac ip now, measured_append.2 ⟨paced.measured, measured_mute mute ?_ h⟩⟩
  · intro other
    have here := paced.pace other
    rw [debt_nil, List.append_nil, List.append_nil] at here ⊢
    rw [questions_mute mute]
    by_cases same : ip = other
    · subst same
      have ended : round ip (h ++ stamped now (r.meet now mac ip).2) = [] := by
        cases pending : r.arp.resolution? ip with
        | none => exact round_eq_nil mute (here.idle pending).1
        | some res =>
          obtain ⟨frame, some⟩ := List.exists_mem_of_ne_nil _ (paced.holds ip res pending).waiting
          have released : Event.released ⟨res.interface, res.ip, frame⟩ mac ∈ (r.meet now mac ip).2 := by
            refine List.mem_map_of_mem (List.mem_flatMap.2 ⟨res, Option.mem_toList.2 pending, ?_⟩)
            exact List.mem_map_of_mem some
          exact round_of_ends mute released (by simp [Event.ends, ip_of_resolution pending]) h
      have learned := here.learned mac ip
      rw [ended]
      simpa [meet, r.arp.resolution?_learn now, neighbour?_learn] using learned
    · have goesOn : ∀ ev ∈ (r.meet now mac ip).2, ev.ends other = false := by
        intro ev mem
        obtain ⟨d, rfl, hop, -⟩ := released_of_meet paced.holds mem
        simp [Event.ends, hop, same]
      rw [round_mute mute goesOn]
      simpa [meet, r.arp.resolution?_learn now, neighbour?_learn, same] using here
  · intro ev mem
    obtain ⟨d, -, rfl⟩ := List.mem_map.1 mem
    rfl

theorem mute_quiet {r s : Router} {now : Nat} {events : List Event} (step : Quiet now r events s) : Mute events := by
  cases step with
  | init => exact mute_of_announced fun t mem => (RipProcess.spoken_of_bootstrap mem).datagram
  | ripTick => exact mute_of_announced fun t mem => (RipProcess.spoken_of_tick mem).datagram
  | rip _ _ _ => exact mute_of_announced fun t mem =>
    (RipProcess.spoken_of_receive (Option.mem_toList.1 mem)).datagram
  | answer answers =>
    intro ev mem
    cases List.mem_singleton.1 mem
    exact EthernetFrame.asksFor?_reply answers

theorem paced_respond {h : History} {now : Nat} {r : Router} (paced : Paced h now [] r) (s : Stimulus) :
    Paced (h ++ stamped now (r.respond now s).2) now [] (r.respond now s).1 := by
  have response := r.respond_cases now s
  generalize (r.respond now s).2 = events, (r.respond now s).1 = after at response
  cases response with
  | nothing => simpa [stamped] using paced
  | quiet step =>
    have mute := mute_quiet step
    obtain ⟨interfaces, arp, sent, rfl⟩ := quiet_spec step
    refine paced.mute mute ?_ ?_ arp interfaces
    · intro ev mem
      obtain ⟨_, -, rfl⟩ := List.mem_map.1 mem
      rfl
    · intro ev mem ip
      obtain ⟨_, -, rfl⟩ := List.mem_map.1 mem
      rfl
  | meet _ _ _ => exact paced_meet paced _ _
  | dispatch hands => exact paced_dispatch paced hands
  | tick => exact paced_arpTick paced

theorem Paced.later {h : History} {now : Nat} {r : Router} (paced : Paced h now [] r) {moment : Nat}
    (le : now ≤ moment) : Paced h moment [] r where
  pace ip := (paced.pace ip).later le
  holds := paced.holds
  measured := paced.measured

theorem paced_history {h : History} {now : Nat} {r : Router} {xs : List (Nat × Stimulus)} (paced : Paced h now [] r)
    (clock : (now :: xs.map Prod.fst).Pairwise (· ≤ ·)) : ∃ last, Paced (h ++ r.history xs) last [] (r.run xs).1 := by
  induction xs generalizing h now r with
  | nil => exact ⟨now, by simpa [history, run] using paced⟩
  | cons x xs ih =>
    obtain ⟨first, later⟩ := List.pairwise_cons.1 clock
    have moment := paced.later (first x.1 (by simp))
    rw [history, run_cons, ← List.append_assoc]
    exact ih (paced_respond moment x.2) later

theorem paced_nil {r : Router} (empty : r.arp = {}) (now : Nat) : Paced [] now [] r where
  pace ip := by
    rw [empty]
    exact .nil now
  holds ip res pending := by
    rw [empty] at pending
    cases pending
  measured := trivial

/-- Over a run that starts with no address known or asked for, and whose clock does not go back, any two questions
about an address are at least a second apart. A resolution never has more than five questions behind it, one under
way has as many as it counts, and one that is given up has five, the last at least a second ago. -/
theorem questions_paced {r : Router} (empty : r.arp = {}) {xs : List (Nat × Stimulus)}
    (clock : (xs.map Prod.fst).Pairwise (· ≤ ·)) (ip : Ipv4Addr) :
    (questions ip (r.history xs)).Pairwise (fun s t => s + 1000 ≤ t) ∧
      (∀ before, before <+: r.history xs → (round ip before).length ≤ 5) ∧
      (∀ res, (r.run xs).1.arp.resolution? ip = some res → res.questions = (round ip (r.history xs)).length) ∧
      ∀ before now given later, r.history xs = before ++ (now, .abandoned given) :: later → given.ip = ip →
        (round ip before).length = 5 ∧ ∃ last, (round ip before).getLast? = some last ∧ last + 1000 ≤ now := by
  have start : (0 :: xs.map Prod.fst).Pairwise (· ≤ ·) := List.pairwise_cons.2 ⟨fun _ _ => Nat.zero_le _, clock⟩
  obtain ⟨last, paced⟩ := paced_history (paced_nil empty 0) start
  rw [List.nil_append] at paced
  have pace := paced.pace ip
  rw [debt_nil, List.append_nil, List.append_nil] at pace
  refine ⟨pace.spaced, ?_, ?_, ?_⟩
  · intro before early
    exact length_round_le paced.measured early (Nat.zero_le _)
  · intro res pending
    exact (pace.counts res pending).number
  · rintro before now given later split rfl
    have measured := paced.measured
    rw [split] at measured
    exact (measured_append.1 measured).2.1.surrender given rfl

def toGateway : Delivery := datagramTo "eth1" (station 1) (station 2) (.ofOctets 8 8 8 8)

def asksGateway : Event :=
  .announced ⟨"eth1", (ArpFrame.request (station 2) (.ofOctets 10 0 1 1) (.ofOctets 10 0 1 9)).toFrame⟩

/-- A datagram for the gateway, ticks until that is given up, and another datagram at that very moment. -/
def unanswered : List (Nat × Stimulus) :=
  [(0, .frame toSecond), (1000, .arpTick []), (2000, .arpTick []), (3000, .arpTick []), (4000, .arpTick []),
    (5000, .arpTick []), (5000, .frame toSecond)]

/-- The router after as many ticks without an answer. -/
def unansweredFor : Nat → Router
  | 0 => { gatewayRouter with arp := (gatewayRouter.arp.await toGateway 0).1 }
  | k + 1 => ((unansweredFor k).arpTick (1000 * (k + 1)) []).1

def givenGateway : Resolution := ⟨.ofOctets 10 0 1 9, "eth1", some 4000, 5, [toGateway.frame]⟩

theorem arpTick_of_abandoned {r : Router} {now : Nat} {order : List Ipv4Addr} {given : Resolution}
    (ends : r.arp.tickProgress now order = [.abandoned given]) (silent : r.regrets given = []) :
    r.arpTick now order = ({ r with arp := r.arp.tick now }, [.abandoned given]) := by
  have silent' : ({ r with arp := r.arp.tick now } : Router).regrets given = [] := silent
  rw [arpTick, ends, followAll, follow, silent', dispatch_nil]
  rfl

theorem history_unanswered : gatewayRouter.history unanswered =
    [(0, .queued toGateway), (0, asksGateway), (1000, asksGateway), (2000, asksGateway), (3000, asksGateway),
      (4000, asksGateway), (5000, .abandoned givenGateway), (5000, .queued toGateway), (5000, asksGateway)] := by
  have first : gatewayRouter.respond 0 (.frame toSecond) = (unansweredFor 0, [.queued toGateway, asksGateway]) := by
    rw [handle_of_forwards forwards_toSecond, dispatch_unknown (by rfl) (by decide +kernel)]
    exact Prod.ext rfl (by decide +kernel)
  have asks1 : (unansweredFor 0).respond 1000 (.arpTick []) = (unansweredFor 1, [asksGateway]) :=
    Prod.ext rfl (by decide +kernel)
  have asks2 : (unansweredFor 1).respond 2000 (.arpTick []) = (unansweredFor 2, [asksGateway]) :=
    Prod.ext rfl (by decide +kernel)
  have asks3 : (unansweredFor 2).respond 3000 (.arpTick []) = (unansweredFor 3, [asksGateway]) :=
    Prod.ext rfl (by decide +kernel)
  have asks4 : (unansweredFor 3).respond 4000 (.arpTick []) = (unansweredFor 4, [asksGateway]) :=
    Prod.ext rfl (by decide +kernel)
  have ends : (unansweredFor 4).respond 5000 (.arpTick []) =
      ({ unansweredFor 4 with arp := (unansweredFor 4).arp.tick 5000 }, [.abandoned givenGateway]) :=
    arpTick_of_abandoned (by decide +kernel) (by decide +kernel)
  have forwards :
      ({ unansweredFor 4 with arp := (unansweredFor 4).arp.tick 5000 } : Router).Forwards toSecond toGateway :=
    ⟨_, datagram (.ofOctets 8 8 8 8), rfl, by decide +kernel, by decide +kernel⟩
  have again : (({ unansweredFor 4 with arp := (unansweredFor 4).arp.tick 5000 } : Router).respond 5000
      (.frame toSecond)).2 = [.queued toGateway, asksGateway] := by
    rw [handle_of_forwards forwards, dispatch_unknown (by rfl) (by decide +kernel)]
    decide +kernel
  simp only [unanswered, history, first, asks1, asks2, asks3, asks4, ends, again]
  rfl

/-- The gateway is asked for five times before it is given up, and again no sooner than its turn. -/
theorem unanswered_paced : gatewayRouter.arp = {} ∧ (unanswered.map Prod.fst).Pairwise (· ≤ ·) ∧
    questions (.ofOctets 10 0 1 9) (gatewayRouter.history unanswered) = [0, 1000, 2000, 3000, 4000, 5000] ∧
    [0, 1000, 2000, 3000, 4000, 5000].Pairwise (fun s t => s + 1000 ≤ t) ∧
    ∃ last, (round (.ofOctets 10 0 1 9) ((gatewayRouter.history unanswered).take 6)).getLast? = some last ∧
      last + 1000 ≤ 5000 := by
  have clock : (unanswered.map Prod.fst).Pairwise (· ≤ ·) := by decide
  have asked :
      questions (.ofOctets 10 0 1 9) (gatewayRouter.history unanswered) = [0, 1000, 2000, 3000, 4000, 5000] := by
    rw [history_unanswered]
    decide +kernel
  obtain ⟨spaced, -, -, given⟩ := questions_paced (r := gatewayRouter) rfl clock (.ofOctets 10 0 1 9)
  have split : gatewayRouter.history unanswered = (gatewayRouter.history unanswered).take 6 ++
      (5000, .abandoned givenGateway) :: (gatewayRouter.history unanswered).drop 7 := by
    rw [history_unanswered]
    rfl
  exact ⟨rfl, clock, asked, asked ▸ spaced, (given _ _ _ _ split rfl).2⟩

end Router

end SoftRouter
