import SoftRouter.Proofs.Buffer.Wording
import SoftRouter.Proofs.Drain
import SoftRouter.Proofs.Owing
import SoftRouter.Proofs.Soundness

/-!
# Datagrams given up

Giving up an address accounts for every datagram that waited for it. None of them is ever sent, and none is given up
again (`GivenUpFor`). The source of each is told so once, in the order in which they waited, if it is not the router's
own address, there is a route to it and something may be reported about the datagram (`Regretted`); and nobody is told
so otherwise (`regretted_once`).
-/

namespace SoftRouter

open Journal NeighbourCache

namespace Router

/-- The source of a datagram can be told that it was given up. -/
structure Answerable (r : Router) (about : Ipv4Packet) : Prop where
  foreign : ¬ r.owns about.src
  route : ∃ route, r.routes.lookup about.src = some route
  packet : ∀ src, (Notice.hostUnreachable.packet? about src).isSome

/-- The delivery tells the source of a datagram that it was given up, by the route there, with a notice that comes from
the interface of that route. -/
def Regret (r : Router) (about : Ipv4Packet) (d : Delivery) : Prop :=
  ∃ route i packet, r.routes.lookup about.src = some route ∧ r.interfaces.find? route.interface = some i ∧
    Notice.hostUnreachable.packet? about i.ip = some packet ∧ Notice.hostUnreachable.WellFormed about i.ip packet ∧
    d = ⟨i.name, route.nextHop about.src, { EthernetFrame.carrying packet with src := i.mac }⟩

/-- The frames carry datagrams, and the sources of those that can be told are told in their order. -/
def Regretted (r : Router) (frames : List EthernetFrame) (told : List Delivery) : Prop :=
  ∃ abouts : List Ipv4Packet, frames.map Ipv4Packet.ofFrame = abouts.map .ok ∧
    told = abouts.filterMap (r.noticeDelivery? .hostUnreachable) ∧
    ∀ about ∈ abouts, ((∃ d, r.noticeDelivery? .hostUnreachable about = some d) ↔ r.Answerable about) ∧
      ∀ d, r.noticeDelivery? .hostUnreachable about = some d → r.Regret about d

/-- What waits for an address that is given up is given up, and so it stays. -/
structure GivenUpFor (given : Resolution) (past later : List Event) : Prop where
  frames : (waitingFor (record [] past) given.ip).map (·.delivery.frame) = given.waiting
  stays : ∀ (k : Nat) (e : Entry), (record [] past)[k]? = some e → e.waitsFor given.ip →
    ∀ next rest, later = next ++ rest →
      (record [] (past ++ .abandoned given :: next))[k]? = some { e with fate := .givenUp }

variable {r : Router} {now : Nat}

theorem givenUpFor_of_orderly {given : Resolution} {past later : List Event}
    (orderly : Orderly [] (past ++ .abandoned given :: later)) : GivenUpFor given past later where
  frames := (orderly_append.1 orderly).2.1
  stays := by
    rintro k e found waits next rest rfl
    have settled : (note (record [] past) (.abandoned given))[k]? = some { e with fate := .givenUp } := by
      simp [note, settleAll, found, waits]
    obtain ⟨last, found', becomes⟩ := record_becomes settled next
    rw [record_append, record_cons, found', becomes.settled (by simp)]

/-- All that is handed over carries packets. -/
theorem reads_of_handed {s : Stimulus} {ev : Event} {d : Delivery} (mem : ev ∈ (r.respond now s).2)
    (hands : ev.handed? = some d) : ∃ p, Ipv4Packet.ofFrame d.frame = .ok p := by
  rcases handed_iff.1 ⟨ev, mem, hands⟩ with ⟨received, -, i, p, -, read, verdict⟩ | ⟨n, about, calls, due⟩
  · obtain ⟨packet, live, -⟩ := (sound_forward read verdict).live
    exact ⟨packet, live⟩
  · obtain ⟨packet, read, -⟩ := reads_notice due (fits_of_calls calls)
    exact ⟨packet, read⟩

/-- What is given up in an orderly log was handed over in it. -/
theorem GivenUpFor.handed {given : Resolution} {past later : List Event} (givenUp : GivenUpFor given past later)
    {frame : EthernetFrame} (mem : frame ∈ given.waiting) :
    ∃ ev ∈ past, ∃ d, ev.handed? = some d ∧ d.frame = frame := by
  rw [← givenUp.frames] at mem
  obtain ⟨e, waits, rfl⟩ := List.mem_map.1 mem
  have deliveries := map_delivery_record [] past
  rw [List.map_nil, List.nil_append] at deliveries
  have handed : e.delivery ∈ past.filterMap Event.handed? :=
    deliveries ▸ List.mem_map_of_mem (List.mem_filter.1 waits).1
  obtain ⟨ev, there, hands⟩ := List.mem_filterMap.1 handed
  exact ⟨ev, there, e.delivery, hands, rfl⟩

theorem isSome_packet?_iff {about : Ipv4Packet} (src : Ipv4Addr) :
    (Notice.hostUnreachable.packet? about src).isSome ↔ about.isReportable := by
  rw [Notice.packet?, Notice.body?, if_pos (by rfl), Option.isSome_map]
  split <;> simp_all

theorem exists_regret_iff (sound : r.Sound) (about : Ipv4Packet) :
    (∃ d, r.noticeDelivery? .hostUnreachable about = some d) ↔ r.Answerable about := by
  rw [exists_report_iff sound (by rfl)]
  constructor
  · rintro ⟨first, host, foreign, wayBack, harmless⟩
    have reportable := Ipv4Packet.isReportable_iff.2 ⟨first, host, harmless⟩
    exact ⟨foreign, wayBack, fun src => (isSome_packet?_iff src).2 reportable⟩
  · rintro ⟨foreign, wayBack, packet⟩
    obtain ⟨first, host, harmless⟩ := Ipv4Packet.isReportable_iff.1 ((isSome_packet?_iff about.dest).1 (packet _))
    exact ⟨first, host, foreign, wayBack, harmless⟩

theorem regret_of_due {about : Ipv4Packet} (fits : about.Fits) {d : Delivery}
    (due : r.noticeDelivery? .hostUnreachable about = some d) : r.Regret about d := by
  obtain ⟨-, route, i, packet, matched, port, said, same⟩ := noticeDelivery?_eq_some_iff.1 due
  exact ⟨route, i, packet, matched, port, said, Notice.wellFormed_of_packet? said fits, same⟩

theorem exists_packets {frames : List EthernetFrame}
    (reads : ∀ frame ∈ frames, ∃ p, Ipv4Packet.ofFrame frame = .ok p) :
    ∃ abouts : List Ipv4Packet, frames.map Ipv4Packet.ofFrame = abouts.map .ok := by
  induction frames with
  | nil => exact ⟨[], rfl⟩
  | cons frame rest ih =>
    obtain ⟨⟨about, read⟩, others⟩ := List.forall_mem_cons.1 reads
    obtain ⟨abouts, same⟩ := ih others
    exact ⟨about :: abouts, by rw [List.map_cons, List.map_cons, read, same]⟩

theorem regretted_of_reads (sound : r.Sound) {given : Resolution}
    (reads : ∀ frame ∈ given.waiting, ∃ p, Ipv4Packet.ofFrame frame = .ok p) :
    r.Regretted given.waiting (r.regrets given) := by
  obtain ⟨abouts, same⟩ := exists_packets reads
  refine ⟨abouts, same, ?_, ?_⟩
  · have step : r.regrets given = (given.waiting.map Ipv4Packet.ofFrame).filterMap fun read =>
        read.toOption.bind (r.noticeDelivery? .hostUnreachable) := by
      rw [List.filterMap_map]
      rfl
    rw [step, same, List.filterMap_map]
    rfl
  · intro about mem
    have read : Except.ok about ∈ given.waiting.map Ipv4Packet.ofFrame := same ▸ List.mem_map_of_mem mem
    obtain ⟨frame, -, read⟩ := List.mem_map.1 read
    exact ⟨exists_regret_iff sound about, fun d due => regret_of_due (Ipv4Packet.fits_of_ofFrame read) due⟩

theorem judgeLocal_ne_hostUnreachable (p about : Ipv4Packet) : judgeLocal p ≠ .notify .hostUnreachable about := by
  unfold judgeLocal
  split
  · simp
  · simp
  · split
    · split
      · simp
      · simp
    · simp
  · simp

/-- No verdict on a packet calls for telling that it was given up. -/
theorem judge_ne_hostUnreachable {i : Interface} {dest : Mac} {p about : Ipv4Packet} :
    r.judge i dest p ≠ .notify .hostUnreachable about := by
  unfold judge
  split
  · simp
  split
  · simp
  split
  · simp
  split
  · exact judgeLocal_ne_hostUnreachable p.aged about
  · rcases judgeTransit_cases r i dest p.aged with ignored | notified | ⟨d, forwarded⟩
    · simp [ignored]
    · simp [notified]
    · simp [forwarded]

/-- In whatever state a router has come to be, its response to anything accounts for every address that it gives up.
What is given up is a resolution that was overdue, with all that waited for it by then, none of which is sent in any
run that goes on from there. Of what is handed over in the response, there is for each of these datagrams whose source
can be told just one notice, and for the others none, in the order in which the datagrams waited; and besides what is
handed over so there is only what the stimulus calls for itself, which is no such notice. -/
theorem regretted_once {interfaces : InterfaceTable} {routes : RouteTable}
    (created : Router.make interfaces routes = .ok r) (xs : List (Nat × Stimulus)) (now : Nat) (s : Stimulus) :
    (∀ zs, (transmissions (r.run zs).2).Perm ((r.run zs).2.filterMap Event.announced? ++ sent (r.journal zs))) ∧
    (∀ received about, (r.run xs).1.verdict? received ≠ some (.notify .hostUnreachable about)) ∧
    ∃ noted : Noted Event, noted.map Prod.snd = ((r.run xs).1.respond now s).2 ∧ (r.run xs).1.Accounted s noted ∧
      ∀ before cause given after, noted = before ++ (cause, .abandoned given) :: after →
        (r.run xs).1.Regretted given.waiting (paidFor (some given.ip) after) ∧
        (∃ pending more, (r.run xs).1.arp.Overdue now given.ip pending ∧
          given = { pending with waiting := pending.waiting ++ more }) ∧
        ∀ ys, ∃ past later, past = (r.run xs).2 ++ before.map Prod.snd ∧
          (r.run (xs ++ (now, s) :: ys)).2 = past ++ .abandoned given :: later ∧ GivenUpFor given past later := by
  obtain ⟨noted, events, accounted⟩ := accounted_respond (r.run xs).1 now s
  refine ⟨transmissions_perm created, ?_, noted, events, accounted, ?_⟩
  · intro received about verdict
    obtain ⟨i, p, -, -, judged⟩ := verdict?_eq_some_iff.1 verdict
    exact judge_ne_hostUnreachable judged
  rintro before cause given after split
  have response : ((r.run xs).1.respond now s).2 =
      before.map Prod.snd ++ .abandoned given :: after.map Prod.snd := by
    rw [← events, split, List.map_append, List.map_cons]
  have log (ys : List (Nat × Stimulus)) : (r.run (xs ++ (now, s) :: ys)).2 =
      ((r.run xs).2 ++ before.map Prod.snd) ++ .abandoned given ::
        (after.map Prod.snd ++ (((r.run xs).1.respond now s).1.run ys).2) := by
    rw [run_append, run_cons, response]
    simp only [List.append_assoc, List.cons_append]
  have givenUp (ys : List (Nat × Stimulus)) :=
    givenUpFor_of_orderly (log ys ▸ orderly_run created (xs ++ (now, s) :: ys))
  refine ⟨?_, ?_, fun ys => ⟨_, _, rfl, log ys, givenUp ys⟩⟩
  · rw [(accounted.given before cause given after split).2]
    refine regretted_of_reads (run_stays (sound_of_make created) xs).sound ?_
    intro frame mem
    obtain ⟨ev, there, d, hands, rfl⟩ := (givenUp []).handed mem
    have logged : ev ∈ (r.run (xs ++ [(now, s)])).2 := by
      rw [log []]
      exact List.mem_append_left _ there
    obtain ⟨zs, then', s', -, -, there⟩ := respond_of_run logged
    exact reads_of_handed there hands
  · have gives : given ∈ ((r.run xs).1.respond now s).2.filterMap Event.given? := by
      rw [response, List.filterMap_append, List.filterMap_cons_some (by rfl)]
      exact List.mem_append_right _ List.mem_cons_self
    obtain ⟨pending, more, overdue, same⟩ := (spends_respond (r.run xs).1 now s).due given gives
    exact ⟨pending, more, overdue, same⟩

def silence : List (Nat × Stimulus) :=
  [(0, .frame toSecond), (1000, .arpTick []), (2000, .arpTick []), (3000, .arpTick []), (4000, .arpTick [])]

def toSilent : Delivery := datagramTo "eth1" (station 1) (station 2) (.ofOctets 8 8 8 8)

/-- The router with a way back, after as many ticks without an answer from the gateway. -/
def silentFor : Nat → Router
  | 0 => { withWayBack with arp := (withWayBack.arp.await toSilent 0).1 }
  | k + 1 => ((silentFor k).arpTick (1000 * (k + 1)) []).1

def givenSilent : Resolution := ⟨.ofOctets 10 0 1 9, "eth1", some 4000, 5, [toSilent.frame]⟩

theorem run_silence : (withWayBack.run silence).1 = silentFor 4 := by
  have forwards : withWayBack.Forwards toSecond toSilent :=
    ⟨_, datagram (.ofOctets 8 8 8 8), rfl, by decide +kernel, by decide +kernel⟩
  have first : (withWayBack.respond 0 (.frame toSecond)).1 = silentFor 0 := by
    rw [handle_of_forwards forwards, dispatch_unknown (by rfl) (by decide +kernel)]
    rfl
  rw [silence, run_cons, first]
  rfl

/-- The source of the datagram is told, and the datagram is not sent. -/
theorem silence_regretted : ∃ noted before cause after d,
    noted.map Prod.snd = ((withWayBack.run silence).1.respond 5000 (.arpTick [])).2 ∧
      noted = before ++ (cause, .abandoned givenSilent) :: after ∧
      paidFor (some givenSilent.ip) after = [d] ∧ d.interface = "eth0" ∧ d.nextHop = .ofOctets 10 0 0 7 ∧
      ∃ (k : Nat) (e : Entry), (withWayBack.journal (silence ++ [(5000, .arpTick [])]))[k]? = some e ∧
        e.fate = .givenUp ∧ e.delivery.frame = toSilent.frame := by
  have created : Router.make twoPorts withWayBack.routes = .ok withWayBack := rfl
  have ends : .abandoned givenSilent ∈ ((withWayBack.run silence).1.respond 5000 (.arpTick [])).2 := by
    have progress : (silentFor 4).arp.tickProgress 5000 [] = [.abandoned givenSilent] := by decide +kernel
    rw [run_silence]
    show _ ∈ abandonments ((silentFor 4).arp.tickProgress 5000 []) ++ _
    rw [progress]
    exact List.mem_append_left _ List.mem_cons_self
  have back : ((silentFor 4).regrets givenSilent).map (fun d => (d.interface, d.nextHop)) =
      [("eth0", .ofOctets 10 0 0 7)] := by decide +kernel
  obtain ⟨-, -, noted, events, accounted, each⟩ := regretted_once created silence 5000 (.arpTick [])
  obtain ⟨⟨cause, _⟩, mem, rfl⟩ := List.mem_map.1 (events ▸ ends)
  obtain ⟨before, after, split⟩ := List.append_of_mem mem
  have paid := (accounted.given before cause givenSilent after split).2
  rw [run_silence] at paid
  obtain ⟨d, one, there⟩ := List.map_eq_singleton_iff.1 back
  obtain ⟨port, hop⟩ := Prod.mk.inj there
  -- The datagram is the only one that waits, so its entry is found among those given up.
  obtain ⟨-, -, lost⟩ := each before cause givenSilent after split
  obtain ⟨past, later, -, log, givenUp⟩ := lost []
  obtain ⟨e, waiting, frame⟩ := List.map_eq_singleton_iff.1 givenUp.frames
  obtain ⟨member, waits⟩ := List.mem_filter.1 (waiting ▸ List.mem_cons_self : e ∈ waitingFor (record [] past) _)
  obtain ⟨k, found⟩ := List.getElem?_of_mem member
  have gone := givenUp.stays k e found waits later [] (List.append_nil later).symm
  rw [← log] at gone
  exact ⟨noted, before, cause, after, d, events, split, paid.trans one, port, hop, k, _, gone, rfl, frame⟩

end Router

end SoftRouter
