import SoftRouter.Proofs.Forwarding

/-!
# The interface a frame leaves by

Whatever the router hands over for a next hop comes from the interface of its route, with the address of that
interface as its source. A frame sent at once leaves by that interface. One that waited leaves by the interface on
which its next hop was asked for, which is that of the frame that waited longest: the two are the same exactly when
the frames agree (`Journal.agrees_iff`).
-/

namespace SoftRouter

open Journal

/-- The frame comes from an interface of the table. -/
def Delivery.Addressed (d : Delivery) (interfaces : InterfaceTable) : Prop :=
  ∃ egress, interfaces.find? d.interface = some egress ∧ d.frame.src = egress.mac

/-- No frame waits for the next hop of the delivery, or the one that waits longest leaves by the same interface. -/
def Journal.Agrees (j : Journal) (d : Delivery) : Prop :=
  ∀ e ∈ (waitingFor j d.nextHop).head?, e.delivery.interface = d.interface

theorem Journal.agrees_iff {j : Journal} {d : Delivery} : j.Agrees d ↔ askedOn j d = d.interface := by
  unfold Agrees askedOn
  cases waitingFor j d.nextHop <;> simp

namespace Router

theorem addressed_of_find? {interfaces : InterfaceTable} {name : String} {i : Interface}
    (port : interfaces.find? name = some i) : interfaces.find? i.name = some i := by
  have key : i.name = name := Keyed.key_of_find? port
  rw [key, port]

/-- What the router makes comes from one of its interfaces. -/
theorem hands_addressed {r : Router} {d : Delivery} (hands : r.Hands d) : d.Addressed r.interfaces := by
  cases hands with
  | forward forwards =>
    obtain ⟨p, route, egress, accepts, rfl⟩ := accepts_of_forwards forwards
    exact ⟨egress, addressed_of_find? accepts.port, rfl⟩
  | @notice n about _ due =>
    obtain ⟨route, i, packet, port, -, rfl⟩ := notice_spec due
    exact ⟨i, addressed_of_find? port, rfl⟩

theorem forwards_elsewhere {r : Router} {received : Transmission} {d : Delivery} (forwards : r.Forwards received d) :
    d.interface ≠ received.interface := by
  obtain ⟨p, route, egress, accepts, rfl⟩ := accepts_of_forwards forwards
  have key : egress.name = route.interface := Keyed.key_of_find? accepts.port
  show egress.name ≠ received.interface
  exact key.symm ▸ accepts.elsewhere

theorem announced_handed? {sent : List Transmission} {ev : Event} (mem : ev ∈ sent.map .announced) :
    ev.handed? = none := by
  obtain ⟨_, -, rfl⟩ := List.mem_map.1 mem
  rfl

theorem outcome_handed? {r : Router} {p : Progress} {ev : Event} (mem : ev ∈ r.outcome p) : ev.handed? = none := by
  cases p with
  | waiting => cases mem
  | asking ip interface =>
    obtain ⟨sent, asks⟩ := r.question_spec ip interface
    rw [outcome, asks] at mem
    exact announced_handed? mem
  | abandoned given =>
    cases List.mem_singleton.1 mem
    rfl

theorem act_hands {r s : Router} {now : Nat} {events : List Event} (step : Act now r events s) {ev : Event}
    (mem : ev ∈ events) {d : Delivery} (handed : ev.handed? = some d) : r.Hands d := by
  cases step with
  | handover step =>
    cases step with
    | known hands _ =>
      cases List.mem_singleton.1 mem
      cases handed
      exact hands
    | unknown hands _ =>
      rcases List.mem_cons.1 mem with rfl | mem
      · cases handed
        exact hands
      · cases (outcome_handed? mem).symm.trans handed
  | quiet step =>
    obtain ⟨-, -, sent, rfl⟩ := quiet_spec step
    cases (announced_handed? mem).symm.trans handed
  | meet _ _ _ =>
    obtain ⟨_, -, rfl⟩ := List.mem_map.1 mem
    cases handed
  | tick =>
    obtain ⟨given, rfl⟩ := abandoned_of_mem mem
    cases handed
  | ask ip interface =>
    obtain ⟨sent, asks⟩ := r.question_spec ip interface
    cases (announced_handed? (asks ▸ mem)).symm.trans handed

/-- Whatever is handed over during a run comes from an interface of the router. -/
theorem handed_addressed (r : Router) (xs : List (Nat × Stimulus)) :
    ∀ ev ∈ (r.run xs).2, ∀ d, ev.handed? = some d → d.Addressed r.interfaces := by
  refine (run_log_keeps (fun log s => s.interfaces = r.interfaces ∧
    ∀ ev ∈ log, ∀ d, ev.handed? = some d → d.Addressed r.interfaces) ?_ ⟨rfl, by simp⟩ xs).2
  intro log s events t now inv step
  refine ⟨(act_interfaces step).trans inv.1, ?_⟩
  intro ev mem d handed
  rcases List.mem_append.1 mem with mem | mem
  · exact inv.2 ev mem d handed
  · exact inv.1 ▸ hands_addressed (act_hands step mem handed)

/-- A frame handed over during a run comes from the interface it is to leave by, with the address of that interface
as its source, and keeps both in the journal. It is sent on that interface exactly when it agrees with the frame
that waits longest for the same next hop. -/
theorem sent_by_own_interface_iff {interfaces : InterfaceTable} {routes : RouteTable} {r : Router}
    (created : Router.make interfaces routes = .ok r) {xs : List (Nat × Stimulus)} {before later : List Event}
    {ev : Event} {d : Delivery} (log : (r.run xs).2 = before ++ ev :: later) (handed : ev.handed? = some d) :
    ∃ egress e, interfaces.find? d.interface = some egress ∧ d.frame.src = egress.mac ∧
      (∀ s received, Forwards s received d → d.interface ≠ received.interface) ∧
      (r.journal xs)[(record [] before).length]? = some e ∧ e.delivery = d ∧
      ∀ out, e.fate = .sent out → out ∈ transmissions (r.run xs).2 ∧ out.frame.src = egress.mac ∧
        out.interface = askedOn (record [] before) d ∧
        (out.interface = d.interface ↔ (record [] before).Agrees d) := by
  have same : r.interfaces = interfaces := by rw [eq_of_make created]
  have mem : ev ∈ (r.run xs).2 := by
    rw [log]
    exact List.mem_append_right before List.mem_cons_self
  obtain ⟨egress, port, src⟩ := handed_addressed r xs ev mem d handed
  obtain ⟨e, found, delivery, asked⟩ := entry_of_handed (record [] before) handed later
  rw [← record_append, ← log] at found
  refine ⟨egress, e, same ▸ port, src, ?_, found, delivery, ?_⟩
  · intro s received forwards
    exact forwards_elsewhere forwards
  · intro out sent
    obtain ⟨transmitted, mac, rfl⟩ := sent_spec created found sent
    exact ⟨transmitted, delivery ▸ src, asked, Journal.agrees_iff.trans (asked ▸ Iff.rfl) |>.symm⟩

def toFirst : Transmission := datagramOn "eth1" (station 2) (.ofOctets 9 9 9 9)

/-- A datagram for either network, and then the gateway makes itself known. -/
def crossing : List (Nat × Stimulus) := [(0, .frame toSecond), (1, .frame toFirst), (2, .frame gatewayReply)]

def crossed : Delivery := datagramTo "eth0" (station 2) (station 1) (.ofOctets 9 9 9 9)

theorem run_toSecond : (gatewayRouter.run [(0, .frame toSecond)]).1 = { gatewayRouter with
    arp := (gatewayRouter.arp.await (datagramTo "eth1" (station 1) (station 2) (.ofOctets 8 8 8 8)) 0).1 } := by
  rw [run, handle_of_forwards forwards_toSecond, dispatch_unknown (by rfl) (by decide +kernel)]
  rfl

theorem forwards_toFirst : (gatewayRouter.run [(0, .frame toSecond)]).1.Forwards toFirst crossed := by
  rw [run_toSecond]
  exact ⟨_, datagram (.ofOctets 9 9 9 9), rfl, by decide +kernel, by decide +kernel⟩

theorem journal_toSecond : gatewayRouter.journal [(0, .frame toSecond)] =
    [⟨datagramTo "eth1" (station 1) (station 2) (.ofOctets 8 8 8 8), "eth1", .waiting⟩] := by
  rw [journal, run_cons, handle_of_forwards forwards_toSecond, dispatch_unknown (by rfl) (by decide +kernel)]
  decide +kernel

theorem log_crossing : (gatewayRouter.run crossing).2 = (gatewayRouter.run [(0, .frame toSecond)]).2 ++
    [.queued crossed,
      .released (datagramTo "eth1" (station 1) (station 2) (.ofOctets 8 8 8 8)) (station 9),
      .released { crossed with interface := "eth1" } (station 9)] := by
  have second := handle_of_forwards forwards_toFirst 1
  rw [run_toSecond, dispatch_unknown (by rfl) (by decide +kernel)] at second
  rw [crossing, ← List.singleton_append, run_append, run_toSecond, run_cons, second]
  refine congrArg ((gatewayRouter.run [(0, .frame toSecond)]).2 ++ ·) ?_
  decide +kernel

theorem journal_crossing : (gatewayRouter.journal crossing)[1]? =
    some ⟨crossed, "eth1", .sent ⟨"eth1", { crossed.frame with dest := station 9 }⟩⟩ := by
  rw [journal, log_crossing, record_append, ← journal, journal_toSecond]
  decide +kernel

/-- The frame is sent with the address of the first port, and would have been sent there if it had not waited behind
a frame for the second. -/
theorem egress_of_crossed : ∃ before later out, (gatewayRouter.run crossing).2 = before ++ .queued crossed :: later ∧
    (gatewayRouter.journal crossing)[1]?.map Entry.fate = some (.sent out) ∧ out.frame.src = station 1 ∧
    (out.interface = "eth0" ↔ (record [] before).Agrees crossed) := by
  obtain ⟨egress, e, -, src, -, found, -, leaves⟩ :=
    sent_by_own_interface_iff gatewayRouter_created log_crossing (d := crossed) rfl
  rw [← journal, journal_toSecond, List.length_singleton] at found
  have fate : e.fate = .sent ⟨"eth1", { crossed.frame with dest := station 9 }⟩ := by
    rw [journal_crossing] at found
    cases found
    rfl
  obtain ⟨-, source, -, own⟩ := leaves _ fate
  exact ⟨_, _, _, log_crossing, by rw [found]; exact congrArg some fate, source.trans src.symm, own⟩

/-- A frame to leave by the first port leaves by the second, on which it came in, with the address of the first. -/
theorem sent_where_it_came_in : (gatewayRouter.run [(0, .frame toSecond)]).1.Forwards toFirst crossed ∧
    crossed.interface = "eth0" ∧ toFirst.interface = "eth1" ∧
    (gatewayRouter.journal crossing)[1]? =
      some ⟨crossed, "eth1", .sent ⟨"eth1", { crossed.frame with dest := station 9 }⟩⟩ ∧
    ⟨"eth1", { crossed.frame with dest := station 9 }⟩ ∈ transmissions (gatewayRouter.run crossing).2 ∧
    crossed.frame.src = station 1 ∧ (twoPorts.find? "eth1").map Interface.mac = some (station 2) :=
  ⟨forwards_toFirst, rfl, rfl, journal_crossing, (sent_spec gatewayRouter_created journal_crossing rfl).1, rfl,
    by decide +kernel⟩

end Router

end SoftRouter
