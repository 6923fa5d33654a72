import SoftRouter.Proofs.Questions

/-!
# One router asks another

While a resolution is under way, the last question about its address was broadcast on its interface (`inquires_run`).
If the address belongs to another router on that link, that router answers the question to where it came from
(`handle_question`), and the answer ends the resolution: the address is known, and what waited for it goes out
(`exchange_completes`).
-/

namespace SoftRouter

open NeighbourCache History

namespace Router

/-- The last question about the address was broadcast on this interface. -/
def Asked (r : Router) (log : List Event) (ip : Ipv4Addr) (interface : String) : Prop :=
  Since (· ∈ r.question ip interface) (fun ev => ev.asks? ≠ some ip) log

/-- Whatever asks for an address is a question on an interface of the router, and the last one for an address under
way was broadcast on the interface of its resolution. -/
structure Inquires (log : List Event) (r : Router) : Prop where
  holds : r.Holds
  own : ∀ ev ∈ log, ∀ ip, ev.asks? = some ip → ∃ interface, ev ∈ r.question ip interface
  asked : ∀ ip res, r.arp.resolution? ip = some res → r.Asked log ip res.interface

section
variable {r s : Router} {log events : List Event} {ip other : Ipv4Addr} {interface : String}

theorem asks_of_question {ev : Event} (mem : ev ∈ r.question ip interface) : ev.asks? = some ip := by
  obtain ⟨i, -, rfl⟩ := mem_question_iff.1 mem
  exact EthernetFrame.asksFor?_request i.mac i.ip ip

theorem question_congr (ports : s.interfaces = r.interfaces) : s.question ip interface = r.question ip interface := by
  unfold question
  rw [ports]

theorem spares_of_mute (mute : Mute events) (ip : Ipv4Addr) : ∀ ev ∈ events, ev.asks? ≠ some ip := by
  intro ev mem asks
  cases (mute ev mem).symm.trans asks

/-- Questions about one address spare all others. -/
theorem spares_of_ne (apart : ip ≠ other) : ∀ ev ∈ r.question ip interface, ev.asks? ≠ some other := by
  intro ev mem asks
  exact apart (Option.some.inj ((asks_of_question mem).symm.trans asks))

theorem Asked.spared (asked : r.Asked log ip interface) (spares : ∀ ev ∈ events, ev.asks? ≠ some ip)
    (ports : s.interfaces = r.interfaces) : s.Asked (log ++ events) ip interface := by
  unfold Asked
  rw [question_congr ports]
  exact since_append.2 (.inr ⟨asked, spares⟩)

theorem asked_question (port : ∃ i, r.interfaces.find? interface = some i) :
    r.Asked (log ++ r.question ip interface) ip interface := by
  obtain ⟨ev, event, -⟩ := question_eq port ip
  refine since_append.2 (.inl ?_)
  rw [event]
  exact since_singleton.2 List.mem_cons_self

end

section
variable {r s : Router} {log events : List Event} {now : Nat}

theorem Inquires.own_append (inquires : Inquires log r) (ports : s.interfaces = r.interfaces)
    (more : ∀ ev ∈ events, ev.asks? = none ∨ ∃ ip interface, ev ∈ r.question ip interface) :
    ∀ ev ∈ log ++ events, ∀ ip, ev.asks? = some ip → ∃ interface, ev ∈ s.question ip interface := by
  intro ev mem ip asks
  simp only [question_congr ports]
  rcases List.mem_append.1 mem with mem | mem
  · exact inquires.own ev mem ip asks
  · rcases more ev mem with mute | ⟨other, interface, question⟩
    · cases mute.symm.trans asks
    · cases asks.symm.trans (asks_of_question question)
      exact ⟨interface, question⟩

/-- Events that ask for nothing keep this as long as address resolution is left alone. -/
theorem Inquires.mute (inquires : Inquires log r) (mute : Mute events) (arp : s.arp = r.arp)
    (ports : s.interfaces = r.interfaces) : Inquires (log ++ events) s where
  holds := by
    unfold Holds
    rw [arp, ports]
    exact inquires.holds
  own := inquires.own_append ports fun ev mem => .inl (mute ev mem)
  asked ip res pending := by
    rw [arp] at pending
    exact (inquires.asked ip res pending).spared (spares_of_mute mute ip) ports

/-- What a frame that is made to wait leads to asks for nothing, or for its next hop on the interface of the
resolution. -/
theorem mem_outcome_await {d : Delivery} {ev : Event} (mem : ev ∈ .queued d :: r.outcome (r.arp.await d now).2) :
    ev.asks? = none ∨ ev ∈ r.question d.nextHop (r.arp.joined d).interface := by
  rw [r.arp.await_outcome d now] at mem
  rcases List.mem_cons.1 mem with rfl | mem
  · exact .inl rfl
  · cases need : (r.arp.joined d).need now with
    | patience =>
      rw [need] at mem
      cases mem
    | question =>
      rw [need, r.arp.ip_joined d] at mem
      exact .inr mem
    | surrender =>
      rw [need] at mem
      cases List.mem_singleton.1 mem
      exact .inl rfl

/-- The resolution that a frame joins has just asked, or it is the one that asked before. -/
theorem asked_await {d : Delivery} (inquires : Inquires log r) (hands : r.Hands d)
    (goesOn : (r.arp.joined d).need now ≠ .surrender) :
    r.Asked (log ++ .queued d :: r.outcome (r.arp.await d now).2) d.nextHop (r.arp.joined d).interface := by
  rw [r.arp.await_outcome d now]
  cases need : (r.arp.joined d).need now with
  | patience =>
    rcases r.arp.joined_cases d with ⟨-, fresh⟩ | ⟨old, pending, joins⟩
    · rw [fresh, Resolution.need_join, Resolution.need_fresh] at need
      cases need
    · rw [joins]
      refine (inquires.asked _ old pending).spared ?_ rfl
      intro ev mem
      cases List.mem_singleton.1 mem
      exact nofun
  | question =>
    dsimp only [outcome]
    rw [r.arp.ip_joined d, List.append_cons]
    exact asked_question (held_joined inquires.holds hands).port
  | surrender => exact absurd need goesOn

theorem inquires_handover (inquires : Inquires log r) (step : Handover now r events s) :
    Inquires (log ++ events) s := by
  cases step with
  | @known d mac hands found =>
    refine inquires.mute ?_ rfl rfl
    intro ev mem
    cases List.mem_singleton.1 mem
    exact EthernetFrame.asksFor?_datagram (datagram_of_hands hands)
  | @unknown d hands missing =>
    refine ⟨holds_await inquires.holds hands now, inquires.own_append rfl ?_, ?_⟩
    · intro ev mem
      exact (mem_outcome_await mem).imp_right fun question => ⟨_, _, question⟩
    · intro ip res pending
      by_cases hop : d.nextHop = ip
      · subst hop
        rw [r.arp.resolution?_await_self d now] at pending
        split at pending
        · cases pending
        · cases pending
          rw [Resolution.interface_advanced]
          exact asked_await inquires hands ‹_›
      · rw [r.arp.resolution?_await_ne d now hop] at pending
        refine (inquires.asked ip res pending).spared ?_ rfl
        intro ev mem
        rcases mem_outcome_await mem with mute | question
        · simp [mute]
        · exact spares_of_ne hop ev question

theorem inquires_dispatch (inquires : Inquires log r) {work : List Delivery} (hands : ∀ d ∈ work, r.Hands d) :
    Inquires (log ++ (r.dispatch now work).2) (r.dispatch now work).1 :=
  (dispatch_trace hands).keeps Inquires (fun _ _ _ _ => inquires_handover) inquires

theorem inquires_meet (inquires : Inquires log r) (mac : Mac) (ip : Ipv4Addr) :
    Inquires (log ++ (r.meet now mac ip).2) (r.meet now mac ip).1 where
  holds := holds_learn inquires.holds mac ip now
  own := inquires.own_append rfl fun ev mem => .inl (mute_meet inquires.holds ev mem)
  asked other res pending := by
    rw [meet, r.arp.resolution?_learn now mac ip other] at pending
    split at pending
    · cases pending
    · exact (inquires.asked other res pending).spared (spares_of_mute (mute_meet inquires.holds) other) rfl

/-! ## A tick

The questions that a tick decides on go out one by one, and between them notices for which other addresses are asked
for. The resolutions they are about stay under way meanwhile: none of them is due again at the same moment. -/

/-- A resolution for the address is under way on this interface, and has just asked or waits for its turn. -/
def Waits (r : Router) (now : Nat) (ip : Ipv4Addr) (interface : String) : Prop :=
  ∃ res, r.arp.resolution? ip = some res ∧ res.interface = interface ∧ res.need now = .patience

theorem waits_kept (now : Nat) (ip : Ipv4Addr) (interface : String) :
    KeptByWaiting now fun r => r.Waits now ip interface := by
  rintro r d ⟨res, pending, on, patience⟩
  by_cases hop : d.nextHop = ip
  · subst hop
    rcases r.arp.joined_cases d with ⟨none, -⟩ | ⟨old, found, joins⟩
    · cases none.symm.trans pending
    · cases found.symm.trans pending
      have goesOn : (res.join d.frame).need now = .patience := patience
      refine ⟨(res.join d.frame).advanced now, ?_, ?_, Resolution.need_advanced (by simp [goesOn])⟩
      · rw [r.arp.resolution?_await_self d now, joins, if_neg (by simp [goesOn])]
      · rw [Resolution.interface_advanced]
        exact on
  · exact ⟨res, (r.arp.resolution?_await_ne d now hop).trans pending, on, patience⟩

/-- A resolution that a tick makes ask is under way after the tick. -/
theorem waits_tick {order : List Ipv4Addr} {ip : Ipv4Addr} {interface : String}
    (asks : .asking ip interface ∈ r.arp.tickProgress now order) :
    ({ r with arp := r.arp.tick now } : Router).Waits now ip interface := by
  obtain ⟨res, pending, on, need⟩ := due_of_asking asks
  refine ⟨res.advanced now, ?_, (res.interface_advanced now).trans on, Resolution.need_advanced (by simp [need])⟩
  show (r.arp.tick now).resolution? ip = some (res.advanced now)
  rw [r.arp.resolution?_tick now, pending]
  simp [Option.filter, need]

theorem inquires_ask (inquires : Inquires log r) {ip : Ipv4Addr} {interface : String}
    (waits : r.Waits now ip interface) : Inquires (log ++ r.question ip interface) r where
  holds := inquires.holds
  own := inquires.own_append rfl fun ev mem => .inr ⟨ip, interface, mem⟩
  asked other res pending := by
    obtain ⟨old, found, rfl, -⟩ := waits
    by_cases same : ip = other
    · subst same
      cases found.symm.trans pending
      exact asked_question (inquires.holds ip res pending).port
    · exact (inquires.asked other res pending).spared (spares_of_ne same) rfl

theorem inquires_followAll (inquires : Inquires log r) {progress : List Progress}
    (waits : ∀ ip interface, .asking ip interface ∈ progress → r.Waits now ip interface) :
    Inquires (log ++ (r.followAll now progress).2) (r.followAll now progress).1 := by
  -- What has been asked so far is in the log; the questions that are left are about resolutions under way.
  induction progress generalizing log r with
  | nil => simpa [followAll] using inquires
  | cons p rest ih =>
    have first : Inquires (log ++ (r.follow now p).2) (r.follow now p).1 := by
      cases p with
      | waiting => simpa [follow] using inquires
      | asking ip interface => exact inquires_ask inquires (waits ip interface List.mem_cons_self)
      | abandoned given => exact inquires_dispatch inquires fun d mem => hands_regrets mem
    rw [followAll, ← List.append_assoc]
    refine ih first ?_
    intro ip interface mem
    exact follow_keeps (waits_kept now ip interface) (waits ip interface (List.mem_cons_of_mem p mem)) p

theorem inquires_arpTick (inquires : Inquires log r) (order : List Ipv4Addr) :
    Inquires (log ++ (r.arpTick now order).2) (r.arpTick now order).1 := by
  have mute := mute_abandonments r.arp now order
  have ticked : Inquires (log ++ abandonments (r.arp.tickProgress now order)) { r with arp := r.arp.tick now } := by
    refine ⟨holds_tick inquires.holds now, inquires.own_append rfl fun ev mem => .inl (mute ev mem), ?_⟩
    intro ip res pending
    rw [r.arp.resolution?_tick now ip] at pending
    obtain ⟨old, found, rfl⟩ := Option.map_eq_some_iff.1 pending
    rw [Resolution.interface_advanced]
    exact (inquires.asked ip old (Option.filter_eq_some_iff.1 found).1).spared (spares_of_mute mute ip) rfl
  rw [arpTick, ← List.append_assoc]
  exact inquires_followAll ticked fun ip interface => waits_tick

theorem inquires_respond (inquires : Inquires log r) (stimulus : Stimulus) :
    Inquires (log ++ (r.respond now stimulus).2) (r.respond now stimulus).1 := by
  have response := r.respond_cases now stimulus
  generalize (r.respond now stimulus).2 = events, (r.respond now stimulus).1 = after at response
  cases response with
  | nothing => simpa using inquires
  | quiet step =>
    obtain ⟨interfaces, arp, -⟩ := quiet_spec step
    exact inquires.mute (mute_quiet step) arp interfaces
  | meet _ _ _ => exact inquires_meet inquires _ _
  | dispatch hands => exact inquires_dispatch inquires hands
  | tick => exact inquires_arpTick inquires _

end

theorem inquires_run {r : Router} (empty : r.arp = {}) (xs : List (Nat × Stimulus)) :
    Inquires (r.run xs).2 (r.run xs).1 := by
  induction xs using List.reverseRecOn with
  | nil =>
    refine ⟨?_, nofun, ?_⟩
    · intro ip res pending
      rw [run, empty] at pending
      cases pending
    · intro ip res pending
      rw [run, empty] at pending
      cases pending
  | append_singleton xs x ih =>
    rw [run_concat]
    exact inquires_respond ih x.2

/-! ## Question and answer -/

section
variable {r : Router} {i j : Interface} {now : Nat}

/-- A router answers the question about the address of its interface to where it came from, and stays as it is. -/
theorem handle_question (port : r.interfaces.find? j.name = some j) (mac : Mac) (ip : Ipv4Addr) :
    r.handle now j.name (ArpFrame.request mac ip j.ip).toFrame =
      (r, [.announced ⟨j.name, (ArpFrame.ethernetIpv4 .reply mac j.mac j.mac mac j.ip ip).toFrame⟩]) := by
  have read : ArpFrame.ofFrame (ArpFrame.request mac ip j.ip).toFrame = .ok (ArpFrame.request mac ip j.ip) :=
    ArpFrame.ofFrame_ethernetIpv4 _ _ _ _ _ _ _
  have type : (ArpFrame.request mac ip j.ip).toFrame.etherType = etherTypeArp := rfl
  have meant : (ArpFrame.request mac ip j.ip).isEthernetIpv4 ∧
      (ArpFrame.request mac ip j.ip).targetIp? = some j.ip := by
    simp [ArpFrame.request, ArpFrame.ethernetIpv4, ArpFrame.isEthernetIpv4, ArpFrame.targetIp?]
  have asks : (ArpFrame.request mac ip j.ip).op? = some .request := by
    simp [ArpFrame.request, ArpFrame.ethernetIpv4, ArpFrame.op?]
  have reply : (ArpFrame.request mac ip j.ip).replyTo? j.mac j.ip =
      some (ArpFrame.ethernetIpv4 .reply mac j.mac j.mac mac j.ip ip) := by
    simp [ArpFrame.replyTo?, ArpFrame.request, ArpFrame.ethernetIpv4, ArpFrame.isEthernetIpv4, ArpFrame.senderMac?,
      ArpFrame.senderIp?, Except.toOption]
  simp only [handle, port, if_pos type, read, handleArp, if_pos meant, asks, reply]
  rfl

/-- Such an answer tells the interface that asked. -/
theorem told_answer (port : r.interfaces.find? i.name = some i) (dest src mac : Mac) (ip : Ipv4Addr) :
    r.Told ⟨i.name, (ArpFrame.ethernetIpv4 .reply dest src mac i.mac ip i.ip).toFrame⟩ mac ip := by
  refine ⟨i, _, port, ArpFrame.ofFrame_ethernetIpv4 _ _ _ _ _ _ _, ?_⟩
  constructor <;>
    simp [ArpFrame.ethernetIpv4, ArpFrame.isEthernetIpv4, ArpFrame.targetIp?, ArpFrame.op?, ArpFrame.senderMac?,
      ArpFrame.senderIp?, Except.toOption]

/-- A neighbour that makes itself known is sent what waits for it, in the order it came. -/
theorem transmissions_meet {ip : Ipv4Addr} {res : Resolution} (pending : r.arp.resolution? ip = some res) (mac : Mac) :
    transmissions (r.meet now mac ip).2 = res.waiting.map fun f => ⟨res.interface, { f with dest := mac }⟩ := by
  rw [meet, pending]
  simp [transmissions, Resolution.deliveries, Event.transmission?, Delivery.resolved, Function.comp_def]

end

/-- The frames by which `a` learns from `b` on the link of `i` and `j` what it asked for. -/
structure Exchange (log : List Event) (a : Router) (i : Interface) (b : Router) (j : Interface) (res : Resolution)
    (question answer : EthernetFrame) : Prop where
  /-- The last question that `a` broadcast about the address of `j` is this one, on `i`. -/
  asked : Since (· = .announced ⟨i.name, question⟩) (fun ev => ev.asks? ≠ some j.ip) log
  /-- All questions about the address that `a` ever broadcast on `i` are the same frame. -/
  alike : ∀ out ∈ transmissions log, out.interface = i.name → out.frame.asksFor? = some j.ip → out.frame = question
  answered : ∀ now, b.handle now j.name question = (b, [.announced ⟨j.name, answer⟩])
  known : ∀ now, (a.handle now i.name answer).1.arp.mac? j.ip = some j.mac
  ended : ∀ now, (a.handle now i.name answer).1.arp.resolution? j.ip = none
  released : ∀ now, transmissions (a.handle now i.name answer).2 =
    res.waiting.map fun f => ⟨i.name, { f with dest := j.mac }⟩

theorem exchange_completes {interfaces : InterfaceTable} {routes : RouteTable} {a b : Router}
    (created : Router.make interfaces routes = .ok a) (xs : List (Nat × Stimulus)) {i j : Interface}
    (port : interfaces.find? i.name = some i) (peer : b.interfaces.find? j.name = some j) {res : Resolution}
    (pending : (a.run xs).1.arp.resolution? j.ip = some res) (egress : res.interface = i.name) :
    ∃ question answer, Exchange (a.run xs).2 (a.run xs).1 i b j res question answer := by
  have start := eq_of_make created
  have inquires := inquires_run (r := a) (by rw [start]) xs
  have here : (a.run xs).1.interfaces.find? i.name = some i := by
    rw [run_interfaces, start]
    exact port
  have met (now : Nat) := respond_of_told (told_answer here i.mac j.mac j.mac j.ip) now
  refine ⟨(ArpFrame.request i.mac i.ip j.ip).toFrame,
    (ArpFrame.ethernetIpv4 .reply i.mac j.mac j.mac i.mac j.ip i.ip).toFrame, ?_, ?_,
    fun now => handle_question peer i.mac i.ip, ?_, ?_, ?_⟩
  · obtain ⟨before, ev, after, split, question, spared⟩ := inquires.asked j.ip res pending
    obtain ⟨i', found, rfl⟩ := mem_question_iff.1 question
    rw [egress, here] at found
    cases found
    exact ⟨before, _, after, split, rfl, spared⟩
  · intro out sent on asks
    obtain ⟨ev, mem, puts⟩ := List.mem_filterMap.1 sent
    have questions : ev.asks? = some j.ip := by
      rw [Event.asks?, puts]
      exact asks
    obtain ⟨interface, question⟩ := inquires.own ev mem j.ip questions
    obtain ⟨i', found, rfl⟩ := mem_question_iff.1 question
    cases puts
    have name : i'.name = interface := Keyed.key_of_find? found
    rw [← name, show i'.name = i.name from on, here] at found
    cases found
    rfl
  · intro now
    have learns := congrArg (·.1.arp.mac? j.ip) (met now)
    refine learns.trans ?_
    rw [meet, mac?_learn, if_pos rfl]
  · intro now
    have ends := congrArg (·.1.arp.resolution? j.ip) (met now)
    refine ends.trans ?_
    rw [meet, resolution?_learn, if_pos rfl]
  · intro now
    have releases := congrArg (fun done => transmissions done.2) (met now)
    refine releases.trans ?_
    rw [transmissions_meet pending, egress]

def secondPort : Interface := ⟨"eth1", station 2, .ofOctets 10 0 1 1, .ofOctets 255 255 255 0⟩

def gatewayPort : Interface := ⟨"eth5", station 9, .ofOctets 10 0 1 9, .ofOctets 255 255 255 0⟩

def answeringGateway : Router := { interfaces := .ofList [gatewayPort], routes := {} }

/-- The datagram that waits for the gateway goes out when the gateway has been asked and has answered. -/
theorem gateway_answers : ∃ question answer,
    Exchange (gatewayRouter.run [(0, .frame toSecond)]).2 (gatewayRouter.run [(0, .frame toSecond)]).1 secondPort
      answeringGateway gatewayPort ⟨.ofOctets 10 0 1 9, "eth1", some 0, 1, [toGateway.frame]⟩ question answer := by
  refine exchange_completes gatewayRouter_created _ (by decide +kernel) (by decide +kernel) ?_ rfl
  rw [run_toSecond]
  decide +kernel

end Router

end SoftRouter
