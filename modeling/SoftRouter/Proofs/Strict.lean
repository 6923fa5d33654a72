import SoftRouter.Proofs.Buffer.Pipeline
import SoftRouter.Proofs.Egress
import SoftRouter.Proofs.Layers
import SoftRouter.Proofs.Lookup
import SoftRouter.Proofs.Soundness

/-!
# The router that stops at what should not happen

A router passes over in silence what it has a branch for but does not expect: a route that leaves by an interface it
lacks, a question on such an interface, a frame given up that reads as no packet, a packet with no frame around it.
Here the same is done by functions that stop there instead, each named as the function it follows. For a router that is
sound they never do: they do what the router does (`Strict.run_eq`).
-/

namespace SoftRouter

/-- What a router does not expect. -/
inductive Mishap where
  /-- The route of a packet that is to go on leaves by an interface that is not there. -/
  | egress (route : RouteEntry)
  /-- So does the route back to the source of a packet that there is a notice about. -/
  | wayBack (route : RouteEntry)
  /-- An address is to be asked for on an interface that is not there. -/
  | question (ip : Ipv4Addr) (interface : String)
  /-- A frame that is given up does not read as a packet. -/
  | unread (frame : EthernetFrame) (cause : Ipv4Error)
  /-- A packet that is to go on has no frame around it. -/
  | unframed (cause : EthernetError)
  deriving DecidableEq, Repr

namespace Strict

/-- What comes of a step, unless a mishap stops it. -/
abbrev Result := Except Mishap

/-- The router after a step, and what happened. -/
abbrev Outcome := Result (Router × List Event)

/-- The delivery of a notice about a datagram to its source. -/
def noticeDelivery? (r : Router) (n : Notice) (about : Ipv4Packet) : Result (Option Delivery) :=
  if r.owns about.src then .ok none
  else
    match r.routes.lookup about.src with
    | none => .ok none
    | some route =>
      match r.interfaces.find? route.interface with
      | none => .error (.wayBack route)
      | some i =>
        .ok <| (n.packet? about (if n.isReport then i.ip else about.dest)).map fun packet =>
          ⟨i.name, route.nextHop about.src, { EthernetFrame.carrying packet with src := i.mac }⟩

/-- The notices due when the frames of a resolution are given up. -/
def regrets (r : Router) : List EthernetFrame → Result (List Delivery)
  | [] => .ok []
  | frame :: rest =>
    match Ipv4Packet.ofFrame frame with
    | .error cause => .error (.unread frame cause)
    | .ok about => do
      let due ← noticeDelivery? r .hostUnreachable about
      let others ← regrets r rest
      return due.toList ++ others

/-- The question for an address on an interface. -/
def question (r : Router) (ip : Ipv4Addr) (interface : String) : Result (List Event) :=
  match r.interfaces.find? interface with
  | some i => .ok [.announced ⟨i.name, (ArpFrame.request i.mac i.ip ip).toFrame⟩]
  | none => .error (.question ip interface)

/-- Sends deliveries, or makes them wait, one after the other. -/
def dispatch (r : Router) (now : Nat) (work : List Delivery) : Outcome :=
  match work with
  | [] => .ok (r, [])
  | d :: rest =>
    match r.arp.mac? d.nextHop with
    | some mac => do
      let (s, events) ← dispatch r now rest
      return (s, .delivered d mac :: events)
    | none =>
      match _h : (r.arp.await d now).2 with
      | .waiting => do
        let (s, events) ← dispatch { r with arp := (r.arp.await d now).1 } now rest
        return (s, .queued d :: events)
      | .asking ip interface => do
        let asked ← question r ip interface
        let (s, events) ← dispatch { r with arp := (r.arp.await d now).1 } now rest
        return (s, .queued d :: asked ++ events)
      | .abandoned given => do
        let due ← regrets r given.waiting
        let (s, events) ← dispatch { r with arp := (r.arp.await d now).1 } now (due ++ rest)
        return (s, .queued d :: .abandoned given :: events)
termination_by (r.arp.overdue now, work.length)
decreasing_by
  · exact Prod.Lex.right _ (by simp)
  · have := NeighbourCache.overdue_await_le r.arp d now
    simp only [Prod.lex_def, List.length_cons]
    omega
  · have := NeighbourCache.overdue_await_le r.arp d now
    simp only [Prod.lex_def, List.length_cons]
    omega
  · exact Prod.Lex.left _ _ (NeighbourCache.overdue_await_lt ‹_›)

/-- Does what the progress of a resolution calls for. -/
def follow (r : Router) (now : Nat) : Progress → Outcome
  | .waiting => .ok (r, [])
  | .asking ip interface => do return (r, ← question r ip interface)
  | .abandoned given => do dispatch r now (← regrets r given.waiting)

/-- Does what the progress of several resolutions calls for, one after the other. -/
def followAll (r : Router) (now : Nat) : List Progress → Outcome
  | [] => .ok (r, [])
  | p :: rest => do
    let (r, first) ← follow r now p
    let (r, later) ← followAll r now rest
    return (r, first ++ later)

/-- Tells the source of a packet something. -/
def notify (r : Router) (now : Nat) (n : Notice) (about : Ipv4Packet) : Outcome := do
  dispatch r now (← noticeDelivery? r n about).toList

/-- Handles a packet to one of the router's own addresses. -/
def deliverLocal (r : Router) (now : Nat) (p : Ipv4Packet) : Outcome :=
  match Router.judgeLocal p with
  | .notify n about => notify r now n about
  | _ => .ok (r, [])

/-- Handles a packet to be passed on, received on `i`: it leaves in the frame that is around it. -/
def forward (r : Router) (now : Nat) (i : Interface) (p : Placed Ipv4Packet) : Outcome :=
  match r.routes.lookup p.value.dest with
  | none => notify r now .netUnreachable p.value
  | some route =>
    if route.interface = i.name then .ok (r, [])
    else
      match r.interfaces.find? route.interface with
      | none => .error (.egress route)
      | some egress =>
        match p.frameAround .notAroundPacket with
        | .error cause => .error (.unframed cause)
        | .ok frame => dispatch r now [⟨egress.name, route.nextHop p.value.dest, { frame with src := egress.mac }⟩]

/-- Handles a packet received on `i` in a frame from `src`. -/
def handlePacket (r : Router) (now : Nat) (i : Interface) (src : Mac) (p : Placed Ipv4Packet) : Outcome :=
  match r.ripSegment? i p.value with
  | some segment => .ok (r.takeRip now i src p.value segment)
  | none =>
    if !p.value.isValid then .ok (r, [])
    else if p.value.ttl ≤ 1 then notify r now .timeExceeded p.value
    else
      let aged := p.map Ipv4Packet.aged
      if r.owns aged.value.dest then deliverLocal r now aged.value else forward r now i aged

/-- Handles the frame received on the interface of this name. -/
def handle (r : Router) (now : Nat) (interface : String) (frame : EthernetFrame) : Outcome :=
  match r.interfaces.find? interface with
  | none => .ok (r, [])
  | some i =>
    if frame.etherType = etherTypeArp then
      match ArpFrame.ofFrame frame with
      | .ok f => .ok (r.handleArp now i f)
      | .error _ => .ok (r, [])
    else
      match Placed.packetIn frame with
      | .ok p => handlePacket r now i frame.src p
      | .error _ => .ok (r, [])

/-- The regular moment of address resolution. -/
def arpTick (r : Router) (now : Nat) (order : List Ipv4Addr) : Outcome := do
  let (s, events) ← followAll { r with arp := r.arp.tick now } now (r.arp.tickProgress now order)
  return (s, Router.abandonments (r.arp.tickProgress now order) ++ events)

def respond (r : Router) (now : Nat) : Stimulus → Outcome
  | .init => .ok r.init
  | .frame received => handle r now received.interface received.frame
  | .arpTick order => arpTick r now order
  | .ripTick => .ok (r.ripTick now)

def run (r : Router) : List (Nat × Stimulus) → Outcome
  | [] => .ok (r, [])
  | (now, s) :: rest => do
    let (r, first) ← respond r now s
    let (r, later) ← run r rest
    return (r, first ++ later)

/-! ## A sound router never stops -/

theorem ok_bind {α β : Type} (a : α) (f : α → Result β) : (Except.ok a >>= f : Result β) = f a := rfl

variable {r : Router} {now : Nat}

theorem noticeDelivery?_eq (sound : r.Sound) (n : Notice) (about : Ipv4Packet) :
    noticeDelivery? r n about = .ok (r.noticeDelivery? n about) := by
  rw [noticeDelivery?, Router.noticeDelivery?]
  by_cases own : r.owns about.src
  · rw [if_pos own, if_pos own]
  rw [if_neg own, if_neg own]
  cases matched : r.routes.lookup about.src with
  | none => rfl
  | some route =>
    obtain ⟨i, port⟩ := InterfaceTable.exists_of_contains (sound.routes route (RouteTable.lookup_spec matched).1)
    simp only [port, Option.bind_eq_bind, Option.bind_some]
    cases n.packet? about (if n.isReport then i.ip else about.dest) <;> rfl

theorem regrets_eq (sound : r.Sound) {given : Resolution} (live : ∀ f ∈ given.waiting, f.Live) :
    regrets r given.waiting = .ok (r.regrets given) := by
  unfold Router.regrets
  generalize given.waiting = waiting at live ⊢
  induction waiting with
  | nil => rfl
  | cons frame rest ih =>
    obtain ⟨⟨about, read, -⟩, others⟩ := List.forall_mem_cons.1 live
    rw [regrets, read]
    dsimp only
    rw [noticeDelivery?_eq sound, ih others, ok_bind, ok_bind, List.filterMap_cons, read]
    dsimp only [Except.toOption, Option.bind]
    cases r.noticeDelivery? .hostUnreachable about <;> rfl

theorem question_eq {ip : Ipv4Addr} {interface : String} (known : InterfaceTable.contains r.interfaces interface) :
    question r ip interface = .ok (r.question ip interface) := by
  obtain ⟨i, port⟩ := InterfaceTable.exists_of_contains known
  rw [question, Router.question, port]

theorem dispatch_eq {work : List Delivery} (sound : r.Sound) (ready : ∀ d ∈ work, d.Sound r.interfaces) :
    dispatch r now work = .ok (r.dispatch now work) := by
  induction r, work using Router.dispatch_induction now with
  | nil r => rw [dispatch, Router.dispatch_nil]
  | known r d rest mac found ih =>
    obtain ⟨-, others⟩ := List.forall_mem_cons.1 ready
    rw [dispatch, found]
    dsimp only
    rw [ih sound others, Router.dispatch_known_cons found]
    rfl
  | unknown r d rest missing ih =>
    obtain ⟨first, others⟩ := List.forall_mem_cons.1 ready
    have ready' : ∀ x ∈ r.notices (r.arp.await d now).2 ++ rest, x.Sound r.interfaces := by
      intro x mem
      rcases List.mem_append.1 mem with mem | mem
      · exact Router.sound_notices x mem
      · exact others x mem
    have later := ih ⟨sound.routes, Router.sound_await sound first now⟩ ready'
    have outcome := Router.sound_outcome sound first now
    rw [dispatch, missing, Router.dispatch_unknown_cons missing]
    dsimp only
    -- The router takes the same three ways, and what is due for a frame given up comes first in its work as well.
    split
    case h_1 progress =>
      rw [progress] at later ⊢
      change dispatch _ now rest = _ at later
      rw [later]
      rfl
    case h_2 ip interface progress =>
      rw [progress] at later outcome ⊢
      change dispatch _ now rest = _ at later
      rw [question_eq outcome, ok_bind, later]
      rfl
    case h_3 given progress =>
      have due : r.notices (.abandoned given) = r.regrets given := by simp [Router.notices, Progress.given?]
      rw [progress] at later outcome ⊢
      rw [due] at later ⊢
      rw [regrets_eq sound outcome.live, ok_bind, later]
      rfl

theorem follow_eq (sound : r.Sound) {p : Progress} (known : p.Sound r.interfaces) :
    follow r now p = .ok (r.follow now p) := by
  cases p with
  | waiting => rfl
  | asking ip interface =>
    rw [follow, question_eq known]
    rfl
  | abandoned given =>
    rw [follow, regrets_eq sound known.live, ok_bind, dispatch_eq sound fun _ mem => Router.sound_regret mem]
    rfl

theorem followAll_eq (sound : r.Sound) {progress : List Progress} (known : ∀ p ∈ progress, p.Sound r.interfaces) :
    followAll r now progress = .ok (r.followAll now progress) := by
  induction progress generalizing r with
  | nil => rfl
  | cons p rest ih =>
    obtain ⟨first, others⟩ := List.forall_mem_cons.1 known
    have stays : r.Stays (r.follow now p) := Router.stays_follow sound p
    have ports := stays.interfaces
    rw [followAll, follow_eq sound first, ok_bind]
    dsimp only
    rw [ih stays.sound (by rwa [ports])]
    rfl

theorem arpTick_eq (sound : r.Sound) (order : List Ipv4Addr) : arpTick r now order = .ok (r.arpTick now order) := by
  have ticked := Router.stays_tick sound now order
  have known : ∀ p ∈ r.arp.tickProgress now order, p.Sound r.interfaces :=
    Router.sound_tickProgress sound now order
  rw [arpTick, followAll_eq ticked.sound known]
  rfl

theorem notify_eq (sound : r.Sound) {n : Notice} {about : Ipv4Packet} (fits : about.Fits) :
    notify r now n about = .ok (r.dispatch now (r.noticeDelivery? n about).toList) := by
  rw [notify, noticeDelivery?_eq sound, ok_bind]
  refine dispatch_eq sound ?_
  intro d mem
  exact Router.sound_notice (Option.mem_toList.1 mem) fits

section
variable {f : EthernetFrame} {i : Interface}

theorem deliverLocal_eq (sound : r.Sound) {p : Ipv4Packet} (fits : p.Fits) (src : Mac) (q : Ipv4Packet) :
    deliverLocal r now p = .ok (Buffered.settle r now i src q (Router.judgeLocal p)) := by
  rw [deliverLocal]
  rcases Router.judgeLocal_cases p with ignored | ⟨n, notified⟩
  · rw [ignored]
    rfl
  · rw [notified]
    exact notify_eq sound fits

theorem forward_eq (sound : r.Sound) (type : f.etherType = etherTypeIpv4) {p : Ipv4Packet} (fits : p.Fits)
    (ready : ∀ d, r.judgeTransit i f.dest p = .forward d → d.Sound r.interfaces) (q : Ipv4Packet) :
    forward r now i { before := f.header, link := some 0, value := p } =
      .ok (Buffered.settle r now i f.src q (r.judgeTransit i f.dest p)) := by
  unfold Router.judgeTransit at ready ⊢
  rw [forward, Placed.frameAround_eq]
  dsimp only
  cases matched : r.routes.lookup p.dest with
  | none => exact notify_eq sound fits
  | some route =>
    obtain ⟨egress, port⟩ := InterfaceTable.exists_of_contains (sound.routes route (RouteTable.lookup_spec matched).1)
    rw [matched] at ready
    dsimp only at ready ⊢
    by_cases back : route.interface = i.name
    · rw [if_pos back, if_pos back]
      rfl
    · have framed : ({ f with payload := p.encode, src := egress.mac } : EthernetFrame) =
          { EthernetFrame.carrying p with src := egress.mac, dest := f.dest } := by
        rw [type]
        rfl
      rw [if_neg back, port] at ready
      rw [if_neg back, if_neg back, port]
      dsimp only
      rw [framed]
      refine dispatch_eq sound ?_
      intro d mem
      exact ready d (congrArg Verdict.forward (List.mem_singleton.1 mem).symm)

theorem handlePacket_eq (sound : r.Sound) {p : Ipv4Packet} (read : Ipv4Packet.ofFrame f = .ok p) :
    handlePacket r now i f.src { before := f.header, link := some 0, value := p } =
      .ok (r.handlePacket now i f.src f.dest p) := by
  have fits := Ipv4Packet.fits_of_ofFrame read
  have later : p.aged.Fits := fits
  have type := (Ipv4Packet.readFrom_of_ofFrame read).1
  have ready : ∀ d, r.judge i f.dest p = .forward d → d.Sound r.interfaces :=
    fun d verdict => Router.sound_forward read verdict
  rw [handlePacket, ← Buffered.settle_judge]
  unfold Router.judge at ready ⊢
  cases segment : r.ripSegment? i p with
  | some u => rfl
  | none =>
    rw [segment] at ready
    dsimp only at ready ⊢
    by_cases faulty : !p.isValid
    · rw [if_pos faulty, if_pos faulty]
      rfl
    · rw [if_neg faulty] at ready
      rw [if_neg faulty, if_neg faulty]
      by_cases last : p.ttl ≤ 1
      · rw [if_pos last, if_pos last]
        exact notify_eq sound fits
      · rw [if_neg last] at ready
        rw [if_neg last, if_neg last]
        show (if r.owns p.dest then deliverLocal r now p.aged else
          forward r now i { before := f.header, link := some 0, value := p.aged }) = _
        by_cases own : r.owns p.dest
        · rw [if_pos own, if_pos own]
          exact deliverLocal_eq sound later f.src p
        · rw [if_neg own] at ready
          rw [if_neg own, if_neg own]
          exact forward_eq sound type later ready p

theorem handle_eq (sound : r.Sound) (interface : String) :
    handle r now interface f = .ok (r.handle now interface f) := by
  rw [handle, Router.handle]
  cases r.interfaces.find? interface with
  | none => rfl
  | some i =>
    dsimp only
    by_cases arp : f.etherType = etherTypeArp
    · rw [if_pos arp, if_pos arp]
      cases ArpFrame.ofFrame f <;> rfl
    · rw [if_neg arp, if_neg arp, Placed.packetIn]
      cases read : Ipv4Packet.ofFrame f with
      | error _ => rfl
      | ok p => exact handlePacket_eq sound read

end

theorem respond_eq (sound : r.Sound) (s : Stimulus) : respond r now s = .ok (r.respond now s) := by
  cases s with
  | init => rfl
  | frame received => exact handle_eq sound received.interface
  | arpTick order => exact arpTick_eq sound order
  | ripTick => rfl

/-- Nothing that a sound router does not expect ever happens to it. -/
theorem run_eq (sound : r.Sound) (xs : List (Nat × Stimulus)) : run r xs = .ok (r.run xs) := by
  induction xs generalizing r with
  | nil => rfl
  | cons x xs ih =>
    have stays := Router.respond_stays sound x.1 x.2
    rw [run, respond_eq sound, ok_bind]
    dsimp only
    rw [ih stays.sound]
    rfl

/-- A router made by hand, with a route to nowhere, stops at the first packet. -/
example : (run { interfaces := Router.twoPorts, routes := ⟨[.fixed .unspecified .unspecified .unspecified "eth2"]⟩ }
    [(0, .frame Router.toSecond)]).map (fun _ => ()) =
      .error (.egress (.fixed .unspecified .unspecified .unspecified "eth2")) := by decide +kernel

end Strict

namespace Router

/-- Whatever a router has lived through since it was made, its routes and the questions it asks name its interfaces,
the frames that wait hold valid packets with a hop to live, and it has sent by its interfaces alone. On the way nothing
happened that it does not expect. -/
theorem holds_sendable {interfaces : InterfaceTable} {routes : RouteTable} {r : Router}
    (created : Router.make interfaces routes = .ok r) (xs : List (Nat × Stimulus)) :
    (∀ e ∈ (r.run xs).1.routes.entries, InterfaceTable.contains interfaces e.interface) ∧
      (∀ res ∈ (r.run xs).1.arp.pending.toList, InterfaceTable.contains interfaces res.interface ∧
        ∀ f ∈ res.waiting, ∃ p, Ipv4Packet.ofFrame f = .ok p ∧ p.isValid ∧ 1 ≤ p.ttl) ∧
      (∀ out ∈ transmissions (r.run xs).2, InterfaceTable.contains interfaces out.interface) ∧
      Strict.run r xs = .ok (r.run xs) := by
  have sound := sound_of_make created
  have stays := run_stays sound xs
  have ports : r.interfaces = interfaces := by rw [eq_of_make created]
  have kept : (r.run xs).1.interfaces = interfaces := stays.interfaces.trans ports
  refine ⟨?_, ?_, ports ▸ stays.sent, Strict.run_eq sound xs⟩
  · exact kept ▸ stays.sound.routes
  · intro res mem
    have held := NeighbourCache.each_iff_mem.1 stays.sound.pending res mem
    exact ⟨kept ▸ held.port, held.live⟩

/-- While the datagram to the second port waits for the gateway. -/
theorem holds_sendable_toSecond :
    Router.make twoPorts sharedGateway = .ok gatewayRouter ∧
      (∃ res ∈ (gatewayRouter.run [(0, .frame toSecond)]).1.arp.pending.toList, res.waiting.length = 1 ∧
        InterfaceTable.contains twoPorts res.interface ∧ ∀ f ∈ res.waiting, f.Live) ∧
      Strict.run gatewayRouter [(0, .frame toSecond)] = .ok (gatewayRouter.run [(0, .frame toSecond)]) := by
  obtain ⟨-, pending, -, strict⟩ := holds_sendable gatewayRouter_created [(0, .frame toSecond)]
  have one :
      ((gatewayRouter.run [(0, .frame toSecond)]).1.arp.pending.toList.map fun res => res.waiting.length) = [1] := by
    rw [run_toSecond]
    decide +kernel
  obtain ⟨res, mem, waits⟩ := List.mem_map.1 (one ▸ List.mem_singleton_self 1)
  exact ⟨gatewayRouter_created, ⟨res, mem, waits, pending res mem⟩, strict⟩

end Router

end SoftRouter
