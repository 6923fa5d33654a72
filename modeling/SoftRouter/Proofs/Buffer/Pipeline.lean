import SoftRouter.Proofs.Buffer.Arp
import SoftRouter.Proofs.Buffer.Rip
import SoftRouter.Router.Handle

/-!
# The router over buffers

What a router does with the bytes of a frame and at its ticks, with every access to a buffer and every sum on the way
(what a line for the operator reads included), and the bytes that it hands to the drivers. Each function here does
what the function of its name does with the values that the bytes stand for; none of them faults.
-/

namespace SoftRouter

open Checked

/-- The frames that events put on wires, as they go to the drivers. -/
def wires (events : List Event) : List (String × Bytes) := (transmissions events).map Transmission.wire

namespace Buffered

/-- What comes of a step of the router over buffers: its state, and what goes to the drivers. -/
abbrev Outcome := Checked (Router × List (String × Bytes))

/-- The delivery of a notice about a packet to its source. -/
def noticeDelivery? (r : Router) (n : Notice) (about : PacketBuffer) : Checked (Option Delivery) := do
  let dest ← about.src
  if r.owns dest then return none
  match r.routes.lookup dest with
  | none => return none
  | some route =>
    match r.interfaces.find? route.interface with
    | none => return none
    | some i =>
      let asked ← about.dest
      match ← about.notice? n (if n.isReport then i.ip else asked) with
      | none => return none
      | some packet =>
        let frame ← FrameBuffer.setSrc (← FrameBuffer.encap packet) i.mac
        return some ⟨i.name, route.nextHop dest, ← FrameBuffer.hold frame⟩

/-- The notices due when a resolution is given up. -/
def regrets (r : Router) (given : Resolution) : Checked (List Delivery) := do
  let due ← given.waiting.mapM fun frame => do
    match ← PacketBuffer.ofFrame frame.encode with
    | .ok packet => noticeDelivery? r .hostUnreachable packet
    | .error _ => return none
  return due.filterMap id

/-- The resolution after one more question. -/
def asked (r : Resolution) (now : Nat) : Checked Resolution := do
  return { r with askedAt := some now, questions := ← add32 r.questions 1 }

/-- Makes a frame wait for the address of its next hop. -/
def await (c : NeighbourCache) (d : Delivery) (now : Nat) : Checked (NeighbourCache × Progress) := do
  let r := c.joined d
  match r.need now with
  | .patience => return ({ c with pending := c.pending.put r }, .waiting)
  | .question => return ({ c with pending := c.pending.put (← asked r now) }, .asking r.ip r.interface)
  | .surrender => return ({ c with pending := c.pending.erase d.nextHop.bits }, .abandoned r)

/-- The question for an address on an interface, if the router has that interface. -/
def question (r : Router) (ip : Ipv4Addr) (interface : String) : Checked (List (String × Bytes)) := do
  match r.interfaces.find? interface with
  | some i => return [(i.name, ← ArpBuffer.request i.mac i.ip ip)]
  | none => return []

theorem asked_eq {r : Resolution} {now : Nat} (question : r.need now = .question) :
    asked r now = .ok (r.asked now) := by
  have few : r.questions < maxQuestions := by
    unfold Resolution.need at question
    split at question
    · cases question
    · split at question
      · cases question
      · exact Nat.lt_of_not_le ‹_›
  have fits : r.questions + 1 < 2 ^ 32 := by
    rw [maxQuestions] at few
    omega
  rw [asked, add32_eq fits]
  rfl

theorem await_eq (c : NeighbourCache) (d : Delivery) (now : Nat) : await c d now = .ok (c.await d now) := by
  unfold await NeighbourCache.await
  dsimp only
  cases need : (c.joined d).need now with
  | patience => rfl
  | question =>
    dsimp only
    rw [asked_eq need]
    rfl
  | surrender => rfl

theorem overdue_of_await {c arp : NeighbourCache} {d : Delivery} {now : Nat} {progress : Progress}
    (step : await c d now = .ok (arp, progress)) :
    arp.overdue now ≤ c.overdue now ∧ (∀ given, progress = .abandoned given → arp.overdue now < c.overdue now) := by
  rw [await_eq] at step
  have le := NeighbourCache.overdue_await_le c d now
  rw [Except.ok.inj step] at le
  refine ⟨le, ?_⟩
  rintro given rfl
  have lt := NeighbourCache.overdue_await_lt (congrArg Prod.snd (Except.ok.inj step))
  rwa [Except.ok.inj step] at lt

theorem question_eq (r : Router) (ip : Ipv4Addr) (interface : String) :
    question r ip interface = .ok (wires (r.question ip interface)) := by
  unfold question Router.question
  cases r.interfaces.find? interface with
  | none => rfl
  | some i =>
    dsimp only
    rw [ArpBuffer.request_eq]
    rfl

/-- Sends deliveries, or makes them wait, one after the other. -/
def dispatch (r : Router) (now : Nat) (work : List Delivery) : Outcome :=
  match work with
  | [] => .ok (r, [])
  | d :: rest =>
    match r.arp.mac? d.nextHop with
    | some mac => do
      let frame ← FrameBuffer.setDest d.frame.encode mac
      let (s, sent) ← dispatch r now rest
      return (s, (d.interface, frame) :: sent)
    | none =>
      match _step : await r.arp d now with
      | .error fault => .error fault
      | .ok (arp, .waiting) => dispatch { r with arp } now rest
      | .ok (arp, .asking ip interface) => do
        let asked ← question r ip interface
        let (s, sent) ← dispatch { r with arp } now rest
        return (s, asked ++ sent)
      | .ok (arp, .abandoned given) => do
        let due ← regrets r given
        dispatch { r with arp } now (due ++ rest)
-- Reports about abandoned frames are new work, but the next hop given up is no longer overdue.
termination_by (r.arp.overdue now, work.length)
decreasing_by
  · exact Prod.Lex.right _ (by simp)
  · have := (overdue_of_await _step).1
    simp only [Prod.lex_def, List.length_cons]
    omega
  · have := (overdue_of_await _step).1
    simp only [Prod.lex_def, List.length_cons]
    omega
  · exact Prod.Lex.left _ _ ((overdue_of_await _step).2 _ rfl)

/-- Does what the progress of several resolutions calls for, one after the other. -/
def followAll (r : Router) (now : Nat) : List Progress → Outcome
  | [] => .ok (r, [])
  | .waiting :: rest => followAll r now rest
  | .asking ip interface :: rest => do
    let first ← question r ip interface
    let (s, later) ← followAll r now rest
    return (s, first ++ later)
  | .abandoned given :: rest => do
    let (s, first) ← dispatch r now (← regrets r given)
    let (s, later) ← followAll s now rest
    return (s, first ++ later)

/-- Takes in a neighbour that made itself known: the frames that waited for it are sent. -/
def meet (r : Router) (now : Nat) (mac : Mac) (ip : Ipv4Addr) : Outcome := do
  let waiting := (r.arp.resolution? ip).toList.flatMap Resolution.deliveries
  let sent ← waiting.mapM fun d => do return (d.interface, ← FrameBuffer.setDest d.frame.encode mac)
  return ({ r with arp := r.arp.learn mac ip now }, sent)

/-- Handles an ARP frame received on `i`. -/
def handleArp (r : Router) (now : Nat) (i : Interface) (data : Bytes) : Outcome := do
  if !(← ArpBuffer.isEthernetIpv4 data) then
    let _reported ← ArpBuffer.hardwareType data
    let _reported ← ArpBuffer.protocolType data
    return (r, [])
  if (← ArpBuffer.ip? data .targetProtocol) ≠ some i.ip then return (r, [])
  match ArpOp.ofCode? (← ArpBuffer.opcode data) with
  | some .request =>
    match ← ArpBuffer.replyTo? data i.mac i.ip with
    | some reply => return (r, [(i.name, reply)])
    | none => return (r, [])
  | some .reply =>
    match ← ArpBuffer.mac? data .senderHardware, ← ArpBuffer.ip? data .senderProtocol with
    | some mac, some ip => meet r now mac ip
    | _, _ => return (r, [])
  | none => return (r, [])

/-- The segment of a packet that is for the routing protocol. -/
def ripSegment? (r : Router) (i : Interface) (b : PacketBuffer) : Checked (Option SegmentBuffer) := do
  if (← b.protocol) ≠ .udp then return none
  let dest ← b.dest
  if dest ≠ ripGroup ∧ ¬ (dest = i.ip ∧ r.rip = .running) then return none
  match ← SegmentBuffer.ofPacket b with
  | .ok s => if (← s.destPort) = ripPort then return some s else return none
  | .error _ => return none

/-- Tells the source of a packet something. -/
def notify (r : Router) (now : Nat) (n : Notice) (about : PacketBuffer) : Outcome := do
  dispatch r now (← noticeDelivery? r n about).toList

/-- Handles a packet to one of the router's own addresses. -/
def deliverLocal (r : Router) (now : Nat) (b : PacketBuffer) : Outcome := do
  let _reported ← b.dest
  match ← b.protocol with
  | .tcp | .udp => notify r now .portUnreachable b
  | .icmp =>
    match ← MessageBuffer.ofPacket b with
    | .ok m => if (← m.type) = IcmpMessage.typeEchoRequest then notify r now .echoReply b else return (r, [])
    | .error _ => return (r, [])
  | .other _ => return (r, [])

/-- Handles a packet to be passed on. -/
def forward (r : Router) (now : Nat) (i : Interface) (b : PacketBuffer) : Outcome := do
  let dest ← b.dest
  match r.routes.lookup dest with
  | none => notify r now .netUnreachable b
  | some route =>
    if route.interface = i.name then return (r, [])
    match r.interfaces.find? route.interface with
    | none => return (r, [])
    | some egress =>
      if b.link ≠ some 0 ∨ b.data.length < 14 then return (r, [])
      let frame ← FrameBuffer.setSrc b.data egress.mac
      dispatch r now [⟨egress.name, route.nextHop dest, ← FrameBuffer.hold frame⟩]

/-- Handles a packet received on `i` in a frame from `src`. -/
def handlePacket (r : Router) (now : Nat) (i : Interface) (src : Mac) (b : PacketBuffer) : Outcome := do
  match ← ripSegment? r i b with
  | some s =>
    let (routes, answer) ← RipBuffer.receive r.rip i src b s r.routes now
    return ({ r with routes }, answer.toList)
  | none =>
    if !(← b.isValid) then
      let _reported ← b.src
      return (r, [])
    let ttl ← b.ttl
    if ttl ≤ 1 then
      let _reported ← b.dest
      notify r now .timeExceeded b
    else
      let aged ← (← b.setTtl (← decrement ttl)).setChecksum
      if r.owns (← aged.dest) then deliverLocal r now aged else forward r now i aged

/-- Handles the bytes of a frame received on the interface of this name. -/
def handle (r : Router) (now : Nat) (interface : String) (data : Bytes) : Outcome := do
  match r.interfaces.find? interface with
  | none => return (r, [])
  | some i =>
    let src ← FrameBuffer.src data
    let type ← FrameBuffer.etherType data
    if type = etherTypeArp then
      match ← ArpBuffer.read data with
      | .ok arp => handleArp r now i arp
      | .error _ => return (r, [])
    else if type = etherTypeIpv4 then
      match ← PacketBuffer.ofFrame data with
      | .ok packet => handlePacket r now i src packet
      | .error _ => return (r, [])
    else return (r, [])

/-- The regular moment of address resolution: every resolution that goes on counts one more question. -/
def arpTick (r : Router) (now : Nat) (order : List Ipv4Addr) : Outcome := do
  let _counted ← (r.arp.visited order).mapM fun resolution =>
    if resolution.need now = .question then asked resolution now else return resolution
  followAll { r with arp := r.arp.tick now } now (r.arp.tickProgress now order)

/-- The regular moment of the routing protocol. -/
def ripTick (r : Router) (now : Nat) : Outcome := do
  let (routes, sent) ← RipBuffer.tick r.rip r.interfaces r.routes now
  return ({ r with routes }, sent)

/-! ## What they do -/

/-- A step of the router that went without a fault. -/
def done (step : Router × List Event) : Outcome := .ok (step.1, wires step.2)

theorem wires_append (first later : List Event) : wires (first ++ later) = wires first ++ wires later := by
  simp [wires, transmissions]

section
variable {front : Bytes} {p : Ipv4Packet} (near : (front ++ p.header).length < 2 ^ 32) (link : Option Nat)
  (whole : p.headerLength + p.payload.length < 65536) (r : Router) (now : Nat)
include near whole

theorem noticeDelivery?_laid (n : Notice) : noticeDelivery? r n (p.laid front link) = .ok (r.noticeDelivery? n p) := by
  have src := PacketBuffer.src_laid (PacketBuffer.near_front near) link p
  have dest := PacketBuffer.dest_laid (PacketBuffer.near_front near) link p
  rw [noticeDelivery?, src, ok_bind, Router.noticeDelivery?]
  by_cases own : r.owns p.src
  · rw [if_pos own, if_pos own]
    rfl
  rw [if_neg own, if_neg own]
  cases r.routes.lookup p.src with
  | none => rfl
  | some route =>
    simp only [Option.bind_eq_bind, Option.bind_some]
    cases r.interfaces.find? route.interface with
    | none => rfl
    | some i =>
      simp only [Option.bind_some]
      rw [dest, ok_bind, PacketBuffer.notice?_laid near link whole, ok_bind]
      cases notice : n.packet? p (if n.isReport then i.ip else p.dest) with
      | none => rfl
      | some q =>
        have short := PacketBuffer.length_packet?_le notice
        have fits : 14 + q.encode.length < bufferEnd := by
          rw [bufferEnd]
          omega
        dsimp only [Option.map]
        rw [PacketBuffer.frameEncap_laid fits, ok_bind, FrameBuffer.setSrc_encode, ok_bind, FrameBuffer.hold_encode]
        rfl

end

theorem near_headers (f : EthernetFrame) (p : Ipv4Packet) : (f.header ++ p.header).length < 2 ^ 32 := by
  have := p.options_fit
  rw [List.length_append, p.length_header, Ipv4Packet.headerLength, f.length_header, EthernetFrame.headerLength]
  omega

theorem whole_of_ofFrame {f : EthernetFrame} {p : Ipv4Packet} (read : Ipv4Packet.ofFrame f = .ok p) :
    p.headerLength + p.payload.length < 65536 := by
  rw [(Ipv4Packet.readFrom_of_ofFrame read).2.fits]
  exact p.totalLength.toNat_lt

theorem regrets_eq (r : Router) (given : Resolution) : regrets r given = .ok (r.regrets given) := by
  rw [regrets,
    mapM_eq (g := fun frame => (Ipv4Packet.ofFrame frame).toOption.bind (r.noticeDelivery? .hostUnreachable)),
    ok_bind, pure_eq, List.filterMap_map, Router.regrets]
  · rfl
  · intro frame _
    rw [PacketBuffer.ofFrame_eq, ok_bind]
    cases read : Ipv4Packet.ofFrame frame with
    | error _ => rfl
    | ok p => exact noticeDelivery?_laid (near_headers frame p) _ (whole_of_ofFrame read) r _

theorem done_bind (step : Router × List Event) (f : Router × List (String × Bytes) → Outcome) :
    done step >>= f = f (step.1, wires step.2) := rfl

/-- A delivery whose next hop is not known takes the step that address resolution takes. -/
theorem dispatch_unknown {r : Router} {d : Delivery} (missing : r.arp.mac? d.nextHop = none) (now : Nat)
    (rest : List Delivery) : dispatch r now (d :: rest) =
      match (r.arp.await d now).2 with
      | .waiting => dispatch { r with arp := (r.arp.await d now).1 } now rest
      | .asking ip interface => do
        let (s, sent) ← dispatch { r with arp := (r.arp.await d now).1 } now rest
        return (s, wires (r.question ip interface) ++ sent)
      | .abandoned given => dispatch { r with arp := (r.arp.await d now).1 } now (r.regrets given ++ rest) := by
  rw [dispatch, missing]
  dsimp only
  split
  · rename_i step
    rw [await_eq] at step
    cases step
  all_goals
    rename_i step
    rw [await_eq] at step
    rw [Except.ok.inj step]
  · rw [question_eq]
    rfl
  · rw [regrets_eq]
    rfl

theorem dispatch_eq (r : Router) (now : Nat) (work : List Delivery) :
    dispatch r now work = done (r.dispatch now work) := by
  fun_induction Router.dispatch r now work with
  | case1 r =>
    rw [dispatch]
    rfl
  | case2 r d rest mac found s events same ih =>
    rw [dispatch, found]
    dsimp only
    rw [FrameBuffer.setDest_encode, ok_bind, ih, same, done_bind]
    rfl
  | case3 r d rest missing waits s events same ih =>
    rw [dispatch_unknown missing, waits]
    dsimp only
    rw [ih, same]
    rfl
  | case4 r d rest missing ip interface asks s events same ih =>
    rw [dispatch_unknown missing, asks]
    dsimp only
    rw [ih, same, done_bind, done, ← List.singleton_append, wires_append, wires_append]
    rfl
  | case5 r d rest missing given gives s events same ih =>
    rw [dispatch_unknown missing, gives]
    dsimp only
    rw [ih, same]
    rfl

theorem followAll_eq (r : Router) (now : Nat) (progress : List Progress) :
    followAll r now progress = done (r.followAll now progress) := by
  induction progress generalizing r with
  | nil => rfl
  | cons p rest ih =>
    cases p with
    | waiting =>
      rw [followAll, ih]
      rfl
    | asking ip interface =>
      rw [followAll, question_eq, ok_bind, ih, done_bind, Router.followAll, done, wires_append]
      rfl
    | abandoned given =>
      rw [followAll, regrets_eq, ok_bind, dispatch_eq, done_bind]
      dsimp only
      rw [ih, done_bind, Router.followAll, done, wires_append]
      rfl

theorem wires_released (ds : List Delivery) (mac : Mac) :
    wires (ds.map fun d => .released d mac) = ds.map fun d => (d.resolved mac).wire := by
  induction ds with
  | nil => rfl
  | cons d rest ih => exact congrArg _ ih

theorem meet_eq (r : Router) (now : Nat) (mac : Mac) (ip : Ipv4Addr) :
    meet r now mac ip = done (r.meet now mac ip) := by
  have each (d : Delivery) :
      (do return (d.interface, ← FrameBuffer.setDest d.frame.encode mac) : Checked (String × Bytes)) =
        .ok (d.resolved mac).wire := by
    rw [FrameBuffer.setDest_encode]
    rfl
  rw [meet, mapM_eq fun d _ => each d, ok_bind, done, Router.meet, wires_released]
  rfl

theorem handleArp_eq (r : Router) (now : Nat) (i : Interface) (f : ArpFrame) :
    handleArp r now i f.toFrame.encode = done (r.handleArp now i f) := by
  have target : ArpBuffer.ip? f.toFrame.encode .targetProtocol = .ok f.targetIp? := ArpBuffer.ip?_encode ..
  have mac : ArpBuffer.mac? f.toFrame.encode .senderHardware = .ok f.senderMac? := ArpBuffer.mac?_encode ..
  have ip : ArpBuffer.ip? f.toFrame.encode .senderProtocol = .ok f.senderIp? := ArpBuffer.ip?_encode ..
  rw [handleArp, ArpBuffer.isEthernetIpv4_encode, ok_bind, ArpBuffer.hardwareType_encode, ArpBuffer.protocolType_encode,
    target, ArpBuffer.opcode_encode, ArpBuffer.replyTo?_eq, mac, ip, Router.handleArp]
  by_cases usual : f.isEthernetIpv4
  · by_cases ours : f.targetIp? = some i.ip
    · rw [if_neg (by simp [usual]), if_pos ⟨usual, ours⟩, ok_bind, if_neg (not_not_intro ours), ok_bind]
      unfold ArpFrame.op?
      cases ArpOp.ofCode? f.opcode with
      | none => rfl
      | some op =>
        cases op with
        | request => cases f.replyTo? i.mac i.ip <;> rfl
        | reply =>
          cases f.senderMac? with
          | none => cases f.senderIp? <;> rfl
          | some mac =>
            cases f.senderIp? with
            | none => rfl
            | some ip => exact meet_eq r now mac ip
    · rw [if_neg (by simp [usual]), if_neg fun both => ours both.2, ok_bind, if_pos ours]
      rfl
  · rw [if_pos (by simp [usual]), if_neg fun both => usual both.1]
    rfl

/-- What the router does about a packet once it has its verdict. -/
def settle (r : Router) (now : Nat) (i : Interface) (src : Mac) (p : Ipv4Packet) : Verdict → Router × List Event
  | .ignore => (r, [])
  | .rip segment => r.takeRip now i src p segment
  | .notify n about => r.dispatch now (r.noticeDelivery? n about).toList
  | .forward delivery => r.dispatch now [delivery]

theorem settle_judge (r : Router) (now : Nat) (i : Interface) (src dest : Mac) (p : Ipv4Packet) :
    settle r now i src p (r.judge i dest p) = r.handlePacket now i src dest p := by
  unfold settle Router.handlePacket
  cases r.judge i dest p <;> rfl

section
variable {front : Bytes} {p : Ipv4Packet} (near : (front ++ p.header).length < 2 ^ 32) (link : Option Nat)
  (r : Router) (now : Nat) (i : Interface)
include near

theorem ripSegment?_laid : ripSegment? r i (p.laid front link) =
    .ok ((r.ripSegment? i p).map fun u => u.laid (front ++ p.header)) := by
  have first := PacketBuffer.near_front near
  rw [ripSegment?, PacketBuffer.protocol_laid first, PacketBuffer.dest_laid first, SegmentBuffer.ofPacket_laid near,
    ok_bind, ok_bind, Router.ripSegment?]
  by_cases udp : p.protocol = .udp
  · rw [if_neg (not_not_intro udp)]
    by_cases other : p.dest ≠ ripGroup ∧ ¬ (p.dest = i.ip ∧ r.rip = .running)
    · rw [if_pos other, if_neg fun both => both.2.elim other.1 other.2]
      rfl
    · have ours : p.dest = ripGroup ∨ p.dest = i.ip ∧ r.rip = .running := by
        by_contra neither
        exact other (not_or.1 neither)
      rw [if_neg other, if_pos ⟨udp, ours⟩, ok_bind]
      cases UdpSegment.ofPacket p with
      | error _ => rfl
      | ok u =>
        dsimp only [Except.map]
        rw [SegmentBuffer.destPort_laid u (held_of_near near)]
        by_cases port : u.destPort = ripPort
        · simp [port, Except.toOption, Option.filter]
        · simp [port, Except.toOption, Option.filter]
  · rw [if_pos udp, if_neg fun both => udp both.1]
    rfl

variable (whole : p.headerLength + p.payload.length < 65536)
include whole

theorem notify_laid (n : Notice) :
    notify r now n (p.laid front link) = done (r.dispatch now (r.noticeDelivery? n p).toList) := by
  rw [notify, noticeDelivery?_laid near link whole, ok_bind, dispatch_eq]

theorem deliverLocal_laid (src : Mac) (q : Ipv4Packet) :
    deliverLocal r now (p.laid front link) = done (settle r now i src q (Router.judgeLocal p)) := by
  have first := PacketBuffer.near_front near
  have notified (n : Notice) := notify_laid near link r now whole n
  rw [deliverLocal, PacketBuffer.dest_laid first, ok_bind, PacketBuffer.protocol_laid first, ok_bind, Router.judgeLocal,
    MessageBuffer.ofPacket_laid near, notified, notified]
  cases p.protocol with
  | icmp =>
    cases IcmpMessage.ofPacket p with
    | error _ => rfl
    | ok m =>
      dsimp only [Except.map]
      rw [ok_bind]
      dsimp only
      rw [MessageBuffer.type_laid m (held_of_near near), ok_bind]
      split <;> rfl
  | tcp => rfl
  | udp => rfl
  | other number => rfl

end

section
variable {f : EthernetFrame} (type : f.etherType = etherTypeIpv4) (r : Router) (now : Nat) (i : Interface)
include type

/-- A packet that came in a frame is passed on in that frame, which is in the buffer in front of it. -/
theorem forward_laid {p : Ipv4Packet} (whole : p.headerLength + p.payload.length < 65536) (q : Ipv4Packet) :
    forward r now i (p.laid f.header (some 0)) = done (settle r now i f.src q (r.judgeTransit i f.dest p)) := by
  have near := near_headers f p
  have data : (p.laid f.header (some 0)).data = { f with payload := p.encode }.encode := rfl
  rw [forward, PacketBuffer.dest_laid (PacketBuffer.near_header f), ok_bind, Router.judgeTransit,
    notify_laid near (some 0) r now whole]
  cases r.routes.lookup p.dest with
  | none => rfl
  | some route =>
    dsimp only
    by_cases back : route.interface = i.name
    · rw [if_pos back, if_pos back]
      rfl
    rw [if_neg back, if_neg back]
    cases r.interfaces.find? route.interface with
    | none => rfl
    | some egress =>
      have framed : ¬ ((p.laid f.header (some 0)).link ≠ some 0 ∨ (p.laid f.header (some 0)).data.length < 14) := by
        rw [data, EthernetFrame.length_encode, EthernetFrame.headerLength]
        rintro (other | short)
        · exact other rfl
        · omega
      have sent : ({ f with payload := p.encode, src := egress.mac } : EthernetFrame) =
          { EthernetFrame.carrying p with src := egress.mac, dest := f.dest } := by
        rw [type]
        rfl
      dsimp only
      rw [if_neg framed, data, FrameBuffer.setSrc_encode, ok_bind, FrameBuffer.hold_encode, ok_bind, dispatch_eq, sent]
      rfl

omit type in
theorem ofPacket_of_ripSegment? {p : Ipv4Packet} {u : UdpSegment} (segment : r.ripSegment? i p = some u) :
    UdpSegment.ofPacket p = .ok u := by
  unfold Router.ripSegment? at segment
  split at segment
  · cases read : UdpSegment.ofPacket p with
    | error _ =>
      rw [read] at segment
      cases segment
    | ok v =>
      rw [read] at segment
      cases Option.eq_some_of_filter_eq_some segment
      rfl
  · cases segment

/-- The checks before the lifetime is counted down leave at least one hop to count. -/
theorem handlePacket_laid {p : Ipv4Packet} (few : RipBuffer.Sendable r.rip r.routes)
    (whole : p.headerLength + p.payload.length < 65536) :
    handlePacket r now i f.src (p.laid f.header (some 0)) = done (r.handlePacket now i f.src f.dest p) := by
  have near := near_headers f p
  have first := PacketBuffer.near_header f
  rw [handlePacket, ripSegment?_laid near, ok_bind, ← settle_judge, Router.judge]
  cases segment : r.ripSegment? i p with
  | some u =>
    dsimp only [Option.map]
    rw [RipBuffer.receive_eq few near (ofPacket_of_ripSegment? r i segment), ok_bind, settle, Router.takeRip]
    obtain ⟨routes, answer⟩ := RipProcess.receive r.rip i f.src p u r.routes now
    cases answer <;> rfl
  | none =>
    dsimp only [Option.map]
    rw [PacketBuffer.isValid_laid first, PacketBuffer.src_laid first, PacketBuffer.ttl_laid first,
      PacketBuffer.dest_laid first, notify_laid near (some 0) r now whole, ok_bind]
    by_cases valid : p.isValid
    · rw [if_neg (by simp [valid]), if_neg (by simp [valid]), ok_bind]
      by_cases last : p.ttl ≤ 1
      · rw [if_pos last, if_pos last]
        rfl
      -- Here the lifetime is counted down and the packet laid into the buffer again.
      have alive : p.ttl ≠ 0 := by
        rintro zero
        exact last (by rw [zero]; decide)
      have later : p.aged.headerLength + p.aged.payload.length < 65536 := whole
      have dest : p.aged.dest = p.dest := rfl
      rw [if_neg last, if_neg last, decrement_eq alive, ok_bind, PacketBuffer.setTtl_laid first, ok_bind,
        PacketBuffer.setChecksum_laid first, ok_bind, ← Ipv4Packet.aged, PacketBuffer.dest_laid first, ok_bind,
        deliverLocal_laid (near_headers f p.aged) (some 0) r now i later f.src p, forward_laid type r now i later p,
          dest]
      by_cases own : r.owns p.dest
      · rw [if_pos own, if_pos own]
      · rw [if_neg own, if_neg own]
    · rw [if_pos (by simp [valid]), if_pos (by simp [valid])]
      rfl

end

/-- The bytes of a frame are handled without a fault, as the frame is. -/
theorem handle_eq {r : Router} (few : RipBuffer.Sendable r.rip r.routes) (now : Nat)
    (interface : String) (frame : EthernetFrame) :
    handle r now interface frame.encode = done (r.handle now interface frame) := by
  rw [handle, Router.handle]
  cases r.interfaces.find? interface with
  | none => rfl
  | some i =>
    dsimp only
    rw [FrameBuffer.src_encode, ok_bind, FrameBuffer.etherType_encode, ok_bind, ArpBuffer.read_encode,
      PacketBuffer.ofFrame_eq]
    by_cases arp : frame.etherType = etherTypeArp
    · rw [if_pos arp, if_pos arp, ok_bind]
      cases ArpFrame.ofFrame frame with
      | error _ => rfl
      | ok f => exact handleArp_eq r now i f
    rw [if_neg arp, if_neg arp]
    by_cases ip : frame.etherType = etherTypeIpv4
    · rw [if_pos ip, ok_bind]
      cases read : Ipv4Packet.ofFrame frame with
      | error _ => rfl
      | ok p => exact handlePacket_laid ip r now i few (whole_of_ofFrame read)
    · rw [if_neg ip, Ipv4Packet.ofFrame, if_neg ip]
      rfl

/-- Nothing is sent at the moment an address is given up. -/
theorem wires_abandonments (progress : List Progress) : wires (Router.abandonments progress) = [] := by
  induction progress with
  | nil => rfl
  | cons p rest ih => cases p <;> exact ih

theorem wires_announced (ts : List Transmission) : wires (ts.map .announced) = ts.map Transmission.wire := by
  induction ts with
  | nil => rfl
  | cons t rest ih => exact congrArg _ ih

theorem arpTick_eq (r : Router) (now : Nat) (order : List Ipv4Addr) :
    arpTick r now order = done (r.arpTick now order) := by
  rw [arpTick, mapM_eq (g := fun resolution => resolution.advanced now), ok_bind, followAll_eq, Router.arpTick, done,
    done, wires_append, wires_abandonments]
  · rfl
  · intro resolution _
    unfold Resolution.advanced
    split
    · exact asked_eq ‹_›
    · rfl

theorem ripTick_eq {r : Router} (few : RipBuffer.Sendable r.rip r.routes) (now : Nat) :
    ripTick r now = done (r.ripTick now) := by
  rw [ripTick, RipBuffer.tick_eq few, ok_bind, done, Router.ripTick, wires_announced]
  rfl

end Buffered

end SoftRouter
