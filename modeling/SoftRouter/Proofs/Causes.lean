import SoftRouter.Proofs.Dispatch
import SoftRouter.Proofs.Holding
import SoftRouter.Proofs.Rank

/-!
# What a datagram is sent for

A router that keeps account of causes: of every datagram that it sends or keeps waiting it knows for which frame
received that is, if need be by way of a frame that waited and was given up. But for this account it does what the
router does, and what is sent or waits for a frame descends from it (`Attributes`).
-/

namespace SoftRouter

open EthernetFrame NeighbourCache

/-- What happens, and with each datagram handed over or sent the number of the stimulus it is there for. -/
abbrev Account := List (Option Nat × Event)

/-- What is sent for the stimulus of this number. -/
def Account.sentFor (k : Nat) (account : Account) : List Transmission :=
  account.filterMap fun x => if x.1 = some k then x.2.transmission? else none

/-- A router, and for every frame that waits the next hop that it waits for and the number of the stimulus that it is
there for, in the order in which they were handed over. -/
structure Tracer where
  router : Router
  ledger : List (Ipv4Addr × Nat) := []

namespace Tracer

/-- What the frames that wait for an address are there for. -/
def causes (t : Tracer) (ip : Ipv4Addr) : List Nat := (t.ledger.filter fun x => x.1 = ip).map Prod.snd

/-- Address resolution goes on, and what waited for an address that is no longer asked for is struck out. -/
def settled (t : Tracer) (arp : NeighbourCache) : Tracer where
  router := { t.router with arp }
  ledger := t.ledger.filter fun x => (arp.resolution? x.1).isSome

def await (t : Tracer) (cause : Nat) (d : Delivery) (now : Nat) : Tracer :=
  settled { t with ledger := t.ledger ++ [(d.nextHop, cause)] } (t.router.arp.await d now).1

/-- The notices about frames given up, each for what its frame was there for. -/
def due (r : Router) (causes : List Nat) (frames : List EthernetFrame) : List (Nat × Delivery) :=
  (causes.zip frames).filterMap fun x =>
    ((Ipv4Packet.ofFrame x.2).toOption.bind (r.noticeDelivery? .hostUnreachable)).map (x.1, ·)

/-- The notices due when a delivery is made to wait and its next hop is given up. -/
def notices (t : Tracer) (cause : Nat) (d : Delivery) (p : Progress) : List (Nat × Delivery) :=
  p.given?.toList.flatMap fun given => due t.router (t.causes d.nextHop ++ [cause]) given.waiting

/-- Deliveries are sent or made to wait, each for its cause. -/
def dispatch (t : Tracer) (now : Nat) (work : List (Nat × Delivery)) : Tracer × Account :=
  match work with
  | [] => (t, [])
  | (cause, d) :: rest =>
    match t.router.arp.mac? d.nextHop with
    | some mac =>
      let (s, account) := dispatch t now rest
      (s, (some cause, .delivered d mac) :: account)
    | none =>
      let p := (t.router.arp.await d now).2
      let (s, account) := dispatch (t.await cause d now) now (t.notices cause d p ++ rest)
      (s, (some cause, .queued d) :: (t.router.outcome p).map (none, ·) ++ account)
termination_by (t.router.arp.overdue now, work.length)
decreasing_by
  · exact Prod.Lex.right _ (by simp)
  · have le : (t.await cause d now).router.arp.overdue now ≤ t.router.arp.overdue now :=
      overdue_await_le t.router.arp d now
    cases progress : (t.router.arp.await d now).2 with
    | abandoned given =>
      exact Prod.Lex.left _ _ (overdue_await_lt progress)
    | _ =>
      simp only [notices, Progress.given?, Option.toList_none, List.flatMap_nil, List.nil_append, Prod.lex_def,
        List.length_cons]
      omega

def follow (t : Tracer) (now : Nat) (causes : Ipv4Addr → List Nat) : Progress → Tracer × Account
  | .waiting => (t, [])
  | .asking ip interface => (t, (t.router.question ip interface).map (none, ·))
  | .abandoned given => t.dispatch now (due t.router (causes given.ip) given.waiting)

def followAll (t : Tracer) (now : Nat) (causes : Ipv4Addr → List Nat) : List Progress → Tracer × Account
  | [] => (t, [])
  | p :: rest =>
    let (t, first) := t.follow now causes p
    let (t, later) := t.followAll now causes rest
    (t, first ++ later)

def arpTick (t : Tracer) (now : Nat) (order : List Ipv4Addr) : Tracer × Account :=
  let progress := t.router.arp.tickProgress now order
  let (s, account) := (t.settled (t.router.arp.tick now)).followAll now t.causes progress
  (s, (Router.abandonments progress).map (none, ·) ++ account)

def meet (t : Tracer) (now : Nat) (mac : Mac) (ip : Ipv4Addr) : Tracer × Account :=
  let waiting := (t.router.arp.resolution? ip).toList.flatMap Resolution.deliveries
  (t.settled (t.router.arp.learn mac ip now),
    ((t.causes ip).zip waiting).map fun x => (some x.1, .released x.2 mac))

/-- The router does something that leaves address resolution alone. -/
def quietly (t : Tracer) (cause : Option Nat) (done : Router × List Event) : Tracer × Account :=
  ({ t with router := done.1 }, done.2.map (cause, ·))

def handlePacket (t : Tracer) (k now : Nat) (i : Interface) (src dest : Mac) (p : Ipv4Packet) : Tracer × Account :=
  match t.router.judge i dest p with
  | .ignore => (t, [])
  | .rip segment => t.quietly (some k) (t.router.takeRip now i src p segment)
  | .notify notice about => t.dispatch now ((t.router.noticeDelivery? notice about).toList.map (k, ·))
  | .forward delivery => t.dispatch now [(k, delivery)]

def handleArp (t : Tracer) (now : Nat) (i : Interface) (f : ArpFrame) : Tracer × Account :=
  if f.isEthernetIpv4 ∧ f.targetIp? = some i.ip then
    match f.op? with
    | some .request => t.quietly none (t.router.handleArp now i f)
    | some .reply =>
      match f.senderMac?, f.senderIp? with
      | some mac, some ip => t.meet now mac ip
      | _, _ => (t, [])
    | none => (t, [])
  else (t, [])

/-- Handles a frame received, which is the stimulus of this number. -/
def handle (t : Tracer) (k now : Nat) (interface : String) (frame : EthernetFrame) : Tracer × Account :=
  match t.router.interfaces.find? interface with
  | none => (t, [])
  | some i =>
    if frame.etherType = etherTypeArp then
      match ArpFrame.ofFrame frame with
      | .ok f => t.handleArp now i f
      | .error _ => (t, [])
    else
      match Ipv4Packet.ofFrame frame with
      | .ok p => t.handlePacket k now i frame.src frame.dest p
      | .error _ => (t, [])

def respond (t : Tracer) (k now : Nat) : Stimulus → Tracer × Account
  | .init => t.quietly none t.router.init
  | .frame received => t.handle k now received.interface received.frame
  | .arpTick order => t.arpTick now order
  | .ripTick => t.quietly none (t.router.ripTick now)

/-- A run of stimuli numbered from `k` on. -/
def run (t : Tracer) (k : Nat) : List (Nat × Stimulus) → Tracer × Account
  | [] => (t, [])
  | (now, s) :: rest =>
    let (t, first) := t.respond k now s
    let (t, later) := t.run (k + 1) rest
    (t, first ++ later)

/-- The frame carries a datagram that may be there on account of the one received. -/
def Owed (received f : EthernetFrame) : Prop := f.etherType = etherTypeIpv4 ∧ Descends received f

theorem Owed.resolved {received : EthernetFrame} {d : Delivery} (owed : Owed received d.frame) (mac : Mac) :
    Owed received (d.resolved mac).frame := ⟨owed.1, owed.2.readdressed mac⟩

/-- For every address there is a cause for each frame that waits, and the frame is owed to what was received. -/
def Sound (heard : Nat → EthernetFrame) (t : Tracer) : Prop :=
  ∀ ip, List.Forall₂ (fun k f => Owed (heard k) f) (t.causes ip) (t.router.arp.waitingFrames ip)

variable {heard : Nat → EthernetFrame} {t : Tracer} {now : Nat}

theorem causes_settled (t : Tracer) (arp : NeighbourCache) (ip : Ipv4Addr) :
    (t.settled arp).causes ip = if (arp.resolution? ip).isSome then t.causes ip else [] := by
  unfold causes settled
  rw [List.filter_filter]
  split
  · rename_i stays
    congr 2
    funext x
    by_cases same : x.1 = ip <;> simp [same, stays]
  · rename_i ended
    rw [List.map_eq_nil_iff, List.filter_eq_nil_iff]
    intro x _ both
    obtain ⟨same, stays⟩ := Bool.and_eq_true_iff.1 both
    exact ended (of_decide_eq_true same ▸ stays)

theorem sound_settled {arp : NeighbourCache}
    (each : ∀ ip r, arp.resolution? ip = some r →
      List.Forall₂ (fun k f => Owed (heard k) f) (t.causes ip) r.waiting) : Sound heard (t.settled arp) := by
  intro ip
  rw [causes_settled]
  cases pending : arp.resolution? ip with
  | none =>
    rw [settled, waitingFrames_of_none pending]
    exact .nil
  | some r =>
    rw [settled, waitingFrames_of_resolution pending]
    exact each ip r pending

theorem owed_waiting (sound : Sound heard t) {ip : Ipv4Addr} {r : Resolution}
    (pending : t.router.arp.resolution? ip = some r) :
    List.Forall₂ (fun k f => Owed (heard k) f) (t.causes ip) r.waiting := by
  have each := sound ip
  rwa [waitingFrames_of_resolution pending] at each

section
variable {cause : Nat} {d : Delivery} (sound : Sound heard t) (owed : Owed (heard cause) d.frame)
include sound owed

theorem owed_joined : List.Forall₂ (fun k f => Owed (heard k) f) (t.causes d.nextHop ++ [cause])
    (t.router.arp.joined d).waiting := by
  rw [waiting_joined_eq]
  exact List.rel_append (sound d.nextHop) (.cons owed .nil)

theorem sound_await : Sound heard (t.await cause d now) := by
  refine sound_settled ?_
  intro ip r pending
  by_cases hop : d.nextHop = ip
  · subst hop
    rw [t.router.arp.resolution?_await_self d now] at pending
    split at pending
    · cases pending
    · cases pending
      simpa [causes, Resolution.waiting_advanced] using owed_joined sound owed
  · rw [t.router.arp.resolution?_await_ne d now hop] at pending
    simpa [causes, hop] using owed_waiting sound pending

end

theorem sound_tick (sound : Sound heard t) : Sound heard (t.settled (t.router.arp.tick now)) := by
  refine sound_settled ?_
  intro ip r pending
  rw [t.router.arp.resolution?_tick now ip] at pending
  obtain ⟨old, found, rfl⟩ := Option.map_eq_some_iff.1 pending
  rw [Resolution.waiting_advanced]
  exact owed_waiting sound (Option.filter_eq_some_iff.1 found).1

theorem sound_learn (sound : Sound heard t) (mac : Mac) (ip : Ipv4Addr) :
    Sound heard (t.settled (t.router.arp.learn mac ip now)) := by
  refine sound_settled ?_
  intro other r pending
  rw [t.router.arp.resolution?_learn now mac ip other] at pending
  split at pending
  · cases pending
  · exact owed_waiting sound pending

/-! ## The account of what a router does -/

end Tracer

/-- The event needs no datagram received: a word about addresses, a word to all about routes, or the end of a
question. -/
def Event.Uncaused : Event → Prop
  | .announced out => out.frame.etherType = etherTypeArp ∨ ∃ interfaces m, out ∈ RipProcess.toGroup interfaces m
  | .abandoned _ => True
  | .delivered .. | .queued _ | .released .. => False

namespace Router

variable {r : Router} {ev : Event}

theorem uncaused_question {ip : Ipv4Addr} {interface : String} (mem : ev ∈ r.question ip interface) : ev.Uncaused := by
  unfold question at mem
  split at mem
  · obtain rfl := List.mem_singleton.1 mem
    exact .inl rfl
  · cases mem

theorem uncaused_outcome {p : Progress} (mem : ev ∈ r.outcome p) : ev.Uncaused := by
  cases p with
  | waiting => cases mem
  | asking ip interface => exact uncaused_question mem
  | abandoned given =>
    obtain rfl := List.mem_singleton.1 mem
    trivial

theorem uncaused_init (mem : ev ∈ r.init.2) : ev.Uncaused := by
  unfold init RipProcess.bootstrap at mem
  by_cases may : RipProcess.canBootstrap r.rip r.routes
  · rw [if_pos may] at mem
    obtain ⟨out, sent, rfl⟩ := List.mem_map.1 mem
    exact .inr ⟨_, _, sent⟩
  · rw [if_neg may] at mem
    cases mem

theorem uncaused_ripTick {now : Nat} (mem : ev ∈ (r.ripTick now).2) : ev.Uncaused := by
  unfold ripTick RipProcess.tick at mem
  by_cases running : r.rip = .running
  · rw [if_pos running] at mem
    obtain ⟨out, sent, rfl⟩ := List.mem_map.1 mem
    exact .inr ⟨_, _, sent⟩
  · rw [if_neg running] at mem
    cases mem

end Router

namespace Tracer

variable {heard : Nat → EthernetFrame} {t : Tracer} {now : Nat}

/-- The account is one of what was done: it says what happened, what it says is sent for a frame is owed to that, and
without a cause happens only what needs none. -/
structure Attributes (heard : Nat → EthernetFrame) (done : Router × List Event) (traced : Tracer × Account) : Prop where
  router : traced.1.router = done.1
  events : traced.2.map Prod.snd = done.2
  sound : Sound heard traced.1
  sent : ∀ k ev out, (some k, ev) ∈ traced.2 → ev.transmission? = some out → Owed (heard k) out.frame
  caused : ∀ ev, (none, ev) ∈ traced.2 → ev.Uncaused

theorem Attributes.nothing (sound : Sound heard t) : Attributes heard (t.router, []) (t, []) where
  router := rfl
  events := rfl
  sound := sound
  sent _ _ _ mem := by cases mem
  caused _ mem := by cases mem

theorem Attributes.append {r s : Router} {u v : Tracer} {first later : List Event} {front back : Account}
    (earlier : Attributes heard (r, first) (u, front)) (next : Attributes heard (s, later) (v, back)) :
    Attributes heard (s, first ++ later) (v, front ++ back) where
  router := next.router
  events := by
    rw [List.map_append]
    exact congrArg₂ (· ++ ·) earlier.events next.events
  sound := next.sound
  sent k ev out mem := by
    rcases List.mem_append.1 mem with mem | mem
    · exact earlier.sent k ev out mem
    · exact next.sent k ev out mem
  caused ev mem := by
    rcases List.mem_append.1 mem with mem | mem
    · exact earlier.caused ev mem
    · exact next.caused ev mem

/-- Events without a cause, when address resolution has come to this. -/
theorem attributes_uncaused {r : Router} {events : List Event} {ledger : List (Ipv4Addr × Nat)}
    (sound : Sound heard ⟨r, ledger⟩) (own : ∀ ev ∈ events, ev.Uncaused) :
    Attributes heard (r, events) (⟨r, ledger⟩, events.map (none, ·)) where
  router := rfl
  events := by simp
  sound := sound
  sent _ _ _ mem := by simp at mem
  caused ev mem := own ev (by simpa using mem)

/-- One datagram is sent, or kept, for a frame. -/
theorem attributes_caused (sound : Sound heard t) (cause : Nat) {ev : Event}
    (owed : ∀ out, ev.transmission? = some out → Owed (heard cause) out.frame) :
    Attributes heard (t.router, [ev]) (t, [(some cause, ev)]) where
  router := rfl
  events := rfl
  sound := sound
  sent k ev out mem sent := by
    cases List.mem_singleton.1 mem
    exact owed out sent
  caused ev mem := by simp at mem

theorem sound_quietly (sound : Sound heard t) {r : Router} (arp : r.arp = t.router.arp) :
    Sound heard { t with router := r } := by
  intro ip
  show List.Forall₂ _ (t.causes ip) (r.arp.waitingFrames ip)
  rw [arp]
  exact sound ip

theorem attributes_quietly (sound : Sound heard t) {done : Router × List Event} (arp : done.1.arp = t.router.arp)
    (own : ∀ ev ∈ done.2, ev.Uncaused) : Attributes heard done (t.quietly none done) :=
  attributes_uncaused (sound_quietly sound arp) own

section
variable {causes : List Nat} {frames : List EthernetFrame}
  (owed : List.Forall₂ (fun k f => Owed (heard k) f) causes frames)
include owed

theorem map_snd_due (r : Router) : (due r causes frames).map Prod.snd = frames.filterMap fun frame =>
    (Ipv4Packet.ofFrame frame).toOption.bind (r.noticeDelivery? .hostUnreachable) := by
  induction owed with
  | nil => rfl
  | @cons cause f causes frames _ _ ih =>
    unfold due at ih ⊢
    rw [List.zip_cons_cons, List.filterMap_cons, List.filterMap_cons]
    cases (Ipv4Packet.ofFrame f).toOption.bind (r.noticeDelivery? .hostUnreachable) with
    | none => exact ih
    | some d => exact congrArg (d :: ·) ih

theorem owed_due {r : Router} {x : Nat × Delivery} (mem : x ∈ due r causes frames) : Owed (heard x.1) x.2.frame := by
  induction owed with
  | nil => cases mem
  | @cons cause f causes frames owed _ ih =>
    unfold due at ih mem
    rw [List.zip_cons_cons, List.filterMap_cons] at mem
    split at mem
    · exact ih mem
    · rename_i notice
      rcases List.mem_cons.1 mem with rfl | mem
      · obtain ⟨d, due, rfl⟩ := Option.map_eq_some_iff.1 notice
        obtain ⟨about, read, due⟩ := Router.read_of_due due
        exact ⟨Router.datagram_of_hands (.notice due), Router.descends_of_regret owed.2 read due⟩
      · exact ih mem

end

theorem attributes_await {cause : Nat} {d : Delivery} (sound : Sound heard t) (owed : Owed (heard cause) d.frame) :
    Attributes heard
      ({ t.router with arp := (t.router.arp.await d now).1 },
        .queued d :: t.router.outcome (t.router.arp.await d now).2)
      (t.await cause d now,
        (some cause, .queued d) :: (t.router.outcome (t.router.arp.await d now).2).map (none, ·)) := by
  have queued : Attributes heard (t.router, [.queued d]) (t, [(some cause, .queued d)]) :=
    attributes_caused sound cause fun out sent => by cases sent
  exact queued.append (attributes_uncaused (sound_await sound owed) fun ev mem => Router.uncaused_outcome mem)

theorem attributes_notices (now : Nat) {cause : Nat} {d : Delivery} (sound : Sound heard t)
    (owed : Owed (heard cause) d.frame) :
    (t.notices cause d (t.router.arp.await d now).2).map Prod.snd = t.router.notices (t.router.arp.await d now).2 ∧
      ∀ x ∈ t.notices cause d (t.router.arp.await d now).2, Owed (heard x.1) x.2.frame := by
  have joined := owed_joined sound owed
  rw [notices, Router.notices, t.router.arp.given?_await d now]
  by_cases ends : (t.router.arp.joined d).need now = .surrender
  · rw [if_pos ends, Option.toList_some, List.flatMap_singleton, List.flatMap_singleton]
    exact ⟨map_snd_due joined t.router, fun x mem => owed_due joined mem⟩
  · simp [ends]

theorem attributes_dispatch (sound : Sound heard t) {work : List (Nat × Delivery)}
    (owed : ∀ x ∈ work, Owed (heard x.1) x.2.frame) :
    Attributes heard (t.router.dispatch now (work.map Prod.snd)) (t.dispatch now work) := by
  fun_induction dispatch t now work with
  | case1 t =>
    rw [List.map_nil, Router.dispatch_nil]
    exact .nothing sound
  | case2 t cause d rest mac known s account same ih =>
    obtain ⟨first, others⟩ := List.forall_mem_cons.1 owed
    have later := ih sound others
    rw [same] at later
    rw [List.map_cons, Router.dispatch_known_cons known]
    have sent : Attributes heard (t.router, [.delivered d mac]) (t, [(some cause, .delivered d mac)]) :=
      attributes_caused sound cause fun out sent => by cases sent; exact first.resolved mac
    exact sent.append later
  | case3 t cause d rest missing p s account same ih =>
    obtain ⟨first, others⟩ := List.forall_mem_cons.1 owed
    obtain ⟨deliveries, owedNotices⟩ := attributes_notices now sound first
    have all : ∀ x ∈ t.notices cause d p ++ rest, Owed (heard x.1) x.2.frame := by
      intro x mem
      rcases List.mem_append.1 mem with mem | mem
      · exact owedNotices x mem
      · exact others x mem
    have later := ih (sound_await sound first) all
    rw [same, List.map_append, deliveries] at later
    rw [List.map_cons, Router.dispatch_unknown_cons missing]
    exact (attributes_await sound first).append later

section
variable {causes : Ipv4Addr → List Nat}

theorem attributes_follow (sound : Sound heard t) {p : Progress}
    (owed : ∀ given, p = .abandoned given →
      List.Forall₂ (fun k f => Owed (heard k) f) (causes given.ip) given.waiting) :
    Attributes heard (t.router.follow now p) (t.follow now causes p) := by
  cases p with
  | waiting => exact .nothing sound
  | asking ip interface =>
    exact attributes_uncaused sound fun ev mem => Router.uncaused_question mem
  | abandoned given =>
    have owed := owed given rfl
    have deliveries : t.router.regrets given = (due t.router (causes given.ip) given.waiting).map Prod.snd :=
      (map_snd_due owed t.router).symm
    rw [Router.follow, deliveries]
    exact attributes_dispatch sound fun x mem => owed_due owed mem

theorem attributes_followAll (sound : Sound heard t) {progress : List Progress}
    (owed : ∀ given, .abandoned given ∈ progress →
      List.Forall₂ (fun k f => Owed (heard k) f) (causes given.ip) given.waiting) :
    Attributes heard (t.router.followAll now progress) (t.followAll now causes progress) := by
  induction progress generalizing t with
  | nil => exact .nothing sound
  | cons p rest ih =>
    have first : Attributes heard (t.router.follow now p) (t.follow now causes p) :=
      attributes_follow sound fun given same => owed given (same ▸ List.mem_cons_self)
    have later := ih first.sound fun given mem => owed given (List.mem_cons_of_mem p mem)
    rw [first.router] at later
    exact first.append later

end

theorem attributes_arpTick {order : List Ipv4Addr} (sound : Sound heard t) :
    Attributes heard (t.router.arpTick now order) (t.arpTick now order) := by
  have ended : ∀ ev ∈ Router.abandonments (t.router.arp.tickProgress now order), ev.Uncaused := by
    intro ev mem
    obtain ⟨given, rfl⟩ := Router.abandoned_of_mem mem
    trivial
  have owed : ∀ given, .abandoned given ∈ t.router.arp.tickProgress now order →
      List.Forall₂ (fun k f => Owed (heard k) f) (t.causes given.ip) given.waiting := by
    intro given mem
    exact owed_waiting sound (overdue_of_abandoned mem).1
  have ticked : Sound heard (t.settled (t.router.arp.tick now)) := sound_tick sound
  have gone : Attributes heard ({ t.router with arp := t.router.arp.tick now }, _)
      (t.settled (t.router.arp.tick now), _) := attributes_uncaused ticked ended
  exact gone.append (attributes_followAll ticked owed)

theorem owed_deliveries (sound : Sound heard t) (ip : Ipv4Addr) :
    List.Forall₂ (fun k (d : Delivery) => Owed (heard k) d.frame) (t.causes ip)
      ((t.router.arp.resolution? ip).toList.flatMap Resolution.deliveries) := by
  have owed := sound ip
  unfold waitingFrames at owed
  cases pending : t.router.arp.resolution? ip with
  | none => simpa [pending] using owed
  | some res => simpa [pending, Resolution.deliveries] using owed

theorem attributes_meet (sound : Sound heard t) (mac : Mac) (ip : Ipv4Addr) :
    Attributes heard (t.router.meet now mac ip) (t.meet now mac ip) := by
  obtain ⟨length, each⟩ := List.forall₂_iff_zip.1 (owed_deliveries sound ip)
  refine ⟨rfl, ?_, sound_learn sound mac ip, ?_, ?_⟩
  · have whole := List.map_snd_zip (Nat.le_of_eq length.symm)
    rw [meet, Router.meet, List.map_map]
    conv => rhs; rw [← whole]
    rw [List.map_map]
    rfl
  · intro k ev out mem sent
    obtain ⟨⟨cause, d⟩, member, same⟩ := List.mem_map.1 mem
    cases same
    cases sent
    exact (each member).resolved mac
  · intro ev mem
    simp [meet] at mem

/-! ## Stimuli and runs -/

section
variable {k : Nat} {received : Transmission} (number : heard k = received.frame) {i : Interface}
  (port : t.router.interfaces.find? received.interface = some i)
include number port

theorem attributes_takeRip (sound : Sound heard t) {p : Ipv4Packet} {u : UdpSegment}
    (packet : Ipv4Packet.ofFrame received.frame = .ok p) (segment : t.router.ripSegment? i p = some u) :
    Attributes heard (t.router.takeRip now i received.frame.src p u)
      (t.quietly (some k) (t.router.takeRip now i received.frame.src p u)) := by
  have still : Sound heard { t with router := (t.router.takeRip now i received.frame.src p u).1 } :=
    sound_quietly sound rfl
  rcases Router.descends_of_rip packet port segment now with silent | ⟨out, answers, type, descends⟩
  · rw [quietly, silent]
    have same : t.router.takeRip now i received.frame.src p u = (_, []) := Prod.ext rfl silent
    rw [same]
    exact .nothing still
  · have same : t.router.takeRip now i received.frame.src p u = (_, [.announced out]) := Prod.ext rfl answers
    rw [quietly, answers, same]
    refine attributes_caused still k ?_
    intro out sent
    cases sent
    exact number ▸ ⟨type, descends⟩

theorem attributes_handlePacket (sound : Sound heard t) {p : Ipv4Packet}
    (packet : Ipv4Packet.ofFrame received.frame = .ok p) :
    Attributes heard (t.router.handlePacket now i received.frame.src received.frame.dest p)
      (t.handlePacket k now i received.frame.src received.frame.dest p) := by
  unfold handlePacket Router.handlePacket
  cases verdict : t.router.judge i received.frame.dest p with
  | ignore => exact .nothing sound
  | rip segment => exact attributes_takeRip number port sound packet (Router.segment_of_judge verdict)
  | notify n about =>
    have owed : ∀ x ∈ (t.router.noticeDelivery? n about).toList.map (k, ·), Owed (heard x.1) x.2.frame := by
      intro x mem
      obtain ⟨d, due, rfl⟩ := List.mem_map.1 mem
      have due := Option.mem_toList.1 due
      refine ⟨Router.datagram_of_hands (.notice due), ?_⟩
      rw [number]
      exact Router.descends_of_notify packet verdict due
    have handed : Attributes heard (t.router.dispatch now _) (t.dispatch now _) := attributes_dispatch sound owed
    simpa using handed
  | forward d =>
    have owed : ∀ x ∈ [(k, d)], Owed (heard x.1) x.2.frame := by
      intro x mem
      obtain rfl := List.mem_singleton.1 mem
      refine ⟨Router.datagram_of_hands (.forward ⟨i, p, port, packet, verdict⟩), ?_⟩
      rw [number]
      exact Router.descends_of_forward packet verdict
    exact attributes_dispatch sound owed

end

theorem attributes_handleArp (sound : Sound heard t) (i : Interface) (f : ArpFrame) :
    Attributes heard (t.router.handleArp now i f) (t.handleArp now i f) := by
  unfold handleArp
  by_cases asked : f.isEthernetIpv4 ∧ f.targetIp? = some i.ip
  · rw [if_pos asked]
    cases operation : f.op? with
    | none =>
      simp only [Router.handleArp, if_pos asked, operation]
      exact .nothing sound
    | some op =>
      cases op with
      | request =>
        refine attributes_quietly sound ?_ ?_
        · simp only [Router.handleArp, if_pos asked, operation]
        · simp only [Router.handleArp, if_pos asked, operation]
          intro ev mem
          obtain ⟨reply, -, rfl⟩ := Option.map_eq_some_iff.1 (Option.mem_toList.1 mem)
          exact .inl rfl
      | reply =>
        simp only [Router.handleArp, if_pos asked, operation]
        cases f.senderMac? with
        | none => exact .nothing sound
        | some mac =>
          cases f.senderIp? with
          | none => exact .nothing sound
          | some ip => exact attributes_meet sound mac ip
  · rw [if_neg asked, Router.handleArp, if_neg asked]
    exact .nothing sound

theorem attributes_respond (sound : Sound heard t) {k : Nat} {s : Stimulus}
    (number : ∀ received, s = .frame received → heard k = received.frame) :
    Attributes heard (t.router.respond now s) (t.respond k now s) := by
  cases s with
  | init =>
    exact attributes_quietly sound rfl fun ev mem => Router.uncaused_init mem
  | ripTick =>
    exact attributes_quietly sound rfl fun ev mem => Router.uncaused_ripTick mem
  | arpTick => exact attributes_arpTick sound
  | frame received =>
    have number := number received rfl
    rw [respond, Router.respond]
    unfold handle Router.handle
    cases port : t.router.interfaces.find? received.interface with
    | none => exact .nothing sound
    | some i =>
      by_cases arp : received.frame.etherType = etherTypeArp
      · simp only [if_pos arp]
        cases ArpFrame.ofFrame received.frame with
        | error _ => exact .nothing sound
        | ok f => exact attributes_handleArp sound i f
      · simp only [if_neg arp]
        cases packet : Ipv4Packet.ofFrame received.frame with
        | error _ => exact .nothing sound
        | ok p => exact attributes_handlePacket number port sound packet

/-- The account of a run is one of what the router did. -/
theorem attributes_run (sound : Sound heard t) {k : Nat} {xs : List (Nat × Stimulus)}
    (numbers : ∀ n now received, xs[n]? = some (now, .frame received) → heard (k + n) = received.frame) :
    Attributes heard (t.router.run xs) (t.run k xs) := by
  induction xs generalizing t k with
  | nil => exact .nothing sound
  | cons x xs ih =>
    have first : Attributes heard (t.router.respond x.1 x.2) (t.respond k x.1 x.2) := by
      refine attributes_respond sound ?_
      intro received same
      exact numbers 0 x.1 received (congrArg some (Prod.ext rfl same))
    have later := ih (k := k + 1) first.sound (by
      intro n now received there
      rw [Nat.add_assoc, Nat.add_comm 1 n]
      exact numbers (n + 1) now received there)
    rw [first.router] at later
    exact first.append later

end Tracer

end SoftRouter
