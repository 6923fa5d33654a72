import SoftRouter.Proofs.Steps

/-!
# The journal of a run

A journal has an entry for every frame handed over for a next hop, in the order they were handed over, and says
what became of the frame. It is drawn up from events alone: a frame that begins to wait goes behind those that
wait already, an address that becomes known lets the longest waiting frame go first, and an address that is given
up ends the wait of all. An entry keeps its delivery, and its fate once that is settled (`record_becomes`); what
the entries say was sent is what went out, each frame once (`transmissions_perm`).
-/

namespace SoftRouter

/-- What became of a frame that was handed over. -/
inductive Fate where
  | waiting
  | sent (transmission : Transmission)
  | givenUp
  deriving DecidableEq

/-- A frame that was handed over, and the interface on which its next hop was then being asked for. -/
structure Entry where
  delivery : Delivery
  asked : String
  fate : Fate
  deriving DecidableEq

namespace Entry

/-- The frame waits for this address. -/
def waitsFor (e : Entry) (ip : Ipv4Addr) : Bool := e.fate = .waiting && e.delivery.nextHop = ip

/-- What was sent of the frame. -/
def sent? (e : Entry) : Option Transmission :=
  match e.fate with
  | .sent t => some t
  | _ => none

/-- What an entry may be later on: the same frame, with a fate that is settled at most once. -/
structure Becomes (e later : Entry) : Prop where
  delivery : later.delivery = e.delivery
  asked : later.asked = e.asked
  settled : e.fate ≠ .waiting → later = e

theorem Becomes.refl (e : Entry) : e.Becomes e := ⟨rfl, rfl, fun _ => rfl⟩

theorem Becomes.trans {a b c : Entry} (first : a.Becomes b) (second : b.Becomes c) : a.Becomes c where
  delivery := second.delivery.trans first.delivery
  asked := second.asked.trans first.asked
  settled moved := by
    have same := first.settled moved
    exact (second.settled (same ▸ moved)).trans same

theorem waitsFor_iff {e : Entry} {ip : Ipv4Addr} : e.waitsFor ip ↔ e.fate = .waiting ∧ e.delivery.nextHop = ip := by
  simp [waitsFor]

theorem not_waitsFor {e : Entry} (settled : e.fate ≠ .waiting) (ip : Ipv4Addr) : e.waitsFor ip = false := by
  simp [waitsFor, settled]

theorem not_waitsFor_of_ne {e : Entry} {ip other : Ipv4Addr} (waits : e.waitsFor ip) (ne : ip ≠ other) :
    e.waitsFor other = false := by
  have elsewhere : e.delivery.nextHop ≠ other := (waitsFor_iff.1 waits).2 ▸ ne
  simp [waitsFor, elsewhere]

theorem becomes_settle {e : Entry} {ip : Ipv4Addr} (waits : e.waitsFor ip) (fate : Fate) :
    e.Becomes { e with fate } :=
  ⟨rfl, rfl, fun moved => absurd (waitsFor_iff.1 waits).1 moved⟩

end Entry

/-- The delivery that an event hands over. -/
def Event.handed? : Event → Option Delivery
  | delivered d _ => some d
  | queued d => some d
  | _ => none

/-- The resolution that an event gives up. -/
def Event.given? : Event → Option Resolution
  | .abandoned given => some given
  | .announced _ | .delivered .. | .queued _ | .released .. => none

/-- The frame that an event sends on the router's own account. -/
def Event.announced? : Event → Option Transmission
  | announced t => some t
  | _ => none

/-- The frames handed over, in order. -/
abbrev Journal := List Entry

namespace Journal

/-- The frames that wait for an address, the longest waiting first. -/
def waitingFor (j : Journal) (ip : Ipv4Addr) : List Entry := j.filter (·.waitsFor ip)

/-- The interface on which the next hop of a delivery is asked for: that of the frame that waits longest for it,
or its own if none does. -/
def askedOn (j : Journal) (d : Delivery) : String :=
  match waitingFor j d.nextHop with
  | [] => d.interface
  | e :: _ => e.delivery.interface

/-- The longest waiting frame for an address meets its fate. -/
def settleFirst (ip : Ipv4Addr) (fate : Fate) : Journal → Journal
  | [] => []
  | e :: rest => if e.waitsFor ip then { e with fate } :: rest else e :: settleFirst ip fate rest

/-- All frames that wait for an address meet their fate. -/
def settleAll (ip : Ipv4Addr) (fate : Fate) (j : Journal) : Journal :=
  j.map fun e => if e.waitsFor ip then { e with fate } else e

/-- The journal after one more event. -/
def note (j : Journal) : Event → Journal
  | .announced _ => j
  | .delivered d mac => j ++ [⟨d, askedOn j d, .sent (d.resolved mac)⟩]
  | .queued d => j ++ [⟨d, askedOn j d, .waiting⟩]
  | .released d mac => settleFirst d.nextHop (.sent (d.resolved mac)) j
  | .abandoned given => settleAll given.ip .givenUp j

/-- The journal after more events. -/
def record (j : Journal) (events : List Event) : Journal := events.foldl note j

@[simp] theorem record_nil (j : Journal) : record j [] = j := rfl

@[simp] theorem record_cons (j : Journal) (ev : Event) (events : List Event) :
    record j (ev :: events) = record (note j ev) events := rfl

theorem record_append (j : Journal) (first later : List Event) :
    record j (first ++ later) = record (record j first) later := List.foldl_append

@[simp] theorem record_announced (j : Journal) (sent : List Transmission) :
    record j (sent.map .announced) = j := by
  induction sent generalizing j with
  | nil => rfl
  | cons t rest ih => exact ih j

@[simp] theorem waitingFor_append (i j : Journal) (ip : Ipv4Addr) :
    waitingFor (i ++ j) ip = waitingFor i ip ++ waitingFor j ip := List.filter_append ..

theorem waitingFor_cons (e : Entry) (j : Journal) (ip : Ipv4Addr) :
    waitingFor (e :: j) ip = if e.waitsFor ip then e :: waitingFor j ip else waitingFor j ip := List.filter_cons

theorem waitingFor_settled (e : Entry) {fate : Fate} (settled : fate ≠ .waiting) (j : Journal) (ip : Ipv4Addr) :
    waitingFor ({ e with fate } :: j) ip = waitingFor j ip := by
  rw [waitingFor_cons, Entry.not_waitsFor (e := { e with fate }) settled ip]
  rfl

theorem waitingFor_settleFirst (j : Journal) {fate : Fate} (settled : fate ≠ .waiting) (ip : Ipv4Addr) :
    waitingFor (settleFirst ip fate j) ip = (waitingFor j ip).tail := by
  induction j with
  | nil => rfl
  | cons e rest ih =>
    rw [settleFirst, waitingFor_cons]
    by_cases waits : e.waitsFor ip
    · rw [if_pos waits, if_pos waits, waitingFor_settled e settled, List.tail_cons]
    · rw [if_neg waits, if_neg waits, waitingFor_cons, if_neg waits, ih]

theorem waitingFor_settleFirst_ne (j : Journal) {fate : Fate} (settled : fate ≠ .waiting) {ip other : Ipv4Addr}
    (ne : ip ≠ other) : waitingFor (settleFirst ip fate j) other = waitingFor j other := by
  induction j with
  | nil => rfl
  | cons e rest ih =>
    rw [settleFirst, waitingFor_cons]
    by_cases waits : e.waitsFor ip
    · rw [if_pos waits, waitingFor_settled e settled, Entry.not_waitsFor_of_ne waits ne]
      rfl
    · rw [if_neg waits, waitingFor_cons, ih]

theorem waitingFor_settleAll (j : Journal) {fate : Fate} (settled : fate ≠ .waiting) (ip : Ipv4Addr) :
    waitingFor (settleAll ip fate j) ip = [] := by
  refine List.filter_eq_nil_iff.2 ?_
  intro e mem
  obtain ⟨old, -, rfl⟩ := List.mem_map.1 mem
  by_cases waits : old.waitsFor ip
  · simp [waits, Entry.not_waitsFor (e := { old with fate }) settled]
  · simp [waits]

theorem waitingFor_settleAll_ne (j : Journal) {fate : Fate} (settled : fate ≠ .waiting) {ip other : Ipv4Addr}
    (ne : ip ≠ other) : waitingFor (settleAll ip fate j) other = waitingFor j other := by
  induction j with
  | nil => rfl
  | cons e rest ih =>
    rw [settleAll, List.map_cons, ← settleAll, waitingFor_cons e]
    by_cases waits : e.waitsFor ip
    · rw [if_pos waits, waitingFor_settled e settled, Entry.not_waitsFor_of_ne waits ne, ih]
      rfl
    · rw [if_neg waits, waitingFor_cons, ih]

/-! ## Entries over time -/

theorem settleFirst_becomes (ip : Ipv4Addr) (fate : Fate) {j : Journal} {k : Nat} {e : Entry} (found : j[k]? = some e) :
    ∃ later, (settleFirst ip fate j)[k]? = some later ∧ e.Becomes later := by
  induction j generalizing k with
  | nil => simp at found
  | cons x rest ih =>
    unfold settleFirst
    cases k with
    | zero =>
      obtain rfl : x = e := by simpa using found
      by_cases waits : x.waitsFor ip
      · exact ⟨{ x with fate }, by simp [waits], Entry.becomes_settle waits fate⟩
      · exact ⟨x, by simp [waits], .refl x⟩
    | succ k =>
      rw [List.getElem?_cons_succ] at found
      by_cases waits : x.waitsFor ip
      · exact ⟨e, by simpa [waits] using found, .refl e⟩
      · simpa [waits] using ih found

theorem settleAll_becomes (ip : Ipv4Addr) (fate : Fate) {j : Journal} {k : Nat} {e : Entry} (found : j[k]? = some e) :
    ∃ later, (settleAll ip fate j)[k]? = some later ∧ e.Becomes later := by
  refine ⟨if e.waitsFor ip then { e with fate } else e, by simp [settleAll, found], ?_⟩
  by_cases waits : e.waitsFor ip
  · rw [if_pos waits]
    exact Entry.becomes_settle waits fate
  · rw [if_neg waits]
    exact .refl e

theorem note_becomes {j : Journal} {k : Nat} {e : Entry} (found : j[k]? = some e) (ev : Event) :
    ∃ later, (note j ev)[k]? = some later ∧ e.Becomes later := by
  have inside : k < j.length := (List.getElem?_eq_some_iff.1 found).1
  cases ev with
  | announced _ => exact ⟨e, found, .refl e⟩
  | delivered _ _ => exact ⟨e, by rw [note, List.getElem?_append_left inside, found], .refl e⟩
  | queued _ => exact ⟨e, by rw [note, List.getElem?_append_left inside, found], .refl e⟩
  | released d mac => exact settleFirst_becomes _ _ found
  | abandoned given => exact settleAll_becomes _ _ found

/-- An entry stays where it is, with its delivery, and its fate is settled at most once. -/
theorem record_becomes {j : Journal} {k : Nat} {e : Entry} (found : j[k]? = some e) (events : List Event) :
    ∃ later, (record j events)[k]? = some later ∧ e.Becomes later := by
  induction events generalizing j e with
  | nil => exact ⟨e, found, .refl e⟩
  | cons ev rest ih =>
    obtain ⟨next, found', first⟩ := note_becomes found ev
    obtain ⟨last, found'', second⟩ := ih found'
    exact ⟨last, found'', first.trans second⟩

/-- A delivery handed over has its entry behind those of all before it. -/
theorem entry_of_handed (before : Journal) {ev : Event} {d : Delivery} (handed : ev.handed? = some d)
    (later : List Event) :
    ∃ e, (record before (ev :: later))[before.length]? = some e ∧ e.delivery = d ∧ e.asked = askedOn before d := by
  have first : ∃ e, (note before ev)[before.length]? = some e ∧ e.delivery = d ∧ e.asked = askedOn before d := by
    cases ev with
    | delivered _ _ => cases handed; exact ⟨_, List.getElem?_concat_length, rfl, rfl⟩
    | queued _ => cases handed; exact ⟨_, List.getElem?_concat_length, rfl, rfl⟩
    | _ => cases handed
  obtain ⟨e, found, delivery, asked⟩ := first
  obtain ⟨last, found', becomes⟩ := record_becomes found later
  exact ⟨last, found', becomes.delivery.trans delivery, becomes.asked.trans asked⟩

theorem entry_of_delivered (before : Journal) (d : Delivery) (mac : Mac) (later : List Event) :
    (record before (.delivered d mac :: later))[before.length]? =
      some ⟨d, askedOn before d, .sent (d.resolved mac)⟩ := by
  have first : (note before (.delivered d mac))[before.length]? = some ⟨d, askedOn before d, .sent (d.resolved mac)⟩ :=
    List.getElem?_concat_length
  obtain ⟨last, found, becomes⟩ := record_becomes first later
  rw [record_cons, found, becomes.settled (by simp)]

theorem of_settleFirst {ip : Ipv4Addr} {fate : Fate} {j : Journal} {k : Nat} {e : Entry}
    (found : (settleFirst ip fate j)[k]? = some e) : j[k]? = some e ∨ e.fate = fate ∧ e.delivery.nextHop = ip := by
  induction j generalizing k with
  | nil => simp [settleFirst] at found
  | cons x rest ih =>
    rw [settleFirst] at found
    by_cases waits : x.waitsFor ip
    · rw [if_pos waits] at found
      cases k with
      | zero =>
        obtain rfl : { x with fate } = e := by simpa using found
        exact .inr ⟨rfl, (Entry.waitsFor_iff.1 waits).2⟩
      | succ k => exact .inl (by simpa using found)
    · rw [if_neg waits] at found
      cases k with
      | zero => exact .inl found
      | succ k => simpa using ih (by simpa using found)

theorem of_settleAll {ip : Ipv4Addr} {fate : Fate} {j : Journal} {k : Nat} {e : Entry}
    (found : (settleAll ip fate j)[k]? = some e) : j[k]? = some e ∨ e.fate = fate ∧ e.delivery.nextHop = ip := by
  rw [settleAll, List.getElem?_map] at found
  obtain ⟨old, found', rfl⟩ := Option.map_eq_some_iff.1 found
  by_cases waits : old.waitsFor ip
  · rw [if_pos waits]
    exact .inr ⟨rfl, (Entry.waitsFor_iff.1 waits).2⟩
  · exact .inl (by rw [if_neg waits]; exact found')

theorem of_append {j : Journal} {k : Nat} {x e : Entry} (found : (j ++ [x])[k]? = some e) :
    j[k]? = some e ∨ e = x := by
  by_cases inside : k < j.length
  · exact .inl (by rwa [List.getElem?_append_left inside] at found)
  · rw [List.getElem?_append_right (Nat.le_of_not_lt inside)] at found
    exact .inr (List.mem_singleton.1 (List.mem_of_getElem? found))

/-- Events by which an entry came to be what it is. -/
inductive Origin (events : List Event) (e : Entry) : Prop where
  | queued (mem : .queued e.delivery ∈ events) (fate : e.fate = .waiting)
  | delivered (mac : Mac) (mem : .delivered e.delivery mac ∈ events) (fate : e.fate = .sent (e.delivery.resolved mac))
  | released (d : Delivery) (mac : Mac) (mem : .released d mac ∈ events) (fate : e.fate = .sent (d.resolved mac))
      (hop : d.nextHop = e.delivery.nextHop)
  | abandoned (given : Resolution) (mem : .abandoned given ∈ events) (fate : e.fate = .givenUp)
      (hop : given.ip = e.delivery.nextHop)

theorem Origin.mono {events more : List Event} {e : Entry} (origin : Origin events e)
    (subset : ∀ ev ∈ events, ev ∈ more) : Origin more e := by
  cases origin with
  | queued mem fate => exact .queued (subset _ mem) fate
  | delivered mac mem fate => exact .delivered mac (subset _ mem) fate
  | released d mac mem fate hop => exact .released d mac (subset _ mem) fate hop
  | abandoned given mem fate hop => exact .abandoned given (subset _ mem) fate hop

theorem origin_of_note {j : Journal} {ev : Event} {k : Nat} {e : Entry} (found : (note j ev)[k]? = some e) :
    j[k]? = some e ∨ Origin [ev] e := by
  cases ev with
  | announced _ => exact .inl found
  | delivered d mac =>
    rcases of_append found with old | rfl
    · exact .inl old
    · exact .inr (.delivered mac List.mem_cons_self rfl)
  | queued d =>
    rcases of_append found with old | rfl
    · exact .inl old
    · exact .inr (.queued List.mem_cons_self rfl)
  | released d mac =>
    rcases of_settleFirst found with old | ⟨fate, hop⟩
    · exact .inl old
    · exact .inr (.released d mac List.mem_cons_self fate hop.symm)
  | abandoned given =>
    rcases of_settleAll found with old | ⟨fate, hop⟩
    · exact .inl old
    · exact .inr (.abandoned given List.mem_cons_self fate hop.symm)

/-- An entry is as it was, or one of the events since made it so. -/
theorem origin_of_record {j : Journal} {events : List Event} {k : Nat} {e : Entry}
    (found : (record j events)[k]? = some e) : j[k]? = some e ∨ Origin events e := by
  induction events generalizing j with
  | nil => exact .inl found
  | cons ev rest ih =>
    rcases ih found with noted | later
    · rcases origin_of_note noted with old | now
      · exact .inl old
      · exact .inr (now.mono fun x mem => List.mem_singleton.1 mem ▸ List.mem_cons_self)
    · exact .inr (later.mono fun x mem => List.mem_cons_of_mem ev mem)

/-- What the entries say was sent. -/
def sent (j : Journal) : List Transmission := j.filterMap Entry.sent?

theorem sent_settleFirst {j : Journal} {ip : Ipv4Addr} (someone : waitingFor j ip ≠ []) (t : Transmission) :
    (sent (settleFirst ip (.sent t) j)).Perm (t :: sent j) := by
  induction j with
  | nil => exact absurd rfl someone
  | cons e rest ih =>
    rw [settleFirst]
    by_cases waits : e.waitsFor ip
    · have unsent : e.sent? = none := by simp [Entry.sent?, (Entry.waitsFor_iff.1 waits).1]
      have now : ({ e with fate := .sent t } : Entry).sent? = some t := rfl
      rw [if_pos waits, sent, sent, List.filterMap_cons_none unsent, List.filterMap_cons_some now]
    · rw [waitingFor_cons, if_neg waits] at someone
      rw [if_neg waits]
      cases gone : e.sent? with
      | none =>
        rw [sent, sent, List.filterMap_cons_none gone, List.filterMap_cons_none gone]
        exact ih someone
      | some t' =>
        rw [sent, sent, List.filterMap_cons_some gone, List.filterMap_cons_some gone]
        exact ((ih someone).cons t').trans (.swap ..)

theorem sent_settleAll (ip : Ipv4Addr) (j : Journal) : sent (settleAll ip .givenUp j) = sent j := by
  induction j with
  | nil => rfl
  | cons e rest ih =>
    rw [settleAll, List.map_cons, ← settleAll, sent, sent, List.filterMap_cons, List.filterMap_cons, ← sent, ← sent, ih]
    by_cases waits : e.waitsFor ip
    · simp [waits, Entry.sent?, (Entry.waitsFor_iff.1 waits).1]
    · rw [if_neg waits]

/-- The frames that went out are those the router announced and those the journal says were sent. -/
def Accounts (log : List Event) : Prop :=
  (transmissions log).Perm (log.filterMap Event.announced? ++ sent (record [] log))

/-- One more event is accounted for, if nothing is released that does not wait. -/
theorem accounts_concat {log : List Event} (accounts : Accounts log) {ev : Event}
    (someone : ∀ d mac, ev = .released d mac → waitingFor (record [] log) d.nextHop ≠ []) : Accounts (log ++ [ev]) := by
  unfold Accounts transmissions at *
  rw [List.filterMap_append, List.filterMap_append, record_append]
  generalize log.filterMap Event.announced? = own at accounts ⊢
  generalize record [] log = j at accounts someone ⊢
  have aside : ∀ t, (List.filterMap Event.transmission? log ++ [t]).Perm (own ++ t :: sent j) := by
    intro t
    exact (accounts.append_right [t]).trans ((List.perm_append_singleton t _).trans List.perm_middle.symm)
  cases ev with
  | announced t =>
    rw [List.append_assoc own]
    exact aside t
  | delivered d mac =>
    have more : sent (note j (.delivered d mac)) = sent j ++ [d.resolved mac] := List.filterMap_append
    show (_ ++ [d.resolved mac]).Perm (own ++ [] ++ sent (note j (.delivered d mac)))
    rw [more, List.append_nil, ← List.append_assoc]
    exact accounts.append_right _
  | queued d =>
    have same : sent (note j (.queued d)) = sent j := List.filterMap_append.trans (List.append_nil _)
    show (_ ++ []).Perm (own ++ [] ++ sent (note j (.queued d)))
    rw [same, List.append_nil, List.append_nil]
    exact accounts
  | released d mac =>
    have moved := sent_settleFirst (someone d mac rfl) (d.resolved mac)
    show (_ ++ [d.resolved mac]).Perm (own ++ [] ++ sent (note j (.released d mac)))
    rw [List.append_nil]
    exact (aside _).trans (moved.symm.append_left own)
  | abandoned given =>
    show (_ ++ []).Perm (own ++ [] ++ sent (settleAll given.ip .givenUp j))
    rw [sent_settleAll, List.append_nil, List.append_nil]
    exact accounts

end Journal

end SoftRouter
