import SoftRouter.Proofs.Journal

/-!
# The history of a run

What a run did with the moment of each event, and the questions about an address that can be read off it: all of
them, and those since a resolution for the address last ended. In a measured history no resolution asks a sixth time
and none is given up before its fifth question had its time.
-/

namespace SoftRouter

/-- `P` held of one element of the list, and `Q` of all behind it. -/
def Since {α : Type} (P Q : α → Prop) (xs : List α) : Prop :=
  ∃ before x after, xs = before ++ x :: after ∧ P x ∧ ∀ y ∈ after, Q y

section
variable {α : Type} {P Q : α → Prop} {xs ys : List α}

theorem not_since_nil : ¬ Since P Q [] := by
  rintro ⟨before, x, after, split, -⟩
  simp at split

theorem since_append : Since P Q (xs ++ ys) ↔ Since P Q ys ∨ Since P Q xs ∧ ∀ y ∈ ys, Q y := by
  constructor
  · rintro ⟨before, x, after, split, now, later⟩
    rcases List.append_eq_append_iff.1 split with ⟨front, -, rest⟩ | ⟨back, earlier, rest⟩
    · exact .inl ⟨front, x, after, rest, now, later⟩
    · cases back with
      | nil => exact .inl ⟨[], x, after, rest.symm, now, later⟩
      | cons z back =>
        obtain ⟨rfl, rfl⟩ := List.cons.inj rest
        obtain ⟨here, there⟩ := List.forall_mem_append.1 later
        exact .inr ⟨⟨before, x, back, earlier, now, here⟩, there⟩
  · rintro (⟨before, x, after, rfl, now, later⟩ | ⟨⟨before, x, after, rfl, now, later⟩, there⟩)
    · exact ⟨xs ++ before, x, after, by simp, now, later⟩
    · exact ⟨before, x, after ++ ys, by simp, now, List.forall_mem_append.2 ⟨later, there⟩⟩

theorem since_singleton {x : α} : Since P Q [x] ↔ P x := by
  constructor
  · rintro ⟨before, y, after, split, now, -⟩
    cases before with
    | nil => exact (List.cons.inj split).1 ▸ now
    | cons z before => simp at split
  · intro now
    exact ⟨[], x, [], rfl, now, by simp⟩

/-- With one more element behind all others. -/
theorem since_concat {x : α} : Since P Q (xs ++ [x]) ↔ P x ∨ Since P Q xs ∧ Q x := by
  rw [since_append, since_singleton]
  simp

end

/-- The address that a frame asks all stations of its link for. -/
def EthernetFrame.asksFor? (f : EthernetFrame) : Option Ipv4Addr :=
  match ArpFrame.ofFrame f with
  | .ok arp => if arp.dest = Mac.broadcast ∧ arp.op? = some .request then arp.targetIp? else none
  | .error _ => none

/-- The address asked for by what an event sends. -/
def Event.asks? (ev : Event) : Option Ipv4Addr := ev.transmission?.bind (·.frame.asksFor?)

/-- The event ends the resolution for this address: a frame that waited is sent, or all are given up. -/
def Event.ends (ip : Ipv4Addr) : Event → Bool
  | .released d _ => d.nextHop = ip
  | .abandoned given => given.ip = ip
  | .announced _ | .delivered .. | .queued _ => false

/-- What happened, each thing with the reading of the clock. -/
abbrev History := List (Nat × Event)

namespace History

def stamped (now : Nat) (events : List Event) : History := events.map (now, ·)

/-- The times of all questions about an address. -/
def questions (ip : Ipv4Addr) (h : History) : List Nat := (h.filter fun x => x.2.asks? = some ip).map Prod.fst

def tally (ip : Ipv4Addr) (times : List Nat) (x : Nat × Event) : List Nat :=
  if x.2.ends ip then [] else if x.2.asks? = some ip then times ++ [x.1] else times

/-- The times of the questions about an address since a resolution for it last ended. -/
def round (ip : Ipv4Addr) (h : History) : List Nat := h.foldl (tally ip) []

/-- After this history the event may come next: no sixth question of a resolution, and no end of one before the
fifth question had its time. -/
structure Allowed (h : History) (x : Nat × Event) : Prop where
  question : ∀ ip, x.2.asks? = some ip → (round ip h).length < maxQuestions
  surrender : ∀ given, x.2.given? = some given → (round given.ip h).length = maxQuestions ∧
    ∃ last, (round given.ip h).getLast? = some last ∧ last + askInterval ≤ x.1

def Measured (h : History) : History → Prop
  | [] => True
  | x :: later => Allowed h x ∧ Measured (h ++ [x]) later

variable {h : History} {ip : Ipv4Addr} {now : Nat}

theorem questions_append (ip : Ipv4Addr) (h later : History) :
    questions ip (h ++ later) = questions ip h ++ questions ip later := by
  simp [questions]

theorem round_append (ip : Ipv4Addr) (h later : History) :
    round ip (h ++ later) = later.foldl (tally ip) (round ip h) := List.foldl_append

theorem round_concat (ip : Ipv4Addr) (h : History) (x : Nat × Event) :
    round ip (h ++ [x]) = tally ip (round ip h) x := round_append ip h [x]

theorem questions_concat {ev : Event} {ip : Ipv4Addr} (asks : ev.asks? = some ip) (h : History) (now : Nat) :
    questions ip (h ++ [(now, ev)]) = questions ip h ++ [now] := by
  simp [questions, asks]

theorem questions_concat_of_ne {ev : Event} {ip : Ipv4Addr} (asks : ev.asks? ≠ some ip) (h : History) (now : Nat) :
    questions ip (h ++ [(now, ev)]) = questions ip h := by
  simp [questions, asks]

theorem stamped_append (now : Nat) (first later : List Event) :
    stamped now (first ++ later) = stamped now first ++ stamped now later := List.map_append

theorem measured_append {first later : History} :
    Measured h (first ++ later) ↔ Measured h first ∧ Measured (h ++ first) later := by
  induction first generalizing h with
  | nil => simp [Measured]
  | cons x rest ih => simp [Measured, ih, and_assoc]

/-- Events that ask for nothing. -/
def Mute (events : List Event) : Prop := ∀ ev ∈ events, ev.asks? = none

theorem questions_mute {events : List Event} (mute : Mute events) (ip : Ipv4Addr) (h : History) :
    questions ip (h ++ stamped now events) = questions ip h := by
  have silent : questions ip (stamped now events) = [] := by
    simp only [questions, stamped, List.map_eq_nil_iff, List.filter_eq_nil_iff, List.mem_map]
    rintro x ⟨ev, mem, rfl⟩
    simp [mute ev mem]
  rw [questions_append, silent, List.append_nil]

theorem round_mute {events : List Event} (mute : Mute events) (goesOn : ∀ ev ∈ events, ev.ends ip = false)
    (h : History) : round ip (h ++ stamped now events) = round ip h := by
  induction events generalizing h with
  | nil => simp [stamped]
  | cons ev rest ih =>
    have same : tally ip (round ip h) (now, ev) = round ip h := by
      simp [tally, mute ev List.mem_cons_self, goesOn ev List.mem_cons_self]
    have later := ih (fun x mem => mute x (List.mem_cons_of_mem ev mem))
      (fun x mem => goesOn x (List.mem_cons_of_mem ev mem)) (h ++ [(now, ev)])
    rw [round_concat, same] at later
    rw [← later, stamped, stamped, List.map_cons, List.append_assoc, List.singleton_append]

theorem round_eq_nil {events : List Event} (mute : Mute events) {h : History} (empty : round ip h = []) :
    round ip (h ++ stamped now events) = [] := by
  induction events generalizing h with
  | nil => simpa [stamped] using empty
  | cons ev rest ih =>
    have still : round ip (h ++ [(now, ev)]) = [] := by
      simp [round_concat, tally, mute ev List.mem_cons_self, empty]
    have later := ih (fun x mem => mute x (List.mem_cons_of_mem ev mem)) still
    rwa [List.append_assoc, List.singleton_append] at later

/-- Once an event has ended the resolution, events that ask for nothing begin no other. -/
theorem round_of_ends {events : List Event} (mute : Mute events) {ev : Event} (mem : ev ∈ events) (ends : ev.ends ip)
    (h : History) : round ip (h ++ stamped now events) = [] := by
  obtain ⟨before, after, rfl⟩ := List.mem_iff_append.1 mem
  rw [stamped_append, ← List.append_assoc, ← List.singleton_append, stamped_append, ← List.append_assoc]
  refine round_eq_nil (fun x mem => mute x (by simp [mem])) ?_
  exact (round_concat ip _ _).trans (if_pos ends)

theorem mute_abandoned (gs : List Resolution) : Mute (gs.map .abandoned) := by
  intro ev mem
  obtain ⟨g, -, rfl⟩ := List.mem_map.1 mem
  rfl

/-- Different addresses may be given up together. -/
theorem measured_abandoned {gs : List Resolution} (apart : gs.Pairwise fun a b => a.ip ≠ b.ip)
    (many : ∀ g ∈ gs, (round g.ip h).length = maxQuestions ∧
      ∃ last, (round g.ip h).getLast? = some last ∧ last + askInterval ≤ now) :
    Measured h (stamped now (gs.map .abandoned)) := by
  induction gs generalizing h with
  | nil => trivial
  | cons g rest ih =>
    obtain ⟨first, later⟩ := List.pairwise_cons.1 apart
    refine ⟨⟨?_, ?_⟩, ih later ?_⟩
    · intro ip asks
      cases asks
    · intro given same
      cases same
      exact many g List.mem_cons_self
    · intro x mem
      have asks : (Event.abandoned g).asks? ≠ some x.ip := by simp [Event.asks?, Event.transmission?]
      have goesOn : ¬ (Event.abandoned g).ends x.ip := by simpa [Event.ends] using first x mem
      rw [round_concat, tally, if_neg goesOn, if_neg asks]
      exact many x (List.mem_cons_of_mem g mem)

theorem measured_mute {events : List Event} (mute : Mute events) (keeps : ∀ ev ∈ events, ev.given? = none)
    (h : History) : Measured h (stamped now events) := by
  induction events generalizing h with
  | nil => trivial
  | cons ev rest ih =>
    refine ⟨⟨?_, ?_⟩, ih (fun x mem => mute x (List.mem_cons_of_mem ev mem))
      (fun x mem => keeps x (List.mem_cons_of_mem ev mem)) _⟩
    · intro ip asks
      cases (mute ev List.mem_cons_self).symm.trans asks
    · intro given gives
      cases (keeps ev List.mem_cons_self).symm.trans gives

theorem length_round_of_allowed {x : Nat × Event} (allowed : Allowed h x)
    (few : (round ip h).length ≤ maxQuestions) : (round ip (h ++ [x])).length ≤ maxQuestions := by
  rw [round_concat, tally]
  by_cases ended : x.2.ends ip
  · simp [ended]
  · by_cases asks : x.2.asks? = some ip
    · have room := allowed.question ip asks
      simpa [ended, asks] using Nat.succ_le_of_lt room
    · simpa [ended, asks] using few

/-- In a measured history no resolution asks more than five times. -/
theorem length_round_le {later before : History} (measured : Measured h later) (early : before <+: later)
    (few : (round ip h).length ≤ maxQuestions) : (round ip (h ++ before)).length ≤ maxQuestions := by
  induction before generalizing h later with
  | nil => simpa using few
  | cons x rest ih =>
    cases later with
    | nil => simp at early
    | cons y more =>
      obtain ⟨rfl, rest⟩ := List.cons_prefix_cons.1 early
      rw [List.append_cons]
      exact ih measured.2 rest (length_round_of_allowed measured.1 few)

end History

theorem EthernetFrame.asksFor?_datagram {f : EthernetFrame} (type : f.etherType = etherTypeIpv4) :
    f.asksFor? = none := by
  have other : ¬ f.etherType = etherTypeArp := by
    rw [type]
    decide
  simp [asksFor?, ArpFrame.ofFrame, other]

theorem ArpFrame.ofFrame_ethernetIpv4 (op : ArpOp) (dest src senderMac targetMac : Mac) (senderIp targetIp : Ipv4Addr) :
    ofFrame (ethernetIpv4 op dest src senderMac targetMac senderIp targetIp).toFrame =
      .ok (ethernetIpv4 op dest src senderMac targetMac senderIp targetIp) := by
  simp [ofFrame, toFrame, encode, ethernetIpv4, decode, octets16, Mac.octets, Ipv4Addr.octets, octets32]

theorem EthernetFrame.asksFor?_request (mac : Mac) (own ip : Ipv4Addr) :
    (ArpFrame.request mac own ip).toFrame.asksFor? = some ip := by
  unfold asksFor? ArpFrame.request
  rw [ArpFrame.ofFrame_ethernetIpv4]
  simp [ArpFrame.ethernetIpv4, ArpFrame.op?, ArpFrame.targetIp?]

theorem EthernetFrame.asksFor?_reply {question reply : ArpFrame} {mac : Mac} {ip : Ipv4Addr}
    (answers : question.replyTo? mac ip = some reply) : reply.toFrame.asksFor? = none := by
  unfold ArpFrame.replyTo? at answers
  split at answers
  · obtain ⟨sender, -, answers⟩ := Option.bind_eq_some_iff.1 answers
    obtain ⟨source, -, answers⟩ := Option.bind_eq_some_iff.1 answers
    cases answers
    unfold asksFor?
    rw [ArpFrame.ofFrame_ethernetIpv4]
    simp [ArpFrame.ethernetIpv4, ArpFrame.op?]
  · cases answers

namespace Router

open History

/-- What happens over a run, each thing with the reading of the clock. -/
def history (r : Router) : List (Nat × Stimulus) → History
  | [] => []
  | (now, s) :: rest => stamped now (r.respond now s).2 ++ (r.respond now s).1.history rest

end Router

end SoftRouter
