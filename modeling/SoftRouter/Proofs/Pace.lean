import SoftRouter.Proofs.Custody

/-!
# The pace for one address

Times at which an address was asked for, all of them and those of the resolution under way, against what is known of
the address: the questions are a second apart, and whatever comes next may come at once only if the last question
rested. A question, an answer, the end of a resolution and a forgotten neighbour all keep this.
-/

namespace SoftRouter

/-- The resolution has asked at these times of its round, the last of all times the address was asked for. -/
structure Resolution.Counts (r : Resolution) (asked round : List Nat) : Prop where
  number : r.questions = round.length
  few : round.length ≤ maxQuestions
  last : ∃ t, r.askedAt = some t ∧ round.getLast? = some t ∧ ∀ s ∈ asked, s ≤ t

/-- What is known of an address and of the questions about it: they keep their distance, and a resolution that
starts now would keep it too. -/
structure Pace (now : Nat) (asked round : List Nat) (pending : Option Resolution) (known : Option Neighbour) :
    Prop where
  spaced : asked.Pairwise fun s t => s + askInterval ≤ t
  past : ∀ s ∈ asked, s ≤ now
  counts : ∀ r, pending = some r → r.Counts asked round
  idle : pending = none →
    round = [] ∧ ∀ s ∈ asked, s + askInterval ≤ now ∨ ∃ n, known = some n ∧ s ≤ n.learnedAt

namespace Resolution

variable {r : Resolution} {now : Nat}

theorem elapsed_of_need (ready : r.need now ≠ .patience) {t : Nat} (asked : r.askedAt = some t) :
    t + askInterval ≤ now := by
  unfold need at ready
  split at ready
  · exact absurd rfl ready
  · rename_i late
    have gap : askInterval ≤ now - t := by simpa [asked] using late
    have positive : 0 < askInterval := by decide
    omega

theorem few_of_need (asks : r.need now = .question) : r.questions < maxQuestions := by
  unfold need at asks
  split at asks
  · cases asks
  split at asks
  · cases asks
  · omega

theorem many_of_need (ends : r.need now = .surrender) : maxQuestions ≤ r.questions := by
  unfold need at ends
  split at ends
  · cases ends
  split at ends
  · assumption
  · cases ends

/-- A count depends on the questions of a resolution alone, not on the frames that wait for it. -/
theorem Counts.congr {s : Resolution} {asked round : List Nat} (counts : r.Counts asked round)
    (number : s.questions = r.questions) (last : s.askedAt = r.askedAt) : s.Counts asked round :=
  ⟨number.trans counts.number, counts.few, last ▸ counts.last⟩

end Resolution

namespace Pace

variable {now : Nat} {asked round : List Nat} {pending : Option Resolution} {known : Option Neighbour}

theorem nil (now : Nat) : Pace now [] [] none none where
  spaced := .nil
  past := by simp
  counts := by simp
  idle := by simp

theorem later (pace : Pace now asked round pending known) {then' : Nat} (le : now ≤ then') :
    Pace then' asked round pending known where
  spaced := pace.spaced
  past s mem := Nat.le_trans (pace.past s mem) le
  counts := pace.counts
  idle none := by
    obtain ⟨empty, rested⟩ := pace.idle none
    refine ⟨empty, ?_⟩
    intro s mem
    exact (rested s mem).imp_left fun gap => Nat.le_trans gap le

theorem rested {r : Resolution} (pace : Pace now asked round (some r) known) (ready : r.need now ≠ .patience) :
    ∀ s ∈ asked, s + askInterval ≤ now := by
  obtain ⟨t, askedAt, -, last⟩ := (pace.counts r rfl).last
  have gap := Resolution.elapsed_of_need ready askedAt
  intro s mem
  have before := last s mem
  omega

theorem rested_of_none (pace : Pace now asked round none none) : ∀ s ∈ asked, s + askInterval ≤ now := by
  intro s mem
  rcases (pace.idle rfl).2 s mem with gap | ⟨_, known, -⟩
  · exact gap
  · cases known

/-- A question that is due keeps the distance and becomes the last of its round. -/
theorem ask (pace : Pace now asked round pending known) {r : Resolution} (number : r.questions = round.length)
    (few : round.length < maxQuestions) (rested : ∀ s ∈ asked, s + askInterval ≤ now) (known' : Option Neighbour) :
    Pace now (asked ++ [now]) (round ++ [now]) (some (r.asked now)) known' where
  spaced := by
    refine List.pairwise_append.2 ⟨pace.spaced, List.pairwise_singleton _ _, ?_⟩
    simpa using rested
  past s mem := by
    rcases List.mem_append.1 mem with mem | mem
    · exact pace.past s mem
    · exact Nat.le_of_eq (List.mem_singleton.1 mem)
  counts s same := by
    cases same
    refine ⟨by simp [Resolution.asked, number], by simpa using Nat.succ_le_of_lt few, now, rfl, by simp, ?_⟩
    intro s mem
    rcases List.mem_append.1 mem with mem | mem
    · exact pace.past s mem
    · exact Nat.le_of_eq (List.mem_singleton.1 mem)
  idle none := by cases none

theorem surrender {r : Resolution} (pace : Pace now asked round (some r) known) (ends : r.need now = .surrender) :
    round.length = maxQuestions ∧ ∃ last, round.getLast? = some last ∧ last + askInterval ≤ now := by
  obtain ⟨number, few, t, askedAt, last, -⟩ := pace.counts r rfl
  have many := Resolution.many_of_need ends
  refine ⟨by omega, t, last, ?_⟩
  exact Resolution.elapsed_of_need (by simp [ends]) askedAt

/-- When a resolution has been given up, the next may start at once. -/
theorem ended (pace : Pace now asked round pending known) (rested : ∀ s ∈ asked, s + askInterval ≤ now)
    (known' : Option Neighbour) : Pace now asked [] none known' where
  spaced := pace.spaced
  past := pace.past
  counts _ same := by cases same
  idle _ := ⟨rfl, fun s mem => .inl (rested s mem)⟩

/-- Of an address just learned no question is younger than the answer. -/
theorem learned (pace : Pace now asked round pending known) (mac : Mac) (ip : Ipv4Addr) :
    Pace now asked [] none (some ⟨ip, mac, now⟩) where
  spaced := pace.spaced
  past := pace.past
  counts _ same := by cases same
  idle _ := ⟨rfl, fun s mem => .inr ⟨_, rfl, pace.past s mem⟩⟩

/-- Frames may join a resolution, and neighbours be forgotten when there is one. -/
theorem join {r : Resolution} (pace : Pace now asked round (some r) known) (s : Resolution)
    (number : s.questions = r.questions) (last : s.askedAt = r.askedAt) (known' : Option Neighbour) :
    Pace now asked round (some s) known' where
  spaced := pace.spaced
  past := pace.past
  counts _ same := by
    cases same
    exact (pace.counts r rfl).congr number last
  idle none := by cases none

/-- A neighbour is remembered for longer than a question needs to rest. -/
theorem forget (pace : Pace now asked round none known) :
    Pace now asked round none (known.filter fun n => now - n.learnedAt ≤ neighbourTimeout) where
  spaced := pace.spaced
  past := pace.past
  counts _ same := by cases same
  idle _ := by
    obtain ⟨empty, rested⟩ := pace.idle rfl
    refine ⟨empty, ?_⟩
    intro s mem
    rcases rested s mem with gap | ⟨n, rfl, before⟩
    · exact .inl gap
    · by_cases young : now - n.learnedAt ≤ neighbourTimeout
      · exact .inr ⟨n, by simpa using young, before⟩
      · refine .inl ?_
        simp only [neighbourTimeout, askInterval] at young ⊢
        omega

end Pace

/-! ## The pace of address resolution -/

namespace NeighbourCache

variable {c : NeighbourCache} {d : Delivery} {now : Nat} {asked round : List Nat}

/-- The neighbour with an address. -/
def neighbour? (c : NeighbourCache) (ip : Ipv4Addr) : Option Neighbour := c.neighbours.find? ip.bits

theorem neighbour?_eq_none {ip : Ipv4Addr} : c.neighbour? ip = none ↔ c.mac? ip = none := by
  rw [mac?, neighbour?, Option.map_eq_none_iff]

@[simp] theorem neighbour?_await (ip : Ipv4Addr) : (c.await d now).1.neighbour? ip = c.neighbour? ip := by
  unfold await
  dsimp only
  split <;> rfl

theorem neighbour?_learn (mac : Mac) (ip other : Ipv4Addr) :
    (c.learn mac ip now).neighbour? other = if ip = other then some ⟨ip, mac, now⟩ else c.neighbour? other := by
  unfold learn neighbour?
  rw [Keyed.find?_put]
  by_cases same : ip = other
  · simp [same, Neighbour.key]
  · simp [same, Neighbour.key, Ipv4Addr.bits_inj]

theorem neighbour?_tick (ip : Ipv4Addr) : (c.tick now).neighbour? ip =
    (c.neighbour? ip).filter fun n => now - n.learnedAt ≤ neighbourTimeout := Keyed.find?_filter ..

section
variable (pace : Pace now asked round (c.resolution? d.nextHop) none)
include pace

theorem questions_joined : (c.joined d).questions = round.length := by
  rcases c.joined_cases d with ⟨none, fresh⟩ | ⟨r, pending, joins⟩
  · rw [fresh, (pace.idle none).1]
    rfl
  · rw [joins, ← (pace.counts r pending).number]
    rfl

theorem rested_joined (ready : (c.joined d).need now ≠ .patience) : ∀ s ∈ asked, s + askInterval ≤ now := by
  rcases c.joined_cases d with ⟨none, -⟩ | ⟨r, pending, joins⟩
  · rw [none] at pace
    exact pace.rested_of_none
  · rw [pending] at pace
    rw [joins, Resolution.need_join] at ready
    exact pace.rested ready

theorem paced_joined (waits : (c.joined d).need now = .patience) :
    Pace now asked round (some (c.joined d)) none := by
  rcases c.joined_cases d with ⟨-, fresh⟩ | ⟨r, pending, joins⟩
  · -- A fresh resolution asks at once.
    rw [fresh, Resolution.need_join, Resolution.need_fresh] at waits
    cases waits
  · rw [pending] at pace
    rw [joins]
    exact pace.join (r.join d.frame) rfl rfl none

theorem paced_asked (asks : (c.joined d).need now = .question) :
    round.length < maxQuestions ∧ Pace now (asked ++ [now]) (round ++ [now]) (some ((c.joined d).asked now)) none := by
  have number := questions_joined pace
  have few : round.length < maxQuestions := number ▸ Resolution.few_of_need asks
  exact ⟨few, pace.ask number few (rested_joined pace (by simp [asks])) none⟩

theorem paced_surrendered (ends : (c.joined d).need now = .surrender) :
    (round.length = maxQuestions ∧ ∃ last, round.getLast? = some last ∧ last + askInterval ≤ now) ∧
      Pace now asked [] none none := by
  refine ⟨?_, pace.ended (rested_joined pace (by simp [ends])) none⟩
  rcases c.joined_cases d with ⟨-, fresh⟩ | ⟨r, pending, joins⟩
  · rw [fresh, Resolution.need_join, Resolution.need_fresh] at ends
    cases ends
  · rw [pending] at pace
    rw [joins, Resolution.need_join] at ends
    exact pace.surrender ends

end

/-- The question about an address that a tick calls for. -/
def due (c : NeighbourCache) (now : Nat) (ip : Ipv4Addr) : List Nat :=
  if (c.resolution? ip).any fun r => r.need now = .question then [now] else []

/-- A tick ends the resolution for an address. -/
def gives (c : NeighbourCache) (now : Nat) (ip : Ipv4Addr) : Bool :=
  (c.resolution? ip).any fun r => r.need now = .surrender

theorem pace_tick {ip : Ipv4Addr} (pace : Pace now asked round (c.resolution? ip) (c.neighbour? ip)) :
    Pace now (asked ++ c.due now ip) ((if c.gives now ip then [] else round) ++ c.due now ip)
      ((c.tick now).resolution? ip) ((c.tick now).neighbour? ip) := by
  rw [c.resolution?_tick now ip, neighbour?_tick]
  unfold due gives
  cases pending : c.resolution? ip with
  | none =>
    rw [pending] at pace
    simpa using pace.forget
  | some r =>
    rw [pending] at pace
    cases need : r.need now with
    | patience => simpa [Option.filter, need, Resolution.advanced] using pace.join r rfl rfl _
    | question =>
      have number := (pace.counts r rfl).number
      have few : round.length < maxQuestions := number ▸ Resolution.few_of_need need
      simpa [Option.filter, need, Resolution.advanced] using pace.ask number few (pace.rested (by simp [need])) _
    | surrender => simpa [Option.filter, need] using pace.ended (pace.rested (by simp [need])) _

end NeighbourCache

end SoftRouter
