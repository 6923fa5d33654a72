import SoftRouter.Delivery
import SoftRouter.Keyed

/-!
# Address resolution

Which MAC address belongs to an IPv4 address on a link, and which frames wait to know. A neighbour
is remembered for a time. For an address not known the router asks at most five times, a second
apart, and then gives up on the frames that wait. `overdue` counts the resolutions that would be
given up now: no operation raises it, and giving up lowers it.
-/

namespace SoftRouter

/-- How long a neighbour is remembered, in milliseconds. -/
def neighbourTimeout : Nat := 15000

/-- The least time between two questions about one address, in milliseconds. -/
def askInterval : Nat := 1000

/-- How often an address is asked for before it is given up. -/
def maxQuestions : Nat := 5

/-- A station whose MAC address is known. -/
structure Neighbour where
  ip : Ipv4Addr
  mac : Mac
  learnedAt : Nat
  deriving DecidableEq, Repr, Inhabited

/-- The order of neighbours. -/
def Neighbour.key (n : Neighbour) : UInt32 := n.ip.bits

/-- An address being asked for on the interface of the first frame that needed it, and the frames
that wait for it in the order they came. -/
structure Resolution where
  ip : Ipv4Addr
  interface : String
  askedAt : Option Nat := none
  questions : Nat := 0
  waiting : List EthernetFrame := []
  deriving DecidableEq, Repr, Inhabited

/-- What a resolution needs now. -/
inductive Need where
  | patience
  | question
  | surrender
  deriving DecidableEq, Repr

namespace Resolution

/-- The order of resolutions. -/
def key (r : Resolution) : UInt32 := r.ip.bits

/-- Nothing within the interval after a question; then the next question, or the end if there have
been enough. -/
def need (r : Resolution) (now : Nat) : Need :=
  if r.askedAt.any fun t => now - t < askInterval then .patience
  else if maxQuestions ≤ r.questions then .surrender
  else .question

/-- The resolution after a question was asked now. -/
def asked (r : Resolution) (now : Nat) : Resolution :=
  { r with askedAt := some now, questions := r.questions + 1 }

/-- The resolution with one more frame waiting. -/
def join (r : Resolution) (frame : EthernetFrame) : Resolution := { r with waiting := r.waiting ++ [frame] }

/-- The deliveries of the waiting frames. -/
def deliveries (r : Resolution) : List Delivery := r.waiting.map fun f => ⟨r.interface, r.ip, f⟩

/-- The resolution after the present moment, if it goes on. -/
def advanced (r : Resolution) (now : Nat) : Resolution := if r.need now = .question then r.asked now else r

@[simp] theorem key_asked (r : Resolution) (now : Nat) : (r.asked now).key = r.key := rfl

@[simp] theorem key_join (r : Resolution) (frame : EthernetFrame) : (r.join frame).key = r.key := rfl

@[simp] theorem key_advanced (r : Resolution) (now : Nat) : (r.advanced now).key = r.key := by
  unfold advanced
  split <;> rfl

@[simp] theorem need_join (r : Resolution) (frame : EthernetFrame) (now : Nat) :
    (r.join frame).need now = r.need now := rfl

theorem need_asked (r : Resolution) (now : Nat) : (r.asked now).need now = .patience := by
  simp [need, asked, askInterval]

/-- An address nobody has asked for yet is worth a question. -/
theorem need_fresh (ip : Ipv4Addr) (interface : String) (now : Nat) :
    need { ip, interface } now = .question := by
  simp [need, maxQuestions]

end Resolution

/-- Resolutions in another order: those for the listed addresses first, as these are listed, and then the others. -/
def Resolution.inOrder : List Ipv4Addr → List Resolution → List Resolution
  | [], rs => rs
  | ip :: order, rs => rs.filter (fun r => r.ip = ip) ++ inOrder order (rs.filter fun r => r.ip ≠ ip)

/-- What became of a resolution. -/
inductive Progress where
  | waiting
  | asking (ip : Ipv4Addr) (interface : String)
  | abandoned (resolution : Resolution)
  deriving DecidableEq, Repr

/-- The neighbours known and the resolutions under way. -/
structure NeighbourCache where
  neighbours : Keyed Neighbour.key := .empty
  pending : Keyed Resolution.key := .empty

namespace NeighbourCache

/-- The MAC address of a neighbour. -/
def mac? (c : NeighbourCache) (ip : Ipv4Addr) : Option Mac := (c.neighbours.find? ip.bits).map Neighbour.mac

/-- The resolution under way for an address. -/
def resolution? (c : NeighbourCache) (ip : Ipv4Addr) : Option Resolution := c.pending.find? ip.bits

/-- The cache with a neighbour that just made itself known; the resolution for it is over. -/
def learn (c : NeighbourCache) (mac : Mac) (ip : Ipv4Addr) (now : Nat) : NeighbourCache where
  neighbours := c.neighbours.put ⟨ip, mac, now⟩
  pending := c.pending.erase ip.bits

/-- The resolution that a frame joins: the one under way, or a fresh one. -/
def joined (c : NeighbourCache) (d : Delivery) : Resolution :=
  ((c.resolution? d.nextHop).getD { ip := d.nextHop, interface := d.interface }).join d.frame

/-- Makes a frame wait for the address of its next hop. -/
def await (c : NeighbourCache) (d : Delivery) (now : Nat) : NeighbourCache × Progress :=
  let r := c.joined d
  match r.need now with
  | .patience => ({ c with pending := c.pending.put r }, .waiting)
  | .question => ({ c with pending := c.pending.put (r.asked now) }, .asking r.ip r.interface)
  | .surrender => ({ c with pending := c.pending.erase d.nextHop.bits }, .abandoned r)

/-- The cache a moment later: old neighbours are forgotten and every resolution moves on or ends. -/
def tick (c : NeighbourCache) (now : Nat) : NeighbourCache where
  neighbours := c.neighbours.filter fun n => now - n.learnedAt ≤ neighbourTimeout
  pending :=
    (c.pending.filter fun r => r.need now ≠ .surrender).map (fun r => r.advanced now) fun r => r.key_advanced now

/-- The resolutions as a tick comes upon them. They stand in no order of their own, so any order is possible, and it may
be another one at every tick. -/
def visited (c : NeighbourCache) (order : List Ipv4Addr) : List Resolution :=
  Resolution.inOrder order c.pending.toList

/-- What becomes of the resolutions at a tick, except those that wait, as the tick comes upon them. -/
def tickProgress (c : NeighbourCache) (now : Nat) (order : List Ipv4Addr := []) : List Progress :=
  (c.visited order).filterMap fun r =>
    match r.need now with
    | .patience => none
    | .question => some (.asking r.ip r.interface)
    | .surrender => some (.abandoned r)

/-- The number of resolutions that would be given up now. -/
def overdue (c : NeighbourCache) (now : Nat) : Nat := c.pending.toList.countP fun r => r.need now = .surrender

theorem key_joined (c : NeighbourCache) (d : Delivery) : (c.joined d).key = d.nextHop.bits := by
  unfold joined
  rw [Resolution.key_join]
  cases h : c.resolution? d.nextHop with
  | none => rfl
  | some r => exact Keyed.key_of_find? h

/-- A frame that is made to wait never puts another resolution on the brink. -/
theorem overdue_await_le (c : NeighbourCache) (d : Delivery) (now : Nat) :
    (c.await d now).1.overdue now ≤ c.overdue now := by
  unfold await overdue
  dsimp only
  split
  next h => exact Keyed.countP_put_le _ _ (by simp [h])
  next => exact Keyed.countP_put_le _ _ (by simp [Resolution.need_asked])
  next => exact Keyed.countP_erase_le _ _

/-- A resolution that is given up was on the brink and is no longer there. -/
theorem overdue_await_lt {c : NeighbourCache} {d : Delivery} {now : Nat} {r : Resolution}
    (h : (c.await d now).2 = .abandoned r) : (c.await d now).1.overdue now < c.overdue now := by
  unfold await overdue at *
  dsimp only at *
  split at h
  · cases h
  · cases h
  next need =>
    have found : ∃ old, c.resolution? d.nextHop = some old ∧ old.need now = .surrender := by
      unfold joined at need
      cases pending : c.resolution? d.nextHop with
      | some old => exact ⟨old, rfl, by simpa [pending] using need⟩
      | none => rw [pending] at need; simp [Resolution.need_fresh] at need
    obtain ⟨old, pending, surrender⟩ := found
    exact Keyed.countP_erase_lt pending (by simp [surrender])

end NeighbourCache

end SoftRouter
