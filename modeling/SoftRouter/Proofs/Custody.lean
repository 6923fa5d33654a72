import SoftRouter.Proofs.Resolution

/-!
# Frames in the custody of address resolution

Address resolution as its users see it: operations one after the other, each with its answer. A frame handed in
for an address stays until the resolution for that address ends, and is handed back with it. For every address, what
was handed back and then what still waits is, in order, what was handed in (`handedBack_append_waiting`).
-/

namespace SoftRouter

/-- What can be asked of address resolution, each thing at its own reading of the clock, and a tick in an order of its
own. -/
inductive Operation where
  | lookup (ip : Ipv4Addr)
  | learn (mac : Mac) (ip : Ipv4Addr) (now : Nat)
  | await (delivery : Delivery) (now : Nat)
  | tick (now : Nat) (order : List Ipv4Addr)

/-- What an operation answers: the address looked up, the resolution that learning ended, what became of the one
that a frame joined, or what became of all of them at a tick. -/
inductive Answer where
  | looked (mac : Option Mac)
  | learned (ended : Option Resolution)
  | awaited (progress : Progress)
  | ticked (progress : List Progress)

/-- The resolution that is given up. -/
def Progress.given? : Progress → Option Resolution
  | .waiting | .asking .. => none
  | .abandoned given => some given

/-- The resolutions that an answer hands back. -/
def Answer.handedBack : Answer → List Resolution
  | .looked _ => []
  | .learned ended => ended.toList
  | .awaited progress => progress.given?.toList
  | .ticked progress => progress.filterMap Progress.given?

/-- The frame that an operation hands in for an address. -/
def Operation.handsIn? (ip : Ipv4Addr) : Operation → Option EthernetFrame
  | .await d _ => if d.nextHop = ip then some d.frame else none
  | .lookup _ | .learn .. | .tick .. => none

namespace NeighbourCache

variable (c : NeighbourCache) (d : Delivery) (now : Nat) (ip : Ipv4Addr)

/-- An operation, and its answer. -/
def perform : Operation → NeighbourCache × Answer
  | .lookup ip => (c, .looked (c.mac? ip))
  | .learn mac ip now => (c.learn mac ip now, .learned (c.resolution? ip))
  | .await d now => ((c.await d now).1, .awaited (c.await d now).2)
  | .tick now order => (c.tick now, .ticked (c.tickProgress now order))

/-- Operations one after the other, and their answers. -/
def performAll (c : NeighbourCache) : List Operation → NeighbourCache × List Answer
  | [] => (c, [])
  | op :: rest =>
    let (c, answer) := c.perform op
    let (c, answers) := c.performAll rest
    (c, answer :: answers)

/-- The frames that wait for an address. -/
def waitingFrames : List EthernetFrame := (c.resolution? ip).toList.flatMap Resolution.waiting

/-- The frames that came back with resolutions for an address. -/
def framesOf (given : List Resolution) : List EthernetFrame :=
  (given.filter fun r => r.ip = ip).flatMap Resolution.waiting

variable {c d now ip} {order : List Ipv4Addr}

theorem framesOf_append (first later : List Resolution) :
    framesOf ip (first ++ later) = framesOf ip first ++ framesOf ip later := by
  rw [framesOf, List.filter_append, List.flatMap_append, framesOf, framesOf]

theorem waitingFrames_of_resolution {r : Resolution} (pending : c.resolution? ip = some r) :
    c.waitingFrames ip = r.waiting := by
  simp [waitingFrames, pending]

theorem waitingFrames_of_none (none : c.resolution? ip = none) : c.waitingFrames ip = [] := by
  simp [waitingFrames, none]

theorem given_tickProgress (c : NeighbourCache) (now : Nat) (order : List Ipv4Addr) :
    (c.tickProgress now order).filterMap Progress.given? =
      (c.visited order).filter fun r => r.need now = .surrender := by
  unfold tickProgress
  rw [List.filterMap_filterMap, ← List.filterMap_eq_filter]
  congr 1
  funext r
  cases need : r.need now <;> simp [Progress.given?, need, Option.guard]

theorem overdue_of_abandoned {given : Resolution} (mem : .abandoned given ∈ c.tickProgress now order) :
    c.resolution? given.ip = some given ∧ given.need now = .surrender := by
  have member : given ∈ (c.tickProgress now order).filterMap Progress.given? := List.mem_filterMap.2 ⟨_, mem, rfl⟩
  rw [given_tickProgress] at member
  obtain ⟨visited, ends⟩ := List.mem_filter.1 member
  exact ⟨mem_visited.1 visited, of_decide_eq_true ends⟩

/-- A tick asks only for addresses whose resolution is due to ask. -/
theorem due_of_asking {other : Ipv4Addr} {interface : String}
    (mem : .asking other interface ∈ c.tickProgress now order) :
    ∃ r, c.resolution? other = some r ∧ r.interface = interface ∧ r.need now = .question := by
  obtain ⟨r, member, asks⟩ := List.mem_filterMap.1 mem
  have pending : c.resolution? r.ip = some r := mem_visited.1 member
  cases need : r.need now <;> rw [need] at asks
  · cases asks
  · cases asks
    exact ⟨r, pending, rfl, need⟩
  · cases asks

theorem conserves_learn (mac : Mac) (other : Ipv4Addr) :
    framesOf ip (c.resolution? other).toList ++ (c.learn mac other now).waitingFrames ip = c.waitingFrames ip := by
  rw [waitingFrames, resolution?_learn, waitingFrames]
  by_cases same : other = ip
  · subst same
    cases pending : c.resolution? other with
    | none => simp [framesOf]
    | some r => simp [framesOf, ip_of_resolution pending]
  · rw [if_neg same]
    cases pending : c.resolution? other with
    | none => simp [framesOf]
    | some r => simp [framesOf, ip_of_resolution pending, same]

/-- A frame that is made to wait may find its next hop given up. -/
theorem given?_await (c : NeighbourCache) (d : Delivery) (now : Nat) : (c.await d now).2.given? =
    if (c.joined d).need now = .surrender then some (c.joined d) else none := by
  rw [await_outcome]
  cases (c.joined d).need now <;> rfl

theorem waiting_joined_eq : (c.joined d).waiting = c.waitingFrames d.nextHop ++ [d.frame] := by
  rw [waiting_joined, queue, waitingFrames]
  cases c.resolution? d.nextHop <;> simp [Function.comp_def]

theorem conserves_await :
    framesOf ip (c.await d now).2.given?.toList ++ (c.await d now).1.waitingFrames ip =
      c.waitingFrames ip ++ (if d.nextHop = ip then [d.frame] else []) := by
  have outcome := c.await_outcome d now
  by_cases hop : d.nextHop = ip
  · subst hop
    rw [if_pos rfl, ← waiting_joined_eq, waitingFrames, resolution?_await_self]
    cases need : (c.joined d).need now <;> rw [need] at outcome <;>
      simp [outcome, Progress.given?, framesOf, ip_joined]
  · have others : framesOf ip (c.await d now).2.given?.toList = [] := by
      cases need : (c.joined d).need now <;> rw [need] at outcome <;>
        simp [outcome, Progress.given?, framesOf, ip_joined, hop]
    rw [if_neg hop, others, waitingFrames, resolution?_await_ne _ _ _ hop, waitingFrames, List.append_nil,
      List.nil_append]

theorem conserves_tick :
    framesOf ip ((c.tickProgress now order).filterMap Progress.given?) ++ (c.tick now).waitingFrames ip =
      c.waitingFrames ip := by
  have given : ((c.visited order).filter fun r => r.need now = .surrender).filter (fun r => r.ip = ip) =
      (c.resolution? ip).toList.filter fun r => r.need now = .surrender := by
    rw [← c.filter_ip_visited order, List.filter_filter, List.filter_filter]
    simp only [Bool.and_comm]
  rw [given_tickProgress, framesOf, given, waitingFrames, resolution?_tick, waitingFrames]
  cases c.resolution? ip with
  | none => rfl
  | some r => by_cases ends : r.need now = .surrender <;> simp [ends, Option.filter]

/-- An operation hands back frames from the front of those that wait, and puts what is handed in behind them. -/
theorem conserves_perform (c : NeighbourCache) (op : Operation) (ip : Ipv4Addr) :
    framesOf ip (c.perform op).2.handedBack ++ (c.perform op).1.waitingFrames ip =
      c.waitingFrames ip ++ (op.handsIn? ip).toList := by
  cases op with
  | lookup other => simp [perform, Answer.handedBack, framesOf, Operation.handsIn?]
  | learn mac other now =>
    rw [Operation.handsIn?, Option.toList_none, List.append_nil]
    exact conserves_learn mac other
  | await d now =>
    have in? : (Operation.handsIn? ip (.await d now)).toList = if d.nextHop = ip then [d.frame] else [] := by
      by_cases hop : d.nextHop = ip <;> simp [Operation.handsIn?, hop]
    rw [in?]
    exact conserves_await
  | tick now order =>
    rw [Operation.handsIn?, Option.toList_none, List.append_nil]
    exact conserves_tick

theorem conserves_performAll (c : NeighbourCache) (ops : List Operation) (ip : Ipv4Addr) :
    framesOf ip ((c.performAll ops).2.flatMap Answer.handedBack) ++ (c.performAll ops).1.waitingFrames ip =
      c.waitingFrames ip ++ ops.filterMap (Operation.handsIn? ip) := by
  -- What the first operation leaves waiting is what the others start from.
  induction ops generalizing c with
  | nil => simp [performAll, framesOf]
  | cons op rest ih =>
    have first := conserves_perform c op ip
    have handed : (op :: rest).filterMap (Operation.handsIn? ip) =
        (op.handsIn? ip).toList ++ rest.filterMap (Operation.handsIn? ip) := by
      cases given : op.handsIn? ip <;> simp [given]
    rw [performAll, List.flatMap_cons, framesOf_append, List.append_assoc, ih, ← List.append_assoc, first, handed,
      List.append_assoc]

/-- No frame that waits is lost, duplicated or reordered: over all operations on an empty cache, the frames that came
back for an address and then those that still wait for it are the frames handed in for it, in order. -/
theorem handedBack_append_waiting (ops : List Operation) (ip : Ipv4Addr) :
    framesOf ip ((performAll {} ops).2.flatMap Answer.handedBack) ++ (performAll {} ops).1.waitingFrames ip =
      ops.filterMap (Operation.handsIn? ip) :=
  conserves_performAll {} ops ip

end NeighbourCache

end SoftRouter
