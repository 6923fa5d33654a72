import SoftRouter.Proofs.Custody
import SoftRouter.Router.Run

/-!
# Deliveries one after the other

A delivery whose next hop is known is sent. Any other waits, and if its next hop is given up, the notices about that
come before the deliveries that are left (`dispatch_unknown_cons`); proofs about all deliveries follow these two
cases (`dispatch_induction`). Work done in two parts is the first part and then the second (`dispatch_append`).
-/

namespace SoftRouter

namespace Router

variable {r : Router} {now : Nat} {d : Delivery}

/-- What is to be seen of the progress of a resolution. -/
def outcome (r : Router) : Progress → List Event
  | .waiting => []
  | .asking ip interface => r.question ip interface
  | .abandoned given => [.abandoned given]

/-- The notices due for the progress of a resolution. -/
def notices (r : Router) (p : Progress) : List Delivery := p.given?.toList.flatMap r.regrets

theorem notices_eq_nil (goesOn : (r.arp.joined d).need now ≠ .surrender) : r.notices (r.arp.await d now).2 = [] := by
  rw [notices, r.arp.given?_await d now, if_neg goesOn]
  rfl

theorem abandoned_of_mem {progress : List Progress} {ev : Event} (mem : ev ∈ abandonments progress) :
    ∃ given, ev = .abandoned given := by
  obtain ⟨p, -, same⟩ := List.mem_filterMap.1 mem
  cases p <;> cases same
  exact ⟨_, rfl⟩

theorem dispatch_nil (r : Router) (now : Nat) : r.dispatch now [] = (r, []) := by rw [dispatch]

theorem dispatch_known_cons {mac : Mac} (known : r.arp.mac? d.nextHop = some mac) (rest : List Delivery) :
    r.dispatch now (d :: rest) = ((r.dispatch now rest).1, .delivered d mac :: (r.dispatch now rest).2) := by
  rw [dispatch]
  simp only [known]

theorem dispatch_unknown_cons (missing : r.arp.mac? d.nextHop = none) (rest : List Delivery) :
    r.dispatch now (d :: rest) =
      let later := ({ r with arp := (r.arp.await d now).1 } : Router).dispatch now
        (r.notices (r.arp.await d now).2 ++ rest)
      (later.1, .queued d :: r.outcome (r.arp.await d now).2 ++ later.2) := by
  rw [dispatch]
  simp only [missing]
  split
  · rename_i waits
    rw [waits]
    rfl
  · rename_i asks
    rw [asks]
    rfl
  · rename_i gives
    rw [gives]
    simp [notices, Progress.given?, outcome]

theorem dispatch_induction (now : Nat) {P : Router → List Delivery → Prop} (nil : ∀ r, P r [])
    (known : ∀ r d rest mac, r.arp.mac? d.nextHop = some mac → P r rest → P r (d :: rest))
    (unknown : ∀ r d rest, r.arp.mac? d.nextHop = none →
      P { r with arp := (r.arp.await d now).1 } (r.notices (r.arp.await d now).2 ++ rest) → P r (d :: rest))
    (r : Router) (work : List Delivery) : P r work := by
  fun_induction dispatch r now work with
  | case1 r => exact nil r
  | case2 r d rest mac found _ _ _ ih => exact known r d rest mac found ih
  | case3 r d rest missing waits _ _ _ ih =>
    refine unknown r d rest missing ?_
    rw [waits]
    exact ih
  | case4 r d rest missing ip interface asks _ _ _ ih =>
    refine unknown r d rest missing ?_
    rw [asks]
    exact ih
  | case5 r d rest missing given gives _ _ _ ih =>
    refine unknown r d rest missing ?_
    rw [gives]
    simpa [notices, Progress.given?] using ih

theorem dispatch_append (r : Router) (now : Nat) (first later : List Delivery) :
    r.dispatch now (first ++ later) = (((r.dispatch now first).1.dispatch now later).1,
      (r.dispatch now first).2 ++ ((r.dispatch now first).1.dispatch now later).2) := by
  induction r, first using dispatch_induction now with
  | nil r =>
    rw [dispatch_nil]
    rfl
  | known r d rest mac found ih =>
    rw [List.cons_append, dispatch_known_cons found, dispatch_known_cons found, ih]
    rfl
  | unknown r d rest missing ih =>
    rw [List.cons_append, dispatch_unknown_cons missing, dispatch_unknown_cons missing, ← List.append_assoc, ih]
    simp only [List.cons_append, List.append_assoc]

/-- What is kept when a frame is made to wait is kept through all that a dispatch or the progress of resolutions calls
for: nothing else there changes the router. -/
def KeptByWaiting (now : Nat) (P : Router → Prop) : Prop :=
  ∀ (r : Router) (d : Delivery), P r → P { r with arp := (r.arp.await d now).1 }

section
variable {P : Router → Prop} {r : Router} {now : Nat} (kept : KeptByWaiting now P) (start : P r)
include kept start

theorem dispatch_keeps (work : List Delivery) : P (r.dispatch now work).1 := by
  induction r, work using dispatch_induction now with
  | nil r => rwa [dispatch_nil]
  | known r d rest mac found ih =>
    rw [dispatch_known_cons found]
    exact ih start
  | unknown r d rest missing ih =>
    rw [dispatch_unknown_cons missing]
    exact ih (kept r d start)

theorem follow_keeps (p : Progress) : P (r.follow now p).1 := by
  cases p with
  | waiting => exact start
  | asking ip interface => exact start
  | abandoned given => exact dispatch_keeps kept start (r.regrets given)

theorem followAll_keeps (progress : List Progress) : P (r.followAll now progress).1 := by
  induction progress generalizing r with
  | nil => exact start
  | cons p rest ih => exact ih (follow_keeps kept start p)

end

end Router

end SoftRouter
