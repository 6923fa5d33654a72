import SoftRouter.Router.Handle

/-!
# Runs of a router

What happens to a router from outside comes one thing after the other, each at its own reading of
the clock in whole milliseconds: a response is done with before the next thing comes, and the clock
is read once for all of it. A run in two parts does what its first part does and then what its
second part does (`run_append`), and what every single response keeps a run keeps (`run_keeps`).
-/

namespace SoftRouter

/-- One thing that happens to a router. -/
inductive Stimulus where
  /-- It is brought up. -/
  | init
  /-- A frame arrives. -/
  | frame (received : Transmission)
  /-- The regular moment of address resolution, with the order in which it comes upon the addresses. -/
  | arpTick (order : List Ipv4Addr)
  /-- The regular moment of the routing protocol. -/
  | ripTick
  deriving DecidableEq, Repr, Inhabited

namespace Router

/-- What a router does about a stimulus. -/
def respond (r : Router) (now : Nat) : Stimulus → Router × List Event
  | .init => r.init
  | .frame received => r.handle now received.interface received.frame
  | .arpTick order => r.arpTick now order
  | .ripTick => r.ripTick now

/-- What a router does over a run of stimuli, one after the other, and the times they come at: for each the one reading
of the clock, in milliseconds, that all of the response goes by. Nothing is said of the readings among each other. -/
def run (r : Router) : List (Nat × Stimulus) → Router × List Event
  | [] => (r, [])
  | (now, s) :: rest =>
    let (r, first) := r.respond now s
    let (r, later) := r.run rest
    (r, first ++ later)

theorem run_cons (r : Router) (now : Nat) (s : Stimulus) (xs : List (Nat × Stimulus)) :
    r.run ((now, s) :: xs) =
      (((r.respond now s).1.run xs).1, (r.respond now s).2 ++ ((r.respond now s).1.run xs).2) := rfl

theorem run_append (r : Router) (xs ys : List (Nat × Stimulus)) :
    r.run (xs ++ ys) = (((r.run xs).1.run ys).1, (r.run xs).2 ++ ((r.run xs).1.run ys).2) := by
  induction xs generalizing r with
  | nil => rfl
  | cons x xs ih => simp only [List.cons_append, run, ih, List.append_assoc]

theorem run_concat (r : Router) (xs : List (Nat × Stimulus)) (x : Nat × Stimulus) :
    r.run (xs ++ [x]) = (((r.run xs).1.respond x.1 x.2).1, (r.run xs).2 ++ ((r.run xs).1.respond x.1 x.2).2) := by
  rw [run_append, run_cons, run, List.append_nil]

/-- What every response keeps holds after every run. -/
theorem run_keeps {P : Router → Prop} (keeps : ∀ r now s, P r → P (r.respond now s).1) {r : Router} (h : P r)
    (xs : List (Nat × Stimulus)) : P (r.run xs).1 := by
  induction xs generalizing r with
  | nil => exact h
  | cons x xs ih => exact ih (keeps r x.1 x.2 h)

end Router

end SoftRouter
