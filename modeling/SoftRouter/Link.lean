import SoftRouter.Delivery

/-!
# An in-memory link

Two queues of frames between a router and the far side that stands for the rest of the network.
Either side can end the session: the router by closing, the far side by going away.
-/

namespace SoftRouter

/-- The frames under way in both directions, and who has left. -/
structure Link where
  inbound : List Transmission := []
  outbound : List Transmission := []
  closed : Bool := false
  abandoned : Bool := false
  deriving DecidableEq, Repr

/-- What the router finds when it receives. -/
inductive Received where
  | frame (transmission : Transmission)
  | ended
  | nothingYet
  deriving DecidableEq, Repr

namespace Link

/-- Sends a frame; it fails once the far side is gone. -/
def send (l : Link) (t : Transmission) : Link × Bool :=
  if l.abandoned then (l, false) else ({ l with outbound := l.outbound ++ [t] }, true)

/-- Receives the next frame. The session has ended when no frame is left and a side has gone. -/
def receive (l : Link) : Link × Received :=
  match l.inbound with
  | t :: rest => ({ l with inbound := rest }, .frame t)
  | [] => (l, if l.closed || l.abandoned then .ended else .nothingYet)

/-- Ends the session. -/
def close (l : Link) : Link := { l with closed := true }

/-- Sends a frame to the router. -/
def inject (l : Link) (t : Transmission) : Link := { l with inbound := l.inbound ++ [t] }

/-- Takes the next frame the router sent. -/
def next? (l : Link) : Link × Option Transmission :=
  match l.outbound with
  | t :: rest => ({ l with outbound := rest }, some t)
  | [] => (l, none)

/-- Takes all frames the router sent. -/
def drain (l : Link) : Link × List Transmission := ({ l with outbound := [] }, l.outbound)

/-- Goes away, with all the router sent and nobody took. -/
def abandon (l : Link) : Link := { l with abandoned := true, outbound := [] }

end Link

end SoftRouter
