import SoftRouter.Router.Handle

/-!
# Serving a session

A router on a link that plays a list of frames and then ends. Some interfaces may refuse to send;
the router does not notice.
-/

namespace SoftRouter

/-- A router, what it has not received yet, and what has left it. -/
structure Session where
  router : Router
  now : Nat := 0
  inbox : List Transmission := []
  refused : List String := []
  sent : List Transmission := []
  closings : Nat := 0

namespace Session

/-- Notes what a step of the router sent, except on interfaces that refuse. -/
def record (s : Session) (outcome : Router × List Event) : Session :=
  { s with
    router := outcome.1
    sent := s.sent ++ (transmissions outcome.2).filter fun t => !s.refused.contains t.interface }

/-- Brings the router up. -/
def init (s : Session) : Session := s.record s.router.init

/-- Handles one received frame. -/
def handle (s : Session) (t : Transmission) : Session := s.record (s.router.handle s.now t.interface t.frame)

/-- Handles frames until the session ends. -/
def serve (s : Session) : Session := s.inbox.foldl handle { s with inbox := [] }

/-- Ends the session without receiving anything more. -/
def shutdown (s : Session) : Session := { s with closings := s.closings + 1 }

end Session

end SoftRouter
