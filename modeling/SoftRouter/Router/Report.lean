import SoftRouter.Router.State

/-!
# Reports

One line for an operator about each thing that a router does.
-/

namespace SoftRouter

/-- The line about a frame sent to a neighbour. -/
def Delivery.sentText (d : Delivery) (mac : Mac) : String :=
  d.interface ++ ": sent " ++ toString d.frame.encode.length ++ " bytes to " ++ d.nextHop.text ++ " at " ++ mac.text

/-- The line about an event. -/
def Event.text : Event → String
  | announced t => t.interface ++ ": sent " ++ toString t.frame.encode.length ++ " bytes"
  | delivered d mac => d.sentText mac
  | queued d => d.interface ++ ": a frame waits for the address of " ++ d.nextHop.text
  | released d mac => d.sentText mac
  | abandoned given =>
    given.interface ++ ": " ++ given.ip.text ++ " does not answer, frames given up: " ++ toString given.waiting.length

end SoftRouter
