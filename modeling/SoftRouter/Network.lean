import SoftRouter.Router.Handle

/-!
# Networks of routers

Routers joined by links between their interfaces. What a router sends stands in its outbox until a
round moves it to the other end of its link. A frame on an interface without a link leaves the
network at its edge.
-/

namespace SoftRouter

/-- An interface of a router of the network. -/
structure Port where
  router : Nat
  interface : String
  deriving DecidableEq, Repr, Inhabited

/-- A link between two interfaces. -/
structure Cable where
  left : Port
  right : Port
  deriving DecidableEq, Repr, Inhabited

/-- The other end of a link. -/
def Cable.across? (c : Cable) (p : Port) : Option Port :=
  if c.left = p then some c.right else if c.right = p then some c.left else none

/-- A router with a clock of its own and the frames it sent that have not moved yet. -/
structure Node where
  router : Router
  now : Nat := 0
  outbox : List Transmission := []

/-- Puts frames that were sent into the outbox. -/
def Node.post (n : Node) (sent : List Transmission) : Node := { n with outbox := n.outbox ++ sent }

/-- Handles a frame; what is sent goes to the outbox at once. -/
def Node.handle (n : Node) (interface : String) (frame : EthernetFrame) : Node :=
  let (router, events) := n.router.handle n.now interface frame
  Node.post { n with router } (transmissions events)

/-- Lets time pass. -/
def Node.advance (n : Node) (ms : Nat) : Node := { n with now := n.now + ms }

/-- Routers and the links between them. -/
structure Network where
  nodes : List Node
  cables : List Cable

/-- What a round did: how many frames arrived, and which left the network where. -/
structure Round where
  arrived : Nat := 0
  edge : List (Port × EthernetFrame) := []

namespace Network

/-- The port at the other end of the first link at a port. -/
def across? (net : Network) (p : Port) : Option Port := net.cables.findSome? fun c => c.across? p

/-- Changes one node. -/
def modify (net : Network) (i : Nat) (f : Node → Node) : Network := { net with nodes := net.nodes.modify i f }

/-- Some outbox holds a frame. -/
def isBusy (net : Network) : Bool := net.nodes.any fun n => !n.outbox.isEmpty

/-- All frames in outboxes with the ports they leave by, router by router. -/
def departures (net : Network) : List (Port × EthernetFrame) :=
  net.nodes.zipIdx.flatMap fun (n, i) => n.outbox.map fun t => (⟨i, t.interface⟩, t.frame)

/-- Moves one frame. On links of the router that is cut off it is lost. -/
def move (cut : Option Nat) (state : Network × Round) (departure : Port × EthernetFrame) : Network × Round :=
  let (net, round) := state
  let (port, frame) := departure
  match net.across? port with
  | none => (net, { round with edge := round.edge ++ [departure] })
  | some far =>
    if cut = some port.router ∨ cut = some far.router then (net, round)
    else
      (net.modify far.router fun n => n.handle far.interface frame, { round with arrived := round.arrived + 1 })

/-- Takes all outboxes away and moves their frames. -/
def step (net : Network) (cut : Option Nat) : Network × Round :=
  net.departures.foldl (move cut) ({ net with nodes := net.nodes.map fun n => { n with outbox := [] } }, {})

/-- Rounds until all outboxes are empty, at most so many. -/
def pump (net : Network) (cut : Option Nat) : (rounds : Nat) → Network × List Round
  | 0 => (net, [])
  | rounds + 1 =>
    if net.isBusy then
      let (net, round) := net.step cut
      let (net, later) := net.pump cut rounds
      (net, round :: later)
    else (net, [])

end Network

end SoftRouter
