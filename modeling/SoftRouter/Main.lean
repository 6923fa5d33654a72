import SoftRouter.Invocation
import SoftRouter.Router.Report
import SoftRouter.Router.Run
import SoftRouter.Startup
import Std.Async.UDP
import Std.Sync.Channel

/-!
# The program

A router whose links are UDP sockets. Every interface has a socket of its own, and a datagram on it
is one Ethernet frame. Readers and timers put what happens into one inbox, and the router answers it
in the order it comes.
-/

namespace SoftRouter.Program

/-- The milliseconds between two moments of address resolution. -/
def arpInterval : UInt32 := 1000

/-- The milliseconds between two moments of the routing protocol. -/
def ripInterval : UInt32 := 10000

/-- The most bytes a datagram brings. -/
def datagramLimit : UInt64 := 65535

/-- A link in use: its socket, and the address that frames go to. -/
structure OpenLink where
  interface : String
  socket : Std.Async.UDP.Socket
  peer : Std.Net.SocketAddress

/-- A socket address in the form that sockets take, which has no scope. -/
def systemAddress : SocketAddr → Std.Net.SocketAddress
  | .v4 ip port => .v4 ⟨⟨Vector.ofFn fun i => ip.octets.getD i.val 0⟩, port⟩
  | .v6 ip _ port => .v6 ⟨⟨Vector.ofFn fun i => ip.groups.getD i.val 0⟩, port⟩

/-- Ends the program with a message. -/
def fail {α : Type} (message : String) : IO α := throw (IO.userError message)

/-- The value of a stage of the start, or the end of the program. -/
def orFail {α : Type} : Except StartupError α → IO α
  | .ok a => return a
  | .error e => fail e.message

/-- The bytes of a file, or why there are none. -/
def readFile (path : String) : IO FileContent := do
  match ← (IO.FS.readBinFile path).toBaseIO with
  | .ok bytes => return .ok bytes.toList
  | .error (.noFileOrDirectory ..) => return .error .notFound
  -- A path through a file does not open; a directory opens, and then does not read.
  | .error (.inappropriateType (some _) ..) => return .error .notADirectory
  | .error (.inappropriateType none ..) => return .error .isDirectory
  | .error cause => return .error (.other (toString cause))

/-- Opens the socket of a link. -/
def openLink (link : DatagramLink) : IO OpenLink := do
  try
    let socket ← Std.Async.UDP.Socket.mk
    socket.bind (systemAddress link.bind)
    return ⟨link.interface, socket, systemAddress link.peer⟩
  catch cause => fail ("link setup for " ++ link.interface ++ " failed: " ++ toString cause)

/-- Sends a frame over the link of its interface. A frame that cannot be sent is lost. -/
def send (links : List OpenLink) (t : Transmission) : IO Unit := do
  let some link := links.find? fun l => l.interface = t.interface | return
  try (link.socket.send ⟨t.frame.encode.toArray⟩ (some link.peer)).block
  catch cause => IO.eprintln (t.interface ++ ": link send failed: " ++ toString cause)

/-- Puts every frame that arrives on a link into the inbox. -/
partial def listen (link : OpenLink) (inbox : Std.Channel.Sync Stimulus) : IO Unit := do
  try
    let (bytes, _) ← (link.socket.recv datagramLimit).block
    match EthernetFrame.decode bytes.toList with
    | .ok frame => inbox.send (.frame ⟨link.interface, frame⟩)
    | .error _ => pure ()
  catch cause =>
    IO.eprintln (link.interface ++ ": link receive failed: " ++ toString cause)
    IO.sleep 100
  listen link inbox

/-- Puts a stimulus into the inbox once in every interval. -/
partial def repeatEvery (interval : UInt32) (s : Stimulus) (inbox : Std.Channel.Sync Stimulus) : IO Unit := do
  IO.sleep interval
  inbox.send s
  repeatEvery interval s inbox

/-- Writes a line for the operator at once. -/
def tell (line : String) : IO Unit := do
  IO.println line
  (← IO.getStdout).flush

/-- Sends what a router sends, and reports what it does. -/
def carryOut (links : List OpenLink) (verbose : Bool) (events : List Event) : IO Unit := do
  if verbose then events.forM fun e => tell e.text
  (transmissions events).forM (send links)

/-- Answers what comes into the inbox, without end. -/
partial def serve (links : List OpenLink) (verbose : Bool) (inbox : Std.Channel.Sync Stimulus) (r : Router) :
    IO Unit := do
  let s ← inbox.recv
  let (r, events) := r.respond (← IO.monoMsNow) s
  carryOut links verbose events
  serve links verbose inbox r

/-- Starts a router and serves its links. -/
def route (i : Invocation) : IO Unit := do
  let config ← orFail (Config.load i.config (← readFile i.config))
  let config := { config with routeFile := i.routeFile <|> config.routeFile }
  let routes ← match config.routeFile with
    | some path => readFile path
    | none => pure (.ok [])
  let started ← orFail (start config routes)
  started.router.interfaces.toList.forM fun interface => tell interface.text
  let links ← (← orFail config.links).mapM openLink
  let inbox : Std.Channel.Sync Stimulus ← Std.Channel.Sync.new
  carryOut links i.verbose started.events
  links.forM fun link => discard (IO.asTask (listen link inbox) .dedicated)
  discard (IO.asTask (repeatEvery arpInterval (.arpTick []) inbox) .dedicated)
  if started.router.rip = .running then
    discard (IO.asTask (repeatEvery ripInterval .ripTick inbox) .dedicated)
  serve links i.verbose inbox started.router

end SoftRouter.Program

/-- Reads the command line and routes until it is stopped. -/
def main (arguments : List String) : IO UInt32 := do
  match SoftRouter.Invocation.parse arguments with
  | .error e =>
    IO.eprintln (e.message ++ "\n" ++ SoftRouter.Invocation.usage)
    return 2
  | .ok invocation =>
    try
      SoftRouter.Program.route invocation
      return 0
    catch cause =>
      IO.eprintln (toString cause)
      return 1
