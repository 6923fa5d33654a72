import SoftRouter.Config
import SoftRouter.Path
import SoftRouter.Route.File
import SoftRouter.Router.State

/-!
# Starting up

From the files an operator wrote to a router that is ready. The stages come one after the other and
the first fault ends the start: the configuration, its interfaces, the route file, and the routes
against the interfaces. The contents of files are arguments; reading them is left to the caller.
-/

namespace SoftRouter

/-- Why a file could not be read. -/
inductive FileError where
  | notFound
  | notADirectory
  | isDirectory
  | notUtf8
  /-- The path, or a part of it, is too long. -/
  | nameTooLong
  /-- The path holds the character that ends a path. -/
  | nulInPath
  /-- Any other cause, as the system words it. -/
  | other (cause : String)
  deriving DecidableEq, Repr

/-- The wording of each cause. -/
def FileError.message : FileError → String
  | notFound => "No such file or directory (os error 2)"
  | notADirectory => "Not a directory (os error 20)"
  | isDirectory => "Is a directory (os error 21)"
  | notUtf8 => "stream did not contain valid UTF-8"
  | nameTooLong => "File name too long (os error 36)"
  | nulInPath => "file name contained an unexpected NUL byte"
  | other cause => cause

/-- The bytes of a file, or why there are none. -/
abbrev FileContent := Except FileError Bytes

/-- The text of a file. -/
def FileContent.text (content : FileContent) : Except FileError String := do
  match String.fromUTF8? ⟨(← content).toArray⟩ with
  | some text => return text
  | none => throw .notUtf8

/-- Why a router does not start. -/
inductive StartupError where
  | configFile (path : String) (cause : FileError)
  | config (cause : ConfigError)
  | badMac (interface mac : String) (cause : MacError)
  | duplicateInterface (name : String)
  | missingLink (interface : String)
  | routeFile (path : String) (cause : FileError)
  | malformedRoute (path : String) (line : Nat) (cause : RouteLineError)
  | unknownInterface (name : String)
  deriving DecidableEq, Repr

/-- The wording of each fault. -/
def StartupError.message : StartupError → String
  | configFile path cause => "unable to read config " ++ path ++ ": " ++ cause.message
  | config cause => "invalid config: " ++ cause.message
  | badMac interface mac cause =>
    "interface " ++ interface ++ " has invalid MAC address " ++ mac ++ ": " ++ cause.message
  | duplicateInterface name => "duplicate interface " ++ name
  | missingLink interface => "interface " ++ interface ++ " has no UDP link configured"
  | routeFile path cause => "unable to read route table " ++ path ++ ": " ++ cause.message
  | malformedRoute path line cause =>
    "invalid entry in route table " ++ path ++ " line " ++ toString line ++ ": " ++ cause.message
  | unknownInterface name => "route table references unknown interface " ++ name

/-- The routes in a file. -/
def parseRoutes (path text : String) : Except StartupError (List RouteEntry) :=
  (RouteFile.parse text).mapError fun (line, cause) => .malformedRoute path line cause

/-- The table after a route file was read, and the number of routes in the file. A file without
routes leaves the table as it is. -/
def RouteTable.load (t : RouteTable) (path : String) (content : FileContent) :
    Except StartupError (RouteTable × Nat) := do
  let text ← content.text.mapError (.routeFile path)
  let routes ← parseRoutes path text
  return (if routes.isEmpty then t else ⟨routes⟩, routes.length)

/-- Loads a route file into a table that is kept. It is replaced at the end, and by routes only. -/
def RouteTable.loadInPlace (path : String) (content : FileContent) : ExceptT StartupError (StateM RouteTable) Nat := do
  let text ← MonadExcept.ofExcept (content.text.mapError (.routeFile path))
  let routes ← MonadExcept.ofExcept (parseRoutes path text)
  let count := routes.length
  if 0 < count then
    set (⟨routes⟩ : RouteTable)
  return count

/-- Reads a configuration file. The route file it names lies relative to it. -/
def Config.load (path : String) (content : FileContent) : Except StartupError Config := do
  let text ← content.text.mapError (.configFile path)
  let config ← (Config.parse text).mapError .config
  return { config with routeFile := config.routeFile.map (Path.resolve (Path.parent path)) }

/-- Adds an interface whose name is new. -/
def InterfaceTable.add (t : InterfaceTable) (i : Interface) : Except StartupError InterfaceTable :=
  if contains t i.name then .error (.duplicateInterface i.name) else .ok (t.put i)

/-- Adds a configured interface. -/
def InterfaceConfig.addTo (i : InterfaceConfig) (t : InterfaceTable) : Except StartupError InterfaceTable := do
  let mac ← (Mac.parse i.mac).mapError (.badMac i.name i.mac)
  InterfaceTable.add t ⟨i.name, mac, i.ip, i.mask⟩

/-- The interfaces of a configuration. -/
def Config.interfaceTable (c : Config) : Except StartupError InterfaceTable :=
  c.interfaces.foldlM (fun t i => i.addTo t) .empty

/-- A datagram link that carries the frames of an interface. -/
structure DatagramLink where
  interface : String
  bind : SocketAddr
  peer : SocketAddr

/-- The link of a configured interface. -/
def InterfaceConfig.link (i : InterfaceConfig) : Except StartupError DatagramLink :=
  match i.bind, i.peer with
  | some bind, some peer => .ok ⟨i.name, bind, peer⟩
  | _, _ => .error (.missingLink i.name)

/-- The links of a configuration; every interface must have one. -/
def Config.links (c : Config) : Except StartupError (List DatagramLink) := c.interfaces.mapM InterfaceConfig.link

/-- A router over its routes; they must not need an interface that is not there. -/
def Router.create (interfaces : InterfaceTable) (routes : RouteTable) : Except StartupError Router :=
  (Router.make interfaces routes).mapError .unknownInterface

/-- A router that has started. -/
structure Started where
  router : Router
  /-- The number of routes in the route file, if there is one. -/
  loaded : Option Nat
  /-- What the router did on starting. -/
  events : List Event

/-- Starts a router from a configuration and the content of the route file it names. -/
def start (c : Config) (content : FileContent) : Except StartupError Started := do
  let interfaces ← c.interfaceTable
  let (routes, loaded) ← match c.routeFile with
    | some path => do
      let (routes, count) ← RouteTable.load {} path content
      pure (routes, some count)
    | none => pure ({}, none)
  let router ← Router.create interfaces routes
  let (router, events) := router.init
  return { router, loaded, events }

end SoftRouter
