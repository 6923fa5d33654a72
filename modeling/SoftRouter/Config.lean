import SoftRouter.Address.Ipv4
import SoftRouter.Address.Socket
import SoftRouter.Toml.Document

/-!
# Configurations

What a configuration says: an optional route file and the interfaces, each with its addresses and
perhaps the two ends of the datagram link it stands for. Every key is known and written once.
-/

namespace SoftRouter

/-- An interface as it is configured; the MAC address is not looked at yet. -/
structure InterfaceConfig where
  name : String
  mac : String
  ip : Ipv4Addr
  mask : Ipv4Addr
  bind : Option SocketAddr := none
  peer : Option SocketAddr := none

/-- A configuration. Without a route file the routes are learned from the neighbours. -/
structure Config where
  routeFile : Option String := none
  interfaces : List InterfaceConfig := []

/-- What is wrong with a text that should be a configuration. -/
inductive ConfigError where
  | notToml
  | unknownKey (key : List String)
  | duplicateKey (key : String)
  | missingKey (key : String)
  | notText (key : String)
  | notInterfaces
  | badAddress (key text : String)
  deriving DecidableEq, Repr

/-- The wording of each fault. -/
def ConfigError.message : ConfigError → String
  | notToml => "not a TOML document"
  | unknownKey key => "unknown key " ++ ".".intercalate key
  | duplicateKey key => "duplicate key " ++ key
  | missingKey key => "missing key " ++ key
  | notText key => "the value of " ++ key ++ " is not a string"
  | notInterfaces => "interface is not a list of tables"
  | badAddress key text => "the value of " ++ key ++ " is not an address: " ++ text

namespace Config

/-- Values under simple keys, each key once. -/
abbrev Fields := List (String × Toml.Value)

/-- The fields of a table whose keys are all known. -/
def fields (known : List String) : List (List String × Toml.Value) → Except ConfigError Fields
  | [] => .ok []
  | ([key], value) :: rest => do
    if !known.contains key then throw (.unknownKey [key])
    if rest.any fun (other, _) => other = [key] then throw (.duplicateKey key)
    return (key, value) :: (← fields known rest)
  | (key, _) :: _ => .error (.unknownKey key)

/-- A string. -/
def asText (key : String) : Toml.Value → Except ConfigError String
  | .text content => .ok content
  | _ => .error (.notText key)

/-- The string under a key, if the key is there. -/
def text? (fields : Fields) (key : String) : Except ConfigError (Option String) :=
  match fields.lookup key with
  | none => .ok none
  | some value => return some (← asText key value)

/-- The string under a key that must be there. -/
def text (fields : Fields) (key : String) : Except ConfigError String := do
  match ← text? fields key with
  | some content => return content
  | none => throw (.missingKey key)

/-- The keys of an interface, in the order of a list that gives their values alone. -/
def interfaceKeys : List String := ["name", "mac", "ip", "mask", "bind", "peer"]

/-- An IPv4 address. -/
def address (key content : String) : Except ConfigError Ipv4Addr :=
  match Ipv4Addr.parse? content with
  | some ip => .ok ip
  | none => .error (.badAddress key content)

/-- A socket address that may be left out. -/
def socket? (key : String) : Option String → Except ConfigError (Option SocketAddr)
  | none => .ok none
  | some content =>
    match SocketAddr.parse? content with
    | some socket => .ok (some socket)
    | none => .error (.badAddress key content)

/-- The interface that fields describe. -/
def interfaceOfFields (fields : Fields) : Except ConfigError InterfaceConfig := do
  return {
    name := ← text fields "name"
    mac := ← text fields "mac"
    ip := ← address "ip" (← text fields "ip")
    mask := ← address "mask" (← text fields "mask")
    bind := ← socket? "bind" (← text? fields "bind")
    peer := ← socket? "peer" (← text? fields "peer") }

/-- The interface that a table describes. -/
def interfaceOfTable (table : List (List String × Toml.Value)) : Except ConfigError InterfaceConfig := do
  interfaceOfFields (← fields interfaceKeys table)

/-- The interface that a value describes: a table, or a list of all values in the order of the keys.
Whatever stands behind them in the list is not looked at. -/
def interfaceOfValue : Toml.Value → Except ConfigError InterfaceConfig
  | .table table => interfaceOfTable table
  | .list items =>
    if items.length < interfaceKeys.length then .error .notInterfaces
    else interfaceOfFields (interfaceKeys.zip items)
  | _ => .error .notInterfaces

/-- The interfaces that the value of the key `interface` describes. -/
def interfacesOfValue : Toml.Value → Except ConfigError (List InterfaceConfig)
  | .list items => items.mapM interfaceOfValue
  | _ => .error .notInterfaces

/-- The assignments before the first header. -/
def leading : List Toml.Statement → List (List String × Toml.Value)
  | .assign key value :: rest => (key, value) :: leading rest
  | _ => []

/-- The headers, each with the assignments that follow it. -/
def blocks : List Toml.Statement → List (Toml.Statement × List (List String × Toml.Value))
  | [] => []
  | .assign _ _ :: rest => blocks rest
  | header :: rest => (header, leading rest) :: blocks rest

/-- The interface of a block under a header. -/
def interfaceOfBlock : Toml.Statement × List (List String × Toml.Value) → Except ConfigError InterfaceConfig
  | (.element ["interface"], table) => interfaceOfTable table
  | (.element key, _) => .error (.unknownKey key)
  | (.table ["interface"], _) => .error .notInterfaces
  | (.table key, _) => .error (.unknownKey key)
  | (.assign key _, _) => .error (.unknownKey key)

/-- The configuration that a document describes. Interfaces are all listed under one key or all in
blocks of their own. -/
def ofDocument (document : List Toml.Statement) : Except ConfigError Config := do
  let top ← fields ["rtable", "interface"] (leading document)
  let routeFile ← text? top "rtable"
  let written ← (blocks document).mapM interfaceOfBlock
  match top.lookup "interface" with
  | none => return { routeFile, interfaces := written }
  | some value =>
    if !written.isEmpty then throw (.duplicateKey "interface")
    return { routeFile, interfaces := ← interfacesOfValue value }

/-- Reads a configuration. -/
def parse (text : String) : Except ConfigError Config :=
  match Toml.parse? text with
  | some document => ofDocument document
  | none => .error .notToml

end Config

end SoftRouter
