import SoftRouter.Address.Ipv4

/-!
# RIP messages

Version 2 of the routing information protocol: a request or a response with any number of entries
of 20 bytes. Entries of another address family than IPv4 are skipped on reading, and a metric is
never above infinity on the wire.
-/

namespace SoftRouter

/-- The metric that means "not reachable". -/
def ripInfinity : Nat := 16

/-- The UDP port of the protocol. -/
def ripPort : UInt16 := 520

/-- The group every router of the protocol listens to. -/
def ripGroup : Ipv4Addr := .ofOctets 224 0 0 9

/-- What a message wants. -/
inductive RipCommand where
  | request
  | response
  deriving DecidableEq, Repr

/-- The code of a command. -/
def RipCommand.code : RipCommand → UInt8
  | request => 1
  | response => 2

/-- The command a code stands for. -/
def RipCommand.ofCode? (code : UInt8) : Option RipCommand :=
  if code = 1 then some request else if code = 2 then some response else none

@[simp] theorem RipCommand.ofCode?_code (c : RipCommand) : ofCode? c.code = some c := by
  cases c <;> rfl

/-- An advertised network. -/
structure RipEntry where
  network : Ipv4Addr
  mask : Ipv4Addr
  nextHop : Ipv4Addr
  metric : Nat
  deriving DecidableEq, Repr, Inhabited

/-- An advertisement by the sender itself, with a metric of at most infinity. -/
def RipEntry.make (network mask : Ipv4Addr) (metric : Nat) : RipEntry :=
  ⟨network, mask, .unspecified, min metric ripInfinity⟩

/-- A message. -/
structure RipMessage where
  command : RipCommand
  entries : List RipEntry
  deriving DecidableEq, Repr

/-- What is wrong with bytes that should be a message. -/
inductive RipError where
  | tooShort
  | command
  | entries
  deriving DecidableEq, Repr

/-- The wording of each fault. -/
def RipError.message : RipError → String
  | tooShort => "Data is too short to be a RIP message"
  | command => "Unknown RIP command"
  | entries => "RIP message length is not a whole number of entries"

namespace RipMessage

/-- The request for a whole table, which names no entries. -/
def wholeTable : RipMessage := ⟨.request, []⟩

/-- The address family of IPv4. -/
def family : UInt16 := 2

/-- A metric as it stands on the wire. -/
def metricOctets (metric : Nat) : Bytes := octets32 (UInt32.ofNat (min metric ripInfinity))

/-- The 20 bytes of an entry; the route tag is zero. -/
def encodeEntry (e : RipEntry) : Bytes :=
  octets16 family ++ [0, 0] ++ e.network.octets ++ e.mask.octets ++ e.nextHop.octets ++ metricOctets e.metric

/-- Reads whole entries up to the end of the bytes. -/
def decodeEntries : Bytes → Except RipError (List RipEntry)
  | [] => .ok []
  | f1 :: f0 :: _ :: _ :: n3 :: n2 :: n1 :: n0 :: m3 :: m2 :: m1 :: m0 ::
      h3 :: h2 :: h1 :: h0 :: c3 :: c2 :: c1 :: c0 :: rest => do
    let entries ← decodeEntries rest
    if join16 f1 f0 = family then
      let metric := (join32 (join16 c3 c2) (join16 c1 c0)).toNat
      let entry : RipEntry :=
        ⟨.ofOctets n3 n2 n1 n0, .ofOctets m3 m2 m1 m0, .ofOctets h3 h2 h1 h0, min metric ripInfinity⟩
      return entry :: entries
    else return entries
  | _ => .error .entries

/-- The bytes of a message. A request without entries asks for the whole table: it carries one
entry of no family with the metric infinity. -/
def encode (m : RipMessage) : Bytes :=
  [m.command.code, 2, 0, 0] ++
    if m.command = .request ∧ m.entries = [] then List.replicate 16 0 ++ metricOctets ripInfinity
    else m.entries.flatMap encodeEntry

/-- Reads a message. -/
def decode : Bytes → Except RipError RipMessage
  | code :: _ :: _ :: _ :: rest =>
    match RipCommand.ofCode? code with
    | none => .error .command
    | some command => do return ⟨command, ← decodeEntries rest⟩
  | _ => .error .tooShort

@[simp] theorem length_encodeEntry (e : RipEntry) : (encodeEntry e).length = 20 := rfl

end RipMessage

end SoftRouter
