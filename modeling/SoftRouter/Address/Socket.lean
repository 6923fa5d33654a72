import SoftRouter.Address.Ipv4

/-!
# IPv6 and socket addresses

The ends of a link are socket addresses: `1.2.3.4:80`, `[fe80::1]:80` or `[fe80::1%2]:80`. An IPv6
address is read in every form its grammar allows, a double colon for zeros and a dotted tail
included, and printed with its longest run of zero groups left out.
-/

namespace SoftRouter

/-- An address as its eight groups of 16 bits. -/
structure Ipv6Addr where
  groups : List UInt16
  length_groups : groups.length = 8 := by rfl
  deriving DecidableEq

namespace Ipv6Addr

/-- Reads a separating colon, which stands in front of every group but the first. -/
def readColon : Bool → List Char → Option (List Char)
  | true, cs => some cs
  | false, ':' :: cs => some cs
  | false, _ => none

/-- Reads one group of one to four hexadecimal digits. -/
def readGroup (cs : List Char) : Option (UInt16 × List Char) :=
  match Digits.span 16 cs with
  | ([], _) => none
  | (ds, rest) => if 4 < ds.length then none else some (UInt16.ofNat (Digits.numeral 16 ds), rest)

/-- What a run of groups reads as: the groups, whether it ended in a dotted address, and the rest. -/
structure Run where
  groups : List UInt16 := []
  dotted : Bool := false
  rest : List Char

/-- Reads at most `limit` groups. Where two or more are still allowed, a dotted address may stand
for two, and it ends the run. -/
def readRun : (limit : Nat) → (first : Bool) → List Char → Run
  | 0, _, cs => { rest := cs }
  | limit + 1, first, cs =>
    let dotted := if limit = 0 then none else readColon first cs >>= Ipv4Addr.read
    match dotted with
    | some (ip, rest) => { groups := [high16 ip.bits, low16 ip.bits], dotted := true, rest }
    | none =>
      match readColon first cs >>= readGroup with
      | some (group, rest) =>
        let more := readRun limit false rest
        { more with groups := group :: more.groups }
      | none => { rest := cs }

/-- The address with the given groups, if there are eight. -/
def ofGroups? (groups : List UInt16) : Option Ipv6Addr :=
  if h : groups.length = 8 then some ⟨groups, h⟩ else none

/-- Reads an address off the front of a text. A double colon stands for at least one zero group. -/
def read (cs : List Char) : Option (Ipv6Addr × List Char) := do
  let head := readRun 8 true cs
  if head.groups.length = 8 then
    return (← ofGroups? head.groups, head.rest)
  else if head.dotted then none
  else
    match head.rest with
    | ':' :: ':' :: rest =>
      let tail := readRun (7 - head.groups.length) true rest
      let zeros := List.replicate (8 - head.groups.length - tail.groups.length) 0
      return (← ofGroups? (head.groups ++ zeros ++ tail.groups), tail.rest)
    | _ => none

/-- The number of zero groups a list begins with. -/
def leadingZeros (groups : List UInt16) : Nat := (groups.takeWhile (· = 0)).length

/-- Position and length of the longest run of zero groups, the first of several. -/
def longestZeros : (start : Nat) → List UInt16 → Nat × Nat
  | _, [] => (0, 0)
  | i, g :: gs =>
    let here := leadingZeros (g :: gs)
    let later := longestZeros (i + 1) gs
    if here ≠ 0 ∧ later.2 ≤ here then (i, here) else later

/-- Groups between colons, each in hexadecimal. -/
def groupsText (groups : List UInt16) : String :=
  ":".intercalate (groups.map fun g => Digits.hex g.toNat)

/-- The text of an address. An IPv4 address mapped into IPv6 keeps its dotted form. -/
def text (ip : Ipv6Addr) : String :=
  match ip.groups with
  | [0, 0, 0, 0, 0, 0xFFFF, hi, lo] => "::ffff:" ++ (Ipv4Addr.mk (join32 hi lo)).text
  | groups =>
    let (start, count) := longestZeros 0 groups
    if 1 < count then groupsText (groups.take start) ++ "::" ++ groupsText (groups.drop (start + count))
    else groupsText groups

end Ipv6Addr

/-! ## Socket addresses -/

/-- The address of a datagram socket. -/
inductive SocketAddr where
  | v4 (ip : Ipv4Addr) (port : UInt16)
  | v6 (ip : Ipv6Addr) (scope : UInt32) (port : UInt16)
  deriving DecidableEq

namespace SocketAddr

/-- Reads a number below `bound` off the front of a text; leading zeros are allowed. -/
def readNumber (bound : Nat) (cs : List Char) : Option (Nat × List Char) :=
  match Digits.span 10 cs with
  | ([], _) => none
  | (ds, rest) =>
    let n := Digits.numeral 10 ds
    if n < bound then some (n, rest) else none

/-- A colon, a port and the end of the text. -/
def readPort : List Char → Option UInt16
  | ':' :: cs =>
    match readNumber 65536 cs with
    | some (port, []) => some (UInt16.ofNat port)
    | _ => none
  | _ => none

/-- Reads the scope that may follow an IPv6 address. -/
def readScope : List Char → Option (UInt32 × List Char)
  | '%' :: cs => (readNumber 4294967296 cs).map fun (n, rest) => (UInt32.ofNat n, rest)
  | cs => some (0, cs)

/-- Reads the form without brackets. -/
def parseV4 (cs : List Char) : Option SocketAddr := do
  let (ip, rest) ← Ipv4Addr.read cs
  return .v4 ip (← readPort rest)

/-- Reads the form in brackets. -/
def parseV6 : List Char → Option SocketAddr
  | '[' :: cs => do
    let (ip, rest) ← Ipv6Addr.read cs
    let (scope, rest) ← readScope rest
    match rest with
    | ']' :: rest => return .v6 ip scope (← readPort rest)
    | _ => none
  | _ => none

/-- A text that is a socket address and nothing else. -/
def parse? (text : String) : Option SocketAddr :=
  parseV4 text.toList <|> parseV6 text.toList

/-- The text of a socket address; scope zero is left out. -/
def text : SocketAddr → String
  | v4 ip port => ip.text ++ ":" ++ toString port.toNat
  | v6 ip scope port =>
    let host := if scope = 0 then ip.text else ip.text ++ "%" ++ toString scope.toNat
    "[" ++ host ++ "]:" ++ toString port.toNat

end SocketAddr

end SoftRouter
