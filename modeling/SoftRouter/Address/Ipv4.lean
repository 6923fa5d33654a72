import SoftRouter.Bytes
import SoftRouter.Text.Digits

/-!
# IPv4 addresses

Addresses and masks of 32 bits and their dotted decimal form: four numbers up to 255 of at most
three digits, none with a leading zero.
-/

namespace SoftRouter

/-- An address or a mask. -/
structure Ipv4Addr where
  bits : UInt32
  deriving DecidableEq, Repr, Inhabited

namespace Ipv4Addr

/-- The address with the given octets. -/
def ofOctets (a b c d : UInt8) : Ipv4Addr := ⟨join32 (join16 a b) (join16 c d)⟩

/-- The four octets, most significant first. -/
def octets (ip : Ipv4Addr) : Bytes := octets32 ip.bits

/-- The address of no host, which also stands for "no gateway". -/
def unspecified : Ipv4Addr := ⟨0⟩

/-- The limited broadcast address. -/
def broadcast : Ipv4Addr := ⟨0xFFFFFFFF⟩

/-- The part of an address that a mask selects. -/
def masked (ip mask : Ipv4Addr) : Ipv4Addr := ⟨ip.bits &&& mask.bits⟩

/-- Masking twice is masking once. -/
@[simp] theorem masked_masked (ip mask : Ipv4Addr) : (ip.masked mask).masked mask = ip.masked mask := by
  simp [masked, UInt32.and_assoc]

/-- The most significant octet. -/
def firstOctet (ip : Ipv4Addr) : Nat := (high8 (high16 ip.bits)).toNat

/-- Addresses 224.0.0.0 to 239.255.255.255 name groups. -/
def isMulticast (ip : Ipv4Addr) : Bool := 224 ≤ ip.firstOctet && ip.firstOctet ≤ 239

/-- Addresses 127.0.0.0 to 127.255.255.255 never leave a host. -/
def isLoopback (ip : Ipv4Addr) : Bool := ip.firstOctet = 127

@[simp] theorem length_octets (ip : Ipv4Addr) : ip.octets.length = 4 := rfl

/-- Exactly four bytes are an address. -/
def ofBytes? : Bytes → Option Ipv4Addr
  | [a, b, c, d] => some (ofOctets a b c d)
  | _ => none

@[simp] theorem ofBytes?_octets (ip : Ipv4Addr) : ofBytes? ip.octets = some ip := by
  simp [octets, octets32, octets16, ofBytes?, ofOctets]

/-- Reads one number of the dotted form off the front of a text. -/
def readOctet (cs : List Char) : Option (UInt8 × List Char) :=
  match Digits.span 10 cs with
  | ([], _) => none
  | ([d], rest) => some (UInt8.ofNat d, rest)
  | (d :: ds, rest) =>
    let n := Digits.numeral 10 (d :: ds)
    if d = 0 ∨ 2 < ds.length ∨ 255 < n then none else some (UInt8.ofNat n, rest)

/-- Reads a separator and the number after it. -/
def readDotOctet : List Char → Option (UInt8 × List Char)
  | '.' :: cs => readOctet cs
  | _ => none

/-- Reads a dotted address off the front of a text. -/
def read (cs : List Char) : Option (Ipv4Addr × List Char) := do
  let (a, cs) ← readOctet cs
  let (b, cs) ← readDotOctet cs
  let (c, cs) ← readDotOctet cs
  let (d, cs) ← readDotOctet cs
  return (ofOctets a b c d, cs)

/-- A text that is a dotted address and nothing else. -/
def parse? (text : String) : Option Ipv4Addr :=
  match read text.toList with
  | some (ip, []) => some ip
  | _ => none

/-- The dotted decimal form. -/
def text (ip : Ipv4Addr) : String := ".".intercalate (ip.octets.map fun o => toString o.toNat)

end Ipv4Addr

end SoftRouter
