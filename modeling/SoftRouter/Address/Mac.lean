import SoftRouter.Bytes
import SoftRouter.Text.Digits

/-!
# MAC addresses

The six byte addresses of the link layer, written as six groups of one or two hexadecimal digits
between colons. Printing always writes two lower case digits a group.
-/

namespace SoftRouter

/-- A link layer address, its octets in transmission order. -/
structure Mac where
  a : UInt8
  b : UInt8
  c : UInt8
  d : UInt8
  e : UInt8
  f : UInt8
  deriving DecidableEq, Repr, Inhabited

/-- What is wrong with bytes or a text that should be a MAC address. -/
inductive MacError where
  | wrongLength
  | tooFewOctets
  | malformedOctet
  | notHex
  | tooManyOctets
  deriving DecidableEq, Repr

/-- The wording of each fault. -/
def MacError.message : MacError → String
  | wrongLength => "MAC address must be 6 bytes"
  | tooFewOctets => "MAC address has fewer than 6 octets"
  | malformedOctet => "MAC address octet is malformed"
  | notHex => "MAC address octet is not hex"
  | tooManyOctets => "MAC address has more than 6 octets"

namespace Mac

/-- The address every station listens to. -/
def broadcast : Mac := ⟨255, 255, 255, 255, 255, 255⟩

/-- The address of no station, which fills a field not yet known. -/
def zero : Mac := ⟨0, 0, 0, 0, 0, 0⟩

/-- The octets in transmission order. -/
def octets (m : Mac) : Bytes := [m.a, m.b, m.c, m.d, m.e, m.f]

/-- Exactly six bytes are an address. -/
def ofBytes : Bytes → Except MacError Mac
  | [a, b, c, d, e, f] => .ok ⟨a, b, c, d, e, f⟩
  | _ => .error .wrongLength

@[simp] theorem length_octets (m : Mac) : m.octets.length = 6 := rfl

@[simp] theorem ofBytes_octets (m : Mac) : ofBytes m.octets = .ok m := rfl

theorem octets_of_ofBytes {bytes : Bytes} {m : Mac} (h : ofBytes bytes = .ok m) : m.octets = bytes := by
  unfold ofBytes at h
  split at h
  · cases h; rfl
  · cases h

/-- The number of bytes that a text takes. -/
def textSize : List Char → Nat
  | [] => 0
  | c :: cs => c.utf8Size + textSize cs

/-- The value of one group. The sign `+` may stand in front of the digits, and a group holds at
most two bytes of text. -/
def parseOctet (group : List Char) : Except MacError UInt8 :=
  if group.isEmpty || 2 < textSize group then .error .malformedOctet
  else
    let digits := match group with
      | '+' :: rest => rest
      | _ => group
    match Digits.span 16 digits with
    | (v :: vs, []) => .ok (UInt8.ofNat (Digits.numeral 16 (v :: vs)))
    | _ => .error .notHex

/-- The values of exactly `n` groups; the first fault from the left is reported. -/
def parseOctets : Nat → List (List Char) → Except MacError Bytes
  | 0, [] => .ok []
  | 0, _ :: _ => .error .tooManyOctets
  | _ + 1, [] => .error .tooFewOctets
  | n + 1, group :: groups => do
    let octet ← parseOctet group
    let octets ← parseOctets n groups
    return octet :: octets

/-- Reads the colon separated form. -/
def parse (text : String) : Except MacError Mac := do
  ofBytes (← parseOctets 6 (text.toList.splitOn ':'))

/-- Two lower case digits. -/
def octetText (octet : UInt8) : String :=
  String.ofList [Digits.char (octet.toNat / 16), Digits.char (octet.toNat % 16)]

/-- The colon separated form, two digits a group. -/
def text (m : Mac) : String := ":".intercalate (m.octets.map octetText)

end Mac

end SoftRouter
