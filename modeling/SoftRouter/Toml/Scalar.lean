import SoftRouter.Text.Digits

/-!
# Booleans, numbers and times in TOML

Which words are values: `true` and `false`, integers of 64 bits, floating-point numbers, and dates and
times of the calendar. Such a value is kept as it is written, so the readers below only tell what
stands behind the part that they take.
-/

namespace SoftRouter.Toml.Scalar

/-- The digits that follow a digit, and the rest. An underscore may stand in front of each. -/
def moreDigits (base : Nat) : List Char → List Nat × List Char
  | [] => ([], [])
  | '_' :: c :: rest =>
    match Digits.value? base c with
    | some v => let (digits, rest) := moreDigits base rest; (v :: digits, rest)
    | none => ([], '_' :: c :: rest)
  | c :: rest =>
    match Digits.value? base c with
    | some v => let (digits, rest) := moreDigits base rest; (v :: digits, rest)
    | none => ([], c :: rest)

/-- At least one digit. -/
def digits? (base : Nat) : List Char → Option (List Nat × List Char)
  | [] => none
  | c :: rest => do
    let v ← Digits.value? base c
    let (digits, rest) := moreDigits base rest
    return (v :: digits, rest)

/-- A decimal number; only zero itself begins with a zero. -/
def decimal? : List Char → Option (List Nat × List Char)
  | '0' :: rest => some ([0], rest)
  | cs => digits? 10 cs

/-- A sign that may be left out: whether it is a minus, and the rest. -/
def sign : List Char → Bool × List Char
  | '+' :: rest => (false, rest)
  | '-' :: rest => (true, rest)
  | cs => (false, cs)

/-- The number of integers of 64 bits that are not negative. -/
def integerBound : Nat := 9223372036854775808

/-- The number that digits write is below a bound of at most 64 bits. In no base do more than 64 digits
fit, leading zeros apart; a longer run is refused without looking at its value. -/
def isBelow (bound base : Nat) (digits : List Nat) : Bool :=
  let significant := digits.dropWhile (· = 0)
  significant.length ≤ 64 && Digits.numeral base significant < bound

/-- The text is a number of a base, all of it, and an integer of 64 bits. -/
def isNatural (base : Nat) (cs : List Char) : Bool :=
  match digits? base cs with
  | some (digits, []) => isBelow integerBound base digits
  | _ => false

/-- The text is an integer of 64 bits: decimal and perhaps signed, or in a base that it names. -/
def isInteger : List Char → Bool
  | '0' :: 'x' :: cs => isNatural 16 cs
  | '0' :: 'o' :: cs => isNatural 8 cs
  | '0' :: 'b' :: cs => isNatural 2 cs
  | cs =>
    let (negative, cs) := sign cs
    match decimal? cs with
    | some (digits, []) => isBelow (if negative then integerBound + 1 else integerBound) 10 digits
    | _ => false

/-! ## Floating-point numbers -/

/-- The least number that rounds to infinity in 64 bits: half a unit above the greatest finite one. -/
def infinityBound : Nat := (1 <<< 1024) - (1 <<< 970)

/-- The number of digits of that bound. -/
def infinityDigits : Nat := 309

/-- The number `0.d₁d₂d₃… · 10 ^ exponent` of the given digits rounds to infinity. -/
def isInfinite (digits : List Nat) (exponent : Int) : Bool :=
  let significant := digits.dropWhile (· = 0)
  let exponent := exponent - (digits.length - significant.length : Nat)
  let whole := (significant ++ List.replicate infinityDigits 0).take infinityDigits
  !significant.isEmpty && (infinityDigits < exponent ||
    (exponent = infinityDigits && infinityBound ≤ Digits.numeral 10 whole))

/-- The digits behind a point, if there is one. -/
def fraction? : List Char → Option (List Nat × List Char)
  | '.' :: rest => digits? 10 rest
  | cs => some ([], cs)

/-- An exponent takes in digits as long as it is below this bound. -/
def exponentBound : Nat := 65536

/-- The number that the digits of an exponent write, up to the digit with which it reaches the bound. The
digits behind that one do not count, so that at most six do, leading zeros apart. -/
def boundedNumeral (digits : List Nat) : Nat :=
  digits.foldl (fun n d => if n < exponentBound then n * 10 + d else n) 0

/-- The exponent, zero if there is none. -/
def exponent? : List Char → Option (Int × List Char)
  | [] => some (0, [])
  | c :: rest =>
    if c = 'e' || c = 'E' then do
      let (negative, rest) := sign rest
      let (digits, rest) ← digits? 10 rest
      let n : Int := boundedNumeral digits
      return (if negative then -n else n, rest)
    else some (0, c :: rest)

/-- The text is a number with a fraction or an exponent or both. It may be too small for 64 bits and
round to minus infinity, but not too large. -/
def isFinite (negative : Bool) (cs : List Char) : Bool :=
  Option.any (fun infinite => negative || !infinite) do
    let (whole, rest) ← decimal? cs
    let (fraction, behind) ← fraction? rest
    let (exponent, behind) ← exponent? behind
    if rest.isEmpty || !behind.isEmpty then none
    return isInfinite (whole ++ fraction) (whole.length + exponent)

/-- The text is a floating-point number. Infinity and what is no number have words of their own. -/
def isFloat (cs : List Char) : Bool :=
  let (negative, cs) := sign cs
  cs = ['i', 'n', 'f'] || cs = ['n', 'a', 'n'] || isFinite negative cs

/-! ## Dates and times -/

/-- A number of exactly `count` digits. -/
def fixed? (count : Nat) (cs : List Char) : Option (Nat × List Char) :=
  let (digits, _) := Digits.span 10 (cs.take count)
  if digits.length = count then some (Digits.numeral 10 digits, cs.drop count) else none

/-- A year with a 29th of February. -/
def isLeap (year : Nat) : Bool := year % 4 = 0 && (year % 100 ≠ 0 || year % 400 = 0)

/-- The number of days of a month. -/
def daysIn (year month : Nat) : Nat :=
  if month = 2 then if isLeap year then 29 else 28
  else if month = 4 || month = 6 || month = 9 || month = 11 then 30
  else 31

/-- What stands behind a date of the calendar. -/
def afterDate? (cs : List Char) : Option (List Char) := do
  let (year, '-' :: cs) ← fixed? 4 cs | none
  let (month, '-' :: cs) ← fixed? 2 cs | none
  let (day, cs) ← fixed? 2 cs
  if 1 ≤ month && month ≤ 12 && 1 ≤ day && day ≤ daysIn year month then some cs else none

/-- What stands behind a time of day. The last minute may have a leap second. -/
def afterTime? (cs : List Char) : Option (List Char) := do
  let (hour, ':' :: cs) ← fixed? 2 cs | none
  let (minute, ':' :: cs) ← fixed? 2 cs | none
  let (second, cs) ← fixed? 2 cs
  if 23 < hour || 59 < minute || 60 < second then none
  match cs with
  | '.' :: cs =>
    let (digits, cs) := Digits.span 10 cs
    if digits.isEmpty then none else some cs
  | cs => some cs

/-- The text is an offset from universal time: a letter for none, or hours and minutes. -/
def isOffset : List Char → Bool
  | ['Z'] => true
  | ['z'] => true
  | c :: cs =>
    match fixed? 2 cs with
    | some (hour, ':' :: cs) =>
      match fixed? 2 cs with
      | some (minute, []) => (c = '+' || c = '-') && hour ≤ 23 && minute ≤ 59
      | _ => false
    | _ => false
  | [] => false

/-- The text is a date, a time of day, or both. Only both together may have an offset. -/
def isDateTime (cs : List Char) : Bool :=
  match afterDate? cs with
  | some [] => true
  | some (c :: cs) =>
    (c = 'T' || c = 't' || c = ' ') &&
      match afterTime? cs with
      | some rest => rest.isEmpty || isOffset rest
      | none => false
  | none => afterTime? cs = some []

/-- The text is a boolean. -/
def isBoolean (cs : List Char) : Bool := cs = ['t', 'r', 'u', 'e'] || cs = ['f', 'a', 'l', 's', 'e']

/-- The text is a boolean, a number, a date or a time. -/
def isScalar (cs : List Char) : Bool := isBoolean cs || isInteger cs || isFloat cs || isDateTime cs

end SoftRouter.Toml.Scalar
