/-!
# Digits and numerals

Numbers inside addresses and escapes are runs of digits in base ten or sixteen. `span` cuts the
leading run of digits off a text and `numeral` gives its value.
-/

namespace SoftRouter.Digits

/-- The value of a character as a digit of a base up to sixteen; letters of either case follow 9. -/
def value? (base : Nat) (c : Char) : Option Nat :=
  let v :=
    if '0' ≤ c ∧ c ≤ '9' then c.toNat - '0'.toNat
    else if 'a' ≤ c ∧ c ≤ 'f' then c.toNat - 'a'.toNat + 10
    else if 'A' ≤ c ∧ c ≤ 'F' then c.toNat - 'A'.toNat + 10
    else base
  if v < base then some v else none

theorem value?_lt {base v : Nat} {c : Char} (h : value? base c = some v) : v < base := by
  unfold value? at h
  dsimp only at h
  generalize (if '0' ≤ c ∧ c ≤ '9' then c.toNat - '0'.toNat
    else if 'a' ≤ c ∧ c ≤ 'f' then c.toNat - 'a'.toNat + 10
    else if 'A' ≤ c ∧ c ≤ 'F' then c.toNat - 'A'.toNat + 10 else base) = w at h
  by_cases small : w < base
  · rw [if_pos small] at h
    cases h
    exact small
  · rw [if_neg small] at h
    cases h

/-- The values of the digits a text begins with, and the rest of the text. -/
def span (base : Nat) : List Char → List Nat × List Char
  | [] => ([], [])
  | c :: cs =>
    match value? base c with
    | some v => let (digits, rest) := span base cs; (v :: digits, rest)
    | none => ([], c :: cs)

/-- The number that digits write, the most significant digit first. -/
def numeral (base : Nat) (digits : List Nat) : Nat :=
  digits.foldl (fun n d => n * base + d) 0

/-- The character of a digit, letters in lower case. -/
def char (v : Nat) : Char := Nat.digitChar v

/-- A number in base sixteen without leading zeros. -/
def hex (n : Nat) : String := String.ofList (Nat.toDigits 16 n)

end SoftRouter.Digits
