import SoftRouter.Proofs.Buffer.Access

/-!
# The checksum without overflow

The sum of the words of a byte string stays below the size of a word of 32 bits as long as the string has at most
65537 words, the last of which may be half a word. Adding its halves to each other never exceeds the size either.
-/

namespace SoftRouter

/-- The sum of the words of a byte string; an odd last byte counts as the high byte of a word. -/
def wordSum : Bytes → Nat
  | hi :: lo :: rest => hi.toNat * 256 + lo.toNat + wordSum rest
  | [hi] => hi.toNat * 256
  | [] => 0

theorem wordSum_le (bytes : Bytes) : wordSum bytes ≤ 65535 * ((bytes.length + 1) / 2) := by
  fun_induction wordSum bytes with
  | case1 hi lo rest ih =>
    have := hi.toNat_lt
    have := lo.toNat_lt
    simp only [List.length_cons]
    omega
  | case2 hi =>
    have := hi.toNat_lt
    simp only [List.length_singleton]
    omega
  | case3 => simp

/-- The sum modulo the size of a word. -/
theorem toNat_accumulate (sum : UInt32) (bytes : Bytes) :
    (accumulate sum bytes).toNat = (sum.toNat + wordSum bytes) % 2 ^ 32 := by
  fun_induction accumulate sum bytes with
  | case1 sum hi lo rest ih =>
    rw [ih, wordSum, UInt32.toNat_add, UInt16.toNat_toUInt32, toNat_join16]
    omega
  | case2 sum hi =>
    rw [wordSum, UInt32.toNat_add, UInt16.toNat_toUInt32, toNat_join16]
    simp
  | case3 sum =>
    have := sum.toNat_lt
    rw [wordSum]
    omega

namespace Checked

/-- Adds the words of a byte string to a sum. -/
def sumWords (sum : Nat) : Bytes → Checked Nat
  | hi :: lo :: rest => do sumWords (← add32 sum (hi.toNat * 256 + lo.toNat)) rest
  | [hi] => add32 sum (hi.toNat * 256)
  | [] => .ok sum

theorem sumWords_eq {sum : Nat} {bytes : Bytes} (fits : sum + wordSum bytes < 2 ^ 32) :
    sumWords sum bytes = .ok (sum + wordSum bytes) := by
  induction bytes using wordSum.induct generalizing sum with
  | case1 hi lo rest ih =>
    rw [wordSum, ← Nat.add_assoc] at fits ⊢
    have first : sum + (hi.toNat * 256 + lo.toNat) < 2 ^ 32 := by omega
    rw [sumWords, add32_eq first, ok_bind, ih fits]
  | case2 hi =>
    rw [wordSum] at fits ⊢
    rw [sumWords, add32_eq fits]
  | case3 => rfl

/-- Adds the halves of a sum until the upper one is zero. -/
def foldSum (sum : Nat) : Checked Nat :=
  if sum < 65536 then .ok sum
  else
    match _next : add32 (sum % 65536) (sum / 65536) with
    | .ok next => foldSum next
    | .error fault => .error fault
termination_by sum
decreasing_by
  unfold add32 at _next
  split at _next
  · cases _next
    omega
  · cases _next

theorem foldSum_eq {sum : Nat} (fits : sum < 2 ^ 32) : foldSum sum = .ok (foldCarries sum) := by
  fun_induction foldCarries sum with
  | case1 sum small => rw [foldSum, if_pos small]
  | case2 sum large ih =>
    have next : add32 (sum % 65536) (sum / 65536) = .ok (sum % 65536 + sum / 65536) := add32_eq (by omega)
    rw [foldSum, if_neg large]
    split
    · rename_i same
      rw [next] at same
      cases same
      exact ih (by omega)
    · rename_i same
      rw [next] at same
      cases same

/-- The checksum of a byte string. -/
def checksum (data : Bytes) : Checked UInt16 := do return 65535 - UInt16.ofNat (← foldSum (← sumWords 0 data))

/-- No word overflows on the way to the checksum of at most 65537 words. -/
theorem checksum_eq {data : Bytes} (short : data.length ≤ 131074) : checksum data = .ok (internetChecksum data) := by
  have bound := wordSum_le data
  have fits : wordSum data < 2 ^ 32 := by omega
  have sum : (accumulate 0 data).toNat = wordSum data := by
    rw [toNat_accumulate, UInt32.toNat_zero, Nat.zero_add, Nat.mod_eq_of_lt fits]
  rw [checksum, sumWords_eq (by omega), ok_bind, Nat.zero_add, foldSum_eq fits, internetChecksum, sum]
  rfl

end Checked

end SoftRouter
