import SoftRouter.Bytes

/-!
# The Internet checksum

The one's complement of the one's complement sum of the 16 bit words of a byte string. The words
are added up in 32 bits, the carries are folded back in, and the result is inverted.
-/

namespace SoftRouter

/-- Adds the big-endian words of a byte string to a 32 bit sum; an odd last byte counts as the high
byte of a word. -/
def accumulate (sum : UInt32) : Bytes → UInt32
  | hi :: lo :: rest => accumulate (sum + (join16 hi lo).toUInt32) rest
  | [hi] => sum + (join16 hi 0).toUInt32
  | [] => sum

/-- Adds what stands above 16 bits back in until nothing does. -/
def foldCarries (sum : Nat) : Nat :=
  if sum < 65536 then sum else foldCarries (sum % 65536 + sum / 65536)

theorem foldCarries_lt (sum : Nat) : foldCarries sum < 65536 := by
  fun_induction foldCarries sum with
  | case1 _ h => exact h
  | case2 _ _ ih => exact ih

/-- The checksum of a byte string. -/
def internetChecksum (data : Bytes) : UInt16 :=
  65535 - UInt16.ofNat (foldCarries (accumulate 0 data).toNat)

end SoftRouter
