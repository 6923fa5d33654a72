import Mathlib.Algebra.Ring.Nat
import Mathlib.Logic.Function.Iterate
import SoftRouter.Proofs.Buffer.Checksum

/-!
# One's complement sums

In one's complement the carry out of the highest bit of a sum comes back in at the lowest (`endAround`). Words added
up so give what the carries of their plain sum fold to (`onesSum_eq`): nothing if all words are zero, and else the
remainder modulo 65535 that lies between 1 and 65535 (`foldCarries_eq`). The Internet checksum is the complement of
this sum, as RFC 1071 has it, for all byte strings of at most 65537 words; one word more can be too much for the 32
bits that they are added up in (`checksum_complements`).
-/

namespace SoftRouter

/-- The words of a byte string, high bytes first; an odd last byte is the high byte of a word. -/
def words : Bytes → List UInt16
  | hi :: lo :: rest => join16 hi lo :: words rest
  | [hi] => [join16 hi 0]
  | [] => []

/-- One's complement addition: a carry comes back in at the lowest bit. -/
def endAround (a b : Nat) : Nat := if a + b < 65536 then a + b else a + b - 65535

/-- The one's complement sum of the words of a byte string. -/
def onesSum (bytes : Bytes) : Nat := ((words bytes).map UInt16.toNat).foldl endAround 0

/-- What stands above 16 bits is added back in once. -/
def foldOnce (sum : Nat) : Nat := sum % 65536 + sum / 65536

theorem wordSum_eq (bytes : Bytes) : wordSum bytes = ((words bytes).map UInt16.toNat).sum := by
  fun_induction wordSum bytes with
  | case1 hi lo rest ih => simp [words, toNat_join16, ih]
  | case2 hi => simp [words, toNat_join16]
  | case3 => rfl

/-- Folding keeps the remainder modulo 65535, and comes to zero only from zero. -/
theorem foldCarries_eq (sum : Nat) : foldCarries sum = if sum = 0 then 0 else (sum - 1) % 65535 + 1 := by
  fun_induction foldCarries sum with
  | case1 sum small => split <;> omega
  | case2 sum large ih =>
    rw [ih]
    split <;> split <;> omega

theorem foldCarries_add (a b : Nat) : foldCarries (foldCarries a + b) = foldCarries (a + b) := by
  rw [foldCarries_eq (foldCarries a + b), foldCarries_eq (a + b), foldCarries_eq a]
  split <;> split <;> split <;> omega

theorem endAround_eq {a b : Nat} (first : a < 65536) (second : b < 65536) : endAround a b = foldCarries (a + b) := by
  rw [foldCarries_eq, endAround]
  split <;> split <;> omega

theorem foldl_endAround (ws : List UInt16) {start : Nat} (small : start < 65536) :
    (ws.map UInt16.toNat).foldl endAround start = foldCarries (start + (ws.map UInt16.toNat).sum) := by
  induction ws generalizing start with
  | nil => rw [List.map_nil, List.foldl_nil, List.sum_nil, Nat.add_zero, foldCarries, if_pos small]
  | cons w rest ih =>
    rw [List.map_cons, List.foldl_cons, List.sum_cons, endAround_eq small w.toNat_lt, ih (foldCarries_lt _),
      foldCarries_add, Nat.add_assoc]

/-- It makes no difference whether carries come back in at once or at the end. -/
theorem onesSum_eq (bytes : Bytes) : onesSum bytes = foldCarries (wordSum bytes) := by
  rw [onesSum, foldl_endAround _ (by decide), Nat.zero_add, wordSum_eq]

/-- A sum of 32 bits is folded at most twice before it has 16. -/
theorem exists_rounds {sum : Nat} (fits : sum < 2 ^ 32) :
    ∃ rounds ≤ 2, (∀ earlier < rounds, 65536 ≤ foldOnce^[earlier] sum) ∧ foldOnce^[rounds] sum = foldCarries sum := by
  have first : foldOnce sum ≤ 131070 := by
    unfold foldOnce
    omega
  have again (s : Nat) (large : 65536 ≤ s) : foldCarries s = foldCarries (foldOnce s) := by
    rw [foldCarries, if_neg (Nat.not_lt.2 large), foldOnce]
  have done (s : Nat) (small : s < 65536) : foldCarries s = s := by rw [foldCarries, if_pos small]
  by_cases small : sum < 65536
  · exact ⟨0, by omega, by simp, (done sum small).symm⟩
  have large := Nat.not_lt.1 small
  by_cases small' : foldOnce sum < 65536
  · refine ⟨1, by omega, ?_, ?_⟩
    · intro m before
      obtain rfl : m = 0 := by omega
      exact large
    · rw [again sum large, done _ small']
      rfl
  have large' := Nat.not_lt.1 small'
  have second : foldOnce (foldOnce sum) < 65536 := by
    generalize foldOnce sum = s at first large' ⊢
    unfold foldOnce
    omega
  refine ⟨2, by omega, ?_, ?_⟩
  · intro m before
    obtain rfl | rfl : m = 0 ∨ m = 1 := by omega
    · exact large
    · exact large'
  · rw [again sum large, again _ large', done _ second]
    rfl

namespace Checked

/-- The sum of the words overflows when it is too large, and in no other way. -/
theorem sumWords_eq_error_iff {sum : Nat} {bytes : Bytes} (start : sum < 2 ^ 32) :
    sumWords sum bytes = .error .overflow ↔ 2 ^ 32 ≤ sum + wordSum bytes := by
  induction bytes using wordSum.induct generalizing sum with
  | case1 hi lo rest ih =>
    rw [wordSum, sumWords, ← Nat.add_assoc]
    by_cases fits : sum + (hi.toNat * 256 + lo.toNat) < 2 ^ 32
    · rw [add32_eq fits, ok_bind]
      exact ih fits
    · rw [add32, if_neg fits]
      exact iff_of_true rfl (by omega)
  | case2 hi =>
    rw [wordSum, sumWords]
    by_cases fits : sum + hi.toNat * 256 < 2 ^ 32
    · rw [add32_eq fits]
      exact iff_of_false (by simp) (by omega)
    · rw [add32, if_neg fits]
      exact iff_of_true rfl (by omega)
  | case3 => exact iff_of_false (by simp [sumWords]) (by rw [wordSum]; omega)

end Checked

theorem wordSum_replicate (n : Nat) : wordSum (List.replicate (2 * n) 255) = 65535 * n := by
  induction n with
  | zero => rfl
  | succ n ih =>
    rw [Nat.mul_succ, List.replicate_succ, List.replicate_succ, wordSum, ih]
    show 255 * 256 + 255 + 65535 * n = 65535 * (n + 1)
    omega

/-- The sum of that many words of ones overflows from 65538 of them on. -/
theorem Checked.sumWords_replicate_iff (n : Nat) :
    sumWords 0 (List.replicate (2 * n) 255) = .error .overflow ↔ 65538 ≤ n := by
  rw [sumWords_eq_error_iff (by decide), wordSum_replicate]
  omega

theorem wordSum_lt {data : Bytes} (short : data.length ≤ 131074) : wordSum data < 2 ^ 32 := by
  have := wordSum_le data
  omega

theorem accumulate_eq {data : Bytes} (short : data.length ≤ 131074) : (accumulate 0 data).toNat = wordSum data := by
  rw [toNat_accumulate, UInt32.toNat_zero, Nat.zero_add, Nat.mod_eq_of_lt (wordSum_lt short)]

theorem toNat_internetChecksum {data : Bytes} (short : data.length ≤ 131074) :
    (internetChecksum data).toNat = 65535 - foldCarries (wordSum data) := by
  have small := foldCarries_lt (wordSum data)
  have word : (UInt16.ofNat (foldCarries (wordSum data))).toNat = foldCarries (wordSum data) := by
    rw [UInt16.toNat_ofNat', Nat.mod_eq_of_lt small]
  have le : UInt16.ofNat (foldCarries (wordSum data)) ≤ 65535 := by
    rw [UInt16.le_iff_toNat_le, word]
    exact Nat.le_of_lt_succ small
  rw [internetChecksum, accumulate_eq short, UInt16.toNat_sub_of_le _ _ le, word]
  rfl

/-- The checksum of at most 65537 words. -/
structure ChecksumOf (data : Bytes) (checksum : UInt16) : Prop where
  /-- The words add up to their plain sum, which a word of 32 bits holds. -/
  sum : Checked.sumWords 0 data = .ok (wordSum data) ∧ (accumulate 0 data).toNat = wordSum data
  /-- No step overflows. -/
  computed : Checked.checksum data = .ok checksum
  /-- The carries are folded at most twice. -/
  rounds : ∃ rounds ≤ 2, (∀ earlier < rounds, 65536 ≤ foldOnce^[earlier] (wordSum data)) ∧
    foldOnce^[rounds] (wordSum data) < 65536 ∧ checksum = 65535 - UInt16.ofNat (foldOnce^[rounds] (wordSum data))
  /-- It is the complement of the one's complement sum. -/
  complement : checksum.toNat = 65535 - onesSum data
  value : checksum.toNat = if wordSum data = 0 then 65535 else 65535 - ((wordSum data - 1) % 65535 + 1)

theorem checksumOf_internetChecksum {data : Bytes} (short : data.length ≤ 131074) :
    ChecksumOf data (internetChecksum data) where
  sum := ⟨by simpa using @Checked.sumWords_eq 0 _ (by simpa using wordSum_lt short), accumulate_eq short⟩
  computed := Checked.checksum_eq short
  rounds := by
    obtain ⟨rounds, few, earlier, last⟩ := exists_rounds (wordSum_lt short)
    refine ⟨rounds, few, earlier, last ▸ foldCarries_lt _, ?_⟩
    rw [last, internetChecksum, accumulate_eq short]
  complement := by rw [toNat_internetChecksum short, onesSum_eq]
  value := by
    rw [toNat_internetChecksum short, foldCarries_eq]
    split <;> rfl

/-- The Internet checksum of at most 65537 words is the complement of their one's complement sum, and no step on the
way to it overflows. With 65538 words of ones the sum overflows. -/
theorem checksum_complements :
    (∀ data : Bytes, data.length ≤ 131074 → ChecksumOf data (internetChecksum data)) ∧
      (List.replicate 131076 255 : Bytes).length = 131076 ∧
      Checked.sumWords 0 (List.replicate 131076 255) = .error .overflow ∧
      Checked.checksum (List.replicate 131076 255) = .error .overflow := by
  have overflows : Checked.sumWords 0 (List.replicate 131076 255) = .error .overflow := by
    have words : 131076 = 2 * 65538 := rfl
    rw [words]
    exact (Checked.sumWords_replicate_iff 65538).2 (Nat.le_refl _)
  refine ⟨fun data short => checksumOf_internetChecksum short, List.length_replicate, overflows, ?_⟩
  rw [Checked.checksum, overflows]
  rfl

/-- The checksum of the header of a datagram without options. -/
def plainHeader : Bytes :=
  [0x45, 0, 0, 0x14, 0, 0, 0x40, 0, 0x40, 0x11, 0, 0, 0xc0, 0xa8, 0, 1, 0xc0, 0xa8, 0, 0xc7]

theorem checksum_plainHeader : plainHeader.length ≤ 131074 ∧ ChecksumOf plainHeader 0xb8c0 := by
  have short : plainHeader.length ≤ 131074 := by decide
  have value : internetChecksum plainHeader = 0xb8c0 := by decide +kernel
  exact ⟨short, value ▸ checksum_complements.1 plainHeader short⟩

end SoftRouter
