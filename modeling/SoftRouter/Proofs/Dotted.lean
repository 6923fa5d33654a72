import SoftRouter.Proofs.Packet

/-!
# Dotted addresses

Decimal numbers without leading zeros are read as what they were written from (`readOctet_eq_some_iff`), so a text is
a dotted address exactly when it is the text of that address (`parse?_eq_some_iff`).
-/

namespace SoftRouter

namespace Digits

/-- The text does not begin with a decimal digit. -/
def Digitless (rest : List Char) : Prop := ∀ c ∈ rest.head?, value? 10 c = none

theorem value?_digitChar {v : Nat} (small : v < 10) : value? 10 (Nat.digitChar v) = some v := by
  revert v
  decide

theorem eq_digitChar_of_value? {c : Char} {v : Nat} (read : value? 10 c = some v) : c = Nat.digitChar v := by
  have small := value?_lt read
  apply Char.toNat_inj.1
  rw [Nat.toNat_digitChar_of_lt_ten small]
  unfold value? at read
  dsimp only at read
  generalize letters : (if 'a' ≤ c ∧ c ≤ 'f' then c.toNat - 'a'.toNat + 10
    else if 'A' ≤ c ∧ c ≤ 'F' then c.toNat - 'A'.toNat + 10 else 10) = w at read
  have large : 10 ≤ w := by
    rw [← letters]
    split
    · omega
    · split <;> omega
  by_cases digit : '0' ≤ c ∧ c ≤ '9'
  · rw [if_pos digit] at read
    have zero : 48 ≤ c.toNat := digit.1
    split at read
    · cases read
      exact (Nat.add_sub_cancel' zero).symm
    · cases read
  · rw [if_neg digit, if_neg (Nat.not_lt.2 large)] at read
    cases read

section
variable {cs rest : List Char} {digits : List Nat}

theorem span_of_digits (small : ∀ d ∈ digits, d < 10) (ended : Digitless rest) :
    span 10 (digits.map Nat.digitChar ++ rest) = (digits, rest) := by
  induction digits with
  | nil =>
    cases rest with
    | nil => rfl
    | cons c rest =>
      rw [List.map_nil, List.nil_append, span, ended c rfl]
  | cons d digits ih =>
    obtain ⟨first, others⟩ := List.forall_mem_cons.1 small
    rw [List.map_cons, List.cons_append, span, value?_digitChar first]
    dsimp only
    rw [ih others]

theorem span_spec (cut : span 10 cs = (digits, rest)) :
    cs = digits.map Nat.digitChar ++ rest ∧ (∀ d ∈ digits, d < 10) ∧ Digitless rest := by
  induction cs generalizing digits with
  | nil =>
    cases cut
    exact ⟨rfl, List.forall_mem_nil _, nofun⟩
  | cons c cs ih =>
    rw [span] at cut
    cases read : value? 10 c with
    | none =>
      rw [read] at cut
      cases cut
      refine ⟨rfl, List.forall_mem_nil _, ?_⟩
      rintro _ ⟨⟩
      exact read
    | some v =>
      rw [read] at cut
      cases cut
      obtain ⟨same, small, ended⟩ := ih rfl
      refine ⟨?_, List.forall_mem_cons.2 ⟨value?_lt read, small⟩, ended⟩
      rw [List.map_cons, List.cons_append, ← eq_digitChar_of_value? read, ← same]

end

/-- Digits behind a number are its further digits. -/
theorem toDigits_foldl {digits : List Nat} {n : Nat} (positive : 0 < n) (small : ∀ d ∈ digits, d < 10) :
    Nat.toDigits 10 (digits.foldl (fun n d => n * 10 + d) n) = Nat.toDigits 10 n ++ digits.map Nat.digitChar := by
  induction digits generalizing n with
  | nil => rw [List.foldl_nil, List.map_nil, List.append_nil]
  | cons d digits ih =>
    obtain ⟨first, others⟩ := List.forall_mem_cons.1 small
    have longer : Nat.toDigits 10 (n * 10 + d) = Nat.toDigits 10 n ++ [d.digitChar] := by
      rw [Nat.mul_comm, ← Nat.toDigits_append_toDigits (by decide) positive first, Nat.toDigits_of_lt_base first]
    rw [List.foldl_cons, ih (Nat.add_pos_left (Nat.mul_pos positive (by decide)) d) others, longer, List.append_assoc,
      List.map_cons, List.singleton_append]

/-- Digits that do not begin with a zero are those of the number that they write. -/
theorem toDigits_numeral {d : Nat} {digits : List Nat} (leading : d ≠ 0) (small : ∀ e ∈ d :: digits, e < 10) :
    Nat.toDigits 10 (numeral 10 (d :: digits)) = (d :: digits).map Nat.digitChar := by
  obtain ⟨first, others⟩ := List.forall_mem_cons.1 small
  rw [numeral, List.foldl_cons, Nat.zero_mul, Nat.zero_add, toDigits_foldl (Nat.pos_of_ne_zero leading) others,
    Nat.toDigits_of_lt_base first, List.map_cons, List.singleton_append]

/-- Every number is written with digits, of which only a single one can begin with a zero. -/
theorem exists_numeral (n : Nat) : ∃ d digits, (∀ e ∈ d :: digits, e < 10) ∧ (digits ≠ [] → d ≠ 0) ∧
    numeral 10 (d :: digits) = n ∧ Nat.toDigits 10 n = (d :: digits).map Nat.digitChar := by
  induction n using Nat.strongRecOn with
  | ind n ih =>
    by_cases single : n < 10
    · refine ⟨n, [], List.forall_mem_singleton.2 single, (absurd rfl ·), ?_, Nat.toDigits_of_lt_base single⟩
      rw [numeral, List.foldl_cons, List.foldl_nil, Nat.zero_mul, Nat.zero_add]
    · obtain ⟨d, digits, small, leading, value, text⟩ := ih (n / 10) (by omega)
      refine ⟨d, digits ++ [n % 10], ?_, ?_, ?_, ?_⟩
      · rw [← List.cons_append]
        exact List.forall_mem_append.2 ⟨small, List.forall_mem_singleton.2 (Nat.mod_lt n (by decide))⟩
      · -- a number written with a zero alone is 0, but `n / 10` is not
        rintro - rfl
        by_cases alone : digits = []
        · rw [alone] at value
          change 0 = n / 10 at value
          omega
        · exact leading alone rfl
      · rw [← List.cons_append, numeral, List.foldl_append, ← numeral, value, List.foldl_cons, List.foldl_nil]
        exact Nat.div_add_mod' n 10
      · rw [Nat.toDigits_eq_if (by decide), if_neg single, text, ← List.cons_append, List.map_append,
          List.map_singleton]

end Digits

namespace Ipv4Addr

open Digits

section
variable {cs rest : List Char} {o : UInt8} {ip : Ipv4Addr}

theorem readOctet_of_text (o : UInt8) (ended : Digitless rest) :
    readOctet (Nat.toDigits 10 o.toNat ++ rest) = some (o, rest) := by
  obtain ⟨d, digits, small, leading, value, text⟩ := exists_numeral o.toNat
  have bound := o.toNat_lt
  have short : (Nat.toDigits 10 o.toNat).length ≤ 3 :=
    (Nat.length_toDigits_le_iff (by decide) (by decide)).2 (by omega)
  rw [text, List.length_map, List.length_cons] at short
  rw [text, readOctet, span_of_digits small ended]
  cases digits with
  | nil =>
    have same : d = o.toNat := by rwa [numeral, List.foldl_cons, List.foldl_nil, Nat.zero_mul, Nat.zero_add] at value
    dsimp only
    rw [same, UInt8.ofNat_toNat]
  | cons e digits =>
    have plain : ¬ (d = 0 ∨ 2 < (e :: digits).length ∨ 255 < numeral 10 (d :: e :: digits)) := by
      rw [value]
      have := leading (List.cons_ne_nil e digits)
      omega
    dsimp only
    rw [if_neg plain, value, UInt8.ofNat_toNat]

theorem text_of_readOctet (read : readOctet cs = some (o, rest)) :
    cs = Nat.toDigits 10 o.toNat ++ rest ∧ Digitless rest := by
  rw [readOctet] at read
  obtain ⟨⟨digits, behind⟩, cut⟩ : ∃ found, span 10 cs = found := ⟨_, rfl⟩
  obtain ⟨same, small, ended⟩ := span_spec cut
  rw [cut] at read
  match digits with
  | [] => cases read
  | [d] =>
    cases read
    have first : d < 10 := small d List.mem_cons_self
    rw [UInt8.toNat_ofNat_of_lt' (Nat.lt_trans first (by decide)), Nat.toDigits_of_lt_base first]
    exact ⟨same, ended⟩
  | d :: e :: digits =>
    dsimp only at read
    split at read
    · cases read
    · rename_i plain
      obtain ⟨leading, others⟩ := not_or.1 plain
      have fits : numeral 10 (d :: e :: digits) < 256 := by omega
      cases read
      rw [UInt8.toNat_ofNat_of_lt' fits, toDigits_numeral leading small]
      exact ⟨same, ended⟩

theorem readOctet_eq_some_iff :
    readOctet cs = some (o, rest) ↔ cs = Nat.toDigits 10 o.toNat ++ rest ∧ Digitless rest := by
  refine ⟨text_of_readOctet, ?_⟩
  rintro ⟨rfl, ended⟩
  exact readOctet_of_text o ended

theorem readDotOctet_eq_some_iff :
    readDotOctet cs = some (o, rest) ↔ cs = '.' :: (Nat.toDigits 10 o.toNat ++ rest) ∧ Digitless rest := by
  unfold readDotOctet
  split
  · rw [readOctet_eq_some_iff, List.cons_inj_right]
  · rename_i other
    exact iff_of_false nofun fun ⟨same, _⟩ => other _ same

theorem digitless_dot (cs : List Char) : Digitless ('.' :: cs) := by
  rintro _ ⟨⟩
  rfl

theorem toList_text_ofOctets (a b c d : UInt8) : (ofOctets a b c d).text.toList =
    Nat.toDigits 10 a.toNat ++ '.' :: (Nat.toDigits 10 b.toNat ++ '.' :: (Nat.toDigits 10 c.toNat ++
      '.' :: Nat.toDigits 10 d.toNat)) := by
  have dot : ".".toList = ['.'] := rfl
  simp only [text, octets_ofOctets, List.map_cons, List.map_nil, String.toList_intercalate, dot,
    Nat.toString_eq_ofList_toDigits, String.toList_ofList, List.intercalate_cons_cons, List.intercalate_singleton,
    List.append_assoc, List.singleton_append]

theorem read_eq_some_iff : read cs = some (ip, rest) ↔ cs = ip.text.toList ++ rest ∧ Digitless rest := by
  simp only [read, bind, Option.bind_eq_some_iff, Prod.exists, readOctet_eq_some_iff, readDotOctet_eq_some_iff]
  constructor
  · rintro ⟨a, _, ⟨rfl, -⟩, b, _, ⟨rfl, -⟩, c, _, ⟨rfl, -⟩, d, _, ⟨rfl, ended⟩, ⟨⟩⟩
    refine ⟨?_, ended⟩
    simp only [toList_text_ofOctets, List.append_assoc, List.cons_append]
  · rintro ⟨rfl, ended⟩
    obtain ⟨a, b, c, d, rfl⟩ : ∃ a b c d, ip = ofOctets a b c d := ⟨_, _, _, _, (ofOctets_octets ip).symm⟩
    simp only [toList_text_ofOctets, List.append_assoc, List.cons_append]
    exact ⟨a, _, ⟨rfl, digitless_dot _⟩, b, _, ⟨rfl, digitless_dot _⟩, c, _, ⟨rfl, digitless_dot _⟩, d, rest,
      ⟨rfl, ended⟩, rfl⟩

/-- A text is a dotted address exactly when the address is written like this. -/
theorem parse?_eq_some_iff {written : String} : parse? written = some ip ↔ written = ip.text := by
  have whole : parse? written = some ip ↔ read written.toList = some (ip, []) := by
    unfold parse?
    split
    · rename_i found
      rw [found, Option.some_inj, Option.some_inj, Prod.mk.injEq, eq_self, and_true]
    · rename_i other
      exact iff_of_false nofun (other ip)
  rw [whole, read_eq_some_iff, List.append_nil, String.toList_inj, and_iff_left]
  exact nofun

theorem parse?_text (ip : Ipv4Addr) : parse? ip.text = some ip := parse?_eq_some_iff.2 rfl

end

end Ipv4Addr

end SoftRouter
