import Mathlib.Data.List.Forall2
import SoftRouter.Address.Mac
import SoftRouter.Proofs.Results

/-!
# MAC addresses in text

An octet is read from one or two hexadecimal digits, and from a plus sign with a single digit behind it. So a text is
read as an address when it consists of six such groups between colons (`parse_eq_ok_iff`). Those are the texts in the
colon separated form, to which the text of an address belongs, and the same with signs in it (`reads_groups_iff`).
-/

namespace SoftRouter

namespace Digits

/-- The hexadecimal digits in the order of their values, letters in lower case. -/
def lowerHex : List Char := "0123456789abcdef".toList

/-- The hexadecimal digits in the order of their values, letters in upper case. -/
def upperHex : List Char := "0123456789ABCDEF".toList

/-- The character is the hexadecimal digit of this value, in either case. -/
def Hex (c : Char) (v : Nat) : Prop := lowerHex[v]? = some c ∨ upperHex[v]? = some c

section
variable {c : Char} {v : Nat}

theorem hex_char (small : v < 16) : Hex (char v) v := by
  left
  revert v
  decide

/-- What is so of both rows of digits is so of every digit. -/
theorem Hex.of_rows (P : Char → Nat → Prop) (lower : ∀ p ∈ lowerHex.zipIdx, P p.1 p.2)
    (upper : ∀ p ∈ upperHex.zipIdx, P p.1 p.2) (digit : Hex c v) : P c v := by
  rcases digit with here | here
  · exact lower (c, v) (List.mem_zipIdx_iff_getElem?.2 here)
  · exact upper (c, v) (List.mem_zipIdx_iff_getElem?.2 here)

theorem value?_of_hex (digit : Hex c v) : value? 16 c = some v :=
  digit.of_rows (fun c v => value? 16 c = some v) (by decide) (by decide)

theorem utf8Size_of_hex (digit : Hex c v) : c.utf8Size = 1 :=
  digit.of_rows (fun c _ => c.utf8Size = 1) (by decide) (by decide)

/-- A character among consecutive ones in a row of digits stands there by its distance from the first. -/
theorem getElem?_of_row (row : List Char) (first : Char) (count start : Nat)
    (listed : ∀ k < count, row[k + start]? = some (Char.ofNat (first.toNat + k))) (ge : first.toNat ≤ c.toNat)
    (lt : c.toNat < first.toNat + count) : row[c.toNat - first.toNat + start]? = some c := by
  have here := listed (c.toNat - first.toNat) (by omega)
  rwa [Nat.add_sub_cancel' ge, Char.ofNat_toNat] at here

theorem hex_of_value? (read : value? 16 c = some v) : Hex c v := by
  unfold value? at read
  dsimp only at read
  -- one range of characters after the other; behind the last of them the value is the base, which is no digit
  by_cases decimal : '0' ≤ c ∧ c ≤ '9'
  · rw [if_pos decimal] at read
    have last : c.toNat ≤ 57 := decimal.2
    split at read
    · cases read
      exact .inl (getElem?_of_row lowerHex '0' 10 0 (by decide) decimal.1 (Nat.lt_succ_of_le last))
    · cases read
  rw [if_neg decimal] at read
  by_cases lower : 'a' ≤ c ∧ c ≤ 'f'
  · rw [if_pos lower] at read
    have last : c.toNat ≤ 102 := lower.2
    split at read
    · cases read
      exact .inl (getElem?_of_row lowerHex 'a' 6 10 (by decide) lower.1 (Nat.lt_succ_of_le last))
    · cases read
  rw [if_neg lower] at read
  by_cases upper : 'A' ≤ c ∧ c ≤ 'F'
  · rw [if_pos upper] at read
    have last : c.toNat ≤ 70 := upper.2
    split at read
    · cases read
      exact .inr (getElem?_of_row upperHex 'A' 6 10 (by decide) upper.1 (Nat.lt_succ_of_le last))
    · cases read
  · rw [if_neg upper] at read
    cases read

theorem value?_eq_some_iff_hex : value? 16 c = some v ↔ Hex c v := ⟨hex_of_value?, value?_of_hex⟩

/-- A text is a run of digits when each of its characters is one. -/
theorem span_eq_iff {base : Nat} {cs : List Char} {values : List Nat} :
    span base cs = (values, []) ↔ List.Forall₂ (fun c v => value? base c = some v) cs values := by
  induction cs generalizing values with
  | nil =>
    rw [List.forall₂_nil_left_iff, span, Prod.mk.injEq, eq_comm, eq_self, and_true]
  | cons c cs ih =>
    rw [span]
    cases read : value? base c with
    | none => exact iff_of_false nofun (by rintro (_ | ⟨first, _⟩); simp [read] at first)
    | some v =>
      cases values with
      | nil => exact iff_of_false nofun nofun
      | cons w values =>
        rw [List.forall₂_cons, ← ih, read]
        simp [Prod.ext_iff, and_assoc]

end

end Digits

namespace Mac

open Digits

/-- One or two hexadecimal digits write an octet. -/
inductive HexGroup : List Char → UInt8 → Prop where
  | single {c : Char} {v : Nat} (digit : Hex c v) : HexGroup [c] (UInt8.ofNat v)
  | pair {c d : Char} {v w : Nat} (high : Hex c v) (low : Hex d w) : HexGroup [c, d] (UInt8.ofNat (v * 16 + w))

/-- A plus sign and a single digit behind it. -/
inductive SignedGroup : List Char → UInt8 → Prop where
  | plus {c : Char} {v : Nat} (digit : Hex c v) : SignedGroup ['+', c] (UInt8.ofNat v)

/-- The octet is read from the group: it is that of its digits, or of the digit behind a sign. -/
def Taken (group : List Char) (octet : UInt8) : Prop := HexGroup group octet ∨ SignedGroup group octet

section
variable {group : List Char} {octet : UInt8}

theorem length_le_textSize (cs : List Char) : cs.length ≤ textSize cs := by
  induction cs with
  | nil => exact Nat.le_refl 0
  | cons c cs ih =>
    have := c.utf8Size_pos
    rw [List.length_cons, textSize]
    omega

/-- The digits of a group, without the sign. -/
def unsigned (group : List Char) : List Char :=
  match group with
  | '+' :: rest => rest
  | _ => group

theorem hex_ne_plus {c : Char} {v : Nat} (digit : Hex c v) : c ≠ '+' := by
  rintro rfl
  cases value?_of_hex digit

theorem unsigned_of_ne {c : Char} (plain : c ≠ '+') (rest : List Char) : unsigned (c :: rest) = c :: rest := by
  unfold unsigned
  split
  · rename_i same
    cases same
    exact absurd rfl plain
  · rfl

theorem span_unsigned_iff {values : List Nat} :
    span 16 (unsigned group) = (values, []) ↔ List.Forall₂ Hex (unsigned group) values := by
  rw [span_eq_iff]
  simp only [value?_eq_some_iff_hex]

/-- What is made of the values of digits and of what follows them. -/
def octetOf : List Nat × List Char → Except MacError UInt8
  | (v :: vs, []) => .ok (UInt8.ofNat (numeral 16 (v :: vs)))
  | _ => .error .notHex

theorem octetOf_eq_ok_iff {cut : List Nat × List Char} :
    octetOf cut = .ok octet ↔ ∃ v vs, cut = (v :: vs, []) ∧ UInt8.ofNat (numeral 16 (v :: vs)) = octet := by
  constructor
  · intro read
    unfold octetOf at read
    split at read
    · rename_i v vs
      cases read
      exact ⟨v, vs, rfl, rfl⟩
    · cases read
  · rintro ⟨v, vs, rfl, rfl⟩
    rfl

theorem parseOctet_eq_ok_iff : parseOctet group = .ok octet ↔ group ≠ [] ∧ textSize group ≤ 2 ∧
    ∃ v vs, List.Forall₂ Hex (unsigned group) (v :: vs) ∧ UInt8.ofNat (numeral 16 (v :: vs)) = octet := by
  have steps : parseOctet group = if group.isEmpty || 2 < textSize group then .error .malformedOctet else
      octetOf (span 16 (unsigned group)) := rfl
  rw [steps]
  by_cases odd : group = [] ∨ 2 < textSize group
  · rw [if_pos (by simpa using odd)]
    exact iff_of_false nofun fun ⟨nonempty, short, _⟩ => odd.elim nonempty (by omega)
  · rw [if_neg (by simpa using odd), octetOf_eq_ok_iff]
    simp only [span_unsigned_iff]
    obtain ⟨nonempty, short⟩ := not_or.1 odd
    exact ⟨fun digits => ⟨nonempty, Nat.le_of_not_lt short, digits⟩, fun ⟨_, _, digits⟩ => digits⟩

/-- An octet is read from a group that writes one, and from one with a sign in the place of the first digit. -/
theorem parseOctet_iff_taken : parseOctet group = .ok octet ↔ Taken group octet := by
  rw [parseOctet_eq_ok_iff]
  constructor
  · rintro ⟨nonempty, short, v, vs, digits, rfl⟩
    have few := Nat.le_trans (length_le_textSize group) short
    cases group with
    | nil => exact absurd rfl nonempty
    | cons c rest =>
      by_cases sign : c = '+'
      · subst sign
        change List.Forall₂ Hex rest (v :: vs) at digits
        obtain _ | ⟨digit, _ | ⟨_, _⟩⟩ := digits
        · right
          rw [numeral, List.foldl_cons, List.foldl_nil, Nat.zero_mul, Nat.zero_add]
          exact .plus digit
        · simp at few
      · rw [unsigned_of_ne sign] at digits
        obtain _ | ⟨high, _ | ⟨low, _ | ⟨_, _⟩⟩⟩ := digits
        · left
          rw [numeral, List.foldl_cons, List.foldl_nil, Nat.zero_mul, Nat.zero_add]
          exact .single high
        · left
          rw [numeral, List.foldl_cons, List.foldl_cons, List.foldl_nil, Nat.zero_mul, Nat.zero_add]
          exact .pair high low
        · simp at few
  · rintro (written | signed)
    · cases written with
      | @single c v digit =>
        refine ⟨List.cons_ne_nil _ _, ?_, v, [], ?_, ?_⟩
        · simp [textSize, utf8Size_of_hex digit]
        · rw [unsigned_of_ne (hex_ne_plus digit)]
          exact .cons digit .nil
        · simp [numeral]
      | @pair c d v w high low =>
        refine ⟨List.cons_ne_nil _ _, ?_, v, [w], ?_, ?_⟩
        · simp [textSize, utf8Size_of_hex high, utf8Size_of_hex low]
        · rw [unsigned_of_ne (hex_ne_plus high)]
          exact .cons high (.cons low .nil)
        · simp [numeral]
    · cases signed with
      | @plus c v digit =>
        refine ⟨List.cons_ne_nil _ _, ?_, v, [], .cons digit .nil, ?_⟩
        · have one : '+'.utf8Size = 1 := rfl
          simp [textSize, one, utf8Size_of_hex digit]
        · simp [numeral]

end

/-! ## Texts -/

section
variable {text : String} {m : Mac}

/-- The text consists of six groups between colons, and each of them is for an octet of the address. -/
def Between (group : List Char → UInt8 → Prop) (text : String) (m : Mac) : Prop :=
  ∃ groups, List.Forall₂ group groups m.octets ∧ text.toList = [':'].intercalate groups

theorem no_colon {group : List Char} {octet : UInt8} (taken : Taken group octet) : ':' ∉ group := by
  have digit {c : Char} {v : Nat} (digit : Hex c v) : ':' ≠ c := by
    rintro rfl
    cases value?_of_hex digit
  rcases taken with (here | ⟨high, low⟩) | @⟨_, _, here⟩
  · simp [digit here]
  · simp [digit high, digit low]
  · simp [digit here]

theorem parseOctets_eq_ok_iff {n : Nat} {groups : List (List Char)} {octets : Bytes} :
    parseOctets n groups = .ok octets ↔ octets.length = n ∧ List.Forall₂ Taken groups octets := by
  induction n generalizing groups octets with
  | zero =>
    cases groups with
    | nil =>
      constructor
      · rintro ⟨⟩
        exact ⟨rfl, .nil⟩
      · rintro ⟨-, ⟨⟩⟩
        rfl
    | cons group groups =>
      refine iff_of_false nofun ?_
      rintro ⟨none, _ | ⟨_, _⟩⟩
      cases none
  | succ n ih =>
    cases groups with
    | nil =>
      refine iff_of_false nofun ?_
      rintro ⟨one, ⟨⟩⟩
      cases one
    | cons group groups =>
      simp only [parseOctets, bind_eq_ok_iff, parseOctet_iff_taken, ih]
      constructor
      · rintro ⟨octet, first, octets, ⟨count, others⟩, ⟨⟩⟩
        exact ⟨congrArg (· + 1) count, .cons first others⟩
      · rintro ⟨count, _ | ⟨first, others⟩⟩
        exact ⟨_, first, _, ⟨Nat.succ_inj.1 count, others⟩, rfl⟩

theorem ofBytes_eq_ok_iff {bytes : Bytes} : ofBytes bytes = .ok m ↔ bytes = m.octets := by
  constructor
  · intro six
    exact (octets_of_ofBytes six).symm
  · rintro rfl
    exact ofBytes_octets m

theorem forall_of_forall₂ {α β : Type} {R : α → β → Prop} {p : α → Prop} {l : List α} {u : List β}
    (related : List.Forall₂ R l u) (each : ∀ a b, R a b → p a) : ∀ a ∈ l, p a :=
  ((List.forall₂_and_left l u).1 (related.imp fun a b r => ⟨each a b r, r⟩)).1

/-- The groups of a text are what lies between its colons. -/
theorem splitOn_of_taken {groups : List (List Char)} (taken : List.Forall₂ Taken groups m.octets)
    (written : text.toList = [':'].intercalate groups) : text.toList.splitOn ':' = groups := by
  have apart := forall_of_forall₂ taken fun _ _ => no_colon
  have nonempty : groups ≠ [] := by
    rintro rfl
    cases taken
  rw [written, List.splitOn_intercalate ':' apart nonempty]

/-- A text is read as an address when it consists of groups that the octets of this address are read from. -/
theorem parse_eq_ok_iff : parse text = .ok m ↔ Between Taken text m := by
  simp only [parse, bind_eq_ok_iff, parseOctets_eq_ok_iff, ofBytes_eq_ok_iff]
  constructor
  · rintro ⟨_, ⟨-, taken⟩, rfl⟩
    exact ⟨_, taken, (List.intercalate_splitOn ':').symm⟩
  · rintro ⟨groups, taken, written⟩
    refine ⟨_, ⟨rfl, ?_⟩, rfl⟩
    rwa [splitOn_of_taken taken written]

theorem between_text (m : Mac) : Between HexGroup m.text m := by
  have pair (octet : UInt8) : HexGroup (octetText octet).toList octet := by
    have bound := octet.toNat_lt
    have high : Hex (char (octet.toNat / 16)) (octet.toNat / 16) := hex_char (by omega)
    have low : Hex (char (octet.toNat % 16)) (octet.toNat % 16) := hex_char (by omega)
    have both := HexGroup.pair high low
    rw [Nat.div_add_mod' octet.toNat 16, UInt8.ofNat_toNat] at both
    rwa [octetText, String.toList_ofList]
  have colon : ":".toList = [':'] := rfl
  refine ⟨m.octets.map fun octet => (octetText octet).toList, ?_, ?_⟩
  · rw [List.forall₂_map_left_iff, List.forall₂_same]
    exact fun octet _ => pair octet
  · rw [Mac.text, String.toList_intercalate, colon, List.map_map]
    rfl

theorem Between.mono {narrow wide : List Char → UInt8 → Prop} (between : Between narrow text m)
    (all : ∀ group octet, narrow group octet → wide group octet) : Between wide text m := by
  obtain ⟨groups, each, written⟩ := between
  exact ⟨groups, each.imp all, written⟩

/-- The text would be in the colon separated form, but for the signs in some of its groups. -/
def WithSign (text : String) (m : Mac) : Prop :=
  ∃ groups, List.Forall₂ Taken groups m.octets ∧ text.toList = [':'].intercalate groups ∧
    ∃ group ∈ groups, ∃ octet, SignedGroup group octet

theorem not_group_of_signed {group : List Char} {octet other : UInt8} (signed : SignedGroup group octet) :
    ¬ HexGroup group other := by
  rintro (_ | ⟨high, -⟩)
  · cases signed
  · obtain ⟨-⟩ := signed
    exact hex_ne_plus high rfl

theorem groups_or_sign {groups : List (List Char)} {octets : Bytes} (taken : List.Forall₂ Taken groups octets) :
    List.Forall₂ HexGroup groups octets ∨ ∃ group ∈ groups, ∃ octet, SignedGroup group octet := by
  induction taken with
  | nil => exact .inl .nil
  | @cons group octet groups octets first _ ih =>
    rcases first with written | signed
    · rcases ih with others | ⟨other, mem, signed⟩
      · exact .inl (.cons written others)
      · exact .inr ⟨other, List.mem_cons_of_mem _ mem, signed⟩
    · exact .inr ⟨group, List.mem_cons_self, octet, signed⟩

theorem taken_iff_sign : Between Taken text m ↔ Between HexGroup text m ∨ WithSign text m := by
  constructor
  · rintro ⟨groups, taken, written⟩
    rcases groups_or_sign taken with plain | sign
    · exact .inl ⟨groups, plain, written⟩
    · exact .inr ⟨groups, taken, written, sign⟩
  · rintro (plain | ⟨groups, taken, written, -⟩)
    · exact plain.mono fun _ _ => .inl
    · exact ⟨groups, taken, written⟩

theorem not_between_of_sign (sign : WithSign text m) (other : Mac) : ¬ Between HexGroup text other := by
  obtain ⟨groups, taken, written, group, mem, octet, signed⟩ := sign
  rintro ⟨plainly, plain, written'⟩
  have same : groups = plainly := by
    rw [← splitOn_of_taken taken written, splitOn_of_taken (plain.imp fun _ _ => .inl) written']
  have unsigned : ∀ group ∈ plainly, ∀ octet, ¬ SignedGroup group octet :=
    forall_of_forall₂ plain fun _ _ written _ signed => not_group_of_signed signed written
  exact unsigned group (same ▸ mem) octet signed

/-- A text is read as the address whose octets its groups write, and so is one with signs in it. That just the texts
in the colon separated form are read is so of all texts but those, and the text of an address is read as this
address. -/
theorem reads_groups_iff (text : String) (m : Mac) :
    ((∀ read, parse text = .ok read ↔ Between HexGroup text read) ↔ ¬ ∃ signed, WithSign text signed) ∧
      (parse text = .ok m ↔ Between HexGroup text m ∨ WithSign text m) ∧ parse m.text = .ok m := by
  simp only [parse_eq_ok_iff]
  refine ⟨?_, taken_iff_sign, (between_text m).mono fun _ _ => .inl⟩
  constructor
  · rintro only ⟨signed, sign⟩
    exact not_between_of_sign sign signed ((only signed).1 (taken_iff_sign.2 (.inr sign)))
  · intro free read
    rw [taken_iff_sign, or_iff_left fun sign => free ⟨read, sign⟩]

/-- A sign stands for a digit of the first octet. -/
def signedText : String := "+f:0:0:0:0:1"

/-- The text with a sign is read, though no address has it in the colon separated form. -/
theorem sign_taken : parse signedText = .ok ⟨15, 0, 0, 0, 0, 1⟩ ∧
    ¬ ((∃ m, parse signedText = .ok m) ↔ ∃ m, Between HexGroup signedText m) := by
  have read : parse signedText = .ok ⟨15, 0, 0, 0, 0, 1⟩ := by decide +kernel
  have sign : WithSign signedText ⟨15, 0, 0, 0, 0, 1⟩ := by
    obtain ⟨groups, taken, written⟩ := parse_eq_ok_iff.1 read
    have first : ['+', 'f'] ∈ groups := by
      rw [← splitOn_of_taken taken written]
      decide +kernel
    exact ⟨groups, taken, written, _, first, 15, .plus (hex_of_value? rfl)⟩
  refine ⟨read, fun only => ?_⟩
  obtain ⟨m, between⟩ := only.1 ⟨_, read⟩
  exact not_between_of_sign sign m between

end

end Mac

end SoftRouter
