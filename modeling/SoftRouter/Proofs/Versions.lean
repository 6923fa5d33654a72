import SoftRouter.Proofs.Buffer.Rip
import SoftRouter.Proofs.Corruption

/-!
# Which bytes are a routing message

Bytes are a message when they are whole records behind a header with a known command, and the entries are those of the
records, at their places, that are of the family of IPv4. The version in the header is not looked at: where it is not 2
the bytes are a message all the same (`accepts_version2_iff`), and an entry of version 1, which has zeros where the mask
would be, becomes a route to everywhere.
-/

namespace SoftRouter

/-- The record that begins at a position. -/
def RipRecord.readAt (bytes : Bytes) (start : Nat) : RipRecord :=
  let byte j := bytes.getD (start + j) 0
  let address j := Ipv4Addr.ofOctets (byte j) (byte (j + 1)) (byte (j + 2)) (byte (j + 3))
  { family := join16 (byte 0) (byte 1)
    tag := join16 (byte 2) (byte 3)
    network := address 4
    mask := address 8
    nextHop := address 12
    metric := join32 (join16 (byte 16) (byte 17)) (join16 (byte 18) (byte 19)) }

namespace RipRecord

theorem readAt_append (front bytes : Bytes) (start : Nat) :
    RipRecord.readAt (front ++ bytes) (front.length + start) = RipRecord.readAt bytes start := by
  have behind (j : Nat) : (front ++ bytes).getD (front.length + start + j) 0 = bytes.getD (start + j) 0 := by
    rw [Nat.add_assoc, List.getD_eq_getElem?_getD, List.getElem?_append_right (Nat.le_add_right ..),
      Nat.add_sub_cancel_left, ← List.getD_eq_getElem?_getD]
  simp only [RipRecord.readAt, behind]

theorem readAt_encode (x : RipRecord) (bytes : Bytes) : RipRecord.readAt (x.encode ++ bytes) 0 = x := by
  simp [RipRecord.readAt, encode, octets16, octets32, Ipv4Addr.octets]

/-- Record by record the places are twenty bytes apart. -/
theorem map_readAt_flatMap (xs : List RipRecord) :
    (List.range xs.length).map (fun i => RipRecord.readAt (xs.flatMap encode) (20 * i)) = xs := by
  induction xs with
  | nil => rfl
  | cons x rest ih =>
    have first : x.encode.length = 20 := rfl
    have later (i : Nat) : RipRecord.readAt (x.encode ++ rest.flatMap encode) (20 * (i + 1)) =
        RipRecord.readAt (rest.flatMap encode) (20 * i) := by
      rw [Nat.mul_succ, Nat.add_comm, ← first, readAt_append]
    rw [List.length_cons, List.range_succ_eq_map, List.map_cons, List.map_map, List.flatMap_cons, Nat.mul_zero,
      readAt_encode]
    simp only [Function.comp_def, Nat.succ_eq_add_one, later, ih]

end RipRecord

namespace RipMessage

/-- The bytes are whole records behind the header of a request or a response. -/
structure Formed (bytes : Bytes) : Prop where
  whole : ∃ k, bytes.length = 4 + 20 * k
  command : bytes[0]? = some 1 ∨ bytes[0]? = some 2

/-- The records behind a header, one after the other. -/
def recordsIn (bytes : Bytes) : List RipRecord :=
  (List.range ((bytes.length - 4) / 20)).map fun i => .readAt bytes (4 + 20 * i)

/-- The entries of the records that are of the family of IPv4. -/
def entriesIn (bytes : Bytes) : List RipEntry := ((recordsIn bytes).filter RipRecord.isIpv4).map RipRecord.entry

theorem recordsIn_append {header : Bytes} (four : header.length = 4) (xs : List RipRecord) :
    recordsIn (header ++ xs.flatMap RipRecord.encode) = xs := by
  have count : ((header ++ xs.flatMap RipRecord.encode).length - 4) / 20 = xs.length := by
    rw [List.length_append, RipRecord.length_flatMap_encode, four]
    omega
  rw [recordsIn, count, ← four]
  simp only [RipRecord.readAt_append, RipRecord.map_readAt_flatMap]

theorem formed_iff {bytes : Bytes} :
    Formed bytes ↔ (∃ k, bytes.length = 4 + 20 * k) ∧ ∃ c : RipCommand, bytes[0]? = some c.code := by
  constructor
  · rintro ⟨whole, request | response⟩
    · exact ⟨whole, .request, request⟩
    · exact ⟨whole, .response, response⟩
  · rintro ⟨whole, _ | _, command⟩
    · exact ⟨whole, .inl command⟩
    · exact ⟨whole, .inr command⟩

/-- Bytes of the right length behind a known command are a message. -/
theorem exists_decode {bytes : Bytes} {k : Nat} (whole : bytes.length = 4 + 20 * k) {c : RipCommand}
    (command : bytes[0]? = some c.code) : ∃ entries, decode bytes = .ok ⟨c, entries⟩ := by
  iterate 4
    rcases bytes with _ | ⟨_, bytes⟩
    · simp at whole
      omega
  rename_i code version z1 z0
  obtain rfl : code = c.code := by simpa using command
  simp only [List.length_cons] at whole
  have records : bytes.length % 20 = 0 := by omega
  obtain ⟨entries, read, -⟩ := RipBuffer.readEntries_eq records
  refine ⟨entries, ?_⟩
  rw [decode, RipCommand.ofCode?_code]
  dsimp only
  rw [read]
  rfl

theorem spec_of_decode {bytes : Bytes} {m : RipMessage} (read : decode bytes = .ok m) :
    Formed bytes ∧ bytes[0]? = some m.command.code ∧ m.entries = entriesIn bytes := by
  obtain ⟨version, z1, z0, xs, rfl, same⟩ := decode_eq_ok_iff.1 read
  have length : ([m.command.code, version, z1, z0] ++ xs.flatMap RipRecord.encode).length = 4 + 20 * xs.length := by
    rw [List.length_append, RipRecord.length_flatMap_encode]
    rfl
  refine ⟨formed_iff.2 ⟨⟨_, length⟩, m.command, rfl⟩, rfl, ?_⟩
  rw [entriesIn, recordsIn_append rfl, same]

theorem decode_eq_ok_iff_formed {bytes : Bytes} {m : RipMessage} : decode bytes = .ok m ↔
    Formed bytes ∧ bytes[0]? = some m.command.code ∧ m.entries = entriesIn bytes := by
  refine ⟨spec_of_decode, ?_⟩
  obtain ⟨c, entries⟩ := m
  rintro ⟨⟨⟨k, whole⟩, -⟩, command, rfl⟩
  obtain ⟨entries, read⟩ := exists_decode whole command
  obtain ⟨-, -, same⟩ := spec_of_decode read
  rw [read, ← same]

theorem exists_decode_iff {bytes : Bytes} : (∃ m, decode bytes = .ok m) ↔ Formed bytes := by
  constructor
  · rintro ⟨m, read⟩
    exact (spec_of_decode read).1
  · intro formed
    obtain ⟨⟨k, whole⟩, c, command⟩ := formed_iff.1 formed
    obtain ⟨entries, read⟩ := exists_decode whole command
    exact ⟨_, read⟩

/-- The version in the header decides nothing. -/
theorem decode_set_version (bytes : Bytes) (version : UInt8) : decode (bytes.set 1 version) = decode bytes := by
  rcases bytes with _ | ⟨_, _ | ⟨_, _ | ⟨_, _ | ⟨_, _⟩⟩⟩⟩ <;> rfl

/-- Bytes are read as a message when they are formed like one, and its entries are then those in them. That those are
just the messages of version 2 is so of all bytes but those that are formed like a message of another version, which are
read as if they were of version 2. -/
theorem accepts_version2_iff (bytes : Bytes) :
    (∀ m, decode bytes = .ok m ↔ Formed bytes ∧ bytes[0]? = some m.command.code ∧ m.entries = entriesIn bytes) ∧
      ((∃ m, decode bytes = .ok m) ↔ Formed bytes) ∧
      (((∃ m, decode bytes = .ok m) ↔ Formed bytes ∧ bytes[1]? = some 2) ↔ ¬ (Formed bytes ∧ bytes[1]? ≠ some 2)) ∧
      decode bytes = decode (bytes.set 1 2) := by
  refine ⟨fun m => decode_eq_ok_iff_formed, exists_decode_iff, ?_, (decode_set_version bytes 2).symm⟩
  rw [exists_decode_iff, iff_self_and, not_and, not_not]

/-- A response of version 1, which names a network without a mask. -/
def versionOne : Bytes := [2, 1, 0, 0, 0, 2, 0, 0, 192, 168, 5, 0, 0, 0, 0, 0, 0, 0, 0, 0, 0, 0, 0, 1]

/-- A neighbour's message of version 1 is accepted, and a running router makes a route to everywhere of it. -/
theorem version1_leads_everywhere :
    ¬ ((∃ m, decode versionOne = .ok m) ↔ Formed versionOne ∧ versionOne[1]? = some 2) ∧
    ((Router.bareRouter.run [(0, .init), (1, .frame (Router.onFirst (.make (.ofOctets 10 0 0 7) ripGroup 17 ripTtl
      (UdpSegment.make ripPort ripPort versionOne).encode)))]).1.routes.lookup (.ofOctets 8 8 8 8)).map
        (fun e => (e.destination, e.mask, e.gateway)) =
      some (.unspecified, .unspecified, .ofOctets 10 0 0 7) := by
  constructor
  · have read : decode versionOne = .ok ⟨.response, [⟨.ofOctets 192 168 5 0, .unspecified, .unspecified, 1⟩]⟩ := by
      decide +kernel
    intro only
    exact absurd (only.1 ⟨_, read⟩).2 (by decide)
  · decide +kernel

end RipMessage

end SoftRouter
