import SoftRouter.Proofs.Packet

/-!
# Routing messages and their records

Behind its first four bytes a message is a list of records of 20 bytes, with metrics of 32 bits. Bytes are a message
exactly when they are such a list behind a command, and its entries are the records of the family of IPv4
(`decode_eq_ok_iff`). Writing makes a record of every entry again, so that reading undoes it but for metrics above
infinity, and what was read once is written and read again unchanged (`decode_encode_clamped`).
-/

namespace SoftRouter

theorem RipCommand.code_inj {c d : RipCommand} (same : c.code = d.code) : c = d := by
  have known : some c = some d := by rw [← ofCode?_code c, same, ofCode?_code]
  exact Option.some.inj known

theorem RipCommand.code_of_ofCode? {code : UInt8} {c : RipCommand} (known : ofCode? code = some c) : c.code = code := by
  unfold ofCode? at known
  split at known
  · rename_i one
    cases known
    exact one.symm
  · split at known
    · rename_i two
      cases known
      exact two.symm
    · cases known

/-- An entry of a message as it stands on the wire. -/
structure RipRecord where
  family : UInt16
  tag : UInt16
  network : Ipv4Addr
  mask : Ipv4Addr
  nextHop : Ipv4Addr
  metric : UInt32
  deriving DecidableEq, Repr

namespace RipRecord

/-- The 20 bytes of a record. -/
def encode (x : RipRecord) : Bytes :=
  octets16 x.family ++ octets16 x.tag ++ x.network.octets ++ x.mask.octets ++ x.nextHop.octets ++ octets32 x.metric

theorem length_flatMap_encode (xs : List RipRecord) : (xs.flatMap encode).length = 20 * xs.length := by
  induction xs with
  | nil => rfl
  | cons x rest ih =>
    have first : x.encode.length = 20 := rfl
    rw [List.flatMap_cons, List.length_append, first, ih, List.length_cons]
    omega

theorem take_flatMap_encode (xs : List RipRecord) (n : Nat) :
    (xs.flatMap encode).take (20 * n) = (xs.take n).flatMap encode := by
  induction xs generalizing n with
  | nil => simp
  | cons x rest ih =>
    cases n with
    | zero => simp
    | succ n =>
      have long : 20 * (n + 1) = x.encode.length + 20 * n := by
        have first : x.encode.length = 20 := rfl
        omega
      rw [List.flatMap_cons, long, List.take_length_add_append, ih, List.take_succ_cons, List.flatMap_cons]

/-- The records that the bytes are made of, if they are made of whole records. -/
def readAll : Bytes → Option (List RipRecord)
  | [] => some []
  | f1 :: f0 :: t1 :: t0 :: n3 :: n2 :: n1 :: n0 :: m3 :: m2 :: m1 :: m0 ::
      h3 :: h2 :: h1 :: h0 :: c3 :: c2 :: c1 :: c0 :: rest =>
    (readAll rest).map fun later =>
      ⟨join16 f1 f0, join16 t1 t0, .ofOctets n3 n2 n1 n0, .ofOctets m3 m2 m1 m0, .ofOctets h3 h2 h1 h0,
        join32 (join16 c3 c2) (join16 c1 c0)⟩ :: later
  | _ => none

theorem readAll_flatMap (xs : List RipRecord) : readAll (xs.flatMap encode) = some xs := by
  induction xs with
  | nil => rfl
  | cons x rest ih =>
    rw [List.flatMap_cons, encode]
    simp [octets16, octets32, Ipv4Addr.octets, readAll, ih]

/-- Bytes are read as records exactly when they are those of the records. -/
theorem readAll_eq_some_iff {bytes : Bytes} {xs : List RipRecord} :
    readAll bytes = some xs ↔ bytes = xs.flatMap encode := by
  constructor
  · intro read
    fun_induction readAll bytes generalizing xs with
    | case1 =>
      cases read
      rfl
    | case2 f1 f0 t1 t0 n3 n2 n1 n0 m3 m2 m1 m0 h3 h2 h1 h0 c3 c2 c1 c0 rest ih =>
      obtain ⟨later, read', rfl⟩ := Option.map_eq_some_iff.1 read
      rw [List.flatMap_cons, ← ih read', encode]
      simp [octets16, octets32]
    | case3 => cases read
  · rintro rfl
    exact readAll_flatMap xs

/-- Records cut short are the first records, or part of one is left over. -/
theorem prefix_of_flatMap_encode {xs ys : List RipRecord} (front : xs.flatMap encode <+: ys.flatMap encode) :
    xs <+: ys := by
  have cut := List.prefix_iff_eq_take.1 front
  rw [length_flatMap_encode, take_flatMap_encode] at cut
  have same : some xs = some (ys.take xs.length) := by rw [← readAll_flatMap xs, cut, readAll_flatMap]
  rw [Option.some.inj same]
  exact List.take_prefix ..

/-- The record says something of an IPv4 network. -/
def isIpv4 (x : RipRecord) : Bool := x.family = RipMessage.family

/-- The record as an entry, with a metric of at most infinity. -/
def entry (x : RipRecord) : RipEntry := ⟨x.network, x.mask, x.nextHop, min x.metric.toNat ripInfinity⟩

theorem decodeEntries_eq (bytes : Bytes) : RipMessage.decodeEntries bytes =
    match readAll bytes with
    | some xs => .ok ((xs.filter isIpv4).map entry)
    | none => .error .entries := by
  fun_induction RipMessage.decodeEntries bytes with
  | case1 => rfl
  | case2 f1 f0 t1 t0 n3 n2 n1 n0 m3 m2 m1 m0 h3 h2 h1 h0 c3 c2 c1 c0 rest ih =>
    rw [ih, readAll]
    cases readAll rest with
    | none => rfl
    | some later =>
      by_cases ipv4 : join16 f1 f0 = RipMessage.family
      · simp [isIpv4, ipv4, entry, bind, Except.bind, pure, Except.pure]
      · simp [isIpv4, ipv4, bind, Except.bind, pure, Except.pure]
  | case3 bytes nonempty short =>
    have unread : readAll bytes = none := by
      rw [readAll]
      · exact nonempty
      · exact short
    rw [unread]

theorem decodeEntries_eq_ok_iff {bytes : Bytes} {entries : List RipEntry} :
    RipMessage.decodeEntries bytes = .ok entries ↔
      ∃ xs : List RipRecord, bytes = xs.flatMap encode ∧ (xs.filter isIpv4).map entry = entries := by
  rw [decodeEntries_eq]
  constructor
  · intro decoded
    cases read : readAll bytes with
    | none =>
      rw [read] at decoded
      cases decoded
    | some xs =>
      rw [read] at decoded
      cases decoded
      exact ⟨xs, readAll_eq_some_iff.1 read, rfl⟩
  · rintro ⟨xs, rfl, rfl⟩
    rw [readAll_flatMap]

/-- The record that an entry is written as: its route tag is zero, and its metric at most infinity. -/
def ofEntry (e : RipEntry) : RipRecord :=
  ⟨RipMessage.family, 0, e.network, e.mask, e.nextHop, UInt32.ofNat (min e.metric ripInfinity)⟩

/-- The record of no family that asks for a whole table. -/
def wholeTable : RipRecord := ⟨0, 0, .unspecified, .unspecified, .unspecified, UInt32.ofNat ripInfinity⟩

theorem encode_ofEntry (e : RipEntry) : (ofEntry e).encode = RipMessage.encodeEntry e := by
  have tag : octets16 0 = [0, 0] := rfl
  rw [encode, RipMessage.encodeEntry, ofEntry, tag]
  rfl

@[simp] theorem isIpv4_ofEntry (e : RipEntry) : (ofEntry e).isIpv4 = true := rfl

@[simp] theorem isIpv4_wholeTable : wholeTable.isIpv4 = false := rfl

end RipRecord

/-! ## Messages -/

namespace RipMessage

/-- An entry as it is on the wire, with a metric of at most infinity. -/
def clamped (e : RipEntry) : RipEntry := { e with metric := min e.metric ripInfinity }

theorem clamped_entry (x : RipRecord) : clamped x.entry = x.entry := by
  simp [clamped, RipRecord.entry]

theorem entry_ofEntry (e : RipEntry) : (RipRecord.ofEntry e).entry = clamped e := by
  have metric : (UInt32.ofNat (min e.metric ripInfinity)).toNat = min e.metric ripInfinity := by
    rw [UInt32.toNat_ofNat', ripInfinity]
    omega
  simp [RipRecord.entry, RipRecord.ofEntry, clamped, metric]

/-- The records that a message is written as. -/
def records (m : RipMessage) : List RipRecord :=
  if m.command = .request ∧ m.entries = [] then [.wholeTable] else m.entries.map .ofEntry

theorem records_response (entries : List RipEntry) : records ⟨.response, entries⟩ = entries.map .ofEntry :=
  if_neg (by simp)

theorem encode_eq (m : RipMessage) :
    m.encode = [m.command.code, 2, 0, 0] ++ m.records.flatMap RipRecord.encode := by
  rw [encode, records]
  split
  · rfl
  · rw [List.flatMap_map]
    simp only [RipRecord.encode_ofEntry]

/-- The record of no family, with which a message without entries asks for a whole table, is no entry either. -/
theorem entries_of_records (m : RipMessage) :
    (m.records.filter RipRecord.isIpv4).map RipRecord.entry = m.entries.map clamped := by
  rw [records]
  split
  · rename_i request
    rw [request.2]
    rfl
  · have all : (m.entries.map RipRecord.ofEntry).filter RipRecord.isIpv4 = m.entries.map RipRecord.ofEntry := by
      rw [List.filter_eq_self, List.forall_mem_map]
      exact fun e _ => RipRecord.isIpv4_ofEntry e
    rw [all, List.map_map]
    exact List.map_congr_left fun e _ => entry_ofEntry e

/-- Bytes are a message exactly when they are whole records behind a command and three more bytes. -/
theorem decode_eq_ok_iff {bytes : Bytes} {m : RipMessage} : decode bytes = .ok m ↔
    ∃ version z1 z0, ∃ xs : List RipRecord,
      bytes = [m.command.code, version, z1, z0] ++ xs.flatMap RipRecord.encode ∧
        (xs.filter RipRecord.isIpv4).map RipRecord.entry = m.entries := by
  constructor
  · intro decoded
    unfold decode at decoded
    split at decoded
    case h_2 => cases decoded
    rename_i code version z1 z0 rest
    cases command : RipCommand.ofCode? code with
    | none =>
      rw [command] at decoded
      cases decoded
    | some c =>
      rw [command] at decoded
      cases read : decodeEntries rest with
      | error _ =>
        rw [read] at decoded
        cases decoded
      | ok entries =>
        rw [read] at decoded
        cases decoded
        obtain ⟨xs, rfl, same⟩ := RipRecord.decodeEntries_eq_ok_iff.1 read
        refine ⟨version, z1, z0, xs, ?_, same⟩
        rw [RipCommand.code_of_ofCode? command]
        rfl
  · obtain ⟨command, entries⟩ := m
    rintro ⟨version, z1, z0, xs, rfl, same⟩
    have read := RipRecord.decodeEntries_eq_ok_iff.2 ⟨xs, rfl, same⟩
    show decode (command.code :: version :: z1 :: z0 :: xs.flatMap RipRecord.encode) = _
    rw [decode, RipCommand.ofCode?_code]
    dsimp only
    rw [read]
    rfl

theorem decode_encode (m : RipMessage) : decode m.encode = .ok ⟨m.command, m.entries.map clamped⟩ :=
  decode_eq_ok_iff.2 ⟨2, 0, 0, m.records, m.encode_eq, m.entries_of_records⟩

theorem clamped_of_decode {bytes : Bytes} {m : RipMessage} (read : decode bytes = .ok m) :
    ∀ e ∈ m.entries, clamped e = e := by
  obtain ⟨_, _, _, xs, -, same⟩ := decode_eq_ok_iff.1 read
  rw [← same, List.forall_mem_map]
  exact fun x _ => clamped_entry x

theorem metric_le_of_decode {bytes : Bytes} {m : RipMessage} (read : decode bytes = .ok m) :
    ∀ e ∈ m.entries, e.metric ≤ ripInfinity := by
  intro e mem
  rw [← clamped_of_decode read e mem]
  exact Nat.min_le_right ..

theorem length_encode (m : RipMessage) : m.encode.length = 4 + 20 * m.records.length := by
  rw [encode_eq, List.length_append, RipRecord.length_flatMap_encode]
  rfl

@[simp] theorem length_encode_response (entries : List RipEntry) :
    (encode ⟨.response, entries⟩).length = 4 + 20 * entries.length := by
  rw [length_encode, records_response, List.length_map]

/-- A message of `n` entries takes at least `4 + 20 n` bytes. -/
theorem length_of_decode {bytes : Bytes} {m : RipMessage} (read : decode bytes = .ok m) :
    4 + 20 * m.entries.length ≤ bytes.length := by
  obtain ⟨version, z1, z0, xs, rfl, same⟩ := decode_eq_ok_iff.1 read
  have some := List.length_filter_le RipRecord.isIpv4 xs
  rw [← same, List.length_map, List.length_append, RipRecord.length_flatMap_encode]
  simp only [List.length_cons, List.length_nil]
  omega

/-- Reading undoes writing, with no metric above infinity; and what is read of any bytes is read again, unchanged, of
what it is written as. -/
theorem decode_encode_clamped (m : RipMessage) :
    decode m.encode = .ok { m with entries := m.entries.map fun e => { e with metric := min e.metric 16 } } ∧
      ∀ bytes read, decode bytes = .ok read → decode read.encode = .ok read := by
  refine ⟨decode_encode m, ?_⟩
  intro bytes read decoded
  have same : read.entries.map clamped = read.entries := by
    rw [List.map_congr_left (clamped_of_decode decoded), List.map_id']
  rw [decode_encode, same]

/-- A response with a record of another family, and with one that has a route tag and is further than infinity. -/
def oddRecords : List RipRecord :=
  [⟨7, 0, .ofOctets 9 0 0 0, .ofOctets 255 0 0 0, .unspecified, 1⟩,
    ⟨2, 5, .ofOctets 10 1 0 0, .ofOctets 255 255 0 0, .ofOctets 10 0 0 9, 400⟩]

theorem oddRecords_read_again : ∃ read, decode ([2, 2, 0, 0] ++ oddRecords.flatMap RipRecord.encode) = .ok read ∧
    read.entries = [⟨.ofOctets 10 1 0 0, .ofOctets 255 255 0 0, .ofOctets 10 0 0 9, 16⟩] ∧
    decode read.encode = .ok read := by
  have decoded : decode ([2, 2, 0, 0] ++ oddRecords.flatMap RipRecord.encode) =
      .ok ⟨.response, [⟨.ofOctets 10 1 0 0, .ofOctets 255 255 0 0, .ofOctets 10 0 0 9, 16⟩]⟩ :=
    decode_eq_ok_iff.2 ⟨2, 0, 0, oddRecords, rfl, by decide⟩
  exact ⟨_, decoded, rfl, (decode_encode_clamped .wholeTable).2 _ _ decoded⟩

end RipMessage

end SoftRouter
