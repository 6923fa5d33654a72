import SoftRouter.Proofs.Buffer.Reading

/-!
# Segments and messages under their setters

The accessors of a segment or of a message rely on what was checked when it was read. Each setter replaces some of the
bytes, and what was checked is still so after any of them, unless a payload is too long for the length field or a body
too short for the rest of the header (`readable_after_setters`). Such a value cannot be read again and has accessors
that fault, until the next payload or body is set (`emptied_unreadable`).
-/

namespace SoftRouter

open Checked

/-- The bytes that are set last, if there are any. -/
def lastSet? {ε : Type} (set? : ε → Option Bytes) (edits : List ε) : Option Bytes := (edits.filterMap set?).getLast?

theorem lastSet?_cons {ε : Type} {set? : ε → Option Bytes} {edits : List ε} (e : ε) :
    lastSet? set? (e :: edits) = (lastSet? set? edits).or (set? e) := by
  rw [lastSet?, List.filterMap_cons]
  cases set? e with
  | none => exact (Option.or_none ..).symm
  | some bytes =>
    dsimp only
    rw [List.getLast?_cons, lastSet?]
    cases (edits.filterMap set?).getLast? <;> rfl

/-! ## Segments -/

/-- A setter of a segment, and what it sets. -/
inductive SegmentEdit where
  | checksum (value : UInt16)
  | payload (bytes : Bytes)
  deriving DecidableEq, Repr

namespace SegmentEdit

def payload? : SegmentEdit → Option Bytes
  | checksum _ => none
  | payload bytes => some bytes

/-- The payload that is set last, if one is. -/
def lastPayload? (edits : List SegmentEdit) : Option Bytes := lastSet? payload? edits

theorem mem_of_lastPayload? {edits : List SegmentEdit} {bytes : Bytes} (last : lastPayload? edits = some bytes) :
    payload bytes ∈ edits := by
  obtain ⟨e, mem, set⟩ := List.mem_filterMap.1 (List.mem_of_getLast? last)
  cases e <;> cases set
  exact mem

end SegmentEdit

open SegmentEdit (lastPayload?)

namespace UdpSegment

def edit (u : UdpSegment) : SegmentEdit → UdpSegment
  | .checksum value => { u with checksum := value }
  | .payload bytes => u.withPayload bytes

def editAll (u : UdpSegment) (edits : List SegmentEdit) : UdpSegment := edits.foldl edit u

/-- The last payload is the one that counts, with its length. -/
theorem editAll_eq (u : UdpSegment) (edits : List SegmentEdit) :
    (u.editAll edits).body = (lastPayload? edits).getD u.body ∧
      (u.editAll edits).length =
        ((lastPayload? edits).map fun bytes => UInt16.ofNat (headerLength + bytes.length)).getD u.length := by
  induction edits generalizing u with
  | nil => exact ⟨rfl, rfl⟩
  | cons e rest ih =>
    obtain ⟨body, length⟩ := ih (u.edit e)
    have last : lastPayload? (e :: rest) = (lastPayload? rest).or e.payload? := lastSet?_cons e
    rw [last]
    refine ⟨body.trans ?_, length.trans ?_⟩
    · cases lastPayload? rest <;> cases e <;> rfl
    · cases lastPayload? rest <;> cases e <;> rfl

/-- A payload that the length field can count leaves a segment that can be read, and no other one does. -/
theorem isSome_editAll_iff {u : UdpSegment} (whole : u.payload?.isSome) {edits : List SegmentEdit}
    (short : ∀ bytes, .payload bytes ∈ edits → bytes.length ≤ 65535) :
    (u.editAll edits).payload?.isSome ↔
      ∀ bytes, lastPayload? edits = some bytes → headerLength + bytes.length ≤ 65535 := by
  obtain ⟨body, length⟩ := u.editAll_eq edits
  rw [isSome_payload?_iff, body, length]
  cases last : lastPayload? edits with
  | none =>
    simp only [Option.getD_none, Option.map_none]
    exact iff_of_true (u.isSome_payload?_iff.1 whole) nofun
  | some bytes =>
    have few := short bytes (SegmentEdit.mem_of_lastPayload? last)
    simp only [Option.getD_some, Option.map_some, Option.some.injEq, forall_eq', UInt16.toNat_ofNat', headerLength]
    omega

theorem payload?_editAll {u : UdpSegment} {edits : List SegmentEdit} {bytes : Bytes}
    (last : lastPayload? edits = some bytes) (fits : headerLength + bytes.length ≤ 65535) :
    (u.editAll edits).length.toNat = headerLength + bytes.length ∧ (u.editAll edits).payload? = some bytes := by
  obtain ⟨body, length⟩ := u.editAll_eq edits
  rw [last] at body length
  have counted : (u.editAll edits).length.toNat = headerLength + bytes.length := by
    rw [length]
    exact Nat.mod_eq_of_lt (Nat.lt_succ_of_le fits)
  refine ⟨counted, ?_⟩
  rw [payload?, counted, body]
  dsimp only [Option.getD_some]
  rw [if_neg (by omega), Nat.add_sub_cancel_left, List.take_length]

end UdpSegment

namespace SegmentBuffer

def checksum (s : SegmentBuffer) : Checked UInt16 := word16From s.data s.start 6

def setChecksum (s : SegmentBuffer) (checksum : UInt16) : Checked SegmentBuffer := do
  return { s with data := ← copyFrom s.data s.start 6 8 (octets16 checksum) }

/-- Segments are the same if their bytes are, wherever they lie. -/
def same (s other : SegmentBuffer) : Checked Bool := do return (← s.bytes) = (← other.bytes)

def edit (s : SegmentBuffer) : SegmentEdit → Checked SegmentBuffer
  | .checksum value => s.setChecksum value
  | .payload bytes => s.setPayload bytes

def editAll (s : SegmentBuffer) (edits : List SegmentEdit) : Checked SegmentBuffer := edits.foldlM edit s

/-- The bytes of the segment are read as the same segment, and no accessor faults. -/
structure Readable (s : SegmentBuffer) : Prop where
  reread : ∃ bytes again, s.bytes = .ok bytes ∧ fromBuffer bytes none 0 = .ok (.ok again) ∧ again.same s = .ok true
  payload : ∃ bytes, s.payload = .ok bytes
  checksum : ∃ value, s.checksum = .ok value

section
variable (u : UdpSegment)

theorem fromBuffer_encode :
    fromBuffer u.encode none 0 = .ok ((UdpSegment.decode u.encode).map fun v => v.laid []) := by
  have long : 8 ≤ u.encode.length := by
    rw [u.length_encode]
    exact Nat.le_add_right ..
  exact fromBuffer_append held_nil long rfl

variable {front : Bytes} (held : front.length < bufferEnd)

include held

theorem checksum_laid : (u.laid front).checksum = .ok u.checksum := word16From_encode u held (by omega) rfl

theorem setChecksum_laid (checksum : UInt16) :
    (u.laid front).setChecksum checksum = .ok (({ u with checksum } : UdpSegment).laid front) := by
  have written : overwrite 6 (octets16 checksum) u.encode = ({ u with checksum } : UdpSegment).encode := by
    simp [overwrite, UdpSegment.encode, octets16]
  dsimp only [setChecksum, UdpSegment.laid]
  rw [copyFrom_held _ held (by omega) (inside u (by omega)) (by rfl), written]
  rfl

/-- What the accessors rely on is what reading demands. -/
theorem readable_laid_iff : (u.laid front).Readable ↔ u.payload?.isSome := by
  constructor
  · rintro ⟨⟨bytes, again, there, read, -⟩, -, -⟩
    cases (bytes_laid u).symm.trans there
    rw [fromBuffer_encode, u.decode_encode_eq] at read
    by_cases whole : u.payload?.isSome
    · exact whole
    · rw [if_neg whole] at read
      cases read
  · intro whole
    obtain ⟨payload, found⟩ := Option.isSome_iff_exists.1 whole
    refine ⟨⟨u.encode, u.laid [], bytes_laid u, ?_, ?_⟩, ⟨payload, payload_laid u held found⟩,
      ⟨_, checksum_laid u held⟩⟩
    · rw [fromBuffer_encode, UdpSegment.decode_encode whole]
      rfl
    · rw [same, bytes_laid, bytes_laid]
      simp

theorem edit_laid {e : SegmentEdit}
    (fits : ∀ bytes, e = .payload bytes → front.length + (8 + bytes.length) < bufferEnd) :
    (u.laid front).edit e = .ok ((u.edit e).laid front) := by
  cases e with
  | checksum value => exact setChecksum_laid u held value
  | payload bytes => exact setPayload_laid u held (fits bytes rfl)

/-- Setters of the segment in a buffer are setters of the segment. -/
theorem editAll_laid {edits : List SegmentEdit}
    (fits : ∀ bytes, .payload bytes ∈ edits → front.length + (8 + bytes.length) < bufferEnd) :
    (u.laid front).editAll edits = .ok ((u.editAll edits).laid front) := by
  induction edits generalizing u with
  | nil => rfl
  | cons e rest ih =>
    have first : ∀ bytes, e = .payload bytes → front.length + (8 + bytes.length) < bufferEnd := by
      rintro bytes rfl
      exact fits bytes List.mem_cons_self
    rw [editAll, List.foldlM_cons, edit_laid u held first]
    exact ih (u.edit e) fun bytes mem => fits bytes (List.mem_cons_of_mem e mem)

end

/-- What a segment is after its setters. -/
structure Kept (s : SegmentBuffer) (edits : List SegmentEdit) (t : SegmentBuffer) : Prop where
  edited : s.editAll edits = .ok t
  readable : t.Readable ↔ ∀ bytes, lastPayload? edits = some bytes → 8 + bytes.length ≤ 65535
  payload : ∀ bytes, lastPayload? edits = some bytes → 8 + bytes.length ≤ 65535 →
    t.payload = .ok bytes ∧ ∃ length, t.length = .ok length ∧ length.toNat = 8 + bytes.length
  value : ∃ x : Placed UdpSegment, UdpSegment.Obtained x ∧ s = x.value.laid x.before ∧
    t = (x.value.editAll edits).laid x.before ∧
    (t.Readable ↔ UdpSegment.readAt (x.value.editAll edits).encode none none 0 =
      .ok { value := x.value.editAll edits })

theorem exists_kept {s : SegmentBuffer} (obtained : Obtained s) {edits : List SegmentEdit}
    (fits : ∀ bytes, .payload bytes ∈ edits → bytes.length ≤ 65535 ∧ s.start + (8 + bytes.length) < bufferEnd) :
    ∃ t, Kept s edits t := by
  obtain ⟨x, origin, held, whole, rfl⟩ := exists_placed obtained
  have readable := readable_laid_iff (x.value.editAll edits) held
  have edited := editAll_laid x.value held fun bytes mem => (fits bytes mem).2
  refine ⟨_, edited, ?_, fun bytes last few => ?_, x, origin, rfl, rfl, ?_⟩
  · exact readable.trans (UdpSegment.isSome_editAll_iff whole fun bytes mem => (fits bytes mem).1)
  · obtain ⟨counted, found⟩ := UdpSegment.payload?_editAll (u := x.value) last few
    exact ⟨payload_laid _ held found, _, length_laid _ held, counted⟩
  · rw [readable, UdpSegment.readAt_encode_iff]

end SegmentBuffer

/-! ## Messages -/

/-- A setter of a message, and what it sets. -/
inductive MessageEdit where
  | restOfHeader (r0 r1 r2 r3 : UInt8)
  | body (bytes : Bytes)
  | checksum
  deriving DecidableEq, Repr

def MessageEdit.body? : MessageEdit → Option Bytes
  | restOfHeader .. => none
  | body bytes => some bytes
  | checksum => none

/-- The body that is set last, if one is. -/
def MessageEdit.lastBody? (edits : List MessageEdit) : Option Bytes := lastSet? body? edits

open MessageEdit (lastBody?)

namespace IcmpMessage

def edit (m : IcmpMessage) : MessageEdit → IcmpMessage
  | .restOfHeader r0 r1 r2 r3 => (m.withRestOfHeader? r0 r1 r2 r3).getD m
  | .body body => { m with body }
  | .checksum => m.checksummed

def editAll (m : IcmpMessage) (edits : List MessageEdit) : IcmpMessage := edits.foldl edit m

/-- The body has the length of the last one that was set. -/
theorem length_edit (m : IcmpMessage) (e : MessageEdit) :
    (m.edit e).body.length = (e.body?.getD m.body).length := by
  cases e with
  | restOfHeader r0 r1 r2 r3 =>
    by_cases short : m.body.length < 4
    · simp only [edit, withRestOfHeader?, if_pos short, MessageEdit.body?, Option.getD_none]
    · simp only [edit, withRestOfHeader?, if_neg short, MessageEdit.body?, Option.getD_some, Option.getD_none,
        List.length_append, List.length_cons, List.length_nil, List.length_drop]
      omega
  | body bytes => rfl
  | checksum =>
    have kept (sum : UInt16) : (m.withChecksum sum).body = m.body := rfl
    rw [edit, checksummed, kept, MessageEdit.body?, Option.getD_none]

end IcmpMessage

theorem MessageEdit.length_body?_le {e : MessageEdit} {bytes : Bytes} (before : bytes.length ≤ 131070)
    (fits : ∀ bytes, e = .body bytes → bytes.length ≤ 65535) : (e.body?.getD bytes).length ≤ 131070 := by
  cases e with
  | restOfHeader r0 r1 r2 r3 => exact before
  | body bytes => exact Nat.le_trans (fits bytes rfl) (by decide)
  | checksum => exact before

namespace MessageBuffer

def restOfHeader (m : MessageBuffer) : Checked Bytes := sliceFrom m.data m.start 4 8

def payload (m : MessageBuffer) : Checked Bytes := do suffix m.data (← add m.start 8)

def setRestOfHeader (m : MessageBuffer) (rest : Bytes) : Checked MessageBuffer := do
  return { m with data := ← copyFrom m.data m.start 4 8 rest }

/-- Messages are the same if their bytes are, wherever they lie. -/
def same (m other : MessageBuffer) : Checked Bool := do return (← m.bytes) = (← other.bytes)

def edit (m : MessageBuffer) : MessageEdit → Checked MessageBuffer
  | .restOfHeader r0 r1 r2 r3 => m.setRestOfHeader [r0, r1, r2, r3]
  | .body bytes => m.setBody bytes
  | .checksum => m.setChecksum

def editAll (m : MessageBuffer) (edits : List MessageEdit) : Checked MessageBuffer := edits.foldlM edit m

/-- What a setter does in place to a buffer with a message at a position. A new body is put behind what is left when
the old one is cut off. -/
def perform (start : Nat) : MessageEdit → InPlace Unit
  | .restOfHeader r0 r1 r2 r3 => InPlace.copyAt start 4 8 [r0, r1, r2, r3]
  | .body bytes => do
    let cut ← InPlace.look fun _ => add start 4
    InPlace.truncate cut
    InPlace.append bytes
  | .checksum => do
    let sum ← InPlace.look fun data => bodyChecksum ⟨data, start⟩
    InPlace.copyAt start 2 4 (octets16 sum)

/-- The message after a setter that was tried. -/
def attempt (m : MessageBuffer) (e : MessageEdit) : MessageBuffer :=
  { m with data := ((perform m.start e).run.run m.data).2 }

def attemptAll (m : MessageBuffer) (edits : List MessageEdit) : MessageBuffer := edits.foldl attempt m

/-- The bytes of the message are read as the same message, and no accessor faults. -/
structure Readable (m : MessageBuffer) : Prop where
  reread : ∃ bytes again, m.bytes = .ok bytes ∧ fromBuffer bytes none 0 = .ok (.ok again) ∧ again.same m = .ok true
  checksum : ∃ value, m.checksumField = .ok value
  body : ∃ bytes, m.body = .ok bytes
  restOfHeader : ∃ rest, m.restOfHeader = .ok rest
  payload : ∃ bytes, m.payload = .ok bytes

/-- A setter that faults leaves the message as it was. Only a body that the buffer cannot hold faults when something has
been written. -/
theorem attempt_eq {m : MessageBuffer} {e : MessageEdit}
    (fits : ∀ bytes, e = .body bytes → m.start + (4 + bytes.length) < bufferEnd) :
    m.attempt e = (m.edit e).toOption.getD m := by
  cases e with
  | restOfHeader r0 r1 r2 r3 =>
    have left : (m.attempt (.restOfHeader r0 r1 r2 r3)).data =
        (copyFrom m.data m.start 4 8 [r0, r1, r2, r3]).toOption.getD m.data := (InPlace.does_copyAt ..).left
    refine (congrArg (MessageBuffer.mk · m.start) left).trans ?_
    rw [edit, setRestOfHeader]
    cases copyFrom m.data m.start 4 8 [r0, r1, r2, r3] <;> rfl
  | body bytes =>
    have held : m.start < bufferEnd := Nat.lt_of_le_of_lt (Nat.le_add_right ..) (fits bytes rfl)
    have first : add m.start 4 = .ok (m.start + 4) := add_held held (by decide)
    have room : (m.data.take (m.start + 4)).length + bytes.length < bufferEnd := by
      have := fits bytes rfl
      rw [List.length_take]
      omega
    have written : ((perform m.start (.body bytes)).run.run m.data) =
        (.ok (), m.data.take (m.start + 4) ++ bytes) :=
      (InPlace.look_bind_of_ok first _).trans ((InPlace.does_append bytes).run_of_ok (extend_eq room))
    rw [attempt, written, edit, setBody, first, ok_bind, extend_eq room]
    rfl
  | checksum =>
    have left : (m.attempt .checksum).data =
        (do copyFrom m.data m.start 2 4 (octets16 (← m.bodyChecksum)) : Checked Bytes).toOption.getD m.data :=
      (InPlace.does_look_bind fun sum _ => InPlace.does_copyAt m.start 2 4 (octets16 sum)).left
    refine (congrArg (MessageBuffer.mk · m.start) left).trans ?_
    rw [edit, setChecksum]
    cases m.bodyChecksum with
    | error fault => rfl
    | ok sum =>
      rw [ok_bind, ok_bind, setChecksumField]
      cases copyFrom m.data m.start 2 4 (octets16 sum) <;> rfl

section
variable (m : IcmpMessage) {front : Bytes} (held : front.length < bufferEnd)

include held

/-- A message without a word behind the checksum has no rest of the header, neither to be read nor to be set. -/
theorem restOfHeader_laid : (m.laid front).restOfHeader =
    match m.restOfHeader? with
    | some rest => .ok rest
    | none => .error .range := by
  have behind : (m.encode.take 8).drop 4 = m.body.take 4 := rfl
  rw [restOfHeader, IcmpMessage.laid, sliceFrom_held _ held (by omega) (by omega), slice, m.length_encode,
    IcmpMessage.restOfHeader?]
  by_cases short : m.body.length < 4
  · rw [if_neg (by omega), if_pos short]
  · rw [if_pos (by omega), if_neg short, behind]

theorem payload_laid : (m.laid front).payload =
    match m.payload? with
    | some bytes => .ok bytes
    | none => .error .range := by
  have behind : m.encode.drop 8 = m.body.drop 4 := rfl
  dsimp only [payload, IcmpMessage.laid]
  rw [add_held held (by omega), ok_bind, suffix, slice, List.length_append, m.length_encode, List.take_of_length_le,
    List.drop_length_add_append, behind, IcmpMessage.payload?]
  · by_cases short : m.body.length < 4
    · rw [if_neg (by omega), if_pos short]
    · rw [if_pos (by omega), if_neg short]
  · simp

theorem setRestOfHeader_laid (r0 r1 r2 r3 : UInt8) : (m.laid front).setRestOfHeader [r0, r1, r2, r3] =
    match m.withRestOfHeader? r0 r1 r2 r3 with
    | some changed => .ok (changed.laid front)
    | none => .error .range := by
  dsimp only [setRestOfHeader, IcmpMessage.laid]
  rw [IcmpMessage.withRestOfHeader?]
  by_cases short : m.body.length < 4
  · have outside : ¬ (front.length + 4 ≤ front.length + 8 ∧ front.length + 8 ≤ (front ++ m.encode).length) := by
      rw [List.length_append, m.length_encode]
      omega
    rw [if_pos short, copyFrom, add_held held (by omega), ok_bind, add_held held (by omega), ok_bind, copyInto,
      if_neg outside]
    rfl
  · have written : overwrite 4 [r0, r1, r2, r3] m.encode =
        ({ m with body := [r0, r1, r2, r3] ++ m.body.drop 4 } : IcmpMessage).encode := by
      simp [overwrite, IcmpMessage.encode, IcmpMessage.encodeWith, octets16]
    rw [if_neg short, copyFrom_held _ held (by omega) (by rw [m.length_encode]; omega) (by rfl), written]
    rfl

/-- What the accessors rely on is what reading demands. -/
theorem readable_laid_iff : (m.laid front).Readable ↔ 4 ≤ m.body.length := by
  constructor
  · rintro ⟨-, -, -, ⟨rest, found⟩, -⟩
    rw [restOfHeader_laid m held, IcmpMessage.restOfHeader?] at found
    by_cases short : m.body.length < 4
    · rw [if_pos short] at found
      cases found
    · exact Nat.le_of_not_lt short
  · intro long
    have enough : ¬ m.body.length < 4 := Nat.not_lt_of_le long
    refine ⟨⟨m.encode, m.laid [], bytes_laid m, ?_, ?_⟩, ⟨_, checksumField_laid m held⟩, ⟨_, body_laid m held⟩, ?_, ?_⟩
    · have room : 8 ≤ m.encode.length := by
        rw [m.length_encode]
        omega
      have read : fromBuffer m.encode none 0 = .ok ((IcmpMessage.decode m.encode).map fun v => v.laid []) :=
        fromBuffer_append held_nil room rfl
      rw [read, IcmpMessage.decode_encode long]
      rfl
    · rw [same, bytes_laid, bytes_laid]
      simp
    · rw [restOfHeader_laid m held, IcmpMessage.restOfHeader?, if_neg enough]
      exact ⟨_, rfl⟩
    · rw [payload_laid m held, IcmpMessage.payload?, if_neg enough]
      exact ⟨_, rfl⟩

/-- A setter that is tried leaves a message whose body is as long as the one that was set, or as long as before. Where a
sum of 32 bits holds the words of the message, this is what the setter makes of the message itself. -/
theorem attempt_laid {e : MessageEdit}
    (fits : ∀ bytes, e = .body bytes → front.length + (4 + bytes.length) < bufferEnd) :
    ∃ after : IcmpMessage, (m.laid front).attempt e = after.laid front ∧
      after.body.length = (e.body?.getD m.body).length ∧ (m.body.length ≤ 131070 → after = m.edit e) := by
  rw [attempt_eq fits]
  cases e with
  | restOfHeader r0 r1 r2 r3 =>
    have length := m.length_edit (.restOfHeader r0 r1 r2 r3)
    rw [edit, setRestOfHeader_laid m held]
    rw [IcmpMessage.edit] at length ⊢
    cases changed : m.withRestOfHeader? r0 r1 r2 r3 with
    | none => exact ⟨m, rfl, rfl, fun _ => rfl⟩
    | some after =>
      rw [changed] at length
      exact ⟨after, rfl, length, fun _ => rfl⟩
  | body bytes =>
    rw [edit, setBody_laid m held (fits bytes rfl)]
    exact ⟨_, rfl, rfl, fun _ => rfl⟩
  | checksum =>
    rw [edit, setChecksum]
    cases found : (m.laid front).bodyChecksum with
    | error fault =>
      refine ⟨m, rfl, rfl, fun short => ?_⟩
      cases (bodyChecksum_laid m short).symm.trans found
    | ok value =>
      rw [ok_bind, setChecksumField_laid m held]
      refine ⟨_, rfl, rfl, fun short => ?_⟩
      have sum : m.bodyChecksum = value := Except.ok.inj ((bodyChecksum_laid m short).symm.trans found)
      rw [← sum, IcmpMessage.edit, IcmpMessage.checksummed]

theorem attemptAll_laid {edits : List MessageEdit}
    (fits : ∀ bytes, .body bytes ∈ edits → bytes.length ≤ 65535 ∧ front.length + (4 + bytes.length) < bufferEnd) :
    ∃ after : IcmpMessage, (m.laid front).attemptAll edits = after.laid front ∧
      after.body.length = ((lastBody? edits).getD m.body).length ∧
      (m.body.length ≤ 131070 → after = m.editAll edits) := by
  induction edits generalizing m with
  | nil => exact ⟨m, rfl, rfl, fun _ => rfl⟩
  | cons e rest ih =>
    have first : ∀ bytes, e = .body bytes → bytes.length ≤ 65535 ∧ front.length + (4 + bytes.length) < bufferEnd := by
      rintro bytes rfl
      exact fits bytes List.mem_cons_self
    obtain ⟨next, tried, length, same⟩ := attempt_laid m held fun bytes set => (first bytes set).2
    obtain ⟨after, done, length', same'⟩ := ih next fun bytes mem => fits bytes (List.mem_cons_of_mem e mem)
    refine ⟨after, ?_, ?_, fun short => ?_⟩
    · rw [attemptAll, List.foldl_cons, tried]
      exact done
    · have last : lastBody? (e :: rest) = (lastBody? rest).or e.body? := lastSet?_cons e
      rw [length', last]
      cases lastBody? rest with
      | none => exact length
      | some bytes => rfl
    · have few : next.body.length ≤ 131070 := by
        rw [length]
        exact MessageEdit.length_body?_le short fun bytes set => (first bytes set).1
      rw [same' few, same short]
      rfl

theorem edit_laid {e : MessageEdit} (long : 4 ≤ m.body.length) (short : m.body.length ≤ 131070)
    (fits : ∀ bytes, e = .body bytes → front.length + (4 + bytes.length) < bufferEnd) :
    (m.laid front).edit e = .ok ((m.edit e).laid front) := by
  cases e with
  | restOfHeader r0 r1 r2 r3 =>
    rw [edit, setRestOfHeader_laid m held, IcmpMessage.edit, IcmpMessage.withRestOfHeader?,
      if_neg (Nat.not_lt_of_le long)]
    rfl
  | body bytes => exact setBody_laid m held (fits bytes rfl)
  | checksum => exact setChecksum_laid m held short

/-- As long as there is a word behind the checksum, no setter faults. -/
theorem editAll_laid (long : 4 ≤ m.body.length) (short : m.body.length ≤ 131070) {edits : List MessageEdit}
    (fits : ∀ bytes, .body bytes ∈ edits →
      4 ≤ bytes.length ∧ bytes.length ≤ 65535 ∧ front.length + (4 + bytes.length) < bufferEnd) :
    (m.laid front).editAll edits = .ok ((m.editAll edits).laid front) := by
  induction edits generalizing m with
  | nil => rfl
  | cons e rest ih =>
    have first : ∀ bytes, e = .body bytes →
        4 ≤ bytes.length ∧ bytes.length ≤ 65535 ∧ front.length + (4 + bytes.length) < bufferEnd := by
      rintro bytes rfl
      exact fits bytes List.mem_cons_self
    have long' : 4 ≤ (m.edit e).body.length := by
      rw [m.length_edit]
      cases e with
      | restOfHeader r0 r1 r2 r3 => exact long
      | body bytes => exact (first bytes rfl).1
      | checksum => exact long
    have short' : (m.edit e).body.length ≤ 131070 := by
      rw [m.length_edit]
      exact MessageEdit.length_body?_le short fun bytes set => (first bytes set).2.1
    rw [editAll, List.foldlM_cons, edit_laid m held long short fun bytes set => (first bytes set).2.2]
    exact ih (m.edit e) long' short' fun bytes mem => fits bytes (List.mem_cons_of_mem e mem)

end

/-- What a message is after its setters. Those of the message in the buffer are those of the message itself, if a sum of
32 bits holds its words; and none of them faults as long as there is a word behind the checksum. -/
structure Kept (m : MessageBuffer) (edits : List MessageEdit) (t : MessageBuffer) : Prop where
  readable : t.Readable ↔ ∀ bytes, lastBody? edits = some bytes → 4 ≤ bytes.length
  value : ∃ x : Placed IcmpMessage, IcmpMessage.Obtained x ∧ m = x.value.laid x.before ∧
    (x.value.encode.length ≤ 131074 →
      t = (x.value.editAll edits).laid x.before ∧
        (t.Readable ↔ IcmpMessage.readAt (x.value.editAll edits).encode none none 0 =
          .ok { value := x.value.editAll edits }) ∧
        ((∀ bytes, .body bytes ∈ edits → 4 ≤ bytes.length) → m.editAll edits = .ok t))

theorem kept_attemptAll {m : MessageBuffer} (obtained : Obtained m) {edits : List MessageEdit}
    (fits : ∀ bytes, .body bytes ∈ edits → bytes.length ≤ 65535 ∧ m.start + (4 + bytes.length) < bufferEnd) :
    Kept m edits (m.attemptAll edits) := by
  obtain ⟨x, origin, held, long, rfl⟩ := exists_placed obtained
  obtain ⟨after, tried, length, same⟩ := attemptAll_laid x.value held fits
  rw [tried]
  have readable := readable_laid_iff after held
  refine ⟨?_, x, origin, rfl, fun short => ?_⟩
  · rw [readable, length]
    cases lastBody? edits with
    | none => exact iff_of_true long nofun
    | some bytes => simp
  · have few : x.value.body.length ≤ 131070 := by
      rw [IcmpMessage.length_encode] at short
      omega
    obtain rfl := same few
    exact ⟨rfl, readable.trans (IcmpMessage.readAt_encode_iff _).symm, fun enough =>
      editAll_laid x.value held long few fun bytes mem => ⟨enough bytes mem, fits bytes mem⟩⟩

end MessageBuffer

/-- After any setters a segment or a message can be read from its bytes as it is, and all accessors give something, if
and only if the last payload fits the length field with the header, or the last body holds at least a word. The buffer
must be able to hold what is set. -/
theorem readable_after_setters {s : SegmentBuffer} {m : MessageBuffer} {segmentEdits : List SegmentEdit}
    {messageEdits : List MessageEdit} (segment : SegmentBuffer.Obtained s) (message : MessageBuffer.Obtained m)
    (payloads : ∀ bytes, .payload bytes ∈ segmentEdits →
      bytes.length ≤ 65535 ∧ s.start + (8 + bytes.length) < bufferEnd)
    (bodies : ∀ bytes, .body bytes ∈ messageEdits →
      bytes.length ≤ 65535 ∧ m.start + (4 + bytes.length) < bufferEnd) :
    (∃ t, SegmentBuffer.Kept s segmentEdits t) ∧ MessageBuffer.Kept m messageEdits (m.attemptAll messageEdits) :=
  ⟨SegmentBuffer.exists_kept segment payloads, MessageBuffer.kept_attemptAll message bodies⟩

def ripHeader : SegmentBuffer := (UdpSegment.make 520 520 []).laid []

def echoHeader : MessageBuffer := (IcmpMessage.blank IcmpMessage.typeEchoRequest 0).laid []

/-- In between the message has no rest of the header; behind the next body it has one again. -/
theorem headers_filled :
    (∃ t, ripHeader.editAll [.payload [], .checksum 7, .payload [1, 2, 3]] = .ok t ∧ t.Readable ∧
      t.payload = .ok [1, 2, 3]) ∧
      (echoHeader.attemptAll [.body [], .restOfHeader 1 2 3 4, .body [0, 0, 0, 0, 9], .checksum]).Readable := by
  have payloads : ∀ bytes, .payload bytes ∈ ([.payload [], .checksum 7, .payload [1, 2, 3]] : List SegmentEdit) →
      bytes.length ≤ 65535 ∧ ripHeader.start + (8 + bytes.length) < bufferEnd := by
    intro bytes mem
    obtain rfl | rfl : bytes = [] ∨ bytes = [1, 2, 3] := by simpa using mem
    · decide
    · decide
  have bodies : ∀ bytes, .body bytes ∈
        ([.body [], .restOfHeader 1 2 3 4, .body [0, 0, 0, 0, 9], .checksum] : List MessageEdit) →
      bytes.length ≤ 65535 ∧ echoHeader.start + (4 + bytes.length) < bufferEnd := by
    intro bytes mem
    obtain rfl | rfl : bytes = [] ∨ bytes = [0, 0, 0, 0, 9] := by simpa using mem
    · decide
    · decide
  obtain ⟨⟨t, segment⟩, message⟩ := readable_after_setters (.made (SegmentBuffer.newHeader_eq 520 520))
    (.made (MessageBuffer.newHeader_eq IcmpMessage.typeEchoRequest 0)) payloads bodies
  refine ⟨⟨t, segment.edited, segment.readable.2 ?_, (segment.payload _ rfl (by decide)).1⟩, message.readable.2 ?_⟩
  · rintro bytes ⟨⟩
    decide
  · rintro bytes ⟨⟩
    decide

/-- A message whose body is emptied is too short to be read, and has no rest of the header and no payload. -/
theorem emptied_unreadable : MessageBuffer.newHeader 8 0 = .ok echoHeader ∧
    echoHeader.setBody [] = .ok ⟨[8, 0, 0, 0], 0⟩ ∧
    MessageBuffer.fromBuffer [8, 0, 0, 0] none 0 = .ok (.error .tooShort) ∧
    MessageBuffer.restOfHeader ⟨[8, 0, 0, 0], 0⟩ = .error .range ∧
    MessageBuffer.payload ⟨[8, 0, 0, 0], 0⟩ = .error .range ∧
    IcmpMessage.readAt [8, 0, 0, 0] none none 0 = .error .tooShort ∧
    ¬ ∀ m, MessageBuffer.Obtained m → ∀ edits : List MessageEdit,
      (∀ bytes, .body bytes ∈ edits → bytes.length ≤ 65535) → (m.attemptAll edits).Readable := by
  have made : MessageBuffer.newHeader 8 0 = .ok echoHeader := MessageBuffer.newHeader_eq 8 0
  have cut : echoHeader.setBody [] = .ok ⟨[8, 0, 0, 0], 0⟩ := by rfl
  refine ⟨made, cut, by rfl, by rfl, by rfl, by rfl, fun always => ?_⟩
  have short : ∀ bytes, .body bytes ∈ ([.body []] : List MessageEdit) → bytes.length ≤ 65535 := by
    intro bytes mem
    obtain rfl : bytes = [] := by simpa using mem
    decide
  obtain ⟨-, -, -, -, ⟨bytes, found⟩⟩ := always echoHeader (.made made) [.body []] short
  cases found

end SoftRouter
