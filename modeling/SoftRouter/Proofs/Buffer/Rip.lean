import SoftRouter.Proofs.Advertisement
import SoftRouter.Proofs.Buffer.Transport

/-!
# Routing messages in buffers

Messages are read entry by entry from the payload of a segment and written entry by entry into a buffer made for
them. A metric read is at most infinity, so that one more hop fits its word; a table whose advertisement fits a buffer
can be sent.
-/

namespace SoftRouter

open Checked

/-- A transmission as it goes to the driver of an interface. -/
def Transmission.wire (t : Transmission) : String × Bytes := (t.interface, t.frame.encode)

namespace RipBuffer

/-- Reads an entry of 20 bytes, unless it is of another address family. -/
def readEntry (chunk : Bytes) : Checked (Option RipEntry) := do
  let hi ← byteAt chunk 0
  let lo ← byteAt chunk 1
  if join16 hi lo ≠ RipMessage.family then return none
  let metric ← word32 (← slice chunk 16 20)
  let network ← address (← slice chunk 4 8)
  let mask ← address (← slice chunk 8 12)
  let nextHop ← address (← slice chunk 12 16)
  return some ⟨network, mask, nextHop, min metric.toNat ripInfinity⟩

/-- Reads one entry after the other as long as there are whole ones. -/
def readEntries (bytes : Bytes) : Checked (List RipEntry) :=
  if bytes.length < 20 then .ok []
  else do
    let entry ← readEntry (bytes.take 20)
    return entry.toList ++ (← readEntries (bytes.drop 20))
termination_by bytes.length

/-- Reads a message. -/
def read (data : Bytes) : Checked (Except RipError RipMessage) := do
  if data.length < 4 then return .error .tooShort
  match RipCommand.ofCode? (← byteAt data 0) with
  | none => return .error .command
  | some command =>
    if (← sub data.length 4) % 20 ≠ 0 then return .error .entries
    return .ok ⟨command, ← readEntries (← suffix data 4)⟩

theorem decodeEntries_ragged {bytes : Bytes} (ragged : bytes.length % 20 ≠ 0) :
    RipMessage.decodeEntries bytes = .error .entries := by
  rw [RipRecord.decodeEntries_eq]
  cases read : RipRecord.readAll bytes with
  | none => rfl
  | some xs =>
    rw [RipRecord.readAll_eq_some_iff.1 read, RipRecord.length_flatMap_encode] at ragged
    exact absurd (Nat.mul_mod_right 20 xs.length) ragged

theorem readEntry_eq (f1 f0 t1 t0 n3 n2 n1 n0 m3 m2 m1 m0 h3 h2 h1 h0 c3 c2 c1 c0 : UInt8) :
    readEntry [f1, f0, t1, t0, n3, n2, n1, n0, m3, m2, m1, m0, h3, h2, h1, h0, c3, c2, c1, c0] =
      .ok (if join16 f1 f0 = RipMessage.family then
        some ⟨.ofOctets n3 n2 n1 n0, .ofOctets m3 m2 m1 m0, .ofOctets h3 h2 h1 h0,
          min (join32 (join16 c3 c2) (join16 c1 c0)).toNat ripInfinity⟩
        else none) := by
  by_cases inet : join16 f1 f0 = RipMessage.family
  · simp [readEntry, byteAt, slice, word32, address, inet, Ipv4Addr.ofOctets]
  · simp [readEntry, byteAt, inet]

/-- Whole entries are read one after the other, each within its twenty bytes. -/
theorem readEntries_eq {bytes : Bytes} (whole : bytes.length % 20 = 0) :
    ∃ entries, RipMessage.decodeEntries bytes = .ok entries ∧ readEntries bytes = .ok entries := by
  fun_induction RipMessage.decodeEntries bytes with
  | case1 =>
    rw [readEntries]
    exact ⟨[], rfl, rfl⟩
  | case2 f1 f0 t1 t0 n3 n2 n1 n0 m3 m2 m1 m0 h3 h2 h1 h0 c3 c2 c1 c0 rest ih =>
    simp only [List.length_cons] at whole
    obtain ⟨entries, decoded, read⟩ := ih (by omega)
    rw [readEntries, if_neg (by simp), decoded]
    simp only [List.take_succ_cons, List.take_zero, List.drop_succ_cons, List.drop_zero, readEntry_eq, read, ok_bind,
      pure_eq]
    split
    · exact ⟨_, rfl, rfl⟩
    · exact ⟨_, rfl, rfl⟩
  | case3 bytes empty short =>
    exfalso
    have long : 20 ≤ bytes.length := by
      have := List.length_pos_iff.2 empty
      omega
    obtain ⟨_, _, _, _, _, _, _, _, _, _, _, _, _, _, _, _, _, _, _, _, _, same⟩ := Ipv4Packet.exists_fields long
    exact short _ _ _ _ _ _ _ _ _ _ _ _ _ _ _ _ _ _ _ _ _ same

theorem read_eq (data : Bytes) : read data = .ok (RipMessage.decode data) := by
  rw [read]
  rcases data with _ | ⟨code, _ | ⟨b, _ | ⟨c, _ | ⟨d, rest⟩⟩⟩⟩
  iterate 4 rfl
  have length : sub (code :: b :: c :: d :: rest).length 4 = .ok rest.length := by
    rw [sub_eq (by simp)]
    rfl
  have tail : suffix (code :: b :: c :: d :: rest) 4 = .ok rest := suffix_eq (by simp)
  have first : byteAt (code :: b :: c :: d :: rest) 0 = .ok code := rfl
  rw [if_neg (by simp), length, tail, first, ok_bind, RipMessage.decode]
  cases command : RipCommand.ofCode? code with
  | none => rfl
  | some command =>
    dsimp only
    rw [ok_bind, ok_bind]
    by_cases whole : rest.length % 20 = 0
    · obtain ⟨entries, decoded, read⟩ := readEntries_eq whole
      rw [if_neg (not_not_intro whole), decoded, read]
      rfl
    · rw [if_pos whole, decodeEntries_ragged whole]
      rfl

/-- The bytes of a message, in a buffer made for them. -/
def write (m : RipMessage) : Checked Bytes := do
  reserve (← add 4 (← mul 20 (max m.entries.length 1)))
  let header ← extend [m.command.code, 2] [0, 0]
  if m.command = .request ∧ m.entries = [] then
    extend (← extend header (List.replicate 16 0)) (RipMessage.metricOctets ripInfinity)
  else m.entries.foldlM (fun bytes e => extend bytes (RipMessage.encodeEntry e)) header

/-- Some time before a message of so many entries is too long for a buffer. -/
def maxEntries : Nat := 2 ^ 58 + 2 ^ 52

theorem extend_entries {entries : List RipEntry} {front : Bytes}
    (fits : front.length + 20 * entries.length < bufferEnd) :
    entries.foldlM (fun bytes e => extend bytes (RipMessage.encodeEntry e)) front =
      .ok (front ++ entries.flatMap RipMessage.encodeEntry) := by
  induction entries generalizing front with
  | nil => simp
  | cons e rest ih =>
    rw [List.length_cons] at fits
    have room : front.length + (RipMessage.encodeEntry e).length < bufferEnd := by
      rw [RipMessage.length_encodeEntry]
      omega
    have more : (front ++ RipMessage.encodeEntry e).length + 20 * rest.length < bufferEnd := by
      rw [List.length_append, RipMessage.length_encodeEntry]
      omega
    rw [List.foldlM_cons, extend_eq room, ok_bind, ih more, List.append_assoc, List.flatMap_cons]

theorem write_eq {m : RipMessage} (few : m.entries.length ≤ maxEntries) : write m = .ok m.encode := by
  have most : max m.entries.length 1 ≤ 2 ^ 58 + 2 ^ 52 := by
    rw [maxEntries] at few
    omega
  have product : 20 * max m.entries.length 1 < wordEnd := by
    rw [wordEnd]
    omega
  have sum : 4 + 20 * max m.entries.length 1 < wordEnd := by
    rw [wordEnd]
    omega
  have room : 4 + 20 * max m.entries.length 1 < bufferEnd := by
    rw [bufferEnd]
    omega
  have header : extend [m.command.code, 2] [0, 0] = .ok [m.command.code, 2, 0, 0] := extend_eq (by simp [bufferEnd])
  have zeros : extend [m.command.code, 2, 0, 0] (List.replicate 16 0) =
      .ok ([m.command.code, 2, 0, 0] ++ List.replicate 16 0) := extend_eq (by simp [bufferEnd])
  rw [write, mul_eq product, ok_bind, add_eq sum, ok_bind, reserve_eq room, ok_bind, header, ok_bind, RipMessage.encode]
  by_cases request : m.command = .request ∧ m.entries = []
  · rw [if_pos request, if_pos request, zeros, ok_bind, extend_eq (by simp [bufferEnd, RipMessage.metricOctets]),
      List.append_assoc]
  · rw [if_neg request, if_neg request]
    refine extend_entries (Nat.lt_of_le_of_lt ?_ room)
    simp only [List.length_cons, List.length_nil]
    omega

/-- A message in a frame that leaves by an interface. -/
def transmission (i : Interface) (destIp : Ipv4Addr) (destMac : Mac) (destPort : UInt16) (m : RipMessage) :
    Checked (String × Bytes) := do
  let segment ← SegmentBuffer.newHeader ripPort destPort
  let segment ← segment.setPayload (← write m)
  let packet ← PacketBuffer.encap i.ip destIp IpProtocol.udp.number ripTtl (← segment.bytes)
  let frame ← FrameBuffer.setSrc (← FrameBuffer.encap packet) i.mac
  return (i.name, ← FrameBuffer.setDest frame destMac)

theorem length_encode_le (m : RipMessage) : m.encode.length ≤ 24 + 20 * m.entries.length := by
  have records : m.records.length ≤ 1 + m.entries.length := by
    rw [RipMessage.records]
    split <;> simp
  rw [RipMessage.length_encode]
  omega

theorem transmission_eq {m : RipMessage} (few : m.entries.length ≤ maxEntries) (i : Interface) (destIp : Ipv4Addr)
    (destMac : Mac) (destPort : UInt16) : transmission i destIp destMac destPort m =
      .ok (RipProcess.transmission i destIp destMac destPort m).wire := by
  have length := length_encode_le m
  have room : 14 + (20 + (8 + m.encode.length)) < bufferEnd := by
    rw [maxEntries] at few
    rw [bufferEnd]
    omega
  have segment : ([] : Bytes).length + (8 + m.encode.length) < bufferEnd := by
    rw [List.length_nil]
    omega
  have packet : 20 + (UdpSegment.make ripPort destPort m.encode).encode.length < bufferEnd := by
    rw [UdpSegment.length_encode]
    exact Nat.lt_of_le_of_lt (Nat.le_add_left ..) room
  have frame : 14 + (Ipv4Packet.make i.ip destIp IpProtocol.udp.number ripTtl
      (UdpSegment.make ripPort destPort m.encode).encode).encode.length < bufferEnd := by
    rw [Ipv4Packet.length_encode]
    show 14 + (20 + (UdpSegment.make ripPort destPort m.encode).encode.length) < bufferEnd
    rw [UdpSegment.length_encode]
    exact room
  have filled : (UdpSegment.make ripPort destPort []).withPayload m.encode = .make ripPort destPort m.encode := rfl
  rw [transmission, SegmentBuffer.newHeader_eq, ok_bind, write_eq few, ok_bind,
    SegmentBuffer.setPayload_laid _ held_nil segment, ok_bind, filled, SegmentBuffer.bytes_laid, ok_bind,
    PacketBuffer.encap_eq _ _ _ _ packet, ok_bind, PacketBuffer.frameEncap_laid frame, ok_bind,
    FrameBuffer.setSrc_encode, ok_bind, FrameBuffer.setDest_encode]
  rfl

/-! ## The life of the process -/

/-- Takes in a learned route: in the place of the learned route to the same network, else at the end. -/
def learnInto (e : RouteEntry) (entries : List RouteEntry) : Checked (List RouteEntry) :=
  match entries.findIdx? fun x => x.isFor e.destination e.mask with
  | none => return entries ++ [e]
  | some index =>
    match entries[index]? with
    | none => .error .range
    | some old => return if old.isLearned then entries.set index e else entries

theorem learnInto_eq (e : RouteEntry) (entries : List RouteEntry) :
    learnInto e entries = .ok ((RouteTable.learnInto e entries).getD entries) := by
  induction entries with
  | nil => rfl
  | cons x rest ih =>
    unfold learnInto at ih ⊢
    rw [List.findIdx?_cons, RouteTable.learnInto]
    by_cases same : x.isFor e.destination e.mask
    · rw [if_pos same, if_pos same]
      by_cases learned : x.isLearned <;> simp [learned]
    · have shift := Option.getD_map (x :: ·) rest (RouteTable.learnInto e rest)
      rw [if_neg same, if_neg same, shift]
      -- A position in the rest is one less than in the whole list.
      cases found : rest.findIdx? (fun x => x.isFor e.destination e.mask) with
      | none =>
        rw [found] at ih
        exact congrArg (Except.map (x :: ·)) ih
      | some index =>
        rw [found] at ih
        dsimp only [Option.map, List.getElem?_cons_succ, List.set_cons_succ] at ih ⊢
        cases there : rest[index]? with
        | none =>
          rw [there] at ih
          cases ih
        | some old =>
          rw [there] at ih
          dsimp only at ih ⊢
          by_cases learned : old.isLearned
          · rw [if_pos learned] at ih ⊢
            exact congrArg (Except.map (x :: ·)) ih
          · rw [if_neg learned] at ih ⊢
            exact congrArg (Except.map (x :: ·)) ih

/-- Takes in one advertised route. -/
def learnEntry (i : Interface) (gateway : Ipv4Addr) (now : Nat) (t : RouteTable) (e : RipEntry) :
    Checked RouteTable := do
  let metric ← add32 e.metric 1
  return ⟨← learnInto { destination := e.network.masked e.mask, mask := e.mask, gateway, interface := i.name
                        metric := min metric ripInfinity, learnedAt := some now } t.entries⟩

theorem learnEntry_eq {e : RipEntry} (small : e.metric ≤ ripInfinity) (i : Interface) (gateway : Ipv4Addr) (now : Nat)
    (t : RouteTable) : learnEntry i gateway now t e = .ok (RipProcess.learnEntry i gateway now t e) := by
  have fits : e.metric + 1 < 2 ^ 32 := by
    rw [ripInfinity] at small
    omega
  rw [learnEntry, add32_eq fits, ok_bind, learnInto_eq, RipProcess.learnEntry, RouteTable.learn?,
    RipProcess.metricThrough]
  cases RouteTable.learnInto _ t.entries <;> rfl

/-- Takes in the datagram of a neighbour; only a running process does. -/
def receive (rip : RipState) (i : Interface) (neighbourMac : Mac) (b : PacketBuffer) (s : SegmentBuffer)
    (t : RouteTable) (now : Nat) : Checked (RouteTable × Option (String × Bytes)) := do
  if rip ≠ .running then return (t, none)
  match ← read (← s.payload) with
  | .error _ => return (t, none)
  | .ok m =>
    match m.command with
    | .request =>
      return (t, some (← transmission i (← b.src) neighbourMac (← s.srcPort) (RipProcess.advertisement t)))
    | .response => return (← m.entries.foldlM (learnEntry i (← b.src) now) t, none)

/-- Advertises the whole table on all interfaces, then drops the routes not heard of for too long; only a running
process does. -/
def tick (rip : RipState) (interfaces : InterfaceTable) (t : RouteTable) (now : Nat) :
    Checked (RouteTable × List (String × Bytes)) := do
  if rip ≠ .running then return (t, [])
  let sent ← interfaces.toList.mapM fun i =>
    transmission i ripGroup .broadcast ripPort (RipProcess.advertisement t)
  return (t.expire now ripTimeout, sent)

/-- The table that a running process advertises fits a buffer. -/
def Sendable (rip : RipState) (t : RouteTable) : Prop := rip = .running → t.entries.length ≤ maxEntries

section
variable {rip : RipState} {t : RouteTable} (few : Sendable rip t)
include few

theorem receive_eq {front : Bytes} {p : Ipv4Packet} {u : UdpSegment} (near : (front ++ p.header).length < 2 ^ 32)
    (segment : UdpSegment.ofPacket p = .ok u) (link : Option Nat) (i : Interface) (neighbourMac : Mac) (now : Nat) :
    receive rip i neighbourMac (p.laid front link) (u.laid (front ++ p.header)) t now =
      .ok ((RipProcess.receive rip i neighbourMac p u t now).1,
        (RipProcess.receive rip i neighbourMac p u t now).2.map Transmission.wire) := by
  obtain ⟨bytes, payload⟩ := Option.isSome_iff_exists.1 (UdpSegment.isSome_payload? segment)
  have src := PacketBuffer.src_laid (PacketBuffer.near_front near) link p
  unfold receive RipProcess.receive
  by_cases running : rip = .running
  · have held := held_of_near near
    rw [if_neg (not_not_intro running), if_pos running, SegmentBuffer.payload_laid u held payload, ok_bind,
      read_eq, ok_bind, RipProcess.message?, payload, src, SegmentBuffer.srcPort_laid u held]
    cases decoded : RipMessage.decode bytes with
    | error _ => simp [decoded, Except.toOption]
    | ok m =>
      have table : (RipProcess.advertisement t).entries.length ≤ maxEntries := by
        simpa [RipProcess.advertisement] using few running
      have small := RipMessage.metric_le_of_decode decoded
      cases command : m.command with
      | request => simp [decoded, Except.toOption, RipProcess.take, command, transmission_eq table]
      | response =>
        have learned := foldlM_eq (f := learnEntry i p.src now)
          (fun t e mem => learnEntry_eq (small e mem) i p.src now t) t
        simp [decoded, Except.toOption, RipProcess.take, command, learned]
  · rw [if_pos running, if_neg running]
    rfl

theorem tick_eq (interfaces : InterfaceTable) (now : Nat) : tick rip interfaces t now =
    .ok ((RipProcess.tick rip interfaces t now).1,
      (RipProcess.tick rip interfaces t now).2.map Transmission.wire) := by
  unfold tick RipProcess.tick
  by_cases running : rip = .running
  · have sent := mapM_eq (l := interfaces.toList) fun i _ => transmission_eq (m := RipProcess.advertisement t)
      (by simpa [RipProcess.advertisement] using few running) i ripGroup .broadcast ripPort
    rw [if_neg (not_not_intro running), if_pos running, sent]
    simp [RipProcess.toGroup]
  · rw [if_pos running, if_neg running]
    rfl

end

end RipBuffer

end SoftRouter
