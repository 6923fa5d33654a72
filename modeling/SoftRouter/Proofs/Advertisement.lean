import Mathlib.Data.List.Forall2
import Mathlib.Data.List.Nodup
import SoftRouter.Proofs.Records

/-!
# Advertisements on the wire

A routing message goes out in a segment, a packet and a frame, whose lengths are fields of 16 bits. What comes back
from reading all four layers is the message, with metrics up to infinity, as long as the packet fits its field; a
longer packet reads back as no message of that length. A table is so advertised as it is exactly when it has at most
3275 routes (`advertises_transmission_iff`).
-/

namespace SoftRouter

namespace UdpSegment

theorem payload?_make {payload : Bytes} (fits : headerLength + payload.length < 65536) (srcPort destPort : UInt16) :
    (make srcPort destPort payload).payload? = some payload := by
  have length : (UInt16.ofNat (headerLength + payload.length)).toNat = headerLength + payload.length := by
    rw [UInt16.toNat_ofNat']
    omega
  simp only [payload?, make, length]
  rw [if_neg (by omega), Nat.add_sub_cancel_left, List.take_length]

theorem length_of_payload? {u : UdpSegment} {payload : Bytes} (there : u.payload? = some payload) :
    payload.length ≤ u.body.length := by
  unfold payload? at there
  dsimp only at there
  split at there
  · cases there
  · cases there
    rw [List.length_take]
    omega

theorem length_of_ofPacket {p : Ipv4Packet} {u : UdpSegment} (read : ofPacket p = .ok u) :
    headerLength + u.body.length = p.payload.length := by
  unfold ofPacket at read
  split at read
  · cases read
  split at read
  · cases read
  rw [← length_encode, encode_of_decode read]

theorem ofPacket_of_payload {p : Ipv4Packet} {u : UdpSegment} (protocol : p.protocol = .udp)
    (payload : p.payload = u.encode) (whole : u.payload?.isSome) : ofPacket p = .ok u := by
  have long : ¬ p.payload.length < headerLength := by
    rw [payload, length_encode]
    omega
  rw [ofPacket, if_neg long, if_neg (by simp [protocol]), payload, decode_encode whole]

end UdpSegment

/-! ## Advertisements -/

/-- The number of routes that fit into one packet behind the headers of three layers. -/
def maxAdvertised : Nat := 3275

/-- A route as a neighbour is told of it. -/
def RouteEntry.told (e : RouteEntry) : RipEntry := ⟨e.destination, e.mask, .unspecified, min e.metric ripInfinity⟩

/-- What is sent comes from this interface, goes to these addresses and says exactly what the table says: so it is
read by one layer after the other. -/
structure Advertises (t : RouteTable) (i : Interface) (destIp : Ipv4Addr) (destMac : Mac) (destPort : UInt16)
    (out : Transmission) : Prop where
  interface : out.interface = i.name
  reads : ∃ f p u, EthernetFrame.decode out.frame.encode = .ok f ∧ Ipv4Packet.ofFrame f = .ok p ∧
    UdpSegment.ofPacket p = .ok u ∧ RipProcess.message? u = some ⟨.response, t.entries.map RouteEntry.told⟩ ∧
    f.src = i.mac ∧ f.dest = destMac ∧ p.isValid ∧ p.src = i.ip ∧ p.dest = destIp ∧ u.destPort = destPort

namespace RipProcess

theorem message?_make {entries : List RipEntry} (fits : entries.length ≤ maxAdvertised) (srcPort destPort : UInt16) :
    message? (UdpSegment.make srcPort destPort (RipMessage.encode ⟨.response, entries⟩)) =
      some ⟨.response, entries.map RipMessage.clamped⟩ := by
  have room : UdpSegment.headerLength + (RipMessage.encode ⟨.response, entries⟩).length < 65536 := by
    rw [RipMessage.length_encode_response]
    simp only [maxAdvertised, UdpSegment.headerLength] at fits ⊢
    omega
  rw [message?, UdpSegment.payload?_make room, Option.bind_some, RipMessage.decode_encode]
  rfl

/-- A message that is read names no more routes than fit. -/
theorem length_of_message? {f : EthernetFrame} {p : Ipv4Packet} {u : UdpSegment} {m : RipMessage}
    (packet : Ipv4Packet.ofFrame f = .ok p) (segment : UdpSegment.ofPacket p = .ok u)
    (message : message? u = some m) : m.entries.length ≤ maxAdvertised := by
  obtain ⟨payload, there, read⟩ := message?_eq_some_iff.1 message
  -- Whatever the frame holds, the packet read from it is no longer than its length field can say.
  have total := (Ipv4Packet.readFrom_of_ofFrame packet).2.fits
  have bound : p.totalLength.toNat < 65536 := p.totalLength.toNat_lt
  have body := UdpSegment.length_of_ofPacket segment
  have inside := UdpSegment.length_of_payload? there
  have entries := RipMessage.length_of_decode read
  simp only [Ipv4Packet.headerLength, UdpSegment.headerLength, maxAdvertised] at *
  omega

theorem clamped_advertisement (t : RouteTable) :
    (advertisement t).entries.map RipMessage.clamped = t.entries.map RouteEntry.told := by
  rw [advertisement, List.map_map]
  refine List.map_congr_left ?_
  intro e _
  simp [RipMessage.clamped, RipEntry.make, RouteEntry.told]

/-- A message that fits reaches the station it is sent to byte for byte. -/
theorem reads_encode {m : RipMessage} (fits : 20 + (UdpSegment.headerLength + m.encode.length) < 65536) (i : Interface)
    (destIp : Ipv4Addr) (destMac : Mac) (destPort : UInt16) :
    ∃ p u, Ipv4Packet.ofFrame (transmission i destIp destMac destPort m).frame = .ok p ∧
      UdpSegment.ofPacket p = .ok u ∧ u.payload? = some m.encode ∧ p.isValid ∧ p.src = i.ip ∧ p.dest = destIp ∧
      u.srcPort = ripPort ∧ u.destPort = destPort := by
  have payload := UdpSegment.payload?_make (Nat.lt_of_le_of_lt (Nat.le_add_left _ 20) fits) ripPort destPort
  have whole : (UdpSegment.make ripPort destPort m.encode).payload?.isSome := by
    rw [payload]
    rfl
  refine ⟨_, _, EthernetFrame.ofFrame_of_payload rfl rfl ?_, UdpSegment.ofPacket_of_payload rfl rfl whole, payload,
    Ipv4Packet.isValid_checksummed _, rfl, rfl, rfl, rfl⟩
  show 20 + (UdpSegment.make ripPort destPort m.encode).encode.length < 65536
  rw [UdpSegment.length_encode]
  exact fits

theorem reads_transmission {entries : List RipEntry} (fits : entries.length ≤ maxAdvertised) (i : Interface)
    (destIp : Ipv4Addr) (destMac : Mac) (destPort : UInt16) :
    ∃ p u, Ipv4Packet.ofFrame (transmission i destIp destMac destPort ⟨.response, entries⟩).frame = .ok p ∧
      UdpSegment.ofPacket p = .ok u ∧ message? u = some ⟨.response, entries.map RipMessage.clamped⟩ ∧
      p.isValid ∧ p.src = i.ip ∧ p.dest = destIp ∧ u.destPort = destPort := by
  have room : 20 + (UdpSegment.headerLength + (RipMessage.encode ⟨.response, entries⟩).length) < 65536 := by
    rw [RipMessage.length_encode_response, UdpSegment.headerLength]
    rw [maxAdvertised] at fits
    omega
  obtain ⟨p, u, packet, segment, payload, valid, src, dest, -, port⟩ := reads_encode room i destIp destMac destPort
  refine ⟨p, u, packet, segment, ?_, valid, src, dest, port⟩
  rw [message?, payload, Option.bind_some, RipMessage.decode_encode]
  rfl

/-- What is sent of a table says exactly what the table says when the table is short enough, and only then. -/
theorem advertises_transmission_iff (t : RouteTable) (i : Interface) (destIp : Ipv4Addr) (destMac : Mac)
    (destPort : UInt16) :
    Advertises t i destIp destMac destPort (transmission i destIp destMac destPort (advertisement t)) ↔
      t.entries.length ≤ maxAdvertised := by
  constructor
  · rintro ⟨-, f, p, u, -, packet, segment, message, -⟩
    simpa using length_of_message? packet segment message
  · intro fits
    have short : (advertisement t).entries.length ≤ maxAdvertised := by simpa [advertisement] using fits
    obtain ⟨p, u, packet, segment, message, valid, src, dest, port⟩ :=
      reads_transmission short i destIp destMac destPort
    rw [clamped_advertisement] at message
    exact ⟨rfl, _, p, u, EthernetFrame.decode_encode _, packet, segment, message, rfl, rfl, valid, src, dest, port⟩

/-- A tick sends one frame for every interface, in their order, and a request is answered with one frame. Each of
them says exactly what the table says if the table is short enough for one packet, and else none does. -/
theorem advertised_exactly_iff (interfaces : InterfaceTable) (t : RouteTable) (now : Nat) :
    List.Forall₂ (fun i out => out.interface = i.name ∧
        (Advertises t i ripGroup .broadcast ripPort out ↔ t.entries.length ≤ maxAdvertised))
      interfaces.toList (tick .running interfaces t now).2 ∧
    ∀ i mac p u m, message? u = some m → m.command = .request →
      ∃ out, receive .running i mac p u t now = (t, some out) ∧
        (Advertises t i p.src mac u.srcPort out ↔ t.entries.length ≤ maxAdvertised) := by
  constructor
  · rw [tick, if_pos rfl, toGroup, List.forall₂_map_right_iff]
    exact List.forall₂_same.2 fun i _ => ⟨rfl, advertises_transmission_iff t i ripGroup .broadcast ripPort⟩
  · intro i mac p u m message request
    refine ⟨_, ?_, advertises_transmission_iff t i p.src mac u.srcPort⟩
    rw [receive, if_pos rfl, message]
    dsimp only
    rw [take, request]

/-- The network that an entry names. -/
def named (e : RipEntry) : Ipv4Addr × Ipv4Addr := (e.network.masked e.mask, e.mask)

theorem learnInto_fresh {e : RouteEntry} {routes : List RouteEntry}
    (fresh : ∀ x ∈ routes, x.isFor e.destination e.mask = false) :
    RouteTable.learnInto e routes = some (routes ++ [e]) := by
  induction routes with
  | nil => rfl
  | cons x rest ih =>
    rw [RouteTable.learnInto, if_neg (by simp [fresh x List.mem_cons_self]),
      ih fun y mem => fresh y (List.mem_cons_of_mem x mem)]
    rfl

theorem learnEntry_fresh {t : RouteTable} {e : RipEntry}
    (fresh : ∀ x ∈ t.entries, x.isFor (named e).1 (named e).2 = false) (i : Interface) (gateway : Ipv4Addr)
    (now : Nat) : ∃ x : RouteEntry, (x.destination, x.mask) = named e ∧
      (learnEntry i gateway now t e).entries = t.entries ++ [x] := by
  refine ⟨{ destination := (named e).1, mask := e.mask, gateway, interface := i.name,
            metric := metricThrough e.metric, learnedAt := some now }, rfl, ?_⟩
  rw [learnEntry, RouteTable.learn?, learnInto_fresh fresh]
  rfl

/-- Networks new to the table and different from each other get a route each. -/
theorem length_learned {es : List RipEntry} (apart : (es.map named).Nodup) {t : RouteTable}
    (fresh : ∀ e ∈ es, ∀ x ∈ t.entries, x.isFor (named e).1 (named e).2 = false) (i : Interface) (gateway : Ipv4Addr)
    (now : Nat) : (es.foldl (learnEntry i gateway now) t).entries.length = t.entries.length + es.length := by
  induction es generalizing t with
  | nil => rfl
  | cons e rest ih =>
    obtain ⟨x, name, learned⟩ := learnEntry_fresh (fresh e List.mem_cons_self) i gateway now
    obtain ⟨new, apart'⟩ := List.nodup_cons.1 apart
    rw [List.foldl_cons, ih apart', learned, List.length_append, List.length_singleton, List.length_cons]
    · omega
    · intro e' mem y known
      rw [learned] at known
      rcases List.mem_append.1 known with known | known
      · exact fresh e' (List.mem_cons_of_mem e mem) y known
      · rw [List.mem_singleton.1 known, Bool.eq_false_iff]
        intro same
        simp only [RouteEntry.isFor, Bool.and_eq_true, decide_eq_true_iff] at same
        have again : named e' = named e := name ▸ Prod.ext same.1.symm same.2.symm
        exact new (again ▸ List.mem_map_of_mem mem)

/-- The first so many hosts of the address space. -/
def hosts (n : Nat) : List RipEntry := (List.range n).map fun k => .make ⟨UInt32.ofNat k⟩ .broadcast 1

theorem named_host {k : Nat} (small : k < 4294967296) :
    (named (.make ⟨UInt32.ofNat k⟩ .broadcast 1)).1.bits.toNat = k := by
  have all := Nat.and_two_pow_sub_one_eq_mod k 32
  simp only [named, RipEntry.make, Ipv4Addr.masked, Ipv4Addr.broadcast, UInt32.toNat_and, UInt32.toNat_ofNat',
    Nat.mod_eq_of_lt small]
  rw [Nat.mod_eq_of_lt small] at all
  exact all

theorem nodup_hosts {n : Nat} (small : n ≤ 4294967296) : ((hosts n).map named).Nodup := by
  rw [hosts, List.map_map]
  refine List.Nodup.map_on ?_ List.nodup_range
  intro a ha b hb same
  rw [List.mem_range] at ha hb
  rw [← named_host (Nat.lt_of_lt_of_le ha small), ← named_host (Nat.lt_of_lt_of_le hb small)]
  exact congrArg (fun name => name.1.bits.toNat) same

def onePort : Interface := ⟨"eth0", ⟨2, 0, 0, 0, 0, 1⟩, .ofOctets 10 0 0 1, .ofOctets 255 255 255 0⟩

def heardHosts (n : Nat) : UdpSegment := .make ripPort ripPort (RipMessage.encode ⟨.response, hosts n⟩)

/-- What a process with one connected network has learned from that. -/
def hostsTable (n : Nat) : RouteTable :=
  (receive .running onePort ⟨2, 0, 0, 0, 0, 7⟩ (.make (.ofOctets 10 0 0 7) ripGroup 17 ripTtl (heardHosts n).encode)
    (heardHosts n) ⟨[connected onePort]⟩ 0).1

theorem length_hostsTable {n : Nat} (fits : n ≤ maxAdvertised) : (hostsTable n).entries.length = n + 1 := by
  have message : message? (heardHosts n) = some ⟨.response, (hosts n).map RipMessage.clamped⟩ :=
    message?_make (by simpa [hosts] using fits) ripPort ripPort
  have apart : (((hosts n).map RipMessage.clamped).map named).Nodup := by
    rw [List.map_map]
    exact nodup_hosts (Nat.le_trans fits (by decide))
  rw [hostsTable, receive, if_pos rfl, message]
  dsimp only [take]
  rw [length_learned apart, List.length_map, hosts, List.length_map, List.length_range, List.length_singleton,
    Nat.add_comm]
  intro e mem x known
  obtain ⟨e', mem', rfl⟩ := List.mem_map.1 mem
  obtain ⟨k, -, rfl⟩ := List.mem_map.1 mem'
  cases List.mem_singleton.1 known
  have apart : onePort.mask ≠ .broadcast := by decide
  rw [RouteEntry.isFor, Bool.and_eq_false_iff]
  exact .inr (decide_eq_false apart)

/-- The frame that advertises the hosts and the connected network says something else, if anything. -/
theorem not_advertised_hosts : ∃ out, (tick .running (.ofList [onePort]) (hostsTable maxAdvertised) 0).2 = [out] ∧
    ¬ Advertises (hostsTable maxAdvertised) onePort ripGroup .broadcast ripPort out := by
  refine ⟨_, rfl, ?_⟩
  intro advertises
  have short := (advertises_transmission_iff _ onePort ripGroup .broadcast ripPort).1 advertises
  rw [length_hostsTable (Nat.le_refl maxAdvertised)] at short
  exact absurd short (Nat.not_succ_le_self maxAdvertised)

/-- A request for the whole table is answered with a table of one route. -/
theorem advertised_connected : ∃ out,
    receive .running onePort ⟨2, 0, 0, 0, 0, 7⟩ (.make (.ofOctets 10 0 0 7) (.ofOctets 10 0 0 1) 17 ripTtl [])
      (.make ripPort ripPort RipMessage.wholeTable.encode) ⟨[connected onePort]⟩ 0 =
        (⟨[connected onePort]⟩, some out) ∧
      Advertises ⟨[connected onePort]⟩ onePort (.ofOctets 10 0 0 7) ⟨2, 0, 0, 0, 0, 7⟩ ripPort out := by
  obtain ⟨out, answered, exact_iff⟩ := (advertised_exactly_iff (.ofList [onePort]) ⟨[connected onePort]⟩ 0).2 onePort
    ⟨2, 0, 0, 0, 0, 7⟩ (.make (.ofOctets 10 0 0 7) (.ofOctets 10 0 0 1) 17 ripTtl [])
    (.make ripPort ripPort RipMessage.wholeTable.encode) .wholeTable (by decide +kernel) rfl
  exact ⟨out, answered, exact_iff.2 (by decide)⟩

end RipProcess

end SoftRouter
