import SoftRouter.Proofs.Buffer.Arp

/-!
# Addresses in their slots

The four addresses of a frame that was read as ARP stand one after the other between its fixed fields and its end
(`Tiled`), whatever the lengths of the addresses are. So an address that is put into its slot is read there again and
leaves every other byte as it was, and one that does not fit is refused (`slots_never_overlap`). The frame is read
again as what it is, before and after.
-/

namespace SoftRouter

open Checked

/-- An address to be put into the slot that is meant for it. -/
inductive Filling where
  | senderMac (mac : Mac)
  | senderIp (ip : Ipv4Addr)
  | targetMac (mac : Mac)
  | targetIp (ip : Ipv4Addr)
  deriving DecidableEq, Repr

namespace Filling

def slot : Filling → Slot
  | senderMac _ => .senderHardware
  | senderIp _ => .senderProtocol
  | targetMac _ => .targetHardware
  | targetIp _ => .targetProtocol

def bytes : Filling → Bytes
  | senderMac mac => mac.octets
  | senderIp ip => ip.octets
  | targetMac mac => mac.octets
  | targetIp ip => ip.octets

end Filling

/-- The slots in the order of the frame. -/
def Slot.order : List Slot := [.senderHardware, .senderProtocol, .targetHardware, .targetProtocol]

namespace ArpFrame

variable (f : ArpFrame)

/-- Puts an address into its slot, if it fits. -/
def fill? : Filling → Option ArpFrame
  | .senderMac mac => f.withSenderMac? mac
  | .senderIp ip => f.withSenderIp? ip
  | .targetMac mac => f.withTargetMac? mac
  | .targetIp ip => f.withTargetIp? ip

/-- The slot is as long as the address that is to be put into it. -/
def HasRoom : Filling → Prop
  | .senderMac _ => f.hardwareLen = 6
  | .senderIp _ => f.protocolLen = 4
  | .targetMac _ => f.hardwareLen = 6
  | .targetIp _ => f.protocolLen = 4

section
variable {f} {x : Filling}

theorem hasRoom_iff : f.HasRoom x ↔ x.bytes.length = (f.slot x.slot).length := by
  have six : f.hardwareLen = 6 ↔ 6 = f.hardwareLen.toNat := by
    rw [← UInt8.toNat_inj, eq_comm]
    rfl
  have four : f.protocolLen = 4 ↔ 4 = f.protocolLen.toNat := by
    rw [← UInt8.toNat_inj, eq_comm]
    rfl
  cases x with
  | senderMac mac => exact f.length_senderHardware ▸ six
  | senderIp ip => exact f.length_senderProtocol ▸ four
  | targetMac mac => exact f.length_targetHardware ▸ six
  | targetIp ip => exact f.length_targetProtocol ▸ four

theorem fill?_of_room (room : f.HasRoom x) :
    f.fill? x = some (f.withSlot x.slot x.bytes (hasRoom_iff.1 room)) := by
  cases x with
  | senderMac mac => exact dif_pos room
  | senderIp ip => exact dif_pos room
  | targetMac mac => exact dif_pos room
  | targetIp ip => exact dif_pos room

theorem fill?_of_not_room (cramped : ¬ f.HasRoom x) : f.fill? x = none := by
  cases x with
  | senderMac mac => exact dif_neg cramped
  | senderIp ip => exact dif_neg cramped
  | targetMac mac => exact dif_neg cramped
  | targetIp ip => exact dif_neg cramped

end

/-- A frame is read back from its bytes. -/
theorem decode_encode : decode f.dest f.src f.encode = .ok f := by
  obtain ⟨dest, src, type, protocol, h, p, opcode, sh, sp, th, tp, lsh, lsp, lth, ltp⟩ := f
  have enough : ¬ (sh ++ sp ++ th ++ tp).length < 2 * h.toNat + 2 * p.toNat := by
    simp only [List.length_append, lsh, lsp, lth, ltp]
    omega
  have length2 : (sh ++ sp).length = h.toNat + p.toNat := by rw [List.length_append, lsh, lsp]
  have length3 : (sh ++ sp ++ th).length = h.toNat + p.toNat + h.toNat := by rw [List.length_append, length2, lth]
  have first : (sh ++ (sp ++ (th ++ tp))).take h.toNat = sh := List.take_left' lsh
  have second : ((sh ++ (sp ++ (th ++ tp))).drop h.toNat).take p.toNat = sp := by
    rw [List.drop_left' lsh, List.take_left' lsp]
  have third : ((sh ++ sp ++ (th ++ tp)).drop (h.toNat + p.toNat)).take h.toNat = th := by
    rw [List.drop_left' length2, List.take_left' lth]
  have fourth : ((sh ++ sp ++ th ++ tp).drop (h.toNat + p.toNat + h.toNat)).take p.toNat = tp := by
    rw [List.drop_left' length3, List.take_of_length_le (Nat.le_of_eq ltp)]
  show decode dest src (high8 type :: low8 type :: high8 protocol :: low8 protocol :: h :: p :: high8 opcode ::
    low8 opcode :: (sh ++ sp ++ th ++ tp)) = _
  rw [decode, dif_neg enough]
  simp only [List.append_assoc] at second third fourth ⊢
  simp only [join16_high8_low8, first, second, third, fourth]

theorem ofFrame_toFrame : ofFrame f.toFrame = .ok f := (if_pos rfl).trans f.decode_encode

/-- What was read as ARP is the frame and the padding behind it. -/
theorem append_of_ofFrame {frame : EthernetFrame} {f : ArpFrame} (read : ofFrame frame = .ok f) :
    ∃ padding, frame.encode = f.toFrame.encode ++ padding := by
  unfold ofFrame at read
  split at read
  · rename_i type
    obtain ⟨dest, src, padding, payload⟩ := append_of_decode read
    have header : frame.header = f.toFrame.header := by
      rw [EthernetFrame.header, EthernetFrame.header, type, ← dest, ← src]
      rfl
    refine ⟨padding, ?_⟩
    rw [EthernetFrame.encode, header, payload, ← List.append_assoc]
    rfl
  · cases read

end ArpFrame

/-- Ranges of the given lengths, of which each starts where the one before it ends. -/
def tiles : Nat → List Nat → List (Nat × Nat)
  | _, [] => []
  | first, length :: lengths => (first, first + length) :: tiles (first + length) lengths

namespace ArpBuffer

/-- The slots of a frame with addresses of `h` and of `p` bytes: in order, each starts where the one before it ends,
the first behind the fixed fields, and the frame ends with the last. -/
structure Tiled (data : Bytes) (h p : UInt8) : Prop where
  hardwareLen : hardwareLen data = .ok h
  protocolLen : protocolLen data = .ok p
  ranges : Slot.order.mapM (range data) = .ok (tiles 8 [h.toNat, p.toNat, h.toNat, p.toNat])
  whole : data.length = 14 + (8 + 2 * h.toNat + 2 * p.toNat)
  slots : ∃ slots, Slot.order.mapM (slot data) = .ok slots ∧ data.drop (14 + 8) = slots.flatten

theorem tiled_encode (f : ArpFrame) : Tiled f.toFrame.encode f.hardwareLen f.protocolLen where
  hardwareLen := hardwareLen_encode f
  protocolLen := protocolLen_encode f
  ranges := by
    rw [mapM_eq fun s _ => range_eq f s]
    simp [Slot.order, tiles, ArpFrame.ahead, ArpFrame.slot, f.length_senderHardware, f.length_senderProtocol,
      f.length_targetHardware, f.length_targetProtocol]
    omega
  whole := by
    rw [EthernetFrame.length_encode]
    exact congrArg (14 + ·) f.length_encode
  slots := by
    refine ⟨_, mapM_eq fun s _ => slot_encode f s, ?_⟩
    have fixed : f.toFrame.encode = (f.toFrame.header ++ f.fixed) ++ (Slot.order.map f.slot).flatten := by
      simp [EthernetFrame.encode, ArpFrame.toFrame, ArpFrame.encode, ArpFrame.fixed, ArpFrame.slot, Slot.order]
    rw [fixed]
    exact List.drop_left' rfl

/-! ## Filling a slot -/

/-- Puts an address into its slot, in place. -/
def fill (x : Filling) : InPlace Unit := do
  let (first, last) ← InPlace.look fun data => range data x.slot
  InPlace.copyAt 14 first last x.bytes

/-- The slot that is meant for an address has its length. -/
def Fits (data : Bytes) : Filling → Prop
  | .senderMac _ => hardwareLen data = .ok 6
  | .senderIp _ => protocolLen data = .ok 4
  | .targetMac _ => hardwareLen data = .ok 6
  | .targetIp _ => protocolLen data = .ok 4

/-- The address is read in its slot. -/
def Holds (data : Bytes) : Filling → Prop
  | .senderMac mac => mac? data .senderHardware = .ok (some mac)
  | .senderIp ip => ip? data .senderProtocol = .ok (some ip)
  | .targetMac mac => mac? data .targetHardware = .ok (some mac)
  | .targetIp ip => ip? data .targetProtocol = .ok (some ip)

/-- A frame as it was but for one slot, in which an address is read now. It is still a frame without padding. -/
structure Filled (data after : Bytes) (x : Filling) : Prop where
  held : Holds after x
  elsewhere : ∃ first last, range data x.slot = .ok (first, last) ∧
    ∀ i, i < 14 + first ∨ 14 + last ≤ i → after[i]? = data[i]?
  length : after.length = data.length
  kept : read after = .ok (.ok after)

section
variable (f : ArpFrame) {x : Filling}

theorem read_toFrame : read f.toFrame.encode = .ok (.ok f.toFrame.encode) := by
  rw [read_encode, f.ofFrame_toFrame]
  rfl

theorem fits_encode : Fits f.toFrame.encode x ↔ f.HasRoom x := by
  cases x <;> simp only [Fits, ArpFrame.HasRoom, hardwareLen_encode, protocolLen_encode, Except.ok.injEq]

/-- Where the slot is and whether the address fits is known before its first byte is written. -/
theorem does_fill (x : Filling) (data : Bytes) :
    InPlace.Does (fill x) (fun data => setSlot data x.slot x.bytes) data :=
  InPlace.does_look_bind fun gap _ => InPlace.does_copyAt 14 gap.1 gap.2 x.bytes

variable {f}

theorem run_fill_of_room (room : f.HasRoom x) :
    (fill x).run.run f.toFrame.encode =
      (.ok (), (f.withSlot x.slot x.bytes (ArpFrame.hasRoom_iff.1 room)).toFrame.encode) :=
  (does_fill x _).run_of_ok (setSlot_encode f x.slot (ArpFrame.hasRoom_iff.1 room))

/-- An address that does not have the length of its slot is not copied. -/
theorem run_fill_of_not_room (cramped : ¬ f.HasRoom x) :
    (fill x).run.run f.toFrame.encode = (.error .unequal, f.toFrame.encode) := by
  have unequal : x.bytes.length ≠ (f.slot x.slot).length := mt ArpFrame.hasRoom_iff.2 cramped
  have refused : setSlot f.toFrame.encode x.slot x.bytes = .error .unequal := by
    rw [setSlot, range_eq, ok_bind]
    exact copyFrom_unequal f.encode (held_of_near (PacketBuffer.near_header f.toFrame)) (inside_near f x.slot)
      (Nat.le_add_right ..) (inside f x.slot) (by omega)
  exact (does_fill x _).run_of_error refused

theorem holds_withSlot (fits : x.bytes.length = (f.slot x.slot).length) :
    Holds (f.withSlot x.slot x.bytes fits).toFrame.encode x := by
  cases x with
  | senderMac mac => exact mac?_encode _ .senderHardware
  | senderIp ip => exact (ip?_encode _ .senderProtocol).trans (congrArg _ ip.ofBytes?_octets)
  | targetMac mac => exact mac?_encode _ .targetHardware
  | targetIp ip => exact (ip?_encode _ .targetProtocol).trans (congrArg _ ip.ofBytes?_octets)

theorem filled_withSlot (fits : x.bytes.length = (f.slot x.slot).length) :
    Filled f.toFrame.encode (f.withSlot x.slot x.bytes fits).toFrame.encode x := by
  have written : (f.withSlot x.slot x.bytes fits).toFrame.encode =
      overwrite (14 + (f.ahead x.slot).length) x.bytes f.toFrame.encode := by
    rw [f.toFrame_withSlot, ← f.overwrite_slot x.slot fits]
    exact (overwrite_append f.toFrame.header ..).symm
  have room : 14 + (f.ahead x.slot).length + x.bytes.length ≤ f.toFrame.encode.length := by
    have := inside f x.slot
    have whole : f.toFrame.encode.length = 14 + f.encode.length := EthernetFrame.length_encode _
    omega
  refine ⟨holds_withSlot fits, ⟨_, _, range_eq f x.slot, fun i apart => ?_⟩, ?_, read_toFrame _⟩
  · rw [written]
    exact getElem?_overwrite_ne room (by omega)
  · rw [written, length_overwrite room]

end

theorem exists_frame_of_read {data arp : Bytes} (accepted : read data = .ok (.ok arp)) :
    ∃ frame f, data = frame.encode ∧ ArpFrame.ofFrame frame = .ok f ∧ arp = f.toFrame.encode := by
  have long : 14 ≤ data.length := by
    refine Nat.le_of_not_lt fun short => ?_
    have none : FrameBuffer.etherType data = .error .range := by
      rw [FrameBuffer.etherType, slice, if_neg fun both => Nat.not_lt_of_le both.2 short]
      rfl
    rw [read, none] at accepted
    cases accepted
  obtain ⟨frame, decoded⟩ := EthernetFrame.exists_decode long
  have whole := EthernetFrame.encode_of_decode decoded
  rw [← whole, read_encode] at accepted
  cases found : ArpFrame.ofFrame frame with
  | error e =>
    rw [found] at accepted
    cases accepted
  | ok f =>
    rw [found] at accepted
    cases accepted
    exact ⟨frame, f, whole.symm, found, rfl⟩

/-- A frame that was read as ARP ends with its last slot, and the slots before it stand one after the other, whatever
their lengths are. An address fills its own slot and changes nothing else, or is refused and changes nothing. The frame
is read again as itself. -/
theorem slots_never_overlap {data arp : Bytes} (accepted : read data = .ok (.ok arp)) :
    (∃ h p, Tiled arp h p) ∧ (∃ padding, data = arp ++ padding) ∧ read arp = .ok (.ok arp) ∧
      (∀ x, Fits arp x ∧ (∃ after, (fill x).run.run arp = (.ok (), after) ∧ Filled arp after x) ∨
        ¬ Fits arp x ∧ (fill x).run.run arp = (.error .unequal, arp)) ∧
      ∃ frame f, data = frame.encode ∧ ArpFrame.ofFrame frame = .ok f ∧ arp = f.toFrame.encode ∧
        ArpFrame.ofFrame f.toFrame = .ok f ∧
        ∀ x, (fill x).run.run arp =
          match f.fill? x with
          | some g => (.ok (), g.toFrame.encode)
          | none => (.error .unequal, arp) := by
  obtain ⟨frame, f, rfl, decoded, rfl⟩ := exists_frame_of_read accepted
  refine ⟨⟨_, _, tiled_encode f⟩, ArpFrame.append_of_ofFrame decoded, read_toFrame f, fun x => ?_, frame, f, rfl,
    decoded, rfl, f.ofFrame_toFrame, fun x => ?_⟩
  · rw [fits_encode]
    by_cases room : f.HasRoom x
    · exact .inl ⟨room, _, run_fill_of_room room, filled_withSlot _⟩
    · exact .inr ⟨room, run_fill_of_not_room room⟩
  · by_cases room : f.HasRoom x
    · rw [ArpFrame.fill?_of_room room, run_fill_of_room room]
    · rw [ArpFrame.fill?_of_not_room room, run_fill_of_not_room room]

/-- A frame with hardware addresses of eight bytes takes a protocol address of four, but no hardware address of six. -/
theorem slots_of_eight_and_four :
    read ((ArpFrame.blank 8 4).toFrame.encode ++ [0, 0, 0]) = .ok (.ok (ArpFrame.blank 8 4).toFrame.encode) ∧
      Tiled (ArpFrame.blank 8 4).toFrame.encode 8 4 ∧
      (∃ after, (fill (.targetIp .broadcast)).run.run (ArpFrame.blank 8 4).toFrame.encode = (.ok (), after) ∧
        Filled (ArpFrame.blank 8 4).toFrame.encode after (.targetIp .broadcast)) ∧
      (fill (.targetMac .broadcast)).run.run (ArpFrame.blank 8 4).toFrame.encode =
        (.error .unequal, (ArpFrame.blank 8 4).toFrame.encode) := by
  have accepted : read ((ArpFrame.blank 8 4).toFrame.encode ++ [0, 0, 0]) =
      .ok (.ok (ArpFrame.blank 8 4).toFrame.encode) := by rfl
  obtain ⟨⟨h, p, tiled⟩, -, -, fill, -⟩ := slots_never_overlap accepted
  have hardware : h = 8 := Except.ok.inj (tiled.hardwareLen.symm.trans (hardwareLen_encode (.blank 8 4)))
  have protocol : p = 4 := Except.ok.inj (tiled.protocolLen.symm.trans (protocolLen_encode (.blank 8 4)))
  rw [hardware, protocol] at tiled
  refine ⟨accepted, tiled, ?_, ?_⟩
  · obtain ⟨-, filled⟩ | ⟨cramped, -⟩ := fill (.targetIp .broadcast)
    · exact filled
    · exact absurd (protocolLen_encode (.blank 8 4)) cramped
  · obtain ⟨room, -⟩ | ⟨-, refused⟩ := fill (.targetMac .broadcast)
    · exact absurd (Except.ok.inj ((hardwareLen_encode (.blank 8 4)).symm.trans room)) (by decide)
    · exact refused

end ArpBuffer

end SoftRouter
