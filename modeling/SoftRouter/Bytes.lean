/-!
# Byte strings and network words

Every format on the wire is a list of bytes whose words are written with the high byte first.
`octets16` and `octets32` write a word, `join16` and `join32` read one back; each pair is inverse.
-/

namespace SoftRouter

/-- A byte string as it stands on the wire. -/
abbrev Bytes := List UInt8

/-- The word with high byte `hi` and low byte `lo`. -/
def join16 (hi lo : UInt8) : UInt16 :=
  UInt16.ofNat (hi.toNat * 256 + lo.toNat)

/-- The high byte of a word. -/
def high8 (w : UInt16) : UInt8 := UInt8.ofNat (w.toNat / 256)

/-- The low byte of a word. -/
def low8 (w : UInt16) : UInt8 := UInt8.ofNat (w.toNat % 256)

/-- A word as two bytes, high byte first. -/
def octets16 (w : UInt16) : Bytes := [high8 w, low8 w]

theorem toNat_join16 (hi lo : UInt8) : (join16 hi lo).toNat = hi.toNat * 256 + lo.toNat := by
  have := hi.toNat_lt
  have := lo.toNat_lt
  simp only [join16, UInt16.toNat_ofNat']
  omega

@[simp] theorem high8_join16 (hi lo : UInt8) : high8 (join16 hi lo) = hi := by
  have := hi.toNat_lt
  have := lo.toNat_lt
  apply UInt8.toNat_inj.1
  simp only [high8, toNat_join16, UInt8.toNat_ofNat']
  omega

@[simp] theorem low8_join16 (hi lo : UInt8) : low8 (join16 hi lo) = lo := by
  have := hi.toNat_lt
  have := lo.toNat_lt
  apply UInt8.toNat_inj.1
  simp only [low8, toNat_join16, UInt8.toNat_ofNat']
  omega

@[simp] theorem join16_high8_low8 (w : UInt16) : join16 (high8 w) (low8 w) = w := by
  have := w.toNat_lt
  apply UInt16.toNat_inj.1
  simp only [toNat_join16, high8, low8, UInt8.toNat_ofNat']
  omega

@[simp] theorem length_octets16 (w : UInt16) : (octets16 w).length = 2 := rfl

/-- The word whose upper half is `hi` and whose lower half is `lo`. -/
def join32 (hi lo : UInt16) : UInt32 :=
  UInt32.ofNat (hi.toNat * 65536 + lo.toNat)

/-- The upper half of a word. -/
def high16 (w : UInt32) : UInt16 := UInt16.ofNat (w.toNat / 65536)

/-- The lower half of a word. -/
def low16 (w : UInt32) : UInt16 := UInt16.ofNat (w.toNat % 65536)

/-- A word as four bytes, high byte first. -/
def octets32 (w : UInt32) : Bytes := octets16 (high16 w) ++ octets16 (low16 w)

theorem toNat_join32 (hi lo : UInt16) : (join32 hi lo).toNat = hi.toNat * 65536 + lo.toNat := by
  have := hi.toNat_lt
  have := lo.toNat_lt
  simp only [join32, UInt32.toNat_ofNat']
  omega

@[simp] theorem high16_join32 (hi lo : UInt16) : high16 (join32 hi lo) = hi := by
  have := hi.toNat_lt
  have := lo.toNat_lt
  apply UInt16.toNat_inj.1
  simp only [high16, toNat_join32, UInt16.toNat_ofNat']
  omega

@[simp] theorem low16_join32 (hi lo : UInt16) : low16 (join32 hi lo) = lo := by
  have := hi.toNat_lt
  have := lo.toNat_lt
  apply UInt16.toNat_inj.1
  simp only [low16, toNat_join32, UInt16.toNat_ofNat']
  omega

@[simp] theorem join32_high16_low16 (w : UInt32) : join32 (high16 w) (low16 w) = w := by
  have := w.toNat_lt
  apply UInt32.toNat_inj.1
  simp only [toNat_join32, high16, low16, UInt16.toNat_ofNat']
  omega

@[simp] theorem length_octets32 (w : UInt32) : (octets32 w).length = 4 := rfl

end SoftRouter
