import Mathlib.Algebra.Group.Nat.Defs
import SoftRouter.Checksum
import SoftRouter.Proofs.Packet

/-!
# Buffers read and written in place

Positions and lengths are words of 64 bits, and a buffer is read and written only where it has bytes. A computation
over buffers faults where it would do otherwise, or where a field does not fit its gap or a number its word; the
theorems here say when it does not. What lies in front of the bytes that count only shifts positions.
-/

namespace SoftRouter

/-- What can be wrong with a step of a computation over buffers. -/
inductive Fault where
  /-- It reaches outside of the buffer. -/
  | range
  /-- It copies a field into a gap of another length. -/
  | unequal
  /-- It has a result that its word does not hold. -/
  | overflow
  deriving DecidableEq, Repr

/-- A result, unless there was a fault on the way. -/
abbrev Checked := Except Fault

namespace Checked

variable {α β : Type}

@[simp] theorem ok_bind (a : α) (f : α → Checked β) : (Except.ok a >>= f : Checked β) = f a := rfl

@[simp] theorem pure_eq (a : α) : (pure a : Checked α) = .ok a := rfl

theorem mapM_eq {f : α → Checked β} {g : α → β} {l : List α} (each : ∀ a ∈ l, f a = .ok (g a)) :
    l.mapM f = .ok (l.map g) := by
  induction l with
  | nil => rfl
  | cons a rest ih =>
    rw [List.mapM_cons, each a List.mem_cons_self, ok_bind, ih fun b mem => each b (List.mem_cons_of_mem a mem)]
    rfl

theorem foldlM_eq {f : β → α → Checked β} {g : β → α → β} {l : List α} (each : ∀ b, ∀ a ∈ l, f b a = .ok (g b a))
    (b : β) : l.foldlM f b = .ok (l.foldl g b) := by
  induction l generalizing b with
  | nil => rfl
  | cons a rest ih =>
    rw [List.foldlM_cons, each b a List.mem_cons_self, ok_bind, ih fun b x mem => each b x (List.mem_cons_of_mem a mem)]
    rfl

/-- Numbers of positions and lengths are below this one. -/
def wordEnd : Nat := 2 ^ 64

/-- No buffer is as long as this. -/
def bufferEnd : Nat := 2 ^ 63

def add (m n : Nat) : Checked Nat := if m + n < wordEnd then .ok (m + n) else .error .overflow

def sub (m n : Nat) : Checked Nat := if n ≤ m then .ok (m - n) else .error .overflow

def mul (m n : Nat) : Checked Nat := if m * n < wordEnd then .ok (m * n) else .error .overflow

def decrement (byte : UInt8) : Checked UInt8 := if byte = 0 then .error .overflow else .ok (byte - 1)

/-- The sum as a word of 32 bits. -/
def add32 (m n : Nat) : Checked Nat := if m + n < 2 ^ 32 then .ok (m + n) else .error .overflow

theorem add_eq {m n : Nat} (fits : m + n < wordEnd) : add m n = .ok (m + n) := if_pos fits

theorem add_eq_ok_iff {m n sum : Nat} : add m n = .ok sum ↔ m + n < wordEnd ∧ sum = m + n := by
  rw [add]
  by_cases fits : m + n < wordEnd
  · rw [if_pos fits]
    exact ⟨by rintro ⟨⟩; exact ⟨fits, rfl⟩, by rintro ⟨-, rfl⟩; rfl⟩
  · rw [if_neg fits]
    exact iff_of_false nofun fun both => fits both.1

theorem sub_eq {m n : Nat} (le : n ≤ m) : sub m n = .ok (m - n) := if_pos le

theorem mul_eq {m n : Nat} (fits : m * n < wordEnd) : mul m n = .ok (m * n) := if_pos fits

theorem decrement_eq {byte : UInt8} (some : byte ≠ 0) : decrement byte = .ok (byte - 1) := if_neg some

theorem add32_eq {m n : Nat} (fits : m + n < 2 ^ 32) : add32 m n = .ok (m + n) := if_pos fits

/-- A position that a word of 32 bits holds is one in a buffer. -/
theorem held_of_near {n : Nat} (near : n < 2 ^ 32) : n < bufferEnd := by
  unfold bufferEnd
  omega

theorem held_nil : ([] : Bytes).length < bufferEnd := held_of_near (by simp)

theorem add_held {m n : Nat} (held : m < bufferEnd) (small : n < 2 ^ 32) : add m n = .ok (m + n) := by
  refine add_eq ?_
  unfold wordEnd
  unfold bufferEnd at held
  omega

theorem add_near {m n : Nat} (near : m < 2 ^ 32) (small : n < 2 ^ 32) : add m n = .ok (m + n) :=
  add_held (held_of_near near) small

theorem mul_near {m n : Nat} (small : m * n < 2 ^ 32) : mul m n = .ok (m * n) := by
  refine mul_eq ?_
  unfold wordEnd
  omega

/-- The length of what fits a buffer behind something else is a word. -/
theorem add_of_fits {front m n : Nat} (fits : front + (m + n) < bufferEnd) : add m n = .ok (m + n) := by
  refine add_eq ?_
  unfold wordEnd
  unfold bufferEnd at fits
  omega

/-! ## Access -/

def byteAt (data : Bytes) (i : Nat) : Checked UInt8 :=
  match data[i]? with
  | some byte => .ok byte
  | none => .error .range

/-- The bytes from one position up to another. -/
def slice (data : Bytes) (first last : Nat) : Checked Bytes :=
  if first ≤ last ∧ last ≤ data.length then .ok ((data.take last).drop first) else .error .range

def suffix (data : Bytes) (first : Nat) : Checked Bytes := slice data first data.length

/-- Puts a field in the place of the bytes from one position up to another. -/
def copyInto (data : Bytes) (first last : Nat) (field : Bytes) : Checked Bytes :=
  if first ≤ last ∧ last ≤ data.length then
    if field.length = last - first then .ok (overwrite first field data) else .error .unequal
  else .error .range

def setByte (data : Bytes) (i : Nat) (byte : UInt8) : Checked Bytes :=
  if i < data.length then .ok (overwrite i [byte] data) else .error .range

/-- Makes a buffer that has room for so many bytes. -/
def reserve (capacity : Nat) : Checked Unit := if capacity < bufferEnd then .ok () else .error .overflow

def extend (data more : Bytes) : Checked Bytes :=
  if data.length + more.length < bufferEnd then .ok (data ++ more) else .error .overflow

/-- Exactly two bytes as a word. -/
def word16 : Bytes → Checked UInt16
  | [hi, lo] => .ok (join16 hi lo)
  | _ => .error .unequal

/-- Exactly four bytes as a word. -/
def word32 : Bytes → Checked UInt32
  | [a, b, c, d] => .ok (join32 (join16 a b) (join16 c d))
  | _ => .error .unequal

/-- Exactly four bytes as an address. -/
def address (bytes : Bytes) : Checked Ipv4Addr := return ⟨← word32 bytes⟩

/-- Exactly six bytes as a link address. -/
def linkAddress (bytes : Bytes) : Checked Mac :=
  match Mac.ofBytes bytes with
  | .ok mac => .ok mac
  | .error _ => .error .unequal

theorem slice_eq {data : Bytes} {first last : Nat} (order : first ≤ last) (inside : last ≤ data.length) :
    slice data first last = .ok ((data.take last).drop first) := if_pos ⟨order, inside⟩

theorem suffix_eq {data : Bytes} {first : Nat} (inside : first ≤ data.length) :
    suffix data first = .ok (data.drop first) := by
  rw [suffix, slice_eq inside (Nat.le_refl _), List.take_length]

theorem length_overwrite {position : Nat} {field bytes : Bytes} (inside : position + field.length ≤ bytes.length) :
    (overwrite position field bytes).length = bytes.length := by
  simp only [overwrite, List.length_append, List.length_take, List.length_drop]
  omega

theorem copyInto_eq {data : Bytes} {first last : Nat} {field : Bytes} (inside : last ≤ data.length)
    (fits : first + field.length = last) : copyInto data first last field = .ok (overwrite first field data) := by
  rw [copyInto, if_pos ⟨by omega, inside⟩, if_pos (by omega)]

theorem setByte_eq {data : Bytes} {i : Nat} (inside : i < data.length) (byte : UInt8) :
    setByte data i byte = .ok (overwrite i [byte] data) := if_pos inside

theorem reserve_eq {capacity : Nat} (fits : capacity < bufferEnd) : reserve capacity = .ok () := if_pos fits

theorem extend_eq {data more : Bytes} (fits : data.length + more.length < bufferEnd) :
    extend data more = .ok (data ++ more) := if_pos fits

theorem exists_eight {bytes : Bytes} (long : 8 ≤ bytes.length) :
    ∃ b0 b1 b2 b3 b4 b5 b6 b7 rest, bytes = b0 :: b1 :: b2 :: b3 :: b4 :: b5 :: b6 :: b7 :: rest := by
  iterate 8
    rcases bytes with _ | ⟨_, bytes⟩
    · simp at long
  exact ⟨_, _, _, _, _, _, _, _, _, rfl⟩

theorem high8_zero : high8 0 = 0 := rfl

theorem low8_zero : low8 0 = 0 := rfl

@[simp] theorem address_octets (ip : Ipv4Addr) : address ip.octets = .ok ip := by
  simp [address, word32, Ipv4Addr.octets, octets32, octets16]

@[simp] theorem word16_octets16 (w : UInt16) : word16 (octets16 w) = .ok w := by
  simp [word16, octets16]

section
variable {front : Bytes} (bytes : Bytes)

def byteFrom (data : Bytes) (start i : Nat) : Checked UInt8 := do byteAt data (← add start i)

def sliceFrom (data : Bytes) (start i j : Nat) : Checked Bytes := do slice data (← add start i) (← add start j)

def copyFrom (data : Bytes) (start i j : Nat) (field : Bytes) : Checked Bytes := do
  copyInto data (← add start i) (← add start j) field

def word16From (data : Bytes) (start i : Nat) : Checked UInt16 := do word16 (← sliceFrom data start i (i + 2))

section
variable (held : front.length < bufferEnd)
include held

theorem byteFrom_held {i : Nat} (small : i < 2 ^ 32) : byteFrom (front ++ bytes) front.length i = byteAt bytes i := by
  rw [byteFrom, add_held held small, ok_bind, byteAt, byteAt,
    List.getElem?_append_right (Nat.le_add_right _ _), Nat.add_sub_cancel_left]

theorem sliceFrom_held {i j : Nat} (small : j < 2 ^ 32) (order : i ≤ j) :
    sliceFrom (front ++ bytes) front.length i j = slice bytes i j := by
  have first : i < 2 ^ 32 := by omega
  rw [sliceFrom, add_held held first, ok_bind, add_held held small, ok_bind, slice, slice, List.length_append,
    List.take_length_add_append, List.drop_length_add_append]
  by_cases inside : j ≤ bytes.length
  · rw [if_pos ⟨by omega, by omega⟩, if_pos ⟨order, inside⟩]
  · rw [if_neg fun both => inside (by omega), if_neg fun both => inside both.2]

theorem copyFrom_held {i j : Nat} (small : j < 2 ^ 32) {field : Bytes} (inside : j ≤ bytes.length)
    (fits : i + field.length = j) :
    copyFrom (front ++ bytes) front.length i j field = .ok (front ++ overwrite i field bytes) := by
  have first : i < 2 ^ 32 := by omega
  rw [copyFrom, add_held held first, ok_bind, add_held held small, ok_bind,
    copyInto_eq (by simpa using inside) (by omega), overwrite_append]

/-- A field that is longer or shorter than its gap is not copied. -/
theorem copyFrom_unequal {i j : Nat} (small : j < 2 ^ 32) {field : Bytes} (order : i ≤ j) (inside : j ≤ bytes.length)
    (unequal : i + field.length ≠ j) : copyFrom (front ++ bytes) front.length i j field = .error .unequal := by
  have first : i < 2 ^ 32 := by omega
  rw [copyFrom, add_held held first, ok_bind, add_held held small, ok_bind, copyInto,
    if_pos ⟨by omega, by simpa using inside⟩, if_neg (by omega)]

end

section
variable (near : front.length < 2 ^ 32)
include near

theorem byteFrom_append {i : Nat} (small : i < 2 ^ 32) : byteFrom (front ++ bytes) front.length i = byteAt bytes i :=
  byteFrom_held bytes (held_of_near near) small

theorem sliceFrom_append {i j : Nat} (small : j < 2 ^ 32) (order : i ≤ j) :
    sliceFrom (front ++ bytes) front.length i j = slice bytes i j :=
  sliceFrom_held bytes (held_of_near near) small order

theorem copyFrom_append {i j : Nat} (small : j < 2 ^ 32) {field : Bytes} (inside : j ≤ bytes.length)
    (fits : i + field.length = j) :
    copyFrom (front ++ bytes) front.length i j field = .ok (front ++ overwrite i field bytes) :=
  copyFrom_held bytes (held_of_near near) small inside fits

end

end

/-! ## In place -/

/-- A computation that reads a buffer and writes it in place. A fault ends it, and what was written before stays. -/
abbrev InPlace (α : Type) := ExceptT Fault (StateM Bytes) α

namespace InPlace

/-- Computes something from the buffer, and writes nothing. -/
def look (f : Bytes → Checked α) : InPlace α := do MonadExcept.ofExcept (f (← get))

/-- Faults if the buffer is not such that the computation may go on. -/
def demand (p : Bytes → Prop) [DecidablePred p] (fault : Fault) : InPlace Unit :=
  look fun data => if p data then .ok () else .error fault

/-- Copies a field over the bytes from one position up to another. Both the positions and the length of the field are
tested first, and then all of it is written. -/
def copy (first last : Nat) (field : Bytes) : InPlace Unit := do
  demand (fun data => first ≤ last ∧ last ≤ data.length) .range
  demand (fun _ => field.length = last - first) .unequal
  modify (overwrite first field)

/-- Copies a field into a gap behind a position. -/
def copyAt (start i j : Nat) (field : Bytes) : InPlace Unit := do
  let first ← look fun _ => add start i
  let last ← look fun _ => add start j
  copy first last field

def truncate (length : Nat) : InPlace Unit := modify (·.take length)

def append (more : Bytes) : InPlace Unit := do
  demand (fun data => data.length + more.length < bufferEnd) .overflow
  modify (· ++ more)

/-- The computation does to the buffer what the function says, all or nothing. -/
def Does (step : InPlace Unit) (f : Bytes → Checked Bytes) (data : Bytes) : Prop :=
  step.run.run data =
    match f data with
    | .ok after => (.ok (), after)
    | .error fault => (.error fault, data)

section
variable {step : InPlace Unit} {f : Bytes → Checked Bytes} {data : Bytes}

theorem Does.run_of_ok (does : Does step f data) {after : Bytes} (done : f data = .ok after) :
    step.run.run data = (.ok (), after) := by
  rw [does, done]

theorem Does.run_of_error (does : Does step f data) {fault : Fault} (failed : f data = .error fault) :
    step.run.run data = (.error fault, data) := by
  rw [does, failed]

theorem Does.left (does : Does step f data) : (step.run.run data).2 = (f data).toOption.getD data := by
  rw [does]
  cases f data <;> rfl

theorem look_bind_of_ok {g : Bytes → Checked α} {a : α} (found : g data = .ok a) (next : α → InPlace β) :
    (look g >>= next).run.run data = (next a).run.run data := by
  have start : (look g >>= next).run.run data =
      (MonadExcept.ofExcept (g data) >>= next : InPlace β).run.run data := rfl
  rw [start, found]
  rfl

theorem look_bind_of_error {g : Bytes → Checked α} {fault : Fault} (missed : g data = .error fault)
    (next : α → InPlace β) : (look g >>= next).run.run data = (.error fault, data) := by
  have start : (look g >>= next).run.run data =
      (MonadExcept.ofExcept (g data) >>= next : InPlace β).run.run data := rfl
  rw [start, missed]
  rfl

/-- What looks first does what it does then, or faults before it has written anything. -/
theorem does_look_bind {g : Bytes → Checked α} {next : α → InPlace Unit} {h : α → Bytes → Checked Bytes}
    (each : ∀ a, g data = .ok a → Does (next a) (h a) data) :
    Does (look g >>= next) (fun data => do h (← g data) data) data := by
  rw [Does]
  cases found : g data with
  | error fault => exact look_bind_of_error found next
  | ok a => exact (look_bind_of_ok found next).trans (each a found)

theorem does_demand_bind {p : Bytes → Prop} [DecidablePred p] {fault : Fault} {next : Unit → InPlace Unit}
    {h : Bytes → Checked Bytes} (rest : Does (next ()) h data) :
    Does (demand p fault >>= next) (fun data => if p data then h data else .error fault) data := by
  rw [Does]
  by_cases holds : p data
  · rw [demand, look_bind_of_ok (if_pos holds), if_pos holds]
    exact rest
  · rw [demand, look_bind_of_error (if_neg holds), if_neg holds]

theorem does_copy (first last : Nat) (field : Bytes) :
    Does (copy first last field) (fun data => copyInto data first last field) data :=
  does_demand_bind (does_demand_bind rfl)

theorem does_append (more : Bytes) : Does (append more) (fun data => extend data more) data :=
  does_demand_bind rfl

theorem does_copyAt (start i j : Nat) (field : Bytes) :
    Does (copyAt start i j field) (fun data => copyFrom data start i j field) data :=
  does_look_bind fun _ _ => does_look_bind fun _ _ => does_copy _ _ field

end

end InPlace

end Checked

end SoftRouter
