/-!
# Collections in key order

A collection holds at most one value for each key and lists its values in ascending order of their
keys, so a value is found under its key exactly when it is there (`find?_eq_some_iff`). What an
operation does shows in `find?`: `find?_put`, `find?_erase_self` and `find?_erase_ne` say it for
every key.
-/

namespace SoftRouter

/-- Values in strictly ascending order of their keys. -/
structure Keyed {κ α : Type} [LT κ] (key : α → κ) where
  toList : List α
  ascending : toList.Pairwise (fun a b => key a < key b)

namespace Keyed

variable {κ α : Type} [LT κ] {key : α → κ}

/-- The collection without values. -/
def empty : Keyed key := ⟨[], .nil⟩

instance : Inhabited (Keyed key) := ⟨empty⟩

/-- The number of values. -/
def size (m : Keyed key) : Nat := m.toList.length

/-- The values that satisfy a test. -/
def filter (m : Keyed key) (p : α → Bool) : Keyed key := ⟨m.toList.filter p, m.ascending.filter p⟩

/-- The collection with every value changed by a function that keeps keys. -/
def map (m : Keyed key) (f : α → α) (keeps : ∀ a, key (f a) = key a) : Keyed key where
  toList := m.toList.map f
  ascending := by
    rw [List.pairwise_map]
    simpa only [keeps] using m.ascending

section
variable [DecidableEq κ]

/-- The value with a key. -/
def find? (m : Keyed key) (k : κ) : Option α := m.toList.find? fun a => key a = k

/-- The collection without the value of a key. -/
def erase (m : Keyed key) (k : κ) : Keyed key := m.filter fun a => key a ≠ k

@[simp] theorem find?_empty (k : κ) : (empty : Keyed key).find? k = none := rfl

theorem key_of_find? {m : Keyed key} {k : κ} {a : α} (h : m.find? k = some a) : key a = k := by
  simpa using List.find?_some h

theorem mem_of_find? {m : Keyed key} {k : κ} {a : α} (h : m.find? k = some a) : a ∈ m.toList :=
  List.mem_of_find?_eq_some h

theorem countP_erase_le (m : Keyed key) (k : κ) {p : α → Bool} :
    (m.erase k).toList.countP p ≤ m.toList.countP p :=
  List.Sublist.countP_le List.filter_sublist

/-- Erasing a value that passes a test leaves fewer that do. -/
theorem countP_erase_lt {m : Keyed key} {k : κ} {a : α} {p : α → Bool} (h : m.find? k = some a) (pa : p a) :
    (m.erase k).toList.countP p < m.toList.countP p := by
  have mem := mem_of_find? h
  have eq := key_of_find? h
  show (m.toList.filter fun a => key a ≠ k).countP p < m.toList.countP p
  generalize m.toList = l at mem ⊢
  induction l with
  | nil => cases mem
  | cons b rest ih =>
    have le : (rest.filter fun a => key a ≠ k).countP p ≤ rest.countP p := List.filter_sublist.countP_le
    rcases List.mem_cons.1 mem with rfl | mem
    · simp only [ne_eq, decide_not, List.filter_cons, eq, decide_true, Bool.not_true, List.countP_cons, pa] at le ⊢
      simp only [Bool.false_eq_true, ↓reduceIte]
      omega
    · have := ih mem
      by_cases hb : key b = k
      · simp only [ne_eq, decide_not, List.filter_cons, hb, decide_true, Bool.not_true, List.countP_cons] at this ⊢
        simp only [Bool.false_eq_true, ↓reduceIte]
        omega
      · simp only [ne_eq, decide_not, List.filter_cons, hb, decide_false, Bool.not_false, List.countP_cons] at this ⊢
        simp only [↓reduceIte, List.countP_cons]
        omega

@[simp] theorem find?_erase_self (m : Keyed key) (k : κ) : (m.erase k).find? k = none := by
  simp [find?, erase, filter]

theorem find?_erase_ne (m : Keyed key) {k l : κ} (h : l ≠ k) : (m.erase k).find? l = m.find? l := by
  unfold find? erase filter
  rw [List.find?_filter]
  congr 1
  funext a
  by_cases hl : key a = l <;> simp_all

/-- Changing the values changes what is found. -/
theorem find?_map (m : Keyed key) (f : α → α) (keeps : ∀ a, key (f a) = key a) (k : κ) :
    (m.map f keeps).find? k = (m.find? k).map f := by
  unfold find? map
  rw [List.find?_map]
  congr 2
  funext a
  simp [keeps]

end

/-! ## Putting values in -/

section
variable [DecidableEq κ] [DecidableLT κ]

/-- Puts a value at its place in an ascending list, in the place of the value with the same key. -/
def place (key : α → κ) (a : α) : List α → List α
  | [] => [a]
  | b :: rest =>
    if key a < key b then a :: b :: rest
    else if key a = key b then a :: rest
    else b :: place key a rest

theorem mem_place {a x : α} {l : List α} (h : x ∈ place key a l) : x = a ∨ x ∈ l := by
  induction l with
  | nil => simpa [place] using h
  | cons b rest ih =>
    unfold place at h
    split at h
    · simpa using h
    · split at h
      · rcases List.mem_cons.1 h with h | h
        · exact .inl h
        · exact .inr (List.mem_cons_of_mem b h)
      · rcases List.mem_cons.1 h with h | h
        · exact .inr (h ▸ List.mem_cons_self)
        · exact (ih h).imp_right (List.mem_cons_of_mem b)

/-- A value with a new key is added to those that are there. -/
theorem perm_place {a : α} {l : List α} (new : ∀ b ∈ l, key b ≠ key a) : (place key a l).Perm (a :: l) := by
  induction l with
  | nil => exact .refl [a]
  | cons b rest ih =>
    unfold place
    split
    · exact .refl _
    · split
      next eq => exact absurd eq.symm (new b List.mem_cons_self)
      next => exact ((ih fun x hx => new x (List.mem_cons_of_mem b hx)).cons b).trans (.swap a b rest)

theorem countP_place_le (a : α) {p : α → Bool} (pa : p a = false) (l : List α) :
    (place key a l).countP p ≤ l.countP p := by
  induction l with
  | nil => simp [place, pa]
  | cons b rest ih =>
    unfold place
    split
    · simp [List.countP_cons, pa]
    · split
      · simp [List.countP_cons, pa]
      · simp only [List.countP_cons]
        omega

variable [LE κ] [Std.IsLinearOrder κ] [Std.LawfulOrderLT κ]

theorem pairwise_place (a : α) {l : List α} (h : l.Pairwise (fun a b => key a < key b)) :
    (place key a l).Pairwise (fun a b => key a < key b) := by
  induction l with
  | nil => simp [place]
  | cons b rest ih =>
    obtain ⟨first, later⟩ := List.pairwise_cons.1 h
    unfold place
    split
    next lt =>
      refine List.pairwise_cons.2 ⟨fun x hx => ?_, h⟩
      rcases List.mem_cons.1 hx with rfl | hx
      · exact lt
      · exact Std.lt_trans lt (first x hx)
    next ge =>
      split
      next eq => exact List.pairwise_cons.2 ⟨fun x hx => eq ▸ first x hx, later⟩
      next ne =>
        refine List.pairwise_cons.2 ⟨fun x hx => ?_, ih later⟩
        rcases mem_place hx with rfl | hx
        · rcases Std.lt_trichotomy (key x) (key b) with lt | eq | gt
          · exact absurd lt ge
          · exact absurd eq ne
          · exact gt
        · exact first x hx

omit [DecidableLT κ] [Std.IsLinearOrder κ] in
theorem find?_eq_some_of_mem {m : Keyed key} {a : α} (h : a ∈ m.toList) : m.find? (key a) = some a := by
  obtain ⟨l, ascending⟩ := m
  unfold find?
  dsimp only at h ⊢
  induction l with
  | nil => cases h
  | cons b rest ih =>
    obtain ⟨first, later⟩ := List.pairwise_cons.1 ascending
    rcases List.mem_cons.1 h with rfl | h
    · simp
    · have ne : key b ≠ key a := fun e => Std.lt_irrefl (e ▸ first a h)
      simpa [ne] using ih later h

omit [DecidableLT κ] [Std.IsLinearOrder κ] in
/-- A value is found under its key exactly when it is there. -/
theorem find?_eq_some_iff {m : Keyed key} {k : κ} {a : α} : m.find? k = some a ↔ a ∈ m.toList ∧ key a = k :=
  ⟨fun h => ⟨mem_of_find? h, key_of_find? h⟩, fun h => h.2 ▸ find?_eq_some_of_mem h.1⟩

omit [DecidableLT κ] [Std.IsLinearOrder κ] in
/-- The values with a key are the one found under it. -/
theorem filter_key (m : Keyed key) (k : κ) : (m.toList.filter fun a => key a = k) = (m.find? k).toList := by
  obtain ⟨l, ascending⟩ := m
  unfold find?
  dsimp only
  induction l with
  | nil => rfl
  | cons b rest ih =>
    obtain ⟨first, later⟩ := List.pairwise_cons.1 ascending
    by_cases same : key b = k
    · have none : (rest.filter fun a => key a = k) = [] := by
        refine List.filter_eq_nil_iff.2 ?_
        intro a mem eq
        exact Std.lt_irrefl (same.trans (of_decide_eq_true eq).symm ▸ first a mem)
      simp [same, none]
    · simpa [same] using ih later

omit [DecidableLT κ] [Std.IsLinearOrder κ] in
/-- A filtered collection has the value of a key if it passes the test. -/
theorem find?_filter (m : Keyed key) (p : α → Bool) (k : κ) : (m.filter p).find? k = (m.find? k).filter p := by
  refine Option.ext fun a => ?_
  rw [Option.filter_eq_some_iff, find?_eq_some_iff, find?_eq_some_iff, filter, List.mem_filter]
  exact ⟨fun h => ⟨⟨h.1.1, h.2⟩, h.1.2⟩, fun h => ⟨⟨h.1.1, h.2⟩, h.1.2⟩⟩

/-- The collection with a value put in, in the place of the value with the same key. -/
def put (m : Keyed key) (a : α) : Keyed key := ⟨place key a m.toList, pairwise_place a m.ascending⟩

/-- The collection of the values of a list; of two with the same key the later one stays. -/
def ofList (l : List α) : Keyed key := l.foldl put empty

omit [LE κ] [Std.IsLinearOrder κ] [Std.LawfulOrderLT κ] in
theorem find?_place (a : α) (l : List α) (k : κ) :
    (place key a l).find? (fun b => key b = k) =
      if key a = k then some a else l.find? fun b => key b = k := by
  induction l with
  | nil => by_cases hk : key a = k <;> simp [place, hk]
  | cons b rest ih =>
    unfold place
    by_cases hk : key a = k
    · split
      · simp [hk]
      · split
        · simp [hk]
        next ne =>
          have hb : key b ≠ k := fun e => ne (hk.trans e.symm)
          simp [hk, hb, ih]
    · split
      · simp [hk]
      · split
        next eq =>
          have hb : key b ≠ k := eq ▸ hk
          simp [hk, hb]
        next => by_cases hb : key b = k <;> simp [hk, hb, ih]

/-- A value put in is found under its key, and every other key finds what it found before. -/
theorem find?_put (m : Keyed key) (a : α) (k : κ) :
    (m.put a).find? k = if key a = k then some a else m.find? k :=
  find?_place a m.toList k

theorem perm_put {m : Keyed key} {a : α} (new : m.find? (key a) = none) : (m.put a).toList.Perm (a :: m.toList) :=
  perm_place fun b hb => by simpa using List.find?_eq_none.1 new b hb

theorem countP_put_le (m : Keyed key) (a : α) {p : α → Bool} (pa : p a = false) :
    (m.put a).toList.countP p ≤ m.toList.countP p :=
  countP_place_le a pa m.toList

end

end Keyed

end SoftRouter
