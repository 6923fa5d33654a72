/-!
# Results and failures

How a computation that can fail comes to its result, or to its failure: step by step, and along a list at the first
element that is not taken.
-/

namespace SoftRouter

section
variable {α β ε δ : Type} {x : Except ε α}

theorem toOption_eq_some_iff {a : α} : x.toOption = some a ↔ x = .ok a := by
  cases x <;> simp [Except.toOption]

theorem bind_eq_ok_iff {f : α → Except ε β} {b : β} : (x >>= f) = .ok b ↔ ∃ a, x = .ok a ∧ f a = .ok b := by
  cases x <;> simp [bind, Except.bind]

theorem bind_eq_error_iff {f : α → Except ε β} {e : ε} :
    (x >>= f) = .error e ↔ x = .error e ∨ ∃ a, x = .ok a ∧ f a = .error e := by
  cases x <;> simp [bind, Except.bind]

theorem mapError_eq_ok_iff {f : ε → δ} {a : α} : x.mapError f = .ok a ↔ x = .ok a := by
  cases x with
  | error _ => exact iff_of_false nofun nofun
  | ok _ => constructor <;> (rintro ⟨⟩; rfl)

theorem mapError_eq_error_iff {f : ε → δ} {e : δ} :
    x.mapError f = .error e ↔ ∃ fault, x = .error fault ∧ e = f fault := by
  cases x with
  | error fault => exact ⟨by rintro ⟨⟩; exact ⟨fault, rfl, rfl⟩, by rintro ⟨_, ⟨⟩, rfl⟩; rfl⟩
  | ok _ => exact iff_of_false nofun (by rintro ⟨_, ⟨⟩, _⟩)

end

/-- A fold over a list fails at the first element that the fold over those before it does not take. -/
theorem foldlM_eq_error_iff {α β ε : Type} {f : β → α → Except ε β} {l : List α} {b : β} {e : ε} :
    l.foldlM f b = .error e ↔
      ∃ before a after c, l = before ++ a :: after ∧ before.foldlM f b = .ok c ∧ f c a = .error e := by
  induction l generalizing b with
  | nil => exact iff_of_false nofun (by rintro ⟨before, _, _, _, split, _⟩; simp at split)
  | cons x rest ih =>
    simp only [List.foldlM_cons, bind_eq_error_iff, ih]
    constructor
    · rintro (here | ⟨c, taken, before, a, after, d, rfl, earlier, failed⟩)
      · exact ⟨[], x, rest, b, rfl, rfl, here⟩
      · exact ⟨x :: before, a, after, d, rfl, bind_eq_ok_iff.2 ⟨c, taken, earlier⟩, failed⟩
    · rintro ⟨before, a, after, d, split, earlier, failed⟩
      cases before with
      | nil =>
        cases split
        cases earlier
        exact .inl failed
      | cons y before =>
        cases split
        obtain ⟨c, taken, earlier⟩ := bind_eq_ok_iff.1 earlier
        exact .inr ⟨c, taken, before, a, after, d, rfl, earlier, failed⟩

end SoftRouter
