import SoftRouter.Proofs.RouteText

/-!
# Loading a route file in place

A route file is loaded into a table that is there already. It is loaded as a whole or not at all: the table is
replaced after every line was read, by the routes of a file that has some, and nothing else changes it
(`loads_all_or_nothing`).
-/

namespace SoftRouter

/-- A text as the bytes of a file. -/
def utf8 (text : String) : Bytes := text.toUTF8.data.toList

theorem fromUTF8?_eq_some_iff {bytes : Bytes} {text : String} :
    String.fromUTF8? ⟨bytes.toArray⟩ = some text ↔ bytes = utf8 text := by
  constructor
  · intro read
    unfold String.fromUTF8? at read
    split at read
    · cases read
      rfl
    · cases read
  · rintro rfl
    have same : (⟨(utf8 text).toArray⟩ : ByteArray) = text.toUTF8 := by rw [utf8, Array.toArray_toList]
    rw [same]
    exact dif_pos text.isValidUTF8

namespace FileContent

variable {content : FileContent}

theorem text_eq_ok_iff {text : String} : content.text = .ok text ↔ content = .ok (utf8 text) := by
  match content with
  | .error cause => exact iff_of_false nofun nofun
  | .ok bytes =>
    rw [Except.ok.injEq, ← fromUTF8?_eq_some_iff]
    dsimp only [FileContent.text, bind, Except.bind]
    cases String.fromUTF8? ⟨bytes.toArray⟩ with
    | none => exact iff_of_false nofun nofun
    | some read => exact ⟨by rintro ⟨⟩; rfl, by rintro ⟨⟩; rfl⟩

theorem text_eq_error_iff {cause : FileError} : content.text = .error cause ↔
    content = .error cause ∨ ∃ bytes, content = .ok bytes ∧ (∀ text, bytes ≠ utf8 text) ∧ cause = .notUtf8 := by
  constructor
  · intro unread
    match content with
    | .error cause =>
      cases unread
      exact .inl rfl
    | .ok bytes =>
      have binary : ∀ text, bytes ≠ utf8 text := by
        rintro text rfl
        cases (text_eq_ok_iff.2 rfl).symm.trans unread
      dsimp only [FileContent.text, bind, Except.bind] at unread
      split at unread
      · cases unread
      · cases unread
        exact .inr ⟨bytes, rfl, binary, rfl⟩
  · rintro (rfl | ⟨bytes, rfl, binary, rfl⟩)
    · rfl
    · cases read : String.fromUTF8? ⟨bytes.toArray⟩ with
      | none =>
        dsimp only [FileContent.text, bind, Except.bind]
        rw [read]
        rfl
      | some text => exact absurd (fromUTF8?_eq_some_iff.1 read) (binary text)

end FileContent

namespace RouteTable

/-- What loading leads to: an error and the table as it was, or the number of routes in the file and these routes in
the place of all others. A file without routes leaves the table as it was. -/
inductive Loads (t : RouteTable) (path : String) (content : FileContent) :
    Except StartupError Nat → RouteTable → Prop where
  | unreadable {cause : FileError} (unread : content = .error cause) :
      Loads t path content (.error (.routeFile path cause)) t
  | binary {bytes : Bytes} (read : content = .ok bytes) (binary : ∀ text, bytes ≠ utf8 text) :
      Loads t path content (.error (.routeFile path .notUtf8)) t
  | malformed {text : String} {lines : List (List Char)} {number : Nat} {line : List Char} {cause : RouteLineError}
      (read : content = .ok (utf8 text)) (lined : Blank.Lined text.toList lines)
      (first : RouteFile.FirstMalformed lines number line) (faulty : RouteFile.Faulty line cause) :
      Loads t path content (.error (.malformedRoute path number cause)) t
  | nothing {text : String} (read : content = .ok (utf8 text)) (silent : RouteFile.Writes text []) :
      Loads t path content (.ok 0) t
  | replaced {text : String} {routes : List StaticRoute} (read : content = .ok (utf8 text))
      (writes : RouteFile.Writes text routes) (nonempty : routes ≠ []) :
      Loads t path content (.ok routes.length) ⟨routes.map StaticRoute.entry⟩

section
variable {t after : RouteTable} {path : String} {content : FileContent} {result : Except StartupError Nat}

/-- A step that fails ends the loading with the state as it is. -/
theorem run_ofExcept_bind {ε α β : Type} {x : Except ε α} {f : α → ExceptT ε (StateM RouteTable) β} :
    (MonadExcept.ofExcept x >>= f).run.run t =
      match x with
      | .error e => (.error e, t)
      | .ok a => (f a).run.run t := by
  cases x <;> rfl

/-- Loading in place comes to what `load` gives; on an error the table is still the old one. -/
theorem run_loadInPlace : (loadInPlace path content).run.run t =
    match t.load path content with
    | .ok (loaded, count) => (.ok count, loaded)
    | .error e => (.error e, t) := by
  rw [loadInPlace, load, run_ofExcept_bind]
  cases content.text with
  | error cause => rfl
  | ok text =>
    dsimp only [Except.mapError]
    rw [run_ofExcept_bind]
    dsimp only [bind, Except.bind]
    cases parseRoutes path text with
    | error e => rfl
    | ok routes => cases routes <;> rfl

theorem run_eq_ok_iff {count : Nat} :
    (loadInPlace path content).run.run t = (.ok count, after) ↔ t.load path content = .ok (after, count) := by
  rw [run_loadInPlace]
  cases t.load path content with
  | error e => exact iff_of_false nofun nofun
  | ok loaded => exact ⟨by rintro ⟨⟩; rfl, by rintro ⟨⟩; rfl⟩

theorem run_eq_error_iff {e : StartupError} :
    (loadInPlace path content).run.run t = (.error e, after) ↔ t.load path content = .error e ∧ after = t := by
  rw [run_loadInPlace]
  cases t.load path content with
  | error e => exact ⟨by rintro ⟨⟩; exact ⟨rfl, rfl⟩, by rintro ⟨⟨⟩, rfl⟩; rfl⟩
  | ok loaded => exact iff_of_false nofun (by rintro ⟨⟨⟩, -⟩)

theorem loads_ok_iff {count : Nat} :
    t.load path content = .ok (after, count) ↔ Loads t path content (.ok count) after := by
  simp only [load, bind_eq_ok_iff, mapError_eq_ok_iff, FileContent.text_eq_ok_iff,
    RouteFile.parseRoutes_ok_iff_writes]
  constructor
  · rintro ⟨text, read, _, ⟨routes, writes, rfl⟩, ⟨⟩⟩
    cases routes with
    | nil => exact .nothing read writes
    | cons r rest =>
      rw [List.length_map]
      exact .replaced read writes (List.cons_ne_nil r rest)
  · rintro (_ | _ | _ | ⟨read, silent⟩ | @⟨text, routes, read, writes, nonempty⟩)
    · exact ⟨_, read, _, ⟨[], silent, rfl⟩, rfl⟩
    · refine ⟨_, read, _, ⟨routes, writes, rfl⟩, ?_⟩
      have some : (routes.map StaticRoute.entry).isEmpty = false := by
        rwa [List.isEmpty_eq_false_iff, ne_eq, List.map_eq_nil_iff]
      rw [some, List.length_map]
      rfl

theorem loads_error_iff {e : StartupError} :
    t.load path content = .error e ∧ after = t ↔ Loads t path content (.error e) after := by
  simp only [load, bind_eq_error_iff, mapError_eq_error_iff, mapError_eq_ok_iff, FileContent.text_eq_ok_iff,
    FileContent.text_eq_error_iff, RouteFile.parseRoutes_error_iff_first]
  constructor
  · rintro ⟨⟨cause, unread | ⟨bytes, read, binary, rfl⟩, rfl⟩ |
      ⟨text, read, ⟨lines, number, line, cause, lined, first, faulty, rfl⟩ | ⟨_, _, ⟨⟩⟩⟩, rfl⟩
    · exact .unreadable unread
    · exact .binary read binary
    · exact .malformed read lined first faulty
  · rintro (unread | ⟨read, binary⟩ | ⟨read, lined, first, faulty⟩)
    · exact ⟨.inl ⟨_, .inl unread, rfl⟩, rfl⟩
    · exact ⟨.inl ⟨_, .inr ⟨_, read, binary, rfl⟩, rfl⟩, rfl⟩
    · exact ⟨.inr ⟨_, read, .inl ⟨_, _, _, _, lined, first, faulty, rfl⟩⟩, rfl⟩

end

/-- A route file is loaded as a whole, or not at all. -/
theorem loads_all_or_nothing (t : RouteTable) (path : String) (content : FileContent)
    (result : Except StartupError Nat) (after : RouteTable) :
    (loadInPlace path content).run.run t = (result, after) ↔ Loads t path content result after := by
  cases result with
  | ok count => rw [run_eq_ok_iff, loads_ok_iff]
  | error e => rw [run_eq_error_iff, loads_error_iff]

end RouteTable

end SoftRouter
