import SoftRouter.Proofs.Dotted
import SoftRouter.Proofs.RouteLines
import SoftRouter.Proofs.Spacing

/-!
# The text of a route file

What a route file is written like, apart from how it is read: lines that are blank, comments or routes (`Says`). The
texts that are read are those that are written like this, and they give the routes that they were written from; of any
other text the first line that is nothing of this is named with its number (`reads_what_is_written`).
-/

namespace SoftRouter

/-- A route of a route file. Its interface has a name, without white space. -/
structure StaticRoute where
  destination : Ipv4Addr
  gateway : Ipv4Addr
  mask : Ipv4Addr
  interface : String
  named : Blank.Word interface.toList

namespace StaticRoute

/-- The fields of the line that writes the route. -/
def words (r : StaticRoute) : List (List Char) :=
  [r.destination.text.toList, r.gateway.text.toList, r.mask.text.toList, r.interface.toList]

/-- The route in a table: to the network that the mask selects, of metric 0 and for ever. -/
def entry (r : StaticRoute) : RouteEntry := ⟨r.destination.masked r.mask, r.mask, r.gateway, r.interface, 0, none⟩

end StaticRoute

namespace RouteFile

open Blank (Gap Spaced Lined)

/-- A line is blank, or a comment behind white space, or writes a route with white space between the fields. -/
inductive Says : List Char → Option StaticRoute → Prop where
  | blank {line : List Char} (blank : Gap line) : Says line none
  | comment {gap : List Char} (blank : Gap gap) (text : List Char) : Says (gap ++ '#' :: text) none
  | route {line : List Char} {r : StaticRoute} (spaced : Spaced line r.words) : Says line (some r)

/-- The lines write these routes in this order. -/
inductive Write : List (List Char) → List StaticRoute → Prop where
  | nil : Write [] []
  | cons {line : List Char} {said : Option StaticRoute} {lines : List (List Char)} {routes : List StaticRoute}
      (spoken : Says line said) (rest : Write lines routes) : Write (line :: lines) (said.toList ++ routes)

/-- The line is not blank, no comment, and no route of four fields with three addresses. -/
def Malformed (line : List Char) : Prop := ∀ said, ¬ Says line said

/-- The first line that is malformed, with its number counted from 1. -/
def FirstMalformed (lines : List (List Char)) (number : Nat) (line : List Char) : Prop :=
  ∃ before after, lines = before ++ line :: after ∧ number = before.length + 1 ∧ Malformed line ∧
    ∀ earlier ∈ before, ¬ Malformed earlier

section
variable {line : List Char}

theorem says_none_iff : Says line none ↔ Silent line := by
  have solid : ¬ Blank.isBlank '#' := by decide
  constructor
  · intro spoken
    cases spoken with
    | blank blank => exact .inl (Blank.fields_of_spaced (.blank blank))
    | comment blank text =>
      obtain ⟨word, words, fields⟩ := Blank.exists_fields_cons solid text
      exact .inr ⟨word, words, by rw [Blank.fields_of_gap blank, fields]⟩
  · rintro (blank | ⟨word, words, comment⟩)
    · exact .blank (Blank.gap_of_spaced (Blank.fields_eq_iff.1 blank))
    · cases Blank.fields_eq_iff.1 comment with
      | word blank _ _ _ => exact .comment blank _

theorem says_some_iff {r : StaticRoute} : Says line (some r) ↔ Blank.fields line = r.words := by
  rw [Blank.fields_eq_iff]
  exact ⟨fun (.route spaced) => spaced, .route⟩

theorem gives_iff {e : RouteEntry} : Gives line e ↔ ∃ r, Says line (some r) ∧ e = r.entry := by
  constructor
  · rintro (@⟨destination, gateway, mask, interface, network, next, selector, fields, first, second, third⟩)
    have written {cs : List Char} {ip : Ipv4Addr} (read : Ipv4Addr.parse? (String.ofList cs) = some ip) :
        cs = ip.text.toList := by
      rw [← Ipv4Addr.parse?_eq_some_iff.1 read, String.toList_ofList]
    have named : Blank.Word (String.ofList interface).toList := by
      rw [String.toList_ofList]
      exact Blank.word_of_spaced (Blank.fields_eq_iff.1 fields) interface (by simp)
    refine ⟨⟨network, next, selector, String.ofList interface, named⟩, says_some_iff.2 ?_, rfl⟩
    rw [fields, StaticRoute.words, ← written first, ← written second, ← written third, String.toList_ofList]
  · rintro ⟨r, spoken, rfl⟩
    rw [says_some_iff, StaticRoute.words] at spoken
    have entry : r.entry =
        ⟨r.destination.masked r.mask, r.mask, r.gateway, String.ofList r.interface.toList, 0, none⟩ := by
      rw [String.ofList_toList]
      rfl
    have address (ip : Ipv4Addr) : Ipv4Addr.parse? (String.ofList ip.text.toList) = some ip := by
      rw [String.ofList_toList, Ipv4Addr.parse?_text]
    rw [entry]
    exact .route spoken (address _) (address _) (address _)

theorem malformed_iff : Malformed line ↔ ∃ cause, Faulty line cause := by
  constructor
  · intro malformed
    rcases line_cases line with silent | ⟨e, gives⟩ | faulty
    · exact absurd (says_none_iff.2 silent) (malformed none)
    · obtain ⟨r, spoken, -⟩ := gives_iff.1 gives
      exact absurd spoken (malformed (some r))
    · exact faulty
  · rintro ⟨cause, faulty⟩ (_ | r) spoken
    · exact loud_of_faulty faulty (says_none_iff.1 spoken)
    · -- its fields would be a route and a fault
      cases (parseFields_of_gives (gives_iff.2 ⟨r, spoken, rfl⟩)).symm.trans (parseFields_of_faulty faulty)

end

section
variable {line text : List Char} {lines : List (List Char)} {number : Nat}

theorem lists_iff {entries : List RouteEntry} :
    Lists lines entries ↔ ∃ routes, Write lines routes ∧ entries = routes.map StaticRoute.entry := by
  constructor
  · intro lists
    induction lists with
    | nil => exact ⟨[], .nil, rfl⟩
    | silent silent _ ih =>
      obtain ⟨routes, write, rfl⟩ := ih
      exact ⟨routes, .cons (says_none_iff.2 silent) write, rfl⟩
    | route gives _ ih =>
      obtain ⟨routes, write, rfl⟩ := ih
      obtain ⟨r, spoken, rfl⟩ := gives_iff.1 gives
      exact ⟨r :: routes, .cons spoken write, rfl⟩
  · rintro ⟨routes, write, rfl⟩
    induction write with
    | nil => exact .nil
    | @cons line said lines routes spoken _ ih =>
      match said with
      | none => exact .silent (says_none_iff.1 spoken) ih
      | some r => exact .route (gives_iff.2 ⟨r, spoken, rfl⟩) ih

/-- Lines write routes exactly when none of them is malformed. -/
theorem exists_write_iff : (∃ routes, Write lines routes) ↔ ∀ line ∈ lines, ¬ Malformed line := by
  constructor
  · rintro ⟨routes, write⟩
    induction write with
    | nil => exact List.forall_mem_nil _
    | cons spoken _ ih => exact List.forall_mem_cons.2 ⟨fun malformed => malformed _ spoken, ih⟩
  · intro sound
    induction lines with
    | nil => exact ⟨[], .nil⟩
    | cons line lines ih =>
      obtain ⟨first, others⟩ := List.forall_mem_cons.1 sound
      obtain ⟨routes, write⟩ := ih others
      obtain ⟨said, spoken⟩ := Classical.not_forall_not.1 first
      exact ⟨said.toList ++ routes, .cons spoken write⟩

theorem content?_congr {line line' : List Char} (same : Blank.fields line = Blank.fields line') :
    content? line = content? line' := by
  rw [content?, content?, same]

theorem parseLines_congr {lines lines' : List (List Char)} (same : lines.map Blank.fields = lines'.map Blank.fields) :
    parseLines number lines = parseLines number lines' := by
  induction lines generalizing number lines' with
  | nil =>
    rw [List.map_nil, eq_comm, List.map_eq_nil_iff] at same
    rw [same]
  | cons line lines ih =>
    match lines' with
    | [] => cases same
    | line' :: lines' =>
      rw [List.map_cons, List.map_cons, List.cons_eq_cons] at same
      rw [parseLines, parseLines, content?_congr same.1]
      simp only [ih same.2]

/-- However a text is cut into lines, it is read as these lines. -/
theorem parse_of_lined {text : String} (lined : Lined text.toList lines) : parse text = parseLines 1 lines :=
  parseLines_congr (Blank.map_fields_splitOn lined)

end

/-- The text writes these routes, one a line, with blank lines and comments between them. -/
def Writes (text : String) (routes : List StaticRoute) : Prop := ∃ lines, Lined text.toList lines ∧ Write lines routes

section
variable {path text : String} {lines : List (List Char)}

theorem parseRoutes_ok_of_lined (lined : Lined text.toList lines) {entries : List RouteEntry} :
    parseRoutes path text = .ok entries ↔ ∃ routes, Write lines routes ∧ entries = routes.map StaticRoute.entry := by
  rw [parseRoutes, mapError_eq_ok_iff, parse_of_lined lined, parseLines_eq_ok_iff, lists_iff]

theorem parseRoutes_error_of_lined (lined : Lined text.toList lines) {e : StartupError} :
    parseRoutes path text = .error e ↔ ∃ number line cause, FirstMalformed lines number line ∧ Faulty line cause ∧
      e = .malformedRoute path number cause := by
  rw [parseRoutes, mapError_eq_error_iff, parse_of_lined lined]
  simp only [parseLines_eq_error_iff]
  constructor
  · rintro ⟨_, ⟨before, line, after, entries, cause, rfl, lists, faulty, rfl⟩, rfl⟩
    obtain ⟨routes, write, -⟩ := lists_iff.1 lists
    have first : FirstMalformed (before ++ line :: after) (1 + before.length) line :=
      ⟨before, after, rfl, Nat.add_comm 1 _, malformed_iff.2 ⟨cause, faulty⟩, exists_write_iff.1 ⟨routes, write⟩⟩
    exact ⟨_, line, cause, first, faulty, rfl⟩
  · rintro ⟨_, line, cause, ⟨before, after, rfl, rfl, -, sound⟩, faulty, rfl⟩
    obtain ⟨routes, write⟩ := exists_write_iff.2 sound
    have lists : Lists before (routes.map StaticRoute.entry) := lists_iff.2 ⟨routes, write, rfl⟩
    exact ⟨_, ⟨before, line, after, _, cause, rfl, lists, faulty, rfl⟩, by rw [Nat.add_comm 1]⟩

theorem parseRoutes_ok_iff_writes {entries : List RouteEntry} : parseRoutes path text = .ok entries ↔
    ∃ routes, Writes text routes ∧ entries = routes.map StaticRoute.entry := by
  constructor
  · intro read
    have lined := Blank.lined_splitOn text.toList
    obtain ⟨routes, write, same⟩ := (parseRoutes_ok_of_lined lined).1 read
    exact ⟨routes, ⟨_, lined, write⟩, same⟩
  · rintro ⟨routes, ⟨lines, lined, write⟩, same⟩
    exact (parseRoutes_ok_of_lined lined).2 ⟨routes, write, same⟩

theorem parseRoutes_error_iff_first {e : StartupError} : parseRoutes path text = .error e ↔
    ∃ lines number line cause, Lined text.toList lines ∧ FirstMalformed lines number line ∧ Faulty line cause ∧
      e = .malformedRoute path number cause := by
  constructor
  · intro read
    have lined := Blank.lined_splitOn text.toList
    obtain ⟨number, line, cause, first, faulty, same⟩ := (parseRoutes_error_of_lined lined).1 read
    exact ⟨_, number, line, cause, lined, first, faulty, same⟩
  · rintro ⟨lines, number, line, cause, lined, first, faulty, same⟩
    exact (parseRoutes_error_of_lined lined).2 ⟨number, line, cause, first, faulty, same⟩

end

/-- A text is read exactly if it writes routes, and gives these in their order. If a line of a text is malformed, the
first such line comes back with its number and with what is wrong in it. -/
theorem reads_what_is_written (path text : String) :
    (∀ entries, parseRoutes path text = .ok entries ↔
      ∃ routes, Writes text routes ∧ entries = routes.map StaticRoute.entry) ∧
    ∀ lines, Lined text.toList lines → (∃ line ∈ lines, Malformed line) →
      ∃ number line cause, FirstMalformed lines number line ∧ Faulty line cause ∧
        parseRoutes path text = .error (.malformedRoute path number cause) := by
  refine ⟨fun entries => parseRoutes_ok_iff_writes, ?_⟩
  rintro lines lined ⟨bad, mem, malformed⟩
  cases read : parseRoutes path text with
  | ok entries =>
    obtain ⟨routes, write, -⟩ := (parseRoutes_ok_of_lined lined).1 read
    exact absurd malformed (exists_write_iff.1 ⟨routes, write⟩ bad mem)
  | error e =>
    obtain ⟨number, line, cause, first, faulty, rfl⟩ := (parseRoutes_error_of_lined lined).1 read
    exact ⟨number, line, cause, first, faulty, rfl⟩

theorem malformed_second : ∃ number line cause,
    FirstMalformed ["10.0.0.0 0.0.0.0 255.0.0.0 eth0".toList, "eth1".toList, []] number line ∧ Faulty line cause ∧
      parseRoutes "routes" "10.0.0.0 0.0.0.0 255.0.0.0 eth0\r\neth1\n" =
        .error (.malformedRoute "routes" number cause) := by
  have last : Lined ("eth1".toList ++ (['\n'] ++ [])) ["eth1".toList, []] := .line (by decide) .lf (.last nofun)
  have lined := @Lined.line "10.0.0.0 0.0.0.0 255.0.0.0 eth0".toList _ _ _ (by decide) .crlf last
  have single : Blank.fields "eth1".toList = ["eth1".toList] := by decide
  have loud : ¬ Silent "eth1".toList := by
    rintro (blank | ⟨word, words, comment⟩)
    · cases single.symm.trans blank
    · cases single.symm.trans comment
  have malformed : Malformed "eth1".toList := malformed_iff.2 ⟨_, .count loud (by rw [single]; decide)⟩
  exact (reads_what_is_written _ _).2 _ lined ⟨_, List.mem_cons_of_mem _ List.mem_cons_self, malformed⟩

end RouteFile

end SoftRouter
