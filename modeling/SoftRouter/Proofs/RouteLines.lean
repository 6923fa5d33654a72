import SoftRouter.Proofs.Results
import SoftRouter.Startup

/-!
# The lines of a route file

A line says nothing, gives a route or is malformed (`line_cases`). A file is read exactly when no line of it is
malformed, and gives the routes of its lines in their order (`parseLines_eq_ok_iff`); else the first malformed line
comes back with its number (`parseLines_eq_error_iff`).
-/

namespace SoftRouter

namespace RouteFile

/-- The line is blank or a comment. -/
def Silent (line : List Char) : Prop :=
  Blank.fields line = [] ∨ ∃ word words, Blank.fields line = ('#' :: word) :: words

/-- The line has four fields, and the first three are addresses. -/
inductive Gives (line : List Char) : RouteEntry → Prop where
  | route {destination gateway mask interface : List Char} {network next selector : Ipv4Addr}
      (fields : Blank.fields line = [destination, gateway, mask, interface])
      (destination : Ipv4Addr.parse? (String.ofList destination) = some network)
      (gateway : Ipv4Addr.parse? (String.ofList gateway) = some next)
      (mask : Ipv4Addr.parse? (String.ofList mask) = some selector) :
      Gives line ⟨network.masked selector, selector, next, String.ofList interface, 0, none⟩

/-- The line says something, but has too many or too few fields or one that is no address, of which the first is
named. -/
inductive Faulty (line : List Char) : RouteLineError → Prop where
  | count (loud : ¬ Silent line) (other : (Blank.fields line).length ≠ 4) :
      Faulty line (.fieldCount (Blank.fields line).length)
  | destination {destination gateway mask interface : List Char} (loud : ¬ Silent line)
      (fields : Blank.fields line = [destination, gateway, mask, interface])
      (bad : Ipv4Addr.parse? (String.ofList destination) = none) :
      Faulty line (.address .destination destination)
  | gateway {destination gateway mask interface : List Char} {network : Ipv4Addr}
      (fields : Blank.fields line = [destination, gateway, mask, interface])
      (destination : Ipv4Addr.parse? (String.ofList destination) = some network)
      (bad : Ipv4Addr.parse? (String.ofList gateway) = none) :
      Faulty line (.address .gateway gateway)
  | mask {destination gateway mask interface : List Char} {network next : Ipv4Addr}
      (fields : Blank.fields line = [destination, gateway, mask, interface])
      (destination : Ipv4Addr.parse? (String.ofList destination) = some network)
      (gateway : Ipv4Addr.parse? (String.ofList gateway) = some next)
      (bad : Ipv4Addr.parse? (String.ofList mask) = none) :
      Faulty line (.address .mask mask)

section
variable {line text : List Char} {field : RouteField}

theorem parseAddress_eq (field : RouteField) (text : List Char) : parseAddress field text =
    match Ipv4Addr.parse? (String.ofList text) with
    | some ip => .ok ip
    | none => .error (.address field text) := by
  rw [parseAddress, Ipv4Addr.parse?, String.toList_ofList]
  rcases Ipv4Addr.read text with _ | ⟨ip, _ | ⟨c, rest⟩⟩ <;> rfl

theorem parseAddress_of_some {ip : Ipv4Addr} (read : Ipv4Addr.parse? (String.ofList text) = some ip) :
    parseAddress field text = .ok ip := by
  rw [parseAddress_eq, read]

theorem parseAddress_of_none (read : Ipv4Addr.parse? (String.ofList text) = none) :
    parseAddress field text = .error (.address field text) := by
  rw [parseAddress_eq, read]

theorem content?_of_silent (silent : Silent line) : content? line = none := by
  rcases silent with blank | ⟨word, words, comment⟩
  · rw [content?, blank]
  · rw [content?, comment]
    rfl

theorem content?_of_loud (loud : ¬ Silent line) : content? line = some (Blank.fields line) := by
  rw [content?]
  split
  · exact absurd (.inl ‹_›) loud
  · exact absurd (.inr ⟨_, _, ‹_›⟩) loud
  · rfl

/-- No address begins like a comment. -/
theorem loud_of_address {destination : List Char} {rest : List (List Char)} {network : Ipv4Addr}
    (fields : Blank.fields line = destination :: rest)
    (read : Ipv4Addr.parse? (String.ofList destination) = some network) : ¬ Silent line := by
  rintro (blank | ⟨word, words, comment⟩)
  · cases fields.symm.trans blank
  · cases fields.symm.trans comment
    rw [Ipv4Addr.parse?, String.toList_ofList] at read
    cases read

theorem loud_of_gives {route : RouteEntry} (gives : Gives line route) : ¬ Silent line := by
  cases gives with
  | route fields destination _ _ => exact loud_of_address fields destination

theorem loud_of_faulty {fault : RouteLineError} (faulty : Faulty line fault) : ¬ Silent line := by
  cases faulty with
  | count loud _ => exact loud
  | destination loud _ _ => exact loud
  | gateway fields destination _ => exact loud_of_address fields destination
  | mask fields destination _ _ => exact loud_of_address fields destination

theorem parseFields_of_gives {route : RouteEntry} (gives : Gives line route) :
    parseFields (Blank.fields line) = .ok route := by
  cases gives with
  | route fields destination gateway mask =>
    rw [fields, parseFields, parseAddress_of_some destination, parseAddress_of_some gateway,
      parseAddress_of_some mask]
    rfl

theorem parseFields_of_faulty {fault : RouteLineError} (faulty : Faulty line fault) :
    parseFields (Blank.fields line) = .error fault := by
  cases faulty with
  | count _ other =>
    unfold parseFields
    split
    · rename_i four
      exact absurd (congrArg List.length four) other
    · rfl
  | destination _ fields bad =>
    rw [fields, parseFields, parseAddress_of_none bad]
    rfl
  | gateway fields destination bad =>
    rw [fields, parseFields, parseAddress_of_some destination, parseAddress_of_none bad]
    rfl
  | mask fields destination gateway bad =>
    rw [fields, parseFields, parseAddress_of_some destination, parseAddress_of_some gateway, parseAddress_of_none bad]
    rfl

/-- Every line says nothing, gives a route or is malformed. -/
theorem line_cases (line : List Char) : Silent line ∨ (∃ route, Gives line route) ∨ ∃ fault, Faulty line fault := by
  by_cases loud : Silent line
  · exact .inl loud
  refine .inr ?_
  match fields : Blank.fields line with
  | [destination, gateway, mask, interface] =>
    cases first : Ipv4Addr.parse? (String.ofList destination) with
    | none => exact .inr ⟨_, .destination loud fields first⟩
    | some network =>
      cases second : Ipv4Addr.parse? (String.ofList gateway) with
      | none => exact .inr ⟨_, .gateway fields first second⟩
      | some next =>
        cases third : Ipv4Addr.parse? (String.ofList mask) with
        | none => exact .inr ⟨_, .mask fields first second third⟩
        | some selector => exact .inl ⟨_, .route fields first second third⟩
  | [] | [_] | [_, _] | [_, _, _] | _ :: _ :: _ :: _ :: _ :: _ => exact .inr ⟨_, .count loud (by simp [fields])⟩

end

/-- The lines give these routes, and nothing else is said in them. -/
inductive Lists : List (List Char) → List RouteEntry → Prop where
  | nil : Lists [] []
  | silent {line : List Char} {lines : List (List Char)} {routes : List RouteEntry} (silent : Silent line)
      (rest : Lists lines routes) : Lists (line :: lines) routes
  | route {line : List Char} {lines : List (List Char)} {route : RouteEntry} {routes : List RouteEntry}
      (gives : Gives line route) (rest : Lists lines routes) : Lists (line :: lines) (route :: routes)

section
variable {line : List Char} {lines : List (List Char)} {number : Nat}

theorem parseLines_silent (silent : Silent line) :
    parseLines number (line :: lines) = parseLines (number + 1) lines := by
  rw [parseLines, content?_of_silent silent]

theorem parseLines_gives {route : RouteEntry} (gives : Gives line route) :
    parseLines number (line :: lines) = (do return route :: (← parseLines (number + 1) lines)) := by
  rw [parseLines, content?_of_loud (loud_of_gives gives)]
  dsimp only
  rw [parseFields_of_gives gives]

theorem parseLines_faulty {fault : RouteLineError} (faulty : Faulty line fault) :
    parseLines number (line :: lines) = .error (number, fault) := by
  rw [parseLines, content?_of_loud (loud_of_faulty faulty)]
  dsimp only
  rw [parseFields_of_faulty faulty]

theorem parseLines_of_lists {routes : List RouteEntry} (lists : Lists lines routes) :
    parseLines number lines = .ok routes := by
  induction lists generalizing number with
  | nil => rfl
  | silent silent _ ih => rw [parseLines_silent silent, ih]
  | route gives _ ih =>
    rw [parseLines_gives gives, ih]
    rfl

/-- A fault behind lines that are in order is found there. -/
theorem parseLines_of_fault {before after : List (List Char)} {routes : List RouteEntry} {fault : RouteLineError}
    (lists : Lists before routes) (faulty : Faulty line fault) :
    parseLines number (before ++ line :: after) = .error (number + before.length, fault) := by
  induction lists generalizing number with
  | nil => exact parseLines_faulty faulty
  | silent silent _ ih =>
    rw [List.cons_append, parseLines_silent silent, ih, List.length_cons, Nat.add_right_comm, Nat.add_assoc]
  | route gives _ ih =>
    rw [List.cons_append, parseLines_gives gives, ih, List.length_cons, Nat.add_right_comm, Nat.add_assoc]
    rfl

/-- Lines are all in order, or one of them is the first that is malformed. -/
theorem lists_or_fault (lines : List (List Char)) : (∃ routes, Lists lines routes) ∨
    ∃ before line after routes fault, lines = before ++ line :: after ∧ Lists before routes ∧ Faulty line fault := by
  induction lines with
  | nil => exact .inl ⟨[], .nil⟩
  | cons line lines ih =>
    rcases line_cases line with silent | ⟨route, gives⟩ | ⟨fault, faulty⟩
    · rcases ih with ⟨routes, lists⟩ | ⟨before, bad, after, routes, fault, rfl, lists, faulty⟩
      · exact .inl ⟨routes, .silent silent lists⟩
      · exact .inr ⟨line :: before, bad, after, routes, fault, rfl, .silent silent lists, faulty⟩
    · rcases ih with ⟨routes, lists⟩ | ⟨before, bad, after, routes, fault, rfl, lists, faulty⟩
      · exact .inl ⟨route :: routes, .route gives lists⟩
      · exact .inr ⟨line :: before, bad, after, route :: routes, fault, rfl, .route gives lists, faulty⟩
    · exact .inr ⟨[], line, lines, [], fault, rfl, .nil, faulty⟩

theorem parseLines_eq_ok_iff {routes : List RouteEntry} :
    parseLines number lines = .ok routes ↔ Lists lines routes := by
  refine ⟨?_, parseLines_of_lists⟩
  intro read
  rcases lists_or_fault lines with ⟨_, lists⟩ | ⟨before, line, after, _, fault, rfl, lists, faulty⟩
  · cases (parseLines_of_lists lists).symm.trans read
    exact lists
  · cases (parseLines_of_fault lists faulty).symm.trans read

theorem parseLines_eq_error_iff {found : Nat × RouteLineError} : parseLines number lines = .error found ↔
    ∃ before line after routes fault, lines = before ++ line :: after ∧ Lists before routes ∧ Faulty line fault ∧
      found = (number + before.length, fault) := by
  constructor
  · intro read
    rcases lists_or_fault lines with ⟨_, lists⟩ | ⟨before, line, after, routes, fault, rfl, lists, faulty⟩
    · cases (parseLines_of_lists lists).symm.trans read
    · cases (parseLines_of_fault lists faulty).symm.trans read
      exact ⟨before, line, after, routes, fault, rfl, lists, faulty, rfl⟩
  · rintro ⟨before, line, after, routes, fault, rfl, lists, faulty, rfl⟩
    exact parseLines_of_fault lists faulty

end

/-! ## Whole files -/

/-- What stands in the way of using a route file: it cannot be read, or this is its first malformed line. -/
inductive Unusable (path : String) (content : FileContent) : StartupError → Prop where
  | unreadable {cause : FileError} (unread : content.text = .error cause) :
      Unusable path content (.routeFile path cause)
  | malformed {text : String} {before after : List (List Char)} {line : List Char} {routes : List RouteEntry}
      {fault : RouteLineError} (read : content.text = .ok text) (lines : Blank.lines text = before ++ line :: after)
      (earlier : Lists before routes) (faulty : Faulty line fault) :
      Unusable path content (.malformedRoute path (before.length + 1) fault)

theorem parseRoutes_eq_ok_iff {path text : String} {routes : List RouteEntry} :
    parseRoutes path text = .ok routes ↔ Lists (Blank.lines text) routes := by
  rw [parseRoutes, mapError_eq_ok_iff, parse, parseLines_eq_ok_iff]

theorem parseRoutes_eq_error_iff {path text : String} {e : StartupError} : parseRoutes path text = .error e ↔
    ∃ before line after routes fault, Blank.lines text = before ++ line :: after ∧ Lists before routes ∧
      Faulty line fault ∧ e = .malformedRoute path (before.length + 1) fault := by
  simp only [parseRoutes, mapError_eq_error_iff, parse, parseLines_eq_error_iff, Nat.add_comm 1]
  constructor
  · rintro ⟨_, ⟨before, line, after, routes, fault, lines, lists, faulty, rfl⟩, rfl⟩
    exact ⟨before, line, after, routes, fault, lines, lists, faulty, rfl⟩
  · rintro ⟨before, line, after, routes, fault, lines, lists, faulty, rfl⟩
    exact ⟨_, ⟨before, line, after, routes, fault, lines, lists, faulty, rfl⟩, rfl⟩

end RouteFile

/-- A text that is written to a file is read from it. -/
theorem FileContent.text_utf8 (written : String) : FileContent.text (.ok written.toUTF8.data.toList) = .ok written := by
  have read : String.fromUTF8? written.toUTF8 = some written := dif_pos written.isValidUTF8
  have same : (⟨written.toUTF8.data.toList.toArray⟩ : ByteArray) = written.toUTF8 := by rw [Array.toArray_toList]
  dsimp only [FileContent.text, bind, Except.bind]
  rw [same, read]
  rfl

namespace RouteTable

variable {t : RouteTable} {path : String} {content : FileContent}

theorem load_eq_ok_iff {loaded : RouteTable × Nat} : t.load path content = .ok loaded ↔
    ∃ text routes, content.text = .ok text ∧ RouteFile.Lists (Blank.lines text) routes ∧
      loaded = (if routes.isEmpty then t else ⟨routes⟩, routes.length) := by
  simp only [load, bind_eq_ok_iff, mapError_eq_ok_iff, RouteFile.parseRoutes_eq_ok_iff]
  constructor
  · rintro ⟨text, read, routes, lists, ⟨⟩⟩
    exact ⟨text, routes, read, lists, rfl⟩
  · rintro ⟨text, routes, read, lists, rfl⟩
    exact ⟨text, read, routes, lists, rfl⟩

theorem load_eq_error_iff {e : StartupError} : t.load path content = .error e ↔ RouteFile.Unusable path content e := by
  simp only [load, bind_eq_error_iff, mapError_eq_error_iff, mapError_eq_ok_iff, RouteFile.parseRoutes_eq_error_iff]
  constructor
  · rintro (⟨cause, unread, rfl⟩ | ⟨text, read, ⟨before, line, after, routes, fault, lines, lists, faulty, rfl⟩ |
      ⟨_, _, ⟨⟩⟩⟩)
    · exact .unreadable unread
    · exact .malformed read lines lists faulty
  · rintro (unread | ⟨read, lines, lists, faulty⟩)
    · exact .inl ⟨_, unread, rfl⟩
    · exact .inr ⟨_, read, .inl ⟨_, _, _, _, _, lines, lists, faulty, rfl⟩⟩

end RouteTable

end SoftRouter
