import SoftRouter.Text.Blank

/-!
# Words and lines

A line consists of words with white space between them and, it may be, around them (`Spaced`), and its fields are
these words (`fields_eq_iff`). A text consists of lines that end with a line feed or with a carriage return and a line
feed (`Lined`); however it is cut into such lines, they have the fields of its lines (`map_fields_splitOn`).
-/

namespace SoftRouter.Blank

/-- There is nothing but white space. -/
def Gap (cs : List Char) : Prop := ∀ c ∈ cs, isBlank c

/-- There is something, and no white space in it. -/
structure Word (cs : List Char) : Prop where
  nonempty : cs ≠ []
  solid : ∀ c ∈ cs, ¬ isBlank c

/-- A word in front of this is at its end: nothing follows, or white space. -/
def Apart (rest : List Char) : Prop := ∀ c ∈ rest.head?, isBlank c

/-- The text consists of these words, with white space between them and around them. -/
inductive Spaced : List Char → List (List Char) → Prop where
  | blank {gap : List Char} (blank : Gap gap) : Spaced gap []
  | word {gap word rest : List Char} {words : List (List Char)} (blank : Gap gap) (solid : Word word)
      (apart : Apart rest) (later : Spaced rest words) : Spaced (gap ++ (word ++ rest)) (word :: words)

section
variable {gap word rest : List Char} {words : List (List Char)}

theorem fields_of_gap (blank : Gap gap) (rest : List Char) : fields (gap ++ rest) = fields rest := by
  induction gap with
  | nil => rfl
  | cons c gap ih =>
    obtain ⟨first, others⟩ := List.forall_mem_cons.1 blank
    rw [List.cons_append, fields.eq_def]
    dsimp only
    rw [if_pos first, ih others]

theorem fields_of_word (solid : Word word) (apart : Apart rest) : fields (word ++ rest) = word :: fields rest := by
  obtain ⟨nonempty, solid⟩ := solid
  induction word with
  | nil => exact absurd rfl nonempty
  | cons c word ih =>
    obtain ⟨first, others⟩ := List.forall_mem_cons.1 solid
    rw [List.cons_append, fields.eq_def]
    dsimp only
    rw [if_neg first]
    match word with
    | d :: word =>
      obtain ⟨second, -⟩ := List.forall_mem_cons.1 others
      rw [ih (List.cons_ne_nil d word) others, List.cons_append]
      dsimp only
      rw [if_neg second]
    | [] =>
      rw [List.nil_append]
      cases rest with
      | nil => rfl
      | cons d rest =>
        dsimp only
        rw [if_pos (apart d rfl)]

theorem fields_of_spaced {line : List Char} (spaced : Spaced line words) : fields line = words := by
  induction spaced with
  | blank blank =>
    have none := fields_of_gap blank []
    rwa [List.append_nil] at none
  | word blank solid apart _ ih => rw [fields_of_gap blank, fields_of_word solid apart, ih]

theorem Gap.append {first second : List Char} (blank : Gap first) (blank' : Gap second) : Gap (first ++ second) := by
  intro c mem
  rcases List.mem_append.1 mem with mem | mem
  · exact blank c mem
  · exact blank' c mem

theorem Spaced.behind (spaced : Spaced rest words) (blank : Gap gap) : Spaced (gap ++ rest) words := by
  cases spaced with
  | blank blank' => exact .blank (blank.append blank')
  | word blank' solid apart later =>
    rw [← List.append_assoc]
    exact .word (blank.append blank') solid apart later

/-- A character in front of a word becomes its first. -/
theorem Spaced.cons {c d : Char} (first : ¬ isBlank c) (second : ¬ isBlank d)
    (spaced : Spaced (d :: rest) (word :: words)) : Spaced (c :: d :: rest) ((c :: word) :: words) := by
  generalize same : d :: rest = line at spaced
  cases spaced with
  | @word gap _ rest _ blank solid apart later =>
    cases gap with
    | nil =>
      have longer : Word (c :: word) := ⟨List.cons_ne_nil c word, List.forall_mem_cons.2 ⟨first, solid.solid⟩⟩
      exact .word blank longer apart later
    | cons e gap =>
      cases same
      exact absurd (blank d List.mem_cons_self) second

theorem gap_of_spaced {line : List Char} (spaced : Spaced line []) : Gap line := by
  generalize none : [] = words at spaced
  cases spaced with
  | blank blank => exact blank
  | word => cases none

theorem spaced_fields (line : List Char) : Spaced line (fields line) := by
  have gap_nil : Gap [] := List.forall_mem_nil _
  have gap_single {c : Char} (blank : isBlank c) : Gap [c] := List.forall_mem_singleton.2 blank
  have word_single {c : Char} (solid : ¬ isBlank c) : Word [c] :=
    ⟨List.cons_ne_nil c [], List.forall_mem_singleton.2 solid⟩
  fun_induction fields line with
  | case1 => exact .blank gap_nil
  | case2 c cs blank ih => exact ih.behind (gap_single blank)
  | case3 c solid => exact .word gap_nil (word_single solid) nofun (.blank gap_nil)
  | case4 c solid d tail blank ih =>
    have apart : Apart (d :: tail) := by rintro _ ⟨⟩; exact blank
    exact .word gap_nil (word_single solid) apart ih
  | case5 c solid d tail solid' word words found ih =>
    rw [found] at ih ⊢
    exact ih.cons solid solid'
  | case6 c solid d tail solid' none ih =>
    rw [none] at ih
    exact absurd (gap_of_spaced ih d List.mem_cons_self) solid'

theorem fields_eq_iff {line : List Char} : fields line = words ↔ Spaced line words :=
  ⟨fun same => same ▸ spaced_fields line, fields_of_spaced⟩

theorem word_of_spaced {line : List Char} (spaced : Spaced line words) : ∀ word ∈ words, Word word := by
  induction spaced with
  | blank => exact List.forall_mem_nil _
  | word _ solid _ _ ih => exact List.forall_mem_cons.2 ⟨solid, ih⟩

/-- White space behind a line changes nothing. -/
theorem Spaced.before {line : List Char} (spaced : Spaced line words) (blank : Gap gap) :
    Spaced (line ++ gap) words := by
  induction spaced with
  | blank blank' => exact .blank (blank'.append blank)
  | @word _ _ rest _ blank' solid apart _ ih =>
    have apart' : Apart (rest ++ gap) := by
      cases rest with
      | nil =>
        intro c first
        exact blank c (List.mem_of_head? first)
      | cons d rest => exact apart
    rw [List.append_assoc, List.append_assoc]
    exact .word blank' solid apart' ih

theorem fields_append_gap (line : List Char) (blank : Gap gap) : fields (line ++ gap) = fields line :=
  fields_of_spaced ((spaced_fields line).before blank)

/-- The first word begins with the first character that is not white space. -/
theorem exists_fields_cons {c : Char} (solid : ¬ isBlank c) (cs : List Char) :
    ∃ word words, fields (c :: cs) = (c :: word) :: words := by
  rw [fields.eq_def]
  dsimp only
  rw [if_neg solid]
  split
  · exact ⟨_, _, rfl⟩
  · split
    · exact ⟨_, _, rfl⟩
    · split <;> exact ⟨_, _, rfl⟩

end

/-- How a line ends. -/
inductive LineEnd : List Char → Prop where
  | lf : LineEnd ['\n']
  | crlf : LineEnd ['\r', '\n']

/-- The text consists of these lines, and all but the last are ended. -/
inductive Lined : List Char → List (List Char) → Prop where
  | last {line : List Char} (one : '\n' ∉ line) : Lined line [line]
  | line {line ending text : List Char} {lines : List (List Char)} (one : '\n' ∉ line) (ended : LineEnd ending)
      (rest : Lined text lines) : Lined (line ++ (ending ++ text)) (line :: lines)

section
variable {line text : List Char} {lines : List (List Char)}

theorem no_line_feed (one : '\n' ∉ line) : ∀ c ∈ line, (c == '\n') = false := by
  intro c mem
  rw [beq_eq_false_iff_ne]
  rintro rfl
  exact one mem

theorem splitOn_last (one : '\n' ∉ line) : line.splitOn '\n' = [line] := by
  rw [List.splitOn_eq_splitOnP, List.splitOnP_eq_singleton (no_line_feed one)]

theorem splitOn_line (one : '\n' ∉ line) (text : List Char) :
    (line ++ '\n' :: text).splitOn '\n' = line :: text.splitOn '\n' := by
  rw [List.splitOn_eq_splitOnP, List.splitOnP_append_cons_of_forall_mem (no_line_feed one) '\n' rfl,
    List.splitOn_eq_splitOnP]

theorem lined_splitOn (text : List Char) : Lined text (text.splitOn '\n') := by
  -- on the length: what is left behind a line feed is not the tail of the text
  induction size : text.length using Nat.strongRecOn generalizing text with
  | ind n ih =>
    by_cases more : '\n' ∈ text
    · obtain ⟨line, behind, rfl, one⟩ := List.eq_append_cons_of_mem more
      have shorter : behind.length < n := by
        rw [← size, List.length_append, List.length_cons]
        omega
      rw [splitOn_line one]
      exact .line one .lf (ih _ shorter behind rfl)
    · rw [splitOn_last more]
      exact .last more

/-- However a text is cut into lines, these have the same fields. -/
theorem map_fields_splitOn (lined : Lined text lines) : (text.splitOn '\n').map fields = lines.map fields := by
  induction lined with
  | last one => rw [splitOn_last one]
  | @line line ending text lines one ended _ ih =>
    cases ended with
    | lf => rw [List.singleton_append, splitOn_line one, List.map_cons, List.map_cons, ih]
    | crlf =>
      -- cut at the line feed, the line keeps its carriage return, which is white space
      have carriageReturn : Gap ['\r'] := List.forall_mem_singleton.2 rfl
      have one' : '\n' ∉ line ++ ['\r'] := by
        rw [List.mem_append, not_or]
        exact ⟨one, by decide⟩
      have parted : line ++ (['\r', '\n'] ++ text) = (line ++ ['\r']) ++ '\n' :: text := by
        rw [List.append_assoc]
        rfl
      rw [parted, splitOn_line one', List.map_cons, List.map_cons, ih, fields_append_gap line carriageReturn]

end

end SoftRouter.Blank
