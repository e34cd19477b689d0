import ShaderWeave.Proofs.Code.Resources
import ShaderWeave.Proofs.Graph.Walks

/-! # The names that a text declares

A text of lines that declare a variable, and of lines that are indented or do without the keyword, declares exactly the
variables of the former: each once, where it comes first. Lines may end with a line feed or with a carriage return in
front of it.
-/

namespace ShaderWeave

/-! ## Lines of a text -/

namespace Text

/-- The text consists of these lines. Each of them ends with a line break; the last one need not. -/
inductive Lined : List Char → List (List Char) → Prop where
  | nil : Lined [] []
  | last {line : List Char} : '\n' ∉ line → Lined line [line]
  | cons {line ending rest : List Char} {lines : List (List Char)} : '\n' ∉ line → ending ∈ [['\n'], ['\r', '\n']] →
      Lined rest lines → Lined (line ++ (ending ++ rest)) (line :: lines)

theorem lines_of_line {part : List Char} (one : '\n' ∉ part) (rest : List Char) :
    lines (part ++ '\n' :: rest) = dropReturn part :: lines rest := by
  simp only [lines, splitAtFeeds_of_line one, List.dropLast_cons_of_ne_nil (splitAtFeeds_ne_nil rest),
    List.getLast?_cons_of_ne_nil (splitAtFeeds_ne_nil rest), List.map_cons, List.cons_append]

/-- Text without a line feed is one line, unless it is empty. -/
theorem lines_of_free {line : List Char} (one : '\n' ∉ line) : lines line = [line].filter (· ≠ []) := by
  have alone : splitAtFeeds line = [line] := by
    induction line with
    | nil => rfl
    | cons char rest ih =>
      obtain ⟨apart, one⟩ := not_or.1 (mt List.mem_cons.2 one)
      rw [splitAtFeeds, if_neg (Ne.symm apart), ih one]
  rw [lines, alone]
  rfl

theorem dropReturn_concat (line : List Char) : dropReturn (line ++ ['\r']) = line := by
  rw [dropReturn, if_pos List.getLast?_concat, List.dropLast_concat]

theorem dropReturn_append {char : Char} (kept : char ≠ '\r') (front rest : List Char) :
    dropReturn (front ++ char :: rest) = front ++ char :: dropReturn rest := by
  cases rest with
  | nil =>
    have apart : (front ++ [char]).getLast? ≠ some '\r' := by simpa using kept
    rw [dropReturn, if_neg apart]
    rfl
  | cons next rest =>
    have last : (front ++ char :: next :: rest).getLast? = (next :: rest).getLast? := by simp [List.getLast?_cons]
    have front' : (front ++ char :: next :: rest).dropLast = front ++ char :: (next :: rest).dropLast := by simp
    rw [dropReturn, dropReturn, last, front', apply_ite (front ++ char :: ·)]

theorem dropReturn_prefix (line : List Char) : dropReturn line <+: line := by
  unfold dropReturn
  split
  · exact List.dropLast_prefix line
  · exact List.prefix_rfl

end Text

namespace Declared

/-- What a line of the grammar declares. -/
inductive Reads : List Char → Option String → Prop where
  | declaration (declaration : Declaration) : Reads declaration.line (some declaration.name)
  | indented {char : Char} {rest : List Char} : Text.isBlank char = true → Reads (char :: rest) none
  /-- An empty line, for instance. -/
  | free {line : List Char} : ¬ keyword <:+: line → Reads line none

theorem Reads.nameOf?_eq {line : List Char} {answer : Option String} (reads : Reads line answer) :
    nameOf? line = answer := by
  cases reads with
  | declaration declaration => exact declaration.nameOf?_line
  | indented blank => rw [nameOf?, List.head?_cons, Option.any_some, if_pos blank]
  | free free =>
    rw [← Code.hasInfix_iff, Bool.not_eq_true] at free
    exact Code.nameOf?_of_no_keyword free

/-- A carriage return at the end of a line makes no difference. -/
theorem Reads.dropReturn {line : List Char} {answer : Option String} (reads : Reads line answer) :
    Reads (Text.dropReturn line) answer := by
  cases reads with
  | declaration declaration =>
    have same : Text.dropReturn declaration.line =
        { declaration with rest := Text.dropReturn declaration.rest }.line := by
      rw [Declaration.line_eq_append, Text.dropReturn_append (by decide), Declaration.line_eq_append]
      rfl
    exact same ▸ .declaration { declaration with rest := Text.dropReturn declaration.rest }
  | @indented char rest blank =>
    obtain ⟨more, whole⟩ := Text.dropReturn_prefix (char :: rest)
    cases left : Text.dropReturn (char :: rest) with
    | nil => exact .free (mt Code.hasInfix_iff.2 (by decide))
    | cons first others =>
      rw [left] at whole
      obtain rfl : first = char := (List.cons.inj whole).1
      exact .indented blank
  | free free => exact .free fun inside => free (inside.trans (Text.dropReturn_prefix line).isInfix)

theorem filterMap_lines {text : List Char} {lines : List (List Char)} {answers : List (Option String)}
    (lined : Text.Lined text lines) (reads : List.Forall₂ Reads lines answers) :
    (Text.lines text).filterMap nameOf? = answers.filterMap id := by
  induction lined generalizing answers with
  | nil =>
    cases reads
    rfl
  | @last line one =>
    obtain ⟨answer, _, here, none, rfl⟩ := List.forall₂_cons_left_iff.1 reads
    cases none
    rw [Text.lines_of_free one]
    by_cases empty : line = []
    · subst empty
      obtain rfl : none = answer := here.nameOf?_eq
      rfl
    · rw [List.filter_cons_of_pos (by simpa using empty), List.filter_nil, List.filterMap_cons, here.nameOf?_eq]
      rfl
  | @cons line ending rest lines one breaks _ ih =>
    obtain ⟨answer, others, here, later, rfl⟩ := List.forall₂_cons_left_iff.1 reads
    obtain ⟨part, first, here⟩ : ∃ part,
        Text.lines (line ++ (ending ++ rest)) = part :: Text.lines rest ∧ Reads part answer := by
      simp only [List.mem_cons, List.not_mem_nil, or_false] at breaks
      rcases breaks with rfl | rfl
      · exact ⟨_, Text.lines_of_line one rest, here.dropReturn⟩
      · have whole : '\n' ∉ line ++ ['\r'] := by simp [one]
        have first := Text.lines_of_line whole rest
        rw [Text.dropReturn_concat, List.append_assoc] at first
        exact ⟨line, first, here⟩
    rw [first, List.filterMap_cons, List.filterMap_cons, here.nameOf?_eq, ih later]
    rfl

/-- A text whose lines are declarations, or declare nothing because they are indented or lack the keyword, declares the
names of its declarations, each once and in the order in which they come first. -/
theorem names_of_lines {source : String} {lines : List (List Char)} {answers : List (Option String)}
    (lined : Text.Lined source.toList lines) (reads : List.Forall₂ Reads lines answers) :
    FirstVisits (answers.filterMap id) (names source) := by
  rw [names, filterMap_lines lined reads]
  exact firstVisits_eraseDups _

/-- A uniform behind two attributes. -/
def fogDeclaration : Declaration where
  attributes := Code.Resource.attributes 1
  space := some ['u', 'n', 'i', 'f', 'o', 'r', 'm']
  plain_space := by
    rintro _ ⟨⟩
    decide
  gap := 0
  name := "var_0"
  filled := by decide
  word := List.all_eq_true.1 (by decide)
  rest := [' ', 'f', '3', '2', ';', ' ']

/-- A variable without attributes, address space and type. -/
def mapDeclaration : Declaration where
  attributes := []
  space := none
  plain_space := by rintro _ ⟨⟩
  gap := 1
  name := "tMap"
  filled := by decide
  word := List.all_eq_true.1 (by decide)
  rest := []

/-- Line breaks of both kinds, blanks at the end of a line, an indented variable and a name that comes twice. -/
def mixedText : String :=
  "@group(0) @binding(1) var<uniform> var_0: f32; \r\n\r\n  var local: f32;\nvar  tMap:\nvar  tMap:"

def mixedLines : List (List Char) :=
  [fogDeclaration.line, [], "  var local: f32;".toList, mapDeclaration.line, mapDeclaration.line]

theorem names_of_mixedText :
    Text.Lined mixedText.toList mixedLines ∧
      List.Forall₂ Reads mixedLines [some "var_0", none, none, some "tMap", some "tMap"] ∧
      FirstVisits ["var_0", "tMap", "tMap"] (names mixedText) := by
  have lined : Text.Lined mixedText.toList mixedLines := by
    have cut : mixedText.toList = fogDeclaration.line ++ (['\r', '\n'] ++ ([] ++ (['\r', '\n'] ++
        ("  var local: f32;".toList ++ (['\n'] ++ (mapDeclaration.line ++ (['\n'] ++ mapDeclaration.line))))))) := by
      decide
    rw [cut]
    exact .cons (by decide) (by decide) (.cons (by decide) (by decide) (.cons (by decide) (by decide)
      (.cons (by decide) (by decide) (.last (by decide)))))
  have reads : List.Forall₂ Reads mixedLines [some "var_0", none, none, some "tMap", some "tMap"] :=
    .cons (.declaration fogDeclaration) (.cons (.free (mt Code.hasInfix_iff.2 (by decide))) (.cons (.indented rfl)
      (.cons (.declaration mapDeclaration) (.cons (.declaration mapDeclaration) .nil))))
  exact ⟨lined, reads, names_of_lines lined reads⟩

end Declared

end ShaderWeave
