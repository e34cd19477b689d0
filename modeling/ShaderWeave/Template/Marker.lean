import ShaderWeave.Slots
import ShaderWeave.Text.Blank

/-! # Slot markers

A template text holds markers, `#pragma SLOT` followed by blanks and a name. `pieces` cuts a text at its markers,
once and from left to right, and `fill` puts the code of each slot where its marker stood. Inserted code is
never searched for markers.

A marker takes the blanks and the line break behind its name with it. When it has its line for itself, the
blanks in front of it go as well, so that an empty slot leaves no blank line behind.
-/

namespace ShaderWeave.Marker

def keyword : List Char :=
  ['#', 'p', 'r', 'a', 'g', 'm', 'a', ' ', 'S', 'L', 'O', 'T']

/-- Spaces and tabs: what may stand around a marker on its line. -/
def isInlineBlank (char : Char) : Bool :=
  char == ' ' || char == '\t'

/-- A template text is a row of pieces. -/
inductive Piece where
  | text (chars : List Char)
  | slot (name : String)
  deriving DecidableEq, Repr

/-- The rest of `text` behind `start`, if it begins so. -/
def dropStart? (start text : List Char) : Option (List Char) :=
  if start.isPrefixOf text then some (text.drop start.length) else none

/-- The text in front of the first keyword and the text behind it. -/
def splitAtKeyword : List Char → Option (List Char × List Char)
  | [] => none
  | char :: rest =>
    match dropStart? keyword (char :: rest) with
    | some behind => some ([], behind)
    | none => (splitAtKeyword rest).map fun (front, behind) => (char :: front, behind)

/-- What stands behind a keyword that opens a marker. -/
structure Tail where
  name : List Char
  /-- Whether nothing but blanks stands between the name and the end of the line. -/
  endsLine : Bool
  rest : List Char
  deriving DecidableEq, Repr

/-- Takes one line break off the front. -/
def dropLineBreak : List Char → Bool × List Char
  | '\r' :: '\n' :: rest => (true, rest)
  | '\n' :: rest => (true, rest)
  | rest => (rest.isEmpty, rest)

/-- Reads blanks, a name and what goes with it. Without a blank or a name there is no marker. -/
def readTail? (behind : List Char) : Option Tail :=
  let trimmed := behind.dropWhile isInlineBlank
  let name := trimmed.takeWhile Text.isWordChar
  if trimmed.length = behind.length || name.isEmpty then none
  else
    let (endsLine, rest) := dropLineBreak ((trimmed.dropWhile Text.isWordChar).dropWhile isInlineBlank)
    some ⟨name, endsLine, rest⟩

/-- The text up to its last line feed, which is kept. -/
def throughLastBreak (text : List Char) : List Char :=
  (text.reverse.dropWhile (· != '\n')).reverse

/-- The text behind its last line feed. -/
def lastLine (text : List Char) : List Char :=
  (text.reverse.takeWhile (· != '\n')).reverse

/-- What is kept of the text in front of a marker. -/
def keptFront (front : List Char) (endsLine : Bool) : List Char :=
  if endsLine && (lastLine front).all isInlineBlank then throughLastBreak front else front

/-! ## Every step leaves less text -/

theorem length_of_splitAtKeyword {text front behind : List Char}
    (split : splitAtKeyword text = some (front, behind)) :
    text.length = front.length + keyword.length + behind.length := by
  induction text generalizing front with
  | nil => simp [splitAtKeyword] at split
  | cons char rest ih =>
    rw [splitAtKeyword] at split
    split at split
    · next left found =>
      simp only [dropStart?, Option.ite_none_right_eq_some, Option.some.injEq] at found
      obtain ⟨start, rfl⟩ := found
      simp only [Option.some.injEq, Prod.mk.injEq] at split
      obtain ⟨rfl, rfl⟩ := split
      have begins := List.isPrefixOf_iff_prefix.1 start
      have := begins.length_le
      simp only [List.length_drop, List.length_nil]
      omega
    · simp only [Option.map_eq_some_iff, Prod.exists, Prod.mk.injEq] at split
      obtain ⟨left, right, found, rfl, rfl⟩ := split
      simp only [List.length_cons, ih found]
      omega

theorem length_dropLineBreak_le (text : List Char) : (dropLineBreak text).2.length ≤ text.length := by
  unfold dropLineBreak
  split
  · simp only [List.length_cons]
    omega
  · simp
  · simp

theorem length_le_of_readTail? {behind : List Char} {tail : Tail} (read : readTail? behind = some tail) :
    tail.rest.length ≤ behind.length := by
  simp only [readTail?, Option.ite_none_left_eq_some, Option.some.injEq] at read
  obtain ⟨_, rfl⟩ := read
  refine Nat.le_trans (length_dropLineBreak_le _) ?_
  exact Nat.le_trans (List.dropWhile_suffix _).length_le
    (Nat.le_trans (List.dropWhile_suffix _).length_le (List.dropWhile_suffix _).length_le)

/-- Cuts a text at its markers. A keyword that opens no marker stays as text. -/
def pieces (text : List Char) : List Piece :=
  match _split : splitAtKeyword text with
  | none => [.text text]
  | some (front, behind) =>
    match _read : readTail? behind with
    | none => .text (front ++ keyword) :: pieces behind
    | some tail =>
      .text (keptFront front tail.endsLine) :: .slot (String.ofList tail.name) :: pieces tail.rest
termination_by text.length
decreasing_by
  · have := length_of_splitAtKeyword _split
    simp only [keyword, List.length_cons] at this
    omega
  · have := length_of_splitAtKeyword _split
    have := length_le_of_readTail? _read
    simp only [keyword, List.length_cons] at *
    omega

/-- The text of a piece, given the code of each slot. A slot without code leaves nothing. -/
def Piece.render (code : String → Option String) : Piece → List Char
  | .text chars => chars
  | .slot name => ((code name).getD "").toList

def fill (code : String → Option String) (row : List Piece) : List Char :=
  row.flatMap (Piece.render code)

/-- Replaces every marker of `source` by the code of its slot. -/
def resolve (source : String) (slots : SlotBuffer) : String :=
  String.ofList (fill slots.get? (pieces source.toList))

end ShaderWeave.Marker
