import Mathlib.Data.List.Infix
import Mathlib.Data.List.TakeWhile
import ShaderWeave.Template

/-! # Markers of a text

Which slots a text names is read here off its suffixes, each on its own: a suffix that begins with the keyword, blanks
and a word names this word. Resolving a text goes through it once, and puts the code of these slots in place of
their markers, in order. The text around the markers depends on the source alone.
-/

namespace ShaderWeave.Marker

variable {text behind skipped rest front name : List Char}

/-! ## Names -/

/-- The name of the marker that a text begins with. Behind the keyword stand blanks, at least one, and the name is the
longest word behind them. -/
def nameAt? (text : List Char) : Option (List Char) :=
  (dropStart? keyword text).bind fun behind =>
    let word := (behind.dropWhile isInlineBlank).takeWhile Text.isWordChar
    if behind.takeWhile isInlineBlank = [] ∨ word = [] then none else some word

/-- The names of all markers of a text, in order. -/
def names (text : List Char) : List (List Char) :=
  text.tails.filterMap nameAt?

theorem dropStart?_eq_some_iff {start : List Char} : dropStart? start text = some rest ↔ text = start ++ rest := by
  rw [dropStart?, Option.ite_none_right_eq_some, List.isPrefixOf_iff_prefix, Option.some.injEq]
  constructor
  · rintro ⟨⟨behind, rfl⟩, rfl⟩
    rw [List.drop_left]
  · rintro rfl
    exact ⟨List.prefix_append .., List.drop_left ..⟩

theorem not_isInlineBlank_of_isWordChar {char : Char} (word : Text.isWordChar char = true) :
    isInlineBlank char = false := by
  rw [isInlineBlank, Bool.or_eq_false_iff, beq_eq_false_iff_ne, beq_eq_false_iff_ne]
  constructor <;>
  · rintro rfl
    revert word
    decide

theorem span_append {p : Char → Bool} (inside : ∀ char ∈ front, p char = true)
    (ends : ∀ char ∈ rest.head?, p char = false) :
    (front ++ rest).takeWhile p = front ∧ (front ++ rest).dropWhile p = rest := by
  rw [List.takeWhile_append_of_pos inside, List.dropWhile_append_of_pos inside]
  cases rest with
  | nil => exact ⟨List.append_nil _, rfl⟩
  | cons first others =>
    have stops : ¬ p first = true := by simp [ends first rfl]
    rw [List.takeWhile_cons_of_neg stops, List.dropWhile_cons_of_neg stops]
    exact ⟨List.append_nil _, rfl⟩

theorem head?_dropWhile_eq_false {p : Char → Bool} : ∀ char ∈ (text.dropWhile p).head?, p char = false := by
  intro char member
  rw [← List.find?_not_eq_head?_dropWhile] at member
  simpa using List.find?_some member

/-- A text begins with a marker if it has the keyword, blanks and a word that nothing goes on. -/
theorem nameAt?_eq_some_iff :
    nameAt? text = some name ↔ ∃ gap rest, text = keyword ++ (gap ++ (name ++ rest)) ∧
      (gap ≠ [] ∧ ∀ char ∈ gap, isInlineBlank char = true) ∧
      (name ≠ [] ∧ ∀ char ∈ name, Text.isWordChar char = true) ∧
      ∀ char ∈ rest.head?, Text.isWordChar char = false := by
  rw [nameAt?, Option.bind_eq_some_iff]
  constructor
  · rintro ⟨behind, opens, named⟩
    obtain ⟨filled, same⟩ := Option.ite_none_left_eq_some.1 named
    obtain rfl := Option.some.inj same
    rw [not_or] at filled
    refine ⟨behind.takeWhile isInlineBlank, (behind.dropWhile isInlineBlank).dropWhile Text.isWordChar, ?_,
      ⟨filled.1, fun _ => List.mem_takeWhile_imp⟩, ⟨filled.2, fun _ => List.mem_takeWhile_imp⟩,
      head?_dropWhile_eq_false⟩
    rw [List.takeWhile_append_dropWhile, List.takeWhile_append_dropWhile]
    exact dropStart?_eq_some_iff.1 opens
  · rintro ⟨gap, rest, rfl, ⟨filled, blanks⟩, ⟨worded, word⟩, ends⟩
    refine ⟨_, dropStart?_eq_some_iff.2 rfl, ?_⟩
    have inked : ∀ char ∈ (name ++ rest).head?, isInlineBlank char = false := by
      intro char member
      rw [List.head?_append_of_ne_nil _ worded] at member
      exact not_isInlineBlank_of_isWordChar (word char (List.mem_of_mem_head? member))
    simp only [(span_append blanks inked).1, (span_append blanks inked).2, (span_append word ends).1, filled, worded,
      or_self, ↓reduceIte]

private theorem nameAt?_of_ne {char : Char} (apart : char ≠ '#') (rest : List Char) : nameAt? (char :: rest) = none := by
  simp [nameAt?, dropStart?, keyword, List.isPrefixOf, apart.symm]

theorem names_cons (char : Char) (rest : List Char) :
    names (char :: rest) = (nameAt? (char :: rest)).toList ++ names rest := by
  rw [names, List.tails, List.filterMap_cons]
  cases nameAt? (char :: rest) <;> rfl

/-- All that is skipped between markers has no keyword. -/
theorem names_append_of_free (free : '#' ∉ skipped) : names (skipped ++ rest) = names rest := by
  induction skipped with
  | nil => rfl
  | cons char others ih =>
    obtain ⟨apart, free⟩ := not_or.1 (mt List.mem_cons.2 free)
    rw [List.cons_append, names_cons, nameAt?_of_ne (Ne.symm apart), ih free]
    rfl

theorem names_keyword_append (behind : List Char) :
    names (keyword ++ behind) = (nameAt? (keyword ++ behind)).toList ++ names behind :=
  (names_cons '#' (keyword.tail ++ behind)).trans
    (congrArg _ (names_append_of_free (show '#' ∉ keyword.tail by decide)))

/-! ## What one step reads -/

theorem names_of_splitAtKeyword_eq_none (none : splitAtKeyword text = none) : names text = [] := by
  induction text with
  | nil => rfl
  | cons char rest ih =>
    rw [splitAtKeyword] at none
    split at none
    · cases none
    · next apart =>
      rw [names_cons, nameAt?, apart, ih (Option.map_eq_none_iff.1 none)]
      rfl

/-- The first keyword of a text is the first place where a marker can begin. -/
theorem eq_append_of_splitAtKeyword (found : splitAtKeyword text = some (front, behind)) :
    text = front ++ (keyword ++ behind) ∧ names text = names (keyword ++ behind) := by
  induction text generalizing front with
  | nil => cases found
  | cons char rest ih =>
    rw [splitAtKeyword] at found
    split at found
    · next opens =>
      obtain ⟨rfl, rfl⟩ := Prod.mk.inj (Option.some.inj found)
      rw [dropStart?_eq_some_iff.1 opens]
      exact ⟨rfl, rfl⟩
    · next apart =>
      obtain ⟨⟨before, after⟩, later, same⟩ := Option.map_eq_some_iff.1 found
      obtain ⟨rfl, rfl⟩ := Prod.mk.inj same
      obtain ⟨rfl, named⟩ := ih later
      refine ⟨rfl, ?_⟩
      rw [names_cons, nameAt?, apart, named]
      rfl

private theorem length_dropWhile_eq_iff {p : Char → Bool} :
    (text.dropWhile p).length = text.length ↔ text.takeWhile p = [] := by
  have whole : (text.takeWhile p).length + (text.dropWhile p).length = text.length := by
    rw [← List.length_append, List.takeWhile_append_dropWhile]
  rw [← List.length_eq_zero_iff]
  omega

theorem nameAt?_keyword_append (behind : List Char) :
    nameAt? (keyword ++ behind) = (readTail? behind).map Tail.name := by
  have opens : dropStart? keyword (keyword ++ behind) = some behind := dropStart?_eq_some_iff.2 rfl
  rw [nameAt?, opens, Option.bind_some, readTail?]
  simp only [Bool.or_eq_true, decide_eq_true_eq, List.isEmpty_iff, length_dropWhile_eq_iff]
  split <;> rfl

/-- A marker as its text has it, with the literal text in front of it that stays. -/
structure Cut where
  kept : List Char
  indent : List Char
  gap : List Char
  name : List Char
  trailing : List Char
  lineBreak : List Char
  isIndent : ∀ char ∈ indent, isInlineBlank char = true
  isGap : gap ≠ [] ∧ ∀ char ∈ gap, isInlineBlank char = true
  isName : name ≠ [] ∧ ∀ char ∈ name, Text.isWordChar char = true
  isTrailing : ∀ char ∈ trailing, isInlineBlank char = true
  isLineBreak : lineBreak ∈ [[], ['\n'], ['\r', '\n']]

namespace Cut

/-- What stands behind the keyword and goes with the marker. -/
def tail (cut : Cut) : List Char := cut.gap ++ (cut.name ++ (cut.trailing ++ cut.lineBreak))

/-- What the text has in this place. -/
def source (cut : Cut) : List Char := cut.kept ++ (cut.indent ++ (keyword ++ cut.tail))

/-- What stands there with code for the slots. -/
def filled (code : String → Option String) (cut : Cut) : List Char :=
  cut.kept ++ ((code (String.ofList cut.name)).getD "").toList

end Cut

theorem exists_lineBreak (text : List Char) :
    ∃ lineBreak ∈ [[], ['\n'], ['\r', '\n']], text = lineBreak ++ (dropLineBreak text).2 := by
  unfold dropLineBreak
  split
  · exact ⟨['\r', '\n'], by decide, rfl⟩
  · exact ⟨['\n'], by decide, rfl⟩
  · exact ⟨[], by decide, rfl⟩

theorem throughLastBreak_append_lastLine (text : List Char) : throughLastBreak text ++ lastLine text = text := by
  rw [throughLastBreak, lastLine, ← List.reverse_append, List.takeWhile_append_dropWhile, List.reverse_reverse]

/-- Of the text in front of a marker, at most blanks go. -/
theorem exists_indent (front : List Char) (endsLine : Bool) :
    ∃ indent, (∀ char ∈ indent, isInlineBlank char = true) ∧ front = keptFront front endsLine ++ indent := by
  unfold keptFront
  split
  · next alone =>
    obtain ⟨-, blanks⟩ := Bool.and_eq_true_iff.1 alone
    exact ⟨lastLine front, List.all_eq_true.1 blanks, (throughLastBreak_append_lastLine front).symm⟩
  · exact ⟨[], by simp, (List.append_nil _).symm⟩

/-- The cut of a marker that is read behind `front`, in front of what is read next. -/
structure Cut.Reads (cut : Cut) (front behind : List Char) (tail : Tail) : Prop where
  front_eq : front = cut.kept ++ cut.indent
  kept : cut.kept = keptFront front tail.endsLine
  behind_eq : behind = cut.tail ++ tail.rest
  name : cut.name = tail.name
  nameEnds : ∀ char ∈ (cut.trailing ++ (cut.lineBreak ++ tail.rest)).head?, Text.isWordChar char = false
  trailingEnds : ∀ char ∈ (cut.lineBreak ++ tail.rest).head?, isInlineBlank char = false
  lineBreak : dropLineBreak (cut.lineBreak ++ tail.rest) = (tail.endsLine, tail.rest)

/-- A marker that is read is a cut of the text. -/
theorem exists_cut {tail : Tail} (read : readTail? behind = some tail) (front : List Char) :
    ∃ cut : Cut, cut.Reads front behind tail := by
  obtain ⟨indent, isIndent, split⟩ := exists_indent front tail.endsLine
  simp only [readTail?, Option.ite_none_left_eq_some, Option.some.injEq, Bool.or_eq_true, decide_eq_true_eq,
    List.isEmpty_iff, length_dropWhile_eq_iff, not_or] at read
  obtain ⟨filled, rfl⟩ := read
  let unnamed := (behind.dropWhile isInlineBlank).dropWhile Text.isWordChar
  obtain ⟨lineBreak, isLineBreak, broken⟩ := exists_lineBreak (unnamed.dropWhile isInlineBlank)
  let cut : Cut := {
    kept := keptFront front (dropLineBreak (unnamed.dropWhile isInlineBlank)).1
    indent
    gap := behind.takeWhile isInlineBlank
    name := (behind.dropWhile isInlineBlank).takeWhile Text.isWordChar
    trailing := unnamed.takeWhile isInlineBlank
    lineBreak
    isIndent
    isGap := ⟨filled.1, fun _ => List.mem_takeWhile_imp⟩
    isName := ⟨filled.2, fun _ => List.mem_takeWhile_imp⟩
    isTrailing := fun _ => List.mem_takeWhile_imp
    isLineBreak }
  refine ⟨cut, split, rfl, ?_, rfl, ?_, ?_, ?_⟩
  · calc behind
        = cut.gap ++ (cut.name ++ (cut.trailing ++ unnamed.dropWhile isInlineBlank)) := by
          simp only [cut, unnamed, List.takeWhile_append_dropWhile]
      _ = cut.gap ++ (cut.name ++ (cut.trailing ++ (cut.lineBreak ++ _))) :=
          congrArg (fun left => cut.gap ++ (cut.name ++ (cut.trailing ++ left))) broken
      _ = cut.tail ++ _ := by
          simp only [Cut.tail, List.append_assoc]
          rfl
  · rw [← broken, List.takeWhile_append_dropWhile]
    exact head?_dropWhile_eq_false
  · rw [← broken]
    exact head?_dropWhile_eq_false
  · rw [← broken]

namespace Cut

variable (cut : Cut)

theorem free_indent : '#' ∉ cut.indent :=
  fun member => absurd (cut.isIndent _ member) (by decide)

theorem free_tail : '#' ∉ cut.tail := by
  have lineBreak : ∀ lineBreak ∈ [[], ['\n'], ['\r', '\n']], '#' ∉ lineBreak := by decide
  simp only [tail, List.mem_append, not_or]
  exact ⟨fun member => absurd (cut.isGap.2 _ member) (by decide),
    fun member => absurd (cut.isName.2 _ member) (by decide),
    fun member => absurd (cut.isTrailing _ member) (by decide), lineBreak _ cut.isLineBreak⟩

end Cut

/-! ## The whole text -/

theorem pieces_of_none (none : splitAtKeyword text = none) : pieces text = [.text text] := by
  rw [pieces]
  split
  · rfl
  · next found =>
    rw [none] at found
    cases found

theorem pieces_of_plain (found : splitAtKeyword text = some (front, behind)) (plain : readTail? behind = none) :
    pieces text = .text (front ++ keyword) :: pieces behind := by
  rw [pieces]
  split
  · next none =>
    rw [none] at found
    cases found
  · next other =>
    cases other.symm.trans found
    split
    · rfl
    · next read =>
      rw [plain] at read
      cases read

theorem pieces_of_marker {tail : Tail} (found : splitAtKeyword text = some (front, behind))
    (read : readTail? behind = some tail) :
    pieces text = .text (keptFront front tail.endsLine) :: .slot (String.ofList tail.name) :: pieces tail.rest := by
  rw [pieces]
  split
  · next none =>
    rw [none] at found
    cases found
  · next other =>
    cases other.symm.trans found
    split
    · next none =>
      rw [none] at read
      cases read
    · next other =>
      cases other.symm.trans read
      rfl

/-- The cuts of a text, and the text behind the last one: all markers, in order, and all that is put together when
their slots are filled. -/
structure CutsInto (text : List Char) (cuts : List Cut) (last : List Char) : Prop where
  source : text = cuts.flatMap Cut.source ++ last
  names : cuts.map Cut.name = names text
  filled : ∀ code, fill code (pieces text) = cuts.flatMap (Cut.filled code) ++ last

/-- Text that is kept in front of the rest goes to the first cut. -/
def keepFront (front : List Char) : List Cut → List Char → List Cut × List Char
  | [], last => ([], front ++ last)
  | cut :: others, last => ({ cut with kept := front ++ cut.kept } :: others, last)

theorem CutsInto.kept {cuts : List Cut} {last : List Char} (reads : CutsInto behind cuts last) (front : List Char)
    (same : pieces text = .text front :: pieces behind) (whole : text = front ++ behind)
    (named : Marker.names text = Marker.names behind) :
    CutsInto text (keepFront front cuts last).1 (keepFront front cuts last).2 := by
  have shown : ∀ code, fill code (pieces text) = front ++ fill code (pieces behind) := by
    intro code
    rw [same]
    rfl
  cases cuts with
  | nil =>
    refine ⟨?_, named ▸ reads.names, fun code => ?_⟩
    · rw [whole, reads.source]
      rfl
    · rw [shown, reads.filled]
      rfl
  | cons cut others =>
    refine ⟨?_, named ▸ reads.names, fun code => ?_⟩
    · rw [whole, reads.source]
      simp only [keepFront, List.flatMap_cons, Cut.source, Cut.tail, List.append_assoc]
    · rw [shown, reads.filled]
      simp only [keepFront, List.flatMap_cons, Cut.filled, List.append_assoc]

/-- How a text is read: the cuts that are made, one after the other, and the text behind the last one. -/
inductive Scan : List Char → List Cut → List Char → Prop where
  | stop {text : List Char} (none : splitAtKeyword text = none) : Scan text [] text
  | plain {text front behind : List Char} {cuts : List Cut} {last : List Char}
      (found : splitAtKeyword text = some (front, behind)) (unread : readTail? behind = none)
      (scan : Scan behind cuts last) :
      Scan text (keepFront (front ++ keyword) cuts last).1 (keepFront (front ++ keyword) cuts last).2
  | marker {text front behind : List Char} {tail : Tail} {cut : Cut} {cuts : List Cut} {last : List Char}
      (found : splitAtKeyword text = some (front, behind)) (read : readTail? behind = some tail)
      (reads : cut.Reads front behind tail) (scan : Scan tail.rest cuts last) : Scan text (cut :: cuts) last

theorem exists_scan (text : List Char) : ∃ cuts last, Scan text cuts last := by
  induction text using pieces.induct with
  | case1 text none => exact ⟨[], text, .stop none⟩
  | case2 text front behind found plain ih =>
    obtain ⟨cuts, last, scan⟩ := ih
    exact ⟨_, _, .plain found plain scan⟩
  | case3 text front behind found tail read ih =>
    obtain ⟨cuts, last, scan⟩ := ih
    obtain ⟨cut, reads⟩ := exists_cut read front
    exact ⟨cut :: cuts, last, .marker found read reads scan⟩

theorem Scan.cutsInto {cuts : List Cut} {last : List Char} (scan : Scan text cuts last) : CutsInto text cuts last := by
  induction scan with
  | stop none =>
    refine ⟨rfl, (names_of_splitAtKeyword_eq_none none).symm, fun code => ?_⟩
    rw [pieces_of_none none]
    exact List.append_nil _
  | plain found unread _ ih =>
    obtain ⟨rfl, named⟩ := eq_append_of_splitAtKeyword found
    refine ih.kept _ (pieces_of_plain found unread) (List.append_assoc ..).symm ?_
    rw [named, names_keyword_append, nameAt?_keyword_append, unread]
    rfl
  | @marker _ front behind tail cut cuts last found read reads _ ih =>
    obtain ⟨rfl, named⟩ := eq_append_of_splitAtKeyword found
    refine ⟨?_, ?_, fun code => ?_⟩
    · calc front ++ (keyword ++ behind)
          = (cut.kept ++ cut.indent) ++ (keyword ++ (cut.tail ++ (cuts.flatMap Cut.source ++ last))) := by
            rw [← reads.front_eq, ← ih.source, ← reads.behind_eq]
        _ = (cut :: cuts).flatMap Cut.source ++ last := by
            simp only [List.flatMap_cons, Cut.source, List.append_assoc]
    · rw [named, names_keyword_append, nameAt?_keyword_append, read, reads.behind_eq,
        names_append_of_free cut.free_tail, ← ih.names, List.map_cons, reads.name]
      rfl
    · rw [pieces_of_marker found read, List.flatMap_cons, Cut.filled, reads.name, reads.kept, List.append_assoc,
        ← ih.filled]
      simp only [fill, List.flatMap_cons, Piece.render, List.append_assoc]

/-- Every text is cut at its markers. -/
theorem exists_cutsInto (text : List Char) : ∃ cuts last, CutsInto text cuts last := by
  obtain ⟨cuts, last, scan⟩ := exists_scan text
  exact ⟨cuts, last, scan.cutsInto⟩

/-! ## Keywords that open no marker -/

/-- In the text that is kept in front of one of the cuts, or behind the last one, `chars` stand behind `before`. -/
def KeptBehind (before chars : List Char) (cuts : List Cut) (last : List Char) : Prop :=
  ∃ passed others front back, cuts = passed ++ others ∧ before = passed.flatMap Cut.source ++ front ∧
    (others.head?.map Cut.kept).getD last = front ++ (chars ++ back)

theorem skip_free {before after : List Char} (free : '#' ∉ skipped)
    (same : skipped ++ rest = before ++ (keyword ++ after)) :
    ∃ between, before = skipped ++ between ∧ rest = between ++ (keyword ++ after) := by
  rcases List.append_eq_append_iff.1 same with ⟨between, rfl, rfl⟩ | ⟨more, rfl, ends⟩
  · exact ⟨between, rfl, rfl⟩
  · cases more with
    | nil => exact ⟨[], by simp, by simpa using ends.symm⟩
    | cons char others =>
      obtain ⟨rfl, -⟩ := List.cons.inj ends
      exact absurd (List.mem_append_right _ (List.mem_cons_self ..)) free

private theorem parts_of_keyword {more part : List Char} (same : keyword = more ++ part) :
    more = [] ∨ part = [] ∨ '#' ∉ part ∧ 'T' ∈ part := by
  have each : ∀ count ∈ List.range (keyword.length + 1), keyword.take count = [] ∨ keyword.drop count = [] ∨
      '#' ∉ keyword.drop count ∧ 'T' ∈ keyword.drop count := by decide
  have inside : more.length ∈ List.range (keyword.length + 1) := by
    rw [List.mem_range, same, List.length_append]
    omega
  have here := each _ inside
  rwa [same, List.take_left, List.drop_left] at here

private theorem Cut.exists_nameAt? (cut : Cut) (rest : List Char) :
    ∃ name, nameAt? (keyword ++ (cut.tail ++ rest)) = some name := by
  let behind := cut.name ++ (cut.trailing ++ (cut.lineBreak ++ rest))
  have word : behind.takeWhile Text.isWordChar = cut.name ++ _ := List.takeWhile_append_of_pos cut.isName.2
  refine ⟨behind.takeWhile Text.isWordChar, nameAt?_eq_some_iff.2 ⟨cut.gap, behind.dropWhile Text.isWordChar, ?_,
    cut.isGap, ⟨?_, fun _ => List.mem_takeWhile_imp⟩, head?_dropWhile_eq_false⟩⟩
  · rw [List.takeWhile_append_dropWhile]
    simp only [tail, behind, List.append_assoc]
  · rw [word]
    exact List.append_ne_nil_of_left_ne_nil cut.isName.1 _

/-- No keyword that opens no marker begins in the part of a cut that goes. -/
private theorem Cut.behind_of_plain (cut : Cut) {between after : List Char}
    (same : cut.indent ++ (keyword ++ (cut.tail ++ rest)) = between ++ (keyword ++ after))
    (plain : nameAt? (keyword ++ after) = none) :
    ∃ further, between = cut.indent ++ (keyword ++ (cut.tail ++ further)) ∧ rest = further ++ (keyword ++ after) := by
  obtain ⟨others, rfl, ends⟩ := skip_free cut.free_indent same
  cases others with
  | nil =>
    obtain rfl : cut.tail ++ rest = after := List.append_cancel_left ends
    obtain ⟨name, opens⟩ := cut.exists_nameAt? rest
    rw [opens] at plain
    cases plain
  | cons char others =>
    obtain ⟨rfl, passed⟩ := List.cons.inj
      (show '#' :: (keyword.tail ++ (cut.tail ++ rest)) = char :: (others ++ (keyword ++ after)) from ends)
    obtain ⟨name, rfl, opened⟩ := skip_free (by decide) passed
    obtain ⟨further, rfl, later⟩ := skip_free cut.free_tail opened
    exact ⟨further, rfl, later⟩

/-- A keyword that no marker begins with is kept as it is. -/
theorem keptBehind_of_plain {cuts : List Cut} {last before after : List Char}
    (same : cuts.flatMap Cut.source ++ last = before ++ (keyword ++ after)) (plain : nameAt? (keyword ++ after) = none) :
    KeptBehind before keyword cuts last := by
  induction cuts generalizing before with
  | nil => exact ⟨[], [], before, after, rfl, rfl, same⟩
  | cons cut others ih =>
    have whole : cut.kept ++ (cut.indent ++ (keyword ++ (cut.tail ++ (others.flatMap Cut.source ++ last)))) =
        before ++ (keyword ++ after) := by
      rw [← same]
      simp only [List.flatMap_cons, Cut.source, List.append_assoc]
    clear same
    -- The keyword begins either behind the marker of the cut or in the text that is kept in front of it.
    have behind : ∀ between, cut.indent ++ (keyword ++ (cut.tail ++ (others.flatMap Cut.source ++ last))) =
        between ++ (keyword ++ after) → KeptBehind (cut.kept ++ between) keyword (cut :: others) last := by
      intro between same
      obtain ⟨further, rfl, later⟩ := cut.behind_of_plain same plain
      obtain ⟨passed, left, front, back, rfl, rfl, kept⟩ := ih later
      refine ⟨cut :: passed, left, front, back, rfl, ?_, kept⟩
      simp only [List.flatMap_cons, Cut.source, List.append_assoc]
    rcases List.append_eq_append_iff.1 whole with ⟨between, rfl, later⟩ | ⟨more, kept, within⟩
    · exact behind between later
    · rcases List.append_eq_append_iff.1 within with ⟨back, rfl, -⟩ | ⟨part, split, ends⟩
      · exact ⟨[], cut :: others, before, back, rfl, rfl, kept⟩
      · rcases parts_of_keyword split with rfl | rfl | ⟨free, letter⟩
        · obtain rfl : keyword = part := split
          rw [List.append_nil] at kept
          simpa [kept] using behind [] ends
        · exact ⟨[], cut :: others, before, [], rfl, rfl, by simpa [split] using kept⟩
        · obtain ⟨between, blanks, -⟩ := skip_free free ends.symm
          exact absurd (cut.isIndent 'T' (blanks ▸ List.mem_append_left _ letter)) (by decide)

/-- Resolving is one substitution: the literal texts and the names depend on the source alone, and the names are those
of all markers of the source, in order. -/
theorem resolve_eq_substitution (source : String) :
    ∃ (cuts : List Cut) (last : List Char), source.toList = cuts.flatMap Cut.source ++ last ∧
      cuts.map Cut.name = names source.toList ∧
      (∀ slots, resolve source slots = String.ofList (cuts.flatMap (Cut.filled slots.get?) ++ last)) ∧
      ∀ before after, source.toList = before ++ (keyword ++ after) → nameAt? (keyword ++ after) = none →
        KeptBehind before keyword cuts last := by
  obtain ⟨cuts, last, reads⟩ := exists_cutsInto source.toList
  exact ⟨cuts, last, reads.source, reads.names, fun slots => congrArg String.ofList (reads.filled slots.get?),
    fun before after same plain => keptBehind_of_plain (reads.source.symm.trans same) plain⟩

end ShaderWeave.Marker
