import ShaderWeave.Proofs.Code.Resources
import ShaderWeave.Proofs.Stencil.Texts
import ShaderWeave.Proofs.Template.Substitution

/-! # Templates line by line

Where each marker has its line for itself, the lines of a template stay, and the code of a slot takes the place of its
marker.
-/

namespace ShaderWeave.Marker

open Stencil Code

/-! ## Cutting at markers -/

variable {text front behind : List Char}

private theorem dropStart?_keyword_of_ne {char : Char} (apart : char ≠ '#') (rest : List Char) :
    dropStart? keyword (char :: rest) = none := by
  simp [dropStart?, keyword, List.isPrefixOf, apart.symm]

theorem splitAtKeyword_of_free (free : '#' ∉ text) : splitAtKeyword text = none := by
  induction text with
  | nil => rfl
  | cons char rest ih =>
    obtain ⟨apart, free⟩ := not_or.1 (mt List.mem_cons.2 free)
    rw [splitAtKeyword, dropStart?_keyword_of_ne (Ne.symm apart), ih free]
    rfl

theorem splitAtKeyword_append (free : '#' ∉ front) :
    splitAtKeyword (front ++ (keyword ++ behind)) = some (front, behind) := by
  induction front with
  | nil =>
    have start : dropStart? keyword (keyword ++ behind) = some behind := by simp [dropStart?]
    change splitAtKeyword ('#' :: (keyword.tail ++ behind)) = _
    rw [splitAtKeyword, ← List.cons_append, show '#' :: keyword.tail = keyword from rfl, start]
  | cons char rest ih =>
    obtain ⟨apart, free⟩ := not_or.1 (mt List.mem_cons.2 free)
    rw [List.cons_append, splitAtKeyword, dropStart?_keyword_of_ne (Ne.symm apart), ih free]
    rfl

/-- A word behind a space, with a line feed behind it, is the name of a slot. -/
theorem readTail?_word {slot : String} (word : Word slot) (rest : List Char) :
    readTail? (' ' :: (slot.toList ++ '\n' :: rest)) = some ⟨slot.toList, true, rest⟩ := by
  obtain ⟨filled, chars⟩ := word
  have trimmed : (' ' :: (slot.toList ++ '\n' :: rest)).dropWhile isInlineBlank = slot.toList ++ '\n' :: rest := by
    cases letters : slot.toList with
    | nil => exact absurd letters filled
    | cons first others =>
      have inked := not_isInlineBlank_of_isWordChar (chars first (letters ▸ List.mem_cons_self ..))
      rw [List.dropWhile_cons_of_pos (by decide), List.cons_append, List.dropWhile_cons_of_neg (by simp [inked])]
  have feed : Text.isWordChar '\n' = false := by decide
  have name : (slot.toList ++ '\n' :: rest).takeWhile Text.isWordChar = slot.toList := by
    rw [List.takeWhile_append_of_pos chars, List.takeWhile_cons_of_neg (by simp [feed]), List.append_nil]
  have left : (slot.toList ++ '\n' :: rest).dropWhile Text.isWordChar = '\n' :: rest := by
    rw [List.dropWhile_append_of_pos chars, List.dropWhile_cons_of_neg (by simp [feed])]
  have ended : ('\n' :: rest).dropWhile isInlineBlank = '\n' :: rest := List.dropWhile_cons_of_neg (by decide)
  simp [readTail?, trimmed, name, left, ended, dropLineBreak, filled]

/-- Of the text in front of a marker, its whole lines are kept. -/
theorem keptFront_unlines (lines : List String) (indent : Nat) :
    keptFront ((unlines lines).toList ++ List.replicate indent ' ') true = (unlines lines).toList := by
  have feeds : ∀ char ∈ (List.replicate indent ' ').reverse, (char != '\n') = true := by
    intro char member
    obtain ⟨-, rfl⟩ := List.mem_replicate.1 (List.mem_reverse.1 member)
    decide
  have whole : (unlines lines).toList.reverse.takeWhile (· != '\n') = [] ∧
      (unlines lines).toList.reverse.dropWhile (· != '\n') = (unlines lines).toList.reverse := by
    rcases List.eq_nil_or_concat lines with rfl | ⟨front, line, rfl⟩
    · exact ⟨rfl, rfl⟩
    · have last : (unlines (front ++ [line])).toList = ((unlines front).toList ++ line.toList) ++ ['\n'] := by
        rw [unlines_append, String.toList_append, List.append_assoc]
        simp [unlines]
      rw [List.concat_eq_append, last, List.reverse_append]
      exact ⟨rfl, rfl⟩
  have blanks : lastLine ((unlines lines).toList ++ List.replicate indent ' ') = List.replicate indent ' ' := by
    rw [lastLine, List.reverse_append, List.takeWhile_append_of_pos feeds, whole.1, List.append_nil,
      List.reverse_reverse]
  have kept : throughLastBreak ((unlines lines).toList ++ List.replicate indent ' ') = (unlines lines).toList := by
    rw [throughLastBreak, List.reverse_append, List.dropWhile_append_of_pos feeds, whole.2, List.reverse_reverse]
  simp [keptFront, blanks, kept, isInlineBlank]

theorem pieces_of_free (free : '#' ∉ text) : pieces text = [.text text] :=
  pieces_of_none (splitAtKeyword_of_free free)

/-! ## Lines of a template -/

/-- The slot whose marker has the line for itself. -/
def slotOf? (line : List Char) : Option (List Char) := dropStart? (keyword ++ [' ']) (line.dropWhile (· == ' '))

/-- Whether nothing in a line but a marker that has the line for itself can be taken for a marker. -/
def isClear (line : List Char) : Bool :=
  match slotOf? line with
  | some slot => !slot.isEmpty && slot.all Text.isWordChar
  | none => !line.contains '#'

/-- What stands in place of a line. -/
def filled (code : String → List String) (line : String) : List String :=
  match slotOf? line.toList with
  | some slot => code (String.ofList slot)
  | none => [line]

private theorem toList_unlines_cons (line : String) (rest : List String) :
    (unlines (line :: rest)).toList = line.toList ++ '\n' :: (unlines rest).toList := by
  simp [unlines]

private theorem eq_of_slotOf? {line slot : List Char} (marker : slotOf? line = some slot) :
    ∃ indent, line = List.replicate indent ' ' ++ (keyword ++ ' ' :: slot) := by
  obtain ⟨start, rest⟩ := Option.ite_none_right_eq_some.1 marker
  obtain rfl := Option.some.inj rest
  obtain ⟨name, ends⟩ := List.isPrefixOf_iff_prefix.1 start
  have blanks : line.takeWhile (· == ' ') = List.replicate (line.takeWhile (· == ' ')).length ' ' := by
    rw [List.eq_replicate_iff]
    exact ⟨rfl, fun char member => by simpa using List.mem_takeWhile_imp member⟩
  refine ⟨(line.takeWhile (· == ' ')).length, ?_⟩
  rw [← blanks, ← ends, List.drop_left]
  conv_lhs => rw [← List.takeWhile_append_dropWhile (p := (· == ' ')) (l := line), ← ends]
  simp

private theorem not_mem_unlines {lines : List String} (free : ∀ line ∈ lines, '#' ∉ line.toList) :
    '#' ∉ (unlines lines).toList := by
  induction lines with
  | nil => simp [unlines]
  | cons line rest ih =>
    obtain ⟨here, later⟩ := List.forall_mem_cons.1 free
    rw [toList_unlines_cons, List.mem_append, List.mem_cons, not_or, not_or]
    exact ⟨here, by decide, ih later⟩

variable {slots : SlotBuffer} {code : String → List String}

/-- Behind lines without markers, the code of each slot takes the place of its marker. -/
private theorem fill_pieces (filled : ∀ key, (slots.get? key).getD "" = unlines (code key)) {passed lines : List String}
    (free : ∀ line ∈ passed, '#' ∉ line.toList) (clear : ∀ line ∈ lines, isClear line.toList = true) :
    fill slots.get? (pieces (unlines (passed ++ lines)).toList) =
      (unlines (passed ++ lines.flatMap (Marker.filled code))).toList := by
  have nothing : ∀ other ∈ ([] : List String), '#' ∉ other.toList := by simp
  induction lines generalizing passed with
  | nil => simp [pieces_of_free (not_mem_unlines free), fill, Piece.render]
  | cons line rest ih =>
    obtain ⟨here, later⟩ := List.forall_mem_cons.1 clear
    rw [isClear] at here
    rw [List.flatMap_cons, Marker.filled]
    cases marker : slotOf? line.toList with
    | none =>
      have plain : '#' ∉ line.toList := by simpa [marker] using here
      have free' : ∀ other ∈ passed ++ [line], '#' ∉ other.toList := by
        simpa [or_imp, forall_and] using ⟨free, plain⟩
      simpa using ih free' later
    | some slot =>
      have word : Word (String.ofList slot) := ⟨by simp_all, by simp_all⟩
      obtain ⟨indent, chars⟩ := eq_of_slotOf? marker
      have text : (unlines (passed ++ line :: rest)).toList =
          ((unlines passed).toList ++ List.replicate indent ' ') ++
            (keyword ++ ' ' :: ((String.ofList slot).toList ++ '\n' :: (unlines rest).toList)) := by
        simp [unlines_append, toList_unlines_cons, chars]
      have front : '#' ∉ (unlines passed).toList ++ List.replicate indent ' ' := by
        rw [List.mem_append, not_or]
        exact ⟨not_mem_unlines free, by simp [List.mem_replicate]⟩
      have behind : fill slots.get? (pieces (unlines rest).toList) =
          (unlines (rest.flatMap (Marker.filled code))).toList := ih nothing later
      rw [text, pieces_of_marker (splitAtKeyword_append front) (readTail?_word word _), keptFront_unlines,
        String.ofList_toList]
      simp only [fill, List.flatMap_cons, Piece.render, filled] at behind ⊢
      rw [behind, unlines_append, unlines_append, String.toList_append, String.toList_append]

/-- The code of each slot takes the place of its marker, and all other lines stay. -/
theorem resolve_unlines (filled : ∀ key, (slots.get? key).getD "" = unlines (code key)) {lines : List String}
    (clear : ∀ line ∈ lines, isClear line.toList = true) :
    Marker.resolve (unlines lines) slots = unlines (lines.flatMap (Marker.filled code)) := by
  have nothing : ∀ other ∈ ([] : List String), '#' ∉ other.toList := by simp
  have all : fill slots.get? (pieces (unlines lines).toList) = (unlines (lines.flatMap (Marker.filled code))).toList :=
    fill_pieces filled nothing clear
  rw [Marker.resolve, all, String.ofList_toList]

end ShaderWeave.Marker
