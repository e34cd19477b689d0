import Mathlib.Data.List.Basic
import ShaderWeave.Proofs.Code.Reading
import ShaderWeave.Proofs.Stencil.Texts

/-! # Spelled lines

A line of a stencil is spelled by its characters and its holes. If every hole is filled with a whole number, much of
what is read in the line is seen from its spelling: the words, and that a character or a keyword is not there.
-/

namespace ShaderWeave.Stencil

open Code

inductive Glyph where
  | letter (char : Char)
  | hole (term : Term)
  deriving DecidableEq, Repr

/-- The spelling of a line. -/
inductive Spells : List Piece → List Glyph → Prop where
  | nil : Spells [] []
  | text (chars : List Char) {row : List Piece} {glyphs : List Glyph} : Spells row glyphs →
      Spells (.text (String.ofList chars) :: row) (chars.map .letter ++ glyphs)
  | hole (term : Term) {row : List Piece} {glyphs : List Glyph} : Spells row glyphs →
      Spells (.hole term :: row) (.hole term :: glyphs)

/-- The spelling of lines that stand one after the other. -/
inductive SpellsAll : List Item → List (List Glyph) → Prop where
  | nil : SpellsAll [] []
  | cons {row : List Piece} {glyphs : List Glyph} {items : List Item} {others : List (List Glyph)} : Spells row glyphs →
      SpellsAll items others → SpellsAll (.line row :: items) (glyphs :: others)
  | embed {name : String} {inner items : List Item} {rows others : List (List Glyph)} : SpellsAll inner rows →
      SpellsAll items others → SpellsAll (.embed name inner :: items) (rows ++ others)

/-- The lines of a stencil without branches and repeats, as they are spelled, pass a check. -/
def Passes (check : List (List Glyph) → Bool) (items : List Item) : Prop :=
  ∃ spelled, SpellsAll items spelled ∧ check spelled = true

theorem passes_of_spells {check : List (List Glyph) → Bool} {items : List Item} {spelled : List (List Glyph)}
    (spells : SpellsAll items spelled) (passed : check spelled = true) : Passes check items :=
  ⟨spelled, spells, passed⟩

theorem Passes.imp {check weaker : List (List Glyph) → Bool} (implies : ∀ rows, check rows = true → weaker rows = true)
    {items : List Item} (passes : Passes check items) : Passes weaker items := by
  obtain ⟨spelled, spells, passed⟩ := passes
  exact ⟨spelled, spells, implies spelled passed⟩

/-! ## Filling -/

namespace Glyph

def closedOver (names : List String) : Glyph → Bool
  | letter _ => true
  | hole term => term.closedOver names

def fill (number : Term → Nat) : Glyph → List Char
  | letter char => [char]
  | hole term => (toString (number term)).toList

end Glyph

/-- The line of a spelling, given the numbers for its holes. -/
def spelledOut (number : Term → Nat) (glyphs : List Glyph) : List Char := glyphs.flatMap (Glyph.fill number)

/-- The number that a term stands for. -/
def numberOf (bindings : Bindings) (term : Term) : Nat :=
  match term.eval bindings with
  | .ok (some (.int value)) => value.toNat
  | _ => 0

variable {bindings : Bindings} {scope : List String} {number : Term → Nat}

theorem fill_of_numberOf (whole : Whole scope bindings) {term : Term} (closedOver : term.closedOver scope = true) :
    (Piece.hole term).fill bindings = toString (numberOf bindings term) := by
  obtain ⟨value, evaluated⟩ := term.eval_of_whole whole closedOver
  simp only [Piece.fill, Piece.render, numberOf, evaluated]
  rfl

theorem toList_filled {row : List Piece} {glyphs : List Glyph} (spells : Spells row glyphs)
    (whole : Whole scope bindings) (closedOver : glyphs.all (Glyph.closedOver scope) = true) :
    (filled bindings row).toList = spelledOut (numberOf bindings) glyphs := by
  induction spells with
  | nil => rfl
  | text chars _ ih =>
    rw [List.all_append, Bool.and_eq_true_iff] at closedOver
    have here : (chars.map Glyph.letter).flatMap (Glyph.fill (numberOf bindings)) = chars :=
      (List.flatMap_map ..).trans (List.flatMap_singleton' chars)
    rw [filled, List.map_cons, String.join_cons, Piece.fill_text, String.toList_append, String.toList_ofList,
      spelledOut, List.flatMap_append, here]
    exact congrArg _ (ih closedOver.2)
  | hole term _ ih =>
    rw [List.all_cons, Bool.and_eq_true_iff] at closedOver
    rw [filled, List.map_cons, String.join_cons, fill_of_numberOf whole closedOver.1, String.toList_append, spelledOut,
      List.flatMap_cons]
    exact congrArg ((toString (numberOf bindings term)).toList ++ ·) (ih closedOver.2)

theorem texts_spelledOut {items : List Item} {spelled : List (List Glyph)} (spells : SpellsAll items spelled)
    (closed : spelled.all (·.all (Glyph.closedOver scope)) = true) (whole : Whole scope bindings) :
    (texts bindings items).map String.toList = spelled.map (spelledOut (numberOf bindings)) := by
  induction spells with
  | nil => rfl
  | cons here _ ih =>
    rw [List.all_cons, Bool.and_eq_true_iff] at closed
    rw [texts, Item.texts, List.singleton_append, List.map_cons, List.map_cons, ih closed.2,
      toList_filled here whole closed.1]
  | embed _ _ inner outer =>
    rw [List.all_append, Bool.and_eq_true_iff] at closed
    rw [texts, Item.texts, List.map_append, List.map_append, inner closed.1, outer closed.2]

/-! ## Digits -/

theorem exists_toList_toString (number : Nat) :
    ∃ first rest, (toString number).toList = first :: rest ∧ first.isDigit = true := by
  cases digits : (toString number).toList with
  | nil =>
    rw [Nat.toString_eq_repr, Nat.toList_repr] at digits
    exact absurd digits Nat.toDigits_ne_nil
  | cons first rest => exact ⟨first, rest, rfl, isDigit_of_mem_toString (digits ▸ List.mem_cons_self ..)⟩

theorem not_mem_spelledOut {char : Char} (foreign : char.isDigit = false) {glyphs : List Glyph}
    (absent : glyphs.contains (.letter char) = false) : char ∉ spelledOut number glyphs := by
  intro member
  obtain ⟨glyph, isGlyph, inside⟩ := List.mem_flatMap.1 member
  cases glyph with
  | letter other =>
    obtain rfl := List.mem_singleton.1 inside
    simp [isGlyph] at absent
  | hole term =>
    rw [isDigit_of_mem_toString inside] at foreign
    cases foreign

/-! ## Keywords -/

/-- A word that starts with no digit is not found among digits. -/
theorem isPrefixOf_of_digit {char digit : Char} (foreign : char.isDigit = false) (isDigit : digit.isDigit = true)
    (word rest : List Char) : (char :: word).isPrefixOf (digit :: rest) = false := by
  have apart : (char == digit) = false := by
    rw [beq_eq_false_iff_ne]
    rintro rfl
    rw [foreign] at isDigit
    cases isDigit
  rw [List.isPrefixOf_cons_cons, apart]
  rfl

theorem hasInfix_of_digits {char : Char} {word digits : List Char} (foreign : char.isDigit = false)
    (all : ∀ digit ∈ digits, digit.isDigit = true) (rest : List Char) :
    hasInfix (char :: word) (digits ++ rest) = hasInfix (char :: word) rest := by
  induction digits with
  | nil => rfl
  | cons digit others ih =>
    rw [List.cons_append, hasInfix, isPrefixOf_of_digit foreign (all digit (List.mem_cons_self ..)),
      ih fun other member => all other (List.mem_cons_of_mem _ member)]
    rfl

private theorem letter_beq_hole (char : Char) (term : Term) : (Glyph.letter char == .hole term) = false := by
  rw [beq_eq_false_iff_ne]
  simp

/-- A word without digits stands at the start of a line as it is spelled there, or not at all. -/
theorem isPrefixOf_spelledOut {word : List Char} (foreign : word.any Char.isDigit = false) (glyphs : List Glyph) :
    word.isPrefixOf (spelledOut number glyphs) = (word.map Glyph.letter).isPrefixOf glyphs := by
  induction word generalizing glyphs with
  | nil => rfl
  | cons char rest ih =>
    obtain ⟨letter, foreign⟩ : char.isDigit = false ∧ rest.any Char.isDigit = false := by simpa using foreign
    cases glyphs with
    | nil => rfl
    | cons glyph others =>
      rw [List.map_cons, List.isPrefixOf_cons_cons, spelledOut, List.flatMap_cons]
      cases glyph with
      | letter other =>
        have same : (Glyph.letter char == .letter other) = (char == other) := by
          rw [Bool.eq_iff_iff]
          simp
        rw [← ih foreign others, same]
        rfl
      | hole term =>
        obtain ⟨first, digits, shape, digit⟩ := exists_toList_toString (number term)
        rw [letter_beq_hole, Glyph.fill, shape, List.cons_append, isPrefixOf_of_digit letter digit]
        rfl

/-- A word without digits stands somewhere in a line as it is spelled there, or not at all. -/
theorem hasInfix_spelledOut {char : Char} {word : List Char} (foreign : (char :: word).any Char.isDigit = false)
    (glyphs : List Glyph) :
    hasInfix (char :: word) (spelledOut number glyphs) = hasInfix ((char :: word).map Glyph.letter) glyphs := by
  induction glyphs with
  | nil => rfl
  | cons glyph others ih =>
    cases glyph with
    | letter other =>
      rw [hasInfix, ← isPrefixOf_spelledOut foreign, ← ih]
      rfl
    | hole term =>
      obtain ⟨letter, -⟩ : char.isDigit = false ∧ word.any Char.isDigit = false := by simpa using foreign
      have digits : ∀ digit ∈ (toString (number term)).toList, digit.isDigit = true :=
        fun _ member => isDigit_of_mem_toString member
      have behind : hasInfix (char :: word) ((toString (number term)).toList ++ spelledOut number others) =
          hasInfix (char :: word) (spelledOut number others) := hasInfix_of_digits letter digits _
      rw [hasInfix, List.map_cons, List.isPrefixOf_cons_cons, letter_beq_hole, ← List.map_cons, ← ih]
      exact behind

theorem spelledOut_append (first second : List Glyph) :
    spelledOut number (first ++ second) = spelledOut number first ++ spelledOut number second :=
  List.flatMap_append

/-! ## Words -/

def Glyph.isWord : Glyph → Bool
  | letter char => Text.isWordChar char
  | hole _ => true

/-- The words of a line as they are spelled. -/
def spelledWords (glyphs : List Glyph) : List (List Glyph) :=
  (glyphs.splitOnP fun glyph => !glyph.isWord).filter (!·.isEmpty)

theorem splitOnP_append_of_forall {α : Type} {isBreak : α → Bool} {front : List α}
    (none : ∀ item ∈ front, isBreak item = false) (rest : List α) :
    (front ++ rest).splitOnP isBreak = (rest.splitOnP isBreak).modifyHead (front ++ ·) := by
  induction front with
  | nil =>
    rw [List.nil_append]
    cases rest.splitOnP isBreak <;> rfl
  | cons first others ih =>
    rw [List.cons_append, List.splitOnP_cons_eq_if_modifyHead, none first (List.mem_cons_self ..),
      ih fun item member => none item (List.mem_cons_of_mem _ member)]
    cases rest.splitOnP isBreak <;> rfl

theorem splitOnP_spelledOut (glyphs : List Glyph) :
    (spelledOut number glyphs).splitOnP (fun char => !Text.isWordChar char) =
      (glyphs.splitOnP fun glyph => !glyph.isWord).map (spelledOut number) := by
  induction glyphs with
  | nil => rfl
  | cons glyph others ih =>
    rw [spelledOut, List.flatMap_cons, ← spelledOut, List.splitOnP_cons_eq_if_modifyHead]
    by_cases word : glyph.isWord = true
    · have inside : ∀ char ∈ glyph.fill number, (!Text.isWordChar char) = false := by
        intro char member
        cases glyph with
        | letter other =>
          obtain rfl : char = other := List.mem_singleton.1 member
          simpa [Glyph.isWord] using word
        | hole term => rw [isWordChar_of_isDigit (isDigit_of_mem_toString member), Bool.not_true]
      rw [splitOnP_append_of_forall inside, ih, word]
      cases others.splitOnP fun glyph => !glyph.isWord <;> rfl
    · cases glyph with
      | letter char =>
        have apart : Text.isWordChar char = false := by simpa [Glyph.isWord] using word
        rw [Glyph.fill, List.singleton_append, List.splitOnP_cons_eq_if_modifyHead, ih]
        simp [apart, Glyph.isWord, spelledOut]
      | hole term => exact absurd rfl word

theorem isEmpty_spelledOut (glyphs : List Glyph) : (spelledOut number glyphs).isEmpty = glyphs.isEmpty := by
  cases glyphs with
  | nil => rfl
  | cons glyph others =>
    cases glyph with
    | letter char => rfl
    | hole term =>
      obtain ⟨first, digits, shape, -⟩ := exists_toList_toString (number term)
      rw [spelledOut, List.flatMap_cons, Glyph.fill, shape]
      rfl

/-- The words of a line are those of its spelling, spelled out. -/
theorem words_spelledOut (glyphs : List Glyph) :
    words (spelledOut number glyphs) = (spelledWords glyphs).map (spelledOut number) := by
  rw [words, splitOnP_spelledOut, List.filter_map, spelledWords]
  congr 1
  apply List.filter_congr
  intro word _
  rw [Function.comp_apply, isEmpty_spelledOut]

/-- The function that a line declares, as it is spelled. -/
def spelledFunction? (glyphs : List Glyph) : Option (List Glyph) :=
  if (functionFront.map Glyph.letter).isPrefixOf glyphs then (spelledWords glyphs)[1]? else none

/-- What a line mentions, as it is spelled. -/
def spelledMentions (glyphs : List Glyph) : List (List Glyph) :=
  if (functionFront.map Glyph.letter).isPrefixOf glyphs then (spelledWords glyphs).drop 2 else spelledWords glyphs

theorem function?_spelledOut (glyphs : List Glyph) :
    function? (spelledOut number glyphs) = (spelledFunction? glyphs).map (spelledOut number) := by
  rw [function?, spelledFunction?, isPrefixOf_spelledOut (by decide), words_spelledOut, List.getElem?_map]
  split <;> rfl

theorem mentions_spelledOut (glyphs : List Glyph) :
    mentions (spelledOut number glyphs) = (spelledMentions glyphs).map (spelledOut number) := by
  rw [mentions, spelledMentions, isPrefixOf_spelledOut (by decide), words_spelledOut, ← List.map_drop]
  split <;> rfl

/-! ## Names of lookups -/

def Glyph.isDigit : Glyph → Bool
  | letter char => char.isDigit
  | hole _ => true

/-- Whether a word is spelled like the name of a lookup function. -/
def spellsLookup (word : List Glyph) : Bool :=
  (lookupFront.map Glyph.letter).isPrefixOf word && !(word.drop lookupFront.length).isEmpty &&
    (word.drop lookupFront.length).all Glyph.isDigit

theorem isLookup_spelledOut (word : List Glyph) : isLookup (spelledOut number word) = spellsLookup word := by
  rw [isLookup, spellsLookup, isPrefixOf_spelledOut (by decide)]
  by_cases front : (lookupFront.map Glyph.letter).isPrefixOf word = true
  · obtain ⟨rest, rfl⟩ := List.isPrefixOf_iff_prefix.1 front
    have same : spelledOut number (lookupFront.map Glyph.letter) = lookupFront :=
      (List.flatMap_map ..).trans (List.flatMap_singleton' lookupFront)
    have digits : (spelledOut number rest).all Char.isDigit = rest.all Glyph.isDigit := by
      rw [spelledOut, List.all_flatMap]
      congr 1
      funext glyph
      cases glyph with
      | letter char => simp [Glyph.fill, Glyph.isDigit]
      | hole term => exact List.all_eq_true.2 fun char member => isDigit_of_mem_toString member
    have behind : (lookupFront.map Glyph.letter ++ rest).drop lookupFront.length = rest := by
      have length : lookupFront.length = (lookupFront.map Glyph.letter).length := rfl
      rw [length, List.drop_left]
    rw [front, spelledOut_append, same, List.drop_left, behind, isEmpty_spelledOut, digits]
  · simp [front]

/-- The lookup functions that some lines declare, as they are spelled. -/
def spelledDeclared (rows : List (List Glyph)) : List (List Glyph) :=
  (rows.filterMap spelledFunction?).filter spellsLookup

/-- The lookup functions that some lines mention, as they are spelled. -/
def spelledLookups (rows : List (List Glyph)) : List (List Glyph) :=
  (rows.flatMap spelledMentions).filter spellsLookup

private theorem filter_isLookup (words : List (List Glyph)) :
    (words.map (spelledOut number)).filter isLookup = (words.filter spellsLookup).map (spelledOut number) := by
  rw [List.filter_map]
  congr 1
  exact List.filter_congr fun word _ => isLookup_spelledOut word

theorem declaredLookups_spelledOut (rows : List (List Glyph)) :
    declaredLookups (rows.map (spelledOut number)) = (spelledDeclared rows).map (spelledOut number) := by
  rw [declaredLookups, List.filterMap_map, spelledDeclared, ← filter_isLookup, List.map_filterMap]
  congr 2
  funext row
  exact function?_spelledOut row

theorem lookups_spelledOut (rows : List (List Glyph)) :
    lookups (rows.map (spelledOut number)) = (spelledLookups rows).map (spelledOut number) := by
  rw [lookups, List.flatMap_map, spelledLookups, ← filter_isLookup, List.map_flatMap]
  congr 2
  funext row
  exact mentions_spelledOut row

/-! ## Checks of stencils -/

/-- Whether a spelled line has no bindings, no breaks and no variables of module scope. -/
def isQuiet (glyphs : List Glyph) : Bool :=
  !(['@', '\n', '\r'].any fun char => glyphs.contains (.letter char)) &&
    (glyphs.head? == some (.letter ' ') || !hasInfix (Declared.keyword.map Glyph.letter) glyphs)

theorem quiet_spelledOut {glyphs : List Glyph} (quiet : isQuiet glyphs = true) : Quiet (spelledOut number glyphs) := by
  simp only [isQuiet, Bool.and_eq_true, Bool.or_eq_true, Bool.not_eq_true', List.any_cons, List.any_nil,
    Bool.or_eq_false_iff] at quiet
  obtain ⟨⟨sign, feed, carriage, -⟩, silent⟩ := quiet
  refine ⟨not_mem_spelledOut (by decide) sign, not_mem_spelledOut (by decide) feed,
    not_mem_spelledOut (by decide) carriage, ?_⟩
  rcases silent with indented | absent
  · obtain ⟨rest, shape⟩ : ∃ rest, glyphs = .letter ' ' :: rest := by
      cases spelled : glyphs <;> simp_all
    rw [shape]
    rfl
  · exact Code.nameOf?_of_no_keyword ((hasInfix_spelledOut (by decide) glyphs).trans absent)

/-- Whether every hole is filled with a whole number. -/
def areClosed (scope : List String) (rows : List (List Glyph)) : Bool := rows.all (·.all (Glyph.closedOver scope))

/-- Whether no line declares a constant. -/
def lackConstants (rows : List (List Glyph)) : Bool := rows.all (!(constantFront.map Glyph.letter).isPrefixOf ·)

/-- Whether exactly these lookup functions are declared and mentioned. -/
def haveLookups (declared mentioned : List (List Glyph)) (rows : List (List Glyph)) : Bool :=
  spelledDeclared rows == declared && spelledLookups rows == mentioned

/-- Quiet spellings have quiet lines. -/
theorem quiet_of_passes {items : List Item}
    (passes : Passes (fun rows => areClosed scope rows && rows.all isQuiet) items) (whole : Whole scope bindings) :
    ∀ line ∈ texts bindings items, Quiet line.toList := by
  obtain ⟨spelled, spells, passed⟩ := passes
  obtain ⟨closed, quiet⟩ := Bool.and_eq_true_iff.1 passed
  rw [← List.forall_mem_map, texts_spelledOut spells closed whole, List.forall_mem_map]
  exact fun glyphs member => quiet_spelledOut (List.all_eq_true.1 quiet glyphs member)

/-- What is read in the lines of a stencil is seen from their spelling. -/
theorem account_of_passes {items : List Item} {declared mentioned : List (List Glyph)}
    (passes : Passes (fun rows => areClosed scope rows && (lackConstants rows && haveLookups declared mentioned rows)) items)
    (whole : Whole scope bindings) :
    Account ((texts bindings items).map String.toList) (declared.map (spelledOut (numberOf bindings)))
      (mentioned.map (spelledOut (numberOf bindings))) [] := by
  obtain ⟨spelled, spells, passed⟩ := passes
  obtain ⟨closed, passed⟩ := Bool.and_eq_true_iff.1 passed
  obtain ⟨lack, lookups⟩ := Bool.and_eq_true_iff.1 passed
  obtain ⟨isDeclared, isMentioned⟩ := Bool.and_eq_true_iff.1 lookups
  rw [texts_spelledOut spells closed whole]
  refine ⟨?_, ?_, ?_⟩
  · rw [declaredLookups_spelledOut, eq_of_beq isDeclared]
  · rw [lookups_spelledOut, eq_of_beq isMentioned]
  · suffices none : (spelled.map (spelledOut (numberOf bindings))).filterMap constant? = [] by rw [formats, none]; rfl
    rw [List.filterMap_map, List.filterMap_eq_nil_iff]
    intro glyphs member
    have front := List.all_eq_true.1 lack glyphs member
    rw [Bool.not_eq_true'] at front
    rw [Function.comp_apply, constant?, isPrefixOf_spelledOut (by decide), front]
    rfl

/-- Whether quiet lines without constants declare and mention exactly these lookup functions. -/
def isPlain (scope : List String) (declared mentioned rows : List (List Glyph)) : Bool :=
  areClosed scope rows && (rows.all isQuiet && (lackConstants rows && haveLookups declared mentioned rows))

theorem quiet_of_isPlain {items : List Item} {declared mentioned : List (List Glyph)}
    (passes : Passes (isPlain scope declared mentioned) items) (whole : Whole scope bindings) :
    ∀ line ∈ texts bindings items, Quiet line.toList := by
  refine quiet_of_passes (passes.imp fun rows passed => ?_) whole
  simp only [isPlain, Bool.and_eq_true] at passed ⊢
  exact ⟨passed.1, passed.2.1⟩

theorem account_of_isPlain {items : List Item} {declared mentioned : List (List Glyph)}
    (passes : Passes (isPlain scope declared mentioned) items) (whole : Whole scope bindings) :
    Account ((texts bindings items).map String.toList) (declared.map (spelledOut (numberOf bindings)))
      (mentioned.map (spelledOut (numberOf bindings))) [] := by
  refine account_of_passes (passes.imp fun rows passed => ?_) whole
  simp only [isPlain, Bool.and_eq_true] at passed ⊢
  exact ⟨passed.1, passed.2.2⟩

/-- A part that is repeated accounts for each repeat, if no repeat declares a constant. -/
theorem account_repeated {index count : String} {body : List Item} {number : Nat}
    {declared mentioned : Nat → List (List Char)} (counted : repeats bindings count = number)
    (each : ∀ place : Nat, Account ((texts ((index, .int place) :: bindings) body).map String.toList) (declared place)
      (mentioned place) []) :
    Account ((texts bindings [.repeated index count body]).map String.toList) ((List.range number).flatMap declared)
      ((List.range number).flatMap mentioned) [] := by
  have all := Account.flatMap fun place (_ : place ∈ List.range number) => each place
  rw [List.flatMap_eq_nil_iff.2 fun _ _ => rfl, ← List.map_flatMap] at all
  simp only [texts, Item.texts, counted, List.append_nil]
  exact all

/-! ## Lines without holes -/

def Glyph.isLetter : Glyph → Bool
  | letter _ => true
  | hole _ => false

theorem spelledOut_of_letters {glyphs : List Glyph} (letters : glyphs.all Glyph.isLetter = true)
    (first second : Term → Nat) : spelledOut first glyphs = spelledOut second glyphs := by
  apply List.flatMap_congr
  intro glyph member
  cases glyph with
  | letter char => rfl
  | hole term => cases List.all_eq_true.1 letters _ member

theorem texts_of_letters {items : List Item} {spelled : List (List Glyph)} (spells : SpellsAll items spelled)
    (letters : spelled.all (·.all Glyph.isLetter) = true) :
    (texts [] items).map String.toList = spelled.map (spelledOut fun _ => 0) := by
  rw [List.all_eq_true] at letters
  have closed : spelled.all (·.all (Glyph.closedOver [])) = true := by
    simp only [List.all_eq_true] at letters ⊢
    intro glyphs member glyph inside
    cases glyph with
    | letter char => rfl
    | hole term => cases letters glyphs member _ inside
  have whole : Whole [] [] := by simp [Whole]
  rw [texts_spelledOut spells closed whole]
  exact List.map_congr_left fun glyphs member => spelledOut_of_letters (letters glyphs member) _ _

/-- Whether lines without holes pass a check. -/
def areLetters (check : List (List Char) → Bool) (rows : List (List Glyph)) : Bool :=
  rows.all (·.all Glyph.isLetter) && check (rows.map (spelledOut fun _ => 0))

/-- Lines without holes are checked by their spelling. -/
theorem check_of_areLetters {check : List (List Char) → Bool} {items : List Item}
    (passes : Passes (areLetters check) items) : check ((texts [] items).map String.toList) = true := by
  obtain ⟨spelled, spells, passed⟩ := passes
  obtain ⟨letters, passed⟩ := Bool.and_eq_true_iff.1 passed
  rw [texts_of_letters spells letters, passed]

/-- Whether quiet lines without holes and lookups give exactly these values to the form of the maps. -/
def giveFormats (formats : List (List Char)) (rows : List (List Glyph)) : Bool :=
  rows.all (fun glyphs => isQuiet glyphs && glyphs.all Glyph.isLetter) &&
    (haveLookups [] [] rows && Code.formats (rows.map (spelledOut fun _ => 0)) == formats)

theorem account_of_giveFormats {lines : List String} {formats : List (List Char)}
    (passes : Passes (giveFormats formats) (plain lines)) :
    (∀ line ∈ lines, Quiet line.toList) ∧ Account (lines.map String.toList) [] [] formats := by
  obtain ⟨spelled, spells, passed⟩ := passes
  simp only [giveFormats, haveLookups, Bool.and_eq_true, beq_iff_eq, List.all_eq_true] at passed
  obtain ⟨rows, ⟨declared, mentioned⟩, given⟩ := passed
  have letters : spelled.all (·.all Glyph.isLetter) = true := by
    simp only [List.all_eq_true]
    exact fun glyphs member => (rows glyphs member).2
  have printed : lines.map String.toList = spelled.map (spelledOut fun _ => 0) := by
    rw [← texts_of_letters spells letters, texts_plain]
  rw [← List.forall_mem_map, printed]
  refine ⟨?_, ?_, ?_, given⟩
  · rw [List.forall_mem_map]
    exact fun glyphs member => quiet_spelledOut (rows glyphs member).1
  · rw [declaredLookups_spelledOut, declared, List.map_nil]
  · rw [lookups_spelledOut, mentioned, List.map_nil]

end ShaderWeave.Stencil
