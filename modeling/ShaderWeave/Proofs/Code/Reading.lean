import ShaderWeave.Stencil
import ShaderWeave.Uniform.Declared

/-! # Reading code

Code is read line by line: its words, the functions that it declares, the constants and their values, and the variables
of module scope and their types.
-/

namespace ShaderWeave

/-! ## Lines -/

namespace Text

theorem splitAtFeeds_of_line {line : List Char} (one : '\n' ∉ line) (rest : List Char) :
    splitAtFeeds (line ++ '\n' :: rest) = line :: splitAtFeeds rest := by
  induction line with
  | nil => simp [splitAtFeeds]
  | cons char others ih =>
    obtain ⟨apart, one⟩ := not_or.1 (mt List.mem_cons.2 one)
    rw [List.cons_append, splitAtFeeds, if_neg (Ne.symm apart), ih one]

theorem splitAtFeeds_unlines {lines : List String} (one : ∀ line ∈ lines, '\n' ∉ line.toList) :
    splitAtFeeds (Stencil.unlines lines).toList = lines.map String.toList ++ [[]] := by
  induction lines with
  | nil => rfl
  | cons line rest ih =>
    have feed : (line ++ "\n").toList = line.toList ++ ['\n'] := String.toList_append
    rw [Stencil.unlines, List.map_cons, String.join_cons, String.toList_append, feed, List.append_assoc,
      List.singleton_append, splitAtFeeds_of_line (one _ (List.mem_cons_self ..)), ← Stencil.unlines,
      ih fun other member => one other (List.mem_cons_of_mem _ member)]
    rfl

/-- Lines with breaks behind them are read back. -/
theorem lines_unlines {lines : List String} (plain : ∀ line ∈ lines, '\n' ∉ line.toList ∧ '\r' ∉ line.toList) :
    Text.lines (Stencil.unlines lines).toList = lines.map String.toList := by
  have kept : (lines.map String.toList).map dropReturn = lines.map String.toList := by
    rw [List.map_map]
    apply List.map_congr_left
    intro line member
    rw [Function.comp_apply, dropReturn, if_neg]
    exact fun last => (plain line member).2 (List.mem_of_getLast? last)
  rw [Text.lines, splitAtFeeds_unlines fun line member => (plain line member).1]
  simp [kept]

end Text

namespace Code

/-! ## Words -/

/-- The words of a line: its characters between those that no word has. -/
def words (line : List Char) : List (List Char) :=
  (line.splitOnP fun char => !Text.isWordChar char).filter (!·.isEmpty)

theorem isDigit_of_mem_toString {char : Char} {number : Nat} (member : char ∈ (toString number).toList) :
    char.isDigit = true := by
  rw [Nat.toString_eq_repr, Nat.toList_repr] at member
  exact Nat.isDigit_of_mem_toDigits (by decide) (by decide) member

theorem isWordChar_of_isDigit {char : Char} (digit : char.isDigit = true) : Text.isWordChar char = true := by
  simp [Text.isWordChar, Char.isAlphanum, digit]

theorem not_mem_toString {char : Char} (nondigit : char.isDigit = false) (number : Nat) :
    char ∉ (toString number).toList := by
  intro member
  rw [isDigit_of_mem_toString member] at nondigit
  cases nondigit

/-- What stands in front of the name of a function. -/
def functionFront : List Char := ['f', 'n', ' ']

/-- The function that a line declares. -/
def function? (line : List Char) : Option (List Char) :=
  if functionFront.isPrefixOf line then (words line)[1]? else none

/-- The words of a line, without the function that it declares. -/
def mentions (line : List Char) : List (List Char) :=
  if functionFront.isPrefixOf line then (words line).drop 2 else words line

/-! ## Constants and variables -/

/-- What stands in front of the name of a constant. -/
def constantFront : List Char := ['c', 'o', 'n', 's', 't', ' ']

/-- The constant that a line declares, and its value. -/
def constant? (line : List Char) : Option (List Char × List Char) :=
  if constantFront.isPrefixOf line then
    some ((line.drop constantFront.length).takeWhile Text.isWordChar,
      ((line.dropWhile (· ≠ '=')).drop 2).takeWhile (· ≠ ';'))
  else none

/-- The variable of module scope that a line declares, and its type. -/
def global? (line : List Char) : Option (String × List Char) :=
  (Declared.nameOf? line).map fun name => (name, ((line.dropWhile (· ≠ ':')).drop 2).takeWhile (· ≠ ';'))

/-! ## Lines that declare no variable -/

/-- Whether a list stands anywhere in another one. -/
def hasInfix {α : Type} [BEq α] (part : List α) : List α → Bool
  | [] => part.isEmpty
  | first :: rest => part.isPrefixOf (first :: rest) || hasInfix part rest

theorem hasInfix_iff {α : Type} [BEq α] [LawfulBEq α] {part list : List α} :
    hasInfix part list = true ↔ part <:+: list := by
  induction list with
  | nil => rw [hasInfix, List.isEmpty_iff, List.infix_nil]
  | cons first rest ih => rw [hasInfix, Bool.or_eq_true, List.isPrefixOf_iff_prefix, ih, List.infix_cons_iff]

theorem hasInfix_of_append {α : Type} [BEq α] [LawfulBEq α] {part front rest : List α}
    (absent : hasInfix part (front ++ rest) = false) : hasInfix part front = false := by
  rw [← Bool.not_eq_true, hasInfix_iff] at absent ⊢
  exact fun inside => absent (inside.trans (List.prefix_append front rest).isInfix)

theorem keywordPosition?_eq_none {line : List Char} (absent : hasInfix Declared.keyword line = false)
    (passed : List Char) : Declared.keywordPosition? passed line = none := by
  induction line generalizing passed with
  | nil => rfl
  | cons char rest ih =>
    rw [hasInfix, Bool.or_eq_false_iff] at absent
    rw [Declared.keywordPosition?, Declared.startsKeyword, absent.1, Bool.false_and, Bool.false_and, if_neg (by simp)]
    exact ih absent.2 _

theorem nameOf?_of_no_keyword {line : List Char} (absent : hasInfix Declared.keyword line = false) :
    Declared.nameOf? line = none := by
  have split : Text.dropBlankEnd line ++ (line.reverse.takeWhile Text.isBlank).reverse = line := by
    rw [Text.dropBlankEnd, ← List.reverse_append, List.takeWhile_append_dropWhile, List.reverse_reverse]
  rw [← split] at absent
  have none := keywordPosition?_eq_none (hasInfix_of_append absent) []
  rw [Declared.nameOf?, none]
  split <;> rfl

/-- A line without bindings, breaks and variables of module scope. -/
structure Quiet (line : List Char) : Prop where
  bindings : '@' ∉ line
  feeds : '\n' ∉ line
  returns : '\r' ∉ line
  globals : Declared.nameOf? line = none

/-! ## Lookups of shadows -/

def lookupFront : List Char := ['s', 'h', 'a', 'd', 'o', 'w', '_']

/-- The function that looks up the shadow of a slot. -/
def lookupName (slot : Nat) : List Char := lookupFront ++ (toString slot).toList

/-- Whether a word is the name of a lookup function of some slot. -/
def isLookup (word : List Char) : Bool :=
  lookupFront.isPrefixOf word && !(word.drop lookupFront.length).isEmpty &&
    (word.drop lookupFront.length).all Char.isDigit

/-- The lookup functions that some lines declare. -/
def declaredLookups (lines : List (List Char)) : List (List Char) := (lines.filterMap function?).filter isLookup

/-- The lookup functions that some lines mention. -/
def lookups (lines : List (List Char)) : List (List Char) := (lines.flatMap mentions).filter isLookup

theorem declaredLookups_append (first second : List (List Char)) :
    declaredLookups (first ++ second) = declaredLookups first ++ declaredLookups second := by
  simp [declaredLookups]

theorem lookups_append (first second : List (List Char)) : lookups (first ++ second) = lookups first ++ lookups second := by
  simp [lookups]

/-! ## Accounts -/

def formatName : List Char := ['d', 'e', 'p', 't', 'h', 'F', 'o', 'r', 'm', 'a', 't']

/-- The values that some lines give to the constant for the form of shadow maps. -/
def formats (lines : List (List Char)) : List (List Char) :=
  (lines.filterMap constant?).filterMap fun (name, value) => if name = formatName then some value else none

/-- What is read in some lines about shadows: the lookup functions that are declared, those that are mentioned, and the
form of the maps. -/
structure Account (lines declared mentioned formats : List (List Char)) : Prop where
  declared : declaredLookups lines = declared
  mentioned : lookups lines = mentioned
  formats : Code.formats lines = formats

namespace Account

theorem nil : Account [] [] [] [] := ⟨rfl, rfl, rfl⟩

theorem append {first second declared declared' mentioned mentioned' formats formats' : List (List Char)}
    (front : Account first declared mentioned formats) (back : Account second declared' mentioned' formats') :
    Account (first ++ second) (declared ++ declared') (mentioned ++ mentioned') (formats ++ formats') where
  declared := by rw [declaredLookups_append, front.declared, back.declared]
  mentioned := by rw [lookups_append, front.mentioned, back.mentioned]
  formats := by rw [← front.formats, ← back.formats, Code.formats, List.filterMap_append, List.filterMap_append]; rfl

theorem flatMap {α : Type} {items : List α} {lines declared mentioned formats : α → List (List Char)}
    (each : ∀ item ∈ items, Account (lines item) (declared item) (mentioned item) (formats item)) :
    Account (items.flatMap lines) (items.flatMap declared) (items.flatMap mentioned) (items.flatMap formats) := by
  induction items with
  | nil => exact nil
  | cons item rest ih =>
    obtain ⟨here, later⟩ := List.forall_mem_cons.1 each
    exact here.append (ih later)

end Account

end Code

end ShaderWeave
