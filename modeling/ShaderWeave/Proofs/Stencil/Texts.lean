import ShaderWeave.Stencil.Library

/-! # What stencils print

Whether the names in a stencil have values is seen from the stencil alone. If they have, the one thing that can
go wrong is a part that is repeated too often; otherwise rendering gives the lines that `texts` lists.
-/

namespace ShaderWeave.Stencil

/-! ## Lines without faults -/

/-- The text of a piece; nothing if it has no value. -/
def Piece.fill (bindings : Bindings) (piece : Piece) : String :=
  match piece.render bindings with
  | .ok chars => chars
  | .error _ => ""

@[simp] theorem Piece.fill_text (bindings : Bindings) (chars : String) : fill bindings (.text chars) = chars := rfl

/-- The text of a line. -/
def filled (bindings : Bindings) (row : List Piece) : String :=
  String.join (row.map (Piece.fill bindings))

def Condition.test (bindings : Bindings) (condition : Condition) : Bool :=
  match condition.eval bindings with
  | .ok passed => passed
  | .error _ => false

def repeats (bindings : Bindings) (count : String) : Nat :=
  match countOf bindings count with
  | .ok number => number
  | .error _ => 0

mutual
/-- The lines of an item, if nothing goes wrong. -/
def Item.texts (bindings : Bindings) : Item → List String
  | .line row => [filled bindings row]
  | .branch condition yes no => if condition.test bindings then texts bindings yes else texts bindings no
  | .repeated index count body =>
    (List.range (repeats bindings count)).flatMap fun number =>
      texts ((index, .int (Int.ofNat number)) :: bindings) body
  | .embed _ body => texts bindings body

def texts (bindings : Bindings) : List Item → List String
  | [] => []
  | item :: rest => item.texts bindings ++ texts bindings rest
end

variable {bindings : Bindings}

theorem texts_append (first second : List Item) :
    texts bindings (first ++ second) = texts bindings first ++ texts bindings second := by
  induction first with
  | nil => rfl
  | cons item rest ih => simp only [List.cons_append, texts, ih, List.append_assoc]

/-- Lines without holes are printed as they are. -/
theorem texts_plain (lines : List String) : texts bindings (plain lines) = lines := by
  induction lines with
  | nil => rfl
  | cons line rest ih =>
    have here : filled bindings [.text line] = line := by simp [filled]
    have later : texts bindings (plain rest) = rest := ih
    simp only [plain, List.map_cons, texts, Item.texts, here, List.singleton_append]
    exact congrArg _ later

theorem unlines_append (first second : List String) :
    unlines (first ++ second) = unlines first ++ unlines second := by
  simp [unlines, String.join_append]

theorem unlines_flatten (parts : List (List String)) : String.join (parts.map unlines) = unlines parts.flatten := by
  induction parts with
  | nil => rfl
  | cons part rest ih => rw [List.map_cons, String.join_cons, ih, List.flatten_cons, unlines_append]

/-! ## Names with values -/

/-- Whether a term has no names but some, and no negative numbers. -/
def Term.closedOver (names : List String) : Term → Bool
  | .literal value => decide (0 ≤ value)
  | .variable name => names.contains name
  | .apply _ left right => left.closedOver names && right.closedOver names

def Piece.closedOver (names : List String) : Piece → Bool
  | .text _ => true
  | .hole term => term.closedOver names

def Condition.closedOver (names : List String) : Condition → Bool
  | .holds _ => true
  | .atLeast name _ => names.contains name

mutual
/-- Whether an item prints and compares no names but some, and counts its repeats by others. -/
def Item.closedOver (names counts : List String) : Item → Bool
  | .line row => row.all (Piece.closedOver names)
  | .branch condition yes no => condition.closedOver names && closedOver names counts yes && closedOver names counts no
  | .repeated index count body =>
    counts.contains count && !(("range" :: counts).contains index) && closedOver (index :: names) counts body
  | .embed _ body => closedOver names counts body

def closedOver (names counts : List String) : List Item → Bool
  | [] => true
  | item :: rest => item.closedOver names counts && closedOver names counts rest
end

variable {names counts : List String}

/-- Each of some names has a value. -/
def Supplied (names : List String) (bindings : Bindings) : Prop :=
  ∀ name ∈ names, ∃ value, bindings.lookup name = some value

theorem Term.eval_of_valued (valued : Supplied names bindings) :
    ∀ term : Term, term.closedOver names = true → ∃ value, term.eval bindings = .ok (some value)
  | .literal value, _ => ⟨.int value, rfl⟩
  | .variable name, closedOver => by
    obtain ⟨value, found⟩ := valued name (by simpa [Term.closedOver] using closedOver)
    exact ⟨value, congrArg Except.ok found⟩
  | .apply operator left right, closedOver => by
    obtain ⟨overLeft, overRight⟩ := Bool.and_eq_true_iff.1 closedOver
    obtain ⟨first, evalLeft⟩ := left.eval_of_valued valued overLeft
    obtain ⟨second, evalRight⟩ := right.eval_of_valued valued overRight
    simp only [eval, evalLeft, evalRight]
    exact ⟨_, rfl⟩

theorem Piece.render_of_valued (valued : Supplied names bindings) {piece : Piece}
    (closedOver : piece.closedOver names = true) :
    piece.render bindings = .ok (piece.fill bindings) := by
  cases piece with
  | text chars => rfl
  | hole term =>
    obtain ⟨value, evaluated⟩ := term.eval_of_valued valued closedOver
    simp only [fill, render, evaluated]
    rfl

theorem mapM_eq_ok {ε α β : Type} {action : α → Except ε β} {result : α → β} {items : List α}
    (done : ∀ item ∈ items, action item = .ok (result item)) : items.mapM action = .ok (items.map result) := by
  induction items with
  | nil => rfl
  | cons item rest ih =>
    have later := ih fun other member => done other (List.mem_cons_of_mem _ member)
    rw [List.mapM_cons, done item (List.mem_cons_self ..), later]
    rfl

/-- What repeats are counted by: numbers that are not too large, under names of their own. -/
structure Counted (counts : List String) (bindings : Bindings) : Prop where
  free : bindings.lookup "range" = none
  few : ∀ count ∈ counts, ∃ number : Nat, bindings.lookup count = some (.int number) ∧ number ≤ maxRepeats

theorem Counted.countOf_eq (counted : Counted counts bindings) {count : String} (member : count ∈ counts) :
    countOf bindings count = .ok (repeats bindings count) := by
  obtain ⟨number, found, few⟩ := counted.few count member
  have small : ¬ maxCount < (number : Int) := by
    simp only [maxCount, maxRepeats] at few ⊢
    omega
  have counts : countOf bindings count = .ok number := by
    simp only [countOf, counted.free, found, Value.toInt, Int.toNat_natCast, small, if_false, Nat.not_lt.2 few]
  rw [repeats, counts]

theorem Counted.cons (counted : Counted counts bindings) {index : String} (new : index ∉ "range" :: counts)
    (value : Value) : Counted counts ((index, value) :: bindings) := by
  have others : ∀ name ∈ "range" :: counts, ((index, value) :: bindings).lookup name = bindings.lookup name := by
    intro name member
    have apart : (name == index) = false := by simpa using ne_of_mem_of_not_mem member new
    rw [List.lookup_cons, apart]
  refine ⟨(others _ (List.mem_cons_self ..)).trans counted.free, fun count member => ?_⟩
  rw [others _ (List.mem_cons_of_mem _ member)]
  exact counted.few count member

theorem Supplied.cons (valued : Supplied names bindings) (index : String) (value : Value) :
    Supplied (index :: names) ((index, value) :: bindings) := by
  intro name member
  by_cases here : name = index
  · exact ⟨value, by simp [here]⟩
  · have apart : (name == index) = false := by simpa using here
    obtain ⟨other, found⟩ := valued name ((List.mem_cons.1 member).resolve_left here)
    exact ⟨other, by rw [List.lookup_cons, apart]; exact found⟩

mutual
/-- An item whose names have values, with few repeats, is printed without fault. -/
theorem Item.lines_eq_ok {names counts : List String} {bindings : Bindings} (valued : Supplied names bindings)
    (counted : Counted counts bindings) (name : String) (line : Nat) :
    ∀ item : Item, item.closedOver names counts = true → item.lines name line bindings = .ok (item.texts bindings)
  | .line row, closedOver => by
    have pieces : row.mapM (Piece.render bindings) = .ok (row.map (Piece.fill bindings)) := by
      apply mapM_eq_ok
      intro piece member
      exact Piece.render_of_valued valued (List.all_eq_true.1 closedOver piece member)
    simp only [Item.lines, pieces]
    rfl
  | .branch condition yes no, closedOver => by
    obtain ⟨front, overNo⟩ := Bool.and_eq_true_iff.1 closedOver
    obtain ⟨overCondition, overYes⟩ := Bool.and_eq_true_iff.1 front
    have tested : condition.eval bindings = .ok (condition.test bindings) := by
      cases condition with
      | holds name => rfl
      | atLeast name bound =>
        obtain ⟨value, found⟩ := valued name (by simpa [Condition.closedOver] using overCondition)
        cases value <;> simp only [Condition.test, Condition.eval, found]
    simp only [Item.lines, tested, Item.texts]
    by_cases holds : condition.test bindings
    · simp only [holds, if_true]
      exact linesOf_eq_ok valued counted name _ yes overYes
    · simp only [holds]
      exact linesOf_eq_ok valued counted name _ no overNo
  | .repeated index count body, closedOver => by
    obtain ⟨front, overBody⟩ := Bool.and_eq_true_iff.1 closedOver
    obtain ⟨isCount, new⟩ := Bool.and_eq_true_iff.1 front
    have member : count ∈ counts := by simpa using isCount
    have absent : index ∉ "range" :: counts := by simpa using new
    have bodies : ((List.range (repeats bindings count)).mapM fun number =>
        linesOf name (line + 1) ((index, .int (Int.ofNat number)) :: bindings) body) =
          .ok ((List.range (repeats bindings count)).map fun number =>
            texts ((index, .int (Int.ofNat number)) :: bindings) body) :=
      mapM_eq_ok fun number _ =>
        linesOf_eq_ok (valued.cons index _) (counted.cons absent _) name _ body overBody
    simp only [Item.lines, counted.countOf_eq member, Item.texts, List.flatMap]
    exact congrArg (Except.map List.flatten) bodies
  | .embed other body, closedOver => linesOf_eq_ok valued counted other 1 body closedOver

theorem linesOf_eq_ok {names counts : List String} {bindings : Bindings} (valued : Supplied names bindings)
    (counted : Counted counts bindings) (name : String) (line : Nat) :
    ∀ items : List Item, closedOver names counts items = true →
      linesOf name line bindings items = .ok (texts bindings items)
  | [], _ => rfl
  | item :: rest, closedOver => by
    obtain ⟨overItem, overRest⟩ := Bool.and_eq_true_iff.1 closedOver
    simp only [linesOf, item.lines_eq_ok valued counted name line overItem,
      linesOf_eq_ok valued counted name _ rest overRest]
    rfl
end

theorem find?_of_listed {name : String} (listed : listedName name = name) : find? name = library.lookup name := by
  rw [find?, listed]

theorem renderNamed_eq_ok {name : String} {items : List Item} (found : find? name = some items)
    (valued : Supplied names bindings) (counted : Counted counts bindings)
    (closedOver : closedOver names counts items = true) :
    renderNamed name bindings = .ok (unlines (texts bindings items)) := by
  simp only [renderNamed, found, render, linesOf_eq_ok valued counted name 1 items closedOver]
  rfl

private theorem linesOf_behind {front rest body : List Item} {index count : String} {cause : Fault}
    (valued : Supplied names bindings) (overFront : closedOver names [] front = true)
    (overcounted : countOf bindings count = .error cause) (free : bindings.lookup "range" = none) (name : String)
    (line : Nat) :
    linesOf name line bindings (front ++ .repeated index count body :: rest) =
      .error (.fault cause name (line + height front)) := by
  induction front generalizing line with
  | nil =>
    simp only [List.nil_append, linesOf, Item.lines, overcounted, height, Nat.add_zero]
    rfl
  | cons item others ih =>
    obtain ⟨overItem, overOthers⟩ := Bool.and_eq_true_iff.1 overFront
    have printed := item.lines_eq_ok valued ⟨free, by simp⟩ name line overItem
    simp only [List.cons_append, linesOf, printed, ih overOthers, height, Nat.add_assoc]
    rfl

def Item.isRepeated : Item → Bool
  | .repeated .. => true
  | _ => false

/-- The items in front of the first part that is repeated. -/
def front (items : List Item) : List Item := items.takeWhile (!·.isRepeated)

/-- What the first part that is repeated repeats. -/
def repeatedBody (items : List Item) : List Item :=
  match items.find? Item.isRepeated with
  | some (.repeated _ _ body) => body
  | _ => []

/-- Behind a front without faults, a part that is repeated too often is a fault of its own line. -/
theorem renderNamed_of_overcounted {name : String} {items rest body : List Item} {index count : String} {cause : Fault}
    (found : find? name = some items)
    (behind : items.dropWhile (!·.isRepeated) = .repeated index count body :: rest) (valued : Supplied names bindings)
    (overFront : closedOver names [] (front items) = true) (overcounted : countOf bindings count = .error cause)
    (free : bindings.lookup "range" = none) :
    renderNamed name bindings = .error (.fault cause name (1 + height (front items))) := by
  have split : items = front items ++ .repeated index count body :: rest := by
    rw [← behind, front, List.takeWhile_append_dropWhile]
  have failed : linesOf name 1 bindings items = .error (.fault cause name (1 + height (front items))) :=
    (congrArg _ split).trans (linesOf_behind valued overFront overcounted free name 1)
  simp only [renderNamed, found, render, failed]
  rfl

theorem countOf_of_many {count : String} {number : Nat} (found : bindings.lookup count = some (.int number))
    (free : bindings.lookup "range" = none) (many : maxRepeats < number) :
    countOf bindings count = .error (if maxCount < number then .countTooLarge else .tooManyRepeats) := by
  simp only [countOf, free, found, Value.toInt, Int.toNat_natCast, many, if_true]
  split <;> rfl

/-! ## Whole numbers -/

/-- Each of some names has a whole number for a value. -/
def Whole (names : List String) (bindings : Bindings) : Prop :=
  ∀ name ∈ names, ∃ number : Nat, bindings.lookup name = some (.int number)

/-- A term over whole numbers is one. -/
theorem Term.eval_of_whole (whole : Whole names bindings) :
    ∀ term : Term, term.closedOver names = true → ∃ number : Nat, term.eval bindings = .ok (some (.int number))
  | .literal value, closedOver => by
    obtain ⟨number, rfl⟩ := Int.eq_ofNat_of_zero_le (of_decide_eq_true closedOver)
    exact ⟨number, rfl⟩
  | .variable name, closedOver => by
    obtain ⟨number, found⟩ := whole name (by simpa [Term.closedOver] using closedOver)
    exact ⟨number, congrArg Except.ok found⟩
  | .apply operator left right, closedOver => by
    obtain ⟨overLeft, overRight⟩ := Bool.and_eq_true_iff.1 closedOver
    obtain ⟨first, evalLeft⟩ := left.eval_of_whole whole overLeft
    obtain ⟨second, evalRight⟩ := right.eval_of_whole whole overRight
    simp only [eval, evalLeft, evalRight]
    cases operator with
    | add => exact ⟨first + second, rfl⟩
    | multiply => exact ⟨first * second, rfl⟩

/-! ## Branches that are decided -/

/-- The items that stand for an item when the tests of branches have a known result. -/
def Item.side (passed : Bool) : Item → List Item
  | .branch _ yes no => if passed then yes else no
  | item => [item]

/-- Whether the item branches on nothing but the condition. -/
def Item.tests (condition : Condition) : Item → Bool
  | .branch tested _ _ => tested == condition
  | _ => true

/-- If all branches are on one condition, the same side of each branch is printed. -/
theorem texts_side {condition : Condition} {passed : Bool} {items : List Item}
    (tests : items.all (Item.tests condition) = true) (tested : condition.test bindings = passed) :
    texts bindings items = texts bindings (items.flatMap (Item.side passed)) := by
  induction items with
  | nil => rfl
  | cons item rest ih =>
    rw [List.all_cons, Bool.and_eq_true] at tests
    have later := ih tests.2
    have here : item.texts bindings = texts bindings (item.side passed) := by
      cases item with
      | branch other yes no =>
        obtain rfl : other = condition := by simpa [Item.tests] using tests.1
        rw [Item.texts, Item.side, tested]
        split <;> rfl
      | _ => simp only [Item.side, texts, List.append_nil]
    rw [List.flatMap_cons, texts_append, texts, here, later]

end ShaderWeave.Stencil
