import ShaderWeave.Proofs.Code.Reading

/-! # Lines that declare a variable

A line declares a variable of module scope by attributes, the keyword, an address space between brackets if there is
one, spaces, the name and a colon. The keyword is looked for wherever it stands, but nothing in front of it can be taken
for it, so the name is read back from every such line.
-/

namespace ShaderWeave.Declared

/-- A text with neither the keyword nor a bracket in it. -/
structure Plain (text : List Char) : Prop where
  keyword : ¬ Declared.keyword <:+: text
  brackets : ∀ char ∈ ['(', ')', '<', '>'], char ∉ text

instance (text : List Char) : Decidable (Plain text) :=
  decidable_of_iff (¬ Code.hasInfix keyword text = true ∧ ['(', ')', '<', '>'].all (decide <| · ∉ text) = true)
    ⟨fun checked => ⟨mt Code.hasInfix_iff.2 checked.1, by simpa using checked.2⟩,
      fun plain => ⟨mt Code.hasInfix_iff.1 plain.keyword, by simpa using plain.brackets⟩⟩

/-- An attribute and the blanks behind it. -/
structure Attribute where
  word : List Char
  arguments : List Char
  blanks : List Char
  plain_word : Plain word
  plain_arguments : Plain arguments
  blank : ∀ char ∈ blanks, Text.isBlank char = true

def Attribute.text (part : Attribute) : List Char :=
  '@' :: (part.word ++ '(' :: (part.arguments ++ ')' :: part.blanks))

structure Declaration where
  attributes : List Attribute
  /-- What stands between the brackets behind the keyword, if there are any. -/
  space : Option (List Char)
  plain_space : ∀ text ∈ space, Plain text
  /-- Number of spaces in front of the name, beside the first one. -/
  gap : Nat
  name : String
  filled : name.toList ≠ []
  word : ∀ char ∈ name.toList, Text.isWordChar char = true
  /-- What stands behind the colon. -/
  rest : List Char

/-- An address space between its brackets. -/
def bracketed : Option (List Char) → List Char
  | none => []
  | some text => '<' :: (text ++ ['>'])

namespace Declaration

/-- What stands in front of the keyword. -/
def front (declaration : Declaration) : List Char := declaration.attributes.flatMap Attribute.text

/-- The name, with the spaces in front of it and all that follows. -/
def named (declaration : Declaration) : List Char :=
  ' ' :: (List.replicate declaration.gap ' ' ++ (declaration.name.toList ++ ':' :: declaration.rest))

def line (declaration : Declaration) : List Char :=
  declaration.front ++ (keyword ++ (bracketed declaration.space ++ declaration.named))

end Declaration

/-! ## Passing by -/

/-- The scan goes through the text without a find, whatever stands in front of it and behind it. -/
def Passes (text : List Char) : Prop :=
  ∀ passed rest, keywordPosition? passed (text ++ rest) = keywordPosition? (text.reverse ++ passed) rest

namespace Passes

variable {first second text : List Char}

theorem nil : Passes [] := fun _ _ => rfl

theorem append (front : Passes first) (back : Passes second) : Passes (first ++ second) := by
  intro passed rest
  rw [List.append_assoc, front, back, List.reverse_append, List.append_assoc]

theorem flatMap {α : Type} {items : List α} {part : α → List Char}
    (each : ∀ item ∈ items, Passes (part item)) : Passes (items.flatMap part) := by
  induction items with
  | nil => exact nil
  | cons item rest ih =>
    obtain ⟨here, later⟩ := List.forall_mem_cons.1 each
    exact here.append (ih later)

/-- A character at which the keyword does not begin is passed. -/
theorem cons {char : Char} (apart : ∀ rest, ¬ keyword <+: char :: (text ++ rest)) (later : Passes text) :
    Passes (char :: text) := by
  intro passed rest
  have differs : startsKeyword (char :: (text ++ rest)) = false := by
    rw [startsKeyword, Bool.and_eq_false_iff, ← Bool.not_eq_true, List.isPrefixOf_iff_prefix]
    exact .inl (apart rest)
  rw [List.cons_append, keywordPosition?, differs, Bool.false_and, if_neg Bool.false_ne_true, later,
    List.reverse_cons, List.append_assoc]
  rfl

theorem of_not_mem (absent : 'v' ∉ text) : Passes text := by
  induction text with
  | nil => exact nil
  | cons char rest ih =>
    obtain ⟨apart, absent⟩ := not_or.1 (mt List.mem_cons.2 absent)
    refine cons (fun more begins => ?_) (ih absent)
    exact apart (List.cons_prefix_cons.1 begins).1

end Passes

/-- The keyword does not go on behind a character that it does not have. -/
theorem prefix_of_stop {stop : Char} (foreign : stop ∉ keyword) {text rest : List Char}
    (begins : keyword <+: text ++ stop :: rest) : keyword <+: text := by
  rcases List.prefix_or_prefix_of_prefix begins (List.prefix_append text (stop :: rest)) with inside | ⟨more, whole⟩
  · exact inside
  · cases more with
    | nil => exact List.append_nil text ▸ whole ▸ List.prefix_rfl
    | cons next more =>
      rw [← whole, List.prefix_append_right_inj] at begins
      have same : next = stop := (List.cons_prefix_cons.1 begins).1
      exact absurd (whole ▸ List.mem_append_right text (same ▸ List.mem_cons_self ..)) foreign

/-- A text without the keyword is passed, with one character behind it that ends what may begin in it. -/
theorem Passes.of_free {stop : Char} (foreign : stop ∉ keyword) {text : List Char} (free : ¬ keyword <:+: text) :
    Passes (text ++ [stop]) := by
  induction text with
  | nil =>
    refine of_not_mem fun member => ?_
    exact foreign (List.mem_singleton.1 member ▸ List.mem_cons_self ..)
  | cons char rest ih =>
    rw [List.infix_cons_iff, not_or] at free
    refine cons (fun more begins => free.1 ?_) (ih free.2)
    have whole : char :: (rest ++ [stop] ++ more) = (char :: rest) ++ stop :: more := by simp
    exact prefix_of_stop foreign (whole ▸ begins)

theorem Attribute.passes (part : Attribute) : Passes part.text := by
  have sign : Passes ['@'] := .of_not_mem (by decide)
  have word : Passes (part.word ++ ['(']) := .of_free (by decide) part.plain_word.keyword
  have arguments : Passes (part.arguments ++ [')']) := .of_free (by decide) part.plain_arguments.keyword
  have blanks : Passes part.blanks := .of_not_mem fun member => absurd (part.blank _ member) (by decide)
  have shape : part.text = ['@'] ++ ((part.word ++ ['(']) ++ ((part.arguments ++ [')']) ++ part.blanks)) := by
    simp [text]
  exact shape ▸ sign.append (word.append (arguments.append blanks))

/-! ## Reading the name -/

/-- A character that is not blank ends the blanks at the end of a text. -/
theorem dropBlankEnd_append {char : Char} (solid : Text.isBlank char = false) (front rest : List Char) :
    Text.dropBlankEnd (front ++ char :: rest) = front ++ char :: Text.dropBlankEnd rest := by
  have stays : (char :: front.reverse).dropWhile Text.isBlank = char :: front.reverse :=
    List.dropWhile_cons_of_neg (by simp [solid])
  rw [Text.dropBlankEnd, Text.dropBlankEnd, List.reverse_append, List.reverse_cons, List.append_assoc,
    List.singleton_append, List.dropWhile_append, stays]
  split
  · next blank => simp [List.isEmpty_iff.1 blank]
  · simp

theorem not_isBlank_of_isWordChar {char : Char} (word : Text.isWordChar char = true) : Text.isBlank char = false := by
  rw [Text.isWordChar_iff, Text.isAlpha_iff, Text.isDigit_iff] at word
  rcases word with range | rfl
  · simp only [Text.isBlank, Bool.or_eq_false_iff, Bool.and_eq_false_iff, decide_eq_false_iff_not, beq_eq_false_iff_ne]
    omega
  · rfl

namespace Declaration

variable (declaration : Declaration)

theorem passes_front : Passes declaration.front := .flatMap fun part _ => part.passes

/-- In front of the keyword there is nothing, or a closing parenthesis and blanks. -/
theorem mayFollow_front : mayFollow declaration.front.reverse = true := by
  rcases List.eq_nil_or_concat declaration.attributes with none | ⟨others, last, split⟩
  · rw [front, none]
    rfl
  · have closing : Text.isBlank ')' = false := rfl
    have shape : declaration.front.reverse = last.blanks.reverse ++
        ')' :: (others.flatMap Attribute.text ++ '@' :: (last.word ++ '(' :: last.arguments)).reverse := by
      rw [front, split]
      simp [Attribute.text]
    have blank : ∀ char ∈ last.blanks.reverse, Text.isBlank char = true := fun char member =>
      last.blank char (List.mem_reverse.1 member)
    rw [mayFollow, shape, Text.dropBlankStart, List.dropWhile_append_of_pos blank,
      List.dropWhile_cons_of_neg (by simp [closing])]
    simp

theorem startsKeyword_line : startsKeyword (keyword ++ (bracketed declaration.space ++ declaration.named)) = true := by
  cases declaration.space with
  | none => rfl
  | some text => rfl

theorem keywordPosition?_line : keywordPosition? [] declaration.line = some declaration.front.length := by
  have split : keyword ++ (bracketed declaration.space ++ declaration.named) =
      'v' :: ('a' :: 'r' :: (bracketed declaration.space ++ declaration.named)) := rfl
  rw [line, declaration.passes_front, List.append_nil, split, keywordPosition?, ← split,
    declaration.startsKeyword_line, declaration.mayFollow_front]
  simp

theorem dropAddressSpace?_line :
    dropAddressSpace? (bracketed declaration.space ++ declaration.named) = some declaration.named := by
  cases space : declaration.space with
  | none => rfl
  | some text =>
    have plain : '>' ∉ text := (declaration.plain_space text space).brackets '>' (by decide)
    have inside : ∀ char ∈ text, decide (char ≠ '>') = true := fun char member =>
      decide_eq_true (ne_of_mem_of_not_mem member plain)
    have closed : (text ++ ['>'] ++ declaration.named).dropWhile (· ≠ '>') = '>' :: declaration.named := by
      rw [List.append_assoc, List.dropWhile_append_of_pos inside, List.singleton_append,
        List.dropWhile_cons_of_neg (by decide)]
    rw [bracketed, List.cons_append, dropAddressSpace?, closed]

theorem takeWhile_named :
    (Text.dropBlankStart declaration.named).takeWhile Text.isWordChar = declaration.name.toList := by
  have spaces : ∀ char ∈ List.replicate declaration.gap ' ', Text.isBlank char = true := fun char member =>
    List.eq_of_mem_replicate member ▸ rfl
  obtain ⟨first, others, name⟩ := List.exists_cons_of_ne_nil declaration.filled
  have solid : Text.isBlank first = false :=
    not_isBlank_of_isWordChar (declaration.word first (name ▸ List.mem_cons_self ..))
  have start : Text.dropBlankStart declaration.named = declaration.name.toList ++ ':' :: declaration.rest := by
    rw [named, Text.dropBlankStart, List.dropWhile_cons_of_pos rfl, List.dropWhile_append_of_pos spaces, name,
      List.cons_append, List.dropWhile_cons_of_neg (by simp [solid])]
  rw [start, List.takeWhile_append_of_pos declaration.word, List.takeWhile_cons_of_neg (by decide), List.append_nil]

theorem line_eq_append : declaration.line = declaration.front ++ (keyword ++ (bracketed declaration.space ++
    ' ' :: (List.replicate declaration.gap ' ' ++ declaration.name.toList))) ++ ':' :: declaration.rest := by
  simp [line, named]

/-- No line begins with a blank. -/
theorem not_blank_head_line : declaration.line.head?.any Text.isBlank = false := by
  rw [line, front]
  cases declaration.attributes with
  | nil => rfl
  | cons first others => rfl

/-- Without the blanks at its end, a line declares the same. -/
theorem dropBlankEnd_line :
    Text.dropBlankEnd declaration.line = { declaration with rest := Text.dropBlankEnd declaration.rest }.line := by
  rw [line_eq_append, dropBlankEnd_append rfl, line_eq_append]
  rfl

/-- The name is read back. -/
theorem nameOf?_line : nameOf? declaration.line = some declaration.name := by
  have position : keywordPosition? [] (Text.dropBlankEnd declaration.line) = some declaration.front.length := by
    rw [dropBlankEnd_line, keywordPosition?_line]
    rfl
  have behind : declaration.line.drop (declaration.front.length + keyword.length) =
      bracketed declaration.space ++ declaration.named := by
    rw [line, ← List.append_assoc, ← List.length_append, List.drop_left]
  have filled : declaration.name.toList.isEmpty = false := by simpa using declaration.filled
  rw [nameOf?, not_blank_head_line, if_neg Bool.false_ne_true, position]
  simp only [Option.bind_eq_bind, Option.bind_some, behind, dropAddressSpace?_line, takeWhile_named, filled,
    Bool.false_eq_true, if_false, String.ofList_toList]

end Declaration

end ShaderWeave.Declared
