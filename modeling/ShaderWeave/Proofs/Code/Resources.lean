import ShaderWeave.Proofs.Code.Bindings
import ShaderWeave.Proofs.Code.Grammar

/-! # Resources in code

Resources are declared one to a line, under consecutive bindings, between lines that declare nothing. From such lines
the bindings, the names and the types are read back as they were written.
-/

namespace ShaderWeave.Code

open Stencil (unlines)

/-- A resource as it is declared, without its binding. -/
structure Resource where
  /-- The address space with its brackets, if there is one. -/
  space : String
  name : String
  type : String
  deriving DecidableEq, Repr

namespace Resource

/-- The line that declares the resource under a binding of the first group. -/
def line (resource : Resource) (binding : Nat) : String :=
  "@group(0) @binding(" ++ toString binding ++ ") var" ++ resource.space ++ " " ++ resource.name ++ ": " ++
    resource.type ++ ";"

/-- A storage array of `count` elements. -/
def array (name element : String) (count : Nat) : Resource :=
  ⟨"<storage, read>", name, "array<" ++ element ++ ", " ++ toString count ++ ">"⟩

/-- What stands in the line behind the number and the keyword. -/
def tail (resource : Resource) : String :=
  resource.space ++ " " ++ resource.name ++ ": " ++ resource.type ++ ";"

end Resource

/-- Lines that declare resources under consecutive bindings. -/
def numbered : Nat → List Resource → List String
  | _, [] => []
  | binding, resource :: rest => resource.line binding :: numbered (binding + 1) rest

theorem numbered_append (binding : Nat) (first second : List Resource) :
    numbered binding (first ++ second) = numbered binding first ++ numbered (binding + first.length) second := by
  induction first generalizing binding with
  | nil => rfl
  | cons resource rest ih =>
    have later : binding + 1 + rest.length = binding + (rest.length + 1) := by omega
    simp only [List.cons_append, numbered, ih, List.length_cons, later]

/-! ## Spelling -/

/-- The address spaces that are written. -/
def spaces : List String := ["", "<uniform>", "<storage, read>"]

/-- A text that is a single word. -/
structure Word (text : String) : Prop where
  filled : text.toList ≠ []
  chars : ∀ char ∈ text.toList, Text.isWordChar char = true

theorem Word.of_spelled {text : String} {first : Char} {rest : List Char} (spelled : text = String.ofList (first :: rest))
    (all : (first :: rest).all Text.isWordChar = true) : Word text := by
  rw [spelled]
  exact ⟨by simp, by rwa [String.toList_ofList, ← List.all_eq_true]⟩

theorem Word.append_number {text : String} (word : Word text) (number : Nat) : Word (text ++ toString number) where
  filled := by simp [word.filled]
  chars char member := by
    rcases List.mem_append.1 (String.toList_append ▸ member) with front | digit
    · exact word.chars char front
    · exact isWordChar_of_isDigit (isDigit_of_mem_toString digit)

/-- Nothing in a resource can be taken for something else in its line. -/
structure Resource.Plain (resource : Resource) : Prop where
  space : resource.space ∈ spaces
  name : Word resource.name
  type : ∀ char ∈ resource.type.toList, char ∉ ['@', ';', '\n', '\r']

theorem Resource.Plain.array {name element : String} (word : Word name)
    (plain : ∀ char ∈ element.toList, char ∉ ['@', ';', '\n', '\r']) (count : Nat) :
    (Resource.array name element count).Plain where
  space := by simp [Resource.array, spaces]
  name := word
  type char member := by
    have opening : ∀ char ∈ "array<".toList, char ∉ ['@', ';', '\n', '\r'] := by simp
    have comma : ∀ char ∈ ", ".toList, char ∉ ['@', ';', '\n', '\r'] := by simp
    have closing : ∀ char ∈ ">".toList, char ∉ ['@', ';', '\n', '\r'] := by simp
    unfold Resource.array at member
    simp only [String.toList_append, List.mem_append] at member
    rcases member with (((front | inner) | middle) | digit) | back
    · exact opening char front
    · exact plain char inner
    · exact comma char middle
    · have foreign : ∀ char ∈ ['@', ';', '\n', '\r'], char.isDigit = false := by simp
      exact fun special => not_mem_toString (foreign char special) count digit
    · exact closing char back

namespace Resource

variable {resource : Resource}

theorem Plain.not_mem_space (plain : resource.Plain) {char : Char}
    (foreign : char ∉ "<storage, read>".toList ++ "<uniform>".toList) : char ∉ resource.space.toList := by
  obtain ⟨storage, uniform⟩ := not_or.1 (mt List.mem_append.2 foreign)
  have space := plain.space
  simp only [spaces, List.mem_cons, List.not_mem_nil, or_false] at space
  rcases space with none | isUniform | isStorage
  · simp [none]
  · rwa [isUniform]
  · rwa [isStorage]

theorem Plain.not_mem_name (plain : resource.Plain) {char : Char} (foreign : Text.isWordChar char = false) :
    char ∉ resource.name.toList := by
  intro member
  rw [plain.name.chars char member] at foreign
  cases foreign

theorem toList_tail (resource : Resource) :
    resource.tail.toList =
      resource.space.toList ++ (' ' :: (resource.name.toList ++ (':' :: ' ' :: (resource.type.toList ++ [';'])))) := by
  have blank : " ".toList = [' '] := rfl
  have colon : ": ".toList = [':', ' '] := rfl
  have semicolon : ";".toList = [';'] := rfl
  unfold tail
  simp only [String.toList_append, blank, colon, semicolon, List.append_assoc, List.cons_append, List.nil_append]

theorem toList_line (resource : Resource) (binding : Nat) :
    (resource.line binding).toList =
      bindingFront ++ ((toString binding).toList ++ (')' :: ' ' :: (Declared.keyword ++ resource.tail.toList))) := by
  have split : resource.line binding = "@group(0) @binding(" ++ toString binding ++ ") var" ++ resource.tail := by
    unfold line tail
    simp only [String.append_assoc]
  have opening : "@group(0) @binding(".toList = bindingFront := by decide
  have closing : ") var".toList = ')' :: ' ' :: Declared.keyword := by decide
  rw [split]
  generalize resource.tail = tail
  simp only [String.toList_append, List.append_assoc, opening, closing, List.cons_append]

theorem Plain.not_mem_tail (plain : resource.Plain) {char : Char} (special : char ∈ ['@', '\n', '\r']) :
    char ∉ resource.tail.toList := by
  have storage : ∀ char ∈ ['@', '\n', '\r'], char ∉ "<storage, read>".toList ++ "<uniform>".toList := by simp
  have foreign : ∀ char ∈ ['@', '\n', '\r'], Text.isWordChar char = false := by simp [Text.isWordChar]
  have listed : ∀ char ∈ ['@', '\n', '\r'], char ∈ ['@', ';', '\n', '\r'] := by simp
  have signs : ∀ char ∈ ['@', '\n', '\r'], char ≠ ' ' ∧ char ≠ ':' ∧ char ≠ ';' := by simp
  have type : char ∉ resource.type.toList := fun member => plain.type char member (listed char special)
  obtain ⟨blank, colon, semicolon⟩ := signs char special
  simp [toList_tail, plain.not_mem_space (storage char special), plain.not_mem_name (foreign char special), type,
    blank, colon, semicolon]

/-! ## What is read in a line -/

theorem numerals_line (plain : resource.Plain) (binding : Nat) (rest : List Char) :
    numerals ((resource.line binding ++ "\n").toList ++ rest) = toString binding :: numerals rest := by
  have free : '@' ∉ ' ' :: (Declared.keyword ++ resource.tail.toList ++ ['\n']) := by
    simp [plain.not_mem_tail (List.mem_cons_self ..), Declared.keyword]
  have digits : '@' ∉ (toString binding).toList ∧ ')' ∉ (toString binding).toList :=
    ⟨not_mem_toString rfl binding, not_mem_toString rfl binding⟩
  have shape : (resource.line binding ++ "\n").toList ++ rest = bindingFront ++ ((toString binding).toList ++
      (')' :: (' ' :: (Declared.keyword ++ resource.tail.toList ++ ['\n']) ++ rest))) := by
    have feed : "\n".toList = ['\n'] := rfl
    rw [String.toList_append, resource.toList_line, feed]
    simp only [List.append_assoc, List.cons_append]
  rw [shape, numerals_attribute digits free, String.ofList_toList]

/-- What stands in front of the keyword. -/
def front (binding : Nat) : List Char := bindingFront ++ ((toString binding).toList ++ [')', ' '])

theorem toList_line_eq_front (resource : Resource) (binding : Nat) :
    (resource.line binding).toList = front binding ++ (Declared.keyword ++ resource.tail.toList) := by
  rw [toList_line, front]
  simp only [List.append_assoc, List.cons_append, List.nil_append]

theorem not_mem_front {char : Char} (absent : char ∉ ')' :: ' ' :: bindingFront) (nondigit : char.isDigit = false)
    (binding : Nat) : char ∉ front binding := by
  have digits := not_mem_toString nondigit binding
  simp only [List.mem_cons, not_or] at absent
  obtain ⟨closing, blank, opening⟩ := absent
  rw [front]
  generalize (toString binding).toList = numeral at digits
  simp [closing, blank, opening, digits]

/-! ## Resources as declarations -/

theorem plain_numeral (number : Nat) : Declared.Plain (toString number).toList where
  keyword inside := not_mem_toString (show 'v'.isDigit = false from rfl) number (inside.subset (List.mem_cons_self ..))
  brackets char special := by
    have foreign : ∀ char ∈ ['(', ')', '<', '>'], char.isDigit = false := by simp
    exact not_mem_toString (foreign char special) number

/-- The attributes that give a resource its binding in the first group. -/
def attributes (binding : Nat) : List Declared.Attribute := [
  { word := ['g', 'r', 'o', 'u', 'p']
    arguments := ['0']
    blanks := [' ']
    plain_word := by decide
    plain_arguments := by decide
    blank := List.all_eq_true.1 (by decide) },
  { word := ['b', 'i', 'n', 'd', 'i', 'n', 'g']
    arguments := (toString binding).toList
    blanks := [' ']
    plain_word := by decide
    plain_arguments := plain_numeral binding
    blank := List.all_eq_true.1 (by decide) }]

theorem front_eq (binding : Nat) : front binding = (attributes binding).flatMap Declared.Attribute.text := by
  simp [front, bindingFront, attributes, Declared.Attribute.text]

theorem Plain.exists_space (plain : resource.Plain) :
    ∃ space, (∀ text ∈ space, Declared.Plain text) ∧ resource.space.toList = Declared.bracketed space := by
  have space := plain.space
  simp only [spaces, List.mem_cons, List.not_mem_nil, or_false] at space
  rcases space with empty | uniform | storage
  · exact ⟨none, by simp, empty ▸ rfl⟩
  · exact ⟨some "uniform".toList, by rintro _ ⟨⟩; decide, uniform ▸ rfl⟩
  · exact ⟨some "storage, read".toList, by rintro _ ⟨⟩; decide, storage ▸ rfl⟩

/-- The line of a resource declares it. -/
theorem Plain.exists_declaration (plain : resource.Plain) (binding : Nat) :
    ∃ declaration : Declared.Declaration,
      declaration.line = (resource.line binding).toList ∧ declaration.name = resource.name := by
  obtain ⟨space, plain_space, bracketed⟩ := plain.exists_space
  refine ⟨{
    attributes := attributes binding
    space
    plain_space
    gap := 0
    name := resource.name
    filled := plain.name.filled
    word := plain.name.chars
    rest := ' ' :: (resource.type.toList ++ [';']) }, ?_, rfl⟩
  rw [toList_line_eq_front, toList_tail, front_eq, bracketed]
  rfl

/-- The name of the resource is read back. -/
theorem nameOf?_line (plain : resource.Plain) (binding : Nat) :
    Declared.nameOf? (resource.line binding).toList = some resource.name := by
  obtain ⟨declaration, line, name⟩ := plain.exists_declaration binding
  rw [← line, declaration.nameOf?_line, name]

/-- The name and the type of the resource are read back. -/
theorem global?_line (plain : resource.Plain) (binding : Nat) :
    global? (resource.line binding).toList = some (resource.name, resource.type.toList) := by
  have skipped : (resource.line binding).toList.dropWhile (· ≠ ':') =
      ':' :: ' ' :: (resource.type.toList ++ [';']) := by
    have shape : (resource.line binding).toList =
        (front binding ++ (Declared.keyword ++ (resource.space.toList ++ (' ' :: resource.name.toList)))) ++
          (':' :: ' ' :: (resource.type.toList ++ [';'])) := by
      rw [toList_line_eq_front, toList_tail]
      simp only [List.append_assoc, List.cons_append]
    have early : ':' ∉ front binding := not_mem_front (by decide) rfl binding
    have space : ':' ∉ resource.space.toList := plain.not_mem_space (by decide)
    have name : ':' ∉ resource.name.toList := plain.not_mem_name rfl
    have absent : ':' ∉ front binding ++ (Declared.keyword ++ (resource.space.toList ++ (' ' :: resource.name.toList))) := by
      simp [early, Declared.keyword, space, name]
    rw [shape, List.dropWhile_append_of_pos fun char member => by simpa using ne_of_mem_of_not_mem member absent]
    simp
  have read : (resource.type.toList ++ [';']).takeWhile (· ≠ ';') = resource.type.toList := by
    rw [List.takeWhile_append_of_pos]
    · simp
    · intro char member
      have foreign := plain.type char member
      simp only [List.mem_cons, not_or] at foreign
      simpa using foreign.2.1
  rw [global?, nameOf?_line plain, Option.map_some, skipped, List.drop_succ_cons, List.drop_succ_cons, List.drop_zero,
    read]

end Resource

/-! ## Lines that declare resources -/

/-- Lines that declare some resources under consecutive bindings, and nothing else. -/
inductive Declares : Nat → List Resource → List String → Prop where
  | nil (binding : Nat) : Declares binding [] []
  | quiet {binding : Nat} {resources : List Resource} {line : String} {rest : List String} : Quiet line.toList →
      Declares binding resources rest → Declares binding resources (line :: rest)
  | resource {binding : Nat} {resource : Resource} {resources : List Resource} {rest : List String} : resource.Plain →
      Declares (binding + 1) resources rest →
      Declares binding (resource :: resources) (resource.line binding :: rest)

namespace Declares

variable {binding : Nat} {first second resources : List Resource} {early late lines : List String}

theorem of_quiet (quiet : ∀ line ∈ lines, Quiet line.toList) (binding : Nat) : Declares binding [] lines := by
  induction lines with
  | nil => exact .nil binding
  | cons line rest ih =>
    obtain ⟨here, later⟩ := List.forall_mem_cons.1 quiet
    exact .quiet here (ih later)

theorem of_numbered (plain : ∀ resource ∈ resources, resource.Plain) (binding : Nat) :
    Declares binding resources (numbered binding resources) := by
  induction resources generalizing binding with
  | nil => exact .nil binding
  | cons resource rest ih =>
    obtain ⟨here, later⟩ := List.forall_mem_cons.1 plain
    exact .resource here (ih later (binding + 1))

theorem append (front : Declares binding first early) (back : Declares (binding + first.length) second late) :
    Declares binding (first ++ second) (early ++ late) := by
  induction front with
  | nil binding => exact back
  | quiet quiet _ ih => exact .quiet quiet (ih back)
  | @resource binding _ resources _ plain _ ih =>
    have next : binding + (resources.length + 1) = binding + 1 + resources.length := by omega
    exact .resource plain (ih (next ▸ back))

theorem append_quiet (front : Declares binding resources early) (quiet : ∀ line ∈ late, Quiet line.toList) :
    Declares binding resources (early ++ late) := by
  have all := front.append (.of_quiet quiet _)
  rwa [List.append_nil] at all

/-- No line has a break in it. -/
theorem oneLine (declares : Declares binding resources lines) :
    ∀ line ∈ lines, '\n' ∉ line.toList ∧ '\r' ∉ line.toList := by
  induction declares with
  | nil => simp
  | quiet quiet _ ih => exact List.forall_mem_cons.2 ⟨⟨quiet.feeds, quiet.returns⟩, ih⟩
  | @resource binding resource _ _ plain _ ih =>
    refine List.forall_mem_cons.2 ⟨?_, ih⟩
    have feed := plain.not_mem_tail (show '\n' ∈ _ by decide)
    have carriage := plain.not_mem_tail (show '\r' ∈ _ by decide)
    have early : '\n' ∉ Resource.front binding ∧ '\r' ∉ Resource.front binding :=
      ⟨Resource.not_mem_front (by decide) rfl binding, Resource.not_mem_front (by decide) rfl binding⟩
    rw [Resource.toList_line_eq_front]
    simp [feed, carriage, early, Declared.keyword]

/-- The bindings of the first group are those of the resources, each of them once. -/
theorem numerals_eq (declares : Declares binding resources lines) :
    numerals (unlines lines).toList = (List.range' binding resources.length).map toString := by
  have feed : "\n".toList = ['\n'] := rfl
  induction declares with
  | nil => rfl
  | @quiet _ _ line rest quiet _ ih =>
    have free : '@' ∉ (line ++ "\n").toList := by simp [String.toList_append, feed, quiet.bindings]
    rw [unlines, List.map_cons, String.join_cons, String.toList_append, numerals_append_of_free free, ← unlines, ih]
  | @resource binding resource resources rest plain _ ih =>
    rw [unlines, List.map_cons, String.join_cons, String.toList_append, Resource.numerals_line plain, ← unlines, ih]
    rfl

/-- The variables are the resources, with their types. -/
theorem globals_eq (declares : Declares binding resources lines) :
    (lines.map String.toList).filterMap global? =
      resources.map fun resource => (resource.name, resource.type.toList) := by
  induction declares with
  | nil => rfl
  | quiet quiet _ ih => rw [List.map_cons, List.filterMap_cons, global?, quiet.globals, Option.map_none, ih]
  | resource plain _ ih =>
    rw [List.map_cons, List.filterMap_cons, Resource.global?_line plain, ih]
    rfl

end Declares

end ShaderWeave.Code
