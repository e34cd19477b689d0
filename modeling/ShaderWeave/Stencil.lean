import ShaderWeave.Text.Quoted

/-! # Stencils

A stencil is a shader text with holes: lines whose holes are filled from named integers and switches, parts kept
or left out by a condition, and parts repeated once for each number below a count. `Stencil.render` fills it in.

A stencil is a closed tree, so rendering always ends. Faults name the line of the stencil's written form, in
which a condition takes a line for its test, its alternative and its end, and a repetition one line for its
head and one for its end.
-/

namespace ShaderWeave.Stencil

/-- What a hole can be filled with. -/
inductive Value where
  | int (value : Int)
  | switch (value : Bool)
  deriving DecidableEq, Repr

abbrev Bindings := List (String × Value)

/-- A switch counts as zero or one. -/
def Value.toInt : Value → Int
  | .int value => value
  | .switch value => if value then 1 else 0

def Value.holds : Value → Bool
  | .int value => value != 0
  | .switch value => value

def Value.text : Value → String
  | .int value => toString value
  | .switch value => if value then "True" else "False"

inductive Operator where
  | add
  | multiply
  deriving DecidableEq, Repr

inductive Term where
  | literal (value : Int)
  | variable (name : String)
  | apply (operator : Operator) (left right : Term)
  deriving DecidableEq, Repr

inductive Condition where
  | holds (name : String)
  | atLeast (name : String) (bound : Int)
  deriving DecidableEq, Repr

inductive Piece where
  | text (chars : String)
  | hole (term : Term)
  deriving DecidableEq, Repr

instance : Coe String Piece := ⟨.text⟩

inductive Item where
  | line (pieces : List Piece)
  | branch (condition : Condition) (yes no : List Item)
  | repeated (index count : String) (body : List Item)
  /-- Another stencil in place, with its own name and line numbers. -/
  | embed (name : String) (body : List Item)

/-! ## Faults -/

inductive Fault where
  /-- A name without a value was printed or compared. -/
  | undefinedValue
  | unsupportedOperands (operator : Operator) (left right : Option Value)
  | tooManyRepeats
  /-- A number of repeats that no signed word holds. -/
  | countTooLarge
  /-- A value under the name by which repeats are counted. -/
  | notCallable (value : Value)
  deriving DecidableEq, Repr

inductive RenderError where
  | notFound (name : String)
  | fault (cause : Fault) (name : String) (line : Nat)
  deriving DecidableEq, Repr

def kindName : Option Value → String
  | none => "undefined"
  | some (.int _) => "number"
  | some (.switch _) => "bool"

def Operator.sign : Operator → String
  | .add => "+"
  | .multiply => "*"

def Fault.message : Fault → String
  | .undefinedValue => "undefined value"
  | .unsupportedOperands operator left right =>
    "invalid operation: tried to use " ++ operator.sign ++ " operator on unsupported types " ++
      kindName left ++ " and " ++ kindName right
  | .tooManyRepeats => "invalid operation: range has too many elements"
  | .countTooLarge => "invalid operation: cannot convert number to isize"
  | .notCallable value => "invalid operation: value of type " ++ kindName (some value) ++ " is not callable"

def RenderError.message : RenderError → String
  | .notFound name => "template not found: template " ++ Text.quoted name ++ " does not exist"
  | .fault cause name line => cause.message ++ " (in " ++ name ++ ":" ++ toString line ++ ")"

/-! ## Rendering -/

def Operator.run : Operator → Int → Int → Int
  | .add => (· + ·)
  | .multiply => (· * ·)

/-- The value of a term; a name without a value has none, and cannot be calculated with. -/
def Term.eval (bindings : Bindings) : Term → Except Fault (Option Value)
  | .literal value => .ok (some (.int value))
  | .variable name => .ok (bindings.lookup name)
  | .apply operator left right => do
    match ← left.eval bindings, ← right.eval bindings with
    | some left, some right => .ok (some (.int (operator.run left.toInt right.toInt)))
    | left, right => .error (.unsupportedOperands operator left right)

def Piece.render (bindings : Bindings) : Piece → Except Fault String
  | .text chars => .ok chars
  | .hole term => do
    match ← term.eval bindings with
    | some value => .ok value.text
    | none => .error .undefinedValue

/-- A name without a value fails a bare test quietly, but cannot be compared. A switch comes before all numbers. -/
def Condition.eval (bindings : Bindings) : Condition → Except Fault Bool
  | .holds name => .ok ((bindings.lookup name).any Value.holds)
  | .atLeast name bound =>
    match bindings.lookup name with
    | some (.int value) => .ok (decide (bound ≤ value))
    | some (.switch _) => .ok false
    | none => .error .undefinedValue

/-- The most repeats of one part. -/
def maxRepeats : Nat := 100000

/-- The largest number of a signed word. -/
def maxCount : Int := 9223372036854775807

/-- How often a part is repeated. Repeats are counted off by `range`, and a binding of that name hides it. -/
def countOf (bindings : Bindings) (name : String) : Except Fault Nat :=
  match bindings.lookup "range", bindings.lookup name with
  | some hidesRange, _ => .error (.notCallable hidesRange)
  | none, none => .error .undefinedValue
  | none, some value =>
    if maxCount < value.toInt then .error .countTooLarge
    else if maxRepeats < value.toInt.toNat then .error .tooManyRepeats
    else .ok value.toInt.toNat

mutual
/-- How many lines the written form of an item has. -/
def Item.height : Item → Nat
  | .line _ => 1
  | .branch _ yes no => height yes + height no + 3
  | .repeated _ _ body => height body + 2
  | .embed _ _ => 1

def height : List Item → Nat
  | [] => 0
  | item :: rest => item.height + height rest
end

/-- Puts a fault at its place. -/
def at? (name : String) (line : Nat) {α : Type} (result : Except Fault α) : Except RenderError α :=
  result.mapError (.fault · name line)

mutual
/-- The lines of an item that starts on line `line` of the stencil `name`. -/
def Item.lines (name : String) (line : Nat) (bindings : Bindings) : Item → Except RenderError (List String)
  | .line pieces => do
    let parts ← at? name line (pieces.mapM (Piece.render bindings))
    return [String.join parts]
  | .branch condition yes no => do
    if ← at? name line (condition.eval bindings) then linesOf name (line + 1) bindings yes
    else linesOf name (line + height yes + 2) bindings no
  | .repeated index count body => do
    let count ← at? name line (countOf bindings count)
    let parts ← (List.range count).mapM fun number =>
      linesOf name (line + 1) ((index, .int (Int.ofNat number)) :: bindings) body
    return parts.flatten
  | .embed name body => linesOf name 1 bindings body

def linesOf (name : String) (line : Nat) (bindings : Bindings) : List Item → Except RenderError (List String)
  | [] => .ok []
  | item :: rest => do
    let first ← item.lines name line bindings
    let others ← linesOf name (line + item.height) bindings rest
    return first ++ others
end

/-- Lines as one text, each with a line break behind it. -/
def unlines (lines : List String) : String :=
  String.join (lines.map (· ++ "\n"))

def render (name : String) (items : List Item) (bindings : Bindings) : Except RenderError String :=
  (linesOf name 1 bindings items).map unlines

end ShaderWeave.Stencil
