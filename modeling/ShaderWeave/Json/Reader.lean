import ShaderWeave.Json.Value
import ShaderWeave.Text.Hex

/-! # Reading JSON

`Value.parse?` reads a whole text as one JSON value, with blanks around it. Each reader takes its value off the front of a
text and gives the rest. The readers of values, items and members call each other; they get two steps for each
character of the text, which is enough because of two steps that follow each other one takes a character.
-/

namespace ShaderWeave.Json

def isSpace (char : Char) : Bool :=
  char == ' ' || char == '\n' || char == '\t' || char == '\r'

def skipSpace (text : List Char) : List Char := text.dropWhile isSpace

def digit? (char : Char) : Option Nat :=
  if char.isDigit then some (char.toNat - 48) else none

/-- Digits at the front of a text. -/
def readDigits (text : List Char) : List Nat × List Char :=
  ((text.takeWhile Char.isDigit).filterMap digit?, text.dropWhile Char.isDigit)

/-- Digits of which there must be one. -/
def readSomeDigits? (text : List Char) : Option (List Nat × List Char) :=
  match readDigits text with
  | ([], _) => none
  | found => some found

def readFraction? : List Char → Option (Option (List Nat) × List Char)
  | '.' :: rest => (readSomeDigits? rest).map fun (digits, rest) => (some digits, rest)
  | text => some (none, text)

/-- The sign of an exponent, and what follows it. -/
def readSign : List Char → Bool × List Char
  | '-' :: rest => (true, rest)
  | '+' :: rest => (false, rest)
  | rest => (false, rest)

def readExponent? : List Char → Option (Option (Bool × List Nat) × List Char)
  | [] => some (none, [])
  | char :: rest =>
    if char = 'e' ∨ char = 'E' then
      let (negative, rest) := readSign rest
      (readSomeDigits? rest).map fun (digits, rest) => (some (negative, digits), rest)
    else some (none, char :: rest)

/-- A numeral: no leading zero before another digit, and a digit on both sides of a point. -/
def readNumeral? (text : List Char) : Option (Numeral × List Char) := do
  let (negative, text) := match text with
    | '-' :: rest => (true, rest)
    | text => (false, text)
  let (whole, text) ← readSomeDigits? text
  if whole.head? = some 0 ∧ 1 < whole.length then none
  else
    let (fraction, text) ← readFraction? text
    let (exponent, text) ← readExponent? text
    return ({ negative, whole, fraction, exponent }, text)

/-- The unit that four hexadecimal digits write. -/
def unit? (first second third fourth : Char) : Option Nat := Text.ofHex? [first, second, third, fourth]

def simpleEscape? : Char → Option Char
  | '"' => some '"'
  | '\\' => some '\\'
  | '/' => some '/'
  | 'b' => some '\x08'
  | 'f' => some '\x0c'
  | 'n' => some '\n'
  | 'r' => some '\r'
  | 't' => some '\t'
  | _ => none

/-- A piece of a string: a character, or a unit of sixteen bits that was escaped. -/
inductive StringPart where
  | char (char : Char)
  | unit (value : Nat)

/-- The parts of a string up to its closing quote. Control characters must be escaped. -/
def readParts? : List Char → Option (List StringPart × List Char)
  | [] => none
  | '"' :: rest => some ([], rest)
  | '\\' :: 'u' :: first :: second :: third :: fourth :: rest => do
    let value ← unit? first second third fourth
    let (parts, rest) ← readParts? rest
    return (.unit value :: parts, rest)
  | '\\' :: escaped :: rest => do
    let char ← simpleEscape? escaped
    let (parts, rest) ← readParts? rest
    return (.char char :: parts, rest)
  | char :: rest =>
    if char.toNat < 32 ∨ char = '\\' then none
    else do
      let (parts, rest) ← readParts? rest
      return (.char char :: parts, rest)

/-- The characters of a string; two units make one character when they are a surrogate pair. -/
def joinParts? : List StringPart → Option (List Char)
  | [] => some []
  | .char char :: rest => (joinParts? rest).map (char :: ·)
  | .unit high :: .unit low :: rest =>
    if 0xD800 ≤ high ∧ high < 0xDC00 then
      if 0xDC00 ≤ low ∧ low < 0xE000 then
        (joinParts? rest).map (Char.ofNat (0x10000 + (high - 0xD800) * 0x400 + (low - 0xDC00)) :: ·)
      else none
    else if 0xDC00 ≤ high ∧ high < 0xE000 then none
    else (joinParts? (.unit low :: rest)).map (Char.ofNat high :: ·)
  | .unit value :: rest =>
    if 0xD800 ≤ value ∧ value < 0xE000 then none
    else (joinParts? rest).map (Char.ofNat value :: ·)

/-- A string behind its opening quote. -/
def readString? (text : List Char) : Option (Option String × List Char) := do
  let (parts, rest) ← readParts? text
  return ((joinParts? parts).map String.ofList, rest)

mutual
def readValue? : Nat → List Char → Option (Value × List Char)
  | 0, _ => none
  | steps + 1, text =>
    match skipSpace text with
    | [] => none
    | 'n' :: 'u' :: 'l' :: 'l' :: rest => some (.null, rest)
    | 't' :: 'r' :: 'u' :: 'e' :: rest => some (.bool true, rest)
    | 'f' :: 'a' :: 'l' :: 's' :: 'e' :: rest => some (.bool false, rest)
    | '"' :: rest => (readString? rest).map fun (text, rest) => (.string text, rest)
    | '[' :: rest =>
      match skipSpace rest with
      | ']' :: rest => some (.array [], rest)
      | rest => (readItems? steps rest).map fun (items, rest) => (.array items, rest)
    | '\x7b' :: rest =>
      match skipSpace rest with
      | '\x7d' :: rest => some (.object [], rest)
      | rest => (readMembers? steps rest).map fun (members, rest) => (.object members, rest)
    | text => (readNumeral? text).map fun (numeral, rest) => (.number numeral, rest)

/-- Items of an array, of which there is at least one, and the closing bracket. -/
def readItems? : Nat → List Char → Option (List Value × List Char)
  | 0, _ => none
  | steps + 1, text => do
    let (item, text) ← readValue? steps text
    match skipSpace text with
    | ']' :: rest => return ([item], rest)
    | ',' :: rest =>
      let (items, rest) ← readItems? steps rest
      return (item :: items, rest)
    | _ => none

/-- Members of an object, of which there is at least one, and the closing brace. -/
def readMembers? : Nat → List Char → Option (List (Option String × Value) × List Char)
  | 0, _ => none
  | steps + 1, text =>
    match skipSpace text with
    | '"' :: rest => do
      let (key, rest) ← readString? rest
      match skipSpace rest with
      | ':' :: rest =>
        let (value, rest) ← readValue? steps rest
        match skipSpace rest with
        | '\x7d' :: rest => return ([(key, value)], rest)
        | ',' :: rest =>
          let (members, rest) ← readMembers? steps rest
          return ((key, value) :: members, rest)
        | _ => none
      | _ => none
    | _ => none
end

/-- Reads a whole text as one value. -/
def Value.parse? (text : String) : Option Value :=
  let chars := text.toList
  match readValue? (2 * chars.length + 2) chars with
  | some (value, rest) => if (skipSpace rest).isEmpty then some value else none
  | none => none

end ShaderWeave.Json
