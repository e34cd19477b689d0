import ShaderWeave.Text.Blank
import ShaderWeave.Text.Lines

/-! # Declared names

The names that a shader text declares at module scope: `var name`, `var<uniform> name`, `var<storage, read> name`,
at the start of a line or behind attributes. Local variables are indented, so a line that starts with a blank
declares nothing.
-/

namespace ShaderWeave.Declared

def keyword : List Char := ['v', 'a', 'r']

/-- Whether a declaration may start behind `passed`, whose last character stands first: at the start of a line, or
behind a closing parenthesis and blanks. -/
def mayFollow (passed : List Char) : Bool :=
  passed.isEmpty || (Text.dropBlankStart passed).head? == some ')'

/-- Whether `text` starts with the keyword as a whole word that a name or an address space can follow. -/
def startsKeyword (text : List Char) : Bool :=
  keyword.isPrefixOf text && ((text.drop keyword.length).head?.any fun after => after == '<' || after == ' ')

/-- How many characters stand before the keyword of the declaration, given those already passed, the last one first. -/
def keywordPosition? (passed : List Char) : List Char → Option Nat
  | [] => none
  | char :: rest =>
    if startsKeyword (char :: rest) && mayFollow passed then some passed.length
    else keywordPosition? (char :: passed) rest

/-- Skips an address space between angle brackets; one that is not closed is an error of the line. -/
def dropAddressSpace? : List Char → Option (List Char)
  | '<' :: rest =>
    match rest.dropWhile (· ≠ '>') with
    | [] => none
    | _ :: behind => some behind
  | rest => some rest

/-- The name that a line declares. -/
def nameOf? (line : List Char) : Option String :=
  if line.head?.any Text.isBlank then none
  else do
    let position ← keywordPosition? [] (Text.dropBlankEnd line)
    let behind ← dropAddressSpace? (line.drop (position + keyword.length))
    let name := (Text.dropBlankStart behind).takeWhile Text.isWordChar
    if name.isEmpty then none else some (String.ofList name)

/-- Declared names by first appearance, each once. -/
def names (source : String) : List String :=
  ((Text.lines source.toList).filterMap nameOf?).eraseDups

end ShaderWeave.Declared
