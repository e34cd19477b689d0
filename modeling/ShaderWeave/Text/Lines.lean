/-! # Lines

Cutting a text into lines. A line ends with a line feed, and a carriage return right before it belongs to the
break. What stands behind the last line feed is a line unless it is empty.
-/

namespace ShaderWeave.Text

/-- The parts of a text between its line feeds, of which there is always one more. -/
def splitAtFeeds : List Char → List (List Char)
  | [] => [[]]
  | char :: rest =>
    if char = '\n' then [] :: splitAtFeeds rest
    else
      match splitAtFeeds rest with
      | [] => [[char]]
      | part :: parts => (char :: part) :: parts

/-- Takes one carriage return off the end. -/
def dropReturn (part : List Char) : List Char :=
  if part.getLast? = some '\r' then part.dropLast else part

def lines (text : List Char) : List (List Char) :=
  let parts := splitAtFeeds text
  parts.dropLast.map dropReturn ++ (parts.getLast?.toList.filter (· ≠ []))

theorem splitAtFeeds_ne_nil (text : List Char) : splitAtFeeds text ≠ [] := by
  cases text with
  | nil => simp [splitAtFeeds]
  | cons char rest =>
    rw [splitAtFeeds]
    split
    · simp
    · split <;> simp

end ShaderWeave.Text
