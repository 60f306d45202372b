/-!
Physical lines of a text. A line ends at a line feed, with one carriage return directly before it
if there is one; what follows the last line feed is a line unless it is empty.
-/

namespace TypedConfig.Text

/-- The lines of a text without their ends. A carriage return that no line feed follows is an
ordinary character. -/
def lines : List Char → List (List Char)
  | [] => []
  | '\n' :: cs => [] :: lines cs
  | '\r' :: '\n' :: cs => [] :: lines cs
  | c :: cs =>
    match lines cs with
    | [] => [[c]]
    | l :: ls => (c :: l) :: ls

@[simp] theorem lines_nil : lines [] = [] := rfl

@[simp] theorem lines_newline (cs : List Char) : lines ('\n' :: cs) = [] :: lines cs := by
  simp [lines]

end TypedConfig.Text
