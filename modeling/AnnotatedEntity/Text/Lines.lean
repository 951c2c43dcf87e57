/-
Lines of a text.
-/

namespace AnnotatedEntity.Text

/-- The lines without their ends: a line feed, or a carriage return and a line feed. What stands
behind the last end is a line only if it is not empty. -/
def lines : List Char → List (List Char)
  | [] => []
  | '\n' :: rest => [] :: lines rest
  | '\r' :: '\n' :: rest => [] :: lines rest
  | c :: rest =>
    match lines rest with
    | [] => [[c]]
    | line :: others => (c :: line) :: others

theorem lines_feed (s : List Char) : lines ('\n' :: s) = [] :: lines s := rfl

end AnnotatedEntity.Text
