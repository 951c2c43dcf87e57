/-
Names of classes and methods, made from the names of tables and columns.
-/
import AnnotatedEntity.Text.Blank
import AnnotatedEntity.Text.Case

namespace AnnotatedEntity

/-- The parts between underscores, each with its first letter raised, without the underscores. -/
def pascalChars (s : List Char) : List Char :=
  (s.splitOn '_').flatMap Text.capitalize

def pascalCase (s : String) : String := Text.onString pascalChars s

end AnnotatedEntity
