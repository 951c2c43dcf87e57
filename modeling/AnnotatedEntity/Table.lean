/-
A table and the class that it becomes.
-/
import AnnotatedEntity.Column

namespace AnnotatedEntity

structure Table where
  name : String
  model : String
  classNamespace : String
  columns : List Column
  comment : Option String := none
deriving Repr, DecidableEq, Inhabited

/-- A namespace without the backslashes at its ends. -/
def bareNamespace (s : List Char) : List Char := Text.stripBoth (· == '\\') s

namespace Table

/-- The fully qualified class, such as `\App\Entity\User`. -/
def className (t : Table) : String :=
  match bareNamespace t.classNamespace.toList with
  | [] => "\\" ++ t.model
  | space => "\\" ++ String.ofList space ++ "\\" ++ t.model

/-- The columns that are not ignored. -/
def rendered (t : Table) : List Column := t.columns.filter (!·.isIgnored)

end Table

end AnnotatedEntity
