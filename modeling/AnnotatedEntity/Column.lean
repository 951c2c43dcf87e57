/-
A column of a table, with the parameters of its type and its comment.
-/
import AnnotatedEntity.Naming

namespace AnnotatedEntity

/-! ## Type parameters -/

structure ColumnParameters where
  length : Option Int := none
  precision : Option Int := none
  scale : Option Int := none
deriving Repr, DecidableEq, Inhabited

namespace ColumnParameters

/-- Zero and minus one stand for a parameter that was never set. -/
def isSet (n : Int) : Bool := n ≠ 0 && n ≠ -1

def setLength (p : ColumnParameters) : Option Int := p.length.filter isSet

/-- Precision and scale, if both are set. -/
def setPrecisionScale (p : ColumnParameters) : Option (Int × Int) :=
  match p.precision.filter isSet, p.scale.filter isSet with
  | some precision, some scale => some (precision, scale)
  | _, _ => none

end ColumnParameters

/-! ## Columns -/

structure Column where
  name : String
  rawType : String
  storedDefault : Option String := none
  comment : Option String := none
  isPrimary : Bool := false
  isAutoIncrement : Bool := false
  isIgnored : Bool := false
  isUnsigned : Bool := false
  nullable : Bool := false
  /-- The tag says whether the column is nullable. -/
  nullableRequired : Bool := false
  parameters : ColumnParameters := {}
deriving Repr, DecidableEq, Inhabited

/-- A line of a doc block, without the blanks at its end. -/
def docLine (line : List Char) : List Char :=
  Text.trimEnd (" * ".toList ++ Text.trimEnd line)

/-- The lines of a doc block for a comment: one per line of the trimmed text, none if that is
empty. -/
def commentLines (comment : List Char) : List (List Char) :=
  match Text.trim comment with
  | [] => []
  | text => (text.splitOn '\n').map docLine

namespace Column

/-- The part of a method's name that stands for the column. -/
def methodSuffix (c : Column) : String := pascalCase c.name

def docLines (c : Column) : List String :=
  (commentLines (c.comment.getD "").toList).map String.ofList

end Column

end AnnotatedEntity
