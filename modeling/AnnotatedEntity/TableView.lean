/-
What the columns of a table need to know of it: how a tag is written, the name of the class, and
how a column's name is quoted.
-/
import AnnotatedEntity.Attributes
import AnnotatedEntity.Options
import AnnotatedEntity.ReservedWord
import AnnotatedEntity.Table

namespace AnnotatedEntity

structure TableView where
  /-- A tag of a name, with the attributes that stand in its parentheses if it has any. -/
  tag : String → Option Attributes → String
  className : String
  quote : String → String

/-- A column's name, between back quotes if the strategy asks for them. -/
def QuoteStrategy.quote (s : QuoteStrategy) (name : String) : String :=
  let quoted :=
    match s with
    | always => true
    | auto => isReservedWord name
    | never => false
  if quoted then "`" ++ name ++ "`" else name

/-- A tag after its sign and the common start of all tags. -/
def writeTag (start name : String) (attributes : Option Attributes) : String :=
  "@" ++ start ++ name ++
    match attributes with
    | some as => "(" ++ as.content ++ ")"
    | none => ""

/-- The view of a table under the options. -/
def TableView.ofTable (t : Table) (o : Options) : TableView where
  tag := writeTag o.tagPrefix
  className := t.className
  quote := o.quoteStrategy.quote

end AnnotatedEntity
