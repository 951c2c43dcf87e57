/-
Why a value of a document does not fit what is asked of it, and the wording.
-/
import AnnotatedEntity.Decimal.Shortest
import AnnotatedEntity.Text.Flag
import AnnotatedEntity.Text.Quoted
import AnnotatedEntity.Toml.Value

namespace AnnotatedEntity.Schema

/-- What a value is like to one who asks for something else. -/
inductive Kind where
  | string (s : String)
  | integer (n : Int)
  | float (x : Binary64)
  | boolean (b : Bool)
  | sequence
  | map
deriving Repr, DecidableEq, Inhabited

inductive Mismatch where
  | wrongKind (kind : Kind) (expected : String)
  | negative (n : Int)
  | missingField (name : String)
  /-- A record written as a list that ends before its last required field. -/
  | tooShort (length : Nat) (expected : String)
  | unknownVariant (name : String) (variants : List String)
  /-- A choice is written as a text, or as a table with that text for its only key. -/
  | noChoice
  | emptyChoice
  | manyChoices
  /-- What stands under the only key has to be empty. -/
  | filledList
  | filledTable
  | strayValue (typeName : String)
deriving Repr, DecidableEq, Inhabited

/-! ## Wording -/

def Kind.text : Kind → String
  | string s => "string " ++ Text.quoted s
  | integer n => "integer `" ++ toString n ++ "`"
  | float x => "floating point `" ++ x.text ++ "`"
  | boolean b => "boolean `" ++ Text.flag b ++ "`"
  | sequence => "sequence"
  | map => "map"

/-- The names that could have been meant. -/
def variantsText (names : List String) : String :=
  match names.map fun n => "`" ++ n ++ "`" with
  | [] => "there are no variants"
  | [a] => "expected " ++ a
  | [a, b] => "expected " ++ a ++ " or " ++ b
  | names => "expected one of " ++ ", ".intercalate names

def Mismatch.message : Mismatch → String
  | wrongKind kind expected => "invalid type: " ++ kind.text ++ ", expected " ++ expected
  | negative n => "invalid value: " ++ (Kind.integer n).text ++ ", expected usize"
  | missingField name => "missing field `" ++ name ++ "`"
  | tooShort length expected => "invalid length " ++ toString length ++ ", expected " ++ expected
  | unknownVariant name variants => "unknown variant `" ++ name ++ "`, " ++ variantsText variants
  | noChoice => "wanted string or table"
  | emptyChoice => "wanted exactly 1 element, found 0 elements"
  | manyChoices => "wanted exactly 1 element, more than 1 element"
  | filledList => "expected empty array"
  | filledTable => "expected empty table"
  | strayValue typeName => "expected table, found " ++ typeName

end AnnotatedEntity.Schema
