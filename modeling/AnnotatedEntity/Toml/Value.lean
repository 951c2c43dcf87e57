/-
The values of a document. Keys of a table stand in the order of the document. A list of tables that
is put together from its own headers is told apart from a list that is written as a value.
-/
import AnnotatedEntity.Decimal.Binary64
import AnnotatedEntity.Toml.Datetime

namespace AnnotatedEntity.Toml

inductive Value where
  | string (s : String)
  | integer (n : Int)
  | float (x : Binary64)
  | boolean (b : Bool)
  | datetime (d : Datetime)
  | array (items : List Value)
  | table (entries : List (String × Value))
  | tables (elements : List (List (String × Value)))
deriving Repr, Inhabited

end AnnotatedEntity.Toml
