/-
The types a column can be mapped to. Nineteen are built in and known by name whatever the case;
every other name is a custom type and keeps its spelling.
-/
import AnnotatedEntity.Text.Blank
import AnnotatedEntity.Text.Case

namespace AnnotatedEntity

inductive MappedType where
  | string
  | text
  | integer
  | smallInt
  | bigInt
  | boolean
  | decimal
  | float
  | date
  | time
  | dateTime
  | dateTimeTz
  | blob
  | binary
  | guid
  | array
  | simpleArray
  | jsonArray
  | object
  | custom (name : String)
deriving Repr, DecidableEq, Inhabited

namespace MappedType

def builtins : List MappedType :=
  [string, text, integer, smallInt, bigInt, boolean, decimal, float, date, time, dateTime,
   dateTimeTz, blob, binary, guid, array, simpleArray, jsonArray, object]

def name : MappedType → String
  | string => "string"
  | text => "text"
  | integer => "integer"
  | smallInt => "smallint"
  | bigInt => "bigint"
  | boolean => "boolean"
  | decimal => "decimal"
  | float => "float"
  | date => "date"
  | time => "time"
  | dateTime => "datetime"
  | dateTimeTz => "datetimetz"
  | blob => "blob"
  | binary => "binary"
  | guid => "guid"
  | array => "array"
  | simpleArray => "simple_array"
  | jsonArray => "json_array"
  | object => "object"
  | custom name => name

/-- The type a name stands for: the built-in one whose name is the lower-case form, if any. -/
def ofName (s : String) : MappedType :=
  (builtins.find? (·.name == Text.onString Text.lower s)).getD (custom s)

def isCustom : MappedType → Bool
  | custom _ => true
  | _ => false

/-- The name written into a column's tag. Arrays are stored as JSON. -/
def tagName : MappedType → String
  | array => jsonArray.name
  | t => t.name

end MappedType

end AnnotatedEntity
