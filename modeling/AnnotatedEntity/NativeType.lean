/-
The types of the generated properties, how they are written in doc blocks and signatures, and the
literal that a stored default becomes.
-/

namespace AnnotatedEntity

inductive NativeType where
  | string
  | integer
  | boolean
  | float
  | array
  | object
  | ofClass (className : String)
deriving Repr, DecidableEq, Inhabited

namespace NativeType

def name : NativeType → String
  | string => "string"
  | integer => "integer"
  | boolean => "boolean"
  | float => "float"
  | array => "array"
  | object => "object"
  | ofClass className => className

/-- A setter casts its argument to these types. -/
def isCastable : NativeType → Bool
  | float | integer | boolean => true
  | _ => false

/-- The short name that a signature uses. -/
def shortName : NativeType → String
  | integer => "int"
  | boolean => "bool"
  | t => t.name

/-- The type as a getter's signature returns it, with a question mark if it may be null. -/
def returnType (t : NativeType) (nullable : Bool) : String :=
  if nullable && t.shortName ≠ "" then "?" ++ t.shortName else t.shortName

end NativeType

/-! ## Default values -/

/-- The inside of a text between apostrophes; any other text as it is. A lone apostrophe is taken
for both of the pair. -/
def unquote (s : List Char) : List Char :=
  if s.head? = some '\x27' && s.getLast? = some '\x27' then (s.drop 1).dropLast else s

/-- Flags are stored as texts, and only these two read as false. -/
def readsFalse (s : String) : Bool := s == "" || s == "0"

/-- The literal for a stored default, shaped by the type of the property. -/
def NativeType.literal (t : NativeType) (stored : Option String) : String :=
  let value := stored.getD ""
  match t with
  | .boolean => if readsFalse value then "false" else "true"
  | .array => String.ofList (unquote value.toList)
  | .float => if value.toList.contains '.' then value else value ++ ".0"
  | _ => value

end AnnotatedEntity
