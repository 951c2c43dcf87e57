/-
The attributes of a doc-block tag: an ordered set of named values, as in
`@ORM\Column(type="string", length=45)`. A name occurs once; setting it again replaces its value
where it stands. Values are texts, whole numbers, flags or, in braces, groups of further
attributes.
-/
import AnnotatedEntity.Text.Flag

namespace AnnotatedEntity

inductive AttributeValue where
  | text (s : String)
  | number (n : Int)
  | flag (b : Bool)
  | group (entries : List (String × AttributeValue))
deriving Repr, Inhabited

/-- Named values, in the order in which the names were first set. -/
abbrev Attributes := List (String × AttributeValue)

/-! ## Setting and reading -/

namespace Attributes

def empty : Attributes := []

/-- Sets a value: in place if the name is there, else at the end. -/
def insert (key : String) (value : AttributeValue) : Attributes → Attributes
  | [] => [(key, value)]
  | (k, v) :: rest => if k = key then (key, value) :: rest else (k, v) :: insert key value rest

def get? (key : String) : Attributes → Option AttributeValue
  | [] => none
  | (k, v) :: rest => if k = key then some v else get? key rest

def contains (key : String) (as : Attributes) : Bool := (as.get? key).isSome

def keys (as : Attributes) : List String := as.map (·.1)

/-- The attributes set one after the other, starting from none. -/
def ofPairs (pairs : List (String × AttributeValue)) : Attributes :=
  pairs.foldl (fun as (k, v) => as.insert k v) empty

end Attributes

/-! ## Written form -/

/-- A text with every double quote written twice. -/
def doubleQuotes (s : List Char) : List Char :=
  s.flatMap fun c => if c = '\x22' then ['\x22', '\x22'] else [c]

mutual

/-- The written form of a value. -/
def AttributeValue.render : AttributeValue → String
  | .text s => "\"" ++ String.ofList (doubleQuotes s.toList) ++ "\""
  | .number n => toString n
  | .flag b => Text.flag b
  | .group entries => "\x7b" ++ AttributeValue.renderGroup entries ++ "\x7d"

/-- The entries inside braces: names between quotes, entries separated by a comma. -/
def AttributeValue.renderGroup : List (String × AttributeValue) → String
  | [] => ""
  | [(k, v)] => "\"" ++ k ++ "\"=" ++ v.render
  | (k, v) :: rest => "\"" ++ k ++ "\"=" ++ v.render ++ ", " ++ AttributeValue.renderGroup rest

end

/-- The text between a tag's parentheses: bare names, entries separated by a comma. -/
def Attributes.content (as : Attributes) : String :=
  ", ".intercalate (as.map fun (k, v) => k ++ "=" ++ v.render)

end AnnotatedEntity
