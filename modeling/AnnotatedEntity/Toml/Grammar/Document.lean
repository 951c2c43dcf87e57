/-
Values, statements and whole documents. Lists and tables may stand inside one another, but not more
than 79 deep.
-/
import AnnotatedEntity.Toml.Grammar.Moment
import AnnotatedEntity.Toml.Grammar.Number
import AnnotatedEntity.Toml.Grammar.Quoted
import AnnotatedEntity.Toml.Tree

namespace AnnotatedEntity.Toml.Grammar

open Text (Reader)

open Text.Reader

/-! ## Values -/

/-- A value that holds no others. -/
def scalar : Reader Value :=
  Value.string <$> string
    <|> Value.datetime <$> datetime
    <|> Value.float <$> float
    <|> Value.integer <$> integer
    <|> (do literal "true"; return .boolean true)
    <|> (do literal "false"; return .boolean false)

/-- A key, an equals sign and a value. -/
def assignment (value : Reader Value) : Reader Assignment := do
  let keys ← dottedKey
  let _ ← char '='
  blanks
  let value ← value
  blanks
  match keys.getLast? with
  | some key => return { path := keys.dropLast, key, value }
  | none => failure

/-- Items between brackets. They may stand on several lines, and a comma may follow the last one. -/
def listOf (value : Reader Value) : Reader Value := do
  let _ ← char '['
  let items ← optionally do
    let items ← separated (char ',') do
      spaces
      let item ← value
      spaces
      return item
    let _ ← optionally (char ',')
    return items
  spaces
  let _ ← char ']'
  return .array (items.getD [])

/-- Assignments between braces, on one line. -/
def tableOf (value : Reader Value) : Reader Value := do
  let _ ← char '\x7b'
  let body ← optionally (separated (char ',') (assignment value))
  blanks
  let _ ← char '\x7d'
  match inlineTable (body.getD []) with
  | some table => return table
  | none => failure

/-- A value in which lists and tables are no deeper than this. -/
def value : Nat → Reader Value
  | 0 => scalar
  | depth + 1 => scalar <|> listOf (value depth) <|> tableOf (value depth)

/-! ## Statements -/

/-- A header between single or double brackets. -/
def headerBetween (opening closing : String) (isElement : Bool) : Reader Header := do
  literal opening
  let keys ← dottedKey
  literal closing
  lineRest
  match keys.getLast? with
  | some key => return { path := keys.dropLast, key, isElement }
  | none => failure

def header : Reader Header := headerBetween "[[" "]]" true <|> headerBetween "[" "]" false

/-- Lines that say nothing. -/
def emptyLines : Reader Unit := do
  let _ ← many do
    blanks
    let _ ← optionally comment
    newline <|> endOfText

def body : Reader (List Assignment) := do
  emptyLines
  let assignments ← many do
    let a ← assignment (value 79)
    lineRest
    emptyLines
    return a
  blanks
  return assignments

/-- A header and what stands below it. -/
def headedBody : Reader Section := do
  return { header := ← header, body := ← body }

def document : Reader Document := do
  let _ ← optionally (char '\ufeff')
  return { body := ← body, sections := ← many headedBody }

end Grammar

/-- The keys and values of the document that a text is, if it is one. -/
def parse? (s : List Char) : Option (List (String × Value)) :=
  (Text.Reader.whole Grammar.document s).bind Document.values

end AnnotatedEntity.Toml
