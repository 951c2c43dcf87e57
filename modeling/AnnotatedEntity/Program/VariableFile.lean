/-
A file of variables, one `NAME=value` a line. A value may be quoted and then go on over several
lines; it may use other variables, and a comment may follow it. The first line that makes no sense
ends the reading, and what stands above it counts.
-/
import AnnotatedEntity.Text.Alphanumeric
import AnnotatedEntity.Text.Blank

namespace AnnotatedEntity.VariableFile

/-! ## Lines -/

/-- The bytes of each line, the line end with them. -/
def byteLines : List UInt8 → List (List UInt8)
  | [] => []
  | b :: rest =>
    if b = 10 then [b] :: byteLines rest
    else
      match byteLines rest with
      | [] => [[b]]
      | line :: lines => (b :: line) :: lines

/-- The lines of a file, or nothing for one that is no text. A mark of the byte order in front is
left out. -/
def textLines (content : ByteArray) : List (Option (List Char)) :=
  let bytes := content.toList
  let bytes := if [0xEF, 0xBB, 0xBF].isPrefixOf bytes then bytes.drop 3 else bytes
  (byteLines bytes).map fun line => (String.fromUTF8? ⟨line.toArray⟩).map String.toList

/-- Where a line stands with its quotes. -/
inductive Quoting where
  | complete
  | blank
  | escape
  | weak
  | weakEscape
  | strong
  | strongEscape
deriving Repr, DecidableEq, Inhabited

/-- How far a line has come. -/
inductive Progress where
  | at (quoting : Quoting)
  /-- A comment begins after this many characters. -/
  | comment (column : Nat)
deriving Repr, DecidableEq, Inhabited

/-- The state after a character that opens nothing or something. -/
def opened : Char → Quoting
  | '\\' => .escape
  | '"' => .weak
  | '\'' => .strong
  | _ => .complete

/-- The state after a character between quotes. -/
def quoted (quote : Char) (inside afterBackslash : Quoting) (c : Char) : Quoting :=
  if c = '\\' then afterBackslash else if c = quote then .complete else inside

/-- How far a line comes from a state, where the characters before it are counted. -/
def scan (column : Nat) : Quoting → List Char → Progress
  | quoting, [] => .at quoting
  | .complete, c :: rest =>
    if Text.isBlank c && c ≠ '\n' && c ≠ '\r' then scan (column + 1) .blank rest
    else scan (column + 1) (opened c) rest
  | .blank, c :: rest =>
    if c = '#' then .comment column else scan (column + 1) (opened c) rest
  | .escape, _ :: rest => scan (column + 1) .complete rest
  | .weak, c :: rest =>
    scan (column + 1) (quoted '"' .weak .weakEscape c) rest
  | .weakEscape, _ :: rest => scan (column + 1) .weak rest
  | .strong, c :: rest =>
    scan (column + 1) (quoted '\'' .strong .strongEscape c) rest
  | .strongEscape, _ :: rest => scan (column + 1) .strong rest

/-- A line without its line end. -/
def withoutLineEnd (s : List Char) : List Char :=
  match s.reverse with
  | '\n' :: '\r' :: rest => rest.reverse
  | '\n' :: rest => rest.reverse
  | _ => s

/-- The lines, where one with an open quote goes on in the next. A comment is cut off, and what the
lines before it began is kept. A line that does not come to its end, or is no text, is missing and
is the last. -/
def joined (begun : List Char) (quoting : Quoting) :
    List (Option (List Char)) → List (Option (List Char))
  | [] => if quoting = .complete then [] else [none]
  | none :: _ => [none]
  | some line :: rest =>
    let text := begun ++ line
    if (Text.trimStart text).head? = some '#' then joined [] .complete rest
    else
      match scan 0 quoting line with
      | .comment column => some (begun ++ line.take column) :: joined [] .complete rest
      | .at .complete => some (withoutLineEnd text) :: joined [] .complete rest
      | .at quoting => joined text quoting rest

/-! ## Values -/

/-- The state inside a value. Between double quotes variables and escapes count as they do
outside. -/
inductive Reading where
  | plain
  | weak
  | strong
  | escape (isQuoted : Bool)
  | naming (isQuoted : Bool) (name : List Char)
  | braced (isQuoted : Bool) (name : List Char)
  /-- The value has ended. -/
  | ended
deriving Repr, DecidableEq, Inhabited

def Reading.within (isQuoted : Bool) : Reading := if isQuoted then weak else plain

/-- What a backslash makes of the character after it. -/
def unescaped? : Char → Option Char
  | 'n' => some '\n'
  | c => if ['\\', '\'', '"', '$', ' '].contains c then some c else none

/-- The value in a text, with what variables hold. A variable's name after `$` goes on over letters
and numbers of any script, and the character after it is taken as it is, even if it is a quote. -/
def value? (holds : List Char → List Char) : Reading → List Char → Option (List Char)
  | .plain, [] | .ended, [] | .escape false, [] => some []
  | .naming false name, [] => some (holds name)
  | _, [] => none
  | .ended, c :: rest =>
    if c = ' ' || c = '\t' then value? holds .ended rest else if c = '#' then some [] else none
  | .escape isQuoted, c :: rest => do
    let c ← unescaped? c
    return c :: (← value? holds (.within isQuoted) rest)
  | .strong, c :: rest =>
    if c = '\'' then value? holds .plain rest else do return c :: (← value? holds .strong rest)
  | .naming isQuoted name, c :: rest =>
    if Text.isAlphanumeric c then value? holds (.naming isQuoted (name ++ [c])) rest
    else if c = '\x7b' && name.isEmpty then value? holds (.braced isQuoted []) rest
    else if c = '$' then do return holds name ++ (← value? holds (.naming isQuoted []) rest)
    else do return holds name ++ c :: (← value? holds (.within isQuoted) rest)
  | .braced isQuoted name, c :: rest =>
    if c = '\x7d' then do return holds name ++ (← value? holds (.within isQuoted) rest)
    else value? holds (.braced isQuoted (name ++ [c])) rest
  | .weak, c :: rest =>
    if c = '$' then value? holds (.naming true []) rest
    else if c = '"' then value? holds .plain rest
    else if c = '\\' then value? holds (.escape true) rest
    else do return c :: (← value? holds .weak rest)
  | .plain, c :: rest =>
    if c = '$' then value? holds (.naming false []) rest
    else if c = '\'' then value? holds .strong rest
    else if c = '"' then value? holds .weak rest
    else if c = '\\' then value? holds (.escape false) rest
    else if c = ' ' || c = '\t' then value? holds .ended rest
    else do return c :: (← value? holds .plain rest)

/-! ## Assignments -/

abbrev Assignment := List Char × List Char

/-- A name that is assigned to has ASCII letters and digits only. -/
def isNameChar (c : Char) : Bool := c.isAlphanum || c = '_' || c = '.'

/-- A name and what follows it, without the blanks between. -/
def name? (s : List Char) : Option (List Char × List Char) :=
  match s.takeWhile isNameChar with
  | [] => none
  | c :: name =>
    if c.isDigit || c = '.' then none
    else some (c :: name, Text.trimStart (s.dropWhile isNameChar))

/-- What follows an equals sign. -/
def afterEquals? : List Char → Option (List Char)
  | '=' :: rest => some (Text.trimStart rest)
  | _ => none

/-- A name and the text of its value. The word `export` may stand in front. -/
def sides? (s : List Char) : Option (List Char × List Char) := do
  let (name, rest) ← name? s
  match afterEquals? rest with
  | some value => return (name, value)
  | none =>
    if name = "export".toList then
      let (name, rest) ← name? rest
      return (name, ← afterEquals? rest)
    else failure

/-- The assignment in a line: none in an empty one, and a failure if the line makes no sense. -/
def assignment? (holds : List Char → List Char) (line : List Char) : Option (Option Assignment) :=
  match Text.trim line with
  | [] | '#' :: _ => some none
  | text => do
    let (name, value) ← sides? text
    if value.isEmpty || value.head? = some '#' then return some (name, [])
    else return some (name, ← value? holds .plain value)

/-- What follows a text in another one that begins with it. -/
def afterStart? (start s : List Char) : Option (List Char) :=
  if start.isPrefixOf s then some (s.drop start.length) else none

/-- What is found under a name among entries that are written `NAME=value`. An entry fits that
begins with the name and an equals sign, so a name may run on into a value, up to an equals sign in
it. -/
def found (holds : List Char → Option (List Char)) (name : List Char) : Option (List Char) :=
  match name.dropWhile (· ≠ '=') with
  | [] => holds name
  | _ :: inValue => (holds (name.takeWhile (· ≠ '='))).bind (afterStart? (inValue ++ ['=']))

/-- What a variable holds after some assignments: what it is set to outside, or else what it was
first assigned. -/
def held (outer : List Char → Option (List Char)) (assigned : List Assignment) (name : List Char) :
    Option (List Char) :=
  (outer name).or (assigned.lookup name)

/-- The assignments in lines, added to those above them. -/
def assignments (outer : List Char → Option (List Char)) (above : List Assignment) :
    List (Option (List Char)) → List Assignment
  | [] | none :: _ => above
  | some line :: rest =>
    match assignment? (fun name => (found (held outer above) name).getD []) line with
    | none => above
    | some none => assignments outer above rest
    | some (some a) => assignments outer (above ++ [a]) rest

/-- The assignments in a file, in their order. -/
def ofContent (outer : List Char → Option (List Char)) (content : ByteArray) : List Assignment :=
  assignments outer [] (joined [] .complete (textLines content))

end AnnotatedEntity.VariableFile
