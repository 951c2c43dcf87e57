/-
Readers: each one takes something from the front of a text, or fails. A reader that fails takes
nothing, so another one can be tried in its place.
-/

namespace AnnotatedEntity.Text

/-- Takes a result from the front of a text. -/
abbrev Reader := StateT (List Char) Option

namespace Reader

variable {α β : Type}

/-- One character of a class. -/
def satisfy (p : Char → Bool) : Reader Char
  | [] => none
  | c :: rest => if p c then some (c, rest) else none

def char (c : Char) : Reader Char := satisfy (· == c)

/-- This very text. -/
def literal (s : String) : Reader Unit := s.toList.forM fun c => do let _ ← char c

/-- As many characters of a class as there are, perhaps none. -/
def span (p : Char → Bool) : Reader (List Char) := fun s => some (s.takeWhile p, s.dropWhile p)

/-- Some characters of a class, as many as there are. -/
def someSpan (p : Char → Bool) : Reader (List Char) := do
  let cs ← span p
  guard (!cs.isEmpty)
  return cs

def endOfText : Reader Unit := fun s => if s.isEmpty then some ((), s) else none

/-- What the reader takes, if it does not fail. -/
def optionally (r : Reader α) : Reader (Option α) := (some <$> r) <|> pure none

/-- The results of a reader again and again, until it fails or takes nothing. -/
def many (r : Reader α) (s : List Char) : Option (List α × List Char) :=
  match r s with
  | none => some ([], s)
  | some (a, rest) =>
    if rest.length < s.length then (many r rest).map fun (as, rest) => (a :: as, rest)
    else some ([], s)
termination_by s.length

/-- One result or more, between which the separator stands. -/
def separated (separator : Reader β) (r : Reader α) : Reader (List α) := do
  let first ← r
  let others ← many do
    let _ ← separator
    r
  return first :: others

/-- The whole text, if a reader takes all of it. -/
def whole (r : Reader α) (s : List Char) : Option α :=
  match r s with
  | some (a, []) => some a
  | _ => none

end Reader

end AnnotatedEntity.Text
