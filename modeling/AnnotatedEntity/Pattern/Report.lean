/-
How a fault in a pattern is told: the lines of the pattern, below each one the marks of what is wrong
in it, and then in words what that is.
-/
import AnnotatedEntity.Pattern.Fault
import AnnotatedEntity.Text.Lines

namespace AnnotatedEntity.Pattern

/-! ## Marks -/

def Position.isBefore (p q : Position) : Bool :=
  p.line < q.line || p.line = q.line && p.column < q.column

def Span.isBefore (a b : Span) : Bool :=
  a.first.isBefore b.first || a.first = b.first && a.last.isBefore b.last

/-- All that is marked, in the order of the text. -/
def Fault.spans (f : Fault) : List Span :=
  match f.flaw.first? with
  | none => [f.span]
  | some s => if f.span.isBefore s then [f.span, s] else [s, f.span]

def blanks (n : Nat) : List Char := List.replicate n ' '

/-- The marks of spans below their line, behind so many columns. -/
def marks (column : Nat) : List Span → List Char
  | [] => []
  | s :: rest =>
    let gap := s.first.column - 1 - column
    blanks gap ++ List.replicate s.width '^' ++ marks (column + gap + s.width) rest

/-! ## Lines -/

/-- How wide the numbers of lines are. They are left out where there is one line only. -/
def numberWidth (pattern : List Char) : Nat :=
  let count := (Text.lines pattern).length + if pattern.getLast? = some '\n' then 1 else 0
  if count ≤ 1 then 0 else (toString count).length

/-- What stands in front of a line. -/
def margin (width line : Nat) : List Char :=
  if width = 0 then blanks 4
  else
    let number := (toString line).toList
    blanks (width - number.length) ++ number ++ [':', ' ']

/-- A line, and below it its marks if there are some. -/
def markedLine (width : Nat) (spans : List Span) (line : Nat) (text : List Char) :
    List (List Char) :=
  let here := spans.filter fun s => s.isOnOneLine && s.first.line = line
  let front := margin width line
  (front ++ text) :: if here.isEmpty then [] else [blanks front.length ++ marks 0 here]

def markedLines (width : Nat) (spans : List Span) (line : Nat) :
    List (List Char) → List (List Char)
  | [] => []
  | text :: rest => markedLine width spans line text ++ markedLines width spans (line + 1) rest

/-- What is told of something that goes on over several lines. -/
def distance (s : Span) : List Char :=
  let place (p : Position) (column : Nat) : String :=
    "line " ++ toString p.line ++ " (column " ++ toString column ++ ")"
  ("on " ++ place s.first s.first.column ++ " through "
    ++ place s.last (s.last.column - 1)).toList

/-! ## Reports -/

/-- The lines that tell of a fault. In a pattern of several lines these stand between two rules. -/
def Fault.report (f : Fault) (pattern : List Char) : List (List Char) :=
  let shown := markedLines (numberWidth pattern) f.spans 1 (Text.lines pattern)
  let message := ("error: " ++ f.flaw.message).toList
  let body :=
    if pattern.contains '\n' then
      let rule := List.replicate 79 '~'
      [rule] ++ shown ++ [rule] ++ (f.spans.filter (!·.isOnOneLine)).map distance
    else shown
  ["regex parse error:".toList] ++ body ++ [message]

end AnnotatedEntity.Pattern
