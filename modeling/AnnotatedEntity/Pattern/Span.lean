/-
Where something stands in a written pattern.
-/

namespace AnnotatedEntity.Pattern

/-- A place between two characters. Lines and columns are counted from one. -/
structure Position where
  line : Nat := 1
  column : Nat := 1
deriving Repr, DecidableEq, Inhabited

/-- The place behind a character that stands here. -/
def Position.after (p : Position) (c : Char) : Position :=
  if c = '\n' then ⟨p.line + 1, 1⟩ else ⟨p.line, p.column + 1⟩

/-- What stands between two places. -/
structure Span where
  first : Position
  last : Position
deriving Repr, DecidableEq, Inhabited

namespace Span

/-- Nothing, at a place. -/
def point (p : Position) : Span := ⟨p, p⟩

/-- From where the one begins to where the other ends. -/
def through (a b : Span) : Span := ⟨a.first, b.last⟩

def isOnOneLine (s : Span) : Bool := s.first.line == s.last.line

/-- How many columns are marked. Nothing is marked by one, too. -/
def width (s : Span) : Nat := max 1 (s.last.column - s.first.column)

end Span

end AnnotatedEntity.Pattern
