/-
Tests of a place in a text, by the characters that stand before and behind it.
-/

namespace AnnotatedEntity.Pattern

/-- A letter or digit of ASCII, or an underscore. -/
def isWordChar (c : Char) : Bool := c.isAlphanum || c = '_'

/-- How a place can stand to words. -/
inductive WordMark where
  /-- One side belongs to a word and the other one does not. -/
  | edge
  | noEdge
  | start
  | stop
  /-- What stands before belongs to no word. -/
  | startHalf
  /-- What stands behind belongs to no word. -/
  | stopHalf
deriving Repr, DecidableEq, Inhabited

def WordMark.holds (m : WordMark) (before after : Bool) : Bool :=
  match m with
  | edge => before != after
  | noEdge => before == after
  | start => !before && after
  | stop => before && !after
  | startHalf => !before
  | stopHalf => !after

inductive Look where
  | textStart
  | textEnd
  /-- Lines end at a line feed. -/
  | lineStart
  | lineEnd
  /-- Lines end at a line feed, a carriage return or both. There is no place between these two. -/
  | eitherLineStart
  | eitherLineEnd
  | word (mark : WordMark)
  /-- Words are those of Unicode. -/
  | unicodeWord (mark : WordMark)
deriving Repr, DecidableEq, Inhabited

/-- The test of a place. Where letters of Unicode are asked for, only those of ASCII are known. -/
def Look.holds (look : Look) (before after : Option Char) : Bool :=
  match look with
  | textStart => before.isNone
  | textEnd => after.isNone
  | lineStart => before.all (· = '\n')
  | lineEnd => after.all (· = '\n')
  | eitherLineStart => before.all fun c => c = '\n' || c = '\r' && after != some '\n'
  | eitherLineEnd => after.all fun c => c = '\r' || c = '\n' && before != some '\r'
  | word mark | unicodeWord mark => mark.holds (before.any isWordChar) (after.any isWordChar)

/-- At an edge a word starts or stops. -/
theorem WordMark.edge_iff (before after : Bool) :
    edge.holds before after = (start.holds before after || stop.holds before after) := by
  cases before <;> cases after <;> rfl

end AnnotatedEntity.Pattern
