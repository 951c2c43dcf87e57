/-
Lines of source with an indentation depth. A line takes the depth at which it is written; an empty
line takes none; and the depth never goes below zero. Writing is a sequence of edits, so that what
is to be written can be stated apart from the buffer it is written to.
-/

namespace AnnotatedEntity

structure CodeBuffer where
  /-- Spaces per level of depth. -/
  indentation : Nat := 4
  depth : Nat := 0
  lines : List String := []
deriving Repr, DecidableEq, Inhabited

/-- One thing done to a buffer. -/
inductive Edit where
  | write (line : String)
  | writeIf (condition : Bool) (line : String)
  | writeAll (lines : List String)
  | indent
  | outdent
  | splice (lines : List String)
deriving Repr, DecidableEq, Inhabited

namespace CodeBuffer

/-- An empty buffer at depth zero. -/
def ofIndentation (indentation : Nat) : CodeBuffer := { indentation }

/-- A line as it stands at a depth. -/
def indented (indentation depth : Nat) (line : String) : String :=
  if line = "" then "" else String.ofList (List.replicate (indentation * depth) ' ') ++ line

def write (b : CodeBuffer) (line : String) : CodeBuffer :=
  { b with lines := b.lines ++ [indented b.indentation b.depth line] }

def writeAll (b : CodeBuffer) (lines : List String) : CodeBuffer :=
  { b with lines := b.lines ++ lines.map (indented b.indentation b.depth) }

def apply (b : CodeBuffer) : Edit → CodeBuffer
  | .write line => b.write line
  | .writeIf condition line => if condition then b.write line else b
  | .writeAll lines => b.writeAll lines
  | .indent => { b with depth := b.depth + 1 }
  | .outdent => { b with depth := b.depth - 1 }
  | .splice lines => b.writeAll lines

def applyAll (b : CodeBuffer) (edits : List Edit) : CodeBuffer := edits.foldl apply b

/-- The lines as one text. Each line is ended, unless there is nothing but one empty line. -/
def text (b : CodeBuffer) : String :=
  let joined := "\n".intercalate b.lines
  if joined = "" then "" else joined ++ "\n"

end CodeBuffer

end AnnotatedEntity
