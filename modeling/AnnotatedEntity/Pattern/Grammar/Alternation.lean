/-
Whole patterns: alternatives, each of which is a sequence of parts, and groups of them.
-/
import AnnotatedEntity.Pattern.Grammar.Group
import AnnotatedEntity.Pattern.Grammar.Repetition
import AnnotatedEntity.Pattern.Grammar.Set

namespace AnnotatedEntity.Pattern

namespace Grammar

open Scan

/-! ## What has been read of a group -/

/-- What has been read of a group or of a whole pattern, each time the latest first. -/
structure Branches where
  /-- Where all begins. -/
  start : Position
  earlier : List Tree := []
  /-- Where the branch begins that is being read. -/
  branchStart : Position
  parts : List Tree := []
deriving Inhabited

namespace Branches

def startingAt (p : Position) : Branches := { start := p, branchStart := p }

def add (b : Branches) (t : Tree) : Branches := { b with parts := t :: b.parts }

/-- The branch that is being read, if it ends here. -/
def branch (b : Branches) (stop : Position) : Tree :=
  match b.parts with
  | [] => .empty ⟨b.branchStart, stop⟩
  | [t] => t
  | parts => .sequence ⟨b.branchStart, stop⟩ parts.reverse

/-- All that has been read, if it ends here. -/
def tree (b : Branches) (stop : Position) : Tree :=
  match b.earlier with
  | [] => b.branch stop
  | earlier => .alternation ⟨b.start, stop⟩ (b.branch stop :: earlier).reverse

end Branches

/-- A count bears on the last part, which has to be there and must not be a change of modes. -/
def repeated (b : Branches) (count : Scan Count) : Scan Branches := do
  match b.parts with
  | [] | .changes .. :: _ => fail .nothingToRepeat (← here)
  | t :: earlier =>
    let c ← count
    let part := .times ⟨t.span.first, ← position⟩ c.least c.most t
    return { b with parts := part :: earlier }

/-- What the next character stands for, or the one behind it if it is a backslash. -/
def atom (c : Char) : Scan Atom := do
  if c = '\\' then escape
  else
    let span ← charSpan
    advance
    match c with
    | '^' => return .mark span .lineStart
    | '$' => return .mark span .lineEnd
    | '.' => return .dot span
    | c => return .literal { span, char := c }

def setSpaced (isSpaced : Bool) : Scan Unit := modify fun s => { s with isSpaced }

/-! ## Groups and patterns -/

/-- What is left of an open group, or of a pattern if no group is open, without the parenthesis that
closes it. A part takes a character at least, so there are no more parts than the given number if it
is not less than what is left. -/
def groupRest (opening : Option Span) : Nat → Branches → Scan Tree
  | 0, b => return b.tree (← position)
  | n + 1, b => do
    skipBlanks
    match ← peek with
    | none =>
      match opening with
      | some parenthesis => fail .openGroup parenthesis
      | none => return b.tree (← position)
    | some ')' =>
      if opening.isNone then fail .closesNoGroup (← charSpan)
      return b.tree (← position)
    | some '|' =>
      let branch := b.branch (← position)
      advance
      groupRest opening n
        { b with earlier := branch :: b.earlier, branchStart := ← position, parts := [] }
    | some '(' =>
      let parenthesis ← charSpan
      let isSpaced := (← get).isSpaced
      match ← groupOpening with
      | .changes modes =>
        setSpaced ((modes.lookup .spaced).getD isSpaced)
        let t := .changes (← since parenthesis.first) modes
        groupRest opening n (b.add t)
      | .group isCapture modes =>
        setSpaced ((modes.lookup .spaced).getD isSpaced)
        let inner ← groupRest (some parenthesis) n (.startingAt (← position))
        setSpaced isSpaced
        advance
        let t := .group (← since parenthesis.first) isCapture modes inner
        groupRest opening n (b.add t)
    | some '[' =>
      let t ← bracketedSet
      groupRest opening n (b.add t)
    | some c =>
      match count? c with
      | some count => groupRest opening n (← repeated b count)
      | none =>
        let a ← atom c
        groupRest opening n (b.add (.atom a))

end Grammar

/-- The parts of a written pattern. -/
def Tree.ofText (s : List Char) : Except Fault Tree := do
  let start : Reading := { rest := s }
  let whole := Grammar.groupRest none (s.length + 1) (.startingAt start.position)
  let (t, _) ← whole.run start
  match t.tooDeep? deepest with
  | some span => throw ⟨.tooDeep, span⟩
  | none => return t

end AnnotatedEntity.Pattern
