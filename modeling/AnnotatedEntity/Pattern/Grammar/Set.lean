/-
Sets of characters between brackets, which may stand in each other.
-/
import AnnotatedEntity.Pattern.Grammar.Escape

namespace AnnotatedEntity.Pattern.Grammar

open Scan

/-! ## What has been read of a set -/

/-- The members behind the last operation, the latest first, and what stands before it. -/
structure SetPart where
  /-- Where the members stand. -/
  span : Span
  members : List SetTree := []
  before : Option (SetOperation × SetTree) := none
deriving Inhabited

namespace SetPart

def add (part : SetPart) (s : SetTree) : SetPart where
  span := ⟨if part.members.isEmpty then s.span.first else part.span.first, s.span.last⟩
  members := s :: part.members
  before := part.before

def memberTree (part : SetPart) : SetTree :=
  match part.members with
  | [] => .empty part.span
  | [s] => s
  | members => .union part.span members.reverse

/-- All that has been read. What stands before an operation is taken together first. -/
def tree (part : SetPart) : SetTree :=
  match part.before with
  | none => part.memberTree
  | some (op, left) =>
    let right := part.memberTree
    .operation (left.span.through right.span) op left right

end SetPart

/-! ## Members -/

/-- A named set of ASCII, if one comes next. -/
def asciiClass? : Scan (Option SetTree) := do
  let start ← position
  match (← get).rest with
  | '[' :: ':' :: rest =>
    let isNegated := rest.head? = some '^'
    let rest := if isNegated then rest.drop 1 else rest
    let name := rest.takeWhile (· != ':')
    match AsciiClass.ofName? name, rest.dropWhile (· != ':') with
    | some c, ':' :: ']' :: _ =>
      advanceBy (name.length + if isNegated then 5 else 4)
      return some (.named (← since start) (.ascii c isNegated))
    | _, _ => return none
  | _ => return none

/-- What the next character stands for in a set, or the one behind it if it is a backslash. -/
def setAtom (c : Char) : Scan Atom := do
  if c = '\\' then escape
  else
    let span ← charSpan
    advance
    return .literal { span, char := c }

def member : Atom → Scan SetTree
  | .literal l => return .literal l
  | .named span name => return .named span name
  | .mark span _ | .dot span => fail .noMember span

def rangeEnd : Atom → Scan Literal
  | .literal l => return l
  | .named span _ | .mark span _ | .dot span => fail .noRangeEnd span

/-- What comes behind the next character. Where blanks count for nothing they are passed over, and a
number sign too, but not the comment that it begins. -/
def behindNext : Scan (Option Char) := do
  let s ← get
  let rest := s.rest.drop 1
  if s.isSpaced then
    match rest.dropWhile Text.isBlank with
    | '#' :: comment => return (comment.dropWhile Text.isBlank).head?
    | rest => return rest.head?
  else return rest.head?

/-- A character, a named set, or all characters from one to another. In a set that is not closed, the
fault lies where it was opened. -/
def memberOrRange (opening : Span) (c : Char) : Scan SetTree := do
  let first ← setAtom c
  skipBlanks
  match ← peek with
  | none => fail .openSet opening
  | some c =>
    let behind ← behindNext
    if c != '-' || behind = some ']' || behind = some '-' then member first
    else
      step
      match ← peek with
      | none => fail .openSet opening
      | some c =>
        let last ← setAtom c
        let span := first.span.through last.span
        let first ← rangeEnd first
        let last ← rangeEnd last
        if last.char < first.char then fail .fallingRange span
        return .range span first last

/-! ## Sets -/

def setOperation? : List Char → Option SetOperation
  | '&' :: '&' :: _ => some .inter
  | '-' :: '-' :: _ => some .diff
  | '~' :: '~' :: _ => some .symmDiff
  | _ => none

/-- The hyphens that stand first. Each one stands for itself. -/
def leadingHyphens (start : Position) : Nat → SetPart → Scan SetPart
  | 0, part => return part
  | n + 1, part => do
    if (← peek) = some '-' then
      let span ← charSpan
      step
      if ← atEnd then fail .openSet (.point start)
      leadingHyphens start n (part.add (.literal { span, char := '-' }))
    else return part

/-- What opens a set: the bracket, perhaps a caret, and the characters that stand for themselves
only there. -/
structure SetOpening where
  span : Span
  isNegated : Bool
  part : SetPart

def setOpening : Scan SetOpening := do
  let start ← position
  step
  if ← atEnd then fail .openSet (← since start)
  let isNegated := (← peek) = some '^'
  if isNegated then
    step
    if ← atEnd then fail .openSet (← since start)
  let part ← leadingHyphens start (← get).rest.length { span := ← here }
  if part.members.isEmpty && (← peek) = some ']' then
    let span ← charSpan
    step
    if ← atEnd then fail .openSet (← since start)
    return { span := ← since start, isNegated, part := part.add (.literal { span, char := ']' }) }
  else return { span := ← since start, isNegated, part }

/-- What is left of an open set, up to the bracket that closes it. A member takes a character at
least, so there are no more of them than the given number if it is not less than what is left. -/
def setRest (opening : Span) : Nat → SetPart → Scan SetTree
  | 0, _ => fail .openSet opening
  | n + 1, part => do
    skipBlanks
    match ← peek with
    | none => fail .openSet opening
    | some ']' =>
      advance
      return part.tree
    | some '[' =>
      match ← asciiClass? with
      | some s => setRest opening n (part.add s)
      | none =>
        let inner ← setOpening
        let content ← setRest inner.span n inner.part
        let span ← since inner.span.first
        setRest opening n (part.add (.bracketed span inner.isNegated content))
    | some c =>
      match setOperation? (← get).rest with
      | some op =>
        advanceBy 2
        setRest opening n { span := ← here, before := some (op, part.tree) }
      | none => setRest opening n (part.add (← memberOrRange opening c))

/-- A set, from its bracket on. -/
def bracketedSet : Scan Tree := do
  let opening ← setOpening
  let content ← setRest opening.span ((← get).rest.length + 1) opening.part
  return .set (← since opening.span.first) opening.isNegated content

end AnnotatedEntity.Pattern.Grammar
