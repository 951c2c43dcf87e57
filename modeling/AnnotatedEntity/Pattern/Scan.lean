/-
Reading a pattern from its front: what is left, where that stands, and what has been said so far
that bears on it. A fault ends the reading.
-/
import AnnotatedEntity.Pattern.Fault
import AnnotatedEntity.Text.Blank

namespace AnnotatedEntity.Pattern

structure Reading where
  position : Position := {}
  rest : List Char
  /-- Blanks and comments count for nothing. -/
  isSpaced : Bool := false
  /-- The names of groups, and where they stand. -/
  names : List (List Char × Span) := []
deriving Repr, DecidableEq, Inhabited

/-- Takes a result from the front of a pattern, or finds a fault. -/
abbrev Scan := StateT Reading (Except Fault)

/-- What is left behind blanks and comments. A comment ends with its line. -/
def pastBlanks (inComment : Bool) (p : Position) : List Char → Position × List Char
  | [] => (p, [])
  | c :: rest =>
    if inComment then pastBlanks (c != '\n') (p.after c) rest
    else if Text.isBlank c then pastBlanks false (p.after c) rest
    else if c = '#' then pastBlanks true (p.after c) rest
    else (p, c :: rest)

namespace Scan

variable {α : Type}

def fail (flaw : Flaw) (span : Span) : Scan α := throw ⟨flaw, span⟩

def position : Scan Position := return (← get).position

/-- The span from a place to here. -/
def since (start : Position) : Scan Span := return ⟨start, ← position⟩

def here : Scan Span := return .point (← position)

def peek : Scan (Option Char) := return (← get).rest.head?

def atEnd : Scan Bool := return (← get).rest.isEmpty

/-- The span of the next character. -/
def charSpan : Scan Span := do
  let s ← get
  return ⟨s.position, (s.rest.head?.map s.position.after).getD s.position⟩

def advance : Scan Unit :=
  modify fun s =>
    match s.rest with
    | [] => s
    | c :: rest => { s with position := s.position.after c, rest }

def advanceBy : Nat → Scan Unit
  | 0 => pure ()
  | n + 1 => do
    advance
    advanceBy n

/-- Passes over blanks and comments where they count for nothing. -/
def skipBlanks : Scan Unit :=
  modify fun s =>
    if s.isSpaced then
      let (position, rest) := pastBlanks false s.position s.rest
      { s with position, rest }
    else s

/-- One character, and what counts for nothing behind it. -/
def step : Scan Unit := do
  advance
  skipBlanks

/-- Passes over a text if it comes next. -/
def accept (text : String) : Scan Bool := do
  if text.toList.isPrefixOf (← get).rest then
    advanceBy text.length
    return true
  else return false

def acceptAny : List String → Scan Bool
  | [] => return false
  | text :: others => do
    if ← accept text then return true
    acceptAny others

/-- The characters of a class, up to a number of them. Each one is left by a move of its own. -/
def upTo (p : Char → Bool) (move : Scan Unit) : Nat → Scan (List Char)
  | 0 => return []
  | n + 1 => do
    match ← peek with
    | none => return []
    | some c =>
      if p c then
        move
        return c :: (← upTo p move n)
      else return []

/-- As many characters of a class as there are. -/
def span (p : Char → Bool) (move : Scan Unit) : Scan (List Char) := do
  upTo p move (← get).rest.length

end Scan

end AnnotatedEntity.Pattern
