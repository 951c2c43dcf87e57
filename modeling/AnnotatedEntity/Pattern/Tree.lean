/-
Patterns as they are written, part by part, before it is known whether each part can be searched for.
-/
import AnnotatedEntity.Pattern.CharSet
import AnnotatedEntity.Pattern.Fault
import AnnotatedEntity.Pattern.Look

namespace AnnotatedEntity.Pattern

/-! ## Characters -/

structure Literal where
  span : Span
  char : Char
  /-- It is written as the value of a byte. -/
  isByte : Bool := false
deriving Repr, DecidableEq, Inhabited

/-- The sets of ASCII characters that have names. -/
inductive AsciiClass where
  | alnum
  | alpha
  | ascii
  | blank
  | cntrl
  | digit
  | graph
  | lower
  | print
  | punct
  | space
  | upper
  | word
  | xdigit
deriving Repr, DecidableEq, Inhabited

namespace AsciiClass

def all : List (String × AsciiClass) :=
  [("alnum", alnum), ("alpha", alpha), ("ascii", ascii), ("blank", blank), ("cntrl", cntrl),
   ("digit", digit), ("graph", graph), ("lower", lower), ("print", print), ("punct", punct),
   ("space", space), ("upper", upper), ("word", word), ("xdigit", xdigit)]

def ofName? (name : List Char) : Option AsciiClass := all.lookup (String.ofList name)

def chars : AsciiClass → CharSet
  | alnum => [(0x30, 0x39), (0x41, 0x5A), (0x61, 0x7A)]
  | alpha => [(0x41, 0x5A), (0x61, 0x7A)]
  | ascii => [(0x00, 0x7F)]
  | blank => [(0x09, 0x09), (0x20, 0x20)]
  | cntrl => [(0x00, 0x1F), (0x7F, 0x7F)]
  | digit => [(0x30, 0x39)]
  | graph => [(0x21, 0x7E)]
  | lower => [(0x61, 0x7A)]
  | print => [(0x20, 0x7E)]
  | punct => [(0x21, 0x2F), (0x3A, 0x40), (0x5B, 0x60), (0x7B, 0x7E)]
  | space => [(0x09, 0x0D), (0x20, 0x20)]
  | upper => [(0x41, 0x5A)]
  | word => [(0x30, 0x39), (0x41, 0x5A), (0x5F, 0x5F), (0x61, 0x7A)]
  | xdigit => [(0x30, 0x39), (0x41, 0x46), (0x61, 0x66)]

end AsciiClass

/-- A set of characters that is called by a name. -/
inductive NamedSet where
  | ascii (name : AsciiClass) (isNegated : Bool)
  /-- Digits, blanks or word characters by a letter behind a backslash. With Unicode in force those
  of all scripts are meant. -/
  | shorthand (name : AsciiClass) (isNegated : Bool)
  /-- Characters with a property that Unicode gives them. -/
  | property (name : List Char)
deriving Repr, DecidableEq, Inhabited

/-- The set that a letter behind a backslash calls. -/
def NamedSet.ofLetter? (c : Char) : Option NamedSet :=
  let called : List (Char × AsciiClass) := [('d', .digit), ('s', .space), ('w', .word)]
  (called.lookup c.toLower).map fun name => .shorthand name (c != c.toLower)

/-- What is tested of a place. -/
inductive Mark where
  | textStart
  | textEnd
  /-- Lines count only if they are asked for; otherwise the text is one line. -/
  | lineStart
  | lineEnd
  | word (mark : WordMark)
deriving Repr, DecidableEq, Inhabited

/-- What one character stands for, or one behind a backslash. -/
inductive Atom where
  | literal (l : Literal)
  | dot (span : Span)
  | mark (span : Span) (m : Mark)
  | named (span : Span) (name : NamedSet)
deriving Repr, DecidableEq, Inhabited

def Atom.span : Atom → Span
  | literal l => l.span
  | dot s | mark s _ | named s _ => s

/-! ## Sets -/

inductive SetOperation where
  | inter
  | diff
  | symmDiff
deriving Repr, DecidableEq, Inhabited

/-- What stands between brackets. -/
inductive SetTree where
  | empty (span : Span)
  | literal (l : Literal)
  | range (span : Span) (first last : Literal)
  | named (span : Span) (name : NamedSet)
  | bracketed (span : Span) (isNegated : Bool) (inner : SetTree)
  | union (span : Span) (members : List SetTree)
  | operation (span : Span) (op : SetOperation) (left right : SetTree)
deriving Repr, Inhabited

def SetTree.span : SetTree → Span
  | literal l => l.span
  | empty s | range s .. | named s _ | bracketed s .. | union s _ | operation s .. => s

/-! ## Groups -/

/-- What a letter in a group turns on or off from there to the end of the group around it. -/
inductive Mode where
  | caseless
  | multiLine
  | dotTakesAll
  | lazyFirst
  | unicode
  | eitherLineEnd
  | spaced
deriving Repr, DecidableEq, Inhabited

def Mode.ofLetter? : Char → Option Mode
  | 'i' => some .caseless
  | 'm' => some .multiLine
  | 's' => some .dotTakesAll
  | 'U' => some .lazyFirst
  | 'u' => some .unicode
  | 'R' => some .eitherLineEnd
  | 'x' => some .spaced
  | _ => none

/-- Modes that are turned on, and others that are turned off. -/
abbrev ModeChanges := List (Mode × Bool)

inductive Tree where
  | empty (span : Span)
  | atom (a : Atom)
  | set (span : Span) (isNegated : Bool) (inner : SetTree)
  | changes (span : Span) (modes : ModeChanges)
  | group (span : Span) (isCapture : Bool) (modes : ModeChanges) (inner : Tree)
  | times (span : Span) (least : Nat) (most : Option Nat) (inner : Tree)
  | sequence (span : Span) (parts : List Tree)
  | alternation (span : Span) (branches : List Tree)
deriving Repr, Inhabited

def Tree.span : Tree → Span
  | atom a => a.span
  | empty s | set s .. | changes s _ | group s .. | times s .. | sequence s _ | alternation s _ => s

/-! ## Depth -/

mutual

/-- The first part that stands deeper than is allowed. -/
def SetTree.tooDeep? (allowed : Nat) : SetTree → Option Span
  | .bracketed span _ inner =>
    match allowed with
    | 0 => some span
    | n + 1 => inner.tooDeep? n
  | .union span members =>
    match allowed with
    | 0 => some span
    | n + 1 => SetTree.anyTooDeep? n members
  | .operation span _ left right =>
    match allowed with
    | 0 => some span
    | n + 1 => (left.tooDeep? n).or (right.tooDeep? n)
  | _ => none

def SetTree.anyTooDeep? (allowed : Nat) : List SetTree → Option Span
  | [] => none
  | s :: rest => (s.tooDeep? allowed).or (SetTree.anyTooDeep? allowed rest)

end

mutual

/-- The first part that stands deeper than is allowed. -/
def Tree.tooDeep? (allowed : Nat) : Tree → Option Span
  | .set span _ inner =>
    match allowed with
    | 0 => some span
    | n + 1 => inner.tooDeep? n
  | .group span _ _ inner | .times span _ _ inner =>
    match allowed with
    | 0 => some span
    | n + 1 => inner.tooDeep? n
  | .sequence span parts =>
    match allowed with
    | 0 => some span
    | n + 1 => Tree.anyTooDeep? n parts
  | .alternation span branches =>
    match allowed with
    | 0 => some span
    | n + 1 => Tree.anyTooDeep? n branches
  | _ => none

def Tree.anyTooDeep? (allowed : Nat) : List Tree → Option Span
  | [] => none
  | t :: rest => (t.tooDeep? allowed).or (Tree.anyTooDeep? allowed rest)

end

end AnnotatedEntity.Pattern
