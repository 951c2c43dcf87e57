/-
What a backslash and the characters behind it stand for.
-/
import AnnotatedEntity.Pattern.Scan
import AnnotatedEntity.Pattern.Tree
import AnnotatedEntity.Text.Integer

namespace AnnotatedEntity.Pattern.Grammar

open Scan

/-! ## Characters by their numbers -/

def isHexDigit (c : Char) : Bool := Text.isDigitOf 16 c

/-- This many hexadecimal digits. -/
def hexDigits : Nat → Scan (List Char)
  | 0 => return []
  | n + 1 => do
    match ← peek with
    | none => fail .openEscape (← here)
    | some c =>
      if isHexDigit c then
        step
        return c :: (← hexDigits n)
      else fail .badHexDigit (← charSpan)

/-- The character of a number in hexadecimal digits, which stand in a span. -/
def hexChar (digits : List Char) (span : Span) : Scan Char :=
  match Text.charOfCode (Text.digitsValue 16 digits) with
  | some c => return c
  | none => fail .noCharacter span

/-- A character by its number: two, four or eight digits behind `x`, `u` or `U`, or any number of
them between braces. -/
def numbered (start : Position) (letter : Char) : Scan Literal := do
  step
  match ← peek with
  | none => fail .openEscape (← here)
  | some '\x7b' =>
    let brace ← charSpan
    step
    let digits ← Scan.span isHexDigit step
    match ← peek with
    | none => fail .openEscape (← since brace.first)
    | some '\x7d' =>
      let digitSpan := ⟨brace.last, ← position⟩
      step
      if digits.isEmpty then fail .noHexDigits (← since brace.first)
      let char ← hexChar digits digitSpan
      return { span := ← since start, char }
    | some _ => fail .badHexDigit (← charSpan)
  | some _ =>
    let first ← position
    let width := if letter = 'x' then 2 else if letter = 'u' then 4 else 8
    let digits ← hexDigits width
    let char ← hexChar digits (← since first)
    return { span := ← since start, char, isByte := letter = 'x' }

/-! ## Properties -/

/-- A property by one letter, or by a text between braces. -/
def property : Scan NamedSet := do
  step
  match ← peek with
  | none => fail .openEscape (← here)
  | some '\x7b' =>
    step
    let name ← Scan.span (· != '\x7d') step
    if ← atEnd then fail .openEscape (← here)
    advance
    return .property name
  | some c =>
    if c = '\\' then fail .badProperty (← charSpan)
    step
    return .property [c]

/-! ## Marks -/

def isMarkChar (c : Char) : Bool := c.isAlpha || c = '-'

/-- The mark that a name between braces calls. If no name begins there, nothing is taken. -/
def wordMark? (start : Position) : Scan (Option WordMark) := do
  let before ← get
  step
  match ← peek with
  | none => fail .openWordMarkOrCount (← since start)
  | some c =>
    if !isMarkChar c then
      set before
      return none
    let first ← position
    let name ← Scan.span isMarkChar step
    if (← peek) != some '\x7d' then fail .openWordMark (← since before.position)
    let nameSpan ← since first
    advance
    let called : List (String × WordMark) :=
      [("start", .start), ("end", .stop), ("start-half", .startHalf), ("end-half", .stopHalf)]
    match called.lookup (String.ofList name) with
    | some mark => return some mark
    | none => fail .unknownWordMark nameSpan

/-! ## Single characters -/

/-- Punctuation and control characters of ASCII stand for themselves. -/
def standsForItself (c : Char) : Bool :=
  c.toNat < 0x80 && !c.isAlphanum && c != '<' && c != '>'

def controlChar? (c : Char) : Option Char :=
  [('a', '\x07'), ('f', '\x0c'), ('t', '\t'), ('n', '\n'), ('r', '\r'), ('v', '\x0b')].lookup c

def mark? (c : Char) : Option Mark :=
  let called : List (Char × Mark) :=
    [('A', .textStart), ('z', .textEnd), ('b', .word .edge), ('B', .word .noEdge),
     ('<', .word .start), ('>', .word .stop)]
  called.lookup c

/-- What a character stands for once it has been passed behind a backslash. -/
def escapedChar (start : Position) (c : Char) : Scan Atom := do
  let span ← since start
  if standsForItself c then return .literal { span, char := c }
  match controlChar? c with
  | some char => return .literal { span, char }
  | none =>
    match mark? c with
    | some (.word .edge) =>
      if (← peek) = some '\x7b' then
        match ← wordMark? start with
        | some mark => return .mark (← since start) (.word mark)
        | none => return .mark span (.word .edge)
      else return .mark span (.word .edge)
    | some mark => return .mark span mark
    | none => fail .unknownEscape span

def escape : Scan Atom := do
  let start ← position
  advance
  match ← peek with
  | none => fail .openEscape (← since start)
  | some c =>
    if c.isDigit then fail .backReference ⟨start, (← charSpan).last⟩
    else if c = 'x' || c = 'u' || c = 'U' then return .literal (← numbered start c)
    else if c = 'p' || c = 'P' then
      let name ← property
      return .named (← since start) name
    else
      advance
      match NamedSet.ofLetter? c with
      | some name => return .named (← since start) name
      | none => escapedChar start c

end AnnotatedEntity.Pattern.Grammar
