/-
What can be wrong with a written pattern. Some faults lie in how it is written, the others in what it
asks for: the text that is searched is Unicode, but there are no tables of Unicode classes here, and
no letters but those of ASCII have a small and a capital form.
-/
import AnnotatedEntity.Pattern.Span

namespace AnnotatedEntity.Pattern

/-- Groups and sets can stand in each other this deep. -/
def deepest : Nat := 250

inductive Flaw where
  | tooDeep
  -- groups
  | openGroup
  | closesNoGroup
  | emptyName
  | badNameChar
  | openName
  | secondName (first : Span)
  | lookAround
  -- modes
  | unknownMode
  | secondMode (first : Span)
  | secondNegation (first : Span)
  | danglingNegation
  | openModes
  -- repetitions
  | nothingToRepeat
  | openCount
  | noNumber
  | hugeNumber
  | fallingCount
  -- characters behind a backslash
  | openEscape
  | unknownEscape
  | backReference
  | noHexDigits
  | badHexDigit
  | noCharacter
  | badProperty
  | openWordMark
  | openWordMarkOrCount
  | unknownWordMark
  -- sets
  | openSet
  | noMember
  | noRangeEnd
  | fallingRange
  -- what is asked for
  | brokenEncoding
  | notAscii
  | unknownShorthand
  | unknownProperty
  | unknownPropertyValue
  | noUnicodeCase
deriving Repr, DecidableEq, Inhabited

def Flaw.message : Flaw → String
  | tooDeep =>
    "exceed the maximum number of nested parentheses/brackets (" ++ toString deepest ++ ")"
  | openGroup => "unclosed group"
  | closesNoGroup => "unopened group"
  | emptyName => "empty capture group name"
  | badNameChar => "invalid capture group character"
  | openName => "unclosed capture group name"
  | secondName _ => "duplicate capture group name"
  | lookAround => "look-around, including look-ahead and look-behind, is not supported"
  | unknownMode => "unrecognized flag"
  | secondMode _ => "duplicate flag"
  | secondNegation _ => "flag negation operator repeated"
  | danglingNegation => "dangling flag negation operator"
  | openModes => "expected flag but got end of regex"
  | nothingToRepeat => "repetition operator missing expression"
  | openCount => "unclosed counted repetition"
  | noNumber => "repetition quantifier expects a valid decimal"
  | hugeNumber => "decimal literal invalid"
  | fallingCount => "invalid repetition count range, the start must be <= the end"
  | openEscape => "incomplete escape sequence, reached end of pattern prematurely"
  | unknownEscape => "unrecognized escape sequence"
  | backReference => "backreferences are not supported"
  | noHexDigits => "hexadecimal literal empty"
  | badHexDigit => "invalid hexadecimal digit"
  | noCharacter => "hexadecimal literal is not a Unicode scalar value"
  | badProperty => "invalid Unicode character class"
  | openWordMark =>
    "special word boundary assertion is either unclosed or contains an invalid character"
  | openWordMarkOrCount =>
    "found either the beginning of a special word boundary or a bounded repetition on a \\b "
      ++ "with an opening brace, but no closing brace"
  | unknownWordMark =>
    "unrecognized special word boundary assertion, valid choices are: start, end, start-half or "
      ++ "end-half"
  | openSet => "unclosed character class"
  | noMember => "invalid escape sequence found in character class"
  | noRangeEnd => "invalid range boundary, must be a literal"
  | fallingRange => "invalid character class range, the start must be <= the end"
  | brokenEncoding => "pattern can match invalid UTF-8"
  | notAscii => "Unicode not allowed here"
  | unknownShorthand =>
    "Unicode-aware Perl class not found (make sure the unicode-perl feature is enabled)"
  | unknownProperty => "Unicode property not found"
  | unknownPropertyValue => "Unicode property value not found"
  | noUnicodeCase =>
    "Unicode-aware case insensitivity matching is not available (make sure the unicode-case "
      ++ "feature is enabled)"

/-- Where something else stands that a flaw goes back to. -/
def Flaw.first? : Flaw → Option Span
  | secondName s | secondMode s | secondNegation s => some s
  | _ => none

structure Fault where
  flaw : Flaw
  span : Span
deriving Repr, DecidableEq, Inhabited

end AnnotatedEntity.Pattern
