/-
Texts between quotes, on one line or on several, with and without escapes; and names.
-/
import AnnotatedEntity.Text.CodePoint
import AnnotatedEntity.Text.Integer
import AnnotatedEntity.Toml.Grammar.Space

namespace AnnotatedEntity.Toml.Grammar

open Text (Reader)

open Text.Reader

/-! ## Characters -/

/-- A code point in this many hexadecimal digits. -/
def codePoint (width : Nat) : Reader Char := do
  let digits ← (List.replicate width ()).mapM fun _ => satisfy (Text.isDigitOf 16)
  match Text.charOfCode (Text.digitsValue 16 digits) with
  | some c => return c
  | none => failure

/-- What a backslash makes of the character after it. -/
def escaped : Reader Char := do
  let _ ← char '\\'
  match ← satisfy fun _ => true with
  | 'b' => return '\x08'
  | 't' => return '\t'
  | 'n' => return '\n'
  | 'f' => return '\x0c'
  | 'r' => return '\r'
  | '"' => return '"'
  | '\\' => return '\\'
  | 'u' => codePoint 4
  | 'U' => codePoint 8
  | _ => failure

def isBasicChar (c : Char) : Bool := isPrintable c && c ≠ '"' && c ≠ '\\'

/-- Characters between double quotes: some that stand for themselves, or one that is escaped. -/
def basicPart : Reader (List Char) := someSpan isBasicChar <|> (do return [← escaped])

/-- The characters between apostrophes, where a backslash is like any other. -/
def isLiteralChar (c : Char) : Bool := isPrintable c && c ≠ '\''

/-! ## On one line -/

def basicString : Reader (List Char) := do
  let _ ← char '"'
  let parts ← many basicPart
  let _ ← char '"'
  return parts.flatten

def literalString : Reader (List Char) := do
  let _ ← char '\''
  let cs ← span isLiteralChar
  let _ ← char '\''
  return cs

/-! ## On several lines -/

/-- A backslash at the end of a line takes away the line end, and all blanks and line ends after
it. -/
def foldedLines : Reader Unit := do
  let _ ← char '\\'
  blanks
  newline
  blanks
  let _ ← many do
    newline
    blanks

/-- One or two quotes inside a text that three of them close. -/
def fewQuotes (quote : Char) : Reader (List Char) := do
  let quotes ← someSpan (· == quote)
  guard (quotes.length ≤ 2)
  return quotes

/-- The three quotes that close a text, and up to two more in front, which belong to it. -/
def closingQuotes (quote : Char) : Reader (List Char) := do
  let quotes ← span (· == quote)
  guard (3 ≤ quotes.length && quotes.length ≤ 5)
  return quotes.drop 3

/-- A text between three quotes. A line end right after the first three is not part of it. -/
def longString (quote : Char) (part : Reader (List Char)) : Reader (List Char) := do
  literal (String.ofList (List.replicate 3 quote))
  let _ ← optionally newline
  let parts ← many (part <|> (do newline; return ['\n']) <|> fewQuotes quote)
  let last ← closingQuotes quote
  return parts.flatten ++ last

def longBasicString : Reader (List Char) :=
  longString '"' ((do foldedLines; return []) <|> basicPart)

def longLiteralString : Reader (List Char) := longString '\'' (someSpan isLiteralChar)

/-! ## Texts and names -/

def string : Reader String :=
  String.ofList <$> (longBasicString <|> basicString <|> longLiteralString <|> literalString)

def isBareKeyChar (c : Char) : Bool := c.isAlphanum || c == '_' || c == '-'

def simpleKey : Reader String :=
  String.ofList <$> (basicString <|> literalString <|> someSpan isBareKeyChar)

/-- Names with dots between them, fewer than eighty. Blanks may stand around each name. -/
def dottedKey : Reader (List String) := do
  let keys ← separated (char '.') do
    blanks
    let key ← simpleKey
    blanks
    return key
  guard (keys.length < 80)
  return keys

end AnnotatedEntity.Toml.Grammar
