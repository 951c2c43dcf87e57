/-
Texts between double quotes, as diagnostics show them: what would not show on its own is escaped.
-/
import AnnotatedEntity.Text.CodePoint
import AnnotatedEntity.Text.UnseenTable

namespace AnnotatedEntity.Text

/-- The letter that stands for a character after a backslash. -/
def escapeLetter? (c : Char) : Option Char :=
  if c = '\x00' then some '0'
  else if c = '\t' then some 't'
  else if c = '\r' then some 'r'
  else if c = '\n' then some 'n'
  else if c = '\\' || c = '\x22' then some c
  else none

/-- A character inside the quotes: itself, an escape letter, or its code point in braces. -/
def quotedChar (c : Char) : List Char :=
  match escapeLetter? c with
  | some letter => ['\\', letter]
  | none =>
    if within unseenRanges c then
      ['\\', 'u', '\x7b'] ++ Nat.toDigits 16 c.toNat ++ ['\x7d']
    else [c]

def quoted (s : String) : String :=
  "\"" ++ String.ofList (s.toList.flatMap quotedChar) ++ "\""

end AnnotatedEntity.Text
