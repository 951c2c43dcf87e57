/-
What stands between the parts of a document: blanks, line ends and comments.
-/
import AnnotatedEntity.Text.Reader

namespace AnnotatedEntity.Toml.Grammar

open Text (Reader)

open Text.Reader

/-- A line end, with or without a carriage return. A lone carriage return is none. -/
def newline : Reader Unit := literal "\n" <|> literal "\r\n"

def isBlank (c : Char) : Bool := c == ' ' || c == '\t'

def blanks : Reader Unit := do let _ ← span isBlank

/-- All but the control characters. A tab is none of them. -/
def isPrintable (c : Char) : Bool := c == '\t' || (' ' ≤ c && c ≤ '~') || '\x80' ≤ c

def comment : Reader Unit := do
  let _ ← char '#'
  let _ ← span isPrintable

/-- The rest of a line that holds nothing more. -/
def lineRest : Reader Unit := do
  blanks
  let _ ← optionally comment
  newline <|> endOfText

/-- Blanks, line ends and comments, as between the items of a list. -/
def spaces : Reader Unit := do
  blanks
  let _ ← many do
    let _ ← optionally comment
    newline
    blanks

end AnnotatedEntity.Toml.Grammar
