/-
Raw types as a schema spells them. `com.mysql.rdbms.mysql.datatype.varchar`, `VARCHAR(45)` and
`varchar` are one type: what counts is the last dotted part before the parenthesis, in lower case.
A number that opens the parenthesis is the length.
-/
import AnnotatedEntity.Text.Blank
import AnnotatedEntity.Text.Case
import AnnotatedEntity.Text.Integer

namespace AnnotatedEntity

/-- A raw type taken apart: its normal name, and the length that was given with it. -/
structure RawType where
  name : String
  length : Option Int
deriving Repr, DecidableEq, Inhabited

namespace RawType

/-- The part after the last dot. -/
def lastSegment (s : List Char) : List Char := ((s.splitOn '.').getLast?).getD s

/-- The normal name in the text before the parenthesis. -/
def nameChars (s : List Char) : List Char :=
  Text.lower (Text.trim (lastSegment s))

/-- The length in the text after the parenthesis: the number before the first comma. -/
def argumentLength (s : List Char) : Option Int :=
  let arguments := Text.dropTrailing (· == ')') s
  Text.integer? (Text.trim (arguments.takeWhile (· ≠ ',')))

def ofChars (s : List Char) : RawType :=
  let text := Text.trim s
  { name := String.ofList (nameChars (text.takeWhile (· ≠ '(')))
    length :=
      match text.dropWhile (· ≠ '(') with
      | [] => none
      | _ :: arguments => argumentLength arguments }

/-- Takes a raw type apart. -/
def ofString (s : String) : RawType := ofChars s.toList

end RawType

end AnnotatedEntity
