/-
Blank characters (the 25 that Unicode calls white space) and the trimming of texts at their ends.
-/
import AnnotatedEntity.Text.CodePoint

namespace AnnotatedEntity.Text

def blankRanges : List (Nat × Nat) :=
  [(0x09, 0x0D), (0x20, 0x20), (0x85, 0x85), (0xA0, 0xA0), (0x1680, 0x1680), (0x2000, 0x200A),
   (0x2028, 0x2029), (0x202F, 0x202F), (0x205F, 0x205F), (0x3000, 0x3000)]

def isBlank (c : Char) : Bool := within blankRanges c

/-! ## Trimming by any test -/

/-- What is left once the characters that pass the test are dropped from the end. -/
def dropTrailing (p : Char → Bool) (s : List Char) : List Char :=
  (s.reverse.dropWhile p).reverse

/-- What is left once the characters that pass the test are dropped from both ends. -/
def stripBoth (p : Char → Bool) (s : List Char) : List Char :=
  dropTrailing p (s.dropWhile p)

/-! ## Trimming blanks -/

def trimStart (s : List Char) : List Char := s.dropWhile isBlank

def trimEnd (s : List Char) : List Char := dropTrailing isBlank s

def trim (s : List Char) : List Char := stripBoth isBlank s

/-- A function on characters, as one on strings. -/
def onString (f : List Char → List Char) (s : String) : String := String.ofList (f s.toList)

@[simp] theorem toList_onString (f : List Char → List Char) (s : String) :
    (onString f s).toList = f s.toList := by
  simp [onString]

end AnnotatedEntity.Text
