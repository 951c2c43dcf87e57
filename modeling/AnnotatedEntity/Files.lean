/-
Files as they are read: by path, as bytes or as text.
-/

namespace AnnotatedEntity

inductive ReadFailure where
  | notFound
  | notDirectory
  | isDirectory
  | denied
  | notText
deriving Repr, DecidableEq, Inhabited

def ReadFailure.message : ReadFailure → String
  | notFound => "No such file or directory (os error 2)"
  | notDirectory => "Not a directory (os error 20)"
  | isDirectory => "Is a directory (os error 21)"
  | denied => "Permission denied (os error 13)"
  | notText => "stream did not contain valid UTF-8"

/-- What reading a path gives. -/
abbrev Files := String → Except ReadFailure ByteArray

namespace Files

/-- The path leads to a regular file. -/
def isFile (files : Files) (path : String) : Bool := (files path).isOk

/-- The characters of a file in UTF-8. -/
def text (files : Files) (path : String) : Except ReadFailure (List Char) := do
  match String.fromUTF8? (← files path) with
  | some s => return s.toList
  | none => .error .notText

end Files

end AnnotatedEntity
